import DoughAnalyzer.Proofs.Update.Download

set_option autoImplicit false

namespace DoughAnalyzer.Update.Session

namespace Download

def patience (d : Download) (timing : Timing) : Nat :=
  if d.taken = [] then timing.initialTimeout else timing.stallTimeout

def overdue (d : Download) : UpdateError :=
  if d.taken = [] then .noChunksReceived else .stalled

/-- Whether a chunk or a poll keeps the windows of a download. The first chunk has the initial one
from the announcement on, a later chunk the one that counts from the chunk before or the last
reconnection, and octets the one that counts from the octets before. A poll keeps them while what is
awaited is not overdue. -/
def keeps (d : Download) (timing : Timing) : Input → Bool
  | .call (.chunk c now) =>
    (if d.taken = [] then now ≤ d.begunAt + timing.initialTimeout
      else now ≤ d.heardAt + timing.chunkTimeout) &&
      (c.payload = [] || now ≤ d.advancedAt + timing.stallTimeout)
  | .call (.poll now) => now ≤ d.advancedAt + d.patience timing
  | .call (.start ..) | .call (.abort _) | .call .reset | .call (.reconnect _) | .fault _ => true

end Download

theorem Clocked.timeFault?_eq {s : Session} {d : Download} (h : s.Clocked d) (now : Nat) :
    s.timeFault? now =
      if d.advancedAt + d.patience s.timing < now then some d.overdue else none := by
  unfold timeFault? Download.patience Download.overdue
  by_cases hnone : d.taken = []
  · have hzero : s.chunks = 0 := by simp [h.counted, hnone]
    have hlate : s.timing.initialTimeout < now - s.startedAt ↔
        d.advancedAt + s.timing.initialTimeout < now := by
      rw [d.advancedAt_of_taken_eq_nil hnone, h.begun]
      omega
    simp only [hzero, hnone, if_true, hlate]
  · have hpos : s.chunks ≠ 0 := by simp [h.counted, hnone]
    have hlate : s.timing.stallTimeout < s.idleFor now ↔
        d.advancedAt + s.timing.stallTimeout < now := by
      rw [idleFor, h.advanced]
      omega
    simp only [hpos, hnone, if_false, hlate]

theorem Transition.status_of_poll {s : Session} {now : Nat} {o : Outcome Reply}
    (t : Transition s (.call (.poll now)) o) (still : o.session.status = .downloading) :
    s.status = .downloading ∧ s.timeFault? now = none := by
  cases t with
  | pollIdle now other => exact absurd still other
  | pollQuiet now running timely | pollWarned now running timely => exact ⟨running, timely⟩
  | timedOut | rebooted => cases still

theorem Transition.poll_of_timeFault {s : Session} {now : Nat} {o : Outcome Reply}
    (t : Transition s (.call (.poll now)) o) (running : s.status = .downloading) :
    (s.timeFault? now = none → o.session.status = .downloading) ∧
      ∀ reason, s.timeFault? now = some reason →
        o = ⟨s.ended reason, .poll .idle, s.endEffects reason⟩ := by
  cases t with
  | pollIdle now other => exact absurd running other
  | pollQuiet now _ timely | pollWarned now _ timely =>
    exact ⟨fun _ => running, fun reason hr => by simp [timely] at hr⟩
  | timedOut now r _ why =>
    refine ⟨fun hn => by simp [why] at hn, fun reason hr => ?_⟩
    cases why.symm.trans hr
    rfl
  | rebooted now time complete => simp [running] at complete

/-- A poll leaves a download running if octets came, or the announcement did, no longer ago than its
patience, and only then. It ends the others for want of a first chunk, or for the stall. -/
theorem poll_ends_only_silence (capacity : Nat) (timing : Timing) (history : List Input)
    (now : Nat) :
    let first := fresh capacity timing
    let s := first.after history
    let o := s.take (.call (.poll now))
    (o.session.status = .downloading ↔ s.status = .downloading ∧
      ∃ d, Download.ofRecord (first.record history) = some d ∧
        now ≤ d.advancedAt + d.patience timing) ∧
    (s.status = .downloading → o.session.status ≠ .downloading →
      ∃ d, Download.ofRecord (first.record history) = some d ∧
        d.advancedAt + d.patience timing < now ∧
        o.session.status = .error ∧ o.session.lastError = some d.overdue ∧
        notices o.effects = [.error d.overdue s.progress]) := by
  intro first s o
  have hs : s.Settled := (settled_after_fresh capacity timing history).1
  have htiming : s.timing = timing := timing_after (.fresh capacity timing) history
  have t : Transition s (.call (.poll now)) o := take_transition hs _
  have fault (running : s.status = .downloading) :
      ∃ d, Download.ofRecord (first.record history) = some d ∧
        s.timeFault? now =
          if d.advancedAt + d.patience timing < now then some d.overdue else none := by
    obtain ⟨d, hd, hclocked⟩ := tracks_after_fresh capacity timing history running
    exact ⟨d, hd, htiming ▸ hclocked.timeFault?_eq now⟩
  refine ⟨⟨fun still => ?_, fun ⟨running, d, hd, htime⟩ => ?_⟩, fun running gone => ?_⟩
  · obtain ⟨running, timely⟩ := t.status_of_poll still
    obtain ⟨d, hd, heq⟩ := fault running
    refine ⟨running, d, hd, Nat.le_of_not_lt fun late => ?_⟩
    simp [timely, late] at heq
  · obtain ⟨d', hd', heq⟩ := fault running
    cases hd.symm.trans hd'
    exact (t.poll_of_timeFault running).1 (by rw [heq, if_neg (Nat.not_lt_of_le htime)])
  · obtain ⟨d, hd, heq⟩ := fault running
    by_cases late : d.advancedAt + d.patience timing < now
    · have ho := (t.poll_of_timeFault running).2 d.overdue (by rw [heq, if_pos late])
      rw [ho]
      exact ⟨d, hd, late, rfl, rfl, rfl⟩
    · exact absurd ((t.poll_of_timeFault running).1 (by rw [heq, if_neg late])) gone

/-- In a history every chunk and every poll keeps the windows of the download that then runs. -/
def KeepsWindows (first : Session) (history : List Input) : Prop :=
  ∀ before i later, history = before ++ i :: later →
    (first.after before).status = .downloading →
      ∀ d ∈ Download.ofRecord (first.record before), d.keeps first.timing i = true

theorem KeepsWindows.nil (first : Session) : KeepsWindows first [] := by
  intro before i later h
  simp at h

theorem KeepsWindows.append_singleton {first : Session} {x : List Input} {i : Input}
    (h : KeepsWindows first x)
    (hi : (first.after x).status = .downloading →
      ∀ d ∈ Download.ofRecord (first.record x), d.keeps first.timing i = true) :
    KeepsWindows first (x ++ [i]) := by
  intro before j later heq
  rcases List.eq_nil_or_concat later with rfl | ⟨rest, k, rfl⟩
  · obtain ⟨rfl, hj⟩ := List.append_inj' heq rfl
    cases hj
    exact hi
  · rw [List.concat_eq_append, ← List.cons_append, ← List.append_assoc] at heq
    exact h before j rest (List.append_inj' heq rfl).1

theorem chunkFault?_eq_chunkTimeout_iff (s : Session) (w : Store.Writer) (c : Wire.Chunk)
    (now : Nat) :
    s.chunkFault? w c now = some .chunkTimeout ↔ s.timing.chunkTimeout < now - s.lastChunkAt := by
  unfold chunkFault?
  grind

theorem not_timeout_of_chunkFault? {s : Session} {w : Store.Writer} {c : Wire.Chunk} {now : Nat}
    {reason : UpdateError} (h : s.chunkFault? w c now = some reason) :
    reason ≠ .noChunksReceived ∧ reason ≠ .stalled := by
  unfold chunkFault? at h
  grind

theorem not_timeout_of_imageFault? {s : Session} {reason : UpdateError}
    (h : s.imageFault? = some reason) :
    reason ≠ .chunkTimeout ∧ reason ≠ .noChunksReceived ∧ reason ≠ .stalled := by
  unfold imageFault? at h
  grind

theorem Transition.chunk_timeout_iff {s : Session} {c : Wire.Chunk} {now : Nat} {o : Outcome Reply}
    (t : Transition s (.call (.chunk c now)) o) (running : s.status = .downloading) :
    (o.result = .verdict (.error .chunkTimeout) ↔ s.timing.chunkTimeout < now - s.lastChunkAt) ∧
      o.result ≠ .verdict (.error .noChunksReceived) ∧ o.result ≠ .verdict (.error .stalled) := by
  have intime {w : Store.Writer} (sound : s.chunkFault? w c now = none) :
      ¬ s.timing.chunkTimeout < now - s.lastChunkAt := by
    rw [← chunkFault?_eq_chunkTimeout_iff s w c now, sound]
    simp
  cases t with
  | chunkUnexpected c now other => exact absurd running other
  | chunkFailed c now w reason checksum remarks _ holds why =>
    rw [← chunkFault?_eq_chunkTimeout_iff s w c now, why]
    simpa using not_timeout_of_chunkFault? why
  | chunkTaken c now w _ holds sound => simpa using intime sound
  | imageActivated c now w _ holds sound => simpa using intime sound
  | imageRefused c now w reason remarks _ holds sound whole why =>
    obtain ⟨hchunk, hnone, hstall⟩ := not_timeout_of_imageFault? why
    simpa [hchunk, hnone, hstall] using intime sound

/-- A history that keeps the windows of its downloads meets no time limit but one. A first chunk is
refused if it comes later after the announcement, or the last reconnection since, than two chunks
may lie apart, though the window for the first chunk is still open. -/
theorem only_first_chunk_times_out (capacity : Nat) (timing : Timing) (history : List Input)
    (kept : KeepsWindows (fresh capacity timing) history) :
    let first := fresh capacity timing
    ∀ before i later, history = before ++ i :: later →
      let s := first.after before
      let o := s.take i
      s.status = .downloading →
        ∃ d, Download.ofRecord (first.record before) = some d ∧
          (∀ now, i = .call (.poll now) → o.session.status = .downloading) ∧
          ∀ c now, i = .call (.chunk c now) →
            (o.result = .verdict (.error .chunkTimeout) ↔
              d.taken = [] ∧ d.heardAt + timing.chunkTimeout < now) ∧
            o.result ≠ .verdict (.error .noChunksReceived) ∧
            o.result ≠ .verdict (.error .stalled) := by
  intro first before i later split s o running
  have hs : s.Settled := (settled_after_fresh capacity timing before).1
  have htiming : s.timing = timing := timing_after (.fresh capacity timing) before
  have t : Transition s i o := take_transition hs i
  obtain ⟨d, hd, hclocked⟩ := tracks_after_fresh capacity timing before running
  have hkeeps : d.keeps timing i = true := kept before i later split running d hd
  refine ⟨d, hd, ?_, ?_⟩
  · rintro now rfl
    have intime : ¬ d.advancedAt + d.patience timing < now :=
      Nat.not_lt_of_le (by simpa [Download.keeps] using hkeeps)
    refine (t.poll_of_timeFault running).1 ?_
    rw [hclocked.timeFault?_eq now, htiming, if_neg intime]
  · rintro c now rfl
    obtain ⟨hlate, hother⟩ := t.chunk_timeout_iff running
    refine ⟨hlate.trans ?_, hother⟩
    rw [htiming, hclocked.heard]
    by_cases hnone : d.taken = []
    · simp only [hnone, true_and]
      omega
    · have intime : now ≤ d.heardAt + timing.chunkTimeout := by
        simp only [Download.keeps, hnone, if_false, Bool.and_eq_true, decide_eq_true_eq] at hkeeps
        exact hkeeps.1
      simp only [hnone, false_and, iff_false]
      omega

theorem first_chunk_in_time_after_reconnection :
    let first := fresh 8 (.ofConfig {})
    let announced := Input.call (.start ⟨"2", 2, 0⟩ true 0)
    let back := Input.call (.reconnect 40000)
    let polled := Input.call (.poll 44000)
    let delivered := Input.call (.chunk ⟨0, 1, [7]⟩ 45000)
    KeepsWindows first [announced, back, polled, delivered] ∧
      ((first.after [announced, back]).take polled).session.status = .downloading ∧
      ((first.after [announced, back, polled]).take delivered).result ≠
        .verdict (.error .chunkTimeout) := by
  intro first announced back polled delivered
  have kept : KeepsWindows first [announced, back, polled, delivered] := by
    have h₁ := (KeepsWindows.nil first).append_singleton (i := announced) (by decide +kernel)
    have h₂ := h₁.append_singleton (i := back) (by decide +kernel)
    have h₃ := h₂.append_singleton (i := polled) (by decide +kernel)
    exact h₃.append_singleton (i := delivered) (by decide +kernel)
  have h := only_first_chunk_times_out 8 (.ofConfig {}) _ kept
  obtain ⟨-, -, still, -⟩ := h [announced, back] polled [delivered] rfl (by decide +kernel)
  obtain ⟨d, hd, -, hchunk⟩ := h [announced, back, polled] delivered [] rfl (by decide +kernel)
  have heard : ∀ d ∈ Download.ofRecord (first.record [announced, back, polled]),
      d.heardAt = 40000 := by
    decide +kernel
  refine ⟨kept, still _ rfl, fun late => ?_⟩
  have hlate := ((hchunk _ _ rfl).1.1 late).2
  rw [heard d hd] at hlate
  exact absurd hlate (by decide)

/-- The default settings keep the rules, and give a first chunk one minute. It is refused after
three quarters of one. -/
theorem first_chunk_refused_within_its_window :
    let config : Config := {}
    let first := fresh 8 (.ofConfig config)
    let announced := Input.call (.start ⟨"2", 1, Checksum.ofOctets [7]⟩ true 0)
    let delivered := Input.call (.chunk ⟨0, 1, [7]⟩ 45000)
    config.validate = .ok () ∧ 45000 ≤ config.initialTimeout.toNat ∧
      KeepsWindows first [announced, delivered] ∧
      ((first.after [announced]).take delivered).result = .verdict (.error .chunkTimeout) := by
  intro config first announced delivered
  have h₁ := (KeepsWindows.nil first).append_singleton (i := announced) (by decide +kernel)
  refine ⟨rfl, by decide, h₁.append_singleton (by decide +kernel), ?_⟩
  have hs : (first.after [announced]).Settled := settled_after (.fresh 8 _) _
  have t := take_transition hs delivered
  exact (t.chunk_timeout_iff (by decide +kernel)).1.2 (by decide +kernel)

end DoughAnalyzer.Update.Session
