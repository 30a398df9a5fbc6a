import DoughAnalyzer.Proofs.Update.Invariant

/-!
What an onlooker is told. The notices of a session that nobody resets fall into blocks: an
announcement that is turned down, or an update from its start to its end. Only the last block may be
an update that still runs, and none follows an update that is complete.
-/

set_option autoImplicit false

namespace DoughAnalyzer.Update

namespace Notice

def IsPartial (n : Notice) : Prop := ∃ p ≤ 99, n = .downloading p ∨ n = .resumed p

/-- What is told of an update while it runs: its start, then progress that never falls. -/
def Running (told : List Notice) : Prop :=
  ∃ body, told = .started :: body ∧ (∀ n ∈ body, n.IsPartial) ∧
    (body.map progress).Pairwise (· ≤ ·)

def Completed (told : List Notice) : Prop :=
  ∃ running, Running running ∧ told = running ++ [.downloading 100, .applying, .complete]

/-- What is told of an update that ended without one. The whole image may have arrived before. -/
def Failed (told : List Notice) : Prop :=
  ∃ running whole reason p, Running running ∧ told = running ++ whole ++ [.error reason p] ∧
    (whole = [] ∨
      whole = [.downloading 100] ∧ (reason = .checksumMismatch ∨ reason = .activateFailed)) ∧
    ∀ n ∈ running ++ whole, n.progress ≤ p

theorem running_started : Running [.started] := ⟨[], rfl, by simp, .nil⟩

theorem Running.tell {told : List Notice} {n : Notice} (h : Running told) (hn : n.IsPartial)
    (rises : ∀ m ∈ told, m.progress ≤ n.progress) : Running (told ++ [n]) := by
  obtain ⟨body, rfl, hbody, hsorted⟩ := h
  refine ⟨body ++ [n], rfl, ?_, ?_⟩
  · simp only [List.mem_append, List.mem_singleton]
    rintro m (hm | rfl)
    · exact hbody m hm
    · exact hn
  · rw [List.map_append, List.pairwise_append]
    refine ⟨hsorted, List.pairwise_singleton _ _, ?_⟩
    simp only [List.mem_map, List.map_cons, List.map_nil, List.mem_singleton]
    rintro _ ⟨m, hm, rfl⟩ _ rfl
    exact rises m (List.mem_cons_of_mem _ hm)

theorem Running.fail {told : List Notice} (h : Running told) {p : Nat}
    (reached : ∀ n ∈ told, n.progress ≤ p) (reason : UpdateError) :
    Failed (told ++ [.error reason p]) :=
  ⟨told, [], reason, p, h, by simp, .inl rfl, by simpa using reached⟩

end Notice

namespace Session

structure Told where
  entry : Entry
  notice : Notice

def Entry.told (e : Entry) : List Told := (notices e.outcome.effects).map (.mk e)

def stream (log : List Entry) : List Told := log.flatMap Entry.told

def Entry.Rejects (e : Entry) (reason : UpdateError) : Prop :=
  (∃ a safe now, e.input = .call (.start a safe now)) ∧
    e.outcome.result = .verdict (.error reason)

/-- A block that is finished and leaves room for another. -/
def Closed (block : List Told) : Prop :=
  (∃ e reason, e.Rejects reason ∧ reason ≠ .alreadyInProgress ∧ block = [⟨e, .error reason 0⟩]) ∨
    Notice.Failed (block.map Told.notice)

/-- The last block of the stream, as the session between two inputs has it. -/
def Last (s : Session) (told : List Notice) : Prop :=
  match s.status with
  | .downloading => Notice.Running told ∧ ∀ n ∈ told, n.progress ≤ s.progress
  | .complete | .rebooting => Notice.Completed told
  | .idle | .applying | .error => told = []

def Stands (s : Session) (told : List Told) : Prop :=
  ∃ (blocks : List (List Told)) (last : List Told), told = blocks.flatten ++ last ∧
    (∀ b ∈ blocks, Closed b) ∧ s.Last (last.map Told.notice)

theorem Entry.told_notices (e : Entry) :
    e.told.map Told.notice = notices e.outcome.effects := by
  simp [Entry.told, Function.comp_def]

theorem last_of_running {s : Session} (running : s.status = .downloading) (told : List Notice) :
    s.Last told ↔ Notice.Running told ∧ ∀ n ∈ told, n.progress ≤ s.progress := by
  simp [Last, running]

theorem Settled.last_of_accepts {s : Session} (h : s.Settled) (free : s.acceptsAnnouncement = true)
    (told : List Notice) : s.Last told ↔ told = [] := by
  rcases h.accepts_iff.1 free with hs | hs <;> simp [Last, hs]

theorem progress_told (s : Session) : s.told.progress = s.progress := by
  rw [told_eq]
  rfl

theorem notices_grownEffects (s : Session) (w : Store.Writer) (c : Wire.Chunk) (now : Nat) :
    notices (s.grownEffects w c now) = [] ∧ (s.grown w c now).progress ≠ 100 ∨
      notices (s.grownEffects w c now) = [.downloading (s.grown w c now).progress] := by
  simp only [grownEffects, grown, progress_told, notices_append, notices_map_remark,
    notices_map_notice, List.nil_append, toldNotices]
  split
  · exact .inr rfl
  · rename_i h
    refine .inl ⟨rfl, fun heq => h ?_⟩
    simp [tellsProgress, heq]

theorem received_grown_le {s : Session} {w : Store.Writer} {c : Wire.Chunk} {now : Nat}
    (sound : s.chunkFault? w c now = none) :
    (s.grown w c now).received ≤ (s.grown w c now).total := by
  obtain ⟨-, -, hover, -⟩ := (chunkFault?_eq_none_iff s w c now).1 sound
  obtain ⟨notified, hgrown⟩ := grown_eq sound
  rw [hgrown]
  exact hover

theorem Receiving.progress_grown {s : Session} {w : Store.Writer} (h : s.Receiving w)
    {c : Wire.Chunk} {now : Nat} (sound : s.chunkFault? w c now = none) :
    s.progress ≤ (s.grown w c now).progress ∧
      ((s.grown w c now).progress = 100 ↔ s.received + c.payload.length = s.total) := by
  have hle := received_grown_le sound
  have hunfinished := h.unfinished
  obtain ⟨notified, hgrown⟩ := grown_eq sound
  refine ⟨progress_le_progress (Nat.le_of_lt hunfinished) hle ?_ ?_, ?_⟩
  · rw [hgrown]
  · rw [hgrown]; exact Nat.le_add_right _ _
  · rw [Session.progress_eq_hundred_iff hle, hgrown]
    exact ⟨fun h => h.1, fun h => ⟨h, Nat.zero_lt_of_lt hunfinished⟩⟩

theorem Receiving.progress_of_whole {s : Session} {w : Store.Writer} (h : s.Receiving w)
    {c : Wire.Chunk} {now : Nat} (sound : s.chunkFault? w c now = none)
    (whole : s.received + c.payload.length = s.total) : (s.grown w c now).progress = 100 :=
  (h.progress_grown sound).2.2 whole

theorem Receiving.notices_of_whole {s : Session} {w : Store.Writer} (h : s.Receiving w)
    {c : Wire.Chunk} {now : Nat} (sound : s.chunkFault? w c now = none)
    (whole : s.received + c.payload.length = s.total) :
    notices (s.grownEffects w c now) = [.downloading 100] := by
  have hp := h.progress_of_whole sound whole
  rcases notices_grownEffects s w c now with ⟨-, hne⟩ | hn
  · exact absurd hp hne
  · rw [hn, hp]

theorem notices_reconnect (s : Session) (now : Nat) :
    notices (s.reconnect now).effects =
      if s.status = .downloading then [.resumed s.progress] else [] := by
  unfold reconnect
  split <;> rfl

theorem notices_endEffects (s : Session) (reason : UpdateError) :
    notices (s.endEffects reason) = [.error reason s.progress] := rfl

theorem Settled.progress_le_of_running {s : Session} (h : s.Settled)
    (running : s.status = .downloading) : s.progress ≤ 99 := by
  obtain ⟨w, hw⟩ := h.receiving running
  exact Nat.le_of_lt_succ (progress_lt_hundred hw.unfinished)

theorem eq_of_imageFault? {s : Session} {reason : UpdateError} (h : s.imageFault? = some reason) :
    reason = .checksumMismatch ∨ reason = .activateFailed := by
  unfold imageFault? at h
  grind

/-- What an input adds to the last block: it goes on, it ends without success, or it was none and an
announcement is turned down. -/
inductive Tells (i : Input) (o : Outcome Reply) (last : List Notice) : Prop where
  | more (goes : o.session.Last (last ++ notices o.effects))
  | failed (ended : o.session.Last []) (why : Notice.Failed (last ++ notices o.effects))
  | rejected (rested : o.session.Last []) (reason : UpdateError)
      (why : Entry.Rejects ⟨i, o⟩ reason) (told : reason ≠ .alreadyInProgress)
      (first : last = []) (only : notices o.effects = [.error reason 0])

theorem Tells.fail {s : Session} {i : Input} {o : Outcome Reply} {last : List Notice}
    (running : s.status = .downloading) (h : s.Last last) (ended : o.session.status = .error)
    (reason : UpdateError) (hn : notices o.effects = [.error reason s.progress]) :
    Tells i o last := by
  obtain ⟨hrunning, hreached⟩ := (last_of_running running last).1 h
  refine .failed (by simp [Last, ended]) ?_
  rw [hn]
  exact hrunning.fail hreached reason

theorem Last.rise {s r : Session} {last : List Notice} (running : s.status = .downloading)
    (still : r.status = .downloading) (rise : s.progress ≤ r.progress) (h : s.Last last) :
    r.Last last := by
  obtain ⟨hrunning, hreached⟩ := (last_of_running running last).1 h
  exact (last_of_running still last).2 ⟨hrunning, fun n hn => Nat.le_trans (hreached n hn) rise⟩

theorem Last.tell {s : Session} {last : List Notice} {n : Notice}
    (running : s.status = .downloading) (h : s.Last last) (hn : n.IsPartial)
    (hp : n.progress = s.progress) : s.Last (last ++ [n]) := by
  obtain ⟨hrunning, hreached⟩ := (last_of_running running last).1 h
  refine (last_of_running running _).2 ⟨hrunning.tell hn (hp ▸ hreached), fun m hm => ?_⟩
  rcases List.mem_append.1 hm with hm | hm
  · exact hreached m hm
  · exact Nat.le_of_eq (List.mem_singleton.1 hm ▸ hp)

theorem Transition.tells {s : Session} {i : Input} {o : Outcome Reply} (t : Transition s i o)
    (hs : s.Settled) (unreset : i ≠ .call .reset) {last : List Notice} (h : s.Last last) :
    Tells i o last := by
  have hnothing : s.Last (last ++ []) := by rwa [List.append_nil]
  cases t with
  | fault | startIgnored | chunkUnexpected | abortIgnored | pollIdle | pollQuiet | pollWarned
  | reconnectIgnored => exact .more hnothing
  | startRejected a safe now reason remarks free why =>
    have hfree := hs.last_of_accepts free
    refine .rejected ((hfree []).2 rfl) reason ⟨⟨a, safe, now, rfl⟩, rfl⟩ ?_ ((hfree last).1 h) ?_
    · rintro rfl
      exact startFault?_ne_alreadyInProgress s a safe why
    · simp only [notices_append, notices_map_remark]
      rfl
  | started a safe now free =>
    rw [(hs.last_of_accepts free last).1 h]
    refine .more ((last_of_running rfl _).2 ⟨Notice.running_started, fun n hn => ?_⟩)
    cases List.mem_singleton.1 hn
    exact Nat.zero_le _
  | chunkFailed c now w reason checksum remarks running =>
    refine .fail running h rfl reason ?_
    simp only [notices_append, notices_map_remark]
    rfl
  | aborted reason running => exact .fail running h rfl reason rfl
  | timedOut now reason running => exact .fail running h rfl reason rfl
  | chunkTaken c now w running holds sound partly =>
    have hw := hs.receiving_of_holds running holds
    have hgrown := hs.grown running hw sound partly
    have still : (s.grown w c now).status = .downloading := by
      obtain ⟨notified, hgrown⟩ := grown_eq sound
      rw [hgrown, running]
    have hl := h.rise running still (hw.progress_grown sound).1
    refine .more ?_
    rcases notices_grownEffects s w c now with ⟨hn, -⟩ | hn
    · simpa only [hn, List.append_nil] using hl
    · rw [hn]
      exact hl.tell still ⟨_, hgrown.progress_le_of_running still, .inl rfl⟩ rfl
  | imageRefused c now w reason remarks running holds sound whole why =>
    have hw := hs.receiving_of_holds running holds
    obtain ⟨hrunning, hreached⟩ := (last_of_running running last).1 h
    refine .failed rfl ⟨last, [.downloading 100], reason, 100, hrunning, ?_,
      .inr ⟨rfl, eq_of_imageFault? why⟩, ?_⟩
    · simp only [notices_append, hw.notices_of_whole sound whole, notices_map_remark,
        List.append_nil, ← List.append_assoc]
      rw [notices_endEffects, hw.progress_of_whole sound whole]
    · have hle := progress_lt_hundred hw.unfinished
      simp only [List.mem_append, List.mem_singleton]
      rintro n (hn | rfl)
      · exact Nat.le_trans (hreached n hn) (Nat.le_of_lt hle)
      · exact Nat.le_refl 100
  | imageActivated c now w running holds sound whole verified =>
    have hw := hs.receiving_of_holds running holds
    obtain ⟨hrunning, -⟩ := (last_of_running running last).1 h
    refine .more ⟨last, hrunning, ?_⟩
    rw [notices_append, hw.notices_of_whole sound whole]
    rfl
  | rebooted now time complete =>
    simp only [Last, complete] at h
    exact .more (by rwa [← List.append_nil last] at h)
  | reset => exact absurd rfl unreset
  | resumed now running =>
    exact .more (Last.tell (s := { s with lastChunkAt := now }) running h
      ⟨s.progress, hs.progress_le_of_running running, .inr rfl⟩ rfl)

theorem Transition.stands {s : Session} {i : Input} {o : Outcome Reply} {told : List Told}
    (t : Transition s i o) (hs : s.Settled) (unreset : i ≠ .call .reset) (h : s.Stands told) :
    o.session.Stands (told ++ Entry.told ⟨i, o⟩) := by
  obtain ⟨blocks, last, rfl, hblocks, hlast⟩ := h
  have hclose (ended : o.session.Last []) (hc : Closed (last ++ Entry.told ⟨i, o⟩)) :
      o.session.Stands (blocks.flatten ++ last ++ Entry.told ⟨i, o⟩) := by
    refine ⟨blocks ++ [last ++ Entry.told ⟨i, o⟩], [], by simp, ?_, ended⟩
    simp only [List.mem_append, List.mem_singleton]
    rintro b (hb | rfl)
    · exact hblocks b hb
    · exact hc
  cases t.tells hs unreset hlast with
  | more goes =>
    refine ⟨blocks, last ++ Entry.told ⟨i, o⟩, by simp, hblocks, ?_⟩
    rwa [List.map_append, Entry.told_notices]
  | failed ended why =>
    refine hclose ended (.inr ?_)
    rwa [List.map_append, Entry.told_notices]
  | rejected rested reason why told first only =>
    refine hclose rested (.inl ⟨_, reason, why, told, ?_⟩)
    rw [List.map_eq_nil_iff.1 first, Entry.told, only]
    rfl

theorem stands_after_fresh (capacity : Nat) (timing : Timing) {history : List Input}
    (unreset : .call .reset ∉ history) :
    ((fresh capacity timing).after history).Stands
      (stream ((fresh capacity timing).record history)) := by
  refine unreset_induction ⟨[], [], rfl, by simp, rfl⟩ (fun x i hi ih => ?_) unreset
  have hs := (settled_after_fresh capacity timing x).1
  have h := (take_transition hs i).stands hs hi ih
  rw [after_append_singleton, record_append]
  simpa [stream, record] using h

theorem Transition.told_of_busy {s : Session} {i : Input} {o : Outcome Reply}
    (t : Transition s i o) (h : Entry.Rejects ⟨i, o⟩ .alreadyInProgress) :
    Entry.told ⟨i, o⟩ = [] := by
  obtain ⟨⟨a, safe, now, hi⟩, hresult⟩ := h
  cases t with
  | startIgnored => rfl
  | startRejected a safe now reason remarks free why =>
    cases hresult
    exact absurd why (startFault?_ne_alreadyInProgress s a safe)
  | started => cases hresult
  | _ => cases hi

/-- The notices of a session that is not reset are blocks: announcements turned down, and updates
that failed. What comes after them is nothing, or an update that still runs, or one that was
activated. An announcement to a busy session tells nothing. -/
theorem notices_form_blocks (capacity : Nat) (timing : Timing) (history : List Input)
    (unreset : .call .reset ∉ history) :
    let log := (fresh capacity timing).record history
    (∃ (blocks : List (List Told)) (last : List Told), stream log = blocks.flatten ++ last ∧
      (∀ b ∈ blocks, Closed b) ∧
      (last = [] ∨ Notice.Running (last.map Told.notice) ∨
        Notice.Completed (last.map Told.notice))) ∧
    ∀ e ∈ log, e.Rejects .alreadyInProgress → e.told = [] := by
  intro log
  refine ⟨?_, fun e he hr => ?_⟩
  · obtain ⟨blocks, last, hstream, hblocks, hlast⟩ := stands_after_fresh capacity timing unreset
    refine ⟨blocks, last, hstream, hblocks, ?_⟩
    unfold Last at hlast
    split at hlast
    · exact .inr (.inl hlast.1)
    · exact .inr (.inr hlast)
    · exact .inr (.inr hlast)
    all_goals exact .inl (List.map_eq_nil_iff.1 hlast)
  · obtain ⟨s, -, t⟩ := transition_of_mem_record (.fresh capacity timing) he
    exact t.told_of_busy hr

theorem three_announcements_form_blocks :
    let first := fresh 8 ⟨50, 50, 50, 50, 50, 5⟩
    let history : List Input :=
      [.call (.start ⟨"2", 2, 0⟩ false 0), .call (.start ⟨"2", 2, 0⟩ true 0),
        .call (.chunk ⟨0, 1, [7]⟩ 5), .call (.reconnect 6), .call (.start ⟨"3", 1, 0⟩ true 7),
        .call (.chunk ⟨1, 1, [7]⟩ 8), .call (.start ⟨"2", 1, Checksum.ofOctets [7]⟩ true 9),
        .call (.chunk ⟨0, 1, [7]⟩ 9)]
    let log := first.record history
    .call .reset ∉ history ∧
      (stream log).map Told.notice =
        [.error .batteryTooLow 0, .started, .downloading 50, .resumed 50, .downloading 100,
          .error .checksumMismatch 100, .started, .downloading 100, .applying, .complete] ∧
      ∃ (blocks : List (List Told)) (last : List Told), stream log = blocks.flatten ++ last ∧
        (∀ b ∈ blocks, Closed b) ∧
        (last = [] ∨ Notice.Running (last.map Told.notice) ∨
          Notice.Completed (last.map Told.notice)) := by
  intro first history log
  have unreset : .call .reset ∉ history := by decide
  refine ⟨unreset, by decide +kernel, ?_⟩
  exact (notices_form_blocks 8 ⟨50, 50, 50, 50, 50, 5⟩ history unreset).1

end Session

end DoughAnalyzer.Update
