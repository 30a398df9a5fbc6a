import DoughAnalyzer.Proofs.Update.NoticeStream
import DoughAnalyzer.Proofs.Update.Rejection

/-!
The end of an update that fails. A chunk fails for the first condition that it does not meet, before
or after its octets are written; the caller may abort, and a poll may find a time limit exceeded.
Whichever it is, the session is left in one and the same state, one notice tells the reason and how
far the update had come, and the next announcement finds the slot free.
-/

set_option autoImplicit false

namespace DoughAnalyzer.Update

theorem firstFailure?_append (x y : List Check) :
    firstFailure? (x ++ y) = (firstFailure? x).or (firstFailure? y) := by
  induction x with
  | nil => rfl
  | cons c x ih =>
    rw [List.cons_append, firstFailure?_cons, firstFailure?_cons, ih]
    split <;> rfl

namespace Session

/-- What a chunk must meet to be written, in the order in which it counts. -/
def pieceChecks (s : Session) (w : Store.Writer) (c : Wire.Chunk) (now : Nat) : List Check :=
  [⟨now - s.lastChunkAt ≤ s.timing.chunkTimeout, .chunkTimeout⟩,
    ⟨c.payload.length = c.declared.toNat, .sizeMismatch⟩,
    ⟨s.received + c.payload.length ≤ s.total, .sizeOverflow⟩,
    ⟨(w.write c.payload).isOk, .writeFailed⟩]

def imageChecks (s : Session) (w : Store.Writer) (c : Wire.Chunk) : List Check :=
  if s.received + c.payload.length < s.total then []
  else [⟨Checksum.ofOctets (w.data ++ c.payload) = s.expected, .checksumMismatch⟩,
    ⟨!s.store.failActivate, .activateFailed⟩]

/-- The reason for which a call ends a running update without success. -/
def failure? (s : Session) (w : Store.Writer) : Call → Option UpdateError
  | .chunk c now => firstFailure? (s.pieceChecks w c now ++ s.imageChecks w c)
  | .abort reason => some reason
  | .poll now => s.timeFault? now
  | .start .. | .reset | .reconnect _ => none

/-- How many octets of the image there are when a call ends the update. Those of a failing chunk
count if they were written. -/
def reached (s : Session) (w : Store.Writer) : Call → Nat
  | .chunk c now =>
    if firstFailure? (s.pieceChecks w c now) = none then s.received + c.payload.length
    else s.received
  | .start .. | .abort _ | .reset | .poll _ | .reconnect _ => s.received

variable {s : Session} {w : Store.Writer} {c : Wire.Chunk} {now : Nat}

theorem Receiving.firstFailure?_pieceChecks (h : s.Receiving w) (c : Wire.Chunk) (now : Nat) :
    firstFailure? (s.pieceChecks w c now) = s.chunkFault? w c now := by
  unfold pieceChecks chunkFault?
  simp only [firstFailure?_cons, firstFailure?_nil, decide_eq_true_eq]
  by_cases late : s.timing.chunkTimeout < now - s.lastChunkAt
  · rw [if_neg (Nat.not_le_of_lt late), if_pos late]
  rw [if_pos (Nat.le_of_not_lt late), if_neg late]
  by_cases size : c.payload.length = c.declared.toNat
  case neg => rw [if_neg size, if_pos size]
  rw [if_pos size, if_neg (not_not_intro size)]
  by_cases overflows : s.total < s.received + c.payload.length
  · rw [if_neg (Nat.not_le_of_lt overflows), if_pos overflows]
  rw [if_pos (Nat.le_of_not_lt overflows), if_neg overflows]
  have room := h.not_outOfSpace (Nat.le_of_not_lt overflows)
  by_cases faulty : w.faulty (w.position + c.payload.length) = true
  · have refused : w.write c.payload = .error .writeFailed := by
      rw [Store.Writer.write, if_neg room]
      exact if_pos faulty
    rw [refused, if_pos faulty]
    rfl
  · have taken := (Store.write_eq_ok_iff w _ c.payload).2
      ⟨Nat.le_of_not_lt room, Bool.eq_false_iff.2 faulty, rfl⟩
    rw [taken, if_neg faulty]
    rfl

theorem Receiving.firstFailure?_imageChecks (h : s.Receiving w)
    (sound : s.chunkFault? w c now = none) (whole : s.received + c.payload.length = s.total) :
    firstFailure? (s.imageChecks w c) = (s.grown w c now).imageFault? := by
  obtain ⟨notified, hgrown⟩ := grown_eq sound
  have sum : (s.checksum.update c.payload).value = Checksum.ofOctets (w.data ++ c.payload) := by
    rw [h.summed, ← Checksum.update_append]
    rfl
  unfold imageChecks imageFault?
  rw [if_neg (by omega), hgrown]
  simp only [sum, firstFailure?_cons, firstFailure?_nil, decide_eq_true_eq]
  grind

theorem Receiving.failure?_of_fault (h : s.Receiving w) {reason : UpdateError}
    (why : s.chunkFault? w c now = some reason) : s.failure? w (.chunk c now) = some reason := by
  rw [failure?, firstFailure?_append, h.firstFailure?_pieceChecks, why]
  rfl

theorem Receiving.failure?_of_partly (h : s.Receiving w) (sound : s.chunkFault? w c now = none)
    (partly : s.received + c.payload.length < s.total) : s.failure? w (.chunk c now) = none := by
  rw [failure?, firstFailure?_append, h.firstFailure?_pieceChecks, sound, imageChecks,
    if_pos partly]
  rfl

theorem Receiving.failure?_of_whole (h : s.Receiving w) (sound : s.chunkFault? w c now = none)
    (whole : s.received + c.payload.length = s.total) :
    s.failure? w (.chunk c now) = (s.grown w c now).imageFault? := by
  rw [failure?, firstFailure?_append, h.firstFailure?_pieceChecks, sound,
    h.firstFailure?_imageChecks sound whole]
  rfl

/-- What it is for an update to end without success. -/
structure TornDown (s : Session) (w : Store.Writer) (call : Call) (reason : UpdateError)
    (o : Outcome Reply) : Prop where
  status : o.session.status = .error
  writer : o.session.writer = none
  live : o.session.store.live = 0
  counters : o.session.received = 0 ∧ o.session.total = 0
  lastError : o.session.lastError = some reason
  boot : o.session.store.switches = s.store.switches ∧
    o.session.store.nextBoot = s.store.nextBoot
  told : notices o.effects =
    (if s.reached w call = s.total then [.downloading 100] else []) ++
      [.error reason (s.reached w call * 100 / s.total)]

theorem TornDown.ended {r : Session} {call : Call} {reason : UpdateError} {reply : Reply}
    {effects : List Effect} (live : s.store.live = 1) (store : r.store = s.store)
    (told : notices effects =
      (if s.reached w call = s.total then [.downloading 100] else []) ++
        [.error reason (s.reached w call * 100 / s.total)]) :
    TornDown s w call reason ⟨r.ended reason, reply, effects⟩ where
  status := rfl
  writer := rfl
  live := by simp [Session.ended, Store.release, store, live]
  counters := ⟨rfl, rfl⟩
  lastError := rfl
  boot := by simp [Session.ended, Store.release, store]
  told := told

theorem Receiving.told_unwritten (h : s.Receiving w) {call : Call} (reason : UpdateError)
    (unwritten : s.reached w call = s.received) :
    notices (s.endEffects reason) =
      (if s.reached w call = s.total then [.downloading 100] else []) ++
        [.error reason (s.reached w call * 100 / s.total)] := by
  have unfinished := h.unfinished
  rw [unwritten, if_neg (Nat.ne_of_lt unfinished), notices_endEffects,
    progress_eq_percentage (Nat.le_of_lt unfinished)]
  rfl

theorem Transition.failure_cases {call : Call} {o : Outcome Reply}
    (t : Transition s (.call call) o) (h : s.Settled) (running : s.status = .downloading)
    (holds : s.writer = some w) :
    s.failure? w call = none ∧ o.session.status ≠ .error ∨
      ∃ reason, s.failure? w call = some reason ∧ TornDown s w call reason o := by
  have hw := h.receiving_of_holds running holds
  have live : s.store.live = 1 := by rw [h.live, if_pos running]
  have still : s.status ≠ .error := by simp [running]
  have busy : s.acceptsAnnouncement ≠ true := fun free => not_running_of_accepts free running
  cases t with
  | startIgnored | resumed => exact .inl ⟨rfl, still⟩
  | startRejected a safe now reason remarks free => exact absurd free busy
  | started a safe now free => exact absurd free busy
  | chunkFailed c now v reason checksum remarks running held why =>
    cases held.symm.trans holds
    refine .inr ⟨reason, hw.failure?_of_fault why, .ended live rfl ?_⟩
    have unwritten : s.reached w (.chunk c now) = s.received := by
      rw [reached, hw.firstFailure?_pieceChecks, why]
      rfl
    rw [notices_append, notices_map_remark, List.nil_append, hw.told_unwritten reason unwritten]
  | chunkTaken c now v running held sound partly =>
    cases held.symm.trans holds
    obtain ⟨notified, hgrown⟩ := grown_eq sound
    exact .inl ⟨hw.failure?_of_partly sound partly, by simp [hgrown, running]⟩
  | imageRefused c now v reason remarks running held sound whole why =>
    cases held.symm.trans holds
    obtain ⟨notified, hgrown⟩ := grown_eq sound
    refine .inr ⟨reason, (hw.failure?_of_whole sound whole).trans why, .ended live ?_ ?_⟩
    · rw [hgrown]
    have written : s.reached w (.chunk c now) = s.total := by
      rw [reached, hw.firstFailure?_pieceChecks, sound]
      exact whole
    have pos : 0 < s.total := Nat.zero_lt_of_lt hw.unfinished
    rw [written, if_pos rfl, Nat.mul_div_cancel_left 100 pos, notices_append, notices_append,
      hw.notices_of_whole sound whole, notices_map_remark, notices_endEffects,
      hw.progress_of_whole sound whole]
    rfl
  | imageActivated c now v running held sound whole verified =>
    cases held.symm.trans holds
    exact .inl ⟨(hw.failure?_of_whole sound whole).trans verified, by simp [activated]⟩
  | aborted reason =>
    exact .inr ⟨reason, rfl, .ended live rfl (hw.told_unwritten reason rfl)⟩
  | reset => exact .inl ⟨rfl, by simp [Session.reset]⟩
  | pollQuiet now _ timely => exact .inl ⟨timely, still⟩
  | pollWarned now _ timely => exact .inl ⟨timely, still⟩
  | timedOut now reason _ why =>
    exact .inr ⟨reason, why, .ended live rfl (hw.told_unwritten reason rfl)⟩
  | rebooted now time complete => simp [running] at complete
  | _ => exact absurd running ‹s.status ≠ .downloading›

theorem Receiving.receive_result (h : s.Receiving w) (running : s.status = .downloading)
    (c : Wire.Chunk) (now : Nat) :
    (s.receive c now).result =
      match s.failure? w (.chunk c now) with
      | none => .ok ()
      | some reason => .error reason := by
  cases why : s.chunkFault? w c now with
  | some reason =>
    obtain ⟨checksum, remarks, failed⟩ := receive_of_fault h c now running why
    rw [h.failure?_of_fault why, failed]
  | none =>
    have overflows := ((chunkFault?_eq_none_iff s w c now).1 why).2.2.1
    have taken := receive_of_sound h c now running why
    by_cases partly : s.received + c.payload.length < s.total
    · rw [h.failure?_of_partly why partly, taken, if_neg (Nat.not_le_of_lt partly)]
    · have whole : s.received + c.payload.length = s.total := by omega
      obtain ⟨notified, hgrown⟩ := grown_eq why
      have holds : (s.grown w c now).writer = some { w with data := w.data ++ c.payload } := by
        rw [hgrown]
      rw [h.failure?_of_whole why whole, taken, if_pos (Nat.le_of_eq whole.symm)]
      cases fault : (s.grown w c now).imageFault? with
      | some reason =>
        obtain ⟨remarks, failed⟩ := finalize_of_fault holds now fault
        rw [failed]
      | none => rw [finalize_of_verified holds now fault]

def Input.isLate : Input → Bool
  | .call (.chunk ..) | .call (.abort _) | .call (.reconnect _) => true
  | .call (.start ..) | .call .reset | .call (.poll _) | .fault _ => false

theorem Transition.late {i : Input} {o : Outcome Reply} (t : Transition s i o)
    (ended : s.status ≠ .downloading) (late : i.isLate = true) :
    o.session = s ∧ o.effects = [] := by
  cases t with
  | chunkUnexpected | abortIgnored | reconnectIgnored => exact ⟨rfl, rfl⟩
  | chunkFailed | chunkTaken | imageRefused | imageActivated | aborted | resumed =>
    exact absurd ‹s.status = .downloading› ended
  | _ => cases late

theorem Settled.late_after (h : s.Settled) (ended : s.status ≠ .downloading) {further : List Input}
    (late : ∀ i ∈ further, i.isLate = true) :
    s.after further = s ∧ ∀ e ∈ s.record further, e.outcome.effects = [] := by
  induction further with
  | nil => exact ⟨rfl, fun e he => absurd he List.not_mem_nil⟩
  | cons i rest ih =>
    obtain ⟨first, others⟩ := List.forall_mem_cons.1 late
    obtain ⟨same, silent⟩ := (take_transition h i).late ended first
    obtain ⟨still, quiet⟩ := ih others
    rw [after, record, same]
    exact ⟨still, List.forall_mem_cons.2 ⟨silent, quiet⟩⟩

/-- A chunk is refused for the first condition that it does not meet. That, an abort, and a time
limit that a poll finds exceeded are the ways in which a running update fails, and they leave one
state: the slot free, the counters at zero, the reason kept, what runs next untouched. One notice at
the end tells the reason and the progress with all that was written. What comes late changes nothing
and tells nothing, and the next sound announcement is accepted. -/
theorem failures_end_alike (capacity : Nat) (timing : Timing) (history : List Input)
    (running : ((fresh capacity timing).after history).status = .downloading) :
    let s := (fresh capacity timing).after history
    ∃ w, s.writer = some w ∧
      (∀ c now, (s.receive c now).result =
        match firstFailure? (s.pieceChecks w c now ++ s.imageChecks w c) with
        | none => .ok ()
        | some reason => .error reason) ∧
      (∀ call, (s.step call).session.status = .error ↔ (s.failure? w call).isSome = true) ∧
      ∀ call reason, s.failure? w call = some reason →
        let r := (s.step call).session
        TornDown s w call reason (s.step call) ∧
        (∀ further : List Input, (∀ i ∈ further, i.isLate = true) →
          r.after further = r ∧ ∀ e ∈ r.record further, e.outcome.effects = []) ∧
        ∀ a now, a.size ≠ 0 → a.size.toNat ≤ capacity → r.store.hasSlot = true →
          r.store.failOpen = false → (r.start a true now).result = .ok () := by
  intro s
  obtain ⟨h, slot⟩ : s.Settled ∧ s.store.capacity = capacity :=
    settled_after_fresh capacity timing history
  obtain ⟨w, hw⟩ := h.receiving running
  have next (call : Call) : Transition s (.call call) (s.step call) :=
    take_transition h (.call call)
  have ways (call : Call) := (next call).failure_cases h running hw.holds
  refine ⟨w, hw.holds, hw.receive_result running, fun call => ?_, fun call reason why => ?_⟩
  · rcases ways call with ⟨none, other⟩ | ⟨reason, why, torn⟩
    · simpa [none] using other
    · simpa [why] using torn.status
  · rcases ways call with ⟨none, -⟩ | ⟨other, why', torn⟩
    · cases none.symm.trans why
    obtain rfl : other = reason := Option.some.inj (why'.symm.trans why)
    have settled : (s.step call).session.Settled := (next call).settled h
    have ended : (s.step call).session.status ≠ .downloading := by
      rw [torn.status]
      decide
    refine ⟨torn, fun further late => settled.late_after ended late,
      fun a now size room present opens => ?_⟩
    have fits : a.size.toNat ≤ (s.step call).session.store.capacity := by
      rw [(next call).capacity_eq, slot]
      exact room
    exact (start_ok_iff settled a true now).2 ⟨settled.accepts_iff.2 (.inr torn.status),
      (startFault?_eq_none_iff _ a true).2 ⟨rfl, size, present, fits, opens⟩⟩

theorem wrong_image_tears_down :
    let announced := Input.call (.start ⟨"2", 2, 0⟩ true 0)
    let first := Input.call (.chunk ⟨0, 1, [7]⟩ 5)
    let second := Call.chunk ⟨1, 1, [8]⟩ 9
    let s := (fresh 8 ⟨50, 50, 50, 50, 50, 5⟩).after [announced, first]
    let r := (s.step second).session
    s.status = .downloading ∧
      (∃ w, s.writer = some w ∧ TornDown s w second .checksumMismatch (s.step second)) ∧
      notices (s.step second).effects = [.downloading 100, .error .checksumMismatch 100] ∧
      r.after [.call (.chunk ⟨1, 1, [8]⟩ 9), .call (.reconnect 10), .call (.abort .stalled)] = r ∧
      (r.start ⟨"3", 8, 0⟩ true 11).result = .ok () := by
  intro announced first second s r
  have running : s.status = .downloading := by decide +kernel
  obtain ⟨w, holds, -, -, ends⟩ :=
    failures_end_alike 8 ⟨50, 50, 50, 50, 50, 5⟩ [announced, first] running
  obtain rfl : (⟨[7], 8, none⟩ : Store.Writer) = w := by
    refine Option.some.inj (Eq.trans ?_ holds)
    decide +kernel
  obtain ⟨torn, late, next⟩ := ends second .checksumMismatch (by decide +kernel)
  refine ⟨running, ⟨_, holds, torn⟩, torn.told.trans (by decide +kernel),
    (late _ (by decide)).1, ?_⟩
  exact next ⟨"3", 8, 0⟩ 11 (by decide) (by decide) (by decide +kernel) (by decide +kernel)

end Session

end DoughAnalyzer.Update
