import DoughAnalyzer.Proofs.Update.Transition

/-!
What holds of a session between two inputs, whatever the inputs are: the slot is held exactly while
a download runs, the counters and the running checksum belong to the octets that were written, and
progress is complete only once the image has been activated.
-/

set_option autoImplicit false

namespace DoughAnalyzer.Update.Session

namespace Settled

theorem rebootAt_none {s : Session} (h : s.Settled) (hs : s.status ≠ .complete) :
    s.rebootAt = none := by
  cases hat : s.rebootAt with
  | none => rfl
  | some time => exact absurd (h.reboot_iff.1 (by simp [hat])) hs

theorem lastError_none {s : Session} (h : s.Settled) (hs : s.status ≠ .error) :
    s.lastError = none := by
  cases he : s.lastError with
  | none => rfl
  | some e => exact absurd (h.error_iff.1 (by simp [he])) hs

/-- The status alone would let an announcement through after an activation; the pending reboot does
not. -/
theorem accepts_iff {s : Session} (h : s.Settled) :
    s.acceptsAnnouncement = true ↔ s.status = .idle ∨ s.status = .error := by
  have hat : s.rebootAt.isNone = true ↔ s.status ≠ .complete := by
    rw [ne_eq, ← h.reboot_iff]
    simp
  simp only [acceptsAnnouncement, Bool.and_eq_true, hat]
  cases s.status <;> simp [Status.acceptsAnnouncement]

theorem set {s : Session} (h : s.Settled) (f : Store.Setting) :
    Settled { s with store := s.store.set f } := by
  have hcapacity : (s.store.set f).capacity = s.store.capacity := by cases f <;> rfl
  have hlive : (s.store.set f).live = s.store.live := by cases f <;> rfl
  refine { h with live := hlive.trans h.live, receiving := fun running => ?_ }
  obtain ⟨w, hw⟩ := h.receiving running
  exact ⟨w, { hw with limit := hw.limit.trans hcapacity.symm, room := hcapacity ▸ hw.room }⟩

/-- Clocks and warnings carry none of the invariant. -/
theorem clocks {s : Session} (h : s.Settled) (lastChunkAt : Nat) (stallWarned : Bool) :
    Settled { s with lastChunkAt, stallWarned } := by
  refine { h with receiving := fun running => ?_ }
  obtain ⟨w, hw⟩ := h.receiving running
  exact ⟨w, { hw with }⟩

theorem ofStore {store : Store} (unheld : store.live = 0) (timing : Timing) :
    (ofStore store timing).Settled := by
  constructor <;> simp [Session.ofStore, unheld]

theorem fresh (capacity : Nat) (timing : Timing) : (fresh capacity timing).Settled :=
  .ofStore rfl timing

theorem begin {s : Session} (h : s.Settled) {a : Wire.Announcement} {safe : Bool} (now : Nat)
    (free : s.acceptsAnnouncement = true) (sound : s.startFault? a safe = none) :
    (s.begin a s.openedWriter s.openedStore now).Settled := by
  obtain ⟨-, hsize, -, hroom, -⟩ := (startFault?_eq_none_iff s a safe).1 sound
  have hlive := h.live_eq_zero (not_running_of_accepts free)
  have hat : s.rebootAt = none := by
    simp only [acceptsAnnouncement, Bool.and_eq_true, Option.isNone_iff_eq_none] at free
    exact free.2
  have hpos : 0 < a.size.toNat := by
    refine Nat.pos_of_ne_zero fun hzero => hsize ?_
    exact UInt32.toNat_inj.1 hzero
  refine ⟨?_, ?_, ?_, fun _ => ⟨s.openedWriter, ?_⟩, ?_, ?_, ?_, ?_⟩
  case refine_4 => exact ⟨rfl, rfl, rfl, hpos, hroom, rfl⟩
  all_goals simp [Session.begin, openedStore, hlive, hat]

theorem grown {s : Session} {w : Store.Writer} {c : Wire.Chunk} {now : Nat} (h : s.Settled)
    (running : s.status = .downloading) (hw : s.Receiving w) (sound : s.chunkFault? w c now = none)
    (partly : s.received + c.payload.length < s.total) : (s.grown w c now).Settled := by
  obtain ⟨notified, hgrown⟩ := grown_eq sound
  have hcounted := hw.counted
  have hsummed := hw.summed
  simp only [Store.Writer.position] at hcounted
  refine ⟨?_, ?_, ?_, fun _ => ⟨{ w with data := w.data ++ c.payload }, ?_⟩, ?_, ?_, ?_, ?_⟩
  case refine_4 =>
    rw [hgrown]
    refine ⟨rfl, hw.limit, ?_, partly, hw.room, ?_⟩
    · simp [Store.Writer.position, hcounted]
    · simp [hsummed, Checksum.update_append]
  all_goals simp [hgrown, running, h.live, h.rebootAt_none, h.lastError_none]

theorem ended {s : Session} (live : s.store.live = 1) (hat : s.rebootAt = none)
    (reason : UpdateError) : (s.ended reason).Settled := by
  constructor <;> simp [Session.ended, Store.release, live, hat]

theorem activated {s : Session} {w : Store.Writer} {now : Nat} (live : s.store.live = 1)
    (he : s.lastError = none) (whole : s.received = s.total) (hpos : 0 < s.total) :
    (s.activated w now).Settled := by
  constructor <;> simp [Session.activated, Store.release, live, he, whole, hpos]

theorem reset {s : Session} (h : s.Settled) : s.reset.Settled := by
  have hlive := h.live
  by_cases running : s.status = .downloading
  · obtain ⟨w, hw⟩ := h.receiving running
    rw [if_pos running] at hlive
    constructor <;> simp [Session.reset, release, hw.holds, Store.release, hlive]
  · rw [if_neg running] at hlive
    constructor <;> simp [Session.reset, h.release_eq running, h.writer_none running, hlive]

theorem rebooting {s : Session} (h : s.Settled) (complete : s.status = .complete) :
    Settled { s with status := .rebooting, rebootAt := none } := by
  have hfull := h.full (.inl complete)
  have hother : s.status ≠ .downloading := by simp [complete]
  have herror : s.status ≠ .error := by simp [complete]
  constructor <;>
    simp [hfull, h.writer_none hother, h.live_eq_zero hother, h.lastError_none herror]

end Settled

theorem Transition.settled {s : Session} {i : Input} {o : Outcome Reply} (t : Transition s i o)
    (h : s.Settled) : o.session.Settled := by
  have hlive (running : s.status = .downloading) : s.store.live = 1 := by
    rw [h.live, if_pos running]
  have hat (running : s.status = .downloading) : s.rebootAt = none :=
    h.rebootAt_none (by simp [running])
  have he (running : s.status = .downloading) : s.lastError = none :=
    h.lastError_none (by simp [running])
  cases t with
  | fault f => exact h.set f
  | startIgnored | startRejected | chunkUnexpected | abortIgnored | pollIdle | pollQuiet
  | reconnectIgnored => exact h
  | started a safe now free sound => exact h.begin now free sound
  | chunkFailed c now w reason checksum remarks running =>
    exact .ended (s := { s with checksum }) (hlive running) (hat running) reason
  | chunkTaken c now w running holds sound partly =>
    exact h.grown running (h.receiving_of_holds running holds) sound partly
  | imageRefused c now w reason remarks running holds sound =>
    obtain ⟨notified, hgrown⟩ := grown_eq sound
    exact .ended (by rw [hgrown]; exact hlive running) (by rw [hgrown]; exact hat running) reason
  | imageActivated c now w running holds sound whole verified =>
    obtain ⟨notified, hgrown⟩ := grown_eq sound
    have hpos : 0 < s.total := Nat.zero_lt_of_lt (h.receiving_of_holds running holds).unfinished
    refine .activated ?_ ?_ ?_ ?_
    · rw [hgrown]; exact hlive running
    · rw [hgrown]; exact he running
    · rw [hgrown]; exact whole
    · rw [hgrown]; exact hpos
  | aborted reason running => exact .ended (hlive running) (hat running) _
  | reset => exact h.reset
  | pollWarned now running => exact h.clocks s.lastChunkAt true
  | timedOut now reason running => exact .ended (hlive running) (hat running) _
  | rebooted now time complete => exact h.rebooting complete
  | resumed now running => exact h.clocks now s.stallWarned

theorem settled_after {s : Session} (h : s.Settled) (history : List Input) :
    (s.after history).Settled :=
  after_induction h (fun _ i hs => (take_transition hs i).settled hs) history

theorem transition_of_mem_record {s : Session} (h : s.Settled) {history : List Input} {e : Entry}
    (he : e ∈ s.record history) : ∃ r : Session, r.Settled ∧ Transition r e.input e.outcome := by
  induction history generalizing s with
  | nil => cases he
  | cons i rest ih =>
    have t := take_transition h i
    rcases List.mem_cons.1 he with rfl | he
    · exact ⟨s, h, t⟩
    · exact ih (t.settled h) he

theorem Transition.capacity_eq {s : Session} {i : Input} {o : Outcome Reply}
    (t : Transition s i o) : o.session.store.capacity = s.store.capacity := by
  cases t with
  | fault f => cases f <;> rfl
  | chunkTaken c now w running holds sound
  | imageRefused c now w reason remarks running holds sound
  | imageActivated c now w running holds sound =>
    obtain ⟨notified, hgrown⟩ := grown_eq sound
    simp [hgrown, ended, activated, Store.release]
  | reset => cases hw : s.writer <;> simp [Session.reset, release, hw, Store.release]
  | _ => rfl

theorem Transition.timing_eq {s : Session} {i : Input} {o : Outcome Reply}
    (t : Transition s i o) : o.session.timing = s.timing := by
  cases t with
  | chunkTaken c now w running holds sound
  | imageRefused c now w reason remarks running holds sound
  | imageActivated c now w running holds sound =>
    obtain ⟨notified, hgrown⟩ := grown_eq sound
    simp [hgrown, ended, activated]
  | reset => cases hw : s.writer <;> simp [Session.reset, release, hw]
  | _ => rfl

theorem timing_after {s : Session} (h : s.Settled) (history : List Input) :
    (s.after history).timing = s.timing := by
  refine (after_induction (P := fun r => r.Settled ∧ r.timing = s.timing) ⟨h, rfl⟩
    (fun r i hr => ?_) history).2
  have t := take_transition hr.1 i
  exact ⟨t.settled hr.1, t.timing_eq.trans hr.2⟩

theorem settled_after_fresh (capacity : Nat) (timing : Timing) (history : List Input) :
    ((fresh capacity timing).after history).Settled ∧
      ((fresh capacity timing).after history).store.capacity = capacity := by
  refine after_induction (P := fun s => s.Settled ∧ s.store.capacity = capacity)
    ⟨.fresh capacity timing, rfl⟩ (fun s i h => ?_) history
  have t := take_transition h.1 i
  exact ⟨t.settled h.1, t.capacity_eq.trans h.2⟩

theorem Settled.received_le {s : Session} (h : s.Settled) : s.received ≤ s.total := by
  cases hs : s.status with
  | idle | error =>
    have := h.cleared (by simp [hs])
    omega
  | downloading =>
    obtain ⟨w, hw⟩ := h.receiving hs
    exact Nat.le_of_lt hw.unfinished
  | applying => exact absurd hs h.not_applying
  | complete | rebooting => exact Nat.le_of_eq (h.full (by simp [hs])).1

theorem percentage_le {s : Session} (h : s.received ≤ s.total) : s.percentage ≤ 100 := by
  refine Nat.div_le_of_le_mul ?_
  exact Nat.mul_le_mul_right 100 h

theorem progress_eq_percentage {s : Session} (h : s.received ≤ s.total) :
    s.progress = s.percentage := by
  have hle := percentage_le h
  unfold progress
  split
  case isTrue hzero => simp [percentage, hzero]
  case isFalse => exact Nat.mod_eq_of_lt (Nat.lt_of_le_of_lt hle (by decide))

theorem progress_eq_hundred_iff {s : Session} (h : s.received ≤ s.total) :
    s.progress = 100 ↔ s.received = s.total ∧ 0 < s.total := by
  rw [progress_eq_percentage h, percentage]
  by_cases hzero : s.total = 0
  · simp [hzero]
  have hpos : 0 < s.total := Nat.pos_of_ne_zero hzero
  constructor
  · intro heq
    have hle : 100 * s.total ≤ s.received * 100 := (Nat.le_div_iff_mul_le hpos).1 (by omega)
    omega
  · rintro ⟨heq, -⟩
    rw [heq]
    exact Nat.mul_div_cancel_left 100 hpos

theorem progress_le_progress {s r : Session} (hs : s.received ≤ s.total)
    (hr : r.received ≤ r.total) (htotal : r.total = s.total) (hle : s.received ≤ r.received) :
    s.progress ≤ r.progress := by
  rw [progress_eq_percentage hs, progress_eq_percentage hr, percentage, percentage, htotal]
  exact Nat.div_le_div_right (Nat.mul_le_mul_right 100 hle)

theorem progress_lt_hundred {s : Session} (h : s.received < s.total) : s.progress < 100 := by
  have hle := Nat.le_of_lt h
  refine Nat.lt_of_le_of_ne (progress_eq_percentage hle ▸ percentage_le hle) fun heq => ?_
  exact Nat.ne_of_lt h ((progress_eq_hundred_iff hle).1 heq).1

theorem Settled.progress_eq_hundred_iff {s : Session} (h : s.Settled) :
    s.progress = 100 ↔ s.status = .complete ∨ s.status = .rebooting := by
  rw [Session.progress_eq_hundred_iff h.received_le]
  constructor
  · rintro ⟨heq, hpos⟩
    cases hs : s.status with
    | idle | error =>
      have := h.cleared (by simp [hs])
      omega
    | downloading =>
      obtain ⟨w, hw⟩ := h.receiving hs
      have := hw.unfinished
      omega
    | applying => exact absurd hs h.not_applying
    | complete => exact .inl rfl
    | rebooting => exact .inr rfl
  · exact h.full

/-- Every history leaves a session consistent. The slot is held exactly while a download runs; the
writer then has exactly the octets that are counted and summed, fewer than were announced. -/
theorem consistent_after_history (capacity : Nat) (timing : Timing) (history : List Input) :
    let s := (fresh capacity timing).after history
    s.status ≠ .applying ∧
    (s.writer.isSome ↔ s.status = .downloading) ∧
    s.store.live = (if s.status = .downloading then 1 else 0) ∧
    (s.status = .downloading → ∃ w, s.writer = some w ∧ s.received < s.total ∧ s.total ≤ capacity ∧
      s.received = w.position ∧ s.checksum.value = Checksum.ofOctets w.data) ∧
    (s.status = .idle ∨ s.status = .error → s.received = 0 ∧ s.total = 0) ∧
    (s.status = .complete ∨ s.status = .rebooting → s.received = s.total ∧ 0 < s.total) ∧
    (s.rebootAt.isSome ↔ s.status = .complete) ∧
    (s.lastError.isSome ↔ s.status = .error) ∧
    s.progress ≤ 100 ∧
    (s.progress = 100 ↔ s.status = .complete ∨ s.status = .rebooting) := by
  obtain ⟨h, hcapacity⟩ := settled_after_fresh capacity timing history
  have hprogress := progress_eq_percentage h.received_le
  refine ⟨h.not_applying, h.writer_iff, h.live, fun running => ?_, h.cleared, h.full, h.reboot_iff,
    h.error_iff, hprogress ▸ percentage_le h.received_le, h.progress_eq_hundred_iff⟩
  obtain ⟨w, hw⟩ := h.receiving running
  have hroom := Nat.le_trans hw.room (Nat.le_of_eq hcapacity)
  refine ⟨w, hw.holds, hw.unfinished, hroom, hw.counted, ?_⟩
  rw [hw.summed]
  rfl

end DoughAnalyzer.Update.Session
