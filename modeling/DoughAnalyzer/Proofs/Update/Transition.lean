import DoughAnalyzer.Proofs.Update.History

/-!
What an input can do to a session. `Settled` says what holds of a session between two inputs, and
`Transition` lists, one constructor for each kind of event, all that may come of an input to a
settled session: the guard, the session after it, the reply and the effects. Branches that a settled
session never takes have no constructor. `take_transition` says that the list is complete; what a
history keeps is shown by cases on it.
-/

set_option autoImplicit false

namespace DoughAnalyzer.Update.Session

structure Receiving (s : Session) (w : Store.Writer) : Prop where
  holds : s.writer = some w
  limit : w.capacity = s.store.capacity
  counted : s.received = w.position
  unfinished : s.received < s.total
  room : s.total ≤ s.store.capacity
  summed : s.checksum = Checksum.start.update w.data

/-- A session between two inputs. -/
structure Settled (s : Session) : Prop where
  not_applying : s.status ≠ .applying
  writer_iff : s.writer.isSome ↔ s.status = .downloading
  live : s.store.live = if s.status = .downloading then 1 else 0
  receiving : s.status = .downloading → ∃ w, s.Receiving w
  cleared : s.status = .idle ∨ s.status = .error → s.received = 0 ∧ s.total = 0
  full : s.status = .complete ∨ s.status = .rebooting → s.received = s.total ∧ 0 < s.total
  reboot_iff : s.rebootAt.isSome ↔ s.status = .complete
  error_iff : s.lastError.isSome ↔ s.status = .error

namespace Settled

theorem writer_none {s : Session} (h : s.Settled) (hs : s.status ≠ .downloading) :
    s.writer = none := by
  cases hw : s.writer with
  | none => rfl
  | some w => exact absurd (h.writer_iff.1 (by simp [hw])) hs

theorem release_eq {s : Session} (h : s.Settled) (hs : s.status ≠ .downloading) :
    s.release = s := by
  simp [release, h.writer_none hs]

theorem live_eq_zero {s : Session} (h : s.Settled) (hs : s.status ≠ .downloading) :
    s.store.live = 0 := by
  rw [h.live, if_neg hs]

theorem receiving_of_holds {s : Session} {w : Store.Writer} (h : s.Settled)
    (running : s.status = .downloading) (holds : s.writer = some w) : s.Receiving w := by
  obtain ⟨v, hv⟩ := h.receiving running
  cases holds.symm.trans hv.holds
  exact hv

end Settled

theorem Receiving.not_outOfSpace {s : Session} {w : Store.Writer} (h : s.Receiving w) {n : Nat}
    (hn : s.received + n ≤ s.total) : ¬ w.capacity < w.data.length + n := by
  have hlimit := h.limit
  have hcounted : s.received = w.data.length := h.counted
  have hroom := h.room
  omega

/-- The first reason against an announcement to a session that accepts one. -/
def startFault? (s : Session) (a : Wire.Announcement) (safeToFlash : Bool) : Option UpdateError :=
  if !safeToFlash then some .batteryTooLow
  else if a.size = 0 then some .emptyImage
  else if !s.store.hasSlot then some .noPartition
  else if s.store.capacity < a.size.toNat then some .imageTooLarge
  else if s.store.failOpen then some .noPartition
  else none

def chunkFault? (s : Session) (w : Store.Writer) (c : Wire.Chunk) (now : Nat) :
    Option UpdateError :=
  if s.timing.chunkTimeout < now - s.lastChunkAt then some .chunkTimeout
  else if c.payload.length ≠ c.declared.toNat then some .sizeMismatch
  else if s.total < s.received + c.payload.length then some .sizeOverflow
  else if w.faulty (w.position + c.payload.length) then some .writeFailed
  else none

def imageFault? (s : Session) : Option UpdateError :=
  if s.checksum.value ≠ s.expected then some .checksumMismatch
  else if s.store.failActivate then some .activateFailed
  else none

/-- The time limit that a running download has exceeded. -/
def timeFault? (s : Session) (now : Nat) : Option UpdateError :=
  if s.chunks = 0 then
    if s.timing.initialTimeout < now - s.startedAt then some .noChunksReceived else none
  else if s.timing.stallTimeout < s.idleFor now then some .stalled
  else none

def warns (s : Session) (now : Nat) : Bool :=
  s.chunks ≠ 0 && s.timing.stallWarning < s.idleFor now && !s.stallWarned

def openedWriter (s : Session) : Store.Writer := ⟨[], s.store.capacity, s.store.failWriteAt⟩

def openedStore (s : Session) : Store :=
  { s.store with opened := s.store.opened + 1, live := s.store.live + 1 }

/-- The session after a chunk was written, before it is seen whether the image is complete. -/
def grown (s : Session) (w : Store.Writer) (c : Wire.Chunk) (now : Nat) : Session :=
  (s.advance c { w with data := w.data ++ c.payload } now).told

def grownEffects (s : Session) (w : Store.Writer) (c : Wire.Chunk) (now : Nat) : List Effect :=
  let s := s.advance c { w with data := w.data ++ c.payload } now
  (s.countRemarks c).map .remark ++ s.toldNotices.map .notice

def ended (s : Session) (reason : UpdateError) : Session :=
  { s with
    writer := none, store := s.store.release, status := .error, total := 0, received := 0
    lastError := some reason }

def endEffects (s : Session) (reason : UpdateError) : List Effect :=
  [.remark (.aborted s.progress reason), .notice (.error reason s.progress)]

def activated (s : Session) (w : Store.Writer) (now : Nat) : Session :=
  { s with
    writer := none, status := .complete, rebootAt := some (now + s.timing.rebootDelay)
    store := { s.store.release with nextBoot := some w.data, switches := s.store.switches + 1 } }

inductive Transition (s : Session) : Input → Outcome Reply → Prop where
  | fault (f : Store.Setting) :
      Transition s (.fault f) ⟨{ s with store := s.store.set f }, .nothing, []⟩
  | startIgnored (a : Wire.Announcement) (safe : Bool) (now : Nat)
      (busy : s.acceptsAnnouncement = false) :
      Transition s (.call (.start a safe now))
        ⟨s, .verdict (.error .alreadyInProgress), [.remark (.ignored a.version)]⟩
  | startRejected (a : Wire.Announcement) (safe : Bool) (now : Nat) (reason : UpdateError)
      (remarks : List Remark) (free : s.acceptsAnnouncement = true)
      (why : s.startFault? a safe = some reason) :
      Transition s (.call (.start a safe now))
        ⟨s, .verdict (.error reason), remarks.map .remark ++ [.notice (.error reason 0)]⟩
  | started (a : Wire.Announcement) (safe : Bool) (now : Nat)
      (free : s.acceptsAnnouncement = true) (sound : s.startFault? a safe = none) :
      Transition s (.call (.start a safe now))
        ⟨s.begin a s.openedWriter s.openedStore now, .verdict (.ok ()),
          [.remark (.begun a.version a.size.toNat a.checksum), .notice .started]⟩
  | chunkUnexpected (c : Wire.Chunk) (now : Nat) (other : s.status ≠ .downloading) :
      Transition s (.call (.chunk c now)) ⟨s, .verdict (.error .notReady), []⟩
  | chunkFailed (c : Wire.Chunk) (now : Nat) (w : Store.Writer) (reason : UpdateError)
      (checksum : Checksum) (remarks : List Remark) (running : s.status = .downloading)
      (holds : s.writer = some w) (why : s.chunkFault? w c now = some reason) :
      Transition s (.call (.chunk c now))
        ⟨{ s with checksum }.ended reason, .verdict (.error reason),
          remarks.map .remark ++ s.endEffects reason⟩
  | chunkTaken (c : Wire.Chunk) (now : Nat) (w : Store.Writer) (running : s.status = .downloading)
      (holds : s.writer = some w) (sound : s.chunkFault? w c now = none)
      (partly : s.received + c.payload.length < s.total) :
      Transition s (.call (.chunk c now))
        ⟨s.grown w c now, .verdict (.ok ()), s.grownEffects w c now⟩
  | imageRefused (c : Wire.Chunk) (now : Nat) (w : Store.Writer) (reason : UpdateError)
      (remarks : List Remark) (running : s.status = .downloading) (holds : s.writer = some w)
      (sound : s.chunkFault? w c now = none)
      (whole : s.received + c.payload.length = s.total)
      (why : (s.grown w c now).imageFault? = some reason) :
      Transition s (.call (.chunk c now))
        ⟨(s.grown w c now).ended reason, .verdict (.error reason),
          s.grownEffects w c now ++ remarks.map .remark ++ (s.grown w c now).endEffects reason⟩
  | imageActivated (c : Wire.Chunk) (now : Nat) (w : Store.Writer)
      (running : s.status = .downloading) (holds : s.writer = some w)
      (sound : s.chunkFault? w c now = none)
      (whole : s.received + c.payload.length = s.total)
      (verified : (s.grown w c now).imageFault? = none) :
      Transition s (.call (.chunk c now))
        ⟨(s.grown w c now).activated { w with data := w.data ++ c.payload } now, .verdict (.ok ()),
          s.grownEffects w c now ++
            [.notice .applying, .remark (.activated s.version s.timing.rebootDelay),
              .notice .complete]⟩
  | abortIgnored (reason : UpdateError) (other : s.status ≠ .downloading) :
      Transition s (.call (.abort reason)) ⟨s, .nothing, []⟩
  | aborted (reason : UpdateError) (running : s.status = .downloading) :
      Transition s (.call (.abort reason)) ⟨s.ended reason, .nothing, s.endEffects reason⟩
  | reset : Transition s (.call .reset) ⟨s.reset, .nothing, []⟩
  | pollIdle (now : Nat) (other : s.status ≠ .downloading)
      (early : s.status = .complete → ∀ time, s.rebootAt = some time → now < time) :
      Transition s (.call (.poll now)) ⟨s, .poll .idle, []⟩
  | pollQuiet (now : Nat) (running : s.status = .downloading) (timely : s.timeFault? now = none)
      (quiet : s.warns now = false) :
      Transition s (.call (.poll now)) ⟨s, .poll .idle, []⟩
  | pollWarned (now : Nat) (running : s.status = .downloading) (timely : s.timeFault? now = none)
      (warned : s.warns now = true) :
      Transition s (.call (.poll now))
        ⟨{ s with stallWarned := true }, .poll .idle,
          [.remark (.noProgress (s.idleFor now) s.received s.total)]⟩
  | timedOut (now : Nat) (reason : UpdateError) (running : s.status = .downloading)
      (why : s.timeFault? now = some reason) :
      Transition s (.call (.poll now)) ⟨s.ended reason, .poll .idle, s.endEffects reason⟩
  | rebooted (now time : Nat) (complete : s.status = .complete) (due : s.rebootAt = some time)
      (late : time ≤ now) :
      Transition s (.call (.poll now))
        ⟨{ s with status := .rebooting, rebootAt := none }, .poll .rebootNow,
          [.remark .rebooting]⟩
  | reconnectIgnored (now : Nat) (other : s.status ≠ .downloading) :
      Transition s (.call (.reconnect now)) ⟨s, .nothing, []⟩
  | resumed (now : Nat) (running : s.status = .downloading) :
      Transition s (.call (.reconnect now))
        ⟨{ s with lastChunkAt := now }, .nothing,
          [.remark (.resuming s.version s.received s.total), .notice (.resumed s.progress)]⟩

theorem fail_of_holds {s : Session} {w : Store.Writer} (hs : s.status.holdsPartition = true)
    (hw : s.writer = some w) (reason : UpdateError) :
    s.fail reason = ⟨s.ended reason, .error reason, s.endEffects reason⟩ := by
  simp [fail, hs, release, hw, ended, endEffects]

theorem Settled.fail_eq {s : Session} (h : s.Settled) (hs : s.status ≠ .downloading)
    (reason : UpdateError) : s.fail reason = ⟨s, .error reason, []⟩ := by
  have hp : s.status.holdsPartition = false := by
    cases hst : s.status <;> simp_all [Status.holdsPartition, h.not_applying]
  simp [fail, hp, h.release_eq hs]

theorem not_running_of_accepts {s : Session} (free : s.acceptsAnnouncement = true) :
    s.status ≠ .downloading := by
  intro hs
  simp [acceptsAnnouncement, hs, Status.acceptsAnnouncement] at free

theorem start_of_fault {s : Session} (h : s.Settled) (a : Wire.Announcement) (safe : Bool)
    (now : Nat) (free : s.acceptsAnnouncement = true) {reason : UpdateError}
    (why : s.startFault? a safe = some reason) :
    ∃ remarks : List Remark, s.start a safe now =
      ⟨s, .error reason, remarks.map .remark ++ [.notice (.error reason 0)]⟩ := by
  have hlive := h.live_eq_zero (not_running_of_accepts free)
  unfold startFault? at why
  split at why
  case isTrue hs =>
    cases why
    exact ⟨[.rejected .batteryTooLow], by simp [start, free, hs, reject]⟩
  rename_i hs
  split at why
  case isTrue hz =>
    cases why
    exact ⟨[.rejected .emptyImage], by simp [start, free, hs, hz, reject]⟩
  rename_i hz
  split at why
  case isTrue hslot =>
    cases why
    refine ⟨[.noSlot .noPartition, .rejected .noPartition], ?_⟩
    simp_all [start, reject, Store.slot, Outcome.after]
  rename_i hslot
  split at why
  case isTrue hcap =>
    cases why
    refine ⟨[.tooLarge a.size.toNat s.store.capacity, .rejected .imageTooLarge], ?_⟩
    simp_all [start, reject, Store.slot, Outcome.after]
  rename_i hcap
  split at why
  case isTrue hopen =>
    cases why
    refine ⟨[.cannotOpen .noPartition, .rejected .noPartition], ?_⟩
    simp_all [start, reject, Store.slot, Store.openWriter, Store.isBusy, Outcome.after]
  case isFalse => cases why

theorem startFault?_eq_none_iff (s : Session) (a : Wire.Announcement) (safe : Bool) :
    s.startFault? a safe = none ↔
      safe = true ∧ a.size ≠ 0 ∧ s.store.hasSlot = true ∧ a.size.toNat ≤ s.store.capacity ∧
        s.store.failOpen = false := by
  unfold startFault?
  grind

theorem startFault?_ne_alreadyInProgress (s : Session) (a : Wire.Announcement) (safe : Bool) :
    s.startFault? a safe ≠ some .alreadyInProgress := by
  unfold startFault?
  grind

theorem start_of_sound {s : Session} (h : s.Settled) (a : Wire.Announcement) (safe : Bool)
    (now : Nat) (free : s.acceptsAnnouncement = true) (sound : s.startFault? a safe = none) :
    s.start a safe now = ⟨s.begin a s.openedWriter s.openedStore now, .ok (),
      [.remark (.begun a.version a.size.toNat a.checksum), .notice .started]⟩ := by
  have hlive := h.live_eq_zero (not_running_of_accepts free)
  obtain ⟨hs, hz, hslot, hcap, hopen⟩ := (startFault?_eq_none_iff s a safe).1 sound
  have hle : ¬ s.store.capacity < a.size.toNat := by omega
  simp [start, free, hs, hz, Store.slot, hslot, hle, Store.openWriter, hopen, hlive, openedWriter,
    openedStore]

theorem start_ok_iff {s : Session} (h : s.Settled) (a : Wire.Announcement) (safe : Bool)
    (now : Nat) :
    (s.start a safe now).result = .ok () ↔
      s.acceptsAnnouncement = true ∧ s.startFault? a safe = none := by
  by_cases free : s.acceptsAnnouncement = true
  · cases why : s.startFault? a safe with
    | none => simp [start_of_sound h a safe now free why, free]
    | some reason =>
      obtain ⟨remarks, heq⟩ := start_of_fault h a safe now free why
      simp [heq]
  · simp [start, free]

/-- The declared size is a word, so a piece of that size is counted in full. -/
theorem carried_eq {c : Wire.Chunk} (h : c.payload.length = c.declared.toNat) :
    carried c = c.payload.length := by
  have hlt := c.declared.toNat_lt
  simp only [carried, UInt32.size]
  omega

theorem chunkFault?_eq_none_iff (s : Session) (w : Store.Writer) (c : Wire.Chunk) (now : Nat) :
    s.chunkFault? w c now = none ↔
      now - s.lastChunkAt ≤ s.timing.chunkTimeout ∧ c.payload.length = c.declared.toNat ∧
        s.received + c.payload.length ≤ s.total ∧
        w.faulty (w.position + c.payload.length) = false := by
  unfold chunkFault?
  grind

theorem receive_of_fault {s : Session} {w : Store.Writer} (h : s.Receiving w) (c : Wire.Chunk)
    (now : Nat) (running : s.status = .downloading) {reason : UpdateError}
    (why : s.chunkFault? w c now = some reason) :
    ∃ (checksum : Checksum) (remarks : List Remark), s.receive c now =
      ⟨{ s with checksum }.ended reason, .error reason,
        remarks.map .remark ++ s.endEffects reason⟩ := by
  have hstatus : ¬ s.status ≠ .downloading := Decidable.not_not.2 running
  have hfail (r : UpdateError) : s.fail r = ⟨s.ended r, .error r, s.endEffects r⟩ :=
    fail_of_holds (by rw [running]; rfl) h.holds r
  unfold chunkFault? at why
  split at why
  case isTrue hlate =>
    cases why
    refine ⟨s.checksum, [], ?_⟩
    rw [receive, if_neg hstatus, if_pos hlate]
    exact hfail _
  rename_i hlate
  split at why
  case isTrue hsize =>
    cases why
    refine ⟨s.checksum, [.sizeDiffers c.index c.declared (carried c)], ?_⟩
    rw [receive, if_neg hstatus, if_neg hlate, if_pos hsize, hfail]
    rfl
  rename_i hsize
  have hcarried := carried_eq (Decidable.not_not.1 hsize)
  split at why
  case isTrue hover =>
    cases why
    refine ⟨s.checksum, [], ?_⟩
    rw [receive, if_neg hstatus, if_neg hlate, if_neg hsize, hcarried, if_pos hover]
    exact hfail _
  rename_i hover
  split at why
  case isTrue hfaulty =>
    cases why
    refine ⟨s.checksum.update c.payload, [.writeFailed c.index .writeFailed], ?_⟩
    have hwrite : w.write c.payload = .error .writeFailed := by
      rw [Store.Writer.write, if_neg (h.not_outOfSpace (by omega))]
      exact if_pos hfaulty
    rw [receive, if_neg hstatus, if_neg hlate, if_neg hsize, hcarried, if_neg hover]
    simp [h.holds, hwrite, fail, running, Status.holdsPartition, release, ended, endEffects,
      Outcome.after, progress, percentage]
  case isFalse => cases why

theorem told_eq (s : Session) :
    s.told = { s with notified := if s.tellsProgress then s.progress else s.notified } := by
  unfold told
  split <;> rfl

theorem grown_eq {s : Session} {w : Store.Writer} {c : Wire.Chunk} {now : Nat}
    (sound : s.chunkFault? w c now = none) :
    ∃ notified, s.grown w c now =
      { s with
        checksum := s.checksum.update c.payload
        writer := some { w with data := w.data ++ c.payload }
        received := s.received + c.payload.length, chunks := s.chunks + 1, lastChunkAt := now
        lastProgressAt := if 0 < c.payload.length then now else s.lastProgressAt
        stallWarned := if 0 < c.payload.length then false else s.stallWarned
        notified } := by
  obtain ⟨-, hsize, -, -⟩ := (chunkFault?_eq_none_iff s w c now).1 sound
  rw [grown, told_eq, advance, carried_eq hsize]
  exact ⟨_, rfl⟩

theorem receive_of_sound {s : Session} {w : Store.Writer} (h : s.Receiving w) (c : Wire.Chunk)
    (now : Nat) (running : s.status = .downloading) (sound : s.chunkFault? w c now = none) :
    s.receive c now =
      if s.total ≤ s.received + c.payload.length then
        let o := (s.grown w c now).finalize now
        { o with effects := s.grownEffects w c now ++ o.effects }
      else ⟨s.grown w c now, .ok (), s.grownEffects w c now⟩ := by
  obtain ⟨hlate, hsize, hover, hfaulty⟩ := (chunkFault?_eq_none_iff s w c now).1 sound
  have hcarried := carried_eq hsize
  have hwrite : w.write c.payload = .ok { w with data := w.data ++ c.payload } := by
    refine (Store.write_eq_ok_iff _ _ _).2 ⟨?_, hfaulty, rfl⟩
    exact Nat.le_of_not_lt (h.not_outOfSpace hover)
  obtain ⟨notified, hgrown⟩ := grown_eq sound
  have hfull : (s.grown w c now).total ≤ (s.grown w c now).received ↔
      s.total ≤ s.received + c.payload.length := by rw [hgrown]
  rw [receive, if_neg (Decidable.not_not.2 running), if_neg (by omega),
    if_neg (Decidable.not_not.2 hsize), hcarried, if_neg (by omega)]
  simp only [h.holds, hwrite]
  exact ite_congr (propext hfull) (fun _ => rfl) fun _ => rfl

theorem finalize_of_fault {s : Session} {w : Store.Writer} (holds : s.writer = some w) (now : Nat)
    {reason : UpdateError} (why : s.imageFault? = some reason) :
    ∃ remarks : List Remark, s.finalize now =
      ⟨s.ended reason, .error reason, remarks.map .remark ++ s.endEffects reason⟩ := by
  unfold imageFault? at why
  split at why
  case isTrue hsum =>
    cases why
    refine ⟨[.checksumDiffers s.expected s.checksum.value], ?_⟩
    simp [finalize, hsum, fail, Status.holdsPartition, release, holds, ended, endEffects,
      Outcome.after, progress, percentage]
  rename_i hsum
  split at why
  case isTrue hfail =>
    cases why
    refine ⟨[.activateFailed .sealFailed], ?_⟩
    simp [finalize, Decidable.not_not.1 hsum, fail, Status.holdsPartition, release, holds, ended,
      endEffects, Store.activate, hfail, Outcome.after, progress, percentage]
  case isFalse => cases why

theorem imageFault?_eq_none_iff (s : Session) :
    s.imageFault? = none ↔ s.checksum.value = s.expected ∧ s.store.failActivate = false := by
  unfold imageFault?
  grind

theorem finalize_of_verified {s : Session} {w : Store.Writer} (holds : s.writer = some w)
    (now : Nat) (verified : s.imageFault? = none) :
    s.finalize now = ⟨s.activated w now, .ok (),
      [.notice .applying, .remark (.activated s.version s.timing.rebootDelay),
        .notice .complete]⟩ := by
  obtain ⟨hsum, hfail⟩ := (imageFault?_eq_none_iff s).1 verified
  simp [finalize, hsum, holds, Store.activate, hfail, activated]

theorem take_start {s : Session} (h : s.Settled) (a : Wire.Announcement) (safe : Bool)
    (now : Nat) :
    Transition s (.call (.start a safe now)) (s.take (.call (.start a safe now))) := by
  by_cases free : s.acceptsAnnouncement = true
  · cases why : s.startFault? a safe with
    | none =>
      simp only [take, step, start_of_sound h a safe now free why]
      exact .started a safe now free why
    | some reason =>
      obtain ⟨remarks, heq⟩ := start_of_fault h a safe now free why
      simp only [take, step, heq]
      exact .startRejected a safe now reason remarks free why
  · have busy := Bool.not_eq_true _ ▸ free
    simp only [take, step, start, busy, Bool.not_false, if_true]
    exact .startIgnored a safe now busy

theorem take_chunk {s : Session} (h : s.Settled) (c : Wire.Chunk) (now : Nat) :
    Transition s (.call (.chunk c now)) (s.take (.call (.chunk c now))) := by
  by_cases running : s.status = .downloading
  case neg =>
    simp only [take, step, receive, ne_eq, running, not_false_eq_true, if_true]
    exact .chunkUnexpected c now running
  obtain ⟨w, hw⟩ := h.receiving running
  cases why : s.chunkFault? w c now with
  | some reason =>
    obtain ⟨checksum, remarks, heq⟩ := receive_of_fault hw c now running why
    simp only [take, step, heq]
    exact .chunkFailed c now w reason checksum remarks running hw.holds why
  | none =>
    obtain ⟨-, -, hover, -⟩ := (chunkFault?_eq_none_iff s w c now).1 why
    have hreceive := receive_of_sound hw c now running why
    by_cases partly : s.received + c.payload.length < s.total
    · rw [if_neg (Nat.not_le_of_lt partly)] at hreceive
      simp only [take, step, hreceive]
      exact .chunkTaken c now w running hw.holds why partly
    · have whole : s.received + c.payload.length = s.total := by omega
      rw [if_pos (Nat.le_of_eq whole.symm)] at hreceive
      obtain ⟨notified, hgrown⟩ := grown_eq why
      have hwriter : (s.grown w c now).writer = some { w with data := w.data ++ c.payload } := by
        rw [hgrown]
      cases hi : (s.grown w c now).imageFault? with
      | some reason =>
        obtain ⟨remarks, heq⟩ := finalize_of_fault hwriter now hi
        simp only [heq, ← List.append_assoc] at hreceive
        simp only [take, step, hreceive]
        exact .imageRefused c now w reason remarks running hw.holds why whole hi
      | none =>
        have hversion : (s.grown w c now).version = s.version := by rw [hgrown]
        have htiming : (s.grown w c now).timing = s.timing := by rw [hgrown]
        simp only [finalize_of_verified hwriter now hi, hversion, htiming] at hreceive
        simp only [take, step, hreceive]
        exact .imageActivated c now w running hw.holds why whole hi

theorem take_abort {s : Session} (h : s.Settled) (reason : UpdateError) :
    Transition s (.call (.abort reason)) (s.take (.call (.abort reason))) := by
  by_cases running : s.status = .downloading
  · obtain ⟨w, hw⟩ := h.receiving running
    simp only [take, step, abort, fail_of_holds (by rw [running]; rfl) hw.holds]
    exact .aborted reason running
  · simp only [take, step, abort, h.fail_eq running]
    exact .abortIgnored reason running

theorem supervise_eq (s : Session) (now : Nat) :
    s.supervise now =
      match s.timeFault? now with
      | some reason => s.abort reason
      | none =>
        if s.warns now then
          ⟨{ s with stallWarned := true }, (),
            [.remark (.noProgress (s.idleFor now) s.received s.total)]⟩
        else ⟨s, (), []⟩ := by
  unfold supervise timeFault? warns
  grind

theorem take_poll {s : Session} (h : s.Settled) (now : Nat) :
    Transition s (.call (.poll now)) (s.take (.call (.poll now))) := by
  by_cases running : s.status = .downloading
  · obtain ⟨w, hw⟩ := h.receiving running
    have hpoll : s.poll now = ⟨(s.supervise now).session, .idle, (s.supervise now).effects⟩ := by
      simp only [poll, running]
    simp only [take, step, hpoll, supervise_eq]
    cases why : s.timeFault? now with
    | some reason =>
      simp only [abort, fail_of_holds (by rw [running]; rfl) hw.holds]
      exact .timedOut now reason running why
    | none =>
      cases warned : s.warns now with
      | true => exact .pollWarned now running why warned
      | false => exact .pollQuiet now running why warned
  · by_cases due : ∃ time, s.status = .complete ∧ s.rebootAt = some time ∧ time ≤ now
    · obtain ⟨time, complete, hat, late⟩ := due
      simp only [take, step, poll, complete, hat, if_pos late]
      exact .rebooted now time complete hat late
    · have early : s.status = .complete → ∀ time, s.rebootAt = some time → now < time := by
        intro complete time hat
        exact Nat.lt_of_not_le fun late => due ⟨time, complete, hat, late⟩
      have hpoll : s.poll now = ⟨s, .idle, []⟩ := by
        unfold poll
        grind
      simp only [take, step, hpoll]
      exact .pollIdle now running early

theorem take_reconnect (s : Session) (now : Nat) :
    Transition s (.call (.reconnect now)) (s.take (.call (.reconnect now))) := by
  by_cases running : s.status = .downloading
  · have heq : s.reconnect now = ⟨{ s with lastChunkAt := now }, (),
        [.remark (.resuming s.version s.received s.total), .notice (.resumed s.progress)]⟩ :=
      if_pos running
    simp only [take, step, heq]
    exact .resumed now running
  · simp only [take, step, reconnect, running, if_false]
    exact .reconnectIgnored now running

/-- Nothing else can happen to a settled session. -/
theorem take_transition {s : Session} (h : s.Settled) (i : Input) : Transition s i (s.take i) := by
  cases i with
  | fault f => exact .fault f
  | call c =>
    cases c with
    | start a safe now => exact take_start h a safe now
    | chunk c now => exact take_chunk h c now
    | abort reason => exact take_abort h reason
    | reset => exact .reset
    | poll now => exact take_poll h now
    | reconnect now => exact take_reconnect s now

end DoughAnalyzer.Update.Session
