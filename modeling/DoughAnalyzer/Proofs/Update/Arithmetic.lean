import DoughAnalyzer.Proofs.Update.Download
import Mathlib.Algebra.Group.Nat.Defs
import Mathlib.Data.List.Infix

/-!
An update on a machine whose words are bounded. `takeChecked` answers an input as `take` does, but
checks every value as it is computed: a sum or a product that does not fit its word stops it, and so
do a division by zero, a narrowing that would change a value, and each branch that no session should
reach. Only the difference of two times needs no check, since both cut it off at zero. That the
machine never stops and always agrees with `take` is shown operation by operation, from what holds of
a session between two inputs.
-/

set_option autoImplicit false

namespace DoughAnalyzer.Update

/-- Why a machine that checks what it computes stops. -/
inductive Trap where
  | overflow | zeroDivisor | lossyCast | deadBranch
  deriving DecidableEq, Repr

abbrev Checked := Except Trap

namespace Checked

def word (bits n : Nat) : Checked Nat := if n < 2 ^ bits then .ok n else .error .overflow

def narrow (bits n : Nat) : Checked Nat := if n < 2 ^ bits then .ok n else .error .lossyCast

def quotient (n d : Nat) : Checked Nat := if d = 0 then .error .zeroDivisor else .ok (n / d)

theorem bind_of_eq {α β : Type} {x : Checked α} {a : α} (h : x = .ok a) (f : α → Checked β) :
    x >>= f = f a :=
  h ▸ rfl

theorem word_eq {bits n : Nat} (h : n < 2 ^ bits) : word bits n = .ok n := if_pos h

theorem narrow_eq {bits n : Nat} (h : n < 2 ^ bits) : narrow bits n = .ok n := if_pos h

theorem quotient_eq {d : Nat} (h : d ≠ 0) (n : Nat) : quotient n d = .ok (n / d) := if_neg h

end Checked

namespace Session

open Checked

def progressChecked (s : Session) : Checked Nat :=
  if s.total = 0 then .ok 0
  else do
    let scaled ← word 64 (s.received * 100)
    let share ← quotient scaled s.total
    narrow 8 share

def failChecked (s : Session) (reason : UpdateError) : Checked (Outcome Verdict) :=
  if s.status.holdsPartition then do
    let progress ← s.progressChecked
    return ⟨{ s.release with
        status := .error, total := 0, received := 0, lastError := some reason },
      .error reason, [.remark (.aborted progress reason), .notice (.error reason progress)]⟩
  else return ⟨s.release, .error reason, []⟩

def startChecked (s : Session) (a : Wire.Announcement) (safeToFlash : Bool) (now : Nat) :
    Checked (Outcome Verdict) :=
  if s.acceptsAnnouncement && s.store.isBusy then .error .deadBranch
  else return s.start a safeToFlash now

def finalizeChecked (s : Session) (now : Nat) : Checked (Outcome Verdict) :=
  let s := { s with status := .applying }
  if s.checksum.value ≠ s.expected then do
    let o ← s.failChecked .checksumMismatch
    return o.after [.checksumDiffers s.expected s.checksum.value]
  else match s.writer with
  | none => .error .deadBranch
  | some writer =>
    match s.store.activate writer with
    | (.error e, store) => do
      let o ← { s with writer := none, store }.failChecked .activateFailed
      return o.after [.activateFailed e]
    | (.ok (), store) => do
      let time ← word 64 (now + s.timing.rebootDelay)
      return ⟨{ s with writer := none, store, status := .complete, rebootAt := some time }, .ok (),
        [.notice .applying, .remark (.activated s.version s.timing.rebootDelay),
          .notice .complete]⟩

def settleChecked (s : Session) (c : Wire.Chunk) (now : Nat) : Checked (Outcome Verdict) := do
  let progress ← s.progressChecked
  let tells := progress = 100 || min 255 (s.notified + s.timing.progressStep) ≤ progress
  let notices : List Notice := if tells then [.downloading progress] else []
  let before := (s.countRemarks c).map .remark ++ notices.map .notice
  let s := if tells then { s with notified := progress } else s
  if s.total ≤ s.received then do
    let o ← s.finalizeChecked now
    return { o with effects := before ++ o.effects }
  else return ⟨s, .ok (), before⟩

def writeChecked (s : Session) (c : Wire.Chunk) (length now : Nat) : Checked (Outcome Verdict) :=
  let summed := { s with checksum := s.checksum.update c.payload }
  match s.writer with
  | none => .error .deadBranch
  | some writer =>
    match writer.write c.payload with
    | .error .outOfSpace => .error .deadBranch
    | .error e => do
      let o ← summed.failChecked .writeFailed
      return o.after [.writeFailed c.index e]
    | .ok writer => do
      let received ← word 32 (s.received + length)
      let chunks ← word 32 (s.chunks + 1)
      { summed with
        writer := some writer, received, chunks, lastChunkAt := now
        lastProgressAt := if 0 < length then now else s.lastProgressAt
        stallWarned := if 0 < length then false else s.stallWarned }.settleChecked c now

/-- The length of a piece that is not the declared one is moved to its word unchecked; it is told, but
never counted. -/
def receiveChecked (s : Session) (c : Wire.Chunk) (now : Nat) : Checked (Outcome Verdict) :=
  if s.status ≠ .downloading then return ⟨s, .error .notReady, []⟩
  else if s.timing.chunkTimeout < now - s.lastChunkAt then s.failChecked .chunkTimeout
  else if c.payload.length ≠ c.declared.toNat then do
    let o ← s.failChecked .sizeMismatch
    return o.after [.sizeDiffers c.index c.declared (carried c)]
  else do
    let length ← narrow 32 c.payload.length
    let sum ← word 64 (s.received + length)
    if s.total < sum then s.failChecked .sizeOverflow else s.writeChecked c length now

def abortChecked (s : Session) (reason : UpdateError) : Checked (Outcome Unit) := do
  let o ← s.failChecked reason
  return ⟨o.session, (), o.effects⟩

def superviseChecked (s : Session) (now : Nat) : Checked (Outcome Unit) :=
  match s.timeFault? now with
  | some reason => s.abortChecked reason
  | none => return s.supervise now

def pollChecked (s : Session) (now : Nat) : Checked (Outcome Poll) :=
  if s.status = .downloading then do
    let o ← s.superviseChecked now
    return ⟨o.session, .idle, o.effects⟩
  else return s.poll now

def reconnectChecked (s : Session) (now : Nat) : Checked (Outcome Unit) :=
  if s.status = .downloading then do
    let progress ← s.progressChecked
    return ⟨{ s with lastChunkAt := now }, (),
      [.remark (.resuming s.version s.received s.total), .notice (.resumed progress)]⟩
  else return ⟨s, (), []⟩

def stepChecked (s : Session) : Call → Checked (Outcome Reply)
  | .start a safe now => do
    let o ← s.startChecked a safe now
    return ⟨o.session, .verdict o.result, o.effects⟩
  | .chunk c now => do
    let o ← s.receiveChecked c now
    return ⟨o.session, .verdict o.result, o.effects⟩
  | .abort reason => do
    let o ← s.abortChecked reason
    return ⟨o.session, .nothing, o.effects⟩
  | .reset => return ⟨s.reset, .nothing, []⟩
  | .poll now => do
    let o ← s.pollChecked now
    return ⟨o.session, .poll o.result, o.effects⟩
  | .reconnect now => do
    let o ← s.reconnectChecked now
    return ⟨o.session, .nothing, o.effects⟩

def takeChecked (s : Session) : Input → Checked (Outcome Reply)
  | .call c => s.stepChecked c
  | .fault f => return s.take (.fault f)

def recordChecked (s : Session) : List Input → Checked (List Entry)
  | [] => return []
  | i :: rest => do
    let o ← s.takeChecked i
    let log ← o.session.recordChecked rest
    return ⟨i, o⟩ :: log

structure Counted (s : Session) : Prop where
  received_le : s.received ≤ s.total
  total_lt : s.total < 2 ^ 32

variable {s : Session}

theorem progressChecked_eq (h : s.Counted) : s.progressChecked = .ok s.progress := by
  obtain ⟨received_le, total_lt⟩ := h
  unfold progressChecked progress
  split
  case isTrue => rfl
  case isFalse nonzero =>
    have share_lt : s.percentage < UInt8.size :=
      Nat.lt_of_le_of_lt (percentage_le received_le) (by decide)
    rw [word_eq (by omega), Nat.mod_eq_of_lt share_lt]
    simp only [bind, Except.bind, quotient_eq nonzero]
    exact narrow_eq share_lt

theorem failChecked_eq (h : s.Counted) (reason : UpdateError) :
    s.failChecked reason = .ok (s.fail reason) := by
  unfold failChecked fail
  rw [progressChecked_eq h]
  split <;> rfl

theorem finalizeChecked_eq (h : s.Counted) {w : Store.Writer} (holds : s.writer = some w)
    {now : Nat} (early : s.imageFault? = none → now + s.timing.rebootDelay < 2 ^ 64) :
    s.finalizeChecked now = .ok (s.finalize now) := by
  unfold finalizeChecked finalize
  simp only [holds]
  split
  case isTrue =>
    refine bind_of_eq (failChecked_eq ?_ _) _
    exact ⟨h.received_le, h.total_lt⟩
  case isFalse verified =>
    cases seals : s.store.failActivate with
    | true =>
      simp only [Store.activate, seals, if_true]
      refine bind_of_eq (failChecked_eq ?_ _) _
      exact ⟨h.received_le, h.total_lt⟩
    | false =>
      have sound := (imageFault?_eq_none_iff s).2 ⟨Decidable.not_not.1 verified, seals⟩
      simp only [Store.activate, seals, Bool.false_eq_true, if_false]
      exact bind_of_eq (word_eq (early sound)) _

theorem settleChecked_eq (h : s.Counted) (c : Wire.Chunk) (now : Nat)
    (finalized : s.total ≤ s.received → s.told.finalizeChecked now = .ok (s.told.finalize now)) :
    s.settleChecked c now = .ok (s.settle c now) := by
  refine (bind_of_eq (progressChecked_eq h) _).trans ?_
  have told_total : s.told.total = s.total := by rw [told_eq]
  have told_received : s.told.received = s.received := by rw [told_eq]
  change (if s.told.total ≤ s.told.received then s.told.finalizeChecked now >>= _ else _) = _
  simp only [settle]
  split
  case isTrue whole =>
    rw [told_total, told_received] at whole
    exact bind_of_eq (finalized whole) _
  case isFalse => rfl

theorem write_error {w : Store.Writer} {data : Octets} {e : StoreError}
    (room : ¬ w.capacity < w.data.length + data.length) (failed : w.write data = .error e) :
    e = .writeFailed := by
  rw [Store.Writer.write, if_neg room] at failed
  split at failed
  · exact (Except.error.inj failed).symm
  · cases failed

theorem advance_of_sized {c : Wire.Chunk} (sized : c.payload.length = c.declared.toNat)
    {w : Store.Writer} {now : Nat} :
    { s with
      checksum := s.checksum.update c.payload, writer := some w
      received := s.received + c.payload.length, chunks := s.chunks + 1, lastChunkAt := now
      lastProgressAt := if 0 < c.payload.length then now else s.lastProgressAt
      stallWarned := if 0 < c.payload.length then false else s.stallWarned } =
      s.advance c w now := by
  rw [advance, carried_eq sized]

theorem grown_finalizeChecked_eq {w : Store.Writer} {c : Wire.Chunk} {now : Nat}
    (h : (s.advance c { w with data := w.data ++ c.payload } now).Counted)
    (sound : s.chunkFault? w c now = none)
    (early : (s.grown w c now).imageFault? = none → now + s.timing.rebootDelay < 2 ^ 64) :
    (s.grown w c now).finalizeChecked now = .ok ((s.grown w c now).finalize now) := by
  have counted : (s.grown w c now).Counted := by
    rw [grown, told_eq]
    exact ⟨h.received_le, h.total_lt⟩
  obtain ⟨notified, grown_eq⟩ := grown_eq sound
  refine finalizeChecked_eq counted (w := { w with data := w.data ++ c.payload }) ?_ ?_
  · rw [grown_eq]
  · rw [grown_eq] at early ⊢
    exact early

/-- Whether a piece was written, and counted by `chunks`. Every chunk that is accepted is (`taken?`),
and so is one that completes an image which is then refused. -/
def Entry.isWritten (e : Entry) : Bool :=
  match e.input, e.outcome.result with
  | .call (.chunk _ _), .verdict (.ok ())
  | .call (.chunk _ _), .verdict (.error .checksumMismatch)
  | .call (.chunk _ _), .verdict (.error .activateFailed) => true
  | _, _ => false

/-- When an image was activated. -/
def Entry.activatedAt? (e : Entry) : Option Nat :=
  match e.input, e.outcome.result, e.outcome.session.status with
  | .call (.chunk _ now), .verdict (.ok ()), .complete => some now
  | _, _, _ => none

def Download.pieces (d : Download) : Nat := d.since.countP Entry.isWritten

theorem Download.taken_length_le (d : Download) : d.taken.length ≤ d.pieces := by
  rw [taken, List.length_filterMap_eq_countP]
  refine List.countP_mono_left fun e _ taken => ?_
  unfold Entry.taken? at taken
  unfold Entry.isWritten
  grind

theorem entry_of_sound {w : Store.Writer} {c : Wire.Chunk} {now : Nat} (settled : s.Settled)
    (running : s.status = .downloading) (holds : s.writer = some w)
    (sound : s.chunkFault? w c now = none) :
    let e : Entry := ⟨.call (.chunk c now), s.take (.call (.chunk c now))⟩
    e.isWritten = true ∧
      (s.total ≤ s.received + c.payload.length → (s.grown w c now).imageFault? = none →
        e.activatedAt? = some now) := by
  have t := take_transition settled (.call (.chunk c now))
  generalize s.take (.call (.chunk c now)) = o at t
  cases t with
  | chunkUnexpected _ _ other => exact absurd running other
  | chunkFailed _ _ v reason checksum remarks _ holds' why =>
    cases holds.symm.trans holds'
    cases sound.symm.trans why
  | chunkTaken _ _ v _ _ _ partly =>
    exact ⟨rfl, fun whole => absurd whole (Nat.not_le_of_lt partly)⟩
  | imageRefused _ _ v reason remarks _ holds' _ _ why =>
    cases holds.symm.trans holds'
    refine ⟨?_, fun _ verified => nomatch verified.symm.trans why⟩
    unfold imageFault? at why
    grind [Entry.isWritten]
  | imageActivated => exact ⟨rfl, fun _ _ => rfl⟩

/-- What is asked of an input besides: that neither the count of pieces nor the time of the reboot
outgrows its word. -/
structure Fits (s : Session) (e : Entry) : Prop where
  counted : s.status = .downloading → e.isWritten = true → s.chunks + 1 < 2 ^ 32
  early : ∀ now, e.activatedAt? = some now → now + s.timing.rebootDelay < 2 ^ 64

theorem writeChecked_eq (settled : s.Settled) (total_lt : s.total < 2 ^ 32) {c : Wire.Chunk}
    {now : Nat} (fits : s.Fits ⟨.call (.chunk c now), s.take (.call (.chunk c now))⟩)
    (running : s.status = .downloading)
    (timely : now - s.lastChunkAt ≤ s.timing.chunkTimeout)
    (sized : c.payload.length = c.declared.toNat)
    (small : s.received + c.payload.length ≤ s.total) :
    s.writeChecked c c.payload.length now = .ok (s.receive c now) := by
  obtain ⟨w, hw⟩ := settled.receiving running
  rw [receive, if_neg (Decidable.not_not.2 running), if_neg (Nat.not_lt.2 timely),
    if_neg (Decidable.not_not.2 sized), carried_eq sized, if_neg (Nat.not_lt.2 small), writeChecked]
  simp only [hw.holds]
  cases writes : w.write c.payload with
  | error e =>
    obtain rfl := write_error (hw.not_outOfSpace small) writes
    refine bind_of_eq (failChecked_eq ?_ _) _
    exact ⟨settled.received_le, total_lt⟩
  | ok v =>
    obtain ⟨-, faultless, rfl⟩ := (Store.write_eq_ok_iff _ _ _).1 writes
    have sound : s.chunkFault? w c now = none :=
      (chunkFault?_eq_none_iff s w c now).2 ⟨timely, sized, small, faultless⟩
    obtain ⟨written, activated⟩ := entry_of_sound settled running hw.holds sound
    have grew : (s.advance c { w with data := w.data ++ c.payload } now).Counted := by
      rw [← advance_of_sized sized]
      exact ⟨small, total_lt⟩
    have received_lt : s.received + c.payload.length < 2 ^ 32 := Nat.lt_of_le_of_lt small total_lt
    refine (bind_of_eq (word_eq received_lt) _).trans ?_
    refine (bind_of_eq (word_eq (fits.counted running written)) _).trans ?_
    refine (congrArg (settleChecked · c now) (advance_of_sized sized)).trans ?_
    refine settleChecked_eq grew c now fun whole => ?_
    rw [← advance_of_sized sized] at whole
    exact grown_finalizeChecked_eq grew sound fun verified =>
      fits.early now (activated whole verified)

theorem receiveChecked_eq (settled : s.Settled) (total_lt : s.total < 2 ^ 32) {c : Wire.Chunk}
    {now : Nat} (fits : s.Fits ⟨.call (.chunk c now), s.take (.call (.chunk c now))⟩) :
    s.receiveChecked c now = .ok (s.receive c now) := by
  have h : s.Counted := ⟨settled.received_le, total_lt⟩
  unfold receiveChecked
  split
  case isTrue other => rw [receive, if_pos other]; rfl
  case isFalse running =>
    split
    case isTrue late =>
      rw [receive, if_neg running, if_pos late]
      exact failChecked_eq h _
    case isFalse timely =>
      split
      case isTrue missized =>
        rw [receive, if_neg running, if_neg timely, if_pos missized]
        exact bind_of_eq (failChecked_eq h _) _
      case isFalse sized =>
        have sized' := Decidable.not_not.1 sized
        have length_lt : c.payload.length < 2 ^ 32 := sized' ▸ c.declared.toNat_lt
        have sum_lt : s.received + c.payload.length < 2 ^ 64 := by
          have := h.received_le
          omega
        rw [bind_of_eq (narrow_eq length_lt), bind_of_eq (word_eq sum_lt)]
        split
        case isTrue large =>
          rw [receive, if_neg running, if_neg timely, if_neg sized, carried_eq sized', if_pos large]
          exact failChecked_eq h _
        case isFalse small =>
          exact writeChecked_eq settled total_lt fits (Decidable.not_not.1 running)
            (Nat.le_of_not_lt timely) sized' (Nat.le_of_not_lt small)

theorem abortChecked_eq (h : s.Counted) (reason : UpdateError) :
    s.abortChecked reason = .ok (s.abort reason) :=
  bind_of_eq (failChecked_eq h reason) _

theorem Settled.slot_free (settled : s.Settled) (free : s.acceptsAnnouncement = true) :
    s.store.isBusy = false := by
  simp [Store.isBusy, settled.live_eq_zero (not_running_of_accepts free)]

theorem startChecked_eq (settled : s.Settled) (a : Wire.Announcement) (safe : Bool) (now : Nat) :
    s.startChecked a safe now = .ok (s.start a safe now) := by
  refine if_neg ?_
  rw [Bool.and_eq_true]
  rintro ⟨free, busy⟩
  exact absurd (settled.slot_free free) (Bool.not_eq_false _ ▸ busy)

theorem superviseChecked_eq (h : s.Counted) (now : Nat) :
    s.superviseChecked now = .ok (s.supervise now) := by
  rw [superviseChecked, supervise_eq]
  cases s.timeFault? now with
  | some reason => exact abortChecked_eq h reason
  | none => rfl

theorem pollChecked_eq (h : s.Counted) (now : Nat) : s.pollChecked now = .ok (s.poll now) := by
  unfold pollChecked
  split
  case isTrue running =>
    refine (bind_of_eq (superviseChecked_eq h now) _).trans ?_
    simp only [poll, running]
    rfl
  case isFalse => rfl

theorem reconnectChecked_eq (h : s.Counted) (now : Nat) :
    s.reconnectChecked now = .ok (s.reconnect now) := by
  unfold reconnectChecked reconnect
  rw [progressChecked_eq h]
  split <;> rfl

theorem takeChecked_eq (settled : s.Settled) (total_lt : s.total < 2 ^ 32) {i : Input}
    (fits : s.Fits ⟨i, s.take i⟩) : s.takeChecked i = .ok (s.take i) := by
  have h : s.Counted := ⟨settled.received_le, total_lt⟩
  cases i with
  | fault f => rfl
  | call call =>
    cases call with
    | start a safe now => exact bind_of_eq (startChecked_eq settled a safe now) _
    | chunk c now => exact bind_of_eq (receiveChecked_eq settled total_lt fits) _
    | abort reason => exact bind_of_eq (abortChecked_eq h reason) _
    | reset => rfl
    | poll now => exact bind_of_eq (pollChecked_eq h now) _
    | reconnect now => exact bind_of_eq (reconnectChecked_eq h now) _

theorem Transition.total_lt {i : Input} {o : Outcome Reply} (t : Transition s i o)
    (h : s.total < 2 ^ 32) : o.session.total < 2 ^ 32 := by
  cases t with
  | started a => exact a.size.toNat_lt
  | chunkTaken c now w running holds sound =>
    obtain ⟨notified, grown_eq⟩ := grown_eq sound
    rw [grown_eq]
    exact h
  | imageActivated c now w running holds sound =>
    obtain ⟨notified, grown_eq⟩ := grown_eq sound
    rw [grown_eq]
    exact h
  | chunkFailed | imageRefused | aborted | reset | timedOut => exact Nat.two_pow_pos 32
  | fault | startIgnored | startRejected | chunkUnexpected | abortIgnored | pollIdle | pollQuiet
  | pollWarned | rebooted | reconnectIgnored | resumed => exact h

theorem begunAt?_of_isWritten {e : Entry} (written : e.isWritten = true) : e.begunAt? = none := by
  unfold Entry.isWritten at written
  unfold Entry.begunAt?
  grind

/-- A machine that has kept up so far keeps up with the rest. -/
theorem recordChecked_eq {log : List Entry} {history : List Input} (settled : s.Settled)
    (total_lt : s.total < 2 ^ 32) (tracks : s.Tracks (Download.ofRecord log))
    (few : ∀ past d, past <+: log ++ s.record history → Download.ofRecord past = some d →
      d.pieces < 2 ^ 32)
    (early : ∀ e ∈ s.record history, ∀ now, e.activatedAt? = some now →
      now + s.timing.rebootDelay < 2 ^ 64) :
    s.recordChecked history = .ok (s.record history) := by
  induction history generalizing s log with
  | nil => rfl
  | cons i rest ih =>
    have t := take_transition settled i
    have past : log ++ [⟨i, s.take i⟩] <+: log ++ s.record (i :: rest) :=
      (List.prefix_append_right_inj log).2 ⟨_, rfl⟩
    have fits : s.Fits ⟨i, s.take i⟩ := by
      refine ⟨fun running written => ?_, early _ List.mem_cons_self⟩
      obtain ⟨d, begun, clocked⟩ := tracks running
      have later := few _ ⟨d.begunAt, d.since ++ [⟨i, s.take i⟩]⟩ past (by
        rw [Download.ofRecord_append_singleton, begun]
        exact Download.add_of_not_begun d (begunAt?_of_isWritten written))
      have counted := d.taken_length_le
      rw [Download.pieces, List.countP_append, List.countP_singleton, if_pos written] at later
      rw [clocked.counted]
      exact Nat.lt_of_le_of_lt (Nat.succ_le_succ counted) later
    have next : (s.take i).session.Tracks (Download.ofRecord (log ++ [⟨i, s.take i⟩])) := by
      rw [Download.ofRecord_append_singleton]
      exact t.tracks tracks
    have kept : (s.take i).session.recordChecked rest = .ok ((s.take i).session.record rest) := by
      refine ih (t.settled settled) (t.total_lt total_lt) next ?_ ?_
      · rw [List.append_assoc]
        exact few
      · rw [t.timing_eq]
        exact fun e he => early e (List.mem_cons_of_mem _ he)
    refine (bind_of_eq (takeChecked_eq settled total_lt fits) _).trans ?_
    exact bind_of_eq kept _

theorem Settled.receive_ne_notReady (settled : s.Settled) (running : s.status = .downloading)
    (c : Wire.Chunk) (now : Nat) : (s.receive c now).result ≠ .error .notReady := by
  have t := take_transition settled (.call (.chunk c now))
  intro notReady
  have answer : (s.take (.call (.chunk c now))).result = .verdict (.error .notReady) :=
    congrArg Reply.verdict notReady
  generalize s.take (.call (.chunk c now)) = o at t answer
  cases t with
  | chunkUnexpected _ _ other => exact other running
  | chunkTaken | imageActivated => cases answer
  | chunkFailed _ _ w reason checksum remarks _ _ why =>
    cases answer
    unfold chunkFault? at why
    grind
  | imageRefused _ _ w reason remarks _ _ _ _ why =>
    cases answer
    unfold imageFault? at why
    grind

/-- While fewer than 2³² pieces are written in a session and the time of the reboot fits its word,
a machine that checks what it computes agrees with an unbounded one, whatever the clocks and the sizes
of the pieces. The pieces written (`Entry.isWritten`) are the chunks that are accepted
(`Entry.taken?`) and besides, where the chunk that completes an image is refused with the image, that
one: the count has risen before the image is verified, so at that chunk it is one ahead of the number
of accepted ones. No chunk of a running download is answered as if none ran, no piece that the
announcement leaves room for finds the slot full, and an announcement that can be taken finds nobody
else at the slot. -/
theorem checked_words_suffice (capacity : Nat) (timing : Timing) (history : List Input)
    (few : ∀ past d, past <+: (fresh capacity timing).record history →
      Download.ofRecord past = some d → d.pieces < 2 ^ 32)
    (early : ∀ e ∈ (fresh capacity timing).record history, ∀ now,
      e.activatedAt? = some now → now + timing.rebootDelay < 2 ^ 64) :
    let s := (fresh capacity timing).after history
    (fresh capacity timing).recordChecked history = .ok ((fresh capacity timing).record history) ∧
    (s.status = .downloading → ∀ c now, (s.receive c now).result ≠ .error .notReady) ∧
    (∀ w (c : Wire.Chunk), s.writer = some w → s.received + c.payload.length ≤ s.total →
      w.write c.payload ≠ .error .outOfSpace) ∧
    (s.acceptsAnnouncement = true → s.store.isBusy = false) := by
  intro s
  have settled : s.Settled := (settled_after_fresh capacity timing history).1
  refine ⟨?_, settled.receive_ne_notReady, ?_, settled.slot_free⟩
  · have unbegun : (fresh capacity timing).Tracks (Download.ofRecord []) :=
      .of_not_running (by simp [fresh, ofStore]) _
    exact recordChecked_eq (.fresh capacity timing) (Nat.two_pow_pos 32) unbegun few early
  · intro w c holds room full
    have running := settled.writer_iff.1 (Option.isSome_of_eq_some holds)
    have hw := settled.receiving_of_holds running holds
    cases write_error (hw.not_outOfSpace room) full

theorem one_octet_keeps_to_words :
    let new := fresh 8 ⟨50, 50, 50, 50, 50, 5⟩
    let history : List Input :=
      [.call (.start ⟨"2", 1, Checksum.ofOctets [7]⟩ true 9), .call (.chunk ⟨0, 0, []⟩ 3),
        .call (.chunk ⟨1, 1, [7]⟩ 5)]
    (new.after history).status = .complete ∧
      new.recordChecked history = .ok (new.record history) := by
  intro new history
  obtain ⟨complete, few, early⟩ : (new.after history).status = .complete ∧
      (∀ past ∈ (new.record history).inits,
        (Download.ofRecord past).all (fun d => d.pieces < 2 ^ 32) = true) ∧
      ∀ e ∈ new.record history, e.activatedAt?.all (fun now => now + 50 < 2 ^ 64) = true := by
    decide +kernel
  refine ⟨complete, (checked_words_suffice 8 ⟨50, 50, 50, 50, 50, 5⟩ history ?_ ?_).1⟩
  · intro past d past_of begun
    have small := few past ((List.mem_inits _ _).2 past_of)
    rw [begun] at small
    exact of_decide_eq_true small
  · intro e he now at_
    have small := early e he
    rw [at_] at small
    exact of_decide_eq_true small

end Session

end DoughAnalyzer.Update
