import DoughAnalyzer.Proofs.Update.Likeness

/-!
What a session leaves to the one after it. An announcement that is accepted begins from the store
and the timing alone, and of the store only its counters and the image that runs next tell of
earlier sessions. So the rest of a history is that of a session nobody has used.
-/

set_option autoImplicit false

namespace DoughAnalyzer

namespace Store

def pristine (s : Store) : Store :=
  { s with live := 0, opened := 0, switches := 0, nextBoot := none }

/-- What was done to a store nobody had used before, done to one with a past. -/
def onto (s past : Store) : Store :=
  { s with
    opened := past.opened + s.opened, switches := past.switches + s.switches
    nextBoot := if s.switches = 0 then past.nextBoot else s.nextBoot }

theorem openWriter_onto (s past : Store) :
    (s.onto past).openWriter = s.openWriter.map fun (w, s) => (w, s.onto past) := by
  unfold openWriter
  change (if s.failOpen || !s.hasSlot || 0 < s.live then _ else _) = _
  split <;> rfl

theorem activate_onto (s past : Store) (w : Writer) :
    (s.onto past).activate w = ((s.activate w).1, (s.activate w).2.onto past) := by
  cases h : s.failActivate <;> simp [activate, release, onto, h, Nat.add_assoc]

theorem set_onto (s past : Store) (f : Setting) : (s.onto past).set f = (s.set f).onto past := by
  cases f <;> rfl

theorem openWriter_pristine (s : Store) {w : Writer} {t : Store}
    (opened : s.openWriter = .ok (w, t)) :
    ∃ u, s.pristine.openWriter = .ok (w, u) ∧ t = u.onto s := by
  unfold openWriter at opened
  split at opened
  · cases opened
  · rename_i free
    cases opened
    simp only [Bool.or_eq_true, Bool.not_eq_true', decide_eq_true_eq, not_or] at free
    obtain ⟨⟨sound, slot⟩, unheld⟩ := free
    have live : s.live = 0 := by omega
    simp_all [openWriter, pristine, onto]

def activated (s before : Store) : Option Octets :=
  if before.switches < s.switches then s.nextBoot else none

theorem activated_onto (s past before before' : Store)
    (h : before'.switches = past.switches + before.switches) :
    (s.onto past).activated before' = s.activated before := by
  by_cases switched : before.switches < s.switches
  · have some : s.switches ≠ 0 := by omega
    simp [activated, onto, h, switched, some]
  · simp [activated, onto, h, switched]

end Store

namespace Update

def overPast (past : Store) : Likeness where
  change s := s.onto past
  clocks s r := s = r
  slot _ := rfl
  isBusy _ := rfl
  openWriter s := s.openWriter_onto past
  release _ := rfl
  activate s := s.activate_onto past
  set s := s.set_onto past
  same _ := rfl

namespace Session

variable {s r : Session}

theorem Like.take_overPast {past : Store} (h : s.Like (overPast past) r) (i : Input) :
    (s.take i).Like (overPast past) (r.take i) := by
  refine h.take i fun c now _ _ => ?_
  obtain ⟨heard, rfl, clocks⟩ := h
  cases clocks
  exact Iff.rfl

theorem start_of_ok {a : Wire.Announcement} {safe : Bool} {now : Nat}
    (ok : (s.start a safe now).result = .ok ()) :
    s.acceptsAnnouncement = true ∧ safe = true ∧ a.size ≠ 0 ∧
      ∃ capacity w store, s.store.slot = .ok capacity ∧ ¬ capacity < a.size.toNat ∧
        s.store.openWriter = .ok (w, store) := by
  unfold start at ok
  split at ok
  · cases ok
  rename_i free
  split at ok
  · cases ok
  rename_i power
  split at ok
  · cases ok
  rename_i size
  refine ⟨by simpa using free, by simpa using power, size, ?_⟩
  cases slot : s.store.slot with
  | error e => simp [slot, Outcome.after, reject] at ok
  | ok capacity =>
    simp only [slot] at ok
    split at ok
    · cases ok
    rename_i fits
    cases opened : s.store.openWriter with
    | error e => simp [opened, Outcome.after, reject] at ok
    | ok found => exact ⟨capacity, found.1, found.2, rfl, fits, rfl⟩

def unused (s : Session) : Session := .ofStore s.store.pristine s.timing

theorem start_unused {a : Wire.Announcement} {safe : Bool} {now : Nat}
    (ok : (s.start a safe now).result = .ok ()) :
    (s.unused.start a safe now).Like (overPast s.store) (s.start a safe now) := by
  obtain ⟨free, power, size, capacity, w, store, slot, fits, opened⟩ := start_of_ok ok
  obtain ⟨store, first, rfl⟩ := Store.openWriter_pristine s.store opened
  have due : s.rebootAt = none := by simpa using (Bool.and_eq_true_iff.1 free).2
  have began : s.start a safe now = ⟨s.begin a w (store.onto s.store) now, .ok (),
      [.remark (.begun a.version a.size.toNat a.checksum), .notice .started]⟩ := by
    simp [start, free, power, size, slot, fits, opened]
  have began_unused : s.unused.start a safe now = ⟨s.unused.begin a w store now, .ok (),
      [.remark (.begun a.version a.size.toNat a.checksum), .notice .started]⟩ := by
    have slot : s.unused.store.slot = .ok capacity := slot
    have opened : s.unused.store.openWriter = .ok (w, store) := first
    have free : s.unused.acceptsAnnouncement = true := rfl
    simp [start, free, power, size, slot, fits, opened]
  rw [began, began_unused]
  exact ⟨⟨now, by simp [begin, unused, ofStore, overPast, due], rfl⟩, rfl, rfl⟩

/-- What can be seen of one input: the answer, and the session after it. `activated` is the image
that the input made the next one to run. -/
structure Sighting where
  reply : Reply
  effects : List Effect
  view : View
  progress : Nat
  version : String
  lastError : Option UpdateError
  activated : Option Octets

def sight (s : Session) (i : Input) : Sighting :=
  let o := s.take i
  { reply := o.result, effects := o.effects, view := o.session.view
    progress := o.session.progress, version := o.session.version
    lastError := o.session.lastError, activated := o.session.store.activated s.store }

def sightings (s : Session) : List Input → List Sighting
  | [] => []
  | i :: rest => s.sight i :: (s.take i).session.sightings rest

theorem Like.switches_eq {past : Store} (h : s.Like (overPast past) r) :
    r.store.switches = past.switches + s.store.switches := by
  obtain ⟨-, rfl, -⟩ := h
  rfl

/-- Of the session before an input only the counter of the store is compared with what comes after,
so the two need not be alike before it. -/
theorem sight_eq {past : Store} {i : Input}
    (before : r.store.switches = past.switches + s.store.switches)
    (next : (s.take i).Like (overPast past) (r.take i)) : r.sight i = s.sight i := by
  obtain ⟨heard, after, clocks⟩ := next.session
  cases clocks
  have activated : (r.take i).session.store.activated r.store =
      (s.take i).session.store.activated s.store := by
    rw [after]
    exact (s.take i).session.store.activated_onto past s.store r.store before
  simp only [sight, activated, next.result, next.effects]
  rw [after]
  rfl

theorem Like.sightings_eq {past : Store} (h : s.Like (overPast past) r) (later : List Input) :
    r.sightings later = s.sightings later := by
  induction later generalizing s r with
  | nil => rfl
  | cons i later ih =>
    have next := h.take_overPast i
    rw [sightings, sightings, sight_eq h.switches_eq next, ih next.session]

theorem sightings_unused {a : Wire.Announcement} {safe : Bool} {now : Nat}
    (ok : (s.start a safe now).result = .ok ()) (later : List Input) :
    s.sightings (.call (.start a safe now) :: later) =
      s.unused.sightings (.call (.start a safe now) :: later) := by
  have h := start_unused ok
  have next : (s.unused.take (.call (.start a safe now))).Like (overPast s.store)
      (s.take (.call (.start a safe now))) :=
    ⟨h.session, congrArg Reply.verdict h.result, h.effects⟩
  rw [sightings, sightings, sight_eq rfl next, next.session.sightings_eq]

/-- Two sessions that have taken the same announcement do the same from there on, whatever either
has been through before: they do what a session does that nobody has used. -/
theorem no_residue (s r : Session) (a : Wire.Announcement) (safe : Bool) (now : Nat)
    (timing : s.timing = r.timing) (store : s.store.pristine = r.store.pristine)
    (hs : (s.start a safe now).result = .ok ()) (hr : (r.start a safe now).result = .ok ())
    (later : List Input) :
    let history := .call (.start a safe now) :: later
    s.sightings history = r.sightings history ∧
      r.sightings history = (ofStore s.store.pristine s.timing).sightings history := by
  have same : r.unused = s.unused := by rw [unused, unused, timing, store]
  have hs := sightings_unused hs later
  have hr := sightings_unused hr later
  rw [same] at hr
  exact ⟨hs.trans hr.symm, hr⟩

theorem past_does_not_show :
    let first := fresh 8 ⟨50, 50, 50, 50, 50, 5⟩
    let lost := first.after
      [.call (.start ⟨"2", 2, 0⟩ true 0), .call (.chunk ⟨0, 1, [9]⟩ 1), .call (.abort .stalled)]
    let finished := first.after
      [.call (.start ⟨"2", 1, Checksum.ofOctets [7]⟩ true 0), .call (.chunk ⟨0, 1, [7]⟩ 1),
        .call .reset]
    let announced := Wire.Announcement.mk "3" 1 (Checksum.ofOctets [5])
    let history := [.call (.start announced true 10), .call (.chunk ⟨0, 1, [5]⟩ 11)]
    lost.lastError ≠ finished.lastError ∧ lost.store.nextBoot ≠ finished.store.nextBoot ∧
      lost.sightings history = finished.sightings history ∧
      (finished.sightings history).map Sighting.activated = [none, some [5]] := by
  intro first lost finished announced history
  have pasts : lost.timing = finished.timing ∧ lost.store.pristine = finished.store.pristine ∧
      lost.lastError ≠ finished.lastError ∧ lost.store.nextBoot ≠ finished.store.nextBoot := by
    decide +kernel
  obtain ⟨timing, store, error, boot⟩ := pasts
  have begun : (lost.start announced true 10).result = .ok () ∧
      (finished.start announced true 10).result = .ok () := by
    decide +kernel
  obtain ⟨same, -⟩ := no_residue lost finished announced true 10 timing store begun.1 begun.2
    [.call (.chunk ⟨0, 1, [5]⟩ 11)]
  exact ⟨error, boot, same, by decide +kernel⟩

end Session

end Update

end DoughAnalyzer
