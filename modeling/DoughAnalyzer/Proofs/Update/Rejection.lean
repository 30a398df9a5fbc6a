import DoughAnalyzer.Proofs.Update.Invariant

set_option autoImplicit false

namespace DoughAnalyzer.Update

structure Check where
  passes : Bool
  reason : UpdateError
  deriving DecidableEq, Repr

def firstFailure? (checks : List Check) : Option UpdateError :=
  (checks.find? fun c => !c.passes).map Check.reason

@[simp] theorem firstFailure?_nil : firstFailure? [] = none := rfl

@[simp] theorem firstFailure?_cons (c : Check) (checks : List Check) :
    firstFailure? (c :: checks) = if c.passes then firstFailure? checks else some c.reason := by
  rw [firstFailure?, List.find?_cons]
  cases c.passes <;> rfl

namespace Session

/-- Every condition of an announcement, in the order in which they count. -/
def startChecks (s : Session) (a : Wire.Announcement) (safeToFlash : Bool) : List Check :=
  [⟨s.status = .idle ∨ s.status = .error, .alreadyInProgress⟩,
    ⟨safeToFlash, .batteryTooLow⟩,
    ⟨a.size ≠ 0, .emptyImage⟩,
    ⟨s.store.hasSlot, .noPartition⟩,
    ⟨a.size.toNat ≤ s.store.capacity, .imageTooLarge⟩,
    ⟨!s.store.failOpen, .noPartition⟩]

theorem firstFailure?_startChecks {s : Session} (h : s.Settled) (a : Wire.Announcement)
    (safe : Bool) :
    firstFailure? (s.startChecks a safe) =
      if s.acceptsAnnouncement then s.startFault? a safe else some .alreadyInProgress := by
  have free := h.accepts_iff
  unfold startChecks startFault?
  by_cases accepts : s.acceptsAnnouncement = true
  · simp only [firstFailure?_cons, firstFailure?_nil, free.1 accepts, accepts]
    grind
  · simp [accepts, mt free.2 accepts]

/-- The first check that fails is all there is to a refusal. -/
theorem start_of_firstFailure {s : Session} (h : s.Settled) (a : Wire.Announcement) (safe : Bool)
    (now : Nat) {reason : UpdateError} (why : firstFailure? (s.startChecks a safe) = some reason) :
    ∃ effects, s.start a safe now = ⟨s, .error reason, effects⟩ ∧
      notices effects = if reason = .alreadyInProgress then [] else [.error reason 0] := by
  rw [firstFailure?_startChecks h] at why
  by_cases free : s.acceptsAnnouncement = true
  · rw [if_pos free] at why
    obtain ⟨remarks, answer⟩ := start_of_fault h a safe now free why
    have other : reason ≠ .alreadyInProgress := by
      rintro rfl
      exact startFault?_ne_alreadyInProgress s a safe why
    refine ⟨_, answer, ?_⟩
    rw [if_neg other, notices_append, notices_map_remark]
    rfl
  · rw [if_neg free] at why
    cases why
    exact ⟨[.remark (.ignored a.version)], by simp [start, free], rfl⟩

theorem start_error_iff {s : Session} (h : s.Settled) (a : Wire.Announcement) (safe : Bool)
    (now : Nat) (reason : UpdateError) :
    (s.start a safe now).result = .error reason ↔
      firstFailure? (s.startChecks a safe) = some reason := by
  cases why : firstFailure? (s.startChecks a safe) with
  | none =>
    rw [firstFailure?_startChecks h] at why
    have accepted : (s.start a safe now).result = .ok () := by
      rw [start_ok_iff h]
      by_cases free : s.acceptsAnnouncement = true
      · exact ⟨free, by rwa [if_pos free] at why⟩
      · simp [free] at why
    simp [accepted]
  | some first =>
    obtain ⟨effects, answer, -⟩ := start_of_firstFailure h a safe now why
    simp [answer]

/-- An announcement is accepted exactly if it meets every condition. Otherwise it is refused for the
first one that it does not meet; then the session and its store stay exactly as they were, and all
that is told is one notice of the reason, or nothing at all while an update runs or an activated
image waits for its reboot. -/
theorem refused_start_is_atomic (capacity : Nat) (timing : Timing) (history : List Input)
    (a : Wire.Announcement) (safe : Bool) (now : Nat) :
    let s := (fresh capacity timing).after history
    let o := s.start a safe now
    (o.result = .ok () ↔
      (s.status = .idle ∨ s.status = .error) ∧ safe = true ∧ a.size ≠ 0 ∧
        s.store.hasSlot = true ∧ a.size.toNat ≤ capacity ∧ s.store.failOpen = false) ∧
    (∀ reason, o.result = .error reason ↔ firstFailure? (s.startChecks a safe) = some reason) ∧
    ∀ reason, o.result = .error reason →
      o.session = s ∧
        notices o.effects = if reason = .alreadyInProgress then [] else [.error reason 0] := by
  intro s o
  obtain ⟨h, slot⟩ := settled_after_fresh capacity timing history
  refine ⟨?_, start_error_iff h a safe now, fun reason failed => ?_⟩
  · rw [start_ok_iff h, h.accepts_iff, startFault?_eq_none_iff, slot]
  · have why := (start_error_iff h a safe now reason).1 failed
    obtain ⟨effects, answer, told⟩ := start_of_firstFailure h a safe now why
    have same : o = ⟨s, .error reason, effects⟩ := answer
    rw [same]
    exact ⟨rfl, told⟩

end Session

end DoughAnalyzer.Update
