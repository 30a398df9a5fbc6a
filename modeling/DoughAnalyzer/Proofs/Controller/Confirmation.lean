import DoughAnalyzer.Proofs.Controller.Sleep

set_option autoImplicit false

namespace DoughAnalyzer

def Request.isConfirmation : Request → Bool
  | markRunningValid | emit .firmwareConfirmed => true
  | _ => false

/-- Whether an exchange is an attempt that succeeded. -/
def Exchange.confirms : Exchange → Bool
  | ⟨.markRunningValid, .ok ()⟩ => true
  | _ => false

def confirmations (exchanges : List Exchange) : List Exchange :=
  exchanges.filter (·.request.isConfirmation)

def successes (exchanges : List Exchange) : Nat := exchanges.countP Exchange.confirms

def attempt (r : Except PlatformError Unit) : List Exchange :=
  ⟨.markRunningValid, r⟩ :: if r.isOk then [⟨.emit .firmwareConfirmed, ()⟩] else []

theorem Exchange.isConfirmation_of_confirms (e : Exchange) (h : e.confirms = true) :
    e.request.isConfirmation = true := by
  unfold confirms at h
  split at h
  · rfl
  · cases h

theorem successes_confirmations (exchanges : List Exchange) :
    successes (confirmations exchanges) = successes exchanges := by
  unfold successes confirmations
  rw [List.countP_filter]
  refine List.countP_congr fun e _ => ?_
  rw [Bool.and_eq_true, and_iff_left_iff_imp]
  exact e.isConfirmation_of_confirms

theorem successes_append (x y : List Exchange) : successes (x ++ y) = successes x + successes y :=
  List.countP_append

theorem successes_attempt (r : Except PlatformError Unit) :
    successes (attempt r) = r.isOk.toNat := by
  rcases r with e | ⟨⟩ <;> rfl

theorem Request.isConfirmation_of_isPreparation (q : Request) (h : q.isPreparation = true) :
    q.isConfirmation = false := by
  unfold isConfirmation
  split
  · cases h
  · cases h
  · rfl

namespace Controller

open Dialogue (Runs)

variable {c c' between : Controller} {now : Nat} {p : Phase} {exchanges done : List Exchange}
  {move : Option (Phase × Nat)}

/-- What may have come of a chance to confirm the running image. -/
structure Tried (c : Controller) (exchanges : List Exchange) (c' : Controller) : Prop where
  due : c.boot.pending = true →
    ∃ r, confirmations exchanges = attempt r ∧ c'.boot = c.boot.confirmed r
  settled : c.boot.pending = false → confirmations exchanges = [] ∧ c'.boot = c.boot

theorem Branch.tried (b : c.Branch now .connectingControlChannel done between move)
    (up : ⟨.channelConnected, true⟩ ∈ done) :
    c.Tried done (between.goes move) ∧ (between.goes move).lifecycle.current = .sensing := by
  cases b with
  | channelUp settled =>
    refine ⟨⟨fun due => ?_, fun _ => ⟨rfl, rfl⟩⟩, Lifecycle.moveTo_current _ _ _⟩
    simp [settled] at due
  | confirmed due =>
    refine ⟨⟨fun _ => ⟨.ok (), rfl, rfl⟩, fun settled => ?_⟩, Lifecycle.moveTo_current _ _ _⟩
    simp [due] at settled
  | unconfirmed due e =>
    refine ⟨⟨fun _ => ⟨.error e, rfl, rfl⟩, fun settled => ?_⟩, Lifecycle.moveTo_current _ _ _⟩
    simp [due] at settled
  | _ => simp at up

theorem Branch.untried (b : c.Branch now p done between move)
    (h : ¬ (p = .connectingControlChannel ∧ ⟨.channelConnected, true⟩ ∈ done)) :
    confirmations done = [] ∧ (between.goes move).boot = c.boot := by
  cases b with
  | channelUp | confirmed | unconfirmed => exact absurd ⟨rfl, List.mem_cons_self⟩ h
  | _ => exact ⟨rfl, rfl⟩

theorem Tried.successes_eq (h : c.Tried exchanges c') :
    c'.boot.pending.toNat + successes exchanges = c.boot.pending.toNat := by
  rw [← successes_confirmations]
  cases pending : c.boot.pending with
  | false =>
    obtain ⟨hnil, hboot⟩ := h.settled pending
    rw [hnil, hboot, pending]
    rfl
  | true =>
    obtain ⟨r, hattempt, hboot⟩ := h.due pending
    rw [hattempt, hboot, successes_attempt]
    rcases r with e | ⟨⟩
    · simp [BootCheck.confirmed, pending, Except.isOk, Except.toBool]
    · rfl

namespace Course

def Passes (t : c.Course) : Prop :=
  t.polled.lifecycle.current = .connectingControlChannel ∧ ⟨.channelConnected, true⟩ ∈ t.working

theorem confirmations_eq (t : c.Course) :
    confirmations t.exchanges = confirmations (asked t.working) :=
  t.filter_exchanges Request.isConfirmation_of_isPreparation fun event change => by
    cases event <;> first | rfl | cases change

theorem tried_of_passes (t : c.Course) (h : t.Passes) :
    c.Tried t.exchanges t.worked ∧ t.worked.lifecycle.current = .sensing := by
  obtain ⟨waiting, up⟩ := h
  obtain ⟨between, move, b, hworked⟩ := ends_of_runs t.done
  rw [waiting] at b
  obtain ⟨⟨due, settled⟩, sensing⟩ := b.tried (List.mem_filter.2 ⟨up, rfl⟩)
  rw [← hworked, ← t.confirmations_eq, t.prepares.2.boot] at due settled
  exact ⟨⟨due, settled⟩, hworked ▸ sensing⟩

theorem untried_of_not_passes (t : c.Course) (h : ¬ t.Passes) :
    confirmations t.exchanges = [] ∧ t.worked.boot = c.boot := by
  obtain ⟨between, move, b, hworked⟩ := ends_of_runs t.done
  obtain ⟨hnil, hboot⟩ := b.untried fun passes => h ⟨passes.1, (List.mem_filter.1 passes.2).1⟩
  rw [t.confirmations_eq, hworked, hboot, t.prepares.2.boot]
  exact ⟨hnil, rfl⟩

theorem successes_eq (t : c.Course) :
    t.worked.boot.pending.toNat + successes t.exchanges = c.boot.pending.toNat := by
  by_cases h : t.Passes
  · exact (t.tried_of_passes h).1.successes_eq
  · obtain ⟨hnil, hboot⟩ := t.untried_of_not_passes h
    rw [← successes_confirmations, hnil, hboot]
    rfl

end Course

variable {first : Controller} {log : List (List Exchange)}

/-- What was due at the start has either succeeded or is still due. -/
theorem Ticks.successes_eq (h : Ticks first log c) :
    c.boot.pending.toNat + successes log.flatten = first.boot.pending.toNat := by
  induction h with
  | none => rfl
  | @tick log c c' exchanges before run ih =>
    obtain ⟨t, rfl, rfl⟩ := (runs_tick_iff _ _ _).1 run
    have step := t.successes_eq
    rw [List.flatten_append, successes_append, List.flatten_singleton]
    omega
  | fault before f ih => exact ih

theorem Ticks.pending_iff (h : Ticks first log c) :
    c.boot.pending = true ↔ first.boot.pending = true ∧ successes log.flatten = 0 := by
  have total := h.successes_eq
  have one : first.boot.pending.toNat ≤ 1 := Bool.toNat_le _
  rw [← Bool.toNat_eq_one, ← Bool.toNat_eq_one]
  omega

/-- Whatever the replies are, a tick attempts to confirm the running image once or not at all. It
does so when the phase that waits for the control channel finds it up, if the image was pending at
the start and no attempt of the run has succeeded yet; the event goes with the attempt that
succeeds. The device then goes on to sensing in either case. The image stays pending as long as no
attempt succeeds, and no more than one does. -/
theorem confirms_until_success {config : Config} {store : Store} {id : String} {boot : BootCheck}
    {start : Nat} (before : Ticks (initial config store id boot start) log c)
    (run : Runs c.tick exchanges c') :
    (∃ t : c.Course, t.exchanges = exchanges ∧ t.worked = c' ∧
      (t.Passes → c'.lifecycle.current = .sensing) ∧
      (t.Passes ∧ boot.pending = true ∧ successes log.flatten = 0 →
        ∃ r, confirmations exchanges = attempt r) ∧
      (¬ (t.Passes ∧ boot.pending = true ∧ successes log.flatten = 0) →
        confirmations exchanges = [])) ∧
    (c'.boot.pending = true ↔
      boot.pending = true ∧ successes (log ++ [exchanges]).flatten = 0) ∧
    successes (log ++ [exchanges]).flatten ≤ boot.pending.toNat := by
  have after := before.tick run
  have total : _ = boot.pending.toNat := after.successes_eq
  refine ⟨?_, after.pending_iff, by omega⟩
  have pending : _ ↔ boot.pending = true ∧ _ := before.pending_iff
  obtain ⟨t, rfl, rfl⟩ := (runs_tick_iff _ _ _).1 run
  refine ⟨t, rfl, rfl, fun passes => (t.tried_of_passes passes).2, ?_, ?_⟩
  · rintro ⟨passes, due⟩
    obtain ⟨r, hattempt, -⟩ := (t.tried_of_passes passes).1.due (pending.2 due)
    exact ⟨r, hattempt⟩
  · intro none
    by_cases passes : t.Passes
    · have settled : c.boot.pending = false :=
        Bool.eq_false_iff.2 fun due => none ⟨passes, pending.1 due⟩
      exact ((t.tried_of_passes passes).1.settled settled).1
    · exact (t.untried_of_not_passes passes).1

theorem bench_confirms_on_retry :
    let s := Bench.tickTimes none 8 (initial {} { capacity := 8 } "a" (.read true) 0)
      { platform := { failMarkValid := true } }
    let exchanges := s.1.tick.exchanges Bench.respond { s.2 with platform := {} }
    s.2.markCalls = 1 ∧ s.1.boot.pending = true ∧ confirmations exchanges = attempt (.ok ()) := by
  intro s exchanges
  have start : Ticks (initial {} { capacity := 8 } "a" (.read true) 0) [] _ := .none
  obtain ⟨log, before⟩ := ticks_tickTimes 8 { platform := { failMarkValid := true } } start
  have run := Dialogue.runs_run Bench.respond s.1.tick { s.2 with platform := {} }
  have calls : s.2.markCalls = 1 := by decide +kernel
  have pending : s.1.boot.pending = true := by decide +kernel
  have asks : (confirmations exchanges).length = 2 := by decide +kernel
  refine ⟨calls, pending, ?_⟩
  obtain ⟨⟨t, -, -, -, attempts, waits⟩, -⟩ := confirms_until_success before run
  by_cases due : t.Passes ∧ (BootCheck.read true).pending = true ∧ successes log.flatten = 0
  · obtain ⟨r, hattempt⟩ := attempts due
    change confirmations exchanges = attempt r at hattempt
    rw [hattempt] at asks ⊢
    rcases r with e | ⟨⟩
    · cases asks
    · rfl
  · have none : confirmations exchanges = [] := waits due
    simp [none] at asks

end Controller

end DoughAnalyzer
