import DoughAnalyzer.Proofs.Controller.PhaseTable
import DoughAnalyzer.Proofs.Update.Reboot
import Mathlib.Algebra.Ring.Nat

/-!
The restarts that a run asks for. There are two causes, each with a delay of its own and each good
for one restart: an update whose reboot is due, and an error phase that has lasted. A restart that
does not come about is not asked for again.
-/

set_option autoImplicit false

namespace DoughAnalyzer

namespace Update.Session

/-- What a tick may bring to the update before it polls it. -/
def Input.IsNews (now : Nat) : Input → Prop
  | .call (.start _ _ time) | .call (.chunk _ time) | .call (.reconnect time) => time = now
  | _ => False

def Stays (s s' : Session) : Prop := s'.status = s.status ∧ s'.rebootAt = s.rebootAt

/-- An image is put in place, and the reboot is due after the delay. -/
structure Activates (s : Session) (now : Nat) (s' : Session) : Prop where
  complete : s'.status = .complete
  due : s'.rebootAt = some (now + s.timing.rebootDelay)
  switched : s.store.switches < s'.store.switches

variable {s : Session} {i : Input} {o : Outcome Reply} {now : Nat}

theorem Stays.hasImage_iff {s' : Session} (h : s.Stays s') : s'.HasImage ↔ s.HasImage := by
  rw [HasImage, HasImage, h.1]

theorem Transition.stays (t : Transition s i o) (h : s.Settled) (news : i.IsNews now)
    (active : s.HasImage) : s.Stays o.session := by
  have hbusy := h.busy_of_hasImage active
  cases t with
  | startIgnored | chunkUnexpected | reconnectIgnored => exact ⟨rfl, rfl⟩
  | startRejected a safe now reason remarks free | started a safe now free => simp [hbusy] at free
  | fault | abortIgnored | aborted | reset | pollIdle | pollQuiet | pollWarned | timedOut
  | rebooted => cases news
  | _ => exact absurd ‹s.status = .downloading› active.not_running

theorem Transition.switches_of_completes (t : Transition s i o) (hc : Completes i o) :
    o.session.store.switches = s.store.switches + 1 := by
  obtain ⟨⟨c', now', hi⟩, hresult, hcomplete⟩ := hc
  cases t with
  | imageActivated c now w running holds sound =>
    obtain ⟨notified, hgrown⟩ := grown_eq sound
    simp [activated, hgrown, Store.release]
  | chunkTaken c now w running holds sound =>
    obtain ⟨notified, hgrown⟩ := grown_eq sound
    simp [hgrown, running] at hcomplete
  | chunkUnexpected | chunkFailed | imageRefused => cases hresult
  | _ => cases hi

theorem Transition.switches_le (t : Transition s i o) :
    s.store.switches ≤ o.session.store.switches := by
  by_cases hc : Completes i o
  · have hswitched := t.switches_of_completes hc
    omega
  · exact Nat.le_of_eq (t.boot_of_not_completes hc).1.symm

theorem Transition.activates (t : Transition s i o) (inactive : ¬ s.HasImage)
    (news : i.IsNews now) (active : o.session.HasImage) : s.Activates now o.session := by
  have hc := (t.hasImage_iff inactive).1 active
  have hswitched := t.switches_of_completes hc
  obtain ⟨⟨c, time, rfl⟩, -⟩ := id hc
  obtain rfl : time = now := news
  rcases hc.awaits t with ⟨complete, due, -⟩ | ⟨-, i, hi, -⟩
  · exact ⟨complete, due, by omega⟩
  · cases hi

theorem stays_after (h : s.Settled) {inputs : List Input} (news : ∀ i ∈ inputs, i.IsNews now)
    (active : s.HasImage) : s.Stays (s.after inputs) := by
  induction inputs generalizing s with
  | nil => exact ⟨rfl, rfl⟩
  | cons i rest ih =>
    obtain ⟨first, later⟩ := List.forall_mem_cons.1 news
    have t := take_transition h i
    have stays := t.stays h first active
    have stayed := ih (t.settled h) later (stays.hasImage_iff.2 active)
    exact ⟨stayed.1.trans stays.1, stayed.2.trans stays.2⟩

theorem switches_le_after (h : s.Settled) (inputs : List Input) :
    s.store.switches ≤ (s.after inputs).store.switches := by
  induction inputs generalizing s with
  | nil => exact Nat.le_refl _
  | cons i rest ih =>
    have t := take_transition h i
    exact Nat.le_trans t.switches_le (ih (t.settled h))

theorem activates_after (h : s.Settled) {inputs : List Input}
    (news : ∀ i ∈ inputs, i.IsNews now) (inactive : ¬ s.HasImage)
    (active : (s.after inputs).HasImage) : s.Activates now (s.after inputs) := by
  induction inputs generalizing s with
  | nil => exact absurd active inactive
  | cons i rest ih =>
    obtain ⟨first, later⟩ := List.forall_mem_cons.1 news
    have t := take_transition h i
    by_cases early : (s.take i).session.HasImage
    · have activated := t.activates inactive first early
      have stayed := stays_after (t.settled h) later early
      have switched := switches_le_after (t.settled h) rest
      exact ⟨stayed.1.trans activated.complete, stayed.2.trans activated.due,
        Nat.lt_of_lt_of_le activated.switched switched⟩
    · have later := ih (t.settled h) later early active
      refine ⟨later.complete, ?_, Nat.lt_of_le_of_lt t.switches_le later.switched⟩
      rw [← timing_after h [i]]
      exact later.due

theorem poll_cases (h : s.Settled) (now : Nat) :
    (s.poll now).result = .rebootNow ∧ s.status = .complete ∧
        (s.poll now).session.status = .rebooting ∧ (∃ time, s.rebootAt = some time ∧ time ≤ now) ∨
      (s.poll now).result = .idle ∧
        (s.Stays (s.poll now).session ∨ ¬ s.HasImage ∧ ¬ (s.poll now).session.HasImage) := by
  have t := take_transition h (.call (.poll now))
  have hsession : (s.poll now).session = (s.take (.call (.poll now))).session := rfl
  have hresult : .poll (s.poll now).result = (s.take (.call (.poll now))).result := rfl
  rw [hsession]
  generalize s.take (.call (.poll now)) = o at t hresult
  cases t with
  | rebooted now time complete due late =>
    exact .inl ⟨Reply.poll.inj hresult, complete, rfl, time, due, late⟩
  | pollIdle | pollQuiet | pollWarned =>
    exact .inr ⟨Reply.poll.inj hresult, .inl ⟨rfl, rfl⟩⟩
  | timedOut now reason running =>
    refine .inr ⟨Reply.poll.inj hresult, .inr ⟨?_, ?_⟩⟩
    · simp [HasImage, running]
    · simp [HasImage, ended]

end Update.Session

open Update (Session)

def Request.isRestart : Request → Bool
  | restart => true
  | _ => false

def restarts (exchanges : List Exchange) : Nat := (requests exchanges).countP Request.isRestart

theorem restarts_append (x y : List Exchange) : restarts (x ++ y) = restarts x + restarts y := by
  rw [restarts, requests_append, List.countP_append]
  rfl

theorem restarts_eq_zero {exchanges : List Exchange}
    (none : ∀ e ∈ exchanges, e.request.isRestart = false) : restarts exchanges = 0 := by
  refine List.countP_eq_zero.2 fun q hq => ?_
  obtain ⟨e, he, rfl⟩ := List.mem_map.1 hq
  simp [none e (List.mem_of_mem_filter he)]

namespace Controller

open Dialogue (Runs)

variable {c c' between first : Controller} {now : Nat} {p : Phase} {exchanges done : List Exchange}
  {move : Option (Phase × Nat)}

theorem Branch.requested_iff (b : c.Branch now p done between move) :
    ((between.goes move).restartRequested = true ↔ c.restartRequested = true ∨
        p = .error ∧ c.config.errorRestartDelay.toNat ≤ c.lifecycle.elapsed now) ∧
      (done.map (·.request)).countP Request.isRestart + c.restartRequested.toNat =
        (between.goes move).restartRequested.toNat := by
  cases b with
  | restarted first late =>
    have late' := (decide_eq_true_iff).1 late
    simp [goes, first, late', Request.isRestart]
  | restartEarly first early =>
    have early' := (decide_eq_false_iff_not).1 early
    simp [goes, first, early']
  | restartAwaited before => simp [goes, before]
  | _ => simp [goes, Request.isRestart]

namespace Course

theorem drained_feeds (t : c.Course) :
    ∃ inputs, (∀ i ∈ inputs, Session.Input.IsNews t.now i) ∧ c.Feeds inputs t.drained := by
  obtain ⟨-, started⟩ := c.announceStart_feeds.of_runs t.opened
  obtain ⟨-, resumed, hresumed, tracked⟩ := (t.started.trackChannel_feeds t.now).of_runs t.followed
  obtain ⟨brought, -, hbrought, drained, -⟩ := runs_drain t.taken
  refine ⟨resumed ++ brought.flatten, ?_, (started.trans tracked).trans drained⟩
  rw [List.forall_mem_append]
  refine ⟨?_, forall_brought hbrought (fun _ _ => rfl) fun _ => rfl⟩
  rcases hresumed with rfl | rfl <;> simp [Session.Input.IsNews]

theorem drained_settled (t : c.Course) (settled : c.session.Settled) :
    t.drained.session.Settled := by
  obtain ⟨inputs, -, fed⟩ := t.drained_feeds
  rw [fed.session]
  exact Session.settled_after settled inputs

theorem stays (t : c.Course) (settled : c.session.Settled) (active : c.session.HasImage) :
    c.session.Stays t.drained.session := by
  obtain ⟨inputs, news, fed⟩ := t.drained_feeds
  rw [fed.session]
  exact Session.stays_after settled news active

theorem activates (t : c.Course) (settled : c.session.Settled) (inactive : ¬ c.session.HasImage)
    (active : t.drained.session.HasImage) : c.session.Activates t.now t.drained.session := by
  obtain ⟨inputs, news, fed⟩ := t.drained_feeds
  rw [fed.session] at active ⊢
  exact Session.activates_after settled news inactive active

theorem poll_cases (t : c.Course) (settled : c.session.Settled) :
    restarts t.polling = 1 ∧ t.drained.session.status = .complete ∧
        t.polled.session.status = .rebooting ∧
        (∃ time, t.drained.session.rebootAt = some time ∧ time ≤ t.now) ∨
      restarts t.polling = 0 ∧ (t.drained.session.Stays t.polled.session ∨
        ¬ t.drained.session.HasImage ∧ ¬ t.polled.session.HasImage) := by
  obtain ⟨hasked, hpolled⟩ := runs_pollUpdate t.timed
  have unreported (notices : List Update.Notice) :
      (t.drained.reports notices).countP Request.isRestart = 0 := by
    refine List.countP_eq_zero.2 fun q hq => ?_
    obtain ⟨n, -, rfl⟩ := List.mem_map.1 hq
    simp [Request.isRestart]
  rw [restarts, hasked, List.countP_append, unreported, Nat.zero_add, hpolled]
  rcases Session.poll_cases (t.drained_settled settled) t.now with
    ⟨result, complete, rebooting, due⟩ | ⟨result, rests⟩
  · rw [result]
    exact .inl ⟨rfl, complete, rebooting, due⟩
  · rw [result]
    exact .inr ⟨rfl, rests⟩

theorem drained_rebooting_iff (t : c.Course) (settled : c.session.Settled) :
    t.drained.session.status = .rebooting ↔ c.session.status = .rebooting := by
  constructor
  · intro rebooting
    by_cases active : c.session.HasImage
    · exact (t.stays settled active).1.symm.trans rebooting
    · have complete := (t.activates settled active (.inr rebooting)).complete
      simp [rebooting] at complete
  · exact fun rebooting => (t.stays settled (.inr rebooting)).1.trans rebooting

theorem rebooting_eq (t : c.Course) (settled : c.session.Settled) :
    (decide (t.worked.session.status = .rebooting)).toNat =
      (decide (c.session.status = .rebooting)).toNat + restarts t.polling := by
  rw [t.sleepRequests_eq.2.session]
  rcases t.poll_cases settled with ⟨one, complete, rebooting, -⟩ | ⟨none, stays | ⟨before, after⟩⟩
  · have unbooted : c.session.status ≠ .rebooting := by
      rw [ne_eq, ← t.drained_rebooting_iff settled, complete]
      decide
    simp [one, rebooting, unbooted]
  · simp only [none, stays.1, t.drained_rebooting_iff settled, Nat.add_zero]
  · have unbooted : c.session.status ≠ .rebooting := fun rebooting =>
      before (.inr ((t.drained_rebooting_iff settled).2 rebooting))
    have unbootedAfter : t.polled.session.status ≠ .rebooting := fun rebooting =>
      after (.inr rebooting)
    simp [none, unbooted, unbootedAfter]

theorem due_cases (t : c.Course) (settled : c.session.Settled)
    (complete : t.drained.session.status = .complete) :
    c.session.status = .complete ∧ t.drained.session.rebootAt = c.session.rebootAt ∨
      c.session.store.switches < t.drained.session.store.switches ∧
        t.drained.session.rebootAt = some (t.now + c.session.timing.rebootDelay) := by
  by_cases active : c.session.HasImage
  · have stays := t.stays settled active
    exact .inl ⟨stays.1.symm.trans complete, stays.2⟩
  · have activates := t.activates settled active (.inl complete)
    exact .inr ⟨activates.switched, activates.due⟩

theorem restarts_eq (t : c.Course) :
    restarts t.exchanges = restarts t.polling + restarts t.working := by
  have unasked {stage : Stage} {x : List Exchange} (other : stage ≠ .polling)
      (asks : ∀ e ∈ x, stage.Asks c.topics e.request) : restarts x = 0 := by
    refine restarts_eq_zero fun e he => ?_
    have owned := asks e he
    generalize e.request = q at owned ⊢
    cases q with
    | restart => cases stage <;> first | exact absurd rfl other | cases owned
    | _ => rfl
  have opening := unasked (by decide) t.opening_asks
  have tracking := unasked (by decide) t.tracking_asks
  have draining := unasked (by decide) t.draining_asks
  have closing : restarts t.closing = 0 := by
    refine restarts_eq_zero fun e he => ?_
    obtain ⟨event, hevent, -⟩ := t.closing_emits e he
    rw [hevent]
    rfl
  have clock : restarts [⟨.clock, t.now⟩] = 0 := rfl
  have keeping : restarts [⟨.pollNetwork t.now, ()⟩] = 0 := rfl
  rw [exchanges, preparing, ← List.singleton_append]
  simp only [restarts_append, clock, opening, tracking, draining, keeping, closing]
  omega

theorem restarts_polling_pos_iff (t : c.Course) (settled : c.session.Settled) :
    0 < restarts t.polling ↔
      t.drained.session.status = .complete ∧ t.polled.session.status = .rebooting := by
  rcases t.poll_cases settled with ⟨one, complete, rebooting, -⟩ | ⟨none, stays | ⟨-, after⟩⟩
  · simp [one, complete, rebooting]
  · simp +contextual [none, stays.1]
  · have unbooted : t.polled.session.status ≠ .rebooting := fun rebooting => after (.inr rebooting)
    simp [none, unbooted]

theorem requested_iff (t : c.Course) :
    (t.worked.restartRequested = true ↔ c.restartRequested = true ∨
        c.lifecycle.current = .error ∧
          c.config.errorRestartDelay.toNat ≤ c.lifecycle.elapsed t.now) ∧
      restarts t.working + c.restartRequested.toNat = t.worked.restartRequested.toNat := by
  obtain ⟨between, move, b, hworked⟩ := ends_of_runs t.done
  have kept := t.prepares.2.toKeeps
  have requested := b.requested_iff
  rw [← hworked, kept.restartRequested, kept.lifecycle, kept.config] at requested
  exact requested

theorem restarts_working_pos_iff (t : c.Course) :
    0 < restarts t.working ↔ c.restartRequested = false ∧ c.lifecycle.current = .error ∧
      c.config.errorRestartDelay.toNat ≤ c.lifecycle.elapsed t.now := by
  obtain ⟨requested, count⟩ := t.requested_iff
  cases before : c.restartRequested with
  | true =>
    have after := requested.2 (.inl before)
    simp only [before, after, Bool.toNat_true] at count
    simp only [Bool.true_eq_false, false_and, iff_false]
    omega
  | false =>
    rw [before] at requested count
    rw [Bool.toNat_false, Nat.add_zero] at count
    rw [count, Nat.pos_iff_ne_zero, ne_eq, Bool.toNat_eq_zero, Bool.not_eq_false, requested]
    simp

end Course

/-- A tick of a run, with the controller that it began with. -/
structure Turn where
  start : Controller
  course : start.Course

namespace Turn

def Switches (x : Turn) : Prop :=
  x.start.session.store.switches < x.course.drained.session.store.switches

def Reboots (x : Turn) : Prop :=
  x.course.drained.session.status = .complete ∧ x.course.polled.session.status = .rebooting

def Fails (x : Turn) : Prop :=
  x.start.lifecycle.current ≠ .error ∧ x.course.worked.lifecycle.current = .error

def Overdue (x : Turn) (delay : Nat) : Prop :=
  x.start.lifecycle.current = .error ∧ delay ≤ x.start.lifecycle.elapsed x.course.now

end Turn

/-- A run with the course of each of its ticks. -/
inductive Trail (first : Controller) : List Turn → Controller → Prop where
  | none : Trail first [] first
  | tick {turns : List Turn} {c : Controller} (before : Trail first turns c) (t : c.Course) :
      Trail first (turns ++ [⟨c, t⟩]) t.worked
  | fault {turns : List Turn} {c : Controller} (before : Trail first turns c)
      (f : Store.Setting) :
      Trail first turns { c with session := (c.session.take (.fault f)).session }

variable {turns earlier later : List Turn} {log : List (List Exchange)}

theorem Ticks.trail (h : Ticks first log c) :
    ∃ turns, Trail first turns c ∧ turns.map (·.course.exchanges) = log := by
  induction h with
  | none => exact ⟨[], .none, rfl⟩
  | tick before run ih =>
    obtain ⟨turns, trail, hlog⟩ := ih
    obtain ⟨t, hexchanges, rfl⟩ := (runs_tick_iff _ _ _).1 run
    exact ⟨_, trail.tick t, by simp [hlog, hexchanges]⟩
  | fault before f ih =>
    obtain ⟨turns, trail, hlog⟩ := ih
    exact ⟨turns, trail.fault f, hlog⟩

theorem Trail.ticks (h : Trail first turns c) :
    Ticks first (turns.map (·.course.exchanges)) c := by
  induction h with
  | none => exact .none
  | tick before t ih =>
    rw [List.map_append]
    exact ih.tick ((runs_tick_iff _ _ _).2 ⟨t, rfl, rfl⟩)
  | fault before f ih => exact ih.fault f

theorem Trail.before {x : Turn} (h : Trail first turns c) (split : turns = earlier ++ x :: later) :
    Trail first earlier x.start := by
  induction h generalizing later with
  | none => simp at split
  | tick before t ih =>
    rcases List.eq_nil_or_concat later with rfl | ⟨later, last, rfl⟩
    · obtain ⟨rfl, hx⟩ := List.append_inj' split rfl
      cases hx
      exact before
    · rw [List.concat_eq_append, ← List.cons_append, ← List.append_assoc] at split
      exact ih (List.append_inj' split rfl).1
  | fault before f ih => exact ih split

theorem Trail.settled (h : Trail first turns c) (settled : first.session.Settled) :
    c.session.Settled :=
  h.ticks.settled settled

theorem Trail.timing_eq (h : Trail first turns c) (settled : first.session.Settled) :
    c.session.timing = first.session.timing := by
  induction h with
  | none => rfl
  | tick before t ih =>
    obtain ⟨inputs, hinputs⟩ := t.prepares.2.session
    rw [t.sleepRequests_eq.2.session, hinputs,
      Session.timing_after (before.settled settled) inputs, ih]
  | fault before f ih => exact ih

theorem Trail.config_eq (h : Trail first turns c) : c.config = first.config := by
  induction h with
  | none => rfl
  | tick before t ih => rw [t.sleepRequests_eq.2.config, t.prepares.2.config, ih]
  | fault before f ih => exact ih

def updateRestarts (turns : List Turn) : Nat := (turns.map fun x => restarts x.course.polling).sum

def errorRestarts (turns : List Turn) : Nat := (turns.map fun x => restarts x.course.working).sum

theorem restarts_flatten (turns : List Turn) :
    restarts (turns.map (·.course.exchanges)).flatten =
      updateRestarts turns + errorRestarts turns := by
  induction turns with
  | nil => rfl
  | cons x turns ih =>
    rw [List.map_cons, List.flatten_cons, restarts_append, ih, x.course.restarts_eq]
    simp only [updateRestarts, errorRestarts, List.map_cons, List.sum_cons]
    omega

theorem Trail.updateRestarts_eq (h : Trail first turns c) (settled : first.session.Settled)
    (idle : first.session.status ≠ .rebooting) :
    updateRestarts turns = (decide (c.session.status = .rebooting)).toNat := by
  induction h with
  | none => simp [updateRestarts, idle]
  | @tick turns c before t ih =>
    rw [t.rebooting_eq (before.settled settled), ← ih]
    simp [updateRestarts]
  | fault before f ih => exact ih

theorem Trail.due (h : Trail first turns c) (settled : first.session.Settled)
    (idle : first.session.status ≠ .complete) (complete : c.session.status = .complete) :
    ∃ x ∈ turns, x.Switches ∧
      c.session.rebootAt = some (x.course.now + first.session.timing.rebootDelay) := by
  induction h with
  | none => exact absurd complete idle
  | @tick turns c before t ih =>
    have hc := before.settled settled
    rw [t.sleepRequests_eq.2.session] at complete ⊢
    rcases t.poll_cases hc with ⟨-, -, rebooting, -⟩ | ⟨-, stays | ⟨-, after⟩⟩
    · simp [rebooting] at complete
    · rw [stays.2]
      rcases t.due_cases hc (stays.1.symm.trans complete) with ⟨earlier, same⟩ | ⟨switched, due⟩
      · obtain ⟨x, hx, switched, due⟩ := ih earlier
        exact ⟨x, by simp [hx], switched, same.trans due⟩
      · rw [before.timing_eq settled] at due
        exact ⟨⟨c, t⟩, by simp, switched, due⟩
    · exact absurd (.inl complete) after
  | fault before f ih => exact ih complete

theorem Trail.reboot_late (h : Trail first turns c) (settled : first.session.Settled)
    (idle : first.session.status ≠ .complete) (t : c.Course)
    (reboots : Turn.Reboots ⟨c, t⟩) :
    ∃ x ∈ turns ++ [⟨c, t⟩], x.Switches ∧
      x.course.now + first.session.timing.rebootDelay ≤ t.now := by
  have hc := h.settled settled
  obtain ⟨complete, rebooting⟩ : t.drained.session.status = .complete ∧
      t.polled.session.status = .rebooting := reboots
  obtain ⟨time, hat, late⟩ : ∃ time, t.drained.session.rebootAt = some time ∧ time ≤ t.now := by
    rcases t.poll_cases hc with ⟨-, -, -, due⟩ | ⟨-, stays | ⟨before, -⟩⟩
    · exact due
    · simp [Session.Stays, complete, rebooting] at stays
    · exact absurd (.inl complete) before
  rcases t.due_cases hc complete with ⟨complete, same⟩ | ⟨switched, due⟩
  · obtain ⟨x, hx, switched, due⟩ := h.due settled idle complete
    cases due.symm.trans (same.symm.trans hat)
    exact ⟨x, by simp [hx], switched, late⟩
  · cases due.symm.trans hat
    rw [h.timing_eq settled] at late
    exact ⟨⟨c, t⟩, by simp, switched, late⟩

theorem Trail.overdue_iff (h : Trail first turns c) (fresh : first.restartRequested = false) :
    c.restartRequested = true ↔ ∃ x ∈ turns, x.Overdue first.config.errorRestartDelay.toNat := by
  induction h with
  | none => simp [fresh]
  | @tick turns c before t ih =>
    rw [t.requested_iff.1, ih, before.config_eq]
    simp [Turn.Overdue, or_and_right, exists_or]
  | fault before f ih => exact ih

theorem Trail.errorRestarts_eq (h : Trail first turns c) (fresh : first.restartRequested = false) :
    errorRestarts turns = c.restartRequested.toNat := by
  induction h with
  | none => simp [errorRestarts, fresh]
  | @tick turns c before t ih =>
    have step := t.requested_iff.2
    rw [← step, ← ih]
    simp [errorRestarts, Nat.add_comm]
  | fault before f ih => exact ih

theorem Leads.time_of_error {heard : List Exchange} {time : Nat}
    (h : c.Leads now heard p .error time) : time = now := by
  cases h <;> rfl

theorem Trail.failed (h : Trail first turns c) (sound : first.lifecycle.current ≠ .error)
    (failed : c.lifecycle.current = .error) :
    ∃ x ∈ turns, x.Fails ∧ c.lifecycle.enteredAt = x.course.now := by
  induction h with
  | none => exact absurd failed sound
  | @tick turns c before t ih =>
    rcases t.leads_or_stays with ⟨next, time, leads, moved, -⟩ | ⟨-, stayed⟩
    · rw [moved] at failed ⊢
      obtain rfl : next = .error := failed
      have fails : Turn.Fails ⟨c, t⟩ := ⟨leads.ne.symm, by rw [moved]⟩
      exact ⟨⟨c, t⟩, by simp, fails, leads.time_of_error⟩
    · rw [stayed] at failed ⊢
      obtain ⟨x, hx, fails⟩ := ih failed
      exact ⟨x, by simp [hx], fails⟩
  | fault before f ih => exact ih failed

/-- Whatever the replies are, a run asks for two restarts at most, one for the update and one for
the error phase. The update asks with the poll that takes it from its completion to the reboot. The
boot image was switched before, in a tick since which the delay has passed. The error phase asks in
the first tick that finds it to have lasted for its delay since it was entered. -/
theorem restarts_once_per_cause {config : Config} {store : Store} (unheld : store.live = 0)
    {id : String} {boot : BootCheck} {start : Nat}
    (h : Ticks (initial config store id boot start) log c) :
    restarts log.flatten ≤ 2 ∧
    ∃ turns, Trail (initial config store id boot start) turns c ∧
      turns.map (·.course.exchanges) = log ∧
      updateRestarts turns ≤ 1 ∧ errorRestarts turns ≤ 1 ∧
      ∀ earlier x later, turns = earlier ++ x :: later →
        restarts x.course.exchanges = restarts x.course.polling + restarts x.course.working ∧
        (0 < restarts x.course.polling ↔ x.Reboots) ∧
        (x.Reboots → ∃ y ∈ earlier ++ [x], y.Switches ∧
          y.course.now + config.rebootDelay.toNat ≤ x.course.now) ∧
        (0 < restarts x.course.working ↔ x.Overdue config.errorRestartDelay.toNat ∧
          ∀ y ∈ earlier, ¬ y.Overdue config.errorRestartDelay.toNat) ∧
        (x.start.lifecycle.current = .error →
          ∃ y ∈ earlier, y.Fails ∧ x.start.lifecycle.enteredAt = y.course.now) := by
  have settled : (initial config store id boot start).session.Settled := .ofStore unheld _
  obtain ⟨turns, trail, rfl⟩ := h.trail
  have update : updateRestarts turns ≤ 1 := by
    rw [trail.updateRestarts_eq settled (by intro h; cases h)]
    exact Bool.toNat_le _
  have error : errorRestarts turns ≤ 1 := by
    rw [trail.errorRestarts_eq rfl]
    exact Bool.toNat_le _
  refine ⟨?_, turns, trail, rfl, update, error, fun earlier x later split => ?_⟩
  · rw [restarts_flatten]
    omega
  have before := trail.before split
  refine ⟨x.course.restarts_eq,
    x.course.restarts_polling_pos_iff (before.settled settled),
    before.reboot_late settled (by intro h; cases h) x.course, ?_,
    before.failed (by simp [initial, Lifecycle.start])⟩
  have requested := before.overdue_iff rfl
  rw [x.course.restarts_working_pos_iff, before.config_eq, ← Bool.not_eq_true, requested]
  simp only [not_exists, not_and]
  exact ⟨fun ⟨never, overdue⟩ => ⟨overdue, never⟩, fun ⟨overdue, never⟩ => ⟨never, overdue⟩⟩

theorem bench_restarts_once_after_failure :
    let first := initial { errorRestartDelay := 150 } { capacity := 8 } "a" (.read false) 0
    let failed : Bench := { network := .fixed { connected := false, failed := true } }
    let s := Bench.tickTimes none 5 first failed
    s.2.clock = 500 ∧ s.2.platform.restarts = 1 ∧
      ∃ turns, Trail first turns s.1 ∧ errorRestarts turns = 1 ∧ ∃ x ∈ turns, x.Overdue 150 := by
  intro first failed s
  have start : Ticks first [] _ := .none
  obtain ⟨log, h⟩ := ticks_tickTimes 5 failed start
  obtain ⟨-, turns, trail, -, -, -, causes⟩ := restarts_once_per_cause rfl h
  have requested : s.1.restartRequested = true := by decide +kernel
  have one : errorRestarts turns = 1 := by
    rw [trail.errorRestarts_eq rfl]
    exact congrArg Bool.toNat requested
  refine ⟨by decide +kernel, by decide +kernel, turns, trail, one, ?_⟩
  obtain ⟨x, hx, asks⟩ : ∃ x ∈ turns, 0 < restarts x.course.working := by
    have asked : 0 < errorRestarts turns := by omega
    obtain ⟨n, hn, pos⟩ := List.sum_pos_iff_exists_pos_nat.1 asked
    obtain ⟨x, hx, rfl⟩ := List.mem_map.1 hn
    exact ⟨x, hx, pos⟩
  obtain ⟨earlier, later, split⟩ := List.append_of_mem hx
  obtain ⟨-, -, -, overdue, -⟩ := causes earlier x later split
  exact ⟨x, hx, (overdue.1 asks).1⟩

end Controller

end DoughAnalyzer
