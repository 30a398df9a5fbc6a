import DoughAnalyzer.Proofs.Controller.Inbox

/-!
The course of a tick: what was said in each of its stages and where each left the controller. By
`runs_tick_iff` the courses of a tick are all that may come of it. `Ticks` is a run of ticks.
-/

set_option autoImplicit false

namespace DoughAnalyzer

def Event.isChange : Event → Bool
  | phaseChanged _ _ | statusChanged _ _ => true
  | started _ | firmwareConfirmed | telemetryPublished _ => false

namespace Controller

open Dialogue (Runs)

def changes (before after : Controller) : List Event :=
  (if after.lifecycle.current = before.lifecycle.current then []
    else [.phaseChanged before.lifecycle.current after.lifecycle.current]) ++
  (if after.session.status = before.session.status then []
    else [.statusChanged before.session.status after.session.status])

theorem isChange_of_mem_changes {before after : Controller} {event : Event}
    (h : event ∈ changes before after) : event.isChange = true := by
  unfold changes at h
  rcases List.mem_append.1 h with h | h
  · split at h
    · cases h
    · rw [List.mem_singleton.1 h]
      rfl
  · split at h
    · cases h
    · rw [List.mem_singleton.1 h]
      rfl

theorem runs_announceChanges {before after : Controller} {exchanges : List Exchange} {u : Unit}
    (run : Runs (announceChanges before after) exchanges u) :
    exchanges = (changes before after).map fun event => ⟨.emit event, ()⟩ := by
  unfold changes
  by_cases stayed : after.lifecycle.current = before.lifecycle.current <;>
    by_cases same : after.session.status = before.session.status
  · simp only [announceChanges, stayed, same, ne_eq, not_true_eq_false, if_false] at run
    obtain ⟨rfl, -⟩ := (Dialogue.runs_pure _ _ _).1 run
    simp [stayed, same]
  · simp only [announceChanges, stayed, same, ne_eq, not_true_eq_false, not_false_eq_true, if_false,
      if_true] at run
    obtain rfl := (Dialogue.runs_request (.emit _) _ _).1 run
    simp [stayed, same]
  · simp only [announceChanges, stayed, same, ne_eq, not_true_eq_false, not_false_eq_true, if_false,
      if_true] at run
    obtain ⟨_, _, rfl, rest⟩ := (Dialogue.runs_request_bind (.emit _) _ _ _).1 run
    obtain ⟨rfl, -⟩ := (Dialogue.runs_pure _ _ _).1 rest
    simp [stayed, same]
  · simp only [announceChanges, stayed, same, ne_eq, not_false_eq_true, if_true] at run
    obtain ⟨_, _, rfl, rest⟩ := (Dialogue.runs_request_bind (.emit _) _ _ _).1 run
    obtain rfl := (Dialogue.runs_request (.emit _) _ _).1 rest
    simp [stayed, same]

/-- The phase works on the controller `polled`, at the time that the tick began with. -/
structure Course (c : Controller) where
  now : Nat
  opening : List Exchange
  started : Controller
  opened : Runs c.announceStart opening started
  tracking : List Exchange
  tracked : Controller
  followed : Runs (started.trackChannel now) tracking tracked
  draining : List Exchange
  drained : Controller
  taken : Runs (tracked.drain now maxMessagesPerTick) draining drained
  polling : List Exchange
  polled : Controller
  timed : Runs (drained.pollUpdate now) polling polled
  working : List Exchange
  worked : Controller
  done : Runs (polled.workPhase now) working worked
  closing : List Exchange
  told : Runs (announceChanges started worked) closing ()

namespace Course

variable {c : Controller}

def preparing (t : c.Course) : List Exchange :=
  ⟨.clock, t.now⟩ ::
    (t.opening ++ (t.tracking ++ (t.draining ++ (t.polling ++ [⟨.pollNetwork t.now, ()⟩]))))

def exchanges (t : c.Course) : List Exchange := t.preparing ++ (t.working ++ t.closing)

/-- All that the update gets in a tick: at most one reconnect, what the frames bring, one poll. -/
theorem feeds (t : c.Course) :
    ∃ resumed brought, (resumed = [] ∨ resumed = [.call (.reconnect t.now)]) ∧
      List.Forall₂ (Wire.Frame.Brings c.topics t.now) (framesTaken t.draining) brought ∧
      c.Feeds (resumed ++ (brought.flatten ++ [.call (.poll t.now)])) t.polled ∧
      powerAnswers t.draining =
        c.session.powerAnswers (resumed ++ (brought.flatten ++ [.call (.poll t.now)])) := by
  obtain ⟨-, started⟩ := c.announceStart_feeds.of_runs t.opened
  obtain ⟨-, resumed, hresumed, tracked⟩ := (t.started.trackChannel_feeds t.now).of_runs t.followed
  obtain ⟨brought, -, hbrought, drained, hpower⟩ := runs_drain t.taken
  obtain ⟨-, polled⟩ := (t.drained.pollUpdate_feeds t.now).of_runs t.timed
  have ready : c.Feeds resumed t.tracked := started.trans tracked
  rw [ready.topics] at hbrought
  refine ⟨resumed, brought, hresumed, hbrought, ready.trans (drained.trans polled), ?_⟩
  have none : c.session.powerAnswers resumed = [] := by rcases hresumed with rfl | rfl <;> rfl
  rw [Update.Session.powerAnswers_append, Update.Session.powerAnswers_append, none, hpower,
    ready.session]
  exact (List.append_nil _).symm

theorem handles (t : c.Course) :
    ∀ e ∈ t.opening ++ (t.tracking ++ t.polling), e.request.isHandling = true := by
  obtain ⟨hopening, -⟩ := c.announceStart_feeds.of_runs t.opened
  obtain ⟨htracking, -⟩ := (t.started.trackChannel_feeds t.now).of_runs t.followed
  obtain ⟨hpolling, -⟩ := (t.drained.pollUpdate_feeds t.now).of_runs t.timed
  intro e he
  rcases List.mem_append.1 he with he | he
  · exact hopening e he
  rcases List.mem_append.1 he with he | he
  · exact htracking e he
  · exact hpolling e he

theorem prepares (t : c.Course) :
    (∀ e ∈ t.preparing, e.request.isPreparation = true) ∧ c.Prepares t.polled := by
  obtain ⟨_, _, -, -, fed, -⟩ := t.feeds
  obtain ⟨_, drains⟩ := runs_drain t.taken
  have handled {e : Exchange} (he : e ∈ t.opening ++ (t.tracking ++ t.polling)) :=
    e.request.isPreparation_of_isHandling (t.handles e he)
  refine ⟨fun e he => ?_, fed.prepares⟩
  simp only [preparing, List.mem_cons, List.mem_append, List.not_mem_nil, or_false] at he
  rcases he with rfl | he | he | he | he | rfl
  · rfl
  · exact handled (by simp [he])
  · exact handled (by simp [he])
  · exact drains.asked e he
  · exact handled (by simp [he])
  · rfl

theorem closing_eq (t : c.Course) :
    t.closing = (changes t.started t.worked).map fun event => ⟨.emit event, ()⟩ :=
  runs_announceChanges t.told

theorem closing_emits (t : c.Course) :
    ∀ e ∈ t.closing, ∃ event, e.request = .emit event ∧ event.isChange = true := by
  rw [t.closing_eq]
  intro e he
  obtain ⟨event, hevent, rfl⟩ := List.mem_map.1 he
  exact ⟨event, rfl, isChange_of_mem_changes hevent⟩

end Course

theorem runs_tick_iff (c c' : Controller) (exchanges : List Exchange) :
    Runs c.tick exchanges c' ↔ ∃ t : c.Course, t.exchanges = exchanges ∧ t.worked = c' := by
  unfold tick
  simp only [Dialogue.runs_bind, Dialogue.runs_pure]
  constructor
  · rintro ⟨asking, now, _, rfl, asked, opening, started, _, rfl, opened,
      tracking, tracked, _, rfl, followed, draining, drained, _, rfl, taken,
      polling, polled, _, rfl, timed, keeping, _, _, rfl, kept,
      working, worked, _, rfl, done, closing, _, _, rfl, told, rfl, rfl⟩
    obtain rfl := (Dialogue.runs_request _ _ _).1 asked
    obtain rfl := (Dialogue.runs_request _ _ _).1 kept
    refine ⟨⟨now, opening, started, opened, tracking, tracked, followed, draining, drained, taken,
      polling, polled, timed, working, _, done, closing, told⟩, ?_, rfl⟩
    simp [Course.exchanges, Course.preparing]
  · rintro ⟨t, rfl, rfl⟩
    have asked := (Dialogue.runs_request .clock _ t.now).2 rfl
    have kept := (Dialogue.runs_request (.pollNetwork t.now) _ ()).2 rfl
    refine ⟨_, t.now, _, ?_, asked, _, _, _, rfl, t.opened, _, _, _, rfl, t.followed,
      _, _, _, rfl, t.taken, _, _, _, rfl, t.timed, _, _, _, rfl, kept,
      _, _, _, rfl, t.done, _, _, _, rfl, t.told, rfl, rfl⟩
    simp [Course.exchanges, Course.preparing]

/-- Ticks one after another, each with what was said in it. Between two of them faults of the store
may be switched. -/
inductive Ticks (first : Controller) : List (List Exchange) → Controller → Prop where
  | none : Ticks first [] first
  | tick {log : List (List Exchange)} {c c' : Controller} {exchanges : List Exchange}
      (before : Ticks first log c) (run : Runs c.tick exchanges c') :
      Ticks first (log ++ [exchanges]) c'
  | fault {log : List (List Exchange)} {c : Controller} (before : Ticks first log c)
      (f : Store.Setting) :
      Ticks first log { c with session := (c.session.take (.fault f)).session }

end Controller

end DoughAnalyzer
