import DoughAnalyzer.Bench.Basic
import DoughAnalyzer.Proofs.Controller.Work
import DoughAnalyzer.Proofs.Update.Invariant

set_option autoImplicit false

namespace DoughAnalyzer

def Request.isSleepWork : Request → Bool
  | suspendNetwork | sleep _ | resumeNetwork => true
  | _ => false

def sleepRequests (exchanges : List Exchange) : List Request :=
  (exchanges.map (·.request)).filter Request.isSleepWork

theorem sleepRequests_eq_map (exchanges : List Exchange) :
    sleepRequests exchanges =
      (exchanges.filter fun e => e.request.isSleepWork).map (·.request) :=
  List.filter_map

theorem sleepRequests_asked (exchanges : List Exchange) :
    sleepRequests (asked exchanges) = sleepRequests exchanges := by
  rw [sleepRequests_eq_map, sleepRequests_eq_map, filter_asked fun _ => rfl]

theorem Request.isSleepWork_of_isPreparation (q : Request) (h : q.isPreparation = true) :
    q.isSleepWork = false := by
  cases q <;> first | rfl | cases h

namespace Controller

open Dialogue (Runs)
open Update (Session)

/-- The work of a phase leaves the update alone, and the phase it ends in agrees with the update. -/
structure Works (c c' : Controller) : Prop where
  session : c'.session = c.session
  config : c'.config = c.config
  resting : c'.lifecycle.current = .sleeping → c.session.isActive = false
  updating : c'.lifecycle.current = .applyingUpdate → c.session.isActive = true

/-- A phase that neither sleeps nor updates agrees with every update. -/
abbrev Neutral (p : Phase) : Prop := p ≠ .sleeping ∧ p ≠ .applyingUpdate

def sleeps (c : Controller) : Bool :=
  c.lifecycle.current = .sleeping && c.config.lowPower && !c.session.isActive

def sleepWork (c : Controller) : List Request :=
  if c.sleeps then [.suspendNetwork, .sleep c.config.sleepWindow.toNat, .resumeNetwork] else []

variable {c c' between : Controller} {now : Nat} {exchanges done : List Exchange}
  {move : Option (Phase × Nat)}

theorem Branch.sleepRequests_eq (b : c.Branch now c.lifecycle.current done between move) :
    sleepRequests done = c.sleepWork := by
  generalize h : c.lifecycle.current = p at b
  cases b with
  | sleepCancelled active => simp [sleepWork, sleeps, active, sleepRequests]
  | slept inactive low =>
    have asleep : c.sleeps = true := by simp [sleeps, h, inactive, low]
    rw [sleepWork, asleep]
    rfl
  | waited _ high | waits _ high => simp [sleepWork, sleeps, high, sleepRequests]
  | _ => simp [sleepWork, sleeps, h, sleepRequests, Request.isSleepWork]

theorem Branch.works (b : c.Branch now c.lifecycle.current done between move) :
    c.Works (between.goes move) := by
  generalize h : c.lifecycle.current = p at b
  cases b with
  | sleepCancelled active => exact ⟨rfl, rfl, by simp [goes], fun _ => active⟩
  | waits inactive => exact ⟨rfl, rfl, fun _ => inactive, by simp [goes, h]⟩
  | updates active => exact ⟨rfl, rfl, by simp [goes, h], fun _ => active⟩
  | published | nothingToPublish =>
    refine ⟨rfl, rfl, ?_, ?_⟩
    all_goals cases hactive : c.session.isActive <;> simp [goes, afterPublishing, hactive]
  | _ => exact ⟨rfl, rfl, by simp [goes, h], by simp [goes, h]⟩

theorem runs_workPhase (run : Runs (c.workPhase now) exchanges c') :
    sleepRequests exchanges = c.sleepWork ∧ c.Works c' := by
  obtain ⟨between, move, b, rfl⟩ := ends_of_runs run
  exact ⟨(sleepRequests_asked exchanges).symm.trans b.sleepRequests_eq, b.works⟩

theorem Course.sleepRequests_eq (t : c.Course) :
    sleepRequests t.exchanges = t.polled.sleepWork ∧ t.polled.Works t.worked := by
  obtain ⟨hasked, hworks⟩ := runs_workPhase t.done
  refine ⟨?_, hworks⟩
  rw [← hasked, ← sleepRequests_asked t.working, sleepRequests_eq_map, sleepRequests_eq_map,
    t.filter_exchanges Request.isSleepWork_of_isPreparation fun _ _ => rfl]

/-- Between two ticks phase and update agree. -/
structure Agrees (first c : Controller) : Prop where
  config : c.config = first.config
  session : ∃ inputs, c.session = first.session.after inputs
  resting : c.lifecycle.current = .sleeping → c.session.isActive = false
  updating : c.lifecycle.current = .applyingUpdate → c.session.isActive = true

variable {first : Controller}

theorem Agrees.tick (h : first.Agrees c) (t : c.Course) : first.Agrees t.worked := by
  obtain ⟨-, ready⟩ := t.prepares
  obtain ⟨-, works⟩ := t.sleepRequests_eq
  obtain ⟨earlier, hearlier⟩ := h.session
  obtain ⟨inputs, hinputs⟩ := ready.session
  refine ⟨?_, ⟨earlier ++ inputs, ?_⟩, ?_, ?_⟩
  · rw [works.config, ready.config, h.config]
  · rw [works.session, hinputs, hearlier, Session.after_append]
  · rw [works.session]
    exact works.resting
  · rw [works.session]
    exact works.updating

theorem Agrees.fault (h : first.Agrees c) (f : Store.Setting) :
    first.Agrees { c with session := (c.session.take (.fault f)).session } := by
  obtain ⟨inputs, hinputs⟩ := h.session
  refine { h with session := ⟨inputs ++ [.fault f], ?_⟩ }
  rw [Session.after_append, ← hinputs]
  rfl

theorem Ticks.agrees {log : List (List Exchange)} (h : Ticks first log c)
    (neutral : Neutral first.lifecycle.current) : first.Agrees c := by
  induction h with
  | none =>
    exact ⟨rfl, ⟨[], rfl⟩, fun hp => absurd hp neutral.1, fun hp => absurd hp neutral.2⟩
  | tick before run ih =>
    obtain ⟨t, -, rfl⟩ := (runs_tick_iff _ _ _).1 run
    exact ih.tick t
  | fault before f ih => exact ih.fault f

theorem Ticks.settled {log : List (List Exchange)} (h : Ticks first log c)
    (settled : first.session.Settled) : c.session.Settled := by
  induction h with
  | none => exact settled
  | tick before run ih =>
    obtain ⟨t, -, rfl⟩ := (runs_tick_iff _ _ _).1 run
    obtain ⟨-, works⟩ := t.sleepRequests_eq
    obtain ⟨inputs, hinputs⟩ := t.prepares.2.session
    rw [works.session, hinputs]
    exact Session.settled_after ih inputs
  | fault before f ih => exact Session.settled_after ih [.fault f]

theorem Agrees.slot_free (h : first.Agrees c) (settled : first.session.Settled) (t : c.Course)
    (inactive : t.polled.session.isActive = false) :
    t.polled.session.writer = none ∧ t.polled.session.store.live = 0 := by
  obtain ⟨earlier, hearlier⟩ := h.session
  obtain ⟨inputs, hinputs⟩ := t.prepares.2.session
  have hsettled : t.polled.session.Settled := by
    rw [hinputs, hearlier, ← Session.after_append]
    exact Session.settled_after settled _
  have idle : t.polled.session.status ≠ .downloading := by
    intro running
    simp [Session.isActive, Session.inProgress, running] at inactive
  exact ⟨hsettled.writer_none idle, hsettled.live_eq_zero idle⟩

theorem ticks_tickTimes (n : Nat) (b : Bench) {log : List (List Exchange)} (h : Ticks first log c) :
    ∃ log', Ticks first log' (Bench.tickTimes none n c b).1 := by
  induction n generalizing log c b with
  | zero => exact ⟨log, h⟩
  | succ n ih => exact ih _ (h.tick (Dialogue.runs_run Bench.respond _ _))

/-- Whatever the replies are, a tick asks for sleep once or not at all: the radio goes down, the
device sleeps, the radio comes up. It asks so only in low power, as the work of the sleeping phase,
while no update is active and the slot is free. After every tick the sleeping phase has no active
update, and the phase of the update has one. -/
theorem sleep_excludes_update {config : Config} {store : Store} (unheld : store.live = 0)
    {id : String} {boot : BootCheck} {start : Nat} {log : List (List Exchange)}
    (before : Ticks (initial config store id boot start) log c) (run : Runs c.tick exchanges c') :
    (∃ t : c.Course, t.exchanges = exchanges ∧ t.worked = c' ∧
      sleepRequests t.working = sleepRequests exchanges ∧
      (sleepRequests exchanges = [] ∨
        sleepRequests exchanges =
            [.suspendNetwork, .sleep config.sleepWindow.toNat, .resumeNetwork] ∧
          config.lowPower = true ∧ t.polled.lifecycle.current = .sleeping ∧
          t.polled.session.inProgress = false ∧ t.polled.session.rebootPending = false ∧
          t.polled.session.writer = none ∧ t.polled.session.store.live = 0)) ∧
    (c'.lifecycle.current = .sleeping → c'.session.isActive = false) ∧
    (c'.lifecycle.current = .applyingUpdate → c'.session.isActive = true) := by
  have boots : Neutral .boot := by decide
  have h := before.agrees boots
  obtain ⟨t, rfl, rfl⟩ := (runs_tick_iff _ _ _).1 run
  have hafter := h.tick t
  obtain ⟨hwork, -⟩ := runs_workPhase t.done
  obtain ⟨hasked, -⟩ := t.sleepRequests_eq
  refine ⟨⟨t, rfl, rfl, hwork.trans hasked.symm, ?_⟩, hafter.resting, hafter.updating⟩
  rw [hasked, sleepWork]
  split
  case isFalse => exact .inl rfl
  case isTrue asleep =>
    simp only [sleeps, Bool.and_eq_true, decide_eq_true_eq, Bool.not_eq_true'] at asleep
    obtain ⟨⟨sleeping, low⟩, inactive⟩ := asleep
    have hconfig : t.polled.config = config := t.prepares.2.config.trans h.config
    rw [hconfig] at low ⊢
    have hslot := h.slot_free (.ofStore unheld _) t inactive
    simp only [Session.isActive, Bool.or_eq_false_iff] at inactive
    exact .inr ⟨rfl, low, sleeping, inactive.1, inactive.2, hslot⟩

theorem bench_sleeps :
    let s := Bench.tickTimes none 6 (initial {} { capacity := 8 } "a" (.read false) 0) {}
    sleepRequests (s.1.tick.exchanges Bench.respond s.2) =
      [.suspendNetwork, .sleep 300000, .resumeNetwork] := by
  intro s
  have asks : (sleepRequests (s.1.tick.exchanges Bench.respond s.2)).length = 3 := by
    decide +kernel
  have start : Ticks (initial {} { capacity := 8 } "a" (.read false) 0) [] _ := .none
  obtain ⟨log, before⟩ := ticks_tickTimes 6 {} start
  have run := Dialogue.runs_run Bench.respond s.1.tick s.2
  obtain ⟨⟨t, -, -, -, hnone | ⟨hall, -⟩⟩, -⟩ := sleep_excludes_update rfl before run
  · simp [hnone] at asks
  · exact hall

end Controller

end DoughAnalyzer
