import DoughAnalyzer.Proofs.Controller.Preparation
import DoughAnalyzer.Proofs.Controller.Sleep

set_option autoImplicit false

namespace DoughAnalyzer

def clockReadings (exchanges : List Exchange) : List Nat :=
  exchanges.filterMap fun
    | ⟨.clock, time⟩ => some time
    | _ => none

def Request.phaseMove? : Request → Option (Phase × Phase)
  | emit (.phaseChanged left entered) => some (left, entered)
  | _ => none

def phaseMoves (exchanges : List Exchange) : List (Phase × Phase) :=
  exchanges.filterMap (·.request.phaseMove?)

/-- The lifecycle after a tick, by what was said in it. The last reading of the clock counts, which
is the one on waking if the device has slept. -/
def Lifecycle.heard (l : Lifecycle) (exchanges : List Exchange) : Lifecycle :=
  match (phaseMoves exchanges).getLast?, (clockReadings exchanges).getLast? with
  | some (left, entered), some time => ⟨entered, left, time⟩
  | _, _ => l

namespace Controller

open Dialogue (Runs)

/-- The table. A row holds for a phase, the next one and the time of the move; `heard` is what the
work of the phase has asked and been answered. -/
inductive Leads (c : Controller) (now : Nat) (heard : List Exchange) :
    Phase → Phase → Nat → Prop where
  | booted : Leads c now heard .boot .connectingNetwork now
  | networkUp (up : ⟨.networkConnected, true⟩ ∈ heard) :
      Leads c now heard .connectingNetwork .connectingControlChannel now
  | networkFailed (down : ⟨.networkConnected, false⟩ ∈ heard)
      (fatal : ⟨.networkFailed, true⟩ ∈ heard) :
      Leads c now heard .connectingNetwork .error now
  | networkLate (down : ⟨.networkConnected, false⟩ ∈ heard)
      (late : c.config.networkTimeout.toNat ≤ c.lifecycle.elapsed now) :
      Leads c now heard .connectingNetwork .error now
  | channelUp (up : ⟨.channelConnected, true⟩ ∈ heard) :
      Leads c now heard .connectingControlChannel .sensing now
  | channelFailed (down : ⟨.channelConnected, false⟩ ∈ heard)
      (fatal : ⟨.channelFailed, true⟩ ∈ heard) :
      Leads c now heard .connectingControlChannel .error now
  | networkLost (down : ⟨.channelConnected, false⟩ ∈ heard)
      (lost : ⟨.networkConnected, false⟩ ∈ heard) :
      Leads c now heard .connectingControlChannel .connectingNetwork now
  | channelLate (down : ⟨.channelConnected, false⟩ ∈ heard)
      (late : c.config.networkTimeout.toNat ≤ c.lifecycle.elapsed now) :
      Leads c now heard .connectingControlChannel .error now
  | collected (reading : Reading) (collected : ⟨.collect now, .ok reading⟩ ∈ heard) :
      Leads c now heard .sensing .updatingDisplay now
  | shown : Leads c now heard .updatingDisplay .publishingData now
  | publishedForUpdate (active : c.session.isActive = true) :
      Leads c now heard .publishingData .applyingUpdate now
  | publishedForSleep (inactive : c.session.isActive = false) :
      Leads c now heard .publishingData .sleeping now
  | sleepCancelled (active : c.session.isActive = true) :
      Leads c now heard .sleeping .applyingUpdate now
  | slept (inactive : c.session.isActive = false) (low : c.config.lowPower = true) (woke : Nat)
      (waking : ⟨.clock, woke⟩ ∈ heard) :
      Leads c now heard .sleeping .connectingNetwork woke
  | waited (inactive : c.session.isActive = false) (high : c.config.lowPower = false)
      (late : c.config.sensingInterval.toNat ≤ c.lifecycle.elapsed now) :
      Leads c now heard .sleeping .sensing now
  | updated (inactive : c.session.isActive = false) :
      Leads c now heard .applyingUpdate .sensing now

variable {c c' between : Controller} {now time : Nat} {p next : Phase}
  {exchanges heard done : List Exchange}

theorem Leads.ne (h : c.Leads now heard p next time) : next ≠ p := by
  cases h <;> decide

theorem Leads.of_error (h : c.Leads now heard p .error time) :
    p = .connectingNetwork ∧ (⟨.networkFailed, true⟩ ∈ heard ∨
        c.config.networkTimeout.toNat ≤ c.lifecycle.elapsed now) ∨
      p = .connectingControlChannel ∧ (⟨.channelFailed, true⟩ ∈ heard ∨
        c.config.networkTimeout.toNat ≤ c.lifecycle.elapsed now) := by
  cases h with
  | networkFailed down fatal => exact .inl ⟨rfl, .inl fatal⟩
  | networkLate down late => exact .inl ⟨rfl, .inr late⟩
  | channelFailed down fatal => exact .inr ⟨rfl, .inl fatal⟩
  | channelLate down late => exact .inr ⟨rfl, .inr late⟩

theorem not_leads_error : ¬ c.Leads now heard .error next time := nofun

theorem lasted_iff (l : Lifecycle) (threshold : Nat) :
    l.lasted threshold now = true ↔ threshold ≤ l.elapsed now :=
  decide_eq_true_iff

theorem Branch.leads (b : c.Branch now p done between (some (next, time))) :
    c.Leads now done p next time := by
  cases b with
  | booted => exact .booted
  | networkUp => exact .networkUp (by simp)
  | networkFailed => exact .networkFailed (by simp) (by simp)
  | networkLate late => exact .networkLate (by simp) ((lasted_iff _ _).1 late)
  | channelUp | confirmed | unconfirmed => exact .channelUp (by simp)
  | channelFailed => exact .channelFailed (by simp) (by simp)
  | networkLost => exact .networkLost (by simp) (by simp)
  | channelLate late => exact .channelLate (by simp) ((lasted_iff _ _).1 late)
  | collected reading => exact .collected reading (by simp)
  | shown | nothingToShow => exact .shown
  | published | nothingToPublish =>
    unfold afterPublishing
    cases active : c.session.isActive with
    | true => exact .publishedForUpdate active
    | false => exact .publishedForSleep active
  | sleepCancelled active => exact .sleepCancelled active
  | slept inactive low r woke => exact .slept inactive low _ (by simp)
  | waited inactive high late => exact .waited inactive high ((lasted_iff _ _).1 late)
  | updated inactive => exact .updated inactive

theorem Branch.not_leads (b : c.Branch now p done between none) :
    ¬ c.Leads now done p next time := by
  have unlasted {threshold : Nat} (early : c.lifecycle.lasted threshold now = false) :
      ¬ threshold ≤ c.lifecycle.elapsed now := fun late =>
    Bool.eq_false_iff.1 early ((lasted_iff _ _).2 late)
  intro h
  cases b with
  | networkAwaited early =>
    cases h with
    | networkLate down late => exact unlasted early late
    | _ => simp_all
  | channelAwaited early =>
    cases h with
    | channelLate down late => exact unlasted early late
    | _ => simp_all
  | waits inactive high early =>
    cases h with
    | waited inactive high late => exact unlasted early late
    | _ => simp_all
  | notDue | notCollected | updates => cases h; simp_all
  | restartAwaited | restarted | restartEarly => cases h

theorem Branch.lifecycle_eq {move : Option (Phase × Nat)} (b : c.Branch now p done between move) :
    between.lifecycle = c.lifecycle := by
  cases b <;> rfl

theorem Branch.unmoved {move : Option (Phase × Nat)} (b : c.Branch now p done between move) :
    phaseMoves done = [] := by
  cases b <;> rfl

theorem Branch.time_eq (b : c.Branch now p done between (some (next, time))) :
    (now :: clockReadings done).getLast? = some time := by
  cases b <;> rfl

namespace Course

theorem closing_moves (t : c.Course) :
    phaseMoves t.closing =
      (if t.worked.lifecycle.current = t.started.lifecycle.current then []
        else [(t.started.lifecycle.current, t.worked.lifecycle.current)]) ∧
      clockReadings t.closing = [] := by
  rw [t.closing_eq, changes]
  split <;> split <;> exact ⟨rfl, rfl⟩

theorem phaseMoves_eq (t : c.Course) :
    phaseMoves t.exchanges =
      if t.worked.lifecycle.current = c.lifecycle.current then []
      else [(c.lifecycle.current, t.worked.lifecycle.current)] := by
  obtain ⟨between, move, b, -⟩ := ends_of_runs t.done
  obtain ⟨-, started⟩ := c.announceStart_feeds.of_runs t.opened
  have before : phaseMoves t.preparing = [] := by
    refine (t.filterMap_preparing_of_unasked fun stage q r asks => ?_).trans rfl
    cases q with
    | emit event => cases event <;> cases stage <;> first | rfl | cases asks
    | _ => rfl
  have working : phaseMoves t.working = [] :=
    (filterMap_asked (fun _ => rfl) t.working).symm.trans b.unmoved
  have closing := t.closing_moves.1
  rw [started.lifecycle] at closing
  rw [← closing, phaseMoves, filterMap_exchanges]
  simp only [phaseMoves] at before working
  rw [before, working]
  rfl

theorem clockReadings_eq (t : c.Course) :
    clockReadings t.exchanges = t.now :: clockReadings (asked t.working) := by
  have before : clockReadings t.preparing = [t.now] := by
    refine (t.filterMap_preparing_of_unasked fun stage q r asks => ?_).trans rfl
    cases stage <;> cases q <;> first | rfl | cases asks
  have working : clockReadings (asked t.working) = clockReadings t.working :=
    filterMap_asked (fun _ => rfl) t.working
  have closing := t.closing_moves.2
  rw [working, clockReadings, filterMap_exchanges]
  simp only [clockReadings] at before closing
  rw [before, closing, List.append_nil]
  rfl

theorem leads_or_stays (t : c.Course) :
    (∃ next time, t.polled.Leads t.now (asked t.working) c.lifecycle.current next time ∧
        t.worked.lifecycle = ⟨next, c.lifecycle.current, time⟩ ∧
        (clockReadings t.exchanges).getLast? = some time) ∨
      (∀ next time, ¬ t.polled.Leads t.now (asked t.working) c.lifecycle.current next time) ∧
        t.worked.lifecycle = c.lifecycle := by
  obtain ⟨between, move, b, hworked⟩ := ends_of_runs t.done
  have kept := t.prepares.2.lifecycle
  have same := b.lifecycle_eq.trans kept
  rw [kept] at b
  rw [hworked, t.clockReadings_eq]
  cases move with
  | none => exact .inr ⟨fun _ _ => b.not_leads, same⟩
  | some move =>
    obtain ⟨next, time⟩ := move
    refine .inl ⟨next, time, b.leads, ?_, b.time_eq⟩
    rw [goes, same, Lifecycle.moveTo, if_neg b.leads.ne]

theorem lifecycle_heard (t : c.Course) :
    t.worked.lifecycle = c.lifecycle.heard t.exchanges := by
  rw [Lifecycle.heard, t.phaseMoves_eq]
  rcases t.leads_or_stays with ⟨next, time, leads, moved, htime⟩ | ⟨-, stayed⟩
  · rw [moved, if_neg leads.ne, htime]
    rfl
  · rw [stayed, if_pos rfl]
    rfl

end Course

variable {first : Controller} {log : List (List Exchange)}

theorem Ticks.lifecycle_eq (h : Ticks first log c) :
    c.lifecycle = log.foldl Lifecycle.heard first.lifecycle := by
  induction h with
  | none => rfl
  | tick before run ih =>
    obtain ⟨t, rfl, rfl⟩ := (runs_tick_iff _ _ _).1 run
    rw [List.foldl_append, ← ih]
    exact t.lifecycle_heard
  | fault before f ih => exact ih

/-- Whatever the replies are, a tick makes one move, for which there is a row in the table, or none,
and then no row applies. The error phase is entered from the two phases that wait for a connection,
because that has failed or is late, and never left. All through a run the lifecycle has the last
move that was told of, and the time that the clock then showed. -/
theorem phases_follow_table {config : Config} {store : Store} {id : String} {boot : BootCheck}
    {start : Nat} (before : Ticks (initial config store id boot start) log c)
    (run : Runs c.tick exchanges c') :
    (∃ t : c.Course, t.exchanges = exchanges ∧ t.worked = c' ∧
      t.polled.lifecycle = c.lifecycle ∧ t.polled.config = config ∧
      ((∃ next time, t.polled.Leads t.now (asked t.working) c.lifecycle.current next time ∧
          c'.lifecycle = ⟨next, c.lifecycle.current, time⟩) ∨
        (∀ next time, ¬ t.polled.Leads t.now (asked t.working) c.lifecycle.current next time) ∧
          c'.lifecycle = c.lifecycle) ∧
      (c'.lifecycle.current = .error → c.lifecycle.current = .error ∨
        c.lifecycle.current = .connectingNetwork ∧
          (⟨.networkFailed, true⟩ ∈ asked t.working ∨
            config.networkTimeout.toNat ≤ c.lifecycle.elapsed t.now) ∨
        c.lifecycle.current = .connectingControlChannel ∧
          (⟨.channelFailed, true⟩ ∈ asked t.working ∨
            config.networkTimeout.toNat ≤ c.lifecycle.elapsed t.now))) ∧
    (c.lifecycle.current = .error → c'.lifecycle = c.lifecycle) ∧
    c.lifecycle = log.foldl Lifecycle.heard (.start start) ∧
    c'.lifecycle = (log ++ [exchanges]).foldl Lifecycle.heard (.start start) := by
  have earlier : c.config = config := (before.agrees (by decide : Neutral .boot)).config
  have after := (before.tick run).lifecycle_eq
  obtain ⟨t, rfl, rfl⟩ := (runs_tick_iff _ _ _).1 run
  have kept := t.prepares.2.lifecycle
  have hconfig : t.polled.config = config := t.prepares.2.config.trans earlier
  refine ⟨⟨t, rfl, rfl, kept, hconfig, ?_, fun failed => ?_⟩, fun failed => ?_,
    before.lifecycle_eq, after⟩
  · rcases t.leads_or_stays with ⟨next, time, leads, moved, -⟩ | stays
    · exact .inl ⟨next, time, leads, moved⟩
    · exact .inr stays
  · rcases t.leads_or_stays with ⟨next, time, leads, moved, -⟩ | ⟨-, stayed⟩
    · rw [moved] at failed
      cases failed
      have cause := leads.of_error
      rw [hconfig, kept] at cause
      exact .inr cause
    · exact .inl (stayed ▸ failed)
  · rcases t.leads_or_stays with ⟨next, time, leads, -⟩ | ⟨-, stayed⟩
    · rw [failed] at leads
      exact absurd leads not_leads_error
    · exact stayed

theorem bench_wakes_into_connecting :
    let s := Bench.tickTimes none 6 (initial {} { capacity := 8 } "a" (.read false) 0) {}
    let exchanges := s.1.tick.exchanges Bench.respond s.2
    let c' := (s.1.tick.run Bench.respond s.2).1
    s.1.lifecycle.current = .sleeping ∧ c'.lifecycle = ⟨.connectingNetwork, .sleeping, 300600⟩ ∧
      (∃ t : s.1.Course, t.exchanges = exchanges ∧
        t.polled.Leads t.now (asked t.working) .sleeping .connectingNetwork 300600) ∧
      ∃ log, c'.lifecycle = (log ++ [exchanges]).foldl Lifecycle.heard (.start 0) := by
  intro s exchanges c'
  have start : Ticks (initial {} { capacity := 8 } "a" (.read false) 0) [] _ := .none
  obtain ⟨log, before⟩ := ticks_tickTimes 6 {} start
  have run : Runs s.1.tick exchanges c' := Dialogue.runs_run Bench.respond s.1.tick s.2
  have sleeping : s.1.lifecycle.current = .sleeping := by decide +kernel
  have woken : c'.lifecycle = ⟨.connectingNetwork, .sleeping, 300600⟩ := by decide +kernel
  obtain ⟨⟨t, ht, -, -, -, moves, -⟩, -, -, after⟩ := phases_follow_table before run
  refine ⟨sleeping, woken, ⟨t, ht, ?_⟩, log, after⟩
  rcases moves with ⟨next, time, leads, moved⟩ | ⟨-, stayed⟩
  · cases woken.symm.trans moved
    exact sleeping ▸ leads
  · rw [woken] at stayed
    rw [← stayed] at sleeping
    cases sleeping

end Controller

end DoughAnalyzer
