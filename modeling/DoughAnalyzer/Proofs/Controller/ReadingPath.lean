import DoughAnalyzer.Proofs.Controller.PhaseTable
import DoughAnalyzer.Proofs.Wire.TopicNames

/-!
The path of a reading: collected in one tick, shown in the next, published in the one after that.
Readings take it one by one, whatever else the device is busy with. The controller holds one reading
only; that it always holds the right one rests on the order of the phases.
-/

set_option autoImplicit false

namespace DoughAnalyzer

inductive Handling where
  | collected (reading : Reading)
  | shown (reading : Reading)
  | sent (payload : String)

def Handling.collected? : Handling → Option Reading
  | collected reading => some reading
  | _ => none

def Exchange.handling? (telemetry : String) : Exchange → Option Handling
  | ⟨.collect _, .ok reading⟩ => some (.collected reading)
  | ⟨.render reading _, _⟩ => some (.shown reading)
  | ⟨.publish topic payload, _⟩ => if topic = telemetry then some (.sent payload) else none
  | _ => none

/-- What is done with readings, of which only those that were collected count. A reading is sent
whether or not the message gets through. -/
def handlings (telemetry : String) (exchanges : List Exchange) : List Handling :=
  exchanges.filterMap (·.handling? telemetry)

def telemetryResults (telemetry : String) (exchanges : List Exchange) : List Bool :=
  exchanges.filterMap fun
    | ⟨.publish topic _, r⟩ => if topic = telemetry then some r.isOk else none
    | _ => none

def telemetryEvents (exchanges : List Exchange) : List Bool :=
  exchanges.filterMap fun
    | ⟨.emit (.telemetryPublished ok), _⟩ => some ok
    | _ => none

/-- The whole path of a reading that is sent at a time. -/
def path (id : String) (reading : Reading) (time : Nat) : List Handling :=
  [.collected reading, .shown reading, .sent (Telemetry.of id time reading).document]

/-- Ticks in which these readings took their path, in three ticks that follow on each other. The
time is that of the last of the three. -/
inductive Passes (telemetry id : String) :
    List (Reading × Nat) → List (List Exchange) → Prop where
  | none : Passes telemetry id [] []
  | idle {passed : List (Reading × Nat)} {log : List (List Exchange)} {x : List Exchange}
      (before : Passes telemetry id passed log) (nothing : handlings telemetry x = []) :
      Passes telemetry id passed (log ++ [x])
  | pass {passed : List (Reading × Nat)} {log : List (List Exchange)} {x y z : List Exchange}
      {reading : Reading} {time : Nat} (before : Passes telemetry id passed log)
      (collected : handlings telemetry x = [.collected reading])
      (shown : handlings telemetry y = [.shown reading])
      (sent : handlings telemetry z = [.sent (Telemetry.of id time reading).document])
      (read : clockReadings z = [time]) :
      Passes telemetry id (passed ++ [(reading, time)]) (log ++ [x, y, z])

inductive Underway (telemetry : String) :
    Phase → Option Reading → List (List Exchange) → Prop where
  | collected {x : List Exchange} {reading : Reading}
      (collected : handlings telemetry x = [.collected reading]) :
      Underway telemetry .updatingDisplay (some reading) [x]
  | shown {x y : List Exchange} {reading : Reading}
      (collected : handlings telemetry x = [.collected reading])
      (shown : handlings telemetry y = [.shown reading]) :
      Underway telemetry .publishingData (some reading) [x, y]
  | none {p : Phase} {last : Option Reading} (display : p ≠ .updatingDisplay)
      (data : p ≠ .publishingData) : Underway telemetry p last []

def Phase.holdsReading : Phase → Bool
  | updatingDisplay | publishingData | sleeping | applyingUpdate => true
  | _ => false

variable {telemetry id : String} {passed : List (Reading × Nat)} {log last : List (List Exchange)}

theorem Passes.flatMap_eq (h : Passes telemetry id passed log) :
    log.flatMap (handlings telemetry) = passed.flatMap fun p => path id p.1 p.2 := by
  induction h with
  | none => rfl
  | idle before nothing ih => simp [ih, nothing]
  | pass before collected shown sent read ih => simp [ih, collected, shown, sent, path]

theorem Underway.flatMap_isPrefix {p : Phase} {latest : Option Reading}
    (h : Underway telemetry p latest last) (id : String) :
    ∃ rest : List (Reading × Nat),
      last.flatMap (handlings telemetry) <+: rest.flatMap fun p => path id p.1 p.2 := by
  cases h with
  | @collected x reading collected => exact ⟨[(reading, 0)], by simp [collected, path]⟩
  | @shown x y reading collected shown => exact ⟨[(reading, 0)], by simp [collected, shown, path]⟩
  | none => exact ⟨[], List.nil_prefix⟩

theorem ne_telemetry_of_asks {topics : Wire.Topics} {stage : Stage} {topic payload : String}
    (apart : [topics.telemetry, topics.diagnosticsResponse, topics.updateStatus].Nodup)
    (asks : stage.Asks topics (.publish topic payload)) : topic ≠ topics.telemetry := by
  rintro rfl
  simp only [List.nodup_cons, List.mem_cons, not_or] at apart
  rcases asks with status | owns
  · exact apart.1.2.1 status
  · cases stage with
    | draining => exact apart.1.1 owns
    | opening | tracking | polling => exact owns

namespace Controller

open Dialogue (Runs)

/-- What a tick does with readings, and where that leaves them. -/
inductive Handles (c : Controller) (now : Nat) (c' : Controller) : List Handling → Prop where
  | collected (reading : Reading) (sensing : c.lifecycle.current = .sensing)
      (next : c'.lifecycle.current = .updatingDisplay) (latest : c'.lastReading = some reading) :
      Handles c now c' [.collected reading]
  | shown (reading : Reading) (held : c.lastReading = some reading)
      (display : c.lifecycle.current = .updatingDisplay)
      (next : c'.lifecycle.current = .publishingData) (kept : c'.lastReading = c.lastReading) :
      Handles c now c' [.shown reading]
  | sent (reading : Reading) (held : c.lastReading = some reading)
      (data : c.lifecycle.current = .publishingData)
      (next : c'.lifecycle.current = .sleeping ∨ c'.lifecycle.current = .applyingUpdate)
      (kept : c'.lastReading = c.lastReading) :
      Handles c now c' [.sent (Telemetry.of c.id now reading).document]
  | none (display : c.lifecycle.current ≠ .updatingDisplay)
      (data : c.lifecycle.current ≠ .publishingData)
      (nextDisplay : c'.lifecycle.current ≠ .updatingDisplay)
      (nextData : c'.lifecycle.current ≠ .publishingData)
      (holds : c'.lifecycle.current.holdsReading = true →
        c.lifecycle.current.holdsReading = true)
      (kept : c'.lastReading = c.lastReading) :
      Handles c now c' []

variable {c c' between first : Controller} {now : Nat} {p : Phase} {exchanges done : List Exchange}
  {move : Option (Phase × Nat)}

theorem Branch.id_eq (b : c.Branch now p done between move) : (between.goes move).id = c.id := by
  cases b <;> rfl

theorem Branch.handles (b : c.Branch now c.lifecycle.current done between move)
    (held : c.lifecycle.current.holdsReading = true → c.lastReading.isSome = true) :
    c.Handles now (between.goes move) (handlings c.topics.telemetry done) := by
  generalize h : c.lifecycle.current = p at b held
  cases b with
  | collected reading => exact .collected reading h (Lifecycle.moveTo_current _ _ _) rfl
  | shown reading percent latest =>
    exact .shown reading latest h (Lifecycle.moveTo_current _ _ _) rfl
  | published reading r latest =>
    have sent : handlings c.topics.telemetry
        [⟨.publish c.topics.telemetry (Telemetry.of c.id now reading).document, r⟩,
          ⟨.emit (.telemetryPublished r.isOk), ()⟩] =
        [.sent (Telemetry.of c.id now reading).document] := by
      simp [handlings, Exchange.handling?]
    rw [sent]
    refine .sent reading latest h ?_ rfl
    cases active : c.session.isActive <;> simp [goes, afterPublishing, active]
  | nothingToShow unheld | nothingToPublish unheld =>
    rw [unheld] at held
    cases held rfl
  | _ =>
    refine .none ?_ ?_ ?_ ?_ ?_ rfl
    all_goals simp [goes, h, Phase.holdsReading]

theorem Handles.prepared {done : List Handling} (h : between.Handles now c' done)
    (kept : c.Keeps between) : c.Handles now c' done := by
  have lifecycle := kept.lifecycle
  have latest := kept.lastReading
  cases h with
  | collected reading sensing next held => exact .collected reading (lifecycle ▸ sensing) next held
  | shown reading held display next same =>
    exact .shown reading (latest ▸ held) (lifecycle ▸ display) next (same.trans latest)
  | sent reading held data next same =>
    rw [kept.id]
    exact .sent reading (latest ▸ held) (lifecycle ▸ data) next (same.trans latest)
  | none display data nextDisplay nextData holds same =>
    rw [lifecycle] at display data holds
    exact .none display data nextDisplay nextData holds (same.trans latest)

theorem Handles.latest_eq {done : List Handling} (h : c.Handles now c' done) :
    c'.lastReading = (done.filterMap Handling.collected?).getLast?.or c.lastReading := by
  cases h with
  | collected reading sensing next latest => exact latest
  | shown reading held display next kept => exact kept
  | sent reading held data next kept => exact kept
  | none display data nextDisplay nextData holds kept => exact kept

theorem Handles.holds {done : List Handling} (h : c.Handles now c' done)
    (held : c.lifecycle.current.holdsReading = true → c.lastReading.isSome = true) :
    c'.lifecycle.current.holdsReading = true → c'.lastReading.isSome = true := by
  intro holding
  cases h with
  | collected reading sensing next latest => rw [latest]; rfl
  | shown reading latest display next kept => rw [kept, latest]; rfl
  | sent reading latest data next kept => rw [kept, latest]; rfl
  | none display data nextDisplay nextData holds kept => rw [kept]; exact held (holds holding)

theorem Branch.telemetry_told (b : c.Branch now p done between move) :
    telemetryEvents done = telemetryResults c.topics.telemetry done := by
  cases b with
  | published reading r latest => simp [telemetryEvents, telemetryResults]
  | _ => rfl

namespace Course

theorem handlings_eq (t : c.Course)
    (apart : [c.topics.telemetry, c.topics.diagnosticsResponse, c.topics.updateStatus].Nodup) :
    handlings c.topics.telemetry t.exchanges =
      handlings c.topics.telemetry (asked t.working) := by
  refine t.filterMap_of_unasked (fun stage q r asks => ?_) (fun _ => rfl) (fun _ => rfl)
    fun _ _ => rfl
  cases q with
  | publish topic payload => exact if_neg (ne_telemetry_of_asks apart asks)
  | collect | render => cases stage <;> cases asks
  | _ => rfl

theorem telemetry_told (t : c.Course)
    (apart : [c.topics.telemetry, c.topics.diagnosticsResponse, c.topics.updateStatus].Nodup) :
    telemetryEvents t.exchanges = telemetryResults c.topics.telemetry t.exchanges := by
  obtain ⟨between, move, b, -⟩ := ends_of_runs t.done
  have events : telemetryEvents t.exchanges = telemetryEvents (asked t.working) := by
    refine t.filterMap_of_unasked (fun stage q r asks => ?_) (fun _ => rfl) (fun _ => rfl)
      fun event change => ?_
    · cases q with
      | emit event => cases event <;> first | rfl | (cases stage <;> cases asks)
      | _ => rfl
    · cases event <;> first | rfl | cases change
  have results : telemetryResults c.topics.telemetry t.exchanges =
      telemetryResults c.topics.telemetry (asked t.working) := by
    refine t.filterMap_of_unasked (fun stage q r asks => ?_) (fun _ => rfl) (fun _ => rfl)
      fun _ _ => rfl
    cases q with
    | publish topic payload => exact if_neg (ne_telemetry_of_asks apart asks)
    | _ => rfl
  rw [events, results, b.telemetry_told, t.prepares.2.topics]

theorem clockReadings_of_publishing (t : c.Course)
    (data : c.lifecycle.current = .publishingData) : clockReadings t.exchanges = [t.now] := by
  obtain ⟨between, move, b, -⟩ := ends_of_runs t.done
  rw [t.prepares.2.lifecycle, data] at b
  rw [t.clockReadings_eq]
  generalize asked t.working = done at b ⊢
  cases b <;> rfl

theorem handles_reading (t : c.Course)
    (apart : [c.topics.telemetry, c.topics.diagnosticsResponse, c.topics.updateStatus].Nodup)
    (held : c.lifecycle.current.holdsReading = true → c.lastReading.isSome = true) :
    c.Handles t.now t.worked (handlings c.topics.telemetry t.exchanges) := by
  obtain ⟨between, move, b, hworked⟩ := ends_of_runs t.done
  have kept := t.prepares.2.toKeeps
  have done := b.handles (by rwa [kept.lifecycle, kept.lastReading])
  rw [t.handlings_eq apart, hworked]
  rw [kept.topics] at done
  exact done.prepared kept

theorem id_eq (t : c.Course) : t.worked.id = c.id := by
  obtain ⟨between, move, b, hworked⟩ := ends_of_runs t.done
  rw [hworked, b.id_eq, t.prepares.2.id]

end Course

variable {log : List (List Exchange)}

theorem Ticks.id_eq (h : Ticks first log c) : c.id = first.id := by
  induction h with
  | none => rfl
  | tick before run ih =>
    obtain ⟨t, -, rfl⟩ := (runs_tick_iff _ _ _).1 run
    exact t.id_eq.trans ih
  | fault before f ih => exact ih

def latest (telemetry : String) (log : List (List Exchange)) : Option Reading :=
  ((log.flatMap (handlings telemetry)).filterMap Handling.collected?).getLast?

theorem latest_concat {telemetry : String} (log : List (List Exchange)) (x : List Exchange) :
    latest telemetry (log ++ [x]) =
      ((handlings telemetry x).filterMap Handling.collected?).getLast?.or
        (latest telemetry log) := by
  simp [latest, List.flatMap_append, List.filterMap_append, List.getLast?_append]

theorem Handles.advances {passed : List (Reading × Nat)} {done last : List (List Exchange)}
    (t : c.Course) (h : c.Handles t.now t.worked (handlings c.topics.telemetry t.exchanges))
    (passes : Passes c.topics.telemetry c.id passed done)
    (underway : Underway c.topics.telemetry c.lifecycle.current c.lastReading last) :
    ∃ passed' done' last', done ++ last ++ [t.exchanges] = done' ++ last' ∧
      Passes c.topics.telemetry c.id passed' done' ∧
      Underway c.topics.telemetry t.worked.lifecycle.current t.worked.lastReading last' := by
  generalize hx : handlings c.topics.telemetry t.exchanges = x at h
  cases h with
  | collected reading sensing next latest =>
    rw [sensing] at underway
    cases underway
    refine ⟨passed, done, [t.exchanges], by simp, passes, ?_⟩
    rw [next, latest]
    exact .collected hx
  | shown reading held display next kept =>
    rw [display, held] at underway
    cases underway with
    | @collected x _ collected =>
      refine ⟨passed, done, [x, t.exchanges], by simp, passes, ?_⟩
      rw [next, kept, held]
      exact .shown collected hx
    | none display => exact absurd rfl display
  | sent reading held data next kept =>
    have read := t.clockReadings_of_publishing data
    rw [data, held] at underway
    cases underway with
    | @shown x y _ collected shown =>
      refine ⟨passed ++ [(reading, t.now)], done ++ [x, y, t.exchanges], [], by simp,
        .pass passes collected shown hx read, .none ?_ ?_⟩
      all_goals rcases next with next | next <;> simp [next]
    | none display data => exact absurd rfl data
  | none display data nextDisplay nextData holds kept =>
    obtain rfl : last = [] := by
      generalize c.lifecycle.current = p at underway display data
      generalize c.lastReading = held at underway
      cases underway with
      | collected => exact absurd rfl display
      | shown => exact absurd rfl data
      | none => rfl
    exact ⟨passed, done ++ [t.exchanges], [], by simp, .idle passes hx, .none nextDisplay nextData⟩

structure Carries (telemetry id : String) (log : List (List Exchange)) (c : Controller) :
    Prop where
  path : ∃ passed done last, log = done ++ last ∧ Passes telemetry id passed done ∧
    Underway telemetry c.lifecycle.current c.lastReading last
  held : c.lifecycle.current.holdsReading = true → c.lastReading.isSome = true
  latest : c.lastReading = latest telemetry log
  told : ∀ x ∈ log, telemetryEvents x = telemetryResults telemetry x

theorem Carries.tick (h : c.Carries c.topics.telemetry c.id log)
    (apart : [c.topics.telemetry, c.topics.diagnosticsResponse, c.topics.updateStatus].Nodup)
    (t : c.Course) : t.worked.Carries c.topics.telemetry c.id (log ++ [t.exchanges]) := by
  have handled := t.handles_reading apart h.held
  obtain ⟨passed, done, last, hlog, passes, underway⟩ := h.path
  refine ⟨?_, handled.holds h.held, ?_, fun x hx => ?_⟩
  · rw [hlog]
    exact handled.advances t passes underway
  · rw [handled.latest_eq, latest_concat, h.latest]
  · rcases List.mem_append.1 hx with earlier | now
    · exact h.told x earlier
    · rw [List.mem_singleton.1 now]
      exact t.telemetry_told apart

theorem Ticks.carries (h : Ticks first log c)
    (apart : [first.topics.telemetry, first.topics.diagnosticsResponse,
      first.topics.updateStatus].Nodup)
    (boots : first.lifecycle.current = .boot) (empty : first.lastReading = .none) :
    c.Carries first.topics.telemetry first.id log := by
  induction h with
  | none =>
    refine ⟨⟨[], [], [], rfl, .none, .none ?_ ?_⟩, fun holding => ?_, empty, by simp⟩
    · simp [boots]
    · simp [boots]
    · rw [boots] at holding
      cases holding
  | tick before run ih =>
    obtain ⟨t, rfl, rfl⟩ := (runs_tick_iff _ _ _).1 run
    rw [← before.topics_eq] at apart ih ⊢
    rw [← before.id_eq] at ih ⊢
    exact ih.tick apart t
  | fault before f ih => exact ⟨ih.path, ih.held, ih.latest, ih.told⟩

/-- Whatever the replies are, what is done with the readings is the beginning of a sequence of whole
paths: each reading is collected, shown in the next tick and sent in the one after that, before
another one is collected, and only the last may still be underway. A message that is sent carries
the reading and the time of its tick, and is told of once, with what came of it. The reading that
was collected last is held, and the phases that need one are not reached without. -/
theorem readings_keep_to_path {config : Config} {store : Store} {id : String} {boot : BootCheck}
    {start : Nat} (short : id.utf8ByteSize ≤ Identity.capacity)
    (h : Ticks (initial config store id boot start) log c) :
    let telemetry := (Wire.Topics.ofId id).telemetry
    (∃ readings : List (Reading × Nat),
      log.flatMap (handlings telemetry) <+: readings.flatMap fun p => path id p.1 p.2) ∧
    (∃ passed done last, log = done ++ last ∧ Passes telemetry id passed done ∧
      Underway telemetry c.lifecycle.current c.lastReading last) ∧
    (∀ exchanges ∈ log, telemetryEvents exchanges = telemetryResults telemetry exchanges) ∧
    c.lastReading = latest telemetry log ∧
    (c.lifecycle.current.holdsReading = true → ∃ reading, c.lastReading = some reading) := by
  intro telemetry
  have carried : c.Carries telemetry id log :=
    h.carries (Wire.Topics.publications_nodup short) rfl rfl
  refine ⟨?_, carried.path, carried.told, carried.latest, fun holding =>
    Option.isSome_iff_exists.1 (carried.held holding)⟩
  obtain ⟨passed, done, last, rfl, passes, underway⟩ := carried.path
  obtain ⟨rest, started⟩ := underway.flatMap_isPrefix id
  refine ⟨passed ++ rest, ?_⟩
  rw [List.flatMap_append, List.flatMap_append, passes.flatMap_eq]
  exact (List.prefix_append_right_inj _).2 started

theorem bench_sends_first_reading :
    let s := Bench.tickTimes none 6 (initial {} { capacity := 8 } "a" (.read false) 0) {}
    ∃ log reading passed, s.1.lifecycle.current = .sleeping ∧ s.1.lastReading = some reading ∧
      latest "analyzer/a/telemetry" log = some reading ∧ passed ≠ [] ∧
      Passes "analyzer/a/telemetry" "a" passed log := by
  intro s
  have start : Ticks (initial {} { capacity := 8 } "a" (.read false) 0) [] _ := .none
  obtain ⟨log, h⟩ := ticks_tickTimes 6 {} start
  have sleeping : s.1.lifecycle.current = .sleeping := by decide +kernel
  have topic : (Wire.Topics.ofId "a").telemetry = "analyzer/a/telemetry" := by decide +kernel
  obtain ⟨-, ⟨passed, done, last, hlog, passes, underway⟩, -, held, holds⟩ :=
    readings_keep_to_path (by decide) h
  obtain ⟨reading, hreading⟩ := holds (by rw [sleeping]; rfl)
  obtain rfl : last = [] := by
    rw [sleeping] at underway
    cases underway
    rfl
  rw [List.append_nil] at hlog
  rw [topic, ← hlog] at passes
  rw [topic] at held
  have latest_eq := held.symm.trans hreading
  refine ⟨log, reading, passed, sleeping, hreading, latest_eq, ?_, passes⟩
  rintro rfl
  rw [latest, passes.flatMap_eq] at latest_eq
  cases latest_eq

end Controller

end DoughAnalyzer
