import DoughAnalyzer.Proofs.Controller.PhaseTable
import DoughAnalyzer.Proofs.Controller.Resubscription

/-!
What the events of a run tell. The first one says that the device has started; the changes of the
phase, and those of the update's status, each lead on from where the last one has led. So whoever
listens from the start knows both at the end of every tick.
-/

set_option autoImplicit false

namespace DoughAnalyzer

def Exchange.event? : Exchange → Option Event
  | ⟨.emit event, _⟩ => some event
  | _ => none

def events (exchanges : List Exchange) : List Event := exchanges.filterMap Exchange.event?

theorem events_append (x y : List Exchange) : events (x ++ y) = events x ++ events y :=
  List.filterMap_append

namespace Event

def phaseMove? : Event → Option (Phase × Phase)
  | phaseChanged left entered => some (left, entered)
  | _ => none

def statusMove? : Event → Option (Update.Status × Update.Status)
  | statusChanged left entered => some (left, entered)
  | _ => none

def isAside : Event → Bool
  | firmwareConfirmed | telemetryPublished _ => true
  | started _ | phaseChanged _ _ | statusChanged _ _ => false

/-- What a listener makes of an event. -/
def apply (known : Phase × Update.Status) : Event → Phase × Update.Status
  | started phase => (phase, known.2)
  | phaseChanged _ entered => (entered, known.2)
  | statusChanged _ entered => (known.1, entered)
  | firmwareConfirmed | telemetryPublished _ => known

def replay (events : List Event) : Phase × Update.Status := events.foldl apply (.boot, .idle)

theorem foldl_apply_of_isAside {events : List Event}
    (aside : ∀ event ∈ events, event.isAside = true)
    (known : Phase × Update.Status) : events.foldl apply known = known := by
  induction events with
  | nil => rfl
  | cons event rest ih =>
    obtain ⟨first, later⟩ := List.forall_mem_cons.1 aside
    cases event <;> first | exact ih later | cases first

end Event

/-- Moves that each lead on from where the last one has led, and never stay. -/
inductive Moves {σ : Type} : σ → List (σ × σ) → σ → Prop where
  | none (s : σ) : Moves s [] s
  | move {a b c : σ} {rest : List (σ × σ)} (ne : a ≠ b) (later : Moves b rest c) :
      Moves a ((a, b) :: rest) c

namespace Moves

variable {σ : Type} {a b c : σ} {x y : List (σ × σ)}

theorem append (h : Moves a x b) (k : Moves b y c) : Moves a (x ++ y) c := by
  induction h with
  | none => exact k
  | move ne _ ih => exact .move ne (ih k)

theorem of_change [DecidableEq σ] (a b : σ) : Moves a (if b = a then [] else [(a, b)]) b := by
  split
  case isTrue same => exact same ▸ .none b
  case isFalse changed => exact .move (Ne.symm changed) (.none b)

theorem last (h : Moves a x b) : (x.getLast?.map Prod.snd).getD a = b := by
  induction h with
  | none => rfl
  | @move a b c rest ne later ih =>
    cases later with
    | none => rfl
    | move => simpa [List.getLast?_cons] using ih

end Moves

namespace Update.Session

theorem status_release (s : Session) : s.release.status = s.status := by
  unfold release
  split <;> rfl

theorem not_applying_fail (s : Session) (reason : UpdateError) :
    (s.fail reason).session.status ≠ .applying := by
  unfold fail
  split
  case isTrue => simp
  case isFalse free =>
    intro applying
    rw [status_release] at applying
    simp [applying, Status.holdsPartition] at free

theorem not_applying_start {s : Session} (h : s.status ≠ .applying) (a : Wire.Announcement)
    (safe : Bool) (now : Nat) : (s.start a safe now).session.status ≠ .applying := by
  unfold start
  split
  · exact h
  split
  · exact h
  split
  · exact h
  split
  · exact h
  split
  · exact h
  split
  · exact h
  · simp [begin]

theorem not_applying_finalize (s : Session) (now : Nat) :
    (s.finalize now).session.status ≠ .applying := by
  unfold finalize
  simp only
  split
  · exact not_applying_fail _ _
  split
  · exact not_applying_fail _ _
  split
  · exact not_applying_fail _ _
  · simp

theorem not_applying_settle {s : Session} (h : s.status ≠ .applying) (c : Wire.Chunk)
    (now : Nat) : (s.settle c now).session.status ≠ .applying := by
  have kept : s.told.status = s.status := by
    unfold told
    split <;> rfl
  unfold settle
  simp only
  split
  · exact not_applying_finalize s.told now
  · exact kept ▸ h

theorem not_applying_receive {s : Session} (h : s.status ≠ .applying) (c : Wire.Chunk)
    (now : Nat) : (s.receive c now).session.status ≠ .applying := by
  unfold receive
  split
  · exact h
  split
  · exact not_applying_fail _ _
  split
  · exact not_applying_fail _ _
  split
  · exact not_applying_fail _ _
  simp only
  split
  · exact not_applying_fail _ _
  split
  · exact not_applying_fail _ _
  · exact not_applying_settle (by exact h) c now

theorem not_applying_poll {s : Session} (h : s.status ≠ .applying) (now : Nat) :
    (s.poll now).session.status ≠ .applying := by
  unfold poll
  split
  · unfold supervise
    split
    · split
      · exact not_applying_fail _ _
      · exact h
    split
    · exact not_applying_fail _ _
    split <;> exact h
  · split
    · split
      · simp
      · exact h
    · exact h
  all_goals exact h

/-- Verification is over when a call returns. That a session is settled would say so too, but a
store may have writers open when the device boots. -/
theorem not_applying_take {s : Session} (h : s.status ≠ .applying) (i : Input) :
    (s.take i).session.status ≠ .applying := by
  cases i with
  | fault f => exact h
  | call c =>
    cases c with
    | start a safe now => exact not_applying_start h a safe now
    | chunk c now => exact not_applying_receive h c now
    | abort reason => exact not_applying_fail s reason
    | reset => simp [take, step, reset]
    | poll now => exact not_applying_poll h now
    | reconnect now =>
      change (s.reconnect now).session.status ≠ _
      rw [reconnect_keeps]
      exact h

end Update.Session

namespace Controller

open Dialogue (Ensures Runs)

variable {c c' first between : Controller} {now : Nat} {p : Phase} {exchanges done : List Exchange}
  {move : Option (Phase × Nat)} {log : List (List Exchange)}

theorem runs_announceStart (run : Runs c.announceStart exchanges c') :
    events exchanges = (if c.started then [] else [.started c.lifecycle.current]) ∧
      c'.started = true := by
  unfold announceStart at run
  split at run
  case isTrue before =>
    obtain ⟨rfl, rfl⟩ := (Dialogue.runs_pure _ _ _).1 run
    exact ⟨(if_pos before).symm, before⟩
  case isFalse first =>
    obtain ⟨_, _, rfl, run₁⟩ := (Dialogue.runs_request_bind (.log _) _ _ _).1 run
    obtain ⟨_, _, rfl, run₂⟩ := (Dialogue.runs_request_bind (.emit _) _ _ _).1 run₁
    obtain ⟨rfl, rfl⟩ := (Dialogue.runs_pure _ _ _).1 run₂
    exact ⟨(if_neg first).symm, rfl⟩

theorem commit_started {α : Type} (c : Controller) (o : Update.Outcome α) :
    (c.commit o).Ensures (fun _ => True) (·.started = c.started) :=
  (c.commit_ensures o).mono (fun _ _ => trivial) fun _ h => h ▸ rfl

theorem handle_started (c : Controller) (now : Nat) (message : Wire.Message) :
    (c.handle now message).Ensures (fun _ => True) (·.1.started = c.started) := by
  cases message with
  | announcement a =>
    refine Ensures.bind (Q := fun _ => True) ?_ fun _ _ => (c.commit_started _).bind fun _ h => h
    unfold askSafety
    split
    · exact ⟨trivial, fun _ => trivial⟩
    · trivial
  | chunk piece => exact (c.commit_started _).bind fun _ h => h
  | diagnosticsRequest =>
    exact ((c.publishDiagnostics_ensures now).mono (fun _ _ => trivial) fun _ h => h).bind
      fun _ _ => rfl
  | other => rfl

theorem dispatch_started (c : Controller) (frame : Wire.Frame) (now : Nat) :
    (c.dispatch frame now).Ensures (fun _ => True) (·.started = c.started) := by
  have logs (log : Console.Log) : (sayAll log).Ensures (fun _ => True) fun _ => True :=
    (sayAll_ensures log).mono (fun _ _ => trivial) fun _ h => h
  refine (logs _).bind fun _ _ => ?_
  split
  · exact (logs _).bind fun _ _ => rfl
  · exact (handle_started _ now _).bind fun _ h => (logs _).bind fun _ _ => h

theorem drain_started (c : Controller) (now n : Nat) :
    (c.drain now n).Ensures (fun _ => True) (·.started = c.started) := by
  induction n generalizing c with
  | zero => rfl
  | succ n ih =>
    refine .request trivial fun r => ?_
    cases r with
    | none => rfl
    | some frame =>
      exact (c.dispatch_started frame now).bind fun c' h =>
        (ih c').mono (fun _ h => h) fun _ k => k.trans h

theorem Follows.started_eq {up : Bool} {results : List (String × Bool)}
    {told : List Update.Notice} (h : c.Follows now up results told c') :
    c'.started = c.started := by
  cases h <;> rfl

theorem Branch.started_eq (b : c.Branch now p done between move) :
    (between.goes move).started = c.started := by
  cases b <;> rfl

theorem Branch.events_aside (b : c.Branch now p done between move) :
    ∀ event ∈ events done, event.isAside = true := by
  cases b <;> simp [events, Exchange.event?, Event.isAside]

theorem Branch.session_eq (b : c.Branch now p done between move) :
    (between.goes move).session = c.session := by
  cases b <;> rfl

namespace Course

theorem worked_started (t : c.Course) : t.worked.started = true := by
  obtain ⟨between, move, b, hworked⟩ := ends_of_runs t.done
  obtain ⟨_, _, follows, -⟩ := runs_trackChannel t.followed
  obtain ⟨-, drained⟩ := (t.tracked.drain_started t.now _).of_runs t.taken
  obtain ⟨-, polled⟩ := runs_pollUpdate t.timed
  have kept : t.polled.started = t.drained.started := by rw [polled]
  rw [hworked, b.started_eq, kept, drained, follows.started_eq]
  exact (runs_announceStart t.opened).2

theorem not_applying (t : c.Course) (h : c.session.status ≠ .applying) :
    t.worked.session.status ≠ .applying := by
  obtain ⟨between, move, b, hworked⟩ := ends_of_runs t.done
  obtain ⟨inputs, hpolled⟩ := t.prepares.2.session
  rw [hworked, b.session_eq, hpolled]
  exact Update.Session.after_induction (P := fun s => s.status ≠ .applying) h
    (fun _ i h => Update.Session.not_applying_take h i) inputs

theorem events_eq (t : c.Course) :
    ∃ said, (∀ event ∈ said, event.isAside = true) ∧
      events t.exchanges = (if c.started then [] else [.started c.lifecycle.current]) ++
        (said ++ changes c t.worked) := by
  obtain ⟨between, move, b, -⟩ := ends_of_runs t.done
  obtain ⟨-, started⟩ := c.announceStart_feeds.of_runs t.opened
  have silent (stage : Stage) (other : stage ≠ .opening) (q : Request) (r : q.Reply)
      (asks : stage.Asks c.topics q) : Exchange.event? ⟨q, r⟩ = none := by
    cases q with
    | emit event => cases stage <;> first | exact absurd rfl other | cases event <;> cases asks
    | _ => rfl
  have opening := (runs_announceStart t.opened).1
  have preparing : t.preparing.filterMap Exchange.event? = events t.opening := by
    rw [t.filterMap_preparing, filterMap_eq_nil_of_asks t.tracking_asks (silent _ (by decide)),
      filterMap_eq_nil_of_asks t.draining_asks (silent _ (by decide)),
      filterMap_eq_nil_of_asks t.polling_asks (silent _ (by decide))]
    exact List.append_nil _
  have working : (asked t.working).filterMap Exchange.event? =
      t.working.filterMap Exchange.event? := filterMap_asked (fun _ => rfl) t.working
  have closing : t.closing.filterMap Exchange.event? = changes c t.worked := by
    rw [t.closing_eq, List.filterMap_map, changes, started.lifecycle, started.session]
    exact List.filterMap_some
  refine ⟨events (asked t.working), b.events_aside, ?_⟩
  rw [events, t.filterMap_exchanges, preparing, opening, ← working, closing]
  rfl

theorem filterMap_events {β : Type} {f : Event → Option β}
    (start : ∀ phase, f (.started phase) = none)
    (unchanged : ∀ event : Event, event.isAside = true → f event = none) (t : c.Course) :
    (events t.exchanges).filterMap f = (changes c t.worked).filterMap f := by
  obtain ⟨said, aside, told⟩ := t.events_eq
  have first :
      (if c.started then [] else [Event.started c.lifecycle.current]).filterMap f = [] := by
    split
    · rfl
    · simp [start]
  have between : said.filterMap f = [] :=
    List.filterMap_eq_nil_iff.2 fun event he => unchanged event (aside event he)
  rw [told, List.filterMap_append, List.filterMap_append, first, between]
  rfl

theorem phaseMoves_events (t : c.Course) :
    (events t.exchanges).filterMap Event.phaseMove? =
      if t.worked.lifecycle.current = c.lifecycle.current then []
      else [(c.lifecycle.current, t.worked.lifecycle.current)] := by
  have unmoved (event : Event) (aside : event.isAside = true) : event.phaseMove? = none := by
    cases event <;> first | rfl | cases aside
  rw [filterMap_events (fun _ => rfl) unmoved t, changes]
  split <;> split <;> rfl

theorem statusMoves_events (t : c.Course) :
    (events t.exchanges).filterMap Event.statusMove? =
      if t.worked.session.status = c.session.status then []
      else [(c.session.status, t.worked.session.status)] := by
  have unmoved (event : Event) (aside : event.isAside = true) : event.statusMove? = none := by
    cases event <;> first | rfl | cases aside
  rw [filterMap_events (fun _ => rfl) unmoved t, changes]
  split <;> split <;> rfl

/-- Whoever knew the phase and the status before a tick knows them after it. -/
theorem foldl_events (t : c.Course) :
    (events t.exchanges).foldl Event.apply (c.lifecycle.current, c.session.status) =
      (t.worked.lifecycle.current, t.worked.session.status) := by
  obtain ⟨said, aside, told⟩ := t.events_eq
  have first : (if c.started then [] else [Event.started c.lifecycle.current]).foldl Event.apply
      (c.lifecycle.current, c.session.status) = (c.lifecycle.current, c.session.status) := by
    split <;> rfl
  rw [told, List.foldl_append, List.foldl_append, first, Event.foldl_apply_of_isAside aside,
    changes]
  split <;> split <;> simp_all [Event.apply]

theorem starts (t : c.Course) :
    ∃ later, events t.exchanges =
        (if c.started then [] else [.started c.lifecycle.current]) ++ later ∧
      ∀ phase, .started phase ∉ later := by
  obtain ⟨said, aside, told⟩ := t.events_eq
  refine ⟨_, told, fun phase h => ?_⟩
  rcases List.mem_append.1 h with h | h
  · cases aside _ h
  · cases isChange_of_mem_changes h

end Course

/-- What holds of the events of a run, and of where it has led. -/
structure Traced (log : List (List Exchange)) (c : Controller) : Prop where
  started_iff : c.started = true ↔ log ≠ []
  starts : log ≠ [] → ∃ later, events log.flatten = .started .boot :: later ∧
    ∀ phase, .started phase ∉ later
  phases : Moves .boot ((events log.flatten).filterMap Event.phaseMove?) c.lifecycle.current
  statuses : Moves .idle ((events log.flatten).filterMap Event.statusMove?) c.session.status
  not_applying : c.session.status ≠ .applying
  unapplied : ∀ move ∈ (events log.flatten).filterMap Event.statusMove?,
    move.1 ≠ .applying ∧ move.2 ≠ .applying
  replayed : Event.replay (events log.flatten) = (c.lifecycle.current, c.session.status)

theorem Traced.initial (config : Config) (store : Store) (id : String) (boot : BootCheck)
    (start : Nat) : Traced [] (initial config store id boot start) where
  started_iff := by simp [Controller.initial]
  starts := fun ran => absurd rfl ran
  phases := .none _
  statuses := .none _
  not_applying := by simp [Controller.initial, Update.Session.ofStore]
  unapplied := by simp [events]
  replayed := rfl

theorem Traced.tick (h : Traced log c) (t : c.Course) :
    Traced (log ++ [t.exchanges]) t.worked := by
  have split : events (log ++ [t.exchanges]).flatten =
      events log.flatten ++ events t.exchanges := by
    rw [List.flatten_concat, events_append]
  have settled := t.not_applying h.not_applying
  refine ⟨by simp [t.worked_started], fun _ => ?_, ?_, ?_, settled, ?_, ?_⟩
  · obtain ⟨later, told, once⟩ := t.starts
    rw [split, told]
    by_cases ran : log = []
    · subst ran
      have fresh : c.started = false := by simpa using h.started_iff
      have booting : c.lifecycle.current = .boot := h.phases.last.symm
      rw [fresh, booting]
      exact ⟨later, rfl, once⟩
    · obtain ⟨earlier, first, before⟩ := h.starts ran
      rw [h.started_iff.2 ran, first]
      refine ⟨earlier ++ later, rfl, fun phase hphase => ?_⟩
      rcases List.mem_append.1 hphase with hphase | hphase
      · exact before phase hphase
      · exact once phase hphase
  · rw [split, List.filterMap_append, t.phaseMoves_events]
    exact h.phases.append (.of_change _ _)
  · rw [split, List.filterMap_append, t.statusMoves_events]
    exact h.statuses.append (.of_change _ _)
  · rw [split, List.filterMap_append, t.statusMoves_events, List.forall_mem_append]
    refine ⟨h.unapplied, ?_⟩
    split
    · simp
    · simpa using ⟨h.not_applying, settled⟩
  · have replayed := h.replayed
    unfold Event.replay at replayed ⊢
    rw [split, List.foldl_append, replayed, t.foldl_events]

theorem Ticks.traced {config : Config} {store : Store} {id : String} {boot : BootCheck}
    {start : Nat} (ticks : Ticks (initial config store id boot start) log c) : Traced log c := by
  induction ticks with
  | none => exact .initial config store id boot start
  | tick before run ih =>
    obtain ⟨t, rfl, rfl⟩ := (runs_tick_iff _ _ _).1 run
    exact ih.tick t
  | fault before f ih => exact { ih with }

/-- Whatever the replies are, the first event says that the device has started, and no other does.
The changes of the phase lead from the boot to the phase that the last tick has ended in, those of
the status from an idle update to where it stands, each from where the last one has led and never to
the same; that an image is verified is never told. So the events add up to the phase and the
status. -/
theorem events_trace_run {config : Config} {store : Store} {id : String} {boot : BootCheck}
    {start : Nat} (ticks : Ticks (initial config store id boot start) log c) :
    (log ≠ [] → ∃ later, events log.flatten = .started .boot :: later ∧
      ∀ phase, .started phase ∉ later) ∧
    Moves .boot ((events log.flatten).filterMap Event.phaseMove?) c.lifecycle.current ∧
    Moves .idle ((events log.flatten).filterMap Event.statusMove?) c.session.status ∧
    (∀ left entered, .statusChanged left entered ∈ events log.flatten →
      left ≠ .applying ∧ entered ≠ .applying) ∧
    Event.replay (events log.flatten) = (c.lifecycle.current, c.session.status) := by
  have traced := ticks.traced
  refine ⟨traced.starts, traced.phases, traced.statuses, fun left entered told => ?_,
    traced.replayed⟩
  exact traced.unapplied (left, entered) (List.mem_filterMap.2 ⟨_, told, rfl⟩)

theorem bench_tells_refused_image :
    let c := initial {} { capacity := 8 } "a" (.read false) 0
    let frames := [oneOctetAnnounced, ⟨"analyzer/a/ota/chunk", [0, 0, 0, 0, 1, 0, 0, 0, 7]⟩]
    let b : Bench := { channel := { mailbox := .fixed true false frames } }
    let c' := (c.tick.run Bench.respond b).1
    let told := events [c.tick.exchanges Bench.respond b].flatten
    told = [.started .boot, .phaseChanged .boot .connectingNetwork, .statusChanged .idle .error] ∧
      Moves .idle (told.filterMap Event.statusMove?) c'.session.status ∧
      c'.lifecycle.current = .connectingNetwork := by
  intro c frames b c' told
  have ticks : Ticks c [c.tick.exchanges Bench.respond b] c' :=
    .tick .none (Dialogue.runs_run Bench.respond c.tick b)
  obtain ⟨-, -, statuses, -, replayed⟩ := events_trace_run ticks
  have hevents : told =
      [.started .boot, .phaseChanged .boot .connectingNetwork, .statusChanged .idle .error] := by
    decide +kernel
  refine ⟨hevents, statuses, ?_⟩
  change Event.replay told = _ at replayed
  rw [hevents] at replayed
  exact (congrArg Prod.fst replayed).symm

end Controller

end DoughAnalyzer
