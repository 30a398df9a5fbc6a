import DoughAnalyzer.Proofs.Controller.Preparation
import DoughAnalyzer.Proofs.Controller.SlotOpening
import DoughAnalyzer.Proofs.Update.NoticeStream
import DoughAnalyzer.Proofs.Wire.TopicNames
import Mathlib.Data.List.DropRight

/-!
Subscriptions are made again on every connection. A tick sees the channel up or down, and as long as
it is up the subscriptions are tried, tick by tick, until all of them stand; then, and not again on
the same connection, a running download is resumed.
-/

set_option autoImplicit false

namespace DoughAnalyzer

def subscriptions (exchanges : List Exchange) : List (String × Bool) :=
  exchanges.filterMap fun
    | ⟨.subscribe topic, r⟩ => some (topic, r.isOk)
    | _ => none

def channelReadings (exchanges : List Exchange) : List Bool :=
  exchanges.filterMap fun
    | ⟨.channelConnected, up⟩ => some up
    | _ => none

/-- Whether a tick sees the channel up. The phase that waits for the channel reads it once more. -/
def readsConnected (exchanges : List Exchange) : Bool :=
  (channelReadings exchanges).head? = some true

/-- Topics are tried in their order, up to the first failure. The last argument says that there was
none. -/
inductive TriesInOrder : List String → List (String × Bool) → Bool → Prop where
  | none : TriesInOrder [] [] true
  | failed (topic : String) (rest : List String) :
      TriesInOrder (topic :: rest) [(topic, false)] false
  | made {rest : List String} {results : List (String × Bool)} {done : Bool} (topic : String)
      (later : TriesInOrder rest results done) :
      TriesInOrder (topic :: rest) ((topic, true) :: results) done

def allMade (topics : List String) : List (String × Bool) := topics.map (·, true)

/-- All topics were subscribed in one tick since the channel was last seen down. -/
def Restored (topics : List String) (log : List (List Exchange)) : Prop :=
  ∃ x ∈ log.rtakeWhile readsConnected, subscriptions x = allMade topics

theorem TriesInOrder.done_iff {topics : List String} {results : List (String × Bool)} {done : Bool}
    (h : TriesInOrder topics results done) : done = true ↔ results = allMade topics := by
  induction h with
  | none => simp [allMade]
  | failed => simp [allMade]
  | made topic later ih => simpa [allMade] using ih

theorem restored_concat (topics : List String) (log : List (List Exchange)) (x : List Exchange) :
    Restored topics (log ++ [x]) ↔
      readsConnected x = true ∧ (Restored topics log ∨ subscriptions x = allMade topics) := by
  unfold Restored
  rw [List.rtakeWhile_concat]
  split
  · simp [*, or_and_right, exists_or]
  · simp [*]

theorem subscriptions_append (x y : List Exchange) :
    subscriptions (x ++ y) = subscriptions x ++ subscriptions y :=
  List.filterMap_append

theorem channelReadings_append (x y : List Exchange) :
    channelReadings (x ++ y) = channelReadings x ++ channelReadings y :=
  List.filterMap_append

theorem unsubscribed_of_isReport {exchanges : List Exchange}
    (reports : ∀ e ∈ exchanges, e.request.isReport = true) :
    subscriptions exchanges = [] ∧ channelReadings exchanges = [] := by
  constructor
  all_goals
    refine List.filterMap_eq_nil_iff.2 fun e he => ?_
    have report := reports e he
    rcases e with ⟨q, r⟩
    cases q <;> first | rfl | cases report

namespace Update

def Notice.isResumed : Notice → Bool
  | resumed _ => true
  | _ => false

namespace Session

def Input.isReconnect : Input → Bool
  | .call (.reconnect _) => true
  | _ => false

variable {s : Session} {i : Input} {o : Outcome Reply}

theorem reconnect_keeps (s : Session) (now : Nat) :
    (s.reconnect now).session =
      { s with lastChunkAt := (s.reconnect now).session.lastChunkAt } := by
  unfold reconnect
  split <;> rfl

theorem unresumed_grown (s : Session) (w : Store.Writer) (c : Wire.Chunk) (now : Nat) :
    ∀ n ∈ notices (s.grownEffects w c now), n.isResumed = false := by
  rcases notices_grownEffects s w c now with ⟨none, -⟩ | one
  · simp [none]
  · simp [one, Notice.isResumed]

theorem Transition.unresumed (t : Transition s i o) (other : i.isReconnect = false) :
    ∀ n ∈ notices o.effects, n.isResumed = false := by
  cases t with
  | chunkTaken c now w => exact s.unresumed_grown w c now
  | imageRefused c now w reason remarks =>
    simp only [notices_append, notices_map_remark, List.forall_mem_append]
    refine ⟨⟨s.unresumed_grown w c now, by simp⟩, ?_⟩
    simp [endEffects, notices, Effect.notice?, Notice.isResumed]
  | imageActivated c now w =>
    simp only [notices_append, List.forall_mem_append]
    exact ⟨s.unresumed_grown w c now, by simp [notices, Effect.notice?, Notice.isResumed]⟩
  | reconnectIgnored | resumed => cases other
  | _ => simp [endEffects, notices, Effect.notice?, Notice.isResumed]

theorem unresumed_tellings (h : s.Settled) {inputs : List Input}
    (others : ∀ i ∈ inputs, i.isReconnect = false) :
    ∀ n ∈ s.tellings inputs, n.isResumed = false := by
  induction inputs generalizing s with
  | nil => simp [tellings, record]
  | cons i rest ih =>
    obtain ⟨first, later⟩ := List.forall_mem_cons.1 others
    have t := take_transition h i
    rw [← List.singleton_append, tellings_append, tellings_singleton, List.forall_mem_append]
    exact ⟨t.unresumed first, ih (t.settled h) later⟩

end Session

end Update

namespace Controller

open Dialogue (Runs)
open Update (Notice Session)

/-- What a tick does about the channel: what it sees, what it subscribes, what the update tells of
it, and the controller then. -/
inductive Follows (c : Controller) (now : Nat) :
    Bool → List (String × Bool) → List Notice → Controller → Prop where
  | steady : Follows c now c.channelUp [] [] c
  | lost (up : c.channelUp = true) : Follows c now false [] [] { c with channelUp := false }
  | unrestored {results : List (String × Bool)} (down : c.channelUp = false)
      (tried : TriesInOrder c.topics.subscriptions results false) : Follows c now true results [] c
  | restored {results : List (String × Bool)} (down : c.channelUp = false)
      (tried : TriesInOrder c.topics.subscriptions results true) :
      Follows c now true results (Update.notices (c.session.reconnect now).effects)
        { c with channelUp := true, session := (c.session.reconnect now).session }

variable {c c' between first : Controller} {now : Nat} {p : Phase} {exchanges done : List Exchange}
  {move : Option (Phase × Nat)} {log : List (List Exchange)}

theorem announceStart_untold (c : Controller) (topics : Wire.Topics) :
    c.announceStart.Ensures (·.statusPayload? topics = none) fun _ => True := by
  unfold announceStart
  split
  · trivial
  · exact .request rfl fun _ => .request rfl fun _ => trivial

theorem runs_subscribeAll {topics : List String} {subscribed : Bool}
    (run : Runs (subscribeAll topics) exchanges subscribed) (t : Wire.Topics) :
    TriesInOrder topics (subscriptions exchanges) subscribed ∧ channelReadings exchanges = [] ∧
      statusPayloads t exchanges = [] := by
  induction topics generalizing exchanges with
  | nil =>
    obtain ⟨rfl, rfl⟩ := (Dialogue.runs_pure _ _ _).1 run
    exact ⟨.none, rfl, rfl⟩
  | cons topic rest ih =>
    obtain ⟨r, _, rfl, run₁⟩ := (Dialogue.runs_request_bind (.subscribe topic) _ _ _).1 run
    rcases r with e | ⟨⟩
    · obtain ⟨_, _, rfl, run₂⟩ := (Dialogue.runs_request_bind (.log _) _ _ _).1 run₁
      obtain ⟨rfl, rfl⟩ := (Dialogue.runs_pure _ _ _).1 run₂
      exact ⟨.failed topic rest, rfl, rfl⟩
    · obtain ⟨tried, unread, untold⟩ := ih run₁
      exact ⟨.made topic tried, unread, untold⟩

theorem runs_resume {record : Console.Record} {α : Type} {o : Update.Outcome α}
    (run : Runs (do say record; c.commit o) exchanges c') :
    subscriptions exchanges = [] ∧ channelReadings exchanges = [] ∧
      statusPayloads c.topics exchanges = (Update.notices o.effects).map (·.document) ∧
      c' = { c with session := o.session } := by
  obtain ⟨_, committing, rfl, committed⟩ := (Dialogue.runs_request_bind (.log record) _ _ _).1 run
  obtain ⟨reports, -⟩ := (commit_ensures _ _).of_runs committed
  obtain ⟨told, rfl⟩ := requests_commit committed
  obtain ⟨unsubscribed, unread⟩ := unsubscribed_of_isReport reports
  have payloads : statusPayloads c.topics committing =
      (Update.notices o.effects).map (·.document) := by
    rw [statusPayloads_of_requests, told, filterMap_reports]
  exact ⟨unsubscribed, unread, payloads, rfl⟩

theorem runs_trackChannel (run : Runs (c.trackChannel now) exchanges c') :
    ∃ up told, c.Follows now up (subscriptions exchanges) told c' ∧
      channelReadings exchanges = [up] ∧
      statusPayloads c.topics exchanges = told.map (·.document) := by
  obtain ⟨up, _, rfl, run₁⟩ := (Dialogue.runs_request_bind .channelConnected _ _ _).1 run
  by_cases same : up = c.channelUp
  · rw [if_pos same] at run₁
    obtain ⟨rfl, rfl⟩ := (Dialogue.runs_pure _ _ _).1 run₁
    subst same
    exact ⟨_, [], .steady, rfl, rfl⟩
  rw [if_neg same] at run₁
  cases up with
  | false =>
    obtain ⟨_, _, rfl, run₂⟩ := (Dialogue.runs_request_bind (.log _) _ _ _).1 run₁
    obtain ⟨rfl, rfl⟩ := (Dialogue.runs_pure _ _ _).1 run₂
    exact ⟨false, [], .lost (by simpa using Ne.symm same), rfl, rfl⟩
  | true =>
    have down : c.channelUp = false := by simpa using Ne.symm same
    obtain ⟨trying, subscribed, _, rfl, subscribing, run₂⟩ := (Dialogue.runs_bind _ _ _ _).1 run₁
    obtain ⟨tried, unread, untold⟩ := runs_subscribeAll subscribing c.topics
    cases subscribed with
    | false =>
      obtain ⟨rfl, rfl⟩ := (Dialogue.runs_pure _ _ _).1 run₂
      rw [List.append_nil]
      exact ⟨true, [], .unrestored down tried, congrArg (true :: ·) unread, untold⟩
    | true =>
      obtain ⟨unsubscribed, unreadLater, told, rfl⟩ := runs_resume run₂
      refine ⟨true, Update.notices (c.session.reconnect now).effects, .restored down ?_, ?_, ?_⟩
      · change TriesInOrder _ (subscriptions (trying ++ _)) true
        rwa [subscriptions_append, unsubscribed, List.append_nil]
      · change true :: channelReadings (trying ++ _) = [true]
        rw [channelReadings_append, unread, unreadLater]
        rfl
      · change statusPayloads _ (trying ++ _) = _
        rw [statusPayloads_append, untold]
        exact told

theorem Follows.channelUp_iff {up : Bool} {results : List (String × Bool)} {told : List Notice}
    (h : c.Follows now up results told c') :
    c'.channelUp = true ↔
      up = true ∧ (c.channelUp = true ∨ results = allMade c.topics.subscriptions) := by
  cases h with
  | steady => exact ⟨fun up => ⟨up, .inl up⟩, And.left⟩
  | lost up => simp
  | unrestored down tried => simp [down, ← tried.done_iff]
  | restored down tried => simp [← tried.done_iff]

def reconnection (topics : List String) (results : List (String × Bool)) (now : Nat) :
    List Session.Input :=
  if results = allMade topics then [.call (.reconnect now)] else []

theorem reconnection_nil (topics : Wire.Topics) (now : Nat) :
    reconnection topics.subscriptions [] now = [] :=
  if_neg (by simp [allMade, Wire.Topics.subscriptions])

theorem Follows.tried {up : Bool} {results : List (String × Bool)} {told : List Notice}
    (h : c.Follows now up results told c') :
    (up = true ∧ c.channelUp = false → ∃ made, TriesInOrder c.topics.subscriptions results made) ∧
      (¬ (up = true ∧ c.channelUp = false) → results = []) := by
  cases h with
  | steady => simp
  | lost up => simp
  | unrestored down tried => exact ⟨fun _ => ⟨false, tried⟩, fun h => absurd ⟨rfl, down⟩ h⟩
  | restored down tried => exact ⟨fun _ => ⟨true, tried⟩, fun h => absurd ⟨rfl, down⟩ h⟩

theorem Follows.resumes {up : Bool} {results : List (String × Bool)} {told : List Notice}
    (h : c.Follows now up results told c') :
    c'.session = c.session.after (reconnection c.topics.subscriptions results now) ∧
      told = c.session.tellings (reconnection c.topics.subscriptions results now) := by
  cases h with
  | steady | lost =>
    rw [reconnection_nil]
    exact ⟨rfl, rfl⟩
  | unrestored down tried =>
    rw [reconnection, if_neg fun made => by simpa using tried.done_iff.2 made]
    exact ⟨rfl, rfl⟩
  | restored down tried =>
    rw [reconnection, if_pos (tried.done_iff.1 rfl), Session.tellings_singleton]
    exact ⟨rfl, rfl⟩

theorem Branch.channelUp_eq (b : c.Branch now p done between move) :
    (between.goes move).channelUp = c.channelUp := by
  cases b <;> rfl

theorem Branch.unsubscribed (b : c.Branch now p done between move) : subscriptions done = [] := by
  cases b <;> rfl

theorem Branch.untold (b : c.Branch now p done between move)
    (apart : c.topics.telemetry ≠ c.topics.updateStatus) : statusPayloads c.topics done = [] := by
  cases b with
  | published reading r => simp [statusPayloads, Request.statusPayload?, apart]
  | _ => rfl

namespace Course

theorem started_eq (t : c.Course) :
    t.started.topics = c.topics ∧ t.started.channelUp = c.channelUp ∧
      t.started.session = c.session := by
  obtain ⟨-, topics, up⟩ := c.announceStart_asks.of_runs t.opened
  obtain ⟨-, fed⟩ := c.announceStart_feeds.of_runs t.opened
  exact ⟨topics, up, fed.session⟩

theorem channelUp_eq (t : c.Course) : t.worked.channelUp = t.tracked.channelUp := by
  obtain ⟨between, move, b, hworked⟩ := ends_of_runs t.done
  obtain ⟨-, -, drained⟩ := (t.tracked.drain_asks t.now _).of_runs t.taken
  obtain ⟨-, -, polled⟩ := (t.drained.pollUpdate_asks t.now).of_runs t.timed
  rw [hworked, b.channelUp_eq, polled, drained]

theorem subscriptions_eq (t : c.Course) :
    subscriptions t.exchanges = subscriptions t.tracking := by
  obtain ⟨between, move, b, -⟩ := ends_of_runs t.done
  have unasked {stage : Stage} {x : List Exchange} (other : stage ≠ .tracking)
      (asks : ∀ e ∈ x, stage.Asks c.topics e.request) : subscriptions x = [] := by
    refine filterMap_eq_nil_of_asks asks fun q r asked => ?_
    cases q with
    | subscribe topic => cases stage <;> first | exact absurd rfl other | cases asked
    | _ => rfl
  have opening := unasked (by decide) t.opening_asks
  have draining := unasked (by decide) t.draining_asks
  have polling := unasked (by decide) t.polling_asks
  have working : subscriptions t.working = [] :=
    (filterMap_asked (fun _ => rfl) _).symm.trans b.unsubscribed
  have closing : subscriptions t.closing = [] := by
    rw [t.closing_eq]
    simp [subscriptions]
  rw [exchanges, preparing, ← List.singleton_append]
  have clock : subscriptions [⟨.clock, t.now⟩] = [] := rfl
  have keeping : subscriptions [⟨.pollNetwork t.now, ()⟩] = [] := rfl
  simp only [subscriptions_append, clock, opening, draining, polling, keeping, working, closing,
    List.nil_append, List.append_nil]

theorem readsConnected_eq (t : c.Course) {up : Bool}
    (read : channelReadings t.tracking = [up]) : readsConnected t.exchanges = up := by
  have opening : channelReadings t.opening = [] := by
    refine filterMap_eq_nil_of_asks t.opening_asks fun q r asks => ?_
    cases q <;> first | rfl | cases asks
  rw [readsConnected, exchanges, preparing, ← List.singleton_append]
  simp only [channelReadings_append, opening, read]
  cases up <;> rfl

theorem follows (t : c.Course) :
    ∃ told, t.started.Follows t.now (readsConnected t.exchanges) (subscriptions t.exchanges) told
        t.tracked ∧
      statusPayloads c.topics t.tracking = told.map (·.document) := by
  obtain ⟨up, told, follows, read, payloads⟩ := runs_trackChannel t.followed
  rw [t.started_topics] at payloads
  rw [t.readsConnected_eq read, t.subscriptions_eq]
  exact ⟨told, follows, payloads⟩

theorem later (t : c.Course)
    (apart : [c.topics.telemetry, c.topics.diagnosticsResponse, c.topics.updateStatus].Nodup) :
    ∃ inputs, (∀ i ∈ inputs, Session.Input.isReconnect i = false) ∧
      t.worked.session = t.tracked.session.after inputs ∧
      statusPayloads c.topics t.exchanges = statusPayloads c.topics t.tracking ++
        (t.tracked.session.tellings inputs).map (·.document) := by
  simp only [List.nodup_cons, List.mem_cons, List.not_mem_nil, or_false, not_or] at apart
  obtain ⟨⟨-, telemetry⟩, diagnostics, -⟩ := apart
  obtain ⟨brought, drains⟩ := runs_drain t.taken
  obtain ⟨hasked, hpolled⟩ := runs_pollUpdate t.timed
  obtain ⟨between, move, b, -⟩ := ends_of_runs t.done
  have kept := t.prepares.2.topics
  refine ⟨brought.flatten ++ [.call (.poll t.now)], ?_, ?_, ?_⟩
  · rw [List.forall_mem_append]
    exact ⟨forall_brought drains.brings (fun _ _ => rfl) fun _ => rfl,
      by simp [Session.Input.isReconnect]⟩
  · rw [t.sleepRequests_eq.2.session, hpolled, Session.after_append, ← drains.fed.session]
    rfl
  have opening : statusPayloads c.topics t.opening = [] :=
    List.filterMap_eq_nil_iff.2 ((c.announceStart_untold c.topics).of_runs t.opened).1
  have draining : statusPayloads c.topics t.draining =
      (t.tracked.session.tellings brought.flatten).map (·.document) := by
    have told := drains.told
    rw [Tells, t.tracked_topics] at told
    exact told diagnostics
  have polling : statusPayloads c.topics t.polling =
      (t.drained.session.tellings [.call (.poll t.now)]).map (·.document) := by
    rw [statusPayloads_of_requests, hasked, List.filterMap_append, ← t.drained_topics,
      filterMap_reports, Session.tellings_singleton]
    cases (t.drained.session.poll t.now).result <;> exact List.append_nil _
  have working : statusPayloads c.topics t.working = [] := by
    rw [← kept] at telemetry ⊢
    exact (filterMap_asked (fun _ => rfl) _).symm.trans (b.untold telemetry)
  have closing : statusPayloads c.topics t.closing = [] := by
    rw [t.closing_eq]
    simp [statusPayloads, Request.statusPayload?]
  have clock : statusPayloads c.topics [⟨.clock, t.now⟩] = [] := rfl
  have keeping : statusPayloads c.topics [⟨.pollNetwork t.now, ()⟩] = [] := rfl
  rw [exchanges, preparing, ← List.singleton_append, Session.tellings_append,
    ← drains.fed.session, List.map_append, ← draining, ← polling]
  simp only [statusPayloads_append, clock, opening, keeping, working, closing, List.nil_append,
    List.append_nil]

theorem restored_iff (t : c.Course)
    (restored : c.channelUp = true ↔ Restored c.topics.subscriptions log) :
    t.worked.channelUp = true ↔ Restored c.topics.subscriptions (log ++ [t.exchanges]) := by
  obtain ⟨told, follows, -⟩ := t.follows
  obtain ⟨topics, up, -⟩ := t.started_eq
  rw [restored_concat, ← restored, t.channelUp_eq, follows.channelUp_iff, up, topics]

end Course

theorem Ticks.restored_iff (h : Ticks first log c) (down : first.channelUp = false) :
    c.channelUp = true ↔ Restored first.topics.subscriptions log := by
  induction h with
  | none => simp [down, Restored]
  | tick before run ih =>
    obtain ⟨t, rfl, rfl⟩ := (runs_tick_iff _ _ _).1 run
    rw [← before.topics_eq] at ih ⊢
    exact t.restored_iff ih
  | fault before f ih => exact ih

theorem reconnection_keeps (s : Session) (topics : List String) (results : List (String × Bool))
    (now : Nat) :
    s.after (reconnection topics results now) =
      { s with lastChunkAt := (s.after (reconnection topics results now)).lastChunkAt } := by
  unfold reconnection
  split
  · exact s.reconnect_keeps now
  · rfl

theorem tellings_reconnection (s : Session) (topics : List String)
    (results : List (String × Bool)) (now : Nat) :
    s.tellings (reconnection topics results now) =
      if results = allMade topics ∧ s.status = .downloading then [.resumed s.progress] else [] := by
  unfold reconnection
  by_cases made : results = allMade topics
  · have told : Update.notices (s.take (.call (.reconnect now))).effects = _ :=
      s.notices_reconnect now
    simp only [made, if_true, true_and, Session.tellings_singleton, told]
  · simp [made, Session.tellings, Session.record]

/-- What a tick does about the channel after a run, with what the update gets later in the tick. -/
structure Resubscription (topics : Wire.Topics) (log : List (List Exchange)) (t : c.Course)
    (later : List Session.Input) : Prop where
  tried : readsConnected t.exchanges = true → ¬ Restored topics.subscriptions log →
    ∃ made, TriesInOrder [topics.updateStart, topics.updateChunk, topics.diagnosticsRequest]
      (subscriptions t.exchanges) made
  untried : readsConnected t.exchanges = false ∨ Restored topics.subscriptions log →
    subscriptions t.exchanges = []
  early : subscriptions t.tracking = subscriptions t.exchanges
  tracked : t.tracked.session =
    c.session.after (reconnection topics.subscriptions (subscriptions t.exchanges) t.now)
  kept : t.tracked.session = { c.session with lastChunkAt := t.tracked.session.lastChunkAt }
  told : statusPayloads topics t.tracking =
    if subscriptions t.exchanges = allMade topics.subscriptions ∧ c.session.status = .downloading
    then [(Notice.resumed c.session.progress).document] else []
  worked : t.worked.session = t.tracked.session.after later
  unreconnected : ∀ i ∈ later, i.isReconnect = false
  toldLater : statusPayloads topics t.exchanges =
    statusPayloads topics t.tracking ++ (t.tracked.session.tellings later).map (·.document)
  unresumed : ∀ n ∈ t.tracked.session.tellings later, n.isResumed = false

theorem Course.resubscription (t : c.Course) (settled : c.session.Settled)
    (apart : [c.topics.telemetry, c.topics.diagnosticsResponse, c.topics.updateStatus].Nodup)
    (restored : c.channelUp = true ↔ Restored c.topics.subscriptions log) :
    ∃ later, Resubscription c.topics log t later := by
  obtain ⟨told, follows, payloads⟩ := t.follows
  obtain ⟨topics, up, same⟩ := t.started_eq
  obtain ⟨later, others, hworked, hpayloads⟩ := t.later apart
  obtain ⟨tried, untried⟩ := follows.tried
  obtain ⟨htracked, rfl⟩ := follows.resumes
  rw [topics, up, ← Bool.not_eq_true, restored] at tried
  rw [up, ← Bool.not_eq_true, restored] at untried
  rw [topics, same] at htracked payloads
  refine ⟨later, fun seen due => tried ⟨seen, due⟩, fun h => untried ?_, t.subscriptions_eq.symm,
    htracked, ?_, ?_, hworked, others, hpayloads, ?_⟩
  · rintro ⟨seen, due⟩
    rcases h with unseen | done
    · simp [unseen] at seen
    · exact due done
  · rw [htracked]
    exact reconnection_keeps _ _ _ _
  · rw [payloads, tellings_reconnection]
    split <;> rfl
  · rw [htracked]
    exact Session.unresumed_tellings (Session.settled_after settled _) others

/-- Whatever the replies are, a tick subscribes only if it sees the channel up and not all topics
were subscribed in one tick since it was last seen down. Then it tries the three topics in their
order, up to the first failure. If it makes all of them, the update is told of the reconnect, once
and before any frame is taken, and otherwise not at all. A running download then tells that it is
resumed, and nothing else in a tick does; it keeps all but the time of its last chunk. -/
theorem resubscribes_once_per_connection {config : Config} {store : Store}
    (unheld : store.live = 0) {id : String} (short : id.utf8ByteSize ≤ Identity.capacity)
    {boot : BootCheck} {start : Nat}
    (before : Ticks (initial config store id boot start) log c) (run : Runs c.tick exchanges c') :
    ∃ t : c.Course, t.exchanges = exchanges ∧ t.worked = c' ∧
      ∃ later, Resubscription (Wire.Topics.ofId id) log t later := by
  have named : c.topics = Wire.Topics.ofId id := before.topics_eq
  have apart := Wire.Topics.publications_nodup short
  have restored := before.restored_iff rfl
  have settled : c.session.Settled := before.settled (.ofStore unheld _)
  obtain ⟨t, rfl, rfl⟩ := (runs_tick_iff _ _ _).1 run
  rw [← named] at apart ⊢
  rw [← before.topics_eq] at restored
  exact ⟨t, rfl, rfl, t.resubscription settled apart restored⟩

theorem bench_resumes_after_failed_subscription :
    let c := initial {} { capacity := 8 } "a" (.read false) 0
    let b : Bench := { channel :=
      { mailbox := .fixed true false [oneOctetAnnounced], failSubscribe := some "request" } }
    let first := c.tick.exchanges Bench.respond b
    let c' := (c.tick.run Bench.respond b).1
    let exchanges := c'.tick.exchanges Bench.respond {}
    subscriptions first = [("analyzer/a/ota/start", true), ("analyzer/a/ota/chunk", true),
        ("analyzer/a/diagnostics/request", false)] ∧
      subscriptions exchanges = allMade (Wire.Topics.ofId "a").subscriptions ∧
      ∃ t : c'.Course, t.exchanges = exchanges ∧
        statusPayloads (Wire.Topics.ofId "a") t.tracking = [(Notice.resumed 0).document] := by
  intro c b first c' exchanges
  have before : Ticks c [first] c' := .tick .none (Dialogue.runs_run Bench.respond c.tick b)
  have run := Dialogue.runs_run Bench.respond c'.tick {}
  have made : subscriptions exchanges = allMade (Wire.Topics.ofId "a").subscriptions := by
    decide +kernel
  have running : c'.session.status = .downloading ∧ c'.session.progress = 0 := by decide +kernel
  obtain ⟨t, ht, -, later, resubscription⟩ :=
    resubscribes_once_per_connection rfl (by decide) before run
  refine ⟨by decide +kernel, made, t, ht, ?_⟩
  rw [resubscription.told, ht, if_pos ⟨made, running.1⟩, running.2]

end Controller

end DoughAnalyzer
