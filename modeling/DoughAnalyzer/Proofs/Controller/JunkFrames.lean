import DoughAnalyzer.Proofs.Controller.Sifting
import DoughAnalyzer.Proofs.Controller.SlotOpening
import DoughAnalyzer.Proofs.Wire.TopicNames

/-!
Which frames of the queue matter. Two controllers abreast get queues that bring the update the same
messages; they stay equal but for the count of messages, whatever else the queues hold.
-/

set_option autoImplicit false

namespace DoughAnalyzer

namespace Controller

open Dialogue (Runs)
open Update (Session)

variable {c c' d d' : Controller} {now n : Nat} {exchanges x y : List Exchange}
  {queue queue' : List Wire.Frame} {count : UInt32} {topics : Wire.Topics}

/-- The topics that a device publishes on do not collide. -/
structure Apart (topics : Wire.Topics) : Prop where
  status : topics.diagnosticsResponse ≠ topics.updateStatus
  telemetry : topics.telemetry ≠ topics.diagnosticsResponse

theorem apart_ofId {id : String} (h : id.utf8ByteSize ≤ Identity.capacity) :
    Apart (Wire.Topics.ofId id) := by
  have distinct := Wire.Topics.publications_nodup h
  simp only [List.nodup_cons, List.mem_cons, not_or] at distinct
  exact ⟨distinct.2.1.1, distinct.1.1⟩

theorem Course.taken_from_draining (t : c.Course) (taken : TakenFrom queue t.exchanges) :
    TakenFrom queue t.draining := by
  have handled {x : List Exchange} (h : x ⊆ t.opening ++ (t.tracking ++ t.polling)) :
      ∀ e ∈ x, e.request ≠ .nextFrame := fun e he hq => by
    simpa [hq, Request.isHandling] using t.handles e (h he)
  have opening := handled (x := t.opening) (by simp)
  have tracking := handled (x := t.tracking) (by simp)
  rw [exchanges, preparing, List.cons_append, takenFrom_cons (by simp)] at taken
  simp only [List.append_assoc] at taken
  rw [takenFrom_append opening, takenFrom_append tracking] at taken
  exact taken.left

theorem Branch.unaside {p : Phase} {done : List Exchange} {between : Controller}
    {move : Option (Phase × Nat)} (apart : Apart c.topics) (b : c.Branch now p done between move) :
    ∀ e ∈ done, e.request.isAside c.topics = false := by
  cases b <;> simp [Request.isAside, apart.telemetry]

theorem Course.unaside (t : c.Course) (apart : Apart c.topics) :
    heard c.topics t.working = muted t.working := by
  obtain ⟨between, move, b, -⟩ := ends_of_runs t.done
  have same : t.polled.topics = c.topics := t.prepares.2.topics
  refine heard_eq_muted fun e he => ?_
  by_cases log : e.request.isLog = true
  · rcases e with ⟨q, r⟩
    cases q <;> first | rfl | cases log
  · have kept : e ∈ asked t.working := List.mem_filter.2 ⟨he, by simp [log]⟩
    exact same ▸ b.unaside (same.symm ▸ apart) e kept

theorem Course.heard_exchanges (t : c.Course) (apart : Apart c.topics)
    (sifted : heard c.topics t.draining = muted x) :
    heard c.topics t.exchanges = muted (⟨.clock, t.now⟩ :: (t.opening ++ (t.tracking ++ (x ++
      (t.polling ++ (⟨.pollNetwork t.now, ()⟩ :: (t.working ++ t.closing))))))) := by
  have opening : heard c.topics t.opening = muted t.opening :=
    heard_eq_muted fun e he => isAside_of_asks apart.status (by decide) (t.opening_asks e he)
  have tracking : heard c.topics t.tracking = muted t.tracking :=
    heard_eq_muted fun e he => isAside_of_asks apart.status (by decide) (t.tracking_asks e he)
  have polling : heard c.topics t.polling = muted t.polling :=
    heard_eq_muted fun e he => isAside_of_asks apart.status (by decide) (t.polling_asks e he)
  have closing : heard c.topics t.closing = muted t.closing := by
    refine heard_eq_muted fun e he => ?_
    obtain ⟨event, hevent, -⟩ := t.closing_emits e he
    rw [hevent]
    rfl
  have clock : heard c.topics [⟨.clock, t.now⟩] = muted [⟨.clock, t.now⟩] := rfl
  have keeping : heard c.topics [⟨.pollNetwork t.now, ()⟩] = muted [⟨.pollNetwork t.now, ()⟩] := rfl
  have working := t.unaside apart
  rw [exchanges, preparing, ← List.singleton_append, muted_cons, muted_append, muted_append,
    muted_append, muted_append, muted_cons ⟨.pollNetwork t.now, ()⟩, muted_append]
  simp only [heard_append, clock, opening, tracking, sifted, polling, keeping, working, closing,
    List.append_assoc]

theorem runs_tick_sifted (apart : Apart c.topics) (taken : TakenFrom queue exchanges)
    (run : Runs c.tick exchanges c') :
    ∃ said a count,
      Runs (c.tickOn (updateMessages c.topics (queue.take maxMessagesPerTick))) said a ∧
      c' = a.recount count ∧ heard c.topics exchanges = muted said := by
  obtain ⟨t, rfl, rfl⟩ := (runs_tick_iff _ _ _).1 run
  have tracked := t.tracked_topics
  obtain ⟨sifted, a, count, attended, hdrained, hsifted⟩ :=
    runs_drain_sifted (tracked.symm ▸ apart.status) (t.taken_from_draining taken) t.taken
  have polled := t.timed
  rw [hdrained, pollUpdate_recount, Dialogue.runs_map] at polled
  obtain ⟨b, polled, hpolled⟩ := polled
  have worked := t.done
  rw [hpolled, workPhase_recount, Dialogue.runs_map] at worked
  obtain ⟨d, worked, hworked⟩ := worked
  have told : Runs (announceChanges t.started d) t.closing () := by
    have same := t.told
    rwa [hworked] at same
  have asked := (Dialogue.runs_request .clock _ t.now).2 rfl
  have kept := (Dialogue.runs_request (.pollNetwork t.now) _ ()).2 rfl
  refine ⟨⟨.clock, t.now⟩ :: (t.opening ++ (t.tracking ++ (sifted ++ (t.polling ++
    (⟨.pollNetwork t.now, ()⟩ :: (t.working ++ t.closing)))))), d, count, ?_, hworked, ?_⟩
  · simp only [tickOn, Dialogue.runs_bind, Dialogue.runs_pure]
    refine ⟨_, t.now, _, rfl, asked, _, _, _, rfl, t.opened, _, _, _, rfl, t.followed,
      _, _, _, rfl, tracked ▸ attended, _, _, _, rfl, polled, _, _, _, rfl, kept, _, _, _, rfl,
      worked, _, _, _, (List.append_nil _).symm, told, rfl, rfl⟩
  · exact t.heard_exchanges apart (tracked ▸ hsifted)

theorem runs_tick_abreast (ports : Surroundings) {past : List Exchange} (named : c.topics = topics)
    (apart : Apart topics) (taken : TakenFrom queue x) (taken' : TakenFrom queue' y)
    (same : updateMessages topics (queue.take maxMessagesPerTick) =
      updateMessages topics (queue'.take maxMessagesPerTick))
    (run : Runs c.tick x d) (run' : Runs (c.recount count).tick y d')
    (answered : ports.Answers past (heard topics x))
    (answered' : ports.Answers past (heard topics y)) :
    d' = d.recount d'.router.count ∧ heard topics x = heard topics y := by
  subst named
  obtain ⟨said, a, _, ticked, rfl, hx⟩ := runs_tick_sifted apart taken run
  obtain ⟨said', b, _, ticked', rfl, hy⟩ :=
    runs_tick_sifted (c := c.recount count) apart taken' run'
  rw [tickOn_recount, Dialogue.runs_map] at ticked'
  obtain ⟨b, ticked', rfl⟩ := ticked'
  change Runs (c.tickOn (updateMessages c.topics _)) said' b at ticked'
  change heard c.topics y = _ at hy
  rw [hx] at answered
  rw [hy] at answered'
  rw [← same] at ticked'
  obtain ⟨rfl, unchanged⟩ := (c.tickOn_alike _).unique ticked ticked' answered answered'
  exact ⟨rfl, by rw [hx, hy, unchanged]⟩

/-- Two runs of one controller, tick by tick, with the same faults switched in the store. The frames
that wait in a tick and in its twin are related. -/
inductive Abreast (R : List Wire.Frame → List Wire.Frame → Prop) (first : Controller) :
    List (List Exchange) → Controller → List (List Exchange) → Controller → Prop where
  | none : Abreast R first [] first [] first
  | tick {log log' : List (List Exchange)} {c c' d d' : Controller} {x y : List Exchange}
      {queue queue' : List Wire.Frame} (before : Abreast R first log c log' c')
      (run : Runs c.tick x d) (run' : Runs c'.tick y d') (taken : TakenFrom queue x)
      (taken' : TakenFrom queue' y) (related : R queue queue') :
      Abreast R first (log ++ [x]) d (log' ++ [y]) d'
  | fault {log log' : List (List Exchange)} {c c' : Controller}
      (before : Abreast R first log c log' c') (f : Store.Setting) :
      Abreast R first log { c with session := (c.session.take (.fault f)).session }
        log' { c' with session := (c'.session.take (.fault f)).session }

variable {R : List Wire.Frame → List Wire.Frame → Prop} {first : Controller}
  {log log' : List (List Exchange)}

theorem Abreast.ticks (abreast : Abreast R first log c log' c') : Ticks first log c := by
  induction abreast with
  | none => exact .none
  | tick _ run _ _ _ _ ih => exact ih.tick run
  | fault _ f ih => exact ih.fault f

/-- Queues that bring the update the same keep two controllers equal but for the count. -/
theorem Abreast.sifted (ports : Surroundings) (named : first.topics = topics) (apart : Apart topics)
    (same : ∀ queue queue', R queue queue' →
      updateMessages topics (queue.take maxMessagesPerTick) =
        updateMessages topics (queue'.take maxMessagesPerTick))
    (abreast : Abreast R first log c log' c')
    (answered : ports.Answers [] (log.flatMap (heard topics)))
    (answered' : ports.Answers [] (log'.flatMap (heard topics))) :
    c' = c.recount c'.router.count ∧ log.map (heard topics) = log'.map (heard topics) := by
  induction abreast with
  | none => exact ⟨rfl, rfl⟩
  | @tick log log' c c' d d' x y queue queue' before run run' taken taken' related ih =>
    rw [List.flatMap_append, Surroundings.answers_append, List.flatMap_singleton]
      at answered answered'
    obtain ⟨hc, hlog⟩ := ih answered.1 answered'.1
    have past : log.flatMap (heard topics) = log'.flatMap (heard topics) := by
      rw [List.flatMap_def, hlog, List.flatMap_def]
    rw [← past] at answered'
    rw [hc] at run'
    obtain ⟨hd, last⟩ := runs_tick_abreast ports (before.ticks.topics_eq.trans named) apart taken
      taken' (same _ _ related) run run' answered.2 answered'.2
    exact ⟨hd, by simp only [List.map_append, List.map_singleton, hlog, last]⟩
  | fault before f ih =>
    obtain ⟨hc, hlog⟩ := ih answered answered'
    refine ⟨?_, hlog⟩
    rw [hc]
    rfl

theorem messages_bring {frames : List Wire.Frame} {brought : List (List Session.Input)}
    (h : List.Forall₂ (Wire.Frame.Brings topics now) frames brought) :
    ∃ inputs, List.Forall₂ (Wire.Message.Brings now) (updateMessages topics frames) inputs ∧
      inputs.flatten = brought.flatten := by
  induction h with
  | nil => exact ⟨[], .nil, rfl⟩
  | @cons frame first frames rest brings _ ih =>
    obtain ⟨inputs, hinputs, same⟩ := ih
    rw [updateMessages_cons, List.flatten_cons, ← same]
    cases brings with
    | refused refused =>
      rw [Wire.Frame.updateMessage?_of_error topics refused]
      exact ⟨inputs, hinputs, rfl⟩
    | @read message _ read brings =>
      rw [Wire.Frame.updateMessage?_of_ok topics read]
      cases brings with
      | announcement a safe => exact ⟨_ :: inputs, .cons (.announcement a safe) hinputs, rfl⟩
      | chunk piece => exact ⟨_ :: inputs, .cons (.chunk piece) hinputs, rfl⟩
      | diagnosticsRequest => exact ⟨inputs, hinputs, rfl⟩
      | other => exact ⟨inputs, hinputs, rfl⟩

theorem Course.sifted (t : c.Course) (named : c.topics = topics) (apart : Apart topics)
    (taken : TakenFrom queue t.exchanges) :
    framesTaken t.exchanges = queue.take maxMessagesPerTick ∧
      ∃ inputs, List.Forall₂ (Wire.Message.Brings t.now)
          (updateMessages topics (queue.take maxMessagesPerTick)) inputs ∧
        t.drained.session = t.tracked.session.after inputs.flatten ∧
        powerAnswers t.draining = t.tracked.session.powerAnswers inputs.flatten ∧
        statusPayloads topics t.draining =
          (t.tracked.session.tellings inputs.flatten).map (·.document) := by
  subst named
  have tracked := t.tracked_topics
  have drainingTaken := framesTaken_of_taken (t.taken_from_draining taken) t.taken
  obtain ⟨brought, drains⟩ := runs_drain t.taken
  have brings := drains.brings
  rw [drainingTaken, tracked] at brings
  obtain ⟨inputs, hinputs, same⟩ := messages_bring brings
  refine ⟨?_, inputs, hinputs, ?_⟩
  · rw [← framesTaken_inboxWork, t.inboxWork_eq, framesTaken_inboxWork, drainingTaken]
  · rw [same, ← tracked]
    exact ⟨drains.fed.session, drains.power, drains.told (tracked.symm ▸ apart.status)⟩

/-- Frames out of some class may stand anywhere in the second queue; the others are the same, in the
same order. -/
inductive Padded (P : Wire.Frame → Prop) : List Wire.Frame → List Wire.Frame → Prop where
  | nil : Padded P [] []
  | keep (frame : Wire.Frame) {queue queue' : List Wire.Frame} (rest : Padded P queue queue') :
      Padded P (frame :: queue) (frame :: queue')
  | insert {frame : Wire.Frame} (h : P frame) {queue queue' : List Wire.Frame}
      (rest : Padded P queue queue') : Padded P queue (frame :: queue')

section

variable {P : Wire.Frame → Prop}

theorem Padded.length_le (padded : Padded P queue queue') : queue.length ≤ queue'.length := by
  induction padded with
  | nil => exact Nat.le_refl _
  | keep frame _ ih => exact Nat.succ_le_succ ih
  | insert h _ ih => exact Nat.le_succ_of_le ih

theorem Padded.updateMessages_eq (idle : ∀ frame, P frame → frame.updateMessage? topics = none)
    (padded : Padded P queue queue') :
    updateMessages topics queue = updateMessages topics queue' := by
  induction padded with
  | nil => rfl
  | keep frame _ ih => rw [updateMessages_cons, updateMessages_cons, ih]
  | insert h _ ih =>
    rw [updateMessages_cons, idle _ h, ih]
    rfl

def PadsTick (P : Wire.Frame → Prop) (queue queue' : List Wire.Frame) : Prop :=
  Padded P queue queue' ∧ queue'.length ≤ maxMessagesPerTick

theorem PadsTick.updateMessages_eq (idle : ∀ frame, P frame → frame.updateMessage? topics = none)
    (pads : PadsTick P queue queue') :
    updateMessages topics (queue.take maxMessagesPerTick) =
      updateMessages topics (queue'.take maxMessagesPerTick) := by
  rw [List.take_of_length_le pads.2, List.take_of_length_le (Nat.le_trans pads.1.length_le pads.2)]
  exact pads.1.updateMessages_eq idle

end

/-- Two controllers of which one gets more frames, but none that bring the update anything. -/
theorem Abreast.traceless {P : Wire.Frame → Prop} (ports : Surroundings)
    (named : first.topics = topics) (apart : Apart topics)
    (idle : ∀ frame, P frame → frame.updateMessage? topics = .none)
    (abreast : Abreast (PadsTick P) first log c log' c')
    (answered : ports.Answers [] (log.flatMap (heard topics)))
    (answered' : ports.Answers [] (log'.flatMap (heard topics))) :
    c' = c.recount c'.router.count ∧
      log.map (statusPayloads topics) = log'.map (statusPayloads topics) := by
  obtain ⟨same, heardAlike⟩ := abreast.sifted ports named apart
    (fun _ _ pads => pads.updateMessages_eq idle) answered answered'
  have notices (log : List (List Exchange)) :
      log.map (statusPayloads topics) = (log.map (heard topics)).map (statusPayloads topics) := by
    rw [List.map_map]
    exact List.map_congr_left fun x _ => (statusPayloads_heard apart.status x).symm
  refine ⟨same, ?_⟩
  rw [notices log, heardAlike, ← notices log']

/-- Frames that cannot be read, frames on topics that are not subscribed, and requests for
diagnostics. -/
inductive Junk (topics : Wire.Topics) (frame : Wire.Frame) : Prop where
  | undecodable {e : DecodeError}
      (h : Wire.Router.classify topics frame.topic frame.payload = .error e)
  | foreign (h : frame.topic ∉ topics.subscriptions)
  | request (h : Wire.Router.classify topics frame.topic frame.payload = .ok .diagnosticsRequest)

theorem classify_foreign {topic : String} (h : topic ∉ topics.subscriptions) (payload : Octets) :
    Wire.Router.classify topics topic payload = .ok .other := by
  simp only [Wire.Topics.subscriptions, List.mem_cons, List.not_mem_nil, or_false, not_or] at h
  obtain ⟨start, chunk, request⟩ := h
  rw [Wire.Router.classify, if_neg chunk, if_neg start, if_neg request]

theorem Junk.updateMessage?_eq {frame : Wire.Frame} (junk : Junk topics frame) :
    frame.updateMessage? topics = none := by
  cases junk with
  | undecodable h => exact Wire.Frame.updateMessage?_of_error topics h
  | foreign h => exact Wire.Frame.updateMessage?_of_ok topics (classify_foreign h frame.payload)
  | request h => exact Wire.Frame.updateMessage?_of_ok topics h

/-- A tick takes the first frames of its queue, up to sixteen, in their order, and the update then
is where the messages for it among them have brought it, at the time that the tick began with; its
notices are those of these messages. So junk among the frames that a tick takes leaves the phase,
the session with its store, and the notices of each tick as they were. -/
theorem junk_leaves_no_trace (id : String) (fits : id.utf8ByteSize ≤ Identity.capacity) :
    (∀ (c : Controller) (t : c.Course) (queue : List Wire.Frame),
      c.topics = Wire.Topics.ofId id → TakenFrom queue t.exchanges →
      framesTaken t.exchanges = queue.take maxMessagesPerTick ∧
      ∃ inputs, List.Forall₂ (Wire.Message.Brings t.now)
          (updateMessages (Wire.Topics.ofId id) (queue.take maxMessagesPerTick)) inputs ∧
        t.drained.session = t.tracked.session.after inputs.flatten ∧
        powerAnswers t.draining = t.tracked.session.powerAnswers inputs.flatten ∧
        statusPayloads (Wire.Topics.ofId id) t.draining =
          (t.tracked.session.tellings inputs.flatten).map (·.document)) ∧
    ∀ (first c c' : Controller) (log log' : List (List Exchange)) (ports : Surroundings),
      first.topics = Wire.Topics.ofId id →
      Abreast (PadsTick (Junk (Wire.Topics.ofId id))) first log c log' c' →
      ports.Answers [] (log.flatMap (heard (Wire.Topics.ofId id))) →
      ports.Answers [] (log'.flatMap (heard (Wire.Topics.ofId id))) →
      c' = c.recount c'.router.count ∧
        log.map (statusPayloads (Wire.Topics.ofId id)) =
          log'.map (statusPayloads (Wire.Topics.ofId id)) := by
  have apart := apart_ofId fits
  refine ⟨fun c t queue named taken => t.sifted named apart taken, ?_⟩
  intro first c c' log log' ports named abreast answered answered'
  exact abreast.traceless ports named apart (fun _ junk => junk.updateMessage?_eq) answered
    answered'

def queued (ports : (q : Request) → q.Reply) :
    (q : Request) → List Wire.Frame → q.Reply × List Wire.Frame
  | .nextFrame, queue => (queue.head?, queue.tail)
  | q, queue => (ports q, queue)

theorem queued_other (ports : (q : Request) → q.Reply) (queue : List Wire.Frame) {q : Request}
    (other : q ≠ .nextFrame) : queued ports q queue = (ports q, queue) := by
  cases q <;> first | rfl | exact absurd rfl other

theorem takenFrom_queued {α : Type} (ports : (q : Request) → q.Reply) (d : Dialogue α)
    (queue : List Wire.Frame) : TakenFrom queue (d.exchanges (queued ports) queue) := by
  induction d generalizing queue with
  | done a => trivial
  | ask q next ih =>
    by_cases taking : q = .nextFrame
    · subst taking
      exact ⟨rfl, ih _ _⟩
    · rw [Dialogue.exchanges, queued_other ports queue taking]
      exact (takenFrom_cons taking).2 (ih _ _)

theorem answers_heard_queued {α : Type} (ports : (q : Request) → q.Reply) (d : Dialogue α)
    (queue : List Wire.Frame) (topics : Wire.Topics) (past : List Exchange) :
    Surroundings.Answers (fun _ => ports) past
      (heard topics (d.exchanges (queued ports) queue)) := by
  refine Surroundings.answers_muted.2 ?_
  induction d generalizing queue past with
  | done a => trivial
  | ask q next ih =>
    rw [Dialogue.exchanges, List.filter_cons]
    split
    case isTrue beside =>
      have other : q ≠ .nextFrame := fun taking => by simp [taking, Request.isAside] at beside
      exact ⟨fun _ => congrArg Prod.fst (queued_other ports queue other), ih _ _ _⟩
    case isFalse => exact ih _ _ _

theorem answers_tick_queued (ports : (q : Request) → q.Reply) (c : Controller)
    (queue : List Wire.Frame) (topics : Wire.Topics) :
    Surroundings.Answers (fun _ => ports) []
      (List.flatMap (heard topics) [c.tick.exchanges (queued ports) queue]) := by
  rw [List.flatMap_singleton]
  exact answers_heard_queued ports c.tick queue topics []

theorem abreast_queued (ports : (q : Request) → q.Reply) (c : Controller)
    (related : R queue queue') :
    Abreast R c [c.tick.exchanges (queued ports) queue] (c.tick.run (queued ports) queue).1
      [c.tick.exchanges (queued ports) queue'] (c.tick.run (queued ports) queue').1 :=
  .tick .none (Dialogue.runs_run _ _ _) (Dialogue.runs_run _ _ _) (takenFrom_queued ports _ _)
    (takenFrom_queued ports _ _) related

theorem announcement_amid_junk :
    let c := initial {} { capacity := 8 } "a" (.read false) 0
    let ports (q : Request) := (Bench.respond q {}).1
    let queue : List Wire.Frame := [⟨"analyzer/a/ota/start", [0x7b]⟩, ⟨"analyzer/b/ota/chunk", []⟩,
      oneOctetAnnounced, ⟨"analyzer/a/diagnostics/request", []⟩]
    let clean := (c.tick.run (queued ports) [oneOctetAnnounced]).1
    let padded := (c.tick.run (queued ports) queue).1
    framesTaken (c.tick.exchanges (queued ports) queue) = queue ∧
      clean.session.status = .downloading ∧ padded = clean.recount 4 := by
  intro c ports queue clean padded
  obtain ⟨inOrder, traceless⟩ := junk_leaves_no_trace "a" (by decide)
  obtain ⟨t, ht, -⟩ := (runs_tick_iff _ _ _).1 (Dialogue.runs_run (queued ports) c.tick queue)
  have hqueue := (inOrder c t queue rfl (ht ▸ takenFrom_queued ports c.tick queue)).1
  rw [ht] at hqueue
  have truncated : Wire.Router.classify (Wire.Topics.ofId "a") "analyzer/a/ota/start" [0x7b] =
      .error .invalidDocument := by decide +kernel
  have request : Wire.Router.classify (Wire.Topics.ofId "a") "analyzer/a/diagnostics/request" [] =
      .ok .diagnosticsRequest := by decide +kernel
  have pads : PadsTick (Junk (Wire.Topics.ofId "a")) [oneOctetAnnounced] queue :=
    ⟨.insert (.undecodable truncated) (.insert (.foreign (by decide +kernel))
      (.keep _ (.insert (.request request) .nil))), by decide⟩
  have same := (traceless c clean padded _ _ _ rfl (abreast_queued ports c pads)
    (answers_tick_queued ports c _ _) (answers_tick_queued ports c _ _)).1
  refine ⟨hqueue, by decide +kernel, same.trans ?_⟩
  rw [show padded.router.count = 4 by decide +kernel]

end Controller

end DoughAnalyzer
