import DoughAnalyzer.Proofs.Controller.Preparation
import DoughAnalyzer.Proofs.Controller.PublishResults
import DoughAnalyzer.Proofs.Controller.Recount

/-!
Frames that bring the update nothing leave no trace but in the log, in the count of messages and in
the replies to diagnostics requests. `tickOn` is a tick to which messages come as such; what a tick
does with the frames of its queue is, but for that, what `tickOn` does with their messages.
-/

set_option autoImplicit false

namespace DoughAnalyzer

def Wire.Message.isUpdate : Wire.Message → Bool
  | announcement _ | chunk _ => true
  | diagnosticsRequest | other => false

def Wire.Frame.updateMessage? (topics : Wire.Topics) (frame : Wire.Frame) : Option Wire.Message :=
  match Wire.Router.classify topics frame.topic frame.payload with
  | .ok message => if message.isUpdate then some message else none
  | .error _ => none

section

variable (topics : Wire.Topics) {frame : Wire.Frame}

theorem Wire.Frame.updateMessage?_of_ok {message : Wire.Message}
    (read : Wire.Router.classify topics frame.topic frame.payload = .ok message) :
    frame.updateMessage? topics = if message.isUpdate then some message else none := by
  rw [updateMessage?, read]

theorem Wire.Frame.updateMessage?_of_error {e : DecodeError}
    (refused : Wire.Router.classify topics frame.topic frame.payload = .error e) :
    frame.updateMessage? topics = none := by
  rw [updateMessage?, refused]

end

def updateMessages (topics : Wire.Topics) (frames : List Wire.Frame) : List Wire.Message :=
  frames.filterMap (·.updateMessage? topics)

theorem updateMessages_cons (topics : Wire.Topics) (frame : Wire.Frame)
    (frames : List Wire.Frame) :
    updateMessages topics (frame :: frames) =
      (frame.updateMessage? topics).toList ++ updateMessages topics frames := by
  rw [updateMessages, List.filterMap_cons]
  cases frame.updateMessage? topics <;> rfl

/-- The frames that are taken come off a queue, to which nothing is added meanwhile. -/
def TakenFrom : List Wire.Frame → List Exchange → Prop
  | _, [] => True
  | queue, ⟨.nextFrame, frame⟩ :: rest => frame = queue.head? ∧ TakenFrom queue.tail rest
  | queue, _ :: rest => TakenFrom queue rest

theorem takenFrom_cons {queue : List Wire.Frame} {e : Exchange} {rest : List Exchange}
    (other : e.request ≠ .nextFrame) : TakenFrom queue (e :: rest) ↔ TakenFrom queue rest := by
  rcases e with ⟨q, r⟩
  cases q <;> first | rfl | exact absurd rfl other

theorem takenFrom_append {queue : List Wire.Frame} {x y : List Exchange}
    (others : ∀ e ∈ x, e.request ≠ .nextFrame) :
    TakenFrom queue (x ++ y) ↔ TakenFrom queue y := by
  induction x with
  | nil => rfl
  | cons e x ih =>
    obtain ⟨other, later⟩ := List.forall_mem_cons.1 others
    exact (takenFrom_cons other).trans (ih later)

theorem TakenFrom.left {queue : List Wire.Frame} {x y : List Exchange}
    (h : TakenFrom queue (x ++ y)) : TakenFrom queue x := by
  induction x generalizing queue with
  | nil => trivial
  | cons e x ih =>
    rcases e with ⟨q, r⟩
    cases q with
    | nextFrame => exact ⟨h.1, ih h.2⟩
    | _ => exact @ih queue h

def Request.isAside (topics : Wire.Topics) : Request → Bool
  | nextFrame | freeHeap | signal => true
  | publish topic _ => topic = topics.diagnosticsResponse
  | _ => false

/-- What else is said in a tick, without the log and without what publishing came to. -/
def heard (topics : Wire.Topics) (exchanges : List Exchange) : List Exchange :=
  muted (exchanges.filter fun e => !e.request.isAside topics)

theorem heard_append (topics : Wire.Topics) (x y : List Exchange) :
    heard topics (x ++ y) = heard topics x ++ heard topics y := by
  rw [heard, List.filter_append, muted_append]
  rfl

theorem heard_eq_muted {topics : Wire.Topics} {exchanges : List Exchange}
    (none : ∀ e ∈ exchanges, e.request.isAside topics = false) :
    heard topics exchanges = muted exchanges := by
  rw [heard, List.filter_eq_self.2 fun e he => by simp [none e he]]

theorem heard_eq_nil {topics : Wire.Topics} {exchanges : List Exchange}
    (h : ∀ e ∈ exchanges, e.request.isAside topics = true ∨ e.request.isLog = true) :
    heard topics exchanges = [] := by
  refine List.filterMap_eq_nil_iff.2 fun e he => ?_
  obtain ⟨hmem, hbeside⟩ := List.mem_filter.1 he
  rcases h e hmem with aside | log
  · simp [aside] at hbeside
  · rcases e with ⟨q, r⟩
    cases q <;> first | rfl | cases log

theorem heard_eq_nil_of_asked (topics : Wire.Topics) {exchanges : List Exchange}
    (none : asked exchanges = []) : heard topics exchanges = [] :=
  heard_eq_nil fun e he => .inr (by simpa using List.filter_eq_nil_iff.1 none e he)

theorem statusPayloads_heard {topics : Wire.Topics}
    (apart : topics.diagnosticsResponse ≠ topics.updateStatus) (exchanges : List Exchange) :
    statusPayloads topics (heard topics exchanges) = statusPayloads topics exchanges := by
  rw [statusPayloads, heard, muted, List.filterMap_filterMap, List.filterMap_filter]
  refine List.filterMap_congr fun e _ => ?_
  rcases e with ⟨q, r⟩
  cases q with
  | publish topic payload =>
    by_cases aside : topic = topics.diagnosticsResponse
    · simp [Request.isAside, Request.statusPayload?, aside, apart]
    · simp [Request.isAside, Request.statusPayload?, Exchange.muted, aside]
  | emit event => cases event <;> rfl
  | _ => rfl

theorem muted_muted (x : List Exchange) : muted (muted x) = muted x := by
  rw [muted, muted, List.filterMap_filterMap]
  refine List.filterMap_congr fun e _ => ?_
  rcases e with ⟨q, r⟩
  cases q with
  | emit event => cases event <;> rfl
  | _ => rfl

theorem Surroundings.answers_muted_singleton {ports : Surroundings} {past : List Exchange}
    {e : Exchange} : ports.Answers past (muted [e]) ↔ ports.Answers past [e] := by
  rcases e with ⟨q, r⟩
  cases q with
  | log record => exact answers_log.symm
  | emit event => cases event <;> simp [muted, Exchange.muted, Answers]
  | _ => simp [muted, Exchange.muted, Answers, Request.isPublish]

theorem Surroundings.answers_muted {ports : Surroundings} {past x : List Exchange} :
    ports.Answers past (muted x) ↔ ports.Answers past x := by
  induction x generalizing past with
  | nil => rfl
  | cons e x ih =>
    rw [muted_cons, answers_append, answers_muted_singleton, muted_muted, ih, ← answers_append]
    rfl

/-- A dialogue that is alike itself has but one course in given surroundings. -/
theorem Dialogue.Alike.unique {α : Type} {d : Dialogue α} (alike : Alike Eq d d)
    {ports : Surroundings} {past x y : List Exchange} {a b : α} (hx : Runs d x a)
    (hy : Runs d y b) (gx : ports.Answers past (muted x)) (gy : ports.Answers past (muted y)) :
    a = b ∧ muted x = muted y :=
  alike.of_runs hx hy (Surroundings.answers_muted.1 gx) (Surroundings.answers_muted.1 gy)

namespace Controller

open Dialogue (Alike Ensures Runs request)

def attend (c : Controller) (now : Nat) : List Wire.Message → Dialogue Controller
  | [] => pure c
  | message :: rest => do (← c.handle now message).1.attend now rest

/-- A tick to which messages come as such and not in frames. -/
def tickOn (c : Controller) (messages : List Wire.Message) : Dialogue Controller := do
  let now ← request .clock
  let before ← c.announceStart
  let c ← before.trackChannel now
  let c ← c.attend now messages
  let c ← c.pollUpdate now
  request (.pollNetwork now)
  let c ← c.workPhase now
  announceChanges before c
  return c

theorem attend_append (c : Controller) (now : Nat) (x y : List Wire.Message) :
    c.attend now (x ++ y) = c.attend now x >>= fun c => c.attend now y := by
  induction x generalizing c with
  | nil => rfl
  | cons message x ih => simp only [List.cons_append, attend, ih, bind_assoc]

theorem attend_recount (c : Controller) (count : UInt32) (now : Nat)
    (messages : List Wire.Message) :
    (c.recount count).attend now messages = (·.recount count) <$> c.attend now messages := by
  induction messages generalizing c with
  | nil => rfl
  | cons message rest ih => simp only [attend, handle_recount, bind_map_left, ih, map_bind]

theorem attend_alike (c : Controller) (now : Nat) (messages : List Wire.Message) :
    Alike Eq (c.attend now messages) (c.attend now messages) := by
  induction messages generalizing c with
  | nil => exact .done rfl
  | cons message rest ih =>
    refine (c.handle_alike now message).bind fun x y same => ?_
    rw [same]
    exact ih y.1

theorem tickOn_recount (c : Controller) (count : UInt32) (messages : List Wire.Message) :
    (c.recount count).tickOn messages = (·.recount count) <$> c.tickOn messages := by
  simp only [tickOn, map_bind, map_pure, announceStart_recount, trackChannel_recount,
    attend_recount, pollUpdate_recount, workPhase_recount, bind_map_left]
  rfl

theorem tickOn_alike (c : Controller) (messages : List Wire.Message) :
    Alike Eq (c.tickOn messages) (c.tickOn messages) := by
  refine .request rfl fun now => c.announceStart_alike.bind_eq fun before => ?_
  refine (before.trackChannel_alike now).bind_eq fun c => ?_
  refine (c.attend_alike now _).bind_eq fun c => (c.pollUpdate_alike now).bind_eq fun c => ?_
  refine .request rfl fun _ => (c.workPhase_alike now).bind_eq fun c => ?_
  exact (announceChanges_alike before c).bind_eq fun _ => .done rfl

variable {c c' : Controller} {now n : Nat} {exchanges : List Exchange} {queue : List Wire.Frame}

theorem Serves.leaves_inbox {inputs : List Update.Session.Input}
    (served : c.Serves inputs exchanges c') : ∀ e ∈ exchanges, e.request ≠ .nextFrame :=
  fun e he h => by simpa [h, Request.isServing, Request.isHandling] using served.asked e he

theorem framesTaken_of_taken (taken : TakenFrom queue exchanges)
    (run : Runs (c.drain now n) exchanges c') : framesTaken exchanges = queue.take n := by
  induction n generalizing c exchanges queue with
  | zero =>
    obtain ⟨rfl, rfl⟩ := (Dialogue.runs_pure _ _ _).1 run
    rfl
  | succ n ih =>
    obtain ⟨r, _, rfl, next⟩ := (Dialogue.runs_request_bind .nextFrame _ _ _).1 run
    obtain ⟨rfl, later⟩ := taken
    cases queue with
    | nil =>
      obtain ⟨rfl, rfl⟩ := (Dialogue.runs_pure _ _ _).1 next
      rfl
    | cons frame queue =>
      obtain ⟨handling, d, rest, rfl, dispatched, drained⟩ := (Dialogue.runs_bind _ _ _ _).1 next
      obtain ⟨_, -, served⟩ := runs_dispatch dispatched
      change frame :: framesTaken (handling ++ rest) = _
      rw [framesTaken_append, framesTaken_eq_nil served.asked,
        ih ((takenFrom_append served.leaves_inbox).1 later) drained]
      rfl

theorem isAside_of_asks {topics : Wire.Topics} {stage : Stage} {q : Request}
    (apart : topics.diagnosticsResponse ≠ topics.updateStatus) (other : stage ≠ .draining)
    (asks : stage.Asks topics q) : q.isAside topics = false := by
  cases q with
  | publish topic payload =>
    obtain rfl | owned := asks
    · simp [Request.isAside, apart.symm]
    · cases stage <;> first | exact absurd rfl other | cases owned
  | _ => cases stage <;> first | rfl | exact absurd rfl other | cases asks

theorem handle_unaside (c : Controller) (now : Nat) {message : Wire.Message}
    (apart : c.topics.diagnosticsResponse ≠ c.topics.updateStatus)
    (update : message.isUpdate = true) :
    (c.handle now message).Ensures (·.isAside c.topics = false) fun _ => True := by
  have commits {α : Type} (o : Update.Outcome α) :
      (c.commit o).Ensures (·.isAside c.topics = false) fun _ => True := by
    have asks : (c.commit o).Ensures (Stage.polling.Asks c.topics) c.SameChannel := c.commit_asks o
    exact asks.mono (fun _ => isAside_of_asks apart (by decide)) fun _ _ => trivial
  cases message with
  | announcement a =>
    refine Ensures.bind (Q := fun _ => True) ?_ fun safe _ => (commits _).bind fun _ _ => trivial
    unfold askSafety
    split
    · exact ⟨rfl, fun _ => trivial⟩
    · trivial
  | chunk piece => exact (commits _).bind fun _ _ => trivial
  | diagnosticsRequest => cases update
  | other => cases update

theorem publishDiagnostics_aside (c : Controller) (now : Nat) :
    (c.publishDiagnostics now).Ensures
      (fun q => q.isAside c.topics = true ∨ q.isLog = true) fun _ => True := by
  refine .request (.inl rfl) fun heap => .request (.inl rfl) fun signal => ?_
  refine .request (.inl (decide_eq_true rfl)) fun r => ?_
  cases r with
  | ok => exact .request (.inr rfl) fun _ => trivial
  | error e => trivial

/-- A message that brings the update nothing changes nothing, and what is asked for its sake is not
heard. -/
theorem runs_handle_aside {message : Wire.Message} {result : Controller × Except Fault Unit}
    (idle : message.isUpdate = false) (run : Runs (c.handle now message) exchanges result) :
    result.1 = c ∧ heard c.topics exchanges = [] := by
  cases message with
  | announcement a => cases idle
  | chunk piece => cases idle
  | diagnosticsRequest =>
    obtain ⟨_, r, _, rfl, answered, run₁⟩ := (Dialogue.runs_bind _ _ _ _).1 run
    obtain ⟨rfl, rfl⟩ := (Dialogue.runs_pure _ _ _).1 run₁
    obtain ⟨aside, -⟩ := (c.publishDiagnostics_aside now).of_runs answered
    rw [List.append_nil]
    exact ⟨rfl, heard_eq_nil aside⟩
  | other =>
    obtain ⟨rfl, rfl⟩ := (Dialogue.runs_pure _ _ _).1 run
    exact ⟨rfl, rfl⟩

theorem runs_dispatch_sifted {frame : Wire.Frame}
    (apart : c.topics.diagnosticsResponse ≠ c.topics.updateStatus)
    (run : Runs (c.dispatch frame now) exchanges c') :
    ∃ said a count, Runs (c.attend now (frame.updateMessage? c.topics).toList) said a ∧
      c' = a.recount count ∧ heard c.topics exchanges = muted said := by
  obtain ⟨before, _, _, rfl, logged, run₁⟩ := (Dialogue.runs_bind _ _ _ _).1 run
  have quiet := heard_eq_nil_of_asked c.topics (runs_sayAll logged)
  split at run₁
  case h_1 refused =>
    obtain ⟨after, _, _, rfl, loggedLater, run₂⟩ := (Dialogue.runs_bind _ _ _ _).1 run₁
    obtain ⟨rfl, rfl⟩ := (Dialogue.runs_pure _ _ _).1 run₂
    have quietLater := heard_eq_nil_of_asked c.topics (runs_sayAll loggedLater)
    refine ⟨[], c, c.router.count + 1, ?_, rfl, by simp [heard_append, quiet, quietLater, muted]⟩
    rw [Wire.Frame.updateMessage?_of_error c.topics refused]
    exact .done c
  case h_2 message read =>
    obtain ⟨handling, result, _, rfl, counted, run₂⟩ := (Dialogue.runs_bind _ _ _ _).1 run₁
    obtain ⟨after, _, _, rfl, loggedLater, run₃⟩ := (Dialogue.runs_bind _ _ _ _).1 run₂
    obtain ⟨rfl, rfl⟩ := (Dialogue.runs_pure _ _ _).1 run₃
    have quietLater := heard_eq_nil_of_asked c.topics (runs_sayAll loggedLater)
    have same : { c with router := c.router.counted }.handle now message = _ :=
      c.handle_recount (c.router.count + 1) now message
    rw [same, Dialogue.runs_map] at counted
    obtain ⟨⟨a, r⟩, handled, rfl⟩ := counted
    have heardAll : heard c.topics (before ++ (handling ++ (after ++ []))) =
        heard c.topics handling := by
      simp [heard_append, quiet, quietLater]
    rw [heardAll, Wire.Frame.updateMessage?_of_ok c.topics read]
    cases update : message.isUpdate with
    | true =>
      obtain ⟨unaside, -⟩ := (c.handle_unaside now apart update).of_runs handled
      refine ⟨handling, a, c.router.count + 1, ?_, rfl, heard_eq_muted unaside⟩
      exact (Dialogue.runs_bind _ _ _ _).2 ⟨handling, (a, r), [], by simp, handled, .done a⟩
    | false =>
      obtain ⟨rfl, unheard⟩ := runs_handle_aside update handled
      exact ⟨[], _, _, .done _, rfl, unheard⟩

/-- The frames that are taken come to what their messages come to, in their order. -/
theorem runs_drain_sifted (apart : c.topics.diagnosticsResponse ≠ c.topics.updateStatus)
    (taken : TakenFrom queue exchanges) (run : Runs (c.drain now n) exchanges c') :
    ∃ said a count, Runs (c.attend now (updateMessages c.topics (queue.take n))) said a ∧
      c' = a.recount count ∧ heard c.topics exchanges = muted said := by
  induction n generalizing c exchanges queue with
  | zero =>
    obtain ⟨rfl, rfl⟩ := (Dialogue.runs_pure _ _ _).1 run
    exact ⟨[], _, _, .done _, rfl, rfl⟩
  | succ n ih =>
    obtain ⟨r, _, rfl, next⟩ := (Dialogue.runs_request_bind .nextFrame _ _ _).1 run
    obtain ⟨rfl, later⟩ := taken
    cases queue with
    | nil =>
      obtain ⟨rfl, rfl⟩ := (Dialogue.runs_pure _ _ _).1 next
      exact ⟨[], _, _, .done _, rfl, rfl⟩
    | cons frame queue =>
      obtain ⟨handling, d, rest, rfl, dispatched, drained⟩ := (Dialogue.runs_bind _ _ _ _).1 next
      obtain ⟨_, -, served⟩ := runs_dispatch dispatched
      obtain ⟨x, a, count, attended, rfl, hx⟩ := runs_dispatch_sifted apart dispatched
      have topics : a.topics = c.topics := served.fed.topics
      obtain ⟨y, b, count', attendedLater, rfl, hy⟩ :=
        ih (topics ▸ apart) ((takenFrom_append served.leaves_inbox).1 later) drained
      rw [attend_recount, Dialogue.runs_map] at attendedLater
      obtain ⟨b, attendedLater, rfl⟩ := attendedLater
      refine ⟨x ++ y, b, count', ?_, rfl, ?_⟩
      · rw [List.take_succ_cons, updateMessages_cons, attend_append]
        exact (Dialogue.runs_bind _ _ _ _).2 ⟨x, a, y, rfl, attended, topics ▸ attendedLater⟩
      · change heard c.topics (handling ++ rest) = _
        rw [heard_append, muted_append, hx, ← hy]
        exact congrArg (_ ++ heard · rest) topics.symm

end Controller

end DoughAnalyzer
