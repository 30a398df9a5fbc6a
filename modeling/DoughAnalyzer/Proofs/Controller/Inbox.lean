import DoughAnalyzer.Proofs.Controller.Stages
import Mathlib.Data.List.Forall2

/-!
The frames that wait, as a tick takes them. What they bring to the update follows from the frames
alone, in their order, and from what is answered about the power whenever an announcement meets a
session that is ready for one.
-/

set_option autoImplicit false

namespace DoughAnalyzer

open Update (Session)

/-- What a message brings to the update. -/
inductive Wire.Message.Brings (now : Nat) : Wire.Message → List Session.Input → Prop where
  | announcement (a : Wire.Announcement) (safe : Bool) :
      Brings now (.announcement a) [.call (.start a safe now)]
  | chunk (piece : Wire.Chunk) : Brings now (.chunk piece) [.call (.chunk piece now)]
  | diagnosticsRequest : Brings now .diagnosticsRequest []
  | other : Brings now .other []

inductive Wire.Frame.Brings (topics : Wire.Topics) (now : Nat) (frame : Wire.Frame) :
    List Session.Input → Prop where
  | read {message : Wire.Message} {inputs : List Session.Input}
      (h : Wire.Router.classify topics frame.topic frame.payload = .ok message)
      (brings : message.Brings now inputs) : Brings topics now frame inputs
  | refused {e : DecodeError}
      (h : Wire.Router.classify topics frame.topic frame.payload = .error e) :
      Brings topics now frame []

theorem forall_brought {topics : Wire.Topics} {now : Nat} {frames : List Wire.Frame}
    {brought : List (List Session.Input)} {P : Session.Input → Prop}
    (h : List.Forall₂ (Wire.Frame.Brings topics now) frames brought)
    (announcement : ∀ a safe, P (.call (.start a safe now)))
    (chunk : ∀ piece, P (.call (.chunk piece now))) : ∀ i ∈ brought.flatten, P i := by
  induction h with
  | nil => simp
  | cons first _ ih =>
    rw [List.flatten_cons, List.forall_mem_append]
    refine ⟨?_, ih⟩
    cases first with
    | refused => simp
    | read h brings => cases brings <;> simp [announcement, chunk]

/-- The frames that were taken, in order. -/
def framesTaken (exchanges : List Exchange) : List Wire.Frame :=
  exchanges.filterMap fun
    | ⟨.nextFrame, frame⟩ => frame
    | _ => none

def powerAnswers (exchanges : List Exchange) : List Bool :=
  exchanges.filterMap fun
    | ⟨.safeToFlash, safe⟩ => some safe
    | _ => none

/-- The answers that the inputs of a session rest on. A session that takes no announcement needs
none. -/
def Update.Session.powerAnswers (s : Session) : List Session.Input → List Bool
  | [] => []
  | .call (.start a safe now) :: rest =>
    (if s.acceptsAnnouncement then [safe] else []) ++
      (s.take (.call (.start a safe now))).session.powerAnswers rest
  | i :: rest => (s.take i).session.powerAnswers rest

theorem Update.Session.powerAnswers_append (s : Session) (x y : List Session.Input) :
    s.powerAnswers (x ++ y) = s.powerAnswers x ++ (s.after x).powerAnswers y := by
  induction x generalizing s with
  | nil => rfl
  | cons i x ih =>
    cases i with
    | fault f => exact ih _
    | call c =>
      cases c with
      | start a safe now => exact (congrArg _ (ih _)).trans (List.append_assoc _ _ _).symm
      | _ => exact ih _

def Update.Session.tellings (s : Session) (inputs : List Session.Input) : List Update.Notice :=
  (s.record inputs).flatMap fun e => Update.notices e.outcome.effects

theorem Update.Session.tellings_append (s : Session) (x y : List Session.Input) :
    s.tellings (x ++ y) = s.tellings x ++ (s.after x).tellings y := by
  rw [tellings, record_append, List.flatMap_append]
  rfl

theorem Update.Session.tellings_singleton (s : Session) (i : Session.Input) :
    s.tellings [i] = Update.notices (s.take i).effects :=
  List.append_nil _

theorem framesTaken_append (x y : List Exchange) :
    framesTaken (x ++ y) = framesTaken x ++ framesTaken y :=
  List.filterMap_append

theorem powerAnswers_append (x y : List Exchange) :
    powerAnswers (x ++ y) = powerAnswers x ++ powerAnswers y :=
  List.filterMap_append

def Request.isInboxWork : Request → Bool
  | nextFrame | safeToFlash => true
  | _ => false

theorem Request.isInboxWork_of_isHandling (q : Request) (h : q.isHandling = true) :
    q.isInboxWork = false := by
  cases q <;> first | rfl | cases h

def inboxWork (exchanges : List Exchange) : List Exchange :=
  exchanges.filter fun e => e.request.isInboxWork

theorem inboxWork_append (x y : List Exchange) :
    inboxWork (x ++ y) = inboxWork x ++ inboxWork y :=
  List.filter_append x y

theorem framesTaken_inboxWork (exchanges : List Exchange) :
    framesTaken (inboxWork exchanges) = framesTaken exchanges := by
  rw [framesTaken, inboxWork, List.filterMap_filter, framesTaken]
  congr 1
  funext e
  rcases e with ⟨q, r⟩
  cases q <;> rfl

theorem powerAnswers_inboxWork (exchanges : List Exchange) :
    powerAnswers (inboxWork exchanges) = powerAnswers exchanges := by
  rw [powerAnswers, inboxWork, List.filterMap_filter, powerAnswers]
  congr 1
  funext e
  rcases e with ⟨q, r⟩
  cases q <;> rfl

theorem framesTaken_eq_nil {exchanges : List Exchange}
    (h : ∀ e ∈ exchanges, e.request.isServing = true) : framesTaken exchanges = [] := by
  refine List.filterMap_eq_nil_iff.2 fun e he => ?_
  split
  · cases h _ he
  · rfl

theorem powerAnswers_eq_nil {exchanges : List Exchange}
    (h : ∀ e ∈ exchanges, e.request.isHandling = true) : powerAnswers exchanges = [] := by
  refine List.filterMap_eq_nil_iff.2 fun e he => ?_
  split
  · cases h _ he
  · rfl

namespace Controller

open Dialogue (Ensures Runs)

theorem publishDiagnostics_ensures (c : Controller) (now : Nat) :
    (c.publishDiagnostics now).Ensures (·.isHandling = true) fun _ => True := by
  refine .request rfl fun heap => .request rfl fun signal => .request rfl fun r => ?_
  cases r with
  | ok => exact .request rfl fun _ => trivial
  | error e => trivial

/-- What the inputs tell goes out on the status topic, and nothing else does as long as the replies
to diagnostics requests have a topic of their own. -/
def Tells (c : Controller) (inputs : List Session.Input) (exchanges : List Exchange) : Prop :=
  c.topics.diagnosticsResponse ≠ c.topics.updateStatus →
    statusPayloads c.topics exchanges = (c.session.tellings inputs).map (·.document)

/-- What came of a frame: its inputs, with the answers about the power that they rest on. -/
structure Serves (c : Controller) (inputs : List Session.Input) (exchanges : List Exchange)
    (c' : Controller) : Prop where
  asked : ∀ e ∈ exchanges, e.request.isServing = true
  fed : c.Feeds inputs c'
  power : powerAnswers exchanges = c.session.powerAnswers inputs
  told : c.Tells inputs exchanges

variable {c c' : Controller} {inputs : List Session.Input} {exchanges : List Exchange}

theorem Serves.of_handling (asked : ∀ e ∈ exchanges, e.request.isHandling = true)
    (fed : c.Feeds inputs c') (none : c.session.powerAnswers inputs = [])
    (told : c.Tells inputs exchanges) : c.Serves inputs exchanges c' :=
  ⟨fun e he => e.request.isServing_of_isHandling (asked e he), fed,
    (powerAnswers_eq_nil asked).trans none.symm, told⟩

theorem Serves.logged {before after : Console.Log} {said saidLater : List Exchange} {u v : Unit}
    (h : c.Serves inputs exchanges c') (run : Runs (sayAll before) said u)
    (later : Runs (sayAll after) saidLater v) :
    c.Serves inputs (said ++ (exchanges ++ saidLater)) c' := by
  have handled {log : Console.Log} {x : List Exchange} {w : Unit} (run : Runs (sayAll log) x w) :
      ∀ e ∈ x, e.request.isHandling = true := fun e he =>
    e.request.isHandling_of_isReport (((sayAll_ensures log).of_runs run).1 e he)
  have unpublished {log : Console.Log} {x : List Exchange} {w : Unit}
      (run : Runs (sayAll log) x w) : statusPayloads c.topics x = [] := by
    rw [statusPayloads_of_requests, requests, runs_sayAll run]
    rfl
  refine ⟨fun e he => ?_, h.fed, ?_, fun apart => ?_⟩
  · rcases List.mem_append.1 he with he | he
    · exact e.request.isServing_of_isHandling (handled run e he)
    rcases List.mem_append.1 he with he | he
    · exact h.asked e he
    · exact e.request.isServing_of_isHandling (handled later e he)
  · rw [powerAnswers_append, powerAnswers_append, powerAnswers_eq_nil (handled run),
      powerAnswers_eq_nil (handled later), List.append_nil]
    exact h.power
  · rw [statusPayloads_append, statusPayloads_append, unpublished run, unpublished later,
      List.append_nil]
    exact h.told apart

theorem runs_askSafety {safe : Bool} (run : Runs c.askSafety exchanges safe) :
    (∀ e ∈ exchanges, e.request.isServing = true) ∧
      powerAnswers exchanges = (if c.session.acceptsAnnouncement then [safe] else []) ∧
      statusPayloads c.topics exchanges = [] := by
  unfold askSafety at run
  split at run
  case isTrue free =>
    obtain rfl := (Dialogue.runs_request _ _ _).1 run
    exact ⟨by simp [Request.isServing], (if_pos free).symm, rfl⟩
  case isFalse busy =>
    obtain ⟨rfl, -⟩ := (Dialogue.runs_pure _ _ _).1 run
    exact ⟨by simp, (if_neg busy).symm, rfl⟩

theorem runs_commit (i : Session.Input) {α β : Type} {o : Update.Outcome α} {r : β}
    {result : Controller × β} (h : o.session = (c.session.take i).session)
    (effects : o.effects = (c.session.take i).effects)
    (run : Runs (do return (← c.commit o, r)) exchanges result) :
    (∀ e ∈ exchanges, e.request.isHandling = true) ∧ c.Feeds [i] result.1 ∧
      c.Tells [i] exchanges := by
  obtain ⟨_, _, _, rfl, committed, run₁⟩ := (Dialogue.runs_bind _ _ _ _).1 run
  obtain ⟨rfl, rfl⟩ := (Dialogue.runs_pure _ _ _).1 run₁
  obtain ⟨handled, fed⟩ := (c.commit_feeds i h).of_runs committed
  obtain ⟨told, -⟩ := requests_commit committed
  rw [List.append_nil]
  refine ⟨handled, fed, fun _ => ?_⟩
  rw [statusPayloads_of_requests, told, filterMap_reports, Session.tellings_singleton, effects]

theorem unpublished_diagnostics {now : Nat} {r : Except Fault Unit}
    (apart : c.topics.diagnosticsResponse ≠ c.topics.updateStatus)
    (run : Runs (c.publishDiagnostics now) exchanges r) :
    statusPayloads c.topics exchanges = [] := by
  obtain ⟨heap, _, rfl, run₁⟩ := (Dialogue.runs_request_bind .freeHeap _ _ _).1 run
  obtain ⟨signal, _, rfl, run₂⟩ := (Dialogue.runs_request_bind .signal _ _ _).1 run₁
  obtain ⟨sent, _, rfl, run₃⟩ := (Dialogue.runs_request_bind (.publish _ _) _ _ _).1 run₂
  rcases sent with e | ⟨⟩
  · obtain ⟨rfl, -⟩ := (Dialogue.runs_pure _ _ _).1 run₃
    simp [statusPayloads, Request.statusPayload?, apart]
  · obtain ⟨_, _, rfl, run₄⟩ := (Dialogue.runs_request_bind (.log _) _ _ _).1 run₃
    obtain ⟨rfl, -⟩ := (Dialogue.runs_pure _ _ _).1 run₄
    simp [statusPayloads, Request.statusPayload?, apart]

theorem runs_handle {now : Nat} {message : Wire.Message} {result : Controller × Except Fault Unit}
    (run : Runs (c.handle now message) exchanges result) :
    ∃ inputs, message.Brings now inputs ∧ c.Serves inputs exchanges result.1 := by
  cases message with
  | announcement a =>
    obtain ⟨_, safe, rest, rfl, asked, started⟩ := (Dialogue.runs_bind _ _ _ _).1 run
    obtain ⟨serving, hpower, unpublished⟩ := runs_askSafety asked
    obtain ⟨handled, fed, told⟩ := runs_commit (.call (.start a safe now)) rfl rfl started
    refine ⟨_, .announcement a safe, fun e he => ?_, fed, ?_, fun apart => ?_⟩
    · rcases List.mem_append.1 he with he | he
      · exact serving e he
      · exact e.request.isServing_of_isHandling (handled e he)
    · rw [powerAnswers_append, hpower, powerAnswers_eq_nil handled]
      rfl
    · rw [statusPayloads_append, unpublished, List.nil_append]
      exact told apart
  | chunk piece =>
    obtain ⟨handled, fed, told⟩ := runs_commit (.call (.chunk piece now)) rfl rfl run
    exact ⟨_, .chunk piece, .of_handling handled fed rfl told⟩
  | diagnosticsRequest =>
    obtain ⟨_, r, _, rfl, answered, run₁⟩ := (Dialogue.runs_bind _ _ _ _).1 run
    obtain ⟨rfl, rfl⟩ := (Dialogue.runs_pure _ _ _).1 run₁
    obtain ⟨handled, -⟩ := (c.publishDiagnostics_ensures now).of_runs answered
    refine ⟨_, .diagnosticsRequest, ?_⟩
    rw [List.append_nil]
    exact .of_handling handled (.refl c) rfl fun apart => unpublished_diagnostics apart answered
  | other =>
    obtain ⟨rfl, rfl⟩ := (Dialogue.runs_pure _ _ _).1 run
    exact ⟨_, .other, .of_handling (by simp) (.refl c) rfl fun _ => rfl⟩

theorem runs_dispatch {frame : Wire.Frame} {now : Nat}
    (run : Runs (c.dispatch frame now) exchanges c') :
    ∃ inputs, frame.Brings c.topics now inputs ∧ c.Serves inputs exchanges c' := by
  have counted : c.Feeds [] { c with router := c.router.counted } := { Feeds.refl c with }
  obtain ⟨_, _, _, rfl, said, run₁⟩ := (Dialogue.runs_bind _ _ _ _).1 run
  split at run₁
  case h_1 refused =>
    obtain ⟨_, _, _, rfl, saidLater, run₂⟩ := (Dialogue.runs_bind _ _ _ _).1 run₁
    obtain ⟨rfl, rfl⟩ := (Dialogue.runs_pure _ _ _).1 run₂
    have served : c.Serves [] [] { c with router := c.router.counted } :=
      .of_handling (by simp) counted rfl fun _ => rfl
    exact ⟨_, .refused refused, by simpa using served.logged said saidLater⟩
  case h_2 message read =>
    obtain ⟨_, result, _, rfl, handled, run₂⟩ := (Dialogue.runs_bind _ _ _ _).1 run₁
    obtain ⟨_, _, _, rfl, saidLater, run₃⟩ := (Dialogue.runs_bind _ _ _ _).1 run₂
    obtain ⟨rfl, rfl⟩ := (Dialogue.runs_pure _ _ _).1 run₃
    obtain ⟨inputs, brings, asked, fed, power, told⟩ := runs_handle handled
    have served : c.Serves inputs _ result.1 := ⟨asked, counted.trans fed, power, told⟩
    refine ⟨inputs, .read read brings, ?_⟩
    rw [List.append_nil]
    exact served.logged said saidLater

structure Drains (c : Controller) (brought : List (List Session.Input)) (exchanges : List Exchange)
    (now : Nat) (c' : Controller) : Prop where
  asked : ∀ e ∈ exchanges, e.request.isPreparation = true
  brings : List.Forall₂ (Wire.Frame.Brings c.topics now) (framesTaken exchanges) brought
  fed : c.Feeds brought.flatten c'
  power : powerAnswers exchanges = c.session.powerAnswers brought.flatten
  told : c.Tells brought.flatten exchanges

theorem runs_drain {now n : Nat} (run : Runs (c.drain now n) exchanges c') :
    ∃ brought, c.Drains brought exchanges now c' := by
  induction n generalizing c exchanges with
  | zero =>
    obtain ⟨rfl, rfl⟩ := (Dialogue.runs_pure _ _ _).1 run
    exact ⟨[], by simp, .nil, .refl _, rfl, fun _ => rfl⟩
  | succ n ih =>
    obtain ⟨r, _, rfl, next⟩ := (Dialogue.runs_request_bind .nextFrame _ _ _).1 run
    cases r with
    | none =>
      obtain ⟨rfl, rfl⟩ := (Dialogue.runs_pure _ _ _).1 next
      exact ⟨[], by simp [Request.isPreparation], .nil, .refl _, rfl, fun _ => rfl⟩
    | some frame =>
      obtain ⟨handling, handled, rest, rfl, dispatched, drained⟩ :=
        (Dialogue.runs_bind _ _ _ _).1 next
      obtain ⟨inputs, brings, served⟩ := runs_dispatch dispatched
      obtain ⟨brought, drains⟩ := ih drained
      refine ⟨inputs :: brought, fun e he => ?_, ?_, served.fed.trans drains.fed, ?_, ?_⟩
      · rcases List.mem_cons.1 he with rfl | he
        · rfl
        rcases List.mem_append.1 he with he | he
        · exact e.request.isPreparation_of_isServing (served.asked e he)
        · exact drains.asked e he
      · change List.Forall₂ _ (frame :: framesTaken (handling ++ rest)) _
        rw [framesTaken_append, framesTaken_eq_nil served.asked]
        exact .cons brings (served.fed.topics ▸ drains.brings)
      · change powerAnswers (handling ++ rest) = _
        rw [powerAnswers_append, served.power, drains.power, served.fed.session, List.flatten_cons,
          Session.powerAnswers_append]
      · intro apart
        have told := drains.told
        rw [Tells, served.fed.topics, served.fed.session] at told
        change statusPayloads _ (handling ++ rest) = _
        rw [statusPayloads_append, served.told apart, told apart, List.flatten_cons,
          Session.tellings_append, List.map_append]

end Controller

end DoughAnalyzer
