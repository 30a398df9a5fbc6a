import DoughAnalyzer.Controller.Tick
import DoughAnalyzer.Proofs.Controller.Ensures
import DoughAnalyzer.Proofs.Update.History
import Mathlib.Data.List.Basic

set_option autoImplicit false

namespace DoughAnalyzer

def Request.isLog : Request → Bool
  | log _ => true
  | _ => false

/-- What was asked and answered, but for the log. -/
def asked (exchanges : List Exchange) : List Exchange :=
  exchanges.filter fun e => !e.request.isLog

def requests (exchanges : List Exchange) : List Request := (asked exchanges).map (·.request)

theorem filter_asked {P : Request → Bool} (unlogged : ∀ record, P (.log record) = false)
    (exchanges : List Exchange) :
    (asked exchanges).filter (P ·.request) = exchanges.filter (P ·.request) := by
  rw [asked, List.filter_filter]
  refine List.filter_congr fun e _ => ?_
  rcases e with ⟨q, r⟩
  cases q <;> simp [Request.isLog, unlogged]

theorem filterMap_asked {β : Type} {f : Exchange → Option β}
    (unlogged : ∀ record, f ⟨.log record, ()⟩ = none) (exchanges : List Exchange) :
    (asked exchanges).filterMap f = exchanges.filterMap f := by
  rw [asked, List.filterMap_filter]
  refine List.filterMap_congr fun e _ => ?_
  rcases e with ⟨q, r⟩
  cases q <;> simp [Request.isLog, unlogged]

theorem asked_append (x y : List Exchange) : asked (x ++ y) = asked x ++ asked y :=
  List.filter_append x y

theorem requests_append (x y : List Exchange) : requests (x ++ y) = requests x ++ requests y := by
  rw [requests, asked_append, List.map_append]
  rfl

theorem filterMap_requests {β : Type} {f : Request → Option β}
    (unlogged : ∀ record, f (.log record) = none) (exchanges : List Exchange) :
    (requests exchanges).filterMap f = exchanges.filterMap (f ·.request) := by
  rw [requests, List.filterMap_map]
  exact filterMap_asked (f := (f ·.request)) unlogged exchanges

def Request.statusPayload? (topics : Wire.Topics) : Request → Option String
  | publish topic payload => if topic = topics.updateStatus then some payload else none
  | _ => none

def statusPayloads (topics : Wire.Topics) (exchanges : List Exchange) : List String :=
  exchanges.filterMap (·.request.statusPayload? topics)

theorem statusPayloads_append (topics : Wire.Topics) (x y : List Exchange) :
    statusPayloads topics (x ++ y) = statusPayloads topics x ++ statusPayloads topics y :=
  List.filterMap_append

theorem statusPayloads_of_requests (topics : Wire.Topics) (exchanges : List Exchange) :
    statusPayloads topics exchanges =
      (requests exchanges).filterMap (·.statusPayload? topics) :=
  (filterMap_requests (fun _ => rfl) exchanges).symm

namespace Request

def isReport : Request → Bool
  | log _ | publish _ _ => true
  | _ => false

/-- What a stage asks besides the clock, the frames that wait, the power and the upkeep of the
network. -/
def isHandling : Request → Bool
  | emit (.started _) | channelConnected | subscribe _ | publish _ _ | freeHeap | signal | restart
  | log _ => true
  | _ => false

def isServing : Request → Bool
  | safeToFlash => true
  | q => q.isHandling

def isPreparation : Request → Bool
  | clock | nextFrame | pollNetwork _ => true
  | q => q.isServing

theorem isHandling_of_isReport (q : Request) (h : q.isReport = true) : q.isHandling = true := by
  cases q <;> first | rfl | cases h

theorem isServing_of_isHandling (q : Request) (h : q.isHandling = true) : q.isServing = true := by
  cases q <;> first | rfl | exact h

theorem isPreparation_of_isServing (q : Request) (h : q.isServing = true) :
    q.isPreparation = true := by
  cases q <;> first | rfl | exact h

theorem isPreparation_of_isHandling (q : Request) (h : q.isHandling = true) :
    q.isPreparation = true :=
  q.isPreparation_of_isServing (q.isServing_of_isHandling h)

end Request

namespace Controller

open Dialogue (Runs)
open Update (Session)

/-- Before the work of the phase only the update, the router and the channel move on. -/
structure Keeps (c c' : Controller) : Prop where
  topics : c'.topics = c.topics
  config : c'.config = c.config
  lifecycle : c'.lifecycle = c.lifecycle
  boot : c'.boot = c.boot
  id : c'.id = c.id
  lastReading : c'.lastReading = c.lastReading
  restartRequested : c'.restartRequested = c.restartRequested

theorem Keeps.refl (c : Controller) : c.Keeps c := ⟨rfl, rfl, rfl, rfl, rfl, rfl, rfl⟩

theorem Keeps.trans {a b c : Controller} (h : a.Keeps b) (k : b.Keeps c) : a.Keeps c :=
  ⟨k.topics.trans h.topics, k.config.trans h.config, k.lifecycle.trans h.lifecycle,
    k.boot.trans h.boot, k.id.trans h.id, k.lastReading.trans h.lastReading,
    k.restartRequested.trans h.restartRequested⟩

structure Prepares (c c' : Controller) : Prop extends Keeps c c' where
  session : ∃ inputs, c'.session = c.session.after inputs

/-- The update gets these inputs. -/
structure Feeds (c : Controller) (inputs : List Session.Input) (c' : Controller) : Prop
    extends Keeps c c' where
  session : c'.session = c.session.after inputs

theorem Feeds.refl (c : Controller) : c.Feeds [] c := ⟨.refl c, rfl⟩

theorem Feeds.prepares {c c' : Controller} {inputs : List Session.Input} (h : c.Feeds inputs c') :
    c.Prepares c' :=
  ⟨h.toKeeps, inputs, h.session⟩

theorem Feeds.trans {a b c : Controller} {x y : List Session.Input} (h : a.Feeds x b)
    (k : b.Feeds y c) : a.Feeds (x ++ y) c := by
  refine ⟨h.toKeeps.trans k.toKeeps, ?_⟩
  rw [k.session, h.session, Session.after_append]

theorem sayAll_ensures (log : Console.Log) :
    (sayAll log).Ensures (·.isReport = true) fun _ => True := by
  induction log with
  | nil => trivial
  | cons record rest ih => exact .request rfl fun _ => ih

theorem publishNotice_ensures (c : Controller) (n : Update.Notice) :
    (c.publishNotice n).Ensures (·.isReport = true) fun _ => True := by
  refine .request rfl fun r => ?_
  cases r with
  | ok => trivial
  | error e => exact ⟨rfl, fun _ => trivial⟩

theorem perform_ensures (c : Controller) (effects : List Update.Effect) :
    (c.perform effects).Ensures (·.isReport = true) fun _ => True := by
  induction effects with
  | nil => trivial
  | cons e rest ih =>
    cases e with
    | remark r => exact .request rfl fun _ => ih
    | notice n => exact (c.publishNotice_ensures n).bind fun _ _ => ih

theorem commit_ensures {α : Type} (c : Controller) (o : Update.Outcome α) :
    (c.commit o).Ensures (·.isReport = true) (· = { c with session := o.session }) :=
  (c.perform_ensures o.effects).bind fun _ _ => rfl

theorem commit_feeds (c : Controller) (i : Session.Input) {α : Type} {o : Update.Outcome α}
    (h : o.session = (c.session.take i).session) :
    (c.commit o).Ensures (·.isHandling = true) (c.Feeds [i]) := by
  refine (c.commit_ensures o).mono Request.isHandling_of_isReport fun c' hc' => ?_
  subst hc'
  exact ⟨{ Keeps.refl c with }, h⟩

/-- How notices leave the device. -/
def reports (c : Controller) (notices : List Update.Notice) : List Request :=
  notices.map fun n => .publish c.topics.updateStatus n.document

theorem filterMap_reports (c : Controller) (notices : List Update.Notice) :
    (c.reports notices).filterMap (·.statusPayload? c.topics) = notices.map (·.document) := by
  rw [reports, List.filterMap_map, ← List.filterMap_eq_map]
  refine List.filterMap_congr fun n _ => ?_
  simp [Request.statusPayload?]

variable {c c' : Controller} {exchanges : List Exchange}

theorem runs_sayAll {log : Console.Log} {u : Unit} (run : Runs (sayAll log) exchanges u) :
    asked exchanges = [] := by
  induction log generalizing exchanges with
  | nil =>
    obtain ⟨rfl, -⟩ := (Dialogue.runs_pure _ _ _).1 run
    rfl
  | cons record log ih =>
    obtain ⟨_, _, rfl, later⟩ := (Dialogue.runs_request_bind (.log record) _ _ _).1 run
    have hnil := ih later
    exact hnil

theorem runs_publishNotice {n : Update.Notice} {u : Unit}
    (run : Runs (c.publishNotice n) exchanges u) : requests exchanges = c.reports [n] := by
  obtain ⟨r, _, rfl, run₁⟩ := (Dialogue.runs_request_bind (.publish _ _) _ _ _).1 run
  rcases r with e | ⟨⟩
  · obtain rfl := (Dialogue.runs_request _ _ _).1 run₁
    rfl
  · obtain ⟨rfl, -⟩ := (Dialogue.runs_pure _ _ _).1 run₁
    rfl

theorem runs_perform {effects : List Update.Effect} {u : Unit}
    (run : Runs (c.perform effects) exchanges u) :
    requests exchanges = c.reports (Update.notices effects) := by
  induction effects generalizing exchanges with
  | nil =>
    obtain ⟨rfl, -⟩ := (Dialogue.runs_pure _ _ _).1 run
    rfl
  | cons e rest ih =>
    cases e with
    | remark r =>
      obtain ⟨_, _, rfl, later⟩ := (Dialogue.runs_request_bind (.log r.record) _ _ _).1 run
      have hrest := ih later
      exact hrest
    | notice n =>
      obtain ⟨_, _, _, rfl, published, later⟩ := (Dialogue.runs_bind _ _ _ _).1 run
      rw [requests_append, runs_publishNotice published, ih later]
      rfl

theorem requests_commit {α : Type} {o : Update.Outcome α}
    (run : Runs (c.commit o) exchanges c') :
    requests exchanges = c.reports (Update.notices o.effects) ∧
      c' = { c with session := o.session } := by
  obtain ⟨_, _, _, rfl, performed, run₁⟩ := (Dialogue.runs_bind _ _ _ _).1 run
  obtain ⟨rfl, rfl⟩ := (Dialogue.runs_pure _ _ _).1 run₁
  rw [List.append_nil]
  exact ⟨runs_perform performed, rfl⟩

theorem announceStart_feeds (c : Controller) :
    c.announceStart.Ensures (·.isHandling = true) (c.Feeds []) := by
  unfold announceStart
  split
  · exact .refl c
  · exact .request rfl fun _ => .request rfl fun _ => { Feeds.refl c with }

theorem subscribeAll_ensures (topics : List String) :
    (subscribeAll topics).Ensures (·.isHandling = true) fun _ => True := by
  induction topics with
  | nil => trivial
  | cons topic rest ih =>
    refine .request rfl fun r => ?_
    cases r with
    | ok => exact ih
    | error e => exact .request rfl fun _ => trivial

theorem trackChannel_feeds (c : Controller) (now : Nat) :
    (c.trackChannel now).Ensures (·.isHandling = true) fun c' =>
      ∃ inputs, (inputs = [] ∨ inputs = [.call (.reconnect now)]) ∧ c.Feeds inputs c' := by
  refine .request rfl fun connected => ?_
  split
  · exact ⟨[], .inl rfl, .refl c⟩
  split
  · exact .request rfl fun _ => ⟨[], .inl rfl, { Feeds.refl c with }⟩
  refine (subscribeAll_ensures _).bind fun subscribed _ => ?_
  cases subscribed with
  | false => exact ⟨[], .inl rfl, .refl c⟩
  | true =>
    refine .request rfl fun _ => ?_
    have up : c.Feeds [] { c with channelUp := true } := { Feeds.refl c with }
    refine (commit_feeds _ (.call (.reconnect now)) rfl).mono (fun _ hq => hq) fun _ h => ?_
    exact ⟨_, .inr rfl, up.trans h⟩

theorem pollUpdate_feeds (c : Controller) (now : Nat) :
    (c.pollUpdate now).Ensures (·.isHandling = true) (c.Feeds [.call (.poll now)]) := by
  refine (c.commit_feeds (.call (.poll now)) rfl).bind fun c' h => ?_
  split
  · exact h
  · exact .request rfl fun _ => .request rfl fun _ => h

def restartOf : Update.Poll → List Request
  | .idle => []
  | .rebootNow => [.restart]

theorem runs_pollUpdate {now : Nat} (run : Runs (c.pollUpdate now) exchanges c') :
    requests exchanges = c.reports (Update.notices (c.session.poll now).effects) ++
        restartOf (c.session.poll now).result ∧
      c' = { c with session := (c.session.poll now).session } := by
  obtain ⟨committing, _, _, rfl, committed, run₁⟩ := (Dialogue.runs_bind _ _ _ _).1 run
  obtain ⟨told, rfl⟩ := requests_commit committed
  rw [requests_append, told]
  cases result : (c.session.poll now).result with
  | idle =>
    simp only [result] at run₁
    obtain ⟨rfl, rfl⟩ := (Dialogue.runs_pure _ _ _).1 run₁
    exact ⟨rfl, rfl⟩
  | rebootNow =>
    simp only [result] at run₁
    obtain ⟨_, _, rfl, run₂⟩ := (Dialogue.runs_request_bind (.log _) _ _ _).1 run₁
    obtain ⟨_, _, rfl, run₃⟩ := (Dialogue.runs_request_bind .restart _ _ _).1 run₂
    obtain ⟨rfl, rfl⟩ := (Dialogue.runs_pure _ _ _).1 run₃
    exact ⟨rfl, rfl⟩

end Controller

end DoughAnalyzer
