import DoughAnalyzer.Proofs.Controller.Work

set_option autoImplicit false

namespace DoughAnalyzer

/-- The stages of a tick between the clock and the upkeep of the network. -/
inductive Stage where
  | opening | tracking | draining | polling
  deriving DecidableEq, Repr

def Stage.Owns (topics : Wire.Topics) : Stage → Request → Prop
  | opening, .emit (.started _) => True
  | tracking, .channelConnected | tracking, .subscribe _ => True
  | draining, .nextFrame | draining, .safeToFlash | draining, .freeHeap | draining, .signal => True
  | draining, .publish topic _ => topic = topics.diagnosticsResponse
  | polling, .restart => True
  | _, _ => False

def Stage.Asks (topics : Wire.Topics) (stage : Stage) : Request → Prop
  | .log _ => True
  | .publish topic payload =>
    topic = topics.updateStatus ∨ stage.Owns topics (.publish topic payload)
  | q => stage.Owns topics q

theorem filterMap_eq_nil_of_asks {β : Type} {f : Exchange → Option β} {topics : Wire.Topics}
    {stage : Stage} {exchanges : List Exchange}
    (asks : ∀ e ∈ exchanges, stage.Asks topics e.request)
    (none : ∀ q r, stage.Asks topics q → f ⟨q, r⟩ = none) : exchanges.filterMap f = [] :=
  List.filterMap_eq_nil_iff.2 fun e he => none e.request e.reply (asks e he)

namespace Controller

open Dialogue (Ensures Runs)

variable {c c' : Controller} {now : Nat} {stage : Stage}

/-- Only `trackChannel` tells whether the channel is up, and no stage changes the topics. -/
def SameChannel (c c' : Controller) : Prop := c'.topics = c.topics ∧ c'.channelUp = c.channelUp

theorem SameChannel.trans {a b c : Controller} (h : a.SameChannel b) (k : b.SameChannel c) :
    a.SameChannel c :=
  ⟨k.1.trans h.1, k.2.trans h.2⟩

theorem sayAll_asks (topics : Wire.Topics) (log : Console.Log) :
    (sayAll log).Ensures (stage.Asks topics) fun _ => True := by
  induction log with
  | nil => trivial
  | cons record rest ih => exact .request trivial fun _ => ih

theorem perform_asks (c : Controller) (effects : List Update.Effect) :
    (c.perform effects).Ensures (stage.Asks c.topics) fun _ => True := by
  induction effects with
  | nil => trivial
  | cons e rest ih =>
    cases e with
    | remark r => exact .request trivial fun _ => ih
    | notice n =>
      refine Ensures.bind (Q := fun _ => True) ?_ fun _ _ => ih
      refine .request (.inl rfl) fun r => ?_
      cases r with
      | ok => trivial
      | error e => exact ⟨trivial, fun _ => trivial⟩

theorem commit_asks {α : Type} (c : Controller) (o : Update.Outcome α) :
    (c.commit o).Ensures (stage.Asks c.topics) c.SameChannel :=
  (c.perform_asks o.effects).bind fun _ _ => ⟨rfl, rfl⟩

theorem announceStart_asks (c : Controller) :
    c.announceStart.Ensures (Stage.opening.Asks c.topics) c.SameChannel := by
  unfold announceStart
  split
  · exact ⟨rfl, rfl⟩
  · exact .request trivial fun _ => .request trivial fun _ => ⟨rfl, rfl⟩

theorem subscribeAll_asks (topics : Wire.Topics) (list : List String) :
    (subscribeAll list).Ensures (Stage.tracking.Asks topics) fun _ => True := by
  induction list with
  | nil => trivial
  | cons topic rest ih =>
    refine .request trivial fun r => ?_
    cases r with
    | ok => exact ih
    | error e => exact .request trivial fun _ => trivial

theorem trackChannel_asks (c : Controller) (now : Nat) :
    (c.trackChannel now).Ensures (Stage.tracking.Asks c.topics) fun _ => True := by
  refine .request trivial fun connected => ?_
  split
  · trivial
  split
  · exact .request trivial fun _ => trivial
  refine (subscribeAll_asks c.topics _).bind fun subscribed _ => ?_
  cases subscribed with
  | false => trivial
  | true =>
    refine .request trivial fun _ => ?_
    exact (commit_asks { c with channelUp := true } _).mono (fun _ hq => hq) fun _ _ => trivial

theorem handle_asks (c : Controller) (now : Nat) (message : Wire.Message) :
    (c.handle now message).Ensures (Stage.draining.Asks c.topics) (c.SameChannel ·.1) := by
  cases message with
  | announcement a =>
    refine Ensures.bind (Q := fun _ => True) ?_ fun safe _ => (c.commit_asks _).bind fun _ h => h
    unfold askSafety
    split
    · exact ⟨trivial, fun _ => trivial⟩
    · trivial
  | chunk piece => exact (c.commit_asks _).bind fun _ h => h
  | diagnosticsRequest =>
    refine Ensures.bind (Q := fun _ => True) ?_ fun _ _ => ⟨rfl, rfl⟩
    refine .request trivial fun heap => .request trivial fun signal => ?_
    refine .request (.inr rfl) fun r => ?_
    cases r with
    | ok => exact .request trivial fun _ => trivial
    | error e => trivial
  | other => exact ⟨rfl, rfl⟩

theorem dispatch_asks (c : Controller) (frame : Wire.Frame) (now : Nat) :
    (c.dispatch frame now).Ensures (Stage.draining.Asks c.topics) c.SameChannel := by
  refine (sayAll_asks c.topics _).bind fun _ _ => ?_
  split
  case h_1 => exact (sayAll_asks c.topics _).bind fun _ _ => ⟨rfl, rfl⟩
  case h_2 message _ =>
    refine (handle_asks { c with router := c.router.counted } now message).bind fun result h => ?_
    exact (sayAll_asks c.topics _).bind fun _ _ => h

theorem drain_asks (c : Controller) (now n : Nat) :
    (c.drain now n).Ensures (Stage.draining.Asks c.topics) c.SameChannel := by
  induction n generalizing c with
  | zero => exact ⟨rfl, rfl⟩
  | succ n ih =>
    refine .request trivial fun r => ?_
    cases r with
    | none => exact ⟨rfl, rfl⟩
    | some frame =>
      refine (c.dispatch_asks frame now).bind fun c' h => ?_
      rw [← h.1]
      exact (ih c').mono (fun _ hq => hq) fun _ k => h.trans k

theorem pollUpdate_asks (c : Controller) (now : Nat) :
    (c.pollUpdate now).Ensures (Stage.polling.Asks c.topics) c.SameChannel := by
  refine (c.commit_asks _).bind fun c' h => ?_
  split
  · exact h
  · exact .request trivial fun _ => .request trivial fun _ => h

namespace Course

theorem started_topics (t : c.Course) : t.started.topics = c.topics :=
  (c.announceStart_feeds.of_runs t.opened).2.topics

theorem tracked_topics (t : c.Course) : t.tracked.topics = c.topics := by
  obtain ⟨-, _, -, fed⟩ := (t.started.trackChannel_feeds t.now).of_runs t.followed
  exact fed.topics.trans t.started_topics

theorem drained_topics (t : c.Course) : t.drained.topics = c.topics := by
  obtain ⟨_, drains⟩ := runs_drain t.taken
  exact drains.fed.topics.trans t.tracked_topics

theorem opening_asks (t : c.Course) :
    ∀ e ∈ t.opening, Stage.opening.Asks c.topics e.request :=
  (c.announceStart_asks.of_runs t.opened).1

theorem tracking_asks (t : c.Course) :
    ∀ e ∈ t.tracking, Stage.tracking.Asks c.topics e.request :=
  t.started_topics ▸ ((t.started.trackChannel_asks t.now).of_runs t.followed).1

theorem draining_asks (t : c.Course) :
    ∀ e ∈ t.draining, Stage.draining.Asks c.topics e.request :=
  t.tracked_topics ▸ ((t.tracked.drain_asks t.now _).of_runs t.taken).1

theorem polling_asks (t : c.Course) :
    ∀ e ∈ t.polling, Stage.polling.Asks c.topics e.request :=
  t.drained_topics ▸ ((t.drained.pollUpdate_asks t.now).of_runs t.timed).1

theorem filterMap_exchanges {β : Type} (t : c.Course) (f : Exchange → Option β) :
    t.exchanges.filterMap f = t.preparing.filterMap f ++ (t.working.filterMap f ++
      t.closing.filterMap f) := by
  rw [exchanges, List.filterMap_append, List.filterMap_append]

theorem filterMap_preparing {β : Type} (t : c.Course) (f : Exchange → Option β) :
    t.preparing.filterMap f =
      (f ⟨.clock, t.now⟩).toList ++ (t.opening.filterMap f ++ (t.tracking.filterMap f ++
        (t.draining.filterMap f ++ (t.polling.filterMap f ++
          (f ⟨.pollNetwork t.now, ()⟩).toList)))) := by
  have single (e : Exchange) : [e].filterMap f = (f e).toList := by
    cases h : f e <;> simp [h]
  rw [preparing, ← List.singleton_append]
  simp only [List.filterMap_append, single]

/-- Of what none of the stages asks only the clock and the upkeep of the network are left. -/
theorem filterMap_preparing_of_unasked {β : Type} (t : c.Course) {f : Exchange → Option β}
    (none : ∀ stage q r, Stage.Asks c.topics stage q → f ⟨q, r⟩ = none) :
    t.preparing.filterMap f =
      (f ⟨.clock, t.now⟩).toList ++ (f ⟨.pollNetwork t.now, ()⟩).toList := by
  rw [filterMap_preparing, filterMap_eq_nil_of_asks t.opening_asks (none _),
    filterMap_eq_nil_of_asks t.tracking_asks (none _),
    filterMap_eq_nil_of_asks t.draining_asks (none _),
    filterMap_eq_nil_of_asks t.polling_asks (none _)]
  rfl

theorem filterMap_of_unasked {β : Type} (t : c.Course) {f : Exchange → Option β}
    (none : ∀ stage q r, Stage.Asks c.topics stage q → f ⟨q, r⟩ = none)
    (clock : ∀ now, f ⟨.clock, now⟩ = .none) (keeping : ∀ now, f ⟨.pollNetwork now, ()⟩ = .none)
    (unchanged : ∀ event : Event, event.isChange = true → f ⟨.emit event, ()⟩ = .none) :
    t.exchanges.filterMap f = (asked t.working).filterMap f := by
  have closing : t.closing.filterMap f = [] := by
    rw [t.closing_eq, List.filterMap_map, List.filterMap_eq_nil_iff]
    exact fun event told => unchanged event (isChange_of_mem_changes told)
  rw [filterMap_exchanges, t.filterMap_preparing_of_unasked none, clock, keeping, closing,
    filterMap_asked fun record => none .opening (.log record) () trivial]
  exact List.append_nil _

end Course

end Controller

end DoughAnalyzer
