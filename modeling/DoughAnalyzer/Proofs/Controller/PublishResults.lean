import DoughAnalyzer.Bench.Basic
import DoughAnalyzer.Proofs.Controller.Course

/-!
What a message that cannot be sent changes. Two dialogues are alike if they ask the same, whatever
is answered when they publish, and differ only in what they log and in the event that says how the
publishing of a reading went. Held against the same surroundings they come to related results; the
ticks of two controllers that are equal are alike, and leave them equal.
-/

set_option autoImplicit false

namespace DoughAnalyzer

def Request.isPublish : Request → Bool
  | publish _ _ => true
  | _ => false

/-- An exchange without what publishing came to. The log is left out, for it tells of it. -/
def Exchange.muted : Exchange → Option Exchange
  | ⟨.log _, _⟩ => none
  | ⟨.publish topic payload, _⟩ => some ⟨.publish topic payload, .ok ()⟩
  | ⟨.emit (.telemetryPublished _), _⟩ => some ⟨.emit (.telemetryPublished true), ()⟩
  | e => some e

def muted (exchanges : List Exchange) : List Exchange := exchanges.filterMap Exchange.muted

theorem muted_append (x y : List Exchange) : muted (x ++ y) = muted x ++ muted y :=
  List.filterMap_append

theorem muted_cons (e : Exchange) (x : List Exchange) : muted (e :: x) = muted [e] ++ muted x :=
  muted_append [e] x

/-- Surroundings whose replies depend on what was asked of them and not on what publishing came to.
What publishing comes to is open. -/
abbrev Surroundings := (past : List Exchange) → (q : Request) → q.Reply

def Surroundings.Answers (ports : Surroundings) (past : List Exchange) : List Exchange → Prop
  | [] => True
  | e :: rest =>
    (e.request.isPublish = false → e.reply = ports past e.request) ∧
      ports.Answers (past ++ muted [e]) rest

theorem Surroundings.answers_log {ports : Surroundings} {past rest : List Exchange}
    {record : Console.Record} {r : Unit} :
    ports.Answers past (⟨.log record, r⟩ :: rest) ↔ ports.Answers past rest := by
  have quiet : muted [⟨.log record, r⟩] = [] := rfl
  simp [Answers, quiet]

theorem Surroundings.answers_append {ports : Surroundings} {past x y : List Exchange} :
    ports.Answers past (x ++ y) ↔ ports.Answers past x ∧ ports.Answers (past ++ muted x) y := by
  induction x generalizing past with
  | nil => simp [Answers, muted]
  | cons e x ih =>
    rw [muted_cons, ← List.append_assoc]
    exact (and_congr_right fun _ => ih).trans and_assoc.symm

theorem Surroundings.answers_exchanges {α σ : Type} (ports : Surroundings)
    {reply : (q : Request) → σ → q.Reply × σ}
    (same : ∀ past q s, q.isPublish = false → (reply q s).1 = ports past q) (d : Dialogue α)
    (s : σ) (past : List Exchange) : ports.Answers past (d.exchanges reply s) := by
  induction d generalizing s past with
  | done a => trivial
  | ask q next ih => exact ⟨same past q s, ih _ _ _⟩

namespace Dialogue

variable {α β γ δ : Type} {R : α → β → Prop} {S : γ → δ → Prop}

/-- The same is asked, but for the log, and the results are in a relation, even if publishing comes
to different results. -/
inductive Alike (R : α → β → Prop) : Dialogue α → Dialogue β → Prop where
  | done {a : α} {b : β} (h : R a b) : Alike R (done a) (done b)
  | ask {q : Request} {f : q.Reply → Dialogue α} {g : q.Reply → Dialogue β}
      (other : q.isPublish = false) (next : ∀ r, Alike R (f r) (g r)) : Alike R (ask q f) (ask q g)
  | publish {topic payload : String} {f : Except ChannelError Unit → Dialogue α}
      {g : Except ChannelError Unit → Dialogue β} (next : ∀ r r', Alike R (f r) (g r')) :
      Alike R (ask (.publish topic payload) f) (ask (.publish topic payload) g)
  | told {ok ok' : Bool} {f : Unit → Dialogue α} {g : Unit → Dialogue β}
      (next : Alike R (f ()) (g ())) :
      Alike R (ask (.emit (.telemetryPublished ok)) f) (ask (.emit (.telemetryPublished ok')) g)
  | logLeft {record : Console.Record} {f : Unit → Dialogue α} {e : Dialogue β}
      (next : Alike R (f ()) e) : Alike R (ask (.log record) f) e
  | logRight {record : Console.Record} {d : Dialogue α} {g : Unit → Dialogue β}
      (next : Alike R d (g ())) : Alike R d (ask (.log record) g)

namespace Alike

theorem bind {d : Dialogue α} {e : Dialogue β} {f : α → Dialogue γ} {g : β → Dialogue δ}
    (h : Alike R d e) (next : ∀ a b, R a b → Alike S (f a) (g b)) :
    Alike S (d >>= f) (e >>= g) := by
  change Alike S (d.bind f) (e.bind g)
  induction h with
  | done h => exact next _ _ h
  | ask other _ ih => exact .ask other ih
  | publish _ ih => exact .publish ih
  | told _ ih => exact .told ih
  | logLeft _ ih => exact .logLeft ih
  | logRight _ ih => exact .logRight ih

theorem bind_eq {d : Dialogue α} {f g : α → Dialogue γ} {S : γ → γ → Prop} (h : Alike Eq d d)
    (next : ∀ a, Alike S (f a) (g a)) : Alike S (d >>= f) (d >>= g) :=
  h.bind fun a _ same => same ▸ next a

theorem request {q : Request} {f : q.Reply → Dialogue γ} {g : q.Reply → Dialogue δ}
    (other : q.isPublish = false) (next : ∀ r, Alike S (f r) (g r)) :
    Alike S (request q >>= f) (Dialogue.request q >>= g) :=
  .ask other next

/-- Alike dialogues in the same surroundings come to related results, and ask the same. -/
theorem of_runs {d : Dialogue α} {e : Dialogue β} (h : Alike R d e) {ports : Surroundings}
    {past x y : List Exchange} {a : α} {b : β} (hx : Runs d x a) (hy : Runs e y b)
    (gx : ports.Answers past x) (gy : ports.Answers past y) : R a b ∧ muted x = muted y := by
  -- Publishing, the event that tells of it and the log leave the same past behind on both sides, so
  -- that the next reply is the same again.
  induction h generalizing past x y with
  | done h =>
    cases hx
    cases hy
    exact ⟨h, rfl⟩
  | @ask q _ _ other next ih =>
    cases hx with
    | ask r hx =>
      cases hy with
      | ask r' hy =>
        obtain rfl : r = r' := (gx.1 other).trans (gy.1 other).symm
        obtain ⟨related, same⟩ := ih r hx hy gx.2 gy.2
        exact ⟨related, by rw [muted_cons, same, ← muted_cons]⟩
  | publish next ih =>
    cases hx with
    | ask r hx =>
      cases hy with
      | ask r' hy =>
        obtain ⟨related, same⟩ := ih r r' hx hy gx.2 gy.2
        exact ⟨related, congrArg (_ :: ·) same⟩
  | told next ih =>
    cases hx with
    | ask r hx =>
      cases hy with
      | ask r' hy =>
        obtain ⟨related, same⟩ := ih hx hy gx.2 gy.2
        exact ⟨related, congrArg (_ :: ·) same⟩
  | logLeft next ih =>
    cases hx with
    | ask r hx =>
      obtain ⟨related, same⟩ := ih hx hy (Surroundings.answers_log.1 gx) gy
      exact ⟨related, same⟩
  | logRight next ih =>
    cases hy with
    | ask r hy =>
      obtain ⟨related, same⟩ := ih hx hy gx (Surroundings.answers_log.1 gy)
      exact ⟨related, same⟩

end Alike

end Dialogue

namespace Controller

open Dialogue (Alike Runs request)

theorem sayAll_alike (x y : Console.Log) : Alike Eq (sayAll x) (sayAll y) := by
  induction x with
  | nil =>
    induction y with
    | nil => exact .done rfl
    | cons record y ih => exact .logRight ih
  | cons record x ih => exact .logLeft ih

theorem goTo_alike (c : Controller) (next : Phase) (now : Nat) :
    Alike Eq (c.goTo next now) (c.goTo next now) :=
  (sayAll_alike _ _).bind_eq fun _ => .done rfl

theorem publishNotice_alike (c : Controller) (n : Update.Notice) :
    Alike Eq (c.publishNotice n) (c.publishNotice n) := by
  refine .publish fun r r' => ?_
  rcases r with e | ⟨⟩ <;> rcases r' with e' | ⟨⟩
  · exact .logLeft (.logRight (.done rfl))
  · exact .logLeft (.done rfl)
  · exact .logRight (.done rfl)
  · exact .done rfl

theorem perform_alike (c : Controller) (effects : List Update.Effect) :
    Alike Eq (c.perform effects) (c.perform effects) := by
  induction effects with
  | nil => exact .done rfl
  | cons e rest ih =>
    cases e with
    | remark r => exact .request rfl fun _ => ih
    | notice n => exact (c.publishNotice_alike n).bind_eq fun _ => ih

theorem commit_alike {α : Type} (c : Controller) (o : Update.Outcome α) :
    Alike Eq (c.commit o) (c.commit o) :=
  (c.perform_alike _).bind_eq fun _ => .done rfl

theorem subscribeAll_alike (topics : List String) :
    Alike Eq (subscribeAll topics) (subscribeAll topics) := by
  induction topics with
  | nil => exact .done rfl
  | cons topic rest ih =>
    refine .request rfl fun r => ?_
    cases r with
    | ok => exact ih
    | error e => exact .request rfl fun _ => .done rfl

theorem announceStart_alike (c : Controller) : Alike Eq c.announceStart c.announceStart := by
  unfold announceStart
  split
  · exact .done rfl
  · exact .request rfl fun _ => .request rfl fun _ => .done rfl

theorem trackChannel_alike (c : Controller) (now : Nat) :
    Alike Eq (c.trackChannel now) (c.trackChannel now) := by
  refine .request rfl fun connected => ?_
  split
  · exact .done rfl
  split
  · exact .request rfl fun _ => .done rfl
  refine (subscribeAll_alike _).bind_eq fun subscribed => ?_
  cases subscribed with
  | false => exact .done rfl
  | true => exact .request rfl fun _ => commit_alike _ _

theorem publishDiagnostics_alike (c : Controller) (now : Nat) :
    Alike (fun _ _ => True) (c.publishDiagnostics now) (c.publishDiagnostics now) := by
  refine .request rfl fun heap => .request rfl fun signal => .publish fun r r' => ?_
  rcases r with e | ⟨⟩ <;> rcases r' with e' | ⟨⟩
  · exact .done trivial
  · exact .logRight (.done trivial)
  · exact .logLeft (.done trivial)
  · exact .logLeft (.logRight (.done trivial))

theorem askSafety_alike (c : Controller) : Alike Eq c.askSafety c.askSafety := by
  unfold askSafety
  split
  · exact .ask rfl fun _ => .done rfl
  · exact .done rfl

theorem handle_alike (c : Controller) (now : Nat) (message : Wire.Message) :
    Alike (fun x y => x.1 = y.1) (c.handle now message) (c.handle now message) := by
  cases message with
  | announcement a =>
    exact c.askSafety_alike.bind_eq fun safe => (c.commit_alike _).bind_eq fun _ => .done rfl
  | chunk piece => exact (c.commit_alike _).bind_eq fun _ => .done rfl
  | diagnosticsRequest => exact (c.publishDiagnostics_alike now).bind fun _ _ _ => .done rfl
  | other => exact .done rfl

theorem dispatch_alike (c : Controller) (frame : Wire.Frame) (now : Nat) :
    Alike Eq (c.dispatch frame now) (c.dispatch frame now) := by
  refine (sayAll_alike _ _).bind_eq fun _ => ?_
  split
  · exact (sayAll_alike _ _).bind_eq fun _ => .done rfl
  · refine (handle_alike _ now _).bind fun x y same => ?_
    exact (sayAll_alike _ _).bind fun _ _ _ => .done same

theorem drain_alike (c : Controller) (now n : Nat) :
    Alike Eq (c.drain now n) (c.drain now n) := by
  induction n generalizing c with
  | zero => exact .done rfl
  | succ n ih =>
    refine .request rfl fun r => ?_
    cases r with
    | none => exact .done rfl
    | some frame => exact (c.dispatch_alike frame now).bind_eq fun c => ih c

theorem pollUpdate_alike (c : Controller) (now : Nat) :
    Alike Eq (c.pollUpdate now) (c.pollUpdate now) := by
  refine (c.commit_alike _).bind_eq fun c' => ?_
  split
  · exact .done rfl
  · exact .request rfl fun _ => .request rfl fun _ => .done rfl

theorem connectNetwork_alike (c : Controller) (now : Nat) :
    Alike Eq (c.connectNetwork now) (c.connectNetwork now) := by
  refine .request rfl fun connected => ?_
  split
  · exact c.goTo_alike _ _
  refine .request rfl fun failed => ?_
  split
  · exact .request rfl fun _ => c.goTo_alike _ _
  split
  · exact .request rfl fun _ => c.goTo_alike _ _
  · exact .done rfl

theorem confirmBoot_alike (c : Controller) : Alike Eq c.confirmBoot c.confirmBoot := by
  unfold confirmBoot
  split
  · refine .request rfl fun r => .request rfl fun _ => ?_
    split
    · exact .request rfl fun _ => .done rfl
    · exact .done rfl
  · exact .done rfl

theorem connectChannel_alike (c : Controller) (now : Nat) :
    Alike Eq (c.connectChannel now) (c.connectChannel now) := by
  refine .request rfl fun connected => ?_
  split
  · exact c.confirmBoot_alike.bind_eq fun c' => c'.goTo_alike _ _
  refine .request rfl fun failed => ?_
  split
  · exact .request rfl fun _ => c.goTo_alike _ _
  refine .request rfl fun network => ?_
  split
  · exact c.goTo_alike _ _
  split
  · exact .request rfl fun _ => c.goTo_alike _ _
  · exact .done rfl

theorem sense_alike (c : Controller) (now : Nat) :
    Alike Eq (c.sense now) (c.sense now) := by
  refine .request rfl fun due => ?_
  split
  · refine .request rfl fun r => ?_
    cases r with
    | ok reading => exact goTo_alike _ _ _
    | error e => exact .request rfl fun _ => .done rfl
  · exact .done rfl

theorem updateDisplay_alike (c : Controller) (now : Nat) :
    Alike Eq (c.updateDisplay now) (c.updateDisplay now) := by
  unfold updateDisplay
  split
  · exact .request rfl fun _ => .request rfl fun _ => c.goTo_alike _ _
  · exact c.goTo_alike _ _

theorem publishReading_alike (c : Controller) (now : Nat) (reading : Reading) :
    Alike Eq (c.publishReading now reading) (c.publishReading now reading) := by
  refine .publish fun r r' => ?_
  rcases r with e | ⟨⟩ <;> rcases r' with e' | ⟨⟩
  · exact .logLeft (.logRight (.told (.done rfl)))
  · exact .logLeft (.told (.done rfl))
  · exact .logRight (.told (.done rfl))
  · exact .told (.done rfl)

theorem publishData_alike (c : Controller) (now : Nat) :
    Alike Eq (c.publishData now) (c.publishData now) := by
  cases held : c.lastReading with
  | none =>
    simp only [publishData, held]
    exact c.goTo_alike _ _
  | some reading =>
    simp only [publishData, held]
    exact (c.publishReading_alike now reading).bind_eq fun _ => c.goTo_alike _ _

theorem rest_alike (c : Controller) (now : Nat) : Alike Eq (c.rest now) (c.rest now) := by
  unfold rest
  split
  · exact .request rfl fun _ => c.goTo_alike _ _
  split
  · refine .request rfl fun _ => .request rfl fun r => ?_
    cases r with
    | ok => exact .request rfl fun _ => .request rfl fun _ => c.goTo_alike _ _
    | error e =>
      exact .request rfl fun _ => .request rfl fun _ => .request rfl fun _ => c.goTo_alike _ _
  split
  · exact c.goTo_alike _ _
  · exact .done rfl

theorem applyUpdate_alike (c : Controller) (now : Nat) :
    Alike Eq (c.applyUpdate now) (c.applyUpdate now) := by
  unfold applyUpdate
  split
  · exact .done rfl
  · exact .request rfl fun _ => c.goTo_alike _ _

theorem recover_alike (c : Controller) (now : Nat) :
    Alike Eq (c.recover now) (c.recover now) := by
  unfold recover
  split
  · exact .done rfl
  split
  · exact .request rfl fun _ => .request rfl fun _ => .done rfl
  · exact .done rfl

theorem workPhase_alike (c : Controller) (now : Nat) :
    Alike Eq (c.workPhase now) (c.workPhase now) := by
  unfold workPhase
  cases c.lifecycle.current with
  | boot => exact c.goTo_alike _ _
  | connectingNetwork => exact c.connectNetwork_alike now
  | connectingControlChannel => exact c.connectChannel_alike now
  | sensing => exact c.sense_alike now
  | updatingDisplay => exact c.updateDisplay_alike now
  | publishingData => exact c.publishData_alike now
  | sleeping => exact c.rest_alike now
  | applyingUpdate => exact c.applyUpdate_alike now
  | error => exact c.recover_alike now

theorem emitIf_alike (p : Prop) [Decidable p] (event : Event) :
    let d : Dialogue Unit := if p then request (.emit event) else pure ()
    Alike Eq d d := by
  intro d
  unfold d
  split
  · exact .ask rfl fun _ => .done rfl
  · exact .done rfl

theorem announceChanges_alike (before after : Controller) :
    Alike Eq (announceChanges before after) (announceChanges before after) := by
  unfold announceChanges
  by_cases moved : after.lifecycle.current ≠ before.lifecycle.current
  · rw [if_pos moved]
    exact .request rfl fun _ => emitIf_alike _ _
  · rw [if_neg moved]
    exact emitIf_alike _ _

theorem tick_alike (c : Controller) : Alike Eq c.tick c.tick := by
  refine .request rfl fun now => c.announceStart_alike.bind_eq fun before => ?_
  refine (before.trackChannel_alike now).bind_eq fun c => ?_
  refine (c.drain_alike now _).bind_eq fun c => (c.pollUpdate_alike now).bind_eq fun c => ?_
  refine .request rfl fun _ => (c.workPhase_alike now).bind_eq fun c => ?_
  exact (announceChanges_alike before c).bind_eq fun _ => .done rfl

/-- Two runs of the same controller, tick by tick, with the same faults switched in the store. -/
inductive Twins (first : Controller) :
    List (List Exchange) → Controller → List (List Exchange) → Controller → Prop where
  | none : Twins first [] first [] first
  | tick {log log' : List (List Exchange)} {c c' d d' : Controller} {x y : List Exchange}
      (before : Twins first log c log' c') (run : Runs c.tick x d) (run' : Runs c'.tick y d') :
      Twins first (log ++ [x]) d (log' ++ [y]) d'
  | fault {log log' : List (List Exchange)} {c c' : Controller}
      (before : Twins first log c log' c') (f : Store.Setting) :
      Twins first log { c with session := (c.session.take (.fault f)).session }
        log' { c' with session := (c'.session.take (.fault f)).session }

/-- Two runs of one controller in the same surroundings are in the same state after every tick and
have asked the same in each, whatever publishing came to in either of them. -/
theorem publish_results_do_not_steer {first c c' : Controller} {log log' : List (List Exchange)}
    (ports : Surroundings) (twins : Twins first log c log' c')
    (answered : ports.Answers [] log.flatten) (answered' : ports.Answers [] log'.flatten) :
    c = c' ∧ log.map muted = log'.map muted := by
  induction twins with
  | none => exact ⟨rfl, rfl⟩
  | @tick log log' c c' d d' x y before run run' ih =>
    rw [List.flatten_concat, Surroundings.answers_append] at answered answered'
    obtain ⟨rfl, same⟩ := ih answered.1 answered'.1
    have past : muted log.flatten = muted log'.flatten := by
      rw [muted, muted, List.filterMap_flatten, List.filterMap_flatten]
      exact congrArg List.flatten same
    rw [past] at answered
    obtain ⟨rfl, last⟩ := c.tick_alike.of_runs run run' answered.2 answered'.2
    simp [same, last]
  | fault before f ih =>
    obtain ⟨rfl, same⟩ := ih answered answered'
    exact ⟨rfl, same⟩

theorem unsent_reading_does_not_steer :
    let c := { initial {} { capacity := 8 } "a" (.read false) 0 with
      lifecycle := (Lifecycle.start 0).moveTo .publishingData 0, lastReading := some ⟨24, 68, 40⟩ }
    let sending (q : Request) (_ : Unit) := ((Bench.respond q {}).1, ())
    let failing (q : Request) (_ : Unit) :=
      ((Bench.respond q { channel := { failPublish := true } }).1, ())
    let told (exchanges : List Exchange) := exchanges.filterMap fun
      | ⟨.emit (.telemetryPublished ok), _⟩ => some ok
      | _ => none
    told (c.tick.exchanges sending ()) = [true] ∧ told (c.tick.exchanges failing ()) = [false] ∧
      (c.tick.run sending ()).1 = (c.tick.run failing ()).1 ∧
      (c.tick.run failing ()).1.lifecycle.current = .sleeping := by
  intro c sending failing told
  have twins := Twins.none.tick (Dialogue.runs_run sending c.tick ())
    (Dialogue.runs_run failing c.tick ())
  let ports : Surroundings := fun _ q => (Bench.respond q {}).1
  have sends (past : List Exchange) (q : Request) (u : Unit) (_ : q.isPublish = false) :
      (sending q u).1 = ports past q := rfl
  have fails (past : List Exchange) (q : Request) (u : Unit) (other : q.isPublish = false) :
      (failing q u).1 = ports past q := by
    cases q <;> first | rfl | cases other
  have answered : ports.Answers [] [c.tick.exchanges sending ()].flatten := by
    simpa using ports.answers_exchanges sends c.tick () []
  have answered' : ports.Answers [] [c.tick.exchanges failing ()].flatten := by
    simpa using ports.answers_exchanges fails c.tick () []
  have same := (publish_results_do_not_steer ports twins answered answered').1
  exact ⟨by decide +kernel, by decide +kernel, same, by decide +kernel⟩

end Controller

end DoughAnalyzer
