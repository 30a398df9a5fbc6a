import DoughAnalyzer.Event
import DoughAnalyzer.Fault
import DoughAnalyzer.Reading
import DoughAnalyzer.Wire.Frame

/-!
How the control loop meets the world: it asks, one request after the other, and goes on with the
reply. A dialogue fixes what is asked after every sequence of replies and leaves the replies open.

`Runs` relates a dialogue to every exchange that may come of it; `run` holds it against a partner
whose replies follow from a state. `runs_bind` takes the exchange of a composed dialogue apart.
-/

set_option autoImplicit false

namespace DoughAnalyzer

/-- Everything that the control loop asks of its surroundings. Times and spans count
milliseconds. -/
inductive Request where
  | clock
  | networkConnected
  | networkFailed
  | signal
  | pollNetwork (now : Nat)
  | suspendNetwork
  | resumeNetwork
  | channelConnected
  | channelFailed
  | subscribe (topic : String)
  | publish (topic payload : String)
  | nextFrame
  | sensorsDue (now : Nat)
  | collect (now : Nat)
  | render (reading : Reading) (percent : Nat)
  | safeToFlash
  | batteryPercent
  | restart
  | markRunningValid
  | freeHeap
  | sleep (span : Nat)
  | emit (event : Event)
  | log (record : Console.Record)

abbrev Request.Reply : Request → Type
  | clock | batteryPercent | freeHeap => Nat
  | networkConnected | networkFailed | channelConnected | channelFailed | sensorsDue _
  | safeToFlash => Bool
  | signal => Option Int
  | subscribe _ | publish _ _ => Except ChannelError Unit
  | nextFrame => Option Wire.Frame
  | collect _ => Except SensorError Reading
  | markRunningValid | sleep _ => Except PlatformError Unit
  | pollNetwork _ | suspendNetwork | resumeNetwork | render _ _ | restart | emit _ | log _ => Unit

structure Exchange where
  request : Request
  reply : request.Reply

/-- A course of action that asks and goes on with the reply. -/
inductive Dialogue (α : Type) where
  | done (result : α)
  | ask (request : Request) (next : request.Reply → Dialogue α)

namespace Dialogue

variable {α β σ : Type}

def bind : Dialogue α → (α → Dialogue β) → Dialogue β
  | done a, f => f a
  | ask q next, f => ask q fun r => (next r).bind f

instance : Monad Dialogue where
  pure := done
  bind := bind

def request (q : Request) : Dialogue q.Reply := ask q done

/-- The exchanges that a dialogue may consist of, each with the result it leads to. -/
inductive Runs : Dialogue α → List Exchange → α → Prop where
  | done (a : α) : Runs (done a) [] a
  | ask {q : Request} {next : q.Reply → Dialogue α} {exchanges : List Exchange} {a : α}
      (r : q.Reply) (rest : Runs (next r) exchanges a) :
      Runs (ask q next) (⟨q, r⟩ :: exchanges) a

/-- Holds a dialogue against a partner, who replies from a state and may change it. -/
def run (reply : (q : Request) → σ → q.Reply × σ) : Dialogue α → σ → α × σ
  | done a, s => (a, s)
  | ask q next, s =>
    let (r, s) := reply q s
    (next r).run reply s

def exchanges (reply : (q : Request) → σ → q.Reply × σ) : Dialogue α → σ → List Exchange
  | done _, _ => []
  | ask q next, s =>
    let (r, s) := reply q s
    ⟨q, r⟩ :: (next r).exchanges reply s

@[simp] theorem runs_done (a b : α) (exchanges : List Exchange) :
    Runs (done a) exchanges b ↔ exchanges = [] ∧ b = a := by
  constructor
  · intro h; cases h; exact ⟨rfl, rfl⟩
  · rintro ⟨rfl, rfl⟩; exact .done _

theorem runs_ask (q : Request) (next : q.Reply → Dialogue α) (exchanges : List Exchange) (a : α) :
    Runs (ask q next) exchanges a ↔
      ∃ r rest, exchanges = ⟨q, r⟩ :: rest ∧ Runs (next r) rest a := by
  constructor
  · intro h; cases h with
    | ask r rest => exact ⟨r, _, rfl, rest⟩
  · rintro ⟨r, rest, rfl, h⟩; exact .ask r h

theorem runs_pure (a b : α) (exchanges : List Exchange) :
    Runs (pure a) exchanges b ↔ exchanges = [] ∧ b = a := runs_done a b exchanges

theorem runs_request (q : Request) (exchanges : List Exchange) (r : q.Reply) :
    Runs (request q) exchanges r ↔ exchanges = [⟨q, r⟩] := by
  constructor
  · intro h
    cases h with
    | ask r rest => cases rest; rfl
  · rintro rfl
    exact .ask r (.done r)

theorem runs_request_bind (q : Request) (f : q.Reply → Dialogue β) (exchanges : List Exchange)
    (b : β) :
    Runs (request q >>= f) exchanges b ↔
      ∃ r rest, exchanges = ⟨q, r⟩ :: rest ∧ Runs (f r) rest b := runs_ask q f exchanges b

theorem runs_bind (d : Dialogue α) (f : α → Dialogue β) (exchanges : List Exchange) (b : β) :
    Runs (d >>= f) exchanges b ↔
      ∃ first a rest, exchanges = first ++ rest ∧ Runs d first a ∧ Runs (f a) rest b := by
  change Runs (d.bind f) exchanges b ↔ _
  induction d generalizing exchanges with
  | done a =>
    constructor
    · intro h; exact ⟨[], a, exchanges, rfl, .done a, h⟩
    · rintro ⟨first, a', rest, rfl, h, hr⟩
      cases h; exact hr
  | ask q next ih =>
    rw [bind, runs_ask]
    constructor
    · rintro ⟨r, tail, rfl, h⟩
      obtain ⟨first, a, rest, rfl, hf, hr⟩ := (ih r tail).1 h
      exact ⟨⟨q, r⟩ :: first, a, rest, rfl, .ask r hf, hr⟩
    · rintro ⟨first, a, rest, rfl, h, hr⟩
      cases h with
      | ask r hf => exact ⟨r, _, rfl, (ih r _).2 ⟨_, a, rest, rfl, hf, hr⟩⟩

theorem runs_run (reply : (q : Request) → σ → q.Reply × σ) (d : Dialogue α) (s : σ) :
    Runs d (d.exchanges reply s) (d.run reply s).1 := by
  induction d generalizing s with
  | done a => exact .done a
  | ask q next ih => exact .ask _ (ih _ _)

end Dialogue

end DoughAnalyzer
