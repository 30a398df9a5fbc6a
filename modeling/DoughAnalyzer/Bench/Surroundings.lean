import DoughAnalyzer.Battery
import DoughAnalyzer.Controller.Tick
import DoughAnalyzer.Inbox
import DoughAnalyzer.Link.Station
import DoughAnalyzer.Panel
import DoughAnalyzer.Sensing.Hub

set_option autoImplicit false

namespace DoughAnalyzer.Bench

structure FixedNetwork where
  connected : Bool := true
  failed : Bool := false
  signal : Option Int := some (-58)
  polls : Nat := 0
  suspends : Nat := 0
  resumes : Nat := 0
  deriving DecidableEq, Repr

inductive Network where
  | fixed (n : FixedNetwork)
  | station (s : Link.Station)

namespace Network

def isConnected : Network → Bool
  | fixed n => n.connected
  | station s => s.isConnected

def hasFailed : Network → Bool
  | fixed n => n.failed
  | station s => s.hasFailed

def signal : Network → Option Int
  | fixed n => n.signal
  | station s => s.rssi

def poll (now : Nat) : Network → Network × Console.Log
  | fixed n => (fixed { n with polls := n.polls + 1 }, [])
  | station s => ((s.poll now).map station id)

def suspend : Network → Network × Console.Log
  | fixed n => (fixed { n with suspends := n.suspends + 1 }, [])
  | station s => (s.suspend.map station id)

def resume : Network → Network × Console.Log
  | fixed n => (fixed { n with resumes := n.resumes + 1 }, [])
  | station s => (s.resume.map station id)

end Network

inductive Mailbox where
  | fixed (connected failed : Bool) (frames : List Wire.Frame)
  | inbox (i : Inbox)
  deriving DecidableEq, Repr

namespace Mailbox

def isConnected : Mailbox → Bool
  | fixed connected _ _ => connected
  | inbox i => i.connected

def hasFailed : Mailbox → Bool
  | fixed _ failed _ => failed
  | inbox i => i.fatal

def pending : Mailbox → Nat
  | fixed _ _ frames => frames.length
  | inbox i => i.pending

def deliver (topic : String) (payload : Octets) : Mailbox → Bool × Mailbox × Console.Log
  | fixed connected failed frames =>
    match Wire.Frame.make? topic payload with
    | some frame => (true, fixed connected failed (frames ++ [frame]), [])
    | none => (false, fixed connected failed frames, [])
  | inbox i =>
    let (accepted, i, log) := i.push topic payload
    (accepted, inbox i, log)

def next : Mailbox → Option Wire.Frame × Mailbox
  | fixed connected failed [] => (none, fixed connected failed [])
  | fixed connected failed (frame :: rest) => (some frame, fixed connected failed rest)
  | inbox i => i.pop.map id inbox

def setConnected (on : Bool) : Mailbox → Mailbox
  | fixed _ failed frames => fixed on failed frames
  | inbox i => inbox { i with connected := on }

/-- The inbox never recovers from a fatal failure. -/
def setFailed (on : Bool) : Mailbox → Mailbox
  | fixed connected _ frames => fixed connected on frames
  | inbox i => inbox { i with fatal := i.fatal || on }

end Mailbox

/-- A control channel whose publishing can be made to fail, and its subscribing for one ending. -/
structure Channel where
  mailbox : Mailbox := .fixed true false []
  failPublish : Bool := false
  failSubscribe : Option String := none

structure FixedSensors where
  due : Bool := true
  outcome : Except SensorError Reading := .ok ⟨24, 68, 40⟩
  calls : Nat := 0

inductive Sensors where
  | fixed (s : FixedSensors)
  | hub (h : Sensing.Hub)

namespace Sensors

def isDue (now : Nat) : Sensors → Bool
  | fixed s => s.due
  | hub h => h.isDue now

def collect (now : Nat) : Sensors → Except SensorError Reading × Sensors × Console.Log
  | fixed s => (s.outcome, fixed { s with calls := s.calls + 1 }, [])
  | hub h =>
    let (r, h, log) := h.collect now
    (r, hub h, log)

end Sensors

inductive Power where
  | fixed (percent : Nat) (safe : Bool)
  | gauge (g : Battery.Gauge)
  deriving DecidableEq, Repr

namespace Power

def percent : Power → Nat
  | fixed percent _ => percent
  | gauge g => g.percent

def isSafe : Power → Bool
  | fixed _ safe => safe
  | gauge g => g.isSafe

def poll (now : Nat) : Power → Power × Console.Log
  | fixed percent safe => (fixed percent safe, [])
  | gauge g => (g.poll now).map gauge id

end Power

end DoughAnalyzer.Bench
