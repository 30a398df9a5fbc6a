import DoughAnalyzer.Console
import DoughAnalyzer.Wire.Frame

/-!
The bounded queue of received messages, and the state of the connection that fills it.
-/

set_option autoImplicit false

namespace DoughAnalyzer

structure Inbox where
  frames : List Wire.Frame := []
  connected : Bool := false
  fatal : Bool := false
  deriving DecidableEq, Repr

namespace Inbox

def depth : Nat := 4

/-- Queues a message. One that fits no frame, or finds the queue full, is dropped. -/
def push (i : Inbox) (topic : String) (payload : Octets) : Bool × Inbox × Console.Log :=
  match Wire.Frame.make? topic payload with
  | none =>
    (false, i,
      [.warn ("mqtt: dropping oversized message on " ++ topic ++ " (" ++ toString payload.length
        ++ " bytes)")])
  | some frame =>
    if i.frames.length < depth then (true, { i with frames := i.frames ++ [frame] }, [])
    else (false, i, [.warn ("mqtt: inbox full, dropping message on " ++ topic)])

def pop (i : Inbox) : Option Wire.Frame × Inbox :=
  match i.frames with
  | [] => (none, i)
  | frame :: rest => (some frame, { i with frames := rest })

def pending (i : Inbox) : Nat := i.frames.length

end Inbox

end DoughAnalyzer
