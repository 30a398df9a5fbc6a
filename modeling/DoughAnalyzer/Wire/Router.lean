import DoughAnalyzer.Console
import DoughAnalyzer.Wire.Announcement
import DoughAnalyzer.Wire.Chunk
import DoughAnalyzer.Wire.Topics

set_option autoImplicit false

namespace DoughAnalyzer.Wire

inductive Message where
  | announcement (a : Announcement)
  | chunk (c : Chunk)
  | diagnosticsRequest
  | other
  deriving DecidableEq, Repr

/-- The count of messages wraps around. -/
structure Router where
  topics : Topics
  count : UInt32
  deriving DecidableEq, Repr

namespace Router

def ofTopics (topics : Topics) : Router := ⟨topics, 0⟩

/-- Every message is logged up to this count, and every fiftieth one after. -/
def loggedFirst : UInt32 := 10

def loggedEvery : UInt32 := 50

def classify (topics : Topics) (topic : String) (payload : Octets) : Except DecodeError Message :=
  if topic = topics.updateChunk then (Chunk.decode payload).map .chunk
  else if topic = topics.updateStart then (Announcement.decode payload).map .announcement
  else if topic = topics.diagnosticsRequest then .ok .diagnosticsRequest
  else .ok .other

def counted (r : Router) : Router := { r with count := r.count + 1 }

def countLog (r : Router) (topic : String) (payload : Octets) : Console.Log :=
  if r.count ≤ loggedFirst ∨ r.count % loggedEvery = 0 then
    [.info ("mqtt: message #" ++ toString r.count.toNat ++ " topic=" ++ topic ++ " len="
      ++ toString payload.length)]
  else []

def refusalLog (topic : String) : Except DecodeError Message → Console.Log
  | .error e => [.warn ("mqtt: dropping frame on " ++ topic ++ ": " ++ e.message)]
  | .ok _ => []

def route (r : Router) (topic : String) (payload : Octets) :
    Router × Except DecodeError Message × Console.Log :=
  let r := r.counted
  let message := classify r.topics topic payload
  (r, message, r.countLog topic payload ++ refusalLog topic message)

end Router

end DoughAnalyzer.Wire
