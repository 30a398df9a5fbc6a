import DoughAnalyzer.Octets
import DoughAnalyzer.Text.Capacity

set_option autoImplicit false

namespace DoughAnalyzer.Wire

def chunkHeaderLength : Nat := 8

def maxChunkPayload : Nat := 4096

/-- A frame holds the largest chunk exactly. -/
def maxFrameLength : Nat := chunkHeaderLength + maxChunkPayload

def topicCapacity : Nat := 96

structure Frame where
  topic : String
  payload : Octets
  deriving DecidableEq, Repr

def Frame.make? (topic : String) (payload : Octets) : Option Frame :=
  if Text.fits topicCapacity topic && payload.length ≤ maxFrameLength then some ⟨topic, payload⟩
  else none

end DoughAnalyzer.Wire
