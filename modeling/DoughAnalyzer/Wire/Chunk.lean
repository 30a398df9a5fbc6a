import DoughAnalyzer.Fault
import DoughAnalyzer.Wire.Frame

set_option autoImplicit false

namespace DoughAnalyzer.Wire

structure Chunk where
  index : UInt32
  declared : UInt32
  payload : Octets
  deriving DecidableEq, Repr

namespace Chunk

def decode (frame : Octets) : Except DecodeError Chunk :=
  match Octets.takeWord frame with
  | none => .error .truncated
  | some (index, rest) =>
    match Octets.takeWord rest with
    | none => .error .truncated
    | some (declared, payload) => .ok ⟨index, declared, payload⟩

/-- The frame that a sender makes of a piece: its size, modulo the word, is declared. -/
def encode (index : UInt32) (payload : Octets) : Octets :=
  Octets.ofWord index ++ Octets.ofWord (UInt32.ofNat payload.length) ++ payload

end Chunk

end DoughAnalyzer.Wire
