import DoughAnalyzer.Octets

/-!
The CRC-32 of an octet string, taken in pieces. A register of 32 bits, all ones at first, takes one
octet at a time from a table of 256 entries; its complement is the checksum.

Beside it stands the shift register that the code is defined by, which takes one message bit at a
time. `fold_append` says that pieces may be cut anywhere.
-/

set_option autoImplicit false

namespace DoughAnalyzer

namespace Checksum

/-- The generator x^32 + x^26 + x^23 + … + 1 without its leading term. The lowest power is the top
bit. -/
def generator : BitVec 32 := 0xEDB88320#32

def shift (r : BitVec 32) : BitVec 32 :=
  if r.getLsbD 0 then (r >>> 1) ^^^ generator else r >>> 1

def shifts : Nat → BitVec 32 → BitVec 32
  | 0, r => r
  | n + 1, r => shifts n (shift r)

/-- What eight places make of each octet in the low end of an empty register. -/
def table : Vector (BitVec 32) 256 := Vector.ofFn fun i => shifts 8 (BitVec.ofNat 32 i)

def foldOctet (r : BitVec 32) (b : UInt8) : BitVec 32 :=
  (r >>> 8) ^^^ table.get (r.setWidth 8 ^^^ b.toBitVec).toFin

def fold (r : BitVec 32) (data : Octets) : BitVec 32 := data.foldl foldOctet r

theorem fold_append (r : BitVec 32) (x y : Octets) : fold r (x ++ y) = fold (fold r x) y :=
  List.foldl_append

def foldBit (r : BitVec 32) (bit : Bool) : BitVec 32 :=
  if r.getLsbD 0 ^^ bit then (r >>> 1) ^^^ generator else r >>> 1

def bits (data : Octets) : List Bool :=
  data.flatMap fun b => List.ofFn fun i : Fin 8 => b.toBitVec.getLsbD i

/-- The remainder of the message as the shift register leaves it, before and after inverted. -/
def remainder (data : Octets) : BitVec 32 := ~~~ (bits data).foldl foldBit (BitVec.allOnes 32)

end Checksum

structure Checksum where
  register : BitVec 32
  deriving DecidableEq, Repr

namespace Checksum

def start : Checksum := ⟨BitVec.allOnes 32⟩

def update (c : Checksum) (data : Octets) : Checksum := ⟨fold c.register data⟩

def value (c : Checksum) : UInt32 := ⟨~~~ c.register⟩

def ofOctets (data : Octets) : UInt32 := (start.update data).value

theorem update_append (c : Checksum) (x y : Octets) :
    c.update (x ++ y) = (c.update x).update y := by
  simp [update, fold_append]

def text (c : Checksum) : String := "RunningCrc(" ++ hexWord c.value ++ ")"

end Checksum

end DoughAnalyzer
