set_option autoImplicit false

namespace DoughAnalyzer.Decimal

/-- A finite value is its significand times two to its exponent. -/
inductive Binary32 where
  | nan
  | infinite (negative : Bool)
  | finite (negative : Bool) (significand : Nat) (exponent : Int)
  deriving DecidableEq, Repr

def hiddenBit : Nat := 8388608

def Binary32.ofBits (w : UInt32) : Binary32 :=
  let negative : Bool := w.toNat / hiddenBit / 256 = 1
  let biased : Nat := w.toNat / hiddenBit % 256
  let fraction : Nat := w.toNat % hiddenBit
  if biased = 255 then
    if fraction = 0 then .infinite negative else .nan
  else if biased = 0 then .finite negative fraction (-149)
  else .finite negative (hiddenBit + fraction) ((biased : Int) - 150)

def Binary32.ofFloat (x : Float32) : Binary32 := ofBits x.toBits

/-- The whole number nearest to a quotient; a half goes to the even neighbour. -/
def roundDiv (num den : Nat) : Nat :=
  let q := num / den
  let r := num % den
  if den < 2 * r ∨ (2 * r = den ∧ q % 2 = 1) then q + 1 else q

end DoughAnalyzer.Decimal
