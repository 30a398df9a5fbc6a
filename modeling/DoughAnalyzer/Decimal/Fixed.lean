import DoughAnalyzer.Decimal.Binary32

set_option autoImplicit false

namespace DoughAnalyzer.Decimal

def placePoint (places units : Nat) : List Char :=
  let digits := Nat.toDigits 10 units
  let digits := List.replicate (places + 1 - digits.length) '0' ++ digits
  let whole := digits.take (digits.length - places)
  if places = 0 then whole else whole ++ '.' :: digits.drop (digits.length - places)

def signed (negative : Bool) (text : List Char) : List Char :=
  if negative then '-' :: text else text

/-- The units in the last place that a finite value rounds to. -/
def unitsOf (places significand : Nat) (exponent : Int) : Nat :=
  roundDiv (significand * Nat.pow 2 exponent.toNat * Nat.pow 10 places)
    (Nat.pow 2 (-exponent).toNat)

def Binary32.fixed (places : Nat) : Binary32 → List Char
  | .nan => ['N', 'a', 'N']
  | .infinite negative => signed negative ['i', 'n', 'f']
  | .finite negative m q => signed negative (placePoint places (unitsOf places m q))

def fixed (places : Nat) (x : Float32) : String :=
  String.ofList ((Binary32.ofFloat x).fixed places)

end DoughAnalyzer.Decimal
