import DoughAnalyzer.Decimal.Binary32

/-!
The fewest decimal digits that read back as a given binary value, and their layout.

A decimal reads back as a value when it lies between the midpoints to the value's two neighbours;
a midpoint itself counts when the significand is even. On each grid of a given number of digits the
two points around the value are tried, so the first grid with a hit has the fewest digits.
-/

set_option autoImplicit false

namespace DoughAnalyzer.Decimal

structure Scaled where
  digits : Nat
  place : Int
  deriving DecidableEq, Repr

/-- The value `num / den` and the bounds `low / den` and `high / den` of what rounds to it. -/
structure Interval where
  num : Nat
  low : Nat
  high : Nat
  den : Nat
  closed : Bool
  deriving DecidableEq, Repr

/-- The reals that round to a positive value. Below a power of two the gap is half as wide. -/
def interval (significand : Nat) (exponent : Int) : Interval :=
  let scale := Nat.pow 2 exponent.toNat
  let narrow := significand = hiddenBit ∧ -149 < exponent
  { num := 4 * significand * scale
    low := (4 * significand - if narrow then 1 else 2) * scale
    high := (4 * significand + 2) * scale
    den := 4 * Nat.pow 2 (-exponent).toNat
    closed := significand % 2 = 0 }

def Interval.holds (i : Interval) (d : Scaled) : Bool :=
  let x := d.digits * Nat.pow 10 d.place.toNat * i.den
  let low := i.low * Nat.pow 10 (-d.place).toNat
  let high := i.high * Nat.pow 10 (-d.place).toNat
  if i.closed then low ≤ x && x ≤ high else low < x && x < high

def deficit (den : Nat) : Nat → Nat → Nat
  | 0, _ => 0
  | fuel + 1, num => if den ≤ num then 0 else deficit den fuel (num * 10) + 1

/-- The power of ten that the first digit counts. No value needs more than 45 places. -/
def Interval.leading (i : Interval) : Int :=
  if i.den ≤ i.num then ((Nat.toDigits 10 (i.num / i.den)).length : Int) - 1
  else -(deficit i.den 64 i.num : Int)

def Interval.onGrid (i : Interval) (place : Int) : Option Scaled :=
  let num := i.num * Nat.pow 10 (-place).toNat
  let den := i.den * Nat.pow 10 place.toNat
  let below : Scaled := ⟨num / den, place⟩
  let above : Scaled := ⟨num / den + 1, place⟩
  match i.holds below, i.holds above with
  | true, true => some ⟨roundDiv num den, place⟩
  | true, false => some below
  | false, true => some above
  | false, false => none

def Scaled.reduce : Nat → Scaled → Scaled
  | 0, d => d
  | fuel + 1, d =>
    if d.digits ≠ 0 ∧ d.digits % 10 = 0 then reduce fuel ⟨d.digits / 10, d.place + 1⟩ else d

/-- Nine digits always suffice. -/
def shortest (significand : Nat) (exponent : Int) : Scaled :=
  let i := interval significand exponent
  let first := i.leading
  match (List.range 9).findSome? fun n : Nat => i.onGrid (first - n) with
  | some d => d.reduce 9
  | none => ⟨0, 0⟩

/-- Which powers of ten of the first digit are written out in full. -/
structure Layout where
  least : Int
  greatest : Int
  deriving DecidableEq, Repr

def Layout.write (l : Layout) (d : Scaled) : List Char :=
  let digits := Nat.toDigits 10 d.digits
  let power : Int := d.place + digits.length - 1
  if l.least ≤ power ∧ power ≤ l.greatest then
    if 0 ≤ d.place then digits ++ List.replicate d.place.toNat '0' ++ ['.', '0']
    else if 0 ≤ power then digits.take (power.toNat + 1) ++ '.' :: digits.drop (power.toNat + 1)
    else '0' :: '.' :: List.replicate (-power - 1).toNat '0' ++ digits
  else
    let tail := digits.drop 1
    digits.take 1 ++ (if tail.isEmpty then [] else '.' :: tail) ++
      ['e', if power < 0 then '-' else '+'] ++ Nat.toDigits 10 power.natAbs

end DoughAnalyzer.Decimal
