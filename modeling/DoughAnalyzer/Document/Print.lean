import DoughAnalyzer.Decimal.Fixed
import DoughAnalyzer.Decimal.Shortest

set_option autoImplicit false

namespace DoughAnalyzer.Document

def controlEscape (c : Char) : List Char :=
  ['\\', 'u', '0', '0', Nat.digitChar (c.toNat / 16), Nat.digitChar (c.toNat % 16)]

def escape (c : Char) : List Char :=
  if c = '"' then ['\\', '"']
  else if c = '\\' then ['\\', '\\']
  else if c.toNat = 8 then ['\\', 'b']
  else if c.toNat = 9 then ['\\', 't']
  else if c.toNat = 10 then ['\\', 'n']
  else if c.toNat = 12 then ['\\', 'f']
  else if c.toNat = 13 then ['\\', 'r']
  else if c.toNat < 32 then controlEscape c
  else [c]

def text (s : String) : String := String.ofList ('"' :: s.toList.flatMap escape ++ ['"'])

def natural (n : Nat) : String := toString n

def integer (n : Int) : String := toString n

def flag (b : Bool) : String := if b then "true" else "false"

def null : String := "null"

/-- Reals are written in full from a millionth up to thirteen digits before the point. -/
def reals : Decimal.Layout := ⟨-6, 12⟩

/-- The fewest digits that read back; what is not a number is null. -/
def real (x : Float32) : String :=
  match Decimal.Binary32.ofFloat x with
  | .nan | .infinite _ => null
  | .finite negative m q =>
    let d := if m = 0 then ⟨0, 0⟩ else Decimal.shortest m q
    String.ofList (Decimal.signed negative (reals.write d))

def object (members : List (String × String)) : String :=
  "\x7b" ++ ",".intercalate (members.map fun (key, value) => text key ++ ":" ++ value) ++ "\x7d"

end DoughAnalyzer.Document
