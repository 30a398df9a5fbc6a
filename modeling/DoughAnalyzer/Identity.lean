import DoughAnalyzer.Console
import DoughAnalyzer.Fault
import DoughAnalyzer.Octets
import DoughAnalyzer.Text.Capacity

set_option autoImplicit false

namespace DoughAnalyzer

abbrev Mac := Vector UInt8 6

namespace Identity

/-- A hyphenated GUID fits. -/
def capacity : Nat := 40

/-- Visible ASCII that neither separates levels nor stands for others. -/
def isLevelChar (c : Char) : Bool :=
  0x21 ≤ c.toNat && c.toNat ≤ 0x7e && c != '/' && c != '+' && c != '#'

inductive Refusal where
  | empty | notALevel | tooLong
  deriving DecidableEq, Repr

def Refusal.message : Refusal → String
  | .empty => "analyzer id is empty"
  | .notALevel => "analyzer id is not a valid topic level"
  | .tooLong => "analyzer id longer than 40 bytes"

def refusal? (raw : String) : Option Refusal :=
  if raw.isEmpty then some .empty
  else if !raw.toList.all isLevelChar then some .notALevel
  else if !Text.fits capacity raw then some .tooLong
  else none

def parse (raw : String) : Except ConfigError String :=
  match refusal? raw with
  | some r => .error (.invalid r.message)
  | none => .ok raw

def hexPair (b : UInt8) : List Char :=
  [(Nat.digitChar (b.toNat / 16)).toUpper, (Nat.digitChar (b.toNat % 16)).toUpper]

def ofMac (mac : Mac) : String :=
  String.ofList ("BB-".toList ++ (mac.toList.drop 3).flatMap hexPair)

/-- The address of a device without a factory address of its own. -/
def hostMac : Mac := #v[0x24, 0x6F, 0x28, 0x5B, 0x10, 0xD4]

def resolve (provisioned : Option String) (mac : Mac) : String :=
  match provisioned.map parse with
  | some (.ok id) => id
  | some (.error _) | none => ofMac mac

def resolveLog (provisioned : Option String) (mac : Mac) : Console.Log :=
  match provisioned.map parse with
  | some (.error e) =>
    [.warn ("device id: provisioned id rejected (" ++ e.message ++ "), using " ++ ofMac mac)]
  | some (.ok _) | none => []

end Identity

end DoughAnalyzer
