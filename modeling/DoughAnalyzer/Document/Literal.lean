import DoughAnalyzer.Document.Scan

set_option autoImplicit false

namespace DoughAnalyzer.Document

def hexDigit? (b : UInt8) : Option Nat :=
  if isDigit b then some (b.toNat - 48)
  else if ascii 'a' ≤ b && b ≤ ascii 'f' then some (b.toNat - 87)
  else if ascii 'A' ≤ b && b ≤ ascii 'F' then some (b.toNat - 55)
  else none

def escapeLetter? (b : UInt8) : Option UInt8 :=
  if b == ascii '"' || b == ascii '\\' || b == ascii '/' then some b
  else if b == ascii 'b' then some 0x08
  else if b == ascii 'f' then some 0x0c
  else if b == ascii 'n' then some 0x0a
  else if b == ascii 'r' then some 0x0d
  else if b == ascii 't' then some 0x09
  else none

def isHighSurrogate (code : Nat) : Bool := 0xD800 ≤ code && code < 0xDC00

def isLowSurrogate (code : Nat) : Bool := 0xDC00 ≤ code && code < 0xE000

def joinSurrogates (high low : Nat) : Nat := 0x10000 + (high - 0xD800) * 0x400 + (low - 0xDC00)

def encodePoint (code : Nat) : Octets := String.utf8EncodeChar (Char.ofNat code)

/-- Where the reader stands in a text. Behind a high surrogate only its partner may follow. -/
inductive Spot where
  | plain
  | escape
  | hex (left code : Nat)
  | partner (high : Nat)
  | partnerLetter (high : Nat)
  | partnerHex (high left code : Nat)
  deriving DecidableEq, Repr

/-- Reads up to the closing quote. What was read is gathered backwards. -/
def readText : Spot → Octets → Octets → Option (Octets × Octets)
  | _, _, [] => none
  | .plain, acc, b :: rest =>
    if b == ascii '"' then some (acc.reverse, rest)
    else if b == ascii '\\' then readText .escape acc rest
    else if b < 0x20 then none
    else readText .plain (b :: acc) rest
  | .escape, acc, b :: rest =>
    if b == ascii 'u' then readText (.hex 4 0) acc rest
    else match escapeLetter? b with
      | some c => readText .plain (c :: acc) rest
      | none => none
  | .hex left code, acc, b :: rest =>
    match hexDigit? b with
    | none => none
    | some d =>
      let code := code * 16 + d
      if 1 < left then readText (.hex (left - 1) code) acc rest
      else if isHighSurrogate code then readText (.partner code) acc rest
      else if isLowSurrogate code then none
      else readText .plain ((encodePoint code).reverse ++ acc) rest
  | .partner high, acc, b :: rest =>
    if b == ascii '\\' then readText (.partnerLetter high) acc rest else none
  | .partnerLetter high, acc, b :: rest =>
    if b == ascii 'u' then readText (.partnerHex high 4 0) acc rest else none
  | .partnerHex high left code, acc, b :: rest =>
    match hexDigit? b with
    | none => none
    | some d =>
      let code := code * 16 + d
      if 1 < left then readText (.partnerHex high (left - 1) code) acc rest
      else if isLowSurrogate code then
        readText .plain ((encodePoint (joinSurrogates high code)).reverse ++ acc) rest
      else none

theorem length_readText_lt (spot : Spot) (acc s octets rest : Octets)
    (h : readText spot acc s = some (octets, rest)) : rest.length < s.length := by
  fun_induction readText spot acc s <;> simp_all <;> omega

def takeText (s : Octets) : Option (String × Octets) :=
  match s with
  | [] => none
  | b :: rest =>
    if b == ascii '"' then
      match readText .plain [] rest with
      | none => none
      | some (octets, rest) => (String.fromUTF8? octets.toByteArray).map (·, rest)
    else none

theorem length_takeText_lt {s rest : Octets} {t : String} (h : takeText s = some (t, rest)) :
    rest.length < s.length := by
  unfold takeText at h
  split at h
  · simp at h
  · split at h
    · split at h
      · simp at h
      · rename_i hr
        have := length_readText_lt _ _ _ _ _ hr
        simp only [Option.map_eq_some_iff, Prod.mk.injEq] at h
        obtain ⟨_, _, _, he⟩ := h
        simp only [List.length_cons, ← he]; omega
    · simp at h

def textOf (raw : Octets) : Option String :=
  match takeText (dropBlanks raw) with
  | some (t, []) => some t
  | _ => none

def digitsValue (digits : Octets) : Nat := digits.foldl (fun n b => 10 * n + (b.toNat - 48)) 0

/-- A value that is a number without sign, point, exponent or leading zero. -/
def naturalOf (raw : Octets) : Option Nat :=
  match dropBlanks raw with
  | [] => none
  | b :: rest =>
    if isDigit b && rest.all isDigit && (b != ascii '0' || rest.isEmpty) then
      some (digitsValue (b :: rest))
    else none

def boundedOf (bits : Nat) (raw : Octets) : Option Nat :=
  match naturalOf raw with
  | some n => if n < Nat.pow 2 bits then some n else none
  | none => none

def wordOf (raw : Octets) : Option UInt32 := (boundedOf 32 raw).map UInt32.ofNat

def octetOf (raw : Octets) : Option UInt8 := (boundedOf 8 raw).map UInt8.ofNat

def flagOf (raw : Octets) : Option Bool :=
  let raw := dropBlanks raw
  if raw == "true".toUTF8.toList then some true
  else if raw == "false".toUTF8.toList then some false
  else none

end DoughAnalyzer.Document
