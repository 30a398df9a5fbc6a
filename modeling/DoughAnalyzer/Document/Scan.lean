import DoughAnalyzer.Octets

/-!
Finding the end of a JSON value without reading it: a pushdown machine that takes one octet at a
time, with the open containers as its stack. It checks the grammar of values, and no more. Strings
may hold any octets but controls, four hexadecimal digits after `\u` need not name a character,
numbers may be of any size, and containers may nest to any depth.
-/

set_option autoImplicit false

namespace DoughAnalyzer.Document

def ascii (c : Char) : UInt8 := UInt8.ofNat c.toNat

def isBlank (b : UInt8) : Bool :=
  b == ascii ' ' || b == ascii '\t' || b == ascii '\n' || b == ascii '\r'

def isDigit (b : UInt8) : Bool := ascii '0' ≤ b && b ≤ ascii '9'

def isHexDigit (b : UInt8) : Bool :=
  isDigit b || (ascii 'a' ≤ b && b ≤ ascii 'f') || (ascii 'A' ≤ b && b ≤ ascii 'F')

def isEscapeLetter (b : UInt8) : Bool :=
  b == ascii '"' || b == ascii '\\' || b == ascii '/' || b == ascii 'b' || b == ascii 'f' ||
    b == ascii 'n' || b == ascii 'r' || b == ascii 't'

def dropBlanks (s : Octets) : Octets := s.dropWhile isBlank

theorem length_dropBlanks_le (s : Octets) : (dropBlanks s).length ≤ s.length :=
  (List.dropWhile_sublist _).length_le

namespace Scan

inductive Container where
  | array | object
  deriving DecidableEq, Repr

/-- What the machine stands in or waits for. A text is a member's key or a value. -/
inductive Mode where
  | value
  | firstItem
  | firstKey
  | key
  | colon
  | after
  | text (isKey : Bool)
  | escape (isKey : Bool)
  | hex (isKey : Bool) (left : Nat)
  | word (rest : Octets)
  | minus
  | zero
  | digits
  | point
  | fraction
  | exponent
  | exponentSign
  | power
  deriving DecidableEq, Repr

abbrev Stack := List Container

def open? (stack : Stack) (b : UInt8) : Option (Stack × Mode) :=
  if b == ascii '"' then some (stack, .text false)
  else if b == ascii '\x7b' then some (.object :: stack, .firstKey)
  else if b == ascii '[' then some (.array :: stack, .firstItem)
  else if b == ascii '-' then some (stack, .minus)
  else if b == ascii '0' then some (stack, .zero)
  else if isDigit b then some (stack, .digits)
  else if b == ascii 't' then some (stack, .word [ascii 'r', ascii 'u', ascii 'e'])
  else if b == ascii 'f' then some (stack, .word [ascii 'a', ascii 'l', ascii 's', ascii 'e'])
  else if b == ascii 'n' then some (stack, .word [ascii 'u', ascii 'l', ascii 'l'])
  else none

/-- After a value that stands in a container. -/
def close? (stack : Stack) (b : UInt8) : Option (Stack × Mode) :=
  match stack with
  | [] => none
  | .array :: rest =>
    if b == ascii ',' then some (stack, .value)
    else if b == ascii ']' then some (rest, .after)
    else none
  | .object :: rest =>
    if b == ascii ',' then some (stack, .key)
    else if b == ascii '\x7d' then some (rest, .after)
    else none

def textStep (isKey : Bool) (b : UInt8) : Option Mode :=
  if b == ascii '"' then some (if isKey then .colon else .after)
  else if b == ascii '\\' then some (.escape isKey)
  else if b < 0x20 then none
  else some (.text isKey)

def escapeStep (isKey : Bool) (b : UInt8) : Option Mode :=
  if b == ascii 'u' then some (.hex isKey 4)
  else if isEscapeLetter b then some (.text isKey)
  else none

def numberStep (mode : Mode) (b : UInt8) : Option Mode :=
  let exponentMark := b == ascii 'e' || b == ascii 'E'
  match mode with
  | .minus => if b == ascii '0' then some .zero else if isDigit b then some .digits else none
  | .zero =>
    if b == ascii '.' then some .point else if exponentMark then some .exponent else none
  | .digits =>
    if isDigit b then some .digits
    else if b == ascii '.' then some .point
    else if exponentMark then some .exponent
    else none
  | .point => if isDigit b then some .fraction else none
  | .fraction =>
    if isDigit b then some .fraction else if exponentMark then some .exponent else none
  | .exponent =>
    if b == ascii '+' || b == ascii '-' then some .exponentSign
    else if isDigit b then some .power
    else none
  | .exponentSign | .power => if isDigit b then some .power else none
  | _ => none

/-- A number ends at the first octet with which it cannot go on, where it is complete; a zero must
not be followed by a digit. -/
def endsNumber (mode : Mode) (b : UInt8) : Bool :=
  match mode with
  | .zero => (numberStep mode b).isNone && !isDigit b
  | .digits | .fraction | .power => (numberStep mode b).isNone
  | _ => false

def step (stack : Stack) (mode : Mode) (b : UInt8) : Option (Stack × Mode) :=
  match mode with
  | .value => if isBlank b then some (stack, .value) else open? stack b
  | .firstItem =>
    if isBlank b then some (stack, .firstItem)
    else if b == ascii ']' then close? stack b
    else open? stack b
  | .firstKey =>
    if isBlank b then some (stack, .firstKey)
    else if b == ascii '"' then some (stack, .text true)
    else if b == ascii '\x7d' then close? stack b
    else none
  | .key =>
    if isBlank b then some (stack, .key)
    else if b == ascii '"' then some (stack, .text true)
    else none
  | .colon =>
    if isBlank b then some (stack, .colon)
    else if b == ascii ':' then some (stack, .value)
    else none
  | .after => if isBlank b then some (stack, .after) else close? stack b
  | .text isKey => (textStep isKey b).map (stack, ·)
  | .escape isKey => (escapeStep isKey b).map (stack, ·)
  | .hex isKey left =>
    if isHexDigit b then some (stack, if left ≤ 1 then .text isKey else .hex isKey (left - 1))
    else none
  | .word [] => none
  | .word (c :: rest) =>
    if b == c then some (stack, if rest.isEmpty then .after else .word rest) else none
  | mode => (numberStep mode b).map (stack, ·)

/-- Runs the machine to the end of the outermost value and gives what is left. Whatever may follow
a value in a document is not looked at, so a document that ends here is refused. -/
def run (stack : Stack) (mode : Mode) : Octets → Option Octets
  | [] => if stack.isEmpty && mode == .after then some [] else none
  | b :: rest =>
    let mode := if endsNumber mode b then .after else mode
    if stack.isEmpty && mode == .after then some (b :: rest)
    else match step stack mode b with
      | none => none
      | some (stack, mode) => run stack mode rest

theorem length_run_le (stack : Stack) (mode : Mode) (s rest : Octets)
    (h : run stack mode s = some rest) : rest.length ≤ s.length := by
  induction s generalizing stack mode with
  | nil => simp [run] at h; simp [h.2]
  | cons b t ih =>
    simp only [run] at h
    generalize (if endsNumber mode b = true then Mode.after else mode) = m at h
    split at h
    · simp only [Option.some.injEq] at h; simp [← h]
    · split at h
      · exact absurd h (by simp)
      · have := ih _ _ h
        simp only [List.length_cons]; omega

end Scan

def takeValue (s : Octets) : Option (Octets × Octets) :=
  (Scan.run [] .value s).map fun rest => (s.take (s.length - rest.length), rest)

theorem length_takeValue_le {s raw rest : Octets} (h : takeValue s = some (raw, rest)) :
    rest.length ≤ s.length := by
  simp only [takeValue, Option.map_eq_some_iff] at h
  obtain ⟨r, hr, he⟩ := h
  simp only [Prod.mk.injEq] at he
  exact he.2 ▸ Scan.length_run_le _ _ _ _ hr

end DoughAnalyzer.Document
