import DoughAnalyzer.Document.Outline
import DoughAnalyzer.Proofs.Document.Number

/-!
How documents may be written. `Derives` is the grammar of the values that nobody reads, nested to
any depth: they keep the syntax, but their texts need not be UTF-8 and their codes need not pair up.
A `Layout` is an object in one of its written forms, with all the white space, the spelling of its
keys and the order of its members.
-/

set_option autoImplicit false

namespace DoughAnalyzer.Document

inductive Blank where
  | space | tab | newline | carriageReturn
  deriving DecidableEq, Repr

def Blank.wire : Blank → UInt8
  | space => ascii ' '
  | tab => ascii '\t'
  | newline => ascii '\n'
  | carriageReturn => ascii '\r'

abbrev Gap := List Blank

def Gap.wire (gap : Gap) : Octets := gap.map Blank.wire

theorem isBlank_wire (b : Blank) : isBlank b.wire = true := by cases b <;> rfl

theorem Gap.dropBlanks_append (gap : Gap) (s : Octets) :
    dropBlanks (gap.wire ++ s) = dropBlanks s := by
  refine List.dropWhile_append_of_pos fun b h => ?_
  obtain ⟨blank, -, rfl⟩ := List.mem_map.1 h
  exact isBlank_wire blank

/-- What stands between the quotes of a text that nobody reads. -/
inductive Loose : Octets → Prop where
  | nil : Loose []
  | plain {b : UInt8} {rest : Octets} (visible : IsPlain b) (later : Loose rest) :
      Loose (b :: rest)
  | letter {l : Char} {rest : Octets} (means : l ∈ escapes.map Prod.fst) (later : Loose rest) :
      Loose (ascii '\\' :: ascii l :: rest)
  | code {n : Nat} {raw rest : Octets} (digits : HexCode n raw) (later : Loose rest) :
      Loose (ascii '\\' :: ascii 'u' :: (raw ++ rest))

/-- An item is a value with the white space around it, and so is what follows a member's colon. -/
inductive Part where
  | value | item | items | member | members
  deriving DecidableEq, Repr

inductive Derives : Part → Octets → Prop where
  | word {w : String} (known : w ∈ ["null", "true", "false"]) : Derives .value (octets w)
  | number (n : Numeral) : Derives .value n.wire
  | text {s : Octets} (loose : Loose s) : Derives .value (ascii '"' :: (s ++ [ascii '"']))
  | emptyArray (gap : Gap) : Derives .value (ascii '[' :: (gap.wire ++ [ascii ']']))
  | array {s : Octets} (items : Derives .items s) : Derives .value (ascii '[' :: (s ++ [ascii ']']))
  | emptyObject (gap : Gap) : Derives .value (ascii '\x7b' :: (gap.wire ++ [ascii '\x7d']))
  | object {s : Octets} (members : Derives .members s) :
      Derives .value (ascii '\x7b' :: (s ++ [ascii '\x7d']))
  | item (before after : Gap) {s : Octets} (value : Derives .value s) :
      Derives .item (before.wire ++ (s ++ after.wire))
  | lastItem {s : Octets} (item : Derives .item s) : Derives .items s
  | moreItems {s rest : Octets} (item : Derives .item s) (items : Derives .items rest) :
      Derives .items (s ++ ascii ',' :: rest)
  | member (before after : Gap) {key s : Octets} (loose : Loose key) (item : Derives .item s) :
      Derives .member
        (before.wire ++ ascii '"' :: (key ++ ascii '"' :: (after.wire ++ ascii ':' :: s)))
  | lastMember {s : Octets} (member : Derives .member s) : Derives .members s
  | moreMembers {s rest : Octets} (member : Derives .member s) (members : Derives .members rest) :
      Derives .members (s ++ ascii ',' :: rest)

theorem Loose.plains {bs rest : Octets} (plain : ∀ b ∈ bs, IsPlain b) (later : Loose rest) :
    Loose (bs ++ rest) := by
  induction bs with
  | nil => exact later
  | cons b bs ih =>
    obtain ⟨first, others⟩ := List.forall_mem_cons.1 plain
    exact .plain first (ih others)

theorem Spells.loose {c : Char} {raw rest : Octets} (h : Spells c raw) (later : Loose rest) :
    Loose (raw ++ rest) := by
  cases h with
  | plain quote backslash visible =>
    exact .plains (isPlain_of_mem quote backslash (Nat.not_lt_of_le visible)) later
  | letter means => exact .letter (List.mem_map_of_mem means) later
  | code digits => exact .code digits later
  | surrogates beyond first second =>
    rw [List.append_assoc]
    exact .code first (.code second later)

theorem Quotes.derives {s : String} {raw : Octets} (h : Quotes s raw) : Derives .value raw := by
  obtain ⟨parts, spelled, rfl⟩ := h
  refine .text ?_
  generalize s.toList = cs at spelled
  induction spelled with
  | nil => exact .nil
  | cons first later ih => exact first.loose ih

/-- A member as it is written. Its key is a text, whatever may be skipped elsewhere. -/
structure Entry where
  key : String
  value : Octets
  name : Octets
  before : Gap := []
  after : Gap := []
  ahead : Gap := []
  behind : Gap := []
  spelled : Quotes key name
  derived : Derives .value value

namespace Entry

def wire (e : Entry) : Octets :=
  e.before.wire ++ (e.name ++ (e.after.wire ++ ascii ':' ::
    (e.ahead.wire ++ (e.value ++ e.behind.wire))))

def member (e : Entry) : Member := (e.key, e.value)

def wires (e : Entry) : List Entry → Octets
  | [] => e.wire
  | next :: later => e.wire ++ ascii ',' :: next.wires later

end Entry

structure Layout where
  entries : List Entry
  before : Gap := []
  inside : Gap := []
  behind : Gap := []

namespace Layout

def members (o : Layout) : List Member := o.entries.map Entry.member

def body (o : Layout) : Octets :=
  match o.entries with
  | [] => o.inside.wire
  | e :: later => e.wires later

def wire (o : Layout) : Octets :=
  o.before.wire ++ ascii '\x7b' :: (o.body ++ ascii '\x7d' :: o.behind.wire)

end Layout

end DoughAnalyzer.Document
