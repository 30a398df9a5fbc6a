import DoughAnalyzer.Document.Literal

/-!
The outline of a document that is one object or one array: its members' keys, read, and its values,
found but not read. `fields` picks the values of a record out of either form.
-/

set_option autoImplicit false

namespace DoughAnalyzer.Document

abbrev Member := String × Octets

inductive Outline where
  | object (members : List Member)
  | array (items : List Octets)
  deriving DecidableEq, Repr

def takeMark (mark : Char) (s : Octets) : Option Octets :=
  match dropBlanks s with
  | [] => none
  | b :: rest => if b == ascii mark then some rest else none

theorem length_takeMark_lt {mark : Char} {s rest : Octets} (h : takeMark mark s = some rest) :
    rest.length < s.length := by
  have hd := length_dropBlanks_le s
  unfold takeMark at h
  split at h
  · simp at h
  · rename_i he
    split at h
    · simp only [Option.some.injEq] at h
      simp only [he, List.length_cons] at hd
      subst h; omega
    · simp at h

def takeMember (s : Octets) : Option (Member × Octets) :=
  match takeText (dropBlanks s) with
  | none => none
  | some (key, rest) =>
    match takeMark ':' rest with
    | none => none
    | some rest => (takeValue rest).map fun (raw, rest) => ((key, raw), rest)

theorem length_takeMember_le {s rest : Octets} {m : Member} (h : takeMember s = some (m, rest)) :
    rest.length ≤ s.length := by
  have hd := length_dropBlanks_le s
  unfold takeMember at h
  split at h
  · simp at h
  · rename_i ht
    split at h
    · simp at h
    · rename_i hm
      simp only [Option.map_eq_some_iff] at h
      obtain ⟨⟨raw, r⟩, hv, he⟩ := h
      simp only [Prod.mk.injEq] at he
      have h1 := length_takeText_lt ht
      have h2 := length_takeMark_lt hm
      have h3 := length_takeValue_le hv
      rw [← he.2]; omega

def takeMembers (s : Octets) : Option (List Member × Octets) :=
  match _ : takeMember s with
  | none => none
  | some (m, rest) =>
    match _ : takeMark ',' rest with
    | some rest => (takeMembers rest).map fun (ms, rest) => (m :: ms, rest)
    | none => (takeMark '\x7d' rest).map fun rest => ([m], rest)
termination_by s.length
decreasing_by
  have h1 := length_takeMember_le ‹_›
  have h2 := length_takeMark_lt ‹_›
  omega

def takeItems (s : Octets) : Option (List Octets × Octets) :=
  match _ : takeValue s with
  | none => none
  | some (raw, rest) =>
    match _ : takeMark ',' rest with
    | some rest => (takeItems rest).map fun (items, rest) => (raw :: items, rest)
    | none => (takeMark ']' rest).map fun rest => ([raw], rest)
termination_by s.length
decreasing_by
  have h1 := length_takeValue_le ‹_›
  have h2 := length_takeMark_lt ‹_›
  omega

def takeObject (s : Octets) : Option (Outline × Octets) :=
  match takeMark '\x7d' s with
  | some rest => some (.object [], rest)
  | none => (takeMembers s).map fun (ms, rest) => (.object ms, rest)

def takeArray (s : Octets) : Option (Outline × Octets) :=
  match takeMark ']' s with
  | some rest => some (.array [], rest)
  | none => (takeItems s).map fun (items, rest) => (.array items, rest)

def outline? (s : Octets) : Option Outline :=
  let found := match takeMark '\x7b' s with
    | some rest => takeObject rest
    | none => (takeMark '[' s).bind takeArray
  match found with
  | some (o, rest) => if (dropBlanks rest).isEmpty then some o else none
  | none => none

/-- The value under a key that occurs once. -/
def member? (members : List Member) (key : String) : Option Octets :=
  match members.filter (·.1 = key) with
  | [(_, raw)] => some raw
  | _ => none

/-- The values of a record's fields in the order of their keys: each key once among any other
members, or just the values in that order. -/
def Outline.fields (keys : List String) : Outline → Option (List Octets)
  | .object members => keys.mapM (member? members)
  | .array items => if items.length = keys.length then some items else none

end DoughAnalyzer.Document
