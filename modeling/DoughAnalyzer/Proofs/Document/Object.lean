import DoughAnalyzer.Proofs.Document.Value

set_option autoImplicit false

namespace DoughAnalyzer.Document

theorem takeMark_gap {mark : Char} {b : UInt8} (visible : isBlank b = false) (gap : Gap)
    (rest : Octets) :
    takeMark mark (gap.wire ++ b :: rest) = if b == ascii mark then some rest else none := by
  rw [takeMark, gap.dropBlanks_append, dropBlanks, List.dropWhile_cons_of_neg (by simp [visible])]

theorem takeMembers_of_member {s rest : Octets} {m : Member} (h : takeMember s = some (m, rest)) :
    takeMembers s = match takeMark ',' rest with
      | some rest => (takeMembers rest).map fun (ms, rest) => (m :: ms, rest)
      | none => (takeMark '\x7d' rest).map fun rest => ([m], rest) := by
  rw [takeMembers]
  split
  case h_1 none => cases h.symm.trans none
  case h_2 found =>
    cases h.symm.trans found
    split <;> rename_i mark <;> rw [mark]

def Entry.found (e : Entry) : Member := (e.key, e.ahead.wire ++ e.value)

theorem Quotes.head {s : String} {raw : Octets} (h : Quotes s raw) :
    ∃ rest, raw = ascii '"' :: rest := by
  obtain ⟨parts, -, rfl⟩ := h
  exact ⟨_, rfl⟩

theorem Quotes.dropBlanks_append {s : String} {raw : Octets} (h : Quotes s raw) (rest : Octets) :
    dropBlanks (raw ++ rest) = raw ++ rest := by
  obtain ⟨tail, rfl⟩ := h.head
  rfl

theorem takeMember_wire (e : Entry) {b : UInt8} (delimiter : isDelimiter b = true)
    (rest : Octets) :
    takeMember (e.wire ++ b :: rest) = some (e.found, e.behind.wire ++ b :: rest) := by
  obtain ⟨d, later, behind, next⟩ := e.behind.delimited delimiter rest
  have value := e.derived.stands e.ahead d later next
  simp only [Entry.wire, List.append_assoc, List.cons_append]
  rw [takeMember, e.before.dropBlanks_append, e.spelled.dropBlanks_append, e.spelled.reads]
  simp only
  rw [takeMark_gap rfl, if_pos (by decide), behind, ← List.append_assoc]
  exact congrArg (Option.map _) value

theorem takeMembers_wires (e : Entry) (later : List Entry) (rest : Octets) :
    takeMembers (e.wires later ++ ascii '\x7d' :: rest) =
      some ((e :: later).map Entry.found, rest) := by
  induction later generalizing e with
  | nil =>
    have last : (ascii '\x7d' == ascii ',') = false := by decide
    rw [Entry.wires, takeMembers_of_member (takeMember_wire e rfl rest), takeMark_gap rfl, last]
    exact congrArg (Option.map _) ((takeMark_gap rfl e.behind rest).trans (if_pos (by decide)))
  | cons next later ih =>
    rw [Entry.wires, List.append_assoc, List.cons_append,
      takeMembers_of_member (takeMember_wire e rfl _), takeMark_gap rfl, if_pos (by decide)]
    exact congrArg (Option.map _) (ih next)

theorem Entry.wires_head (e : Entry) (later : List Entry) :
    ∃ rest, e.wires later = e.before.wire ++ ascii '"' :: rest := by
  obtain ⟨name, quote⟩ := e.spelled.head
  cases later with
  | nil => exact ⟨_, by rw [Entry.wires, Entry.wire, quote]; rfl⟩
  | cons next later =>
    exact ⟨_, by rw [Entry.wires, Entry.wire, quote, List.append_assoc]; rfl⟩

/-- An object in any layout has the members that were written, in their order. -/
theorem outline?_wire (o : Layout) :
    outline? o.wire = some (.object (o.entries.map Entry.found)) := by
  have trailing : dropBlanks o.behind.wire = [] := by
    rw [← List.append_nil o.behind.wire, o.behind.dropBlanks_append]
    rfl
  have object : takeObject (o.body ++ ascii '\x7d' :: o.behind.wire) =
      some (.object (o.entries.map Entry.found), o.behind.wire) := by
    unfold Layout.body takeObject
    cases o.entries with
    | nil =>
      simp only
      rw [takeMark_gap rfl, if_pos (by decide)]
      rfl
    | cons e later =>
      obtain ⟨rest, quote⟩ := e.wires_head later
      have unclosed : takeMark '\x7d' (e.wires later ++ ascii '\x7d' :: o.behind.wire) = none := by
        rw [quote, List.append_assoc, List.cons_append, takeMark_gap rfl, if_neg (by decide)]
      simp only [unclosed, takeMembers_wires]
      rfl
  rw [outline?, Layout.wire, takeMark_gap rfl, if_pos (by decide)]
  simp [object, trailing]

theorem derives_natural (n : Nat) : Derives .value (octets (natural n)) :=
  Numeral.wire_ofNat n ▸ .number (.ofNat n)

theorem derives_flag (b : Bool) : Derives .value (octets (flag b)) := by
  cases b <;> exact .word (by decide)

theorem flagOf_octets (b : Bool) : flagOf (octets (flag b)) = some b := by
  cases b <;> decide +kernel

def printed (m : String × String) : String := text m.1 ++ ":" ++ m.2

def found (m : String × String) : Member := (m.1, octets m.2)

def Entry.ofPrinted (m : String × String) (derived : Derives .value (octets m.2)) : Entry where
  key := m.1
  value := octets m.2
  name := octets (text m.1)
  spelled := quotes_text m.1
  derived := derived

theorem wire_ofPrinted (m : String × String) (derived : Derives .value (octets m.2)) :
    (Entry.ofPrinted m derived).wire = octets (printed m) := by
  have colon : octets ":" = [ascii ':'] := by decide +kernel
  rw [printed, octets_append, octets_append, colon]
  simp [Entry.wire, Entry.ofPrinted, Gap.wire]

theorem wires_ofPrinted (m : String × String) (ms : List (String × String))
    (derived : Derives .value (octets m.2)) (later : ∀ n ∈ ms, Derives .value (octets n.2)) :
    (Entry.ofPrinted m derived).wires (ms.pmap Entry.ofPrinted later) =
      octets (",".intercalate ((m :: ms).map printed)) := by
  induction ms generalizing m with
  | nil => rw [List.map_singleton, String.intercalate_singleton, ← wire_ofPrinted m derived]; rfl
  | cons m' ms ih =>
    have comma : octets "," = [ascii ','] := by decide +kernel
    obtain ⟨next, others⟩ := List.forall_mem_cons.1 later
    have split : ",".intercalate ((m :: m' :: ms).map printed) =
        printed m ++ "," ++ ",".intercalate ((m' :: ms).map printed) :=
      String.intercalate_cons_cons
    rw [List.pmap_cons, Entry.wires, ih m' next others, wire_ofPrinted, split, octets_append,
      octets_append, comma, List.append_assoc]
    rfl

/-- The layout in which an object is printed. -/
def Layout.ofPrinted (members : List (String × String))
    (derived : ∀ m ∈ members, Derives .value (octets m.2)) : Layout where
  entries := members.pmap Entry.ofPrinted derived

theorem Layout.wire_ofPrinted (members : List (String × String))
    (derived : ∀ m ∈ members, Derives .value (octets m.2)) :
    (Layout.ofPrinted members derived).wire = octets (object members) := by
  have opening : octets "\x7b" = [ascii '\x7b'] := by decide +kernel
  have closing : octets "\x7d" = [ascii '\x7d'] := by decide +kernel
  have body : (Layout.ofPrinted members derived).body =
      octets (",".intercalate (members.map printed)) := by
    cases members with
    | nil =>
      have empty : octets "" = [] := by decide +kernel
      rw [List.map_nil, String.intercalate_nil, empty]
      rfl
    | cons m ms =>
      obtain ⟨first, later⟩ := List.forall_mem_cons.1 derived
      exact wires_ofPrinted m ms first later
  rw [object, octets_append, octets_append, opening, closing, Layout.wire, body]
  rfl

theorem outline?_object {members : List (String × String)}
    (derived : ∀ m ∈ members, Derives .value (octets m.2)) :
    outline? (octets (object members)) = some (.object (members.map found)) := by
  have members_found : (Layout.ofPrinted members derived).entries.map Entry.found =
      members.map found := by
    rw [Layout.ofPrinted, List.map_pmap]
    exact List.pmap_eq_map (f := found) derived
  rw [← Layout.wire_ofPrinted members derived, outline?_wire, members_found]

theorem member?_of_mem {members : List Member} (distinct : (members.map Prod.fst).Nodup)
    {m : Member} (h : m ∈ members) : member? members m.1 = some m.2 := by
  have alone : members.filter (·.1 = m.1) = [m] := by
    induction members with
    | nil => cases h
    | cons n members ih =>
      obtain ⟨absent, later⟩ := List.nodup_cons.1 distinct
      rcases List.mem_cons.1 h with rfl | h
      · have none : members.filter (·.1 = m.1) = [] := List.filter_eq_nil_iff.2 fun n hn same =>
          absent (List.mem_map.2 ⟨n, hn, by simpa using same⟩)
        rw [List.filter_cons_of_pos (by simp), none]
      · have other : n.1 ≠ m.1 := fun same => absent (List.mem_map.2 ⟨m, h, same.symm⟩)
        rw [List.filter_cons_of_neg (by simpa using other), ih later h]
  rw [member?, alone]

theorem fields_object {members : List Member} (distinct : (members.map Prod.fst).Nodup) :
    Outline.fields (members.map Prod.fst) (.object members) = some (members.map Prod.snd) := by
  have each : ∀ part ⊆ members,
      (part.map Prod.fst).mapM (member? members) = some (part.map Prod.snd) := by
    intro part subset
    induction part with
    | nil => rfl
    | cons m rest ih =>
      obtain ⟨first, later⟩ := List.cons_subset.1 subset
      rw [List.map_cons, List.mapM_cons, member?_of_mem distinct first, ih later]
      rfl
  exact each members (List.Subset.refl _)

/-- An object printed from distinct keys and one value for each gives these values back. -/
theorem outline?_fields {keys values : List String} (distinct : keys.Nodup)
    (length : keys.length = values.length) (derived : ∀ raw ∈ values, Derives .value (octets raw)) :
    (outline? (octets (object (keys.zip values)))).bind (Outline.fields keys) =
      some (values.map octets) := by
  have names : ((keys.zip values).map found).map Prod.fst = keys := by
    rw [List.map_map]
    exact List.map_fst_zip (Nat.le_of_eq length)
  have raws : ((keys.zip values).map found).map Prod.snd = values.map octets := by
    have snd : (keys.zip values).map Prod.snd = values :=
      List.map_snd_zip (Nat.le_of_eq length.symm)
    rw [List.map_map, ← congrArg (List.map octets) snd, List.map_map]
    rfl
  have fields := fields_object (names.symm ▸ distinct)
  rw [names, raws] at fields
  rw [outline?_object fun m hm => derived m.2 (List.of_mem_zip hm).2, Option.bind_some, fields]

end DoughAnalyzer.Document
