import DoughAnalyzer.Proofs.Document.Text

set_option autoImplicit false

namespace DoughAnalyzer.Document

theorem exists_of_isDigit {d : UInt8} (h : isDigit d = true) :
    ∃ k < 10, d = UInt8.ofNat (48 + k) := by
  simp only [isDigit, Bool.and_eq_true, decide_eq_true_eq, UInt8.le_iff_toNat_le] at h
  have least : (ascii '0').toNat = 48 := rfl
  have most : (ascii '9').toNat = 57 := rfl
  refine ⟨d.toNat - 48, by omega, ?_⟩
  rw [Nat.add_sub_cancel' (by omega), UInt8.ofNat_toNat]

theorem not_isBlank_of_isDigit {d : UInt8} (h : isDigit d = true) : isBlank d = false := by
  have all : ∀ k < 10, isBlank (UInt8.ofNat (48 + k)) = false := by decide
  obtain ⟨k, hk, rfl⟩ := exists_of_isDigit h
  exact all k hk

/-- A number without sign, point, exponent or leading zero. -/
structure IsNatural (d : UInt8) (digits : Octets) : Prop where
  first : isDigit d = true
  later : ∀ b ∈ digits, isDigit b = true
  leading : d ≠ ascii '0' ∨ digits = []

theorem IsNatural.naturalOf_eq {d : UInt8} {digits : Octets} (h : IsNatural d digits) :
    naturalOf (d :: digits) = some (digitsValue (d :: digits)) := by
  have visible : dropBlanks (d :: digits) = d :: digits := by
    rw [dropBlanks, List.dropWhile_cons_of_neg (by simp [not_isBlank_of_isDigit h.first])]
  have later : digits.all isDigit = true := List.all_eq_true.2 h.later
  have leading : (d != ascii '0' || digits.isEmpty) = true := by
    rcases h.leading with nonzero | rfl
    · simp [nonzero]
    · simp
  simp [naturalOf, visible, h.first, later, leading]

theorem octets_digitChar {d : Nat} (h : d < 10) :
    octets (String.singleton (Nat.digitChar d)) = [UInt8.ofNat (48 + d)] := by
  have all : ∀ d < 10, encode [Nat.digitChar d] = [UInt8.ofNat (48 + d)] := by decide
  rw [octets_eq, String.toList_singleton]
  exact all d h

theorem octets_natural (n : Nat) :
    ∃ d digits, octets (natural n) = d :: digits ∧ IsNatural d digits ∧
      (n ≠ 0 → d ≠ ascii '0') ∧ digitsValue (d :: digits) = n := by
  have digit : ∀ k < 10, isDigit (UInt8.ofNat (48 + k)) = true ∧
      (k ≠ 0 → UInt8.ofNat (48 + k) ≠ ascii '0') ∧ (UInt8.ofNat (48 + k)).toNat - 48 = k := by
    decide
  induction n using Nat.strongRecOn with
  | ind n ih =>
    by_cases small : n < 10
    · obtain ⟨isDigit, nonzero, value⟩ := digit n small
      refine ⟨UInt8.ofNat (48 + n), [], ?_, ⟨isDigit, by simp, .inr rfl⟩, nonzero, ?_⟩
      · exact (congrArg octets (Nat.repr_of_lt small)).trans (octets_digitChar small)
      · simpa [digitsValue] using value
    · obtain ⟨isDigit, -, value⟩ := digit (n % 10) (Nat.mod_lt n (by decide))
      obtain ⟨d, digits, printed, rest, nonzero, hvalue⟩ := ih (n / 10) (by omega)
      have leading := nonzero (by omega)
      refine ⟨d, digits ++ [UInt8.ofNat (48 + n % 10)], ?_, ⟨rest.first, ?_, .inl leading⟩,
        fun _ => leading, ?_⟩
      · have split : natural n = natural (n / 10) ++ String.singleton (Nat.digitChar (n % 10)) :=
          Nat.repr_of_ge (Nat.le_of_not_lt small)
        rw [split, octets_append, printed, octets_digitChar (Nat.mod_lt n (by decide))]
        rfl
      · exact List.forall_mem_append.2 ⟨rest.later, by simpa using isDigit⟩
      · rw [← List.cons_append, digitsValue, List.foldl_append, ← digitsValue, hvalue]
        simp only [List.foldl_cons, List.foldl_nil, value]
        omega

theorem naturalOf_octets (n : Nat) : naturalOf (octets (natural n)) = some n := by
  obtain ⟨d, digits, printed, isNatural, -, value⟩ := octets_natural n
  rw [printed, isNatural.naturalOf_eq, value]

theorem wordOf_octets (w : UInt32) : wordOf (octets (natural w.toNat)) = some w := by
  have fits : w.toNat < Nat.pow 2 32 := w.toNat_lt
  rw [wordOf, boundedOf, naturalOf_octets]
  simp [fits]

theorem octetOf_octets (b : UInt8) : octetOf (octets (natural b.toNat)) = some b := by
  have fits : b.toNat < Nat.pow 2 8 := b.toNat_lt
  rw [octetOf, boundedOf, naturalOf_octets]
  simp [fits]

def digit (d : Fin 10) : UInt8 := ascii (Nat.digitChar d)

structure Digits where
  first : Fin 10
  later : List (Fin 10) := []

def Digits.wire (ds : Digits) : Octets := digit ds.first :: ds.later.map digit

structure Exponent where
  mark : Char
  sign : List Char := []
  digits : Digits
  mark_mem : mark ∈ ['e', 'E'] := by decide
  sign_mem : sign ∈ [[], ['+'], ['-']] := by decide

def Exponent.wire (e : Exponent) : Octets := ascii e.mark :: (e.sign.map ascii ++ e.digits.wire)

/-- A number as a document may hold it. Its whole part has no leading zero. -/
structure Numeral where
  negative : Bool := false
  whole : Nat
  fraction : Option Digits := none
  exponent : Option Exponent := none

namespace Numeral

def wire (n : Numeral) : Octets :=
  (if n.negative then [ascii '-'] else []) ++ (octets (natural n.whole) ++
    (n.fraction.elim [] (fun ds => ascii '.' :: ds.wire) ++ n.exponent.elim [] Exponent.wire))

def ofNat (n : Nat) : Numeral where
  whole := n

/-- A number that a word can hold, with nothing but its digits. -/
structure IsWord (n : Numeral) : Prop where
  positive : n.negative = false
  no_fraction : n.fraction = none
  no_exponent : n.exponent = none
  fits : n.whole < Nat.pow 2 32

theorem wire_ofNat (n : Nat) : (ofNat n).wire = octets (natural n) := by
  simp [wire, ofNat]

theorem wire_head (n : Numeral) :
    ∃ b rest, n.wire = b :: rest ∧ isBlank b = false := by
  obtain ⟨d, digits, printed, isNatural, -⟩ := octets_natural n.whole
  rw [wire, printed]
  cases n.negative with
  | true => exact ⟨_, _, rfl, rfl⟩
  | false => exact ⟨d, _, rfl, not_isBlank_of_isDigit isNatural.first⟩

theorem dropBlanks_wire (n : Numeral) : dropBlanks n.wire = n.wire := by
  obtain ⟨b, rest, wire, visible⟩ := n.wire_head
  rw [wire, dropBlanks, List.dropWhile_cons_of_neg (by simp [visible])]

end Numeral

theorem naturalOf_eq_none {raw : Octets} {b : UInt8} (h : b ∈ dropBlanks raw)
    (other : isDigit b = false) : naturalOf raw = none := by
  unfold naturalOf
  cases stripped : dropBlanks raw with
  | nil => rfl
  | cons d rest =>
    rw [stripped] at h
    have mixed : (isDigit d && rest.all isDigit) = false := by
      rw [← List.all_cons, List.all_eq_false]
      exact ⟨b, h, by simp [other]⟩
    simp [mixed]

theorem wordOf_wire {n : Numeral} (misfit : ¬ n.IsWord) : wordOf n.wire = none := by
  have refused {b : UInt8} (h : b ∈ n.wire) (other : isDigit b = false) : wordOf n.wire = none := by
    rw [wordOf, boundedOf, naturalOf_eq_none (n.dropBlanks_wire.symm ▸ h) other]
    rfl
  by_cases sign : n.negative = true
  · exact refused (b := ascii '-') (by simp [Numeral.wire, sign]) rfl
  cases fraction : n.fraction with
  | some ds => exact refused (b := ascii '.') (by simp [Numeral.wire, fraction]) rfl
  | none =>
    cases exponent : n.exponent with
    | some e =>
      have letter : isDigit (ascii e.mark) = false := by
        have marks := e.mark_mem
        simp only [List.mem_cons, List.not_mem_nil, or_false] at marks
        rcases marks with mark | mark <;> rw [mark] <;> decide
      refine refused (b := ascii e.mark) ?_ letter
      simp [Numeral.wire, exponent, Exponent.wire]
    | none =>
      have large : ¬ n.whole < Nat.pow 2 32 := fun fits =>
        misfit ⟨by simpa using sign, fraction, exponent, fits⟩
      have digits : n.wire = octets (natural n.whole) := by
        simp [Numeral.wire, sign, fraction, exponent]
      rw [digits, wordOf, boundedOf, naturalOf_octets]
      simp only [if_neg large]
      rfl

end DoughAnalyzer.Document
