set_option autoImplicit false

namespace DoughAnalyzer

/-- What travels on the wire and what flash holds. -/
abbrev Octets := List UInt8

namespace Octets

/-- The four octets of a word, least significant first. -/
def ofWord (w : UInt32) : Octets :=
  [w.toUInt8, (w >>> 8).toUInt8, (w >>> 16).toUInt8, (w >>> 24).toUInt8]

def word (a b c d : UInt8) : UInt32 :=
  a.toUInt32 ||| (b.toUInt32 <<< 8) ||| (c.toUInt32 <<< 16) ||| (d.toUInt32 <<< 24)

def takeWord : Octets → Option (UInt32 × Octets)
  | a :: b :: c :: d :: rest => some (word a b c d, rest)
  | _ => none

@[simp] theorem length_ofWord (w : UInt32) : (ofWord w).length = 4 := rfl

theorem takeWord_eq_none_iff (s : Octets) : takeWord s = none ↔ s.length < 4 := by
  unfold takeWord
  split
  · simp
  · rename_i h
    match s, h with
    | [], _ | [_], _ | [_, _], _ | [_, _, _], _ => simp
    | a :: b :: c :: d :: rest, h => exact absurd rfl (h a b c d rest)

theorem toBitVec_word (a b c d : UInt8) :
    (word a b c d).toBitVec =
      a.toBitVec.setWidth 32 ^^^ b.toBitVec.setWidth 32 <<< 8 ^^^ c.toBitVec.setWidth 32 <<< 16 ^^^
        d.toBitVec.setWidth 32 <<< 24 := by
  simp only [word, UInt32.toBitVec_or, UInt32.toBitVec_shiftLeft, UInt8.toBitVec_toUInt32]
  apply BitVec.eq_of_getLsbD_eq
  intro i hi
  simp
  grind

theorem ofWord_word (a b c d : UInt8) : ofWord (word a b c d) = [a, b, c, d] := by
  simp only [ofWord, List.cons.injEq, and_true, ← UInt8.toBitVec_inj, UInt32.toBitVec_toUInt8,
    UInt32.toBitVec_shiftRight, toBitVec_word]
  refine ⟨?_, ?_, ?_, ?_⟩ <;> apply BitVec.eq_of_getLsbD_eq <;> intro i hi <;> simp
  all_goals grind

theorem word_inj {a b c d a' b' c' d' : UInt8} (h : word a b c d = word a' b' c' d') :
    [a, b, c, d] = [a', b', c', d'] := by
  rw [← ofWord_word, h, ofWord_word]

theorem takeWord_ofWord (w : UInt32) (rest : Octets) :
    takeWord (ofWord w ++ rest) = some (w, rest) := by
  have hw : word w.toUInt8 (w >>> 8).toUInt8 (w >>> 16).toUInt8 (w >>> 24).toUInt8 = w := by
    simp only [← UInt32.toBitVec_inj, toBitVec_word, UInt32.toBitVec_toUInt8,
      UInt32.toBitVec_shiftRight]
    apply BitVec.eq_of_getLsbD_eq
    intro i hi
    simp
    grind
  simp only [ofWord, List.cons_append, List.nil_append, takeWord, hw]

end Octets

/-- A word in eight lower-case hexadecimal digits. -/
def hexWord (w : UInt32) : String :=
  let digits := Nat.toDigits 16 w.toNat
  String.ofList (List.replicate (8 - digits.length) '0' ++ digits)

end DoughAnalyzer
