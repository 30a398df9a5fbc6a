import DoughAnalyzer.Checksum
import Mathlib.Algebra.Group.Nat.Defs

/-!
The register of the checksum is linear and never loses what it holds, and four octets are a word of
it. So two strings of one length that differ within four octets in a row have different checksums.
-/

set_option autoImplicit false

namespace DoughAnalyzer.Checksum

theorem shift_eq (r : BitVec 32) :
    shift r = (r >>> 1) ^^^ if r.getLsbD 0 then generator else 0#32 := by
  unfold shift
  split <;> simp

theorem shift_xor (a b : BitVec 32) : shift (a ^^^ b) = shift a ^^^ shift b := by
  simp only [shift_eq, BitVec.getLsbD_xor, BitVec.ushiftRight_xor_distrib]
  apply BitVec.eq_of_getLsbD_eq
  intro i hi
  cases a.getLsbD 0 <;> cases b.getLsbD 0 <;> simp [Bool.xor_left_comm, Bool.xor_comm]

theorem shifts_xor (n : Nat) (a b : BitVec 32) :
    shifts n (a ^^^ b) = shifts n a ^^^ shifts n b := by
  induction n generalizing a b with
  | zero => rfl
  | succ n ih => simp only [shifts, shift_xor, ih]

theorem shifts_add (m n : Nat) (r : BitVec 32) : shifts (m + n) r = shifts n (shifts m r) := by
  induction m generalizing r with
  | zero => rw [Nat.zero_add, shifts]
  | succ m ih =>
    rw [Nat.add_right_comm]
    exact ih (shift r)

theorem getLsbD_shift (r : BitVec 32) : (shift r).getLsbD 31 = r.getLsbD 0 := by
  unfold shift
  cases h : r.getLsbD 0 <;> simp [generator]

theorem eq_zero_of_shift {r : BitVec 32} (h : shift r = 0#32) : r = 0#32 := by
  have hlow : r.getLsbD 0 = false := by
    rw [← getLsbD_shift, h]
    rfl
  have hhigh : r >>> 1 = 0#32 := by
    rwa [shift, hlow, if_neg Bool.false_ne_true] at h
  apply BitVec.eq_of_getLsbD_eq
  intro i hi
  cases i with
  | zero => simpa using hlow
  | succ i =>
    have hbit := congrArg (fun x : BitVec 32 => x.getLsbD i) hhigh
    simpa [Nat.add_comm] using hbit

theorem shift_injective {a b : BitVec 32} (h : shift a = shift b) : a = b := by
  rw [← BitVec.xor_eq_zero_iff]
  apply eq_zero_of_shift
  rw [shift_xor, h, BitVec.xor_self]

theorem shifts_injective {n : Nat} {a b : BitVec 32} (h : shifts n a = shifts n b) : a = b := by
  induction n generalizing a b with
  | zero => exact h
  | succ n ih => exact shift_injective (ih h)

theorem shift_shiftLeft {r : BitVec 32} (h : r.toNat < 2 ^ 31) : shift (r <<< 1) = r := by
  have hback : r <<< 1 >>> 1 = r := by
    apply BitVec.eq_of_toNat_eq
    simp only [BitVec.toNat_ushiftRight, BitVec.toNat_shiftLeft, Nat.shiftLeft_eq,
      Nat.shiftRight_eq_div_pow]
    omega
  simp [shift, hback]

theorem shifts_shiftLeft {n : Nat} {r : BitVec 32} (h : r.toNat * 2 ^ n < 2 ^ 32) :
    shifts n (r <<< n) = r := by
  induction n with
  | zero => simp [shifts]
  | succ n ih =>
    rw [Nat.pow_succ, ← Nat.mul_assoc] at h
    have hlt : (r <<< n).toNat < 2 ^ 31 := by
      rw [BitVec.toNat_shiftLeft, Nat.shiftLeft_eq]
      exact Nat.lt_of_le_of_lt (Nat.mod_le _ _) (by omega)
    rw [shifts, BitVec.shiftLeft_add, shift_shiftLeft hlt]
    exact ih (by omega)

theorem table_get (x : BitVec 8) : table.get x.toFin = shifts 8 (x.setWidth 32) := by
  have h := Vector.getElem_ofFn (f := fun i : Fin 256 => shifts 8 (BitVec.ofNat 32 i)) x.isLt
  exact h.trans (congrArg (shifts 8) (BitVec.ofNat_toNat 32 x))

/-- The table does in one step what the shifts do in eight. -/
theorem foldOctet_eq (r : BitVec 32) (b : UInt8) :
    foldOctet r b = shifts 8 (r ^^^ b.toBitVec.setWidth 32) := by
  have hsplit : r ^^^ b.toBitVec.setWidth 32 =
      (r.setWidth 8 ^^^ b.toBitVec).setWidth 32 ^^^ (r >>> 8) <<< 8 := by
    apply BitVec.eq_of_getLsbD_eq
    intro i hi
    simp
    grind
  have hhigh : shifts 8 ((r >>> 8) <<< 8) = r >>> 8 := by
    apply shifts_shiftLeft
    have hr := r.isLt
    simp only [BitVec.toNat_ushiftRight, Nat.shiftRight_eq_div_pow]
    omega
  rw [hsplit, shifts_xor, hhigh, foldOctet, table_get, BitVec.xor_comm]

theorem foldOctet_injective {r r' : BitVec 32} {b : UInt8} (h : foldOctet r b = foldOctet r' b) :
    r = r' := by
  rw [foldOctet_eq, foldOctet_eq] at h
  exact (BitVec.xor_left_inj _).1 (shifts_injective h)

theorem fold_injective {r r' : BitVec 32} {data : Octets} (h : fold r data = fold r' data) :
    r = r' := by
  induction data generalizing r r' with
  | nil => exact h
  | cons b data ih => exact foldOctet_injective (ih h)

theorem foldOctet_shifts {n : Nat} (hn : n ≤ 24) (r : BitVec 32) (b : UInt8) :
    foldOctet (shifts n r) b = shifts (n + 8) (r ^^^ b.toBitVec.setWidth 32 <<< n) := by
  have hlt : (b.toBitVec.setWidth 32).toNat * 2 ^ n < 2 ^ 32 := by
    have hb : (b.toBitVec.setWidth 32).toNat < 2 ^ 8 := by
      have hb := b.toBitVec.isLt
      rw [BitVec.toNat_setWidth]
      omega
    calc (b.toBitVec.setWidth 32).toNat * 2 ^ n
      _ < 2 ^ 8 * 2 ^ n := Nat.mul_lt_mul_of_pos_right hb (Nat.two_pow_pos n)
      _ ≤ 2 ^ 8 * 2 ^ 24 := Nat.mul_le_mul_left _ (Nat.pow_le_pow_right (by decide) hn)
  rw [foldOctet_eq, shifts_add, shifts_xor n, shifts_shiftLeft hlt]

theorem fold_word (r : BitVec 32) (a b c d : UInt8) :
    fold r [a, b, c, d] = shifts 32 (r ^^^ (Octets.word a b c d).toBitVec) := by
  simp only [fold, List.foldl_cons, List.foldl_nil]
  rw [foldOctet_eq r a, foldOctet_shifts (by decide), foldOctet_shifts (by decide),
    foldOctet_shifts (by decide), Octets.toBitVec_word]
  simp only [BitVec.xor_assoc]

theorem eq_of_fold_eq_of_length {r : BitVec 32} {x y : Octets} (hx : x.length = 4)
    (hy : y.length = 4) (h : fold r x = fold r y) : x = y := by
  match x, hx, y, hy with
  | [a, b, c, d], _, [a', b', c', d'], _ =>
    rw [fold_word, fold_word] at h
    have hword := (BitVec.xor_right_inj _).1 (shifts_injective h)
    exact Octets.word_inj (UInt32.toBitVec_inj.1 hword)

theorem eq_of_fold_eq {r : BitVec 32} {x y : Octets} (hlength : x.length = y.length)
    (hx : x.length ≤ 4) (h : fold r x = fold r y) : x = y := by
  let zeros : Octets := List.replicate (4 - x.length) 0
  have hfold : fold r (x ++ zeros) = fold r (y ++ zeros) := by
    rw [fold_append, fold_append, h]
  have heq : x ++ zeros = y ++ zeros := by
    refine eq_of_fold_eq_of_length ?_ ?_ hfold
    · simp only [List.length_append, List.length_replicate, zeros]
      omega
    · simp only [List.length_append, List.length_replicate, zeros]
      omega
  exact List.append_cancel_right heq

theorem ofOctets_inj {x y : Octets} :
    ofOctets x = ofOctets y ↔ fold (BitVec.allOnes 32) x = fold (BitVec.allOnes 32) y := by
  simp [ofOctets, value, update, start]

/-- Two strings of one length that differ, and that only within four octets in a row. -/
structure Burst (x y : Octets) : Prop where
  length_eq : x.length = y.length
  differ : x ≠ y
  window : ∃ k, ∀ i, x[i]? ≠ y[i]? → k ≤ i ∧ i < k + 4

theorem Burst.split {x y : Octets} (h : Burst x y) :
    ∃ before u v after : Octets, x = before ++ u ++ after ∧ y = before ++ v ++ after ∧
      u.length = v.length ∧ u.length ≤ 4 ∧ u ≠ v := by
  obtain ⟨hlength, hdiffer, k, hk⟩ := h
  have hcut (z : Octets) : z = z.take k ++ (z.drop k).take 4 ++ z.drop (k + 4) := by
    rw [← List.drop_drop, List.append_assoc, List.take_append_drop, List.take_append_drop]
  have hsame (i : Nat) (hi : i < k ∨ k + 4 ≤ i) : y[i]? = x[i]? := by
    refine Decidable.byContradiction fun hne => ?_
    have hin := hk i (Ne.symm hne)
    omega
  have hbefore : y.take k = x.take k := by
    apply List.ext_getElem?
    intro i
    simp only [List.getElem?_take]
    split
    · rename_i hi
      exact hsame i (.inl hi)
    · rfl
  have hafter : y.drop (k + 4) = x.drop (k + 4) := by
    apply List.ext_getElem?
    intro i
    simp only [List.getElem?_drop]
    exact hsame _ (.inr (Nat.le_add_right _ _))
  refine ⟨x.take k, (x.drop k).take 4, (y.drop k).take 4, x.drop (k + 4), hcut x, ?_, ?_, ?_, ?_⟩
  · rw [← hbefore, ← hafter]
    exact hcut y
  · simp [hlength]
  · exact List.length_take_le ..
  · intro heq
    apply hdiffer
    rw [hcut x, hcut y, hbefore, hafter, heq]

theorem Burst.ofOctets_ne {x y : Octets} (h : Burst x y) : ofOctets x ≠ ofOctets y := by
  obtain ⟨before, u, v, after, rfl, rfl, hlength, hu, hne⟩ := h.split
  intro heq
  rw [ofOctets_inj, fold_append, fold_append, fold_append, fold_append] at heq
  exact hne (eq_of_fold_eq hlength hu (fold_injective heq))

end DoughAnalyzer.Checksum
