import Mathlib.Algebra.Group.Nat.Defs

set_option autoImplicit false

namespace DoughAnalyzer.WholeFloat

open Float.Model UnpackedFloat

/-- A number other than zero, finite ones with a mantissa and an exponent that a word can hold. -/
def Sized : UnpackedFloat → Prop
  | .infinity _ => True
  | .finite _ mantissa exponent _ => mantissa < 2 ^ 24 ∧ -149 ≤ exponent
  | .zero _ | .notANumber => False

theorem mantissa_shiftRight (m : ExtendedMantissa) (k : Nat) :
    (m >>> k).mantissa = m.mantissa / 2 ^ k := by
  induction k with
  | zero => exact (Nat.div_one _).symm
  | succ k ih =>
    change (m >>> k).shiftRightOne.mantissa = _
    rw [ExtendedMantissa.shiftRightOne, ih, Nat.div_div_eq_div_mul, Nat.pow_succ]

theorem mantissa_ofMantissaAndAccuracy (m : Nat) (a : Accuracy) :
    (ExtendedMantissa.ofMantissaAndAccuracy m a).mantissa = m := by
  rcases a with _ | order
  · rfl
  · cases order <;> rfl

theorem le_roundToNearestEven (m : Nat) (a : Accuracy) : m ≤ a.roundToNearestEven m := by
  rcases a with _ | order
  · exact Nat.le_refl m
  · cases order
    · exact Nat.le_refl m
    · exact Nat.le_add_right _ _
    · exact Nat.le_add_right _ _

theorem targetExponent_eq (m : Nat) (e : Int) :
    Format.binary32.targetExponent (totalExponent m e) = max (m.log2 + 1 + e - 24) (-149) := rfl

theorem shifted_bounds {m : Nat} {e : Int} (large : 2 ^ (-149 - e).toNat ≤ m) :
    let k := (Format.binary32.targetExponent (totalExponent m e) - e).toNat
    0 < m / 2 ^ k ∧ m / 2 ^ k < 2 ^ 24 ∧ -149 ≤ e + k := by
  intro k
  have pos : m ≠ 0 := Nat.ne_of_gt (Nat.lt_of_lt_of_le (Nat.two_pow_pos _) large)
  have log_le := Nat.log2_self_le pos
  have lt_log : m < 2 ^ (m.log2 + 1) := Nat.lt_log2_self
  have k_eq : k = max (m.log2 - 23) (-149 - e).toNat := by
    simp only [k, targetExponent_eq]
    omega
  refine ⟨Nat.div_pos ?_ (Nat.two_pow_pos _), ?_, by omega⟩
  · rcases Nat.le_total (m.log2 - 23) (-149 - e).toNat with h | h
    · rw [k_eq, Nat.max_eq_right h]
      exact large
    · rw [k_eq, Nat.max_eq_left h]
      exact Nat.le_trans (Nat.pow_le_pow_right (by decide) (Nat.sub_le _ _)) log_le
  · rw [Nat.div_lt_iff_lt_mul (Nat.two_pow_pos _), ← Nat.pow_add]
    exact Nat.lt_of_lt_of_le lt_log (Nat.pow_le_pow_right (by decide) (by omega))

/-- A mantissa is shifted twice, because the rounding between may carry it past its width. -/
theorem sized_roundWithAccuracy (s : Sign) {m : Nat} {e : Int} (a : Accuracy)
    (large : 2 ^ (-149 - e).toNat ≤ m) : Sized (roundWithAccuracy .binary32 s m e a) := by
  obtain ⟨pos, -, above⟩ := shifted_bounds large
  unfold roundWithAccuracy shiftToTargetExponent shiftToExponent
  dsimp only
  generalize he : e + _ = e' at above ⊢
  generalize hr : ExtendedMantissa.roundedMantissa _ = r
  have rounded : 0 < r := by
    rw [← hr]
    refine Nat.lt_of_lt_of_le ?_ (le_roundToNearestEven _ _)
    rw [mantissa_shiftRight, mantissa_ofMantissaAndAccuracy]
    exact pos
  have again : 2 ^ (-149 - e').toNat ≤ r := by
    have none : (-149 - e').toNat = 0 := by omega
    rw [none]
    exact rounded
  obtain ⟨pos', lt', above'⟩ := shifted_bounds again
  have kept (k : Nat) :
      (ExtendedMantissa.ofMantissaAndAccuracy r .exact >>> k).mantissa = r / 2 ^ k := by
    rw [mantissa_shiftRight, mantissa_ofMantissaAndAccuracy]
  rw [← kept] at pos' lt'
  rw [dif_neg (Nat.ne_of_gt pos')]
  exact ⟨lt', above'⟩

theorem sized_mul {f : UnpackedFloat} (h : Sized f) (s : Sign) :
    Sized (mul .binary32 f (.finite s (2 ^ 23) (-23) (Nat.two_pow_pos 23))) := by
  cases f with
  | infinity => trivial
  | notANumber | zero => exact h.elim
  | finite t m e pos =>
    refine sized_roundWithAccuracy _ _ ?_
    obtain ⟨-, above⟩ := h
    have few : (-149 - (e + -23)).toNat ≤ 23 := by omega
    exact Nat.le_trans (Nat.pow_le_pow_right (by decide) few) (Nat.le_mul_of_pos_left _ pos)

theorem sized_ofNat {n : Nat} (pos : 0 < n) : Sized (UnpackedFloat.ofNat .binary32 n) := by
  have gt : compare (n : Int) 0 = .gt := Int.compare_eq_gt.2 (Int.natCast_pos.2 pos)
  unfold UnpackedFloat.ofNat UnpackedFloat.ofInt UnpackedFloat.normalize
  simp only [gt, Int.toNat_natCast, UnpackedFloat.round, decreaseExponent]
  generalize target_eq : Format.binary32.targetExponent (totalExponent n 0) = target
  have above : -149 ≤ target := by
    rw [← target_eq, targetExponent_eq]
    omega
  have none : (-149 - (0 - ((0 - target).toNat : Int))).toNat = 0 := by omega
  refine sized_roundWithAccuracy _ _ ?_
  rw [none, Nat.shiftLeft_eq]
  exact Nat.mul_pos pos (Nat.two_pow_pos _)

theorem sized_unpack {x : BitVec Format.binary32.numBits}
    (number : unpackExponent x = -1#8 → unpackMantissa x = 0#23)
    (nonzero : unpackExponent x = 0#8 → unpackMantissa x ≠ 0#23) :
    Sized (UnpackedFloat.unpack .binary32 x) := by
  have mantissa_lt : (unpackMantissa x).toNat < 2 ^ 23 := (unpackMantissa x).isLt
  have hidden_lt : (1#1 ++ unpackMantissa x).toNat < 2 ^ 24 := (1#1 ++ unpackMantissa x).isLt
  delta UnpackedFloat.unpack
  dsimp only
  by_cases full : unpackExponent x = -1#8
  · rw [if_pos full, if_pos (number full)]
    trivial
  · rw [if_neg full]
    by_cases empty : unpackExponent x = 0#8
    · rw [if_pos empty, dif_neg (nonzero empty)]
      refine ⟨Nat.lt_trans mantissa_lt (by decide), ?_⟩
      rw [empty]
      decide
    · rw [if_neg empty]
      refine ⟨hidden_lt, ?_⟩
      have pos : (unpackExponent x).toNat ≠ 0 := fun none => empty (BitVec.eq_of_toNat_eq none)
      change -149 ≤ ((unpackExponent x).toNat : Int) - 150
      omega

theorem pack_finite (s : Sign) (m : Nat) (e : Int) (pos : 0 < m) :
    UnpackedFloat.pack .binary32 (.finite s m e pos) =
      if 2 ^ 8 ≤ (e + 127 + 23).toNat + 1 then packedInfinity .binary32 s
      else if m.log2 + 1 = 24 then
        packComponents .binary32 s (BitVec.ofNat 8 (e + 127 + 23).toNat) (BitVec.ofNat 23 m)
      else packComponents .binary32 s 0#8 (BitVec.ofNat 23 m) := rfl

/-- What a word cannot hold exactly it holds as infinite; a mantissa without its leading bit is that
of a small number, and not empty. -/
theorem sized_pack {f : UnpackedFloat} (h : Sized f) :
    Sized (UnpackedFloat.unpack .binary32 (UnpackedFloat.pack .binary32 f)) := by
  have infinite (s : Sign) :
      Sized (UnpackedFloat.unpack .binary32 (packedInfinity .binary32 s)) := by
    refine sized_unpack (fun _ => unpackMantissa_packComponents) fun empty => ?_
    rw [packedInfinity, unpackExponent_packComponents] at empty
    exact absurd empty (by decide)
  cases f with
  | notANumber | zero => exact h.elim
  | infinity s => exact infinite s
  | finite s m e pos =>
    obtain ⟨small, above⟩ := h
    rw [pack_finite]
    split
    case isTrue => exact infinite s
    case isFalse below =>
      split
      case isTrue =>
        have biased : (BitVec.ofNat 8 (e + 127 + 23).toNat).toNat = (e + 127 + 23).toNat :=
          Nat.mod_eq_of_lt (by omega)
        refine sized_unpack (fun full => ?_) (fun empty => ?_)
        · rw [unpackExponent_packComponents] at full
          have := biased.symm.trans (congrArg BitVec.toNat full)
          change _ = 255 at this
          omega
        · rw [unpackExponent_packComponents] at empty
          have := biased.symm.trans (congrArg BitVec.toNat empty)
          change _ = 0 at this
          omega
      case isFalse subnormal =>
        refine sized_unpack (fun full => ?_) (fun _ => ?_)
        · rw [unpackExponent_packComponents] at full
          exact absurd full (by decide)
        · rw [unpackMantissa_packComponents]
          intro none
          have log_lt : m.log2 < 24 := (Nat.log2_lt (Nat.ne_of_gt pos)).2 small
          have lower : m < 2 ^ 23 := (Nat.log2_lt (Nat.ne_of_gt pos)).1 (by omega)
          have gone : m % 2 ^ 23 = 0 := congrArg BitVec.toNat none
          omega

theorem beq_zero_of_sized {x : Float32} (h : Sized x.toModel.unpack) : (x == 0) = false := by
  have zero : (0 : Float32).toModel.unpack = .zero .positive := by rfl
  change x.toModel.unpack.beq (0 : Float32).toModel.unpack = false
  rw [zero]
  cases f : x.toModel.unpack with
  | infinity s => cases s <;> rfl
  | notANumber | zero => rw [f] at h; exact h.elim
  | finite s => cases s <;> rfl

theorem ofNat_beq_zero {n : Nat} (pos : 0 < n) (small : n < 2 ^ 23) :
    (Float32.ofNat n == 0) = false := by
  have one : (Float32.ofBits 1065353216).toModel.unpack =
      .finite .positive (2 ^ 23) (-23) (Nat.two_pow_pos 23) := by rfl
  have ofNat_eq : Float32.ofNat n = n.toUInt64.toFloat32 * Float32.ofBits 1065353216 :=
    dif_pos ⟨small, Nat.zero_le 10⟩
  have word : n.toUInt64.toNat = n := Nat.mod_eq_of_lt (by omega)
  refine beq_zero_of_sized ?_
  rw [ofNat_eq]
  refine sized_pack ?_
  rw [one]
  refine sized_mul (sized_pack ?_) _
  change Sized (UnpackedFloat.ofNat .binary32 n.toUInt64.toNat)
  rw [word]
  exact sized_ofNat pos

end DoughAnalyzer.WholeFloat
