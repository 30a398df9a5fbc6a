import DoughAnalyzer.Identity

set_option autoImplicit false

namespace DoughAnalyzer.Identity

/-- A name that some provisioned text is accepted as. -/
def Accepted (id : String) : Prop := ∃ raw, parse raw = .ok id

theorem parse_eq_ok_iff (raw id : String) :
    parse raw = .ok id ↔ refusal? raw = none ∧ raw = id := by
  unfold parse
  split <;> simp_all

theorem refusal?_eq_none_iff (raw : String) :
    refusal? raw = none ↔
      raw ≠ "" ∧ (∀ c ∈ raw.toList, isLevelChar c = true) ∧ raw.utf8ByteSize ≤ capacity := by
  unfold refusal? Text.fits
  by_cases hempty : raw = "" <;> grind [String.isEmpty_iff, List.all_eq_true]

theorem accepted_iff (id : String) : Accepted id ↔ parse id = .ok id := by
  constructor
  · rintro ⟨raw, h⟩
    obtain ⟨-, rfl⟩ := (parse_eq_ok_iff raw id).1 h
    exact h
  · exact fun h => ⟨id, h⟩

theorem Accepted.size_le {id : String} (h : Accepted id) : id.utf8ByteSize ≤ 40 := by
  rw [accepted_iff, parse_eq_ok_iff, refusal?_eq_none_iff] at h
  exact h.1.2.2

theorem utf8ByteSize_ofList_of_level (cs : List Char) (h : ∀ c ∈ cs, isLevelChar c = true) :
    (String.ofList cs).utf8ByteSize = cs.length := by
  induction cs with
  | nil => rfl
  | cons c cs ih =>
    have hc := h c (by simp)
    simp only [isLevelChar, Bool.and_eq_true, decide_eq_true_eq] at hc
    have hsize : c.utf8Size = 1 := by
      rw [Char.utf8Size_eq_one_iff, UInt32.le_iff_toNat_le]
      exact Nat.le_trans hc.1.1.1.2 (by decide)
    have hrest := ih fun d hd => h d (by simp [hd])
    rw [String.ofList_cons, String.utf8ByteSize_append, String.utf8ByteSize_singleton, hsize, hrest,
      List.length_cons, Nat.add_comm]

theorem isLevelChar_of_mem_hexPair {b : UInt8} {c : Char} (h : c ∈ hexPair b) :
    isLevelChar c = true := by
  have digit : ∀ n < 16, isLevelChar (Nat.digitChar n).toUpper = true := by decide
  have hb := b.toNat_lt
  simp only [hexPair, List.mem_cons, List.not_mem_nil, or_false] at h
  rcases h with rfl | rfl
  · exact digit _ (by omega)
  · exact digit _ (by omega)

theorem ofMac_chars (mac : Mac) :
    (ofMac mac).toList.length = 9 ∧ ∀ c ∈ (ofMac mac).toList, isLevelChar c = true := by
  rw [ofMac, String.toList_ofList]
  constructor
  · simp [hexPair, List.length_flatMap, List.map_const']
  · intro c hc
    rcases List.mem_append.1 hc with hprefix | hdigits
    · have hbb : "BB-".toList = ['B', 'B', '-'] := rfl
      simp only [hbb, List.mem_cons, List.not_mem_nil, or_false] at hprefix
      rcases hprefix with rfl | rfl | rfl <;> rfl
    · obtain ⟨b, -, hb⟩ := List.mem_flatMap.1 hdigits
      exact isLevelChar_of_mem_hexPair hb

theorem utf8ByteSize_ofMac (mac : Mac) : (ofMac mac).utf8ByteSize = 9 := by
  obtain ⟨hlength, hlevel⟩ := ofMac_chars mac
  have h := utf8ByteSize_ofList_of_level _ hlevel
  rwa [String.ofList_toList, hlength] at h

theorem parse_ofMac (mac : Mac) : parse (ofMac mac) = .ok (ofMac mac) := by
  have hsize := utf8ByteSize_ofMac mac
  refine (parse_eq_ok_iff _ _).2 ⟨(refusal?_eq_none_iff _).2 ⟨?_, (ofMac_chars mac).2, ?_⟩, rfl⟩
  · intro hempty
    rw [hempty] at hsize
    cases hsize
  · rw [hsize]
    decide

/-- A device is always addressed by an accepted name. -/
theorem accepted_resolve (provisioned : Option String) (mac : Mac) :
    Accepted (resolve provisioned mac) := by
  unfold resolve
  split
  case h_1 id h =>
    obtain ⟨raw, -, hraw⟩ := Option.map_eq_some_iff.1 h
    exact ⟨raw, hraw⟩
  case h_2 => exact ⟨_, parse_ofMac mac⟩
  case h_3 => exact ⟨_, parse_ofMac mac⟩

end DoughAnalyzer.Identity
