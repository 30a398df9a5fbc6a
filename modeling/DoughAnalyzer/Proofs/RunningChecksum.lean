import DoughAnalyzer.Proofs.Checksum

/-!
A running checksum in use. Octets come in pieces, the value is read in between, and copies are kept
and gone back to, so that the pieces fall into branches. Which of them came in on a branch, the
history alone tells, read backwards. The value is the checksum of their octets joined, and that is
what the shift register leaves, bit by bit.
-/

set_option autoImplicit false

namespace DoughAnalyzer.Checksum

/-- To lay a word over the register comes to the same, for one shift, as to let its lowest bit enter
and lay what is left of it over the result. -/
theorem shift_xor_eq (r x : BitVec 32) :
    shift (r ^^^ x) = foldBit r (x.getLsbD 0) ^^^ x >>> 1 := by
  rw [shift_eq, foldBit, BitVec.getLsbD_xor, BitVec.ushiftRight_xor_distrib]
  cases r.getLsbD 0 ^^ x.getLsbD 0
  · simp
  · simp only [if_true, BitVec.xor_assoc]
    rw [BitVec.xor_comm (x >>> 1)]

theorem foldl_foldBit_ofFn {n : Nat} {x : BitVec 32} (small : x.toNat < 2 ^ n) (r : BitVec 32) :
    (List.ofFn fun i : Fin n => x.getLsbD i).foldl foldBit r = shifts n (r ^^^ x) := by
  induction n generalizing r x with
  | zero =>
    have zero : x = 0#32 := BitVec.eq_of_toNat_eq (Nat.lt_one_iff.1 small)
    simp [zero, shifts]
  | succ n ih =>
    have half : (x >>> 1).toNat < 2 ^ n := by
      rw [BitVec.toNat_ushiftRight, Nat.shiftRight_eq_div_pow]
      omega
    have next (i : Fin n) : x.getLsbD i.succ = (x >>> 1).getLsbD i := by
      rw [BitVec.getLsbD_ushiftRight, Fin.val_succ, Nat.add_comm]
    rw [List.ofFn_succ, List.foldl_cons, shifts, shift_xor_eq, ← ih half]
    simp only [next]
    rfl

theorem foldl_foldBit_octet (r : BitVec 32) (b : UInt8) :
    (List.ofFn fun i : Fin 8 => b.toBitVec.getLsbD i).foldl foldBit r = foldOctet r b := by
  have small : (b.toBitVec.setWidth 32).toNat < 2 ^ 8 := by
    have hb := b.toBitVec.isLt
    rw [BitVec.toNat_setWidth]
    omega
  have same (i : Fin 8) : b.toBitVec.getLsbD i = (b.toBitVec.setWidth 32).getLsbD i := by
    have hi : (i : Nat) < 32 := Nat.lt_trans i.isLt (by decide)
    simp [hi]
  rw [foldOctet_eq, ← foldl_foldBit_ofFn small]
  simp only [same]

theorem foldl_foldBit_bits (r : BitVec 32) (data : Octets) :
    (bits data).foldl foldBit r = fold r data := by
  induction data generalizing r with
  | nil => rfl
  | cons b data ih =>
    calc (bits (b :: data)).foldl foldBit r
      _ = (bits data).foldl foldBit (foldOctet r b) := by
        rw [bits, List.flatMap_cons, List.foldl_append, foldl_foldBit_octet]
        rfl
      _ = fold r (b :: data) := ih _

theorem toBitVec_ofOctets (data : Octets) : (ofOctets data).toBitVec = remainder data :=
  congrArg (~~~ ·) (foldl_foldBit_bits _ data).symm

example : remainder [0x31, 0x32, 0x33, 0x34, 0x35, 0x36, 0x37, 0x38, 0x39] = 0xCBF43926#32 := by
  decide +kernel

/-- What is done with a running checksum. A copy goes by the number of those kept before it. -/
inductive Op where
  | update (data : Octets)
  | reset
  | read
  | keep
  | goBack (k : Nat)
  deriving DecidableEq, Repr

structure Branches where
  running : Checksum := start
  kept : List Checksum := []
  readings : List UInt32 := []
  deriving DecidableEq, Repr

/-- A copy stays when it is gone back to; nothing is done where none was kept. -/
def Branches.step (b : Branches) : Op → Branches
  | .update data => { b with running := b.running.update data }
  | .reset => { b with running := start }
  | .read => { b with readings := b.readings ++ [b.running.value] }
  | .keep => { b with kept := b.kept ++ [b.running] }
  | .goBack k => { b with running := b.kept.getD k b.running }

abbrev History := List Op

namespace History

def branches : History → Branches
  | [] => {}
  | op :: past => (branches past).step op

def copies (history : History) : Nat := history.count .keep

/-- The pieces on the branch that a history ends with, or on that of a copy that is sought. Of what
lies between a return and the keeping of its copy nothing counts. -/
def pieces : Option Nat → History → List Octets
  | _, [] => []
  | none, .update data :: past => pieces none past ++ [data]
  | none, .reset :: _ => []
  | none, .read :: past | none, .keep :: past => pieces none past
  | none, .goBack k :: past => pieces (if k < copies past then some k else none) past
  | some k, op :: past => pieces (if op = .keep ∧ copies past = k then none else some k) past

def readings : History → List (List Octets)
  | [] => []
  | .read :: past => readings past ++ [pieces none past]
  | .update _ :: past | .reset :: past | .keep :: past | .goBack _ :: past => readings past

theorem pieces_some (k : Nat) (op : Op) (past : History) :
    pieces (some k) (op :: past) =
      pieces (if op = .keep ∧ copies past = k then none else some k) past := by
  cases op <;> rfl

theorem pieces_some_of_ne {op : Op} (other : op ≠ .keep) (k : Nat) (past : History) :
    pieces (some k) (op :: past) = pieces (some k) past := by
  rw [pieces_some, if_neg fun h => other h.1]

theorem copies_of_ne {op : Op} (other : op ≠ .keep) (past : History) :
    copies (op :: past) = copies past :=
  List.count_cons_of_ne other

def summed (sought : Option Nat) (history : History) : Checksum :=
  start.update (pieces sought history).flatten

theorem value_summed (sought : Option Nat) (history : History) :
    (summed sought history).value = ofOctets (pieces sought history).flatten := rfl

theorem summed_update (data : Octets) (past : History) :
    summed none (.update data :: past) = (summed none past).update data := by
  simp only [summed, pieces, List.flatten_append, List.flatten_singleton, update_append]

theorem summed_some_of_ne {op : Op} (other : op ≠ .keep) (k : Nat) (past : History) :
    summed (some k) (op :: past) = summed (some k) past := by
  simp only [summed, pieces_some_of_ne other]

theorem summed_some_keep (k : Nat) (past : History) :
    summed (some k) (.keep :: past) = summed (if copies past = k then none else some k) past := by
  simp only [summed, pieces_some, true_and]

theorem summed_goBack (k : Nat) (past : History) :
    summed none (.goBack k :: past) = summed (if k < copies past then some k else none) past := rfl

/-- What runs and what is kept has taken the pieces of its own branch. -/
structure Follows (b : Branches) (history : History) : Prop where
  running : b.running = summed none history
  kept : b.kept = (List.range (copies history)).map fun k => summed (some k) history

variable {b : Branches} {past : History}

theorem Follows.kept_of_ne (h : Follows b past) {op : Op} (other : op ≠ .keep) :
    b.kept = (List.range (copies (op :: past))).map fun k => summed (some k) (op :: past) := by
  simp only [summed_some_of_ne other, copies_of_ne other]
  exact h.kept

theorem Follows.getD_kept (h : Follows b past) (k : Nat) :
    b.kept.getD k b.running = summed none (.goBack k :: past) := by
  rw [h.kept, h.running, summed_goBack]
  by_cases hk : k < copies past <;> simp [hk]

theorem Follows.kept_keep (h : Follows b past) :
    b.kept ++ [b.running] =
      (List.range (copies (.keep :: past))).map fun k => summed (some k) (.keep :: past) := by
  have more : copies (.keep :: past) = copies past + 1 := List.count_cons_self
  have last : summed (some (copies past)) (.keep :: past) = b.running := by
    rw [summed_some_keep, if_pos rfl, h.running]
  rw [more, List.range_succ, List.map_append, List.map_singleton, last, h.kept]
  congr 1
  refine List.map_congr_left fun k hk => ?_
  rw [summed_some_keep, if_neg (Nat.ne_of_gt (List.mem_range.1 hk))]

theorem Follows.step (h : Follows b past) (op : Op) : Follows (b.step op) (op :: past) := by
  cases op with
  | update data =>
    refine ⟨?_, h.kept_of_ne nofun⟩
    rw [summed_update, ← h.running]
    rfl
  | reset => exact ⟨rfl, h.kept_of_ne nofun⟩
  | read => exact ⟨h.running, h.kept_of_ne nofun⟩
  | keep => exact ⟨h.running, h.kept_keep⟩
  | goBack k => exact ⟨h.getD_kept k, h.kept_of_ne nofun⟩

theorem branches_follow (history : History) : Follows history.branches history := by
  induction history with
  | nil => exact ⟨rfl, rfl⟩
  | cons op past ih => exact ih.step op

theorem readings_follow (history : History) :
    (branches history).readings = (readings history).map fun x => ofOctets x.flatten := by
  induction history with
  | nil => rfl
  | cons op past ih =>
    cases op with
    | read =>
      change (branches past).readings ++ [(branches past).running.value] = _
      rw [ih, (branches_follow past).running, value_summed, readings, List.map_append,
        List.map_singleton]
    | update | reset | keep | goBack => exact ih

/-- Whatever was done before, the value is the checksum of the octets on the present branch, and so
are the value of each copy and each reading for theirs. That checksum is what the shift register
leaves. -/
theorem value_is_checksum_of_branch (history : History) :
    let b := history.branches
    b.running.value = ofOctets (history.pieces none).flatten ∧
      b.kept.map value =
        (List.range history.copies).map (fun k => ofOctets (history.pieces (some k)).flatten) ∧
      b.readings = history.readings.map (fun x => ofOctets x.flatten) ∧
      ∀ data, (ofOctets data).toBitVec = remainder data := by
  obtain ⟨running, kept⟩ := branches_follow history
  refine ⟨?_, ?_, readings_follow history, toBitVec_ofOctets⟩
  · rw [running, value_summed]
  · rw [kept, List.map_map]
    rfl

example :
    readings [.read, .update [4], .goBack 0, .update [3], .reset, .read, .update [2], .keep,
      .update [1]] = [[[1], [2]], [[1], [4]]] := by
  decide

end History

end DoughAnalyzer.Checksum
