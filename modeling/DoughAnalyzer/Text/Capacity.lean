set_option autoImplicit false

namespace DoughAnalyzer.Text

def fits (capacity : Nat) (s : String) : Bool := s.utf8ByteSize ≤ capacity

/-- Appends pieces to a text until one does not fit; that one and all after it are left out. -/
def fillFrom (capacity : Nat) (s : String) : List String → String
  | [] => s
  | piece :: rest =>
    if fits capacity (s ++ piece) then fillFrom capacity (s ++ piece) rest else s

def fill (capacity : Nat) (pieces : List String) : String := fillFrom capacity "" pieces

theorem fillFrom_size_le (capacity : Nat) (s : String) (pieces : List String)
    (h : s.utf8ByteSize ≤ capacity) : (fillFrom capacity s pieces).utf8ByteSize ≤ capacity := by
  induction pieces generalizing s with
  | nil => exact h
  | cons piece rest ih =>
    unfold fillFrom
    split
    · rename_i hp
      exact ih _ (by simpa [fits] using hp)
    · exact h

theorem fill_size_le (capacity : Nat) (pieces : List String) :
    (fill capacity pieces).utf8ByteSize ≤ capacity :=
  fillFrom_size_le _ _ _ (by simp)

end DoughAnalyzer.Text
