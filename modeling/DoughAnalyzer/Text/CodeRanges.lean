set_option autoImplicit false

namespace DoughAnalyzer.Text

abbrev CodeRanges := List (Nat × Nat)

namespace CodeRanges

def holds (ranges : CodeRanges) (code : Nat) : Bool :=
  ranges.any fun r => r.1 ≤ code && code ≤ r.2

end CodeRanges

end DoughAnalyzer.Text
