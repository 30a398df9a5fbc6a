set_option autoImplicit false

namespace DoughAnalyzer.Text

def dropTrailingZeros (digits : List Char) : List Char :=
  (digits.reverse.dropWhile (· = '0')).reverse

def thousandths (ms : Nat) : List Char :=
  let digits := Nat.toDigits 10 (ms % 1000)
  List.replicate (3 - digits.length) '0' ++ digits

def span (ms : Nat) : String :=
  if ms = 0 then "0ns"
  else if ms < 1000 then toString ms ++ "ms"
  else if ms % 1000 = 0 then toString (ms / 1000) ++ "s"
  else toString (ms / 1000) ++ "." ++ String.ofList (dropTrailingZeros (thousandths ms)) ++ "s"

end DoughAnalyzer.Text
