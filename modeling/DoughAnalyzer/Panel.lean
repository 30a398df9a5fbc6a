import DoughAnalyzer.Console
import DoughAnalyzer.Decimal.Fixed
import DoughAnalyzer.Reading

set_option autoImplicit false

namespace DoughAnalyzer

structure Panel where
  frames : Nat
  last : Option (Reading × Nat)

namespace Panel

def empty : Panel := ⟨0, none⟩

def render (p : Panel) (reading : Reading) (percent : Nat) : Panel :=
  ⟨p.frames + 1, some (reading, percent)⟩

def record (reading : Reading) (percent : Nat) : Console.Record :=
  .info ("DISPLAY | " ++ Decimal.fixed 1 reading.temperature ++ "\u00b0C "
    ++ Decimal.fixed 0 reading.humidity ++ "%RH rise=" ++ Decimal.fixed 1 reading.rise
    ++ "% bat=" ++ toString percent ++ "%")

end Panel

end DoughAnalyzer
