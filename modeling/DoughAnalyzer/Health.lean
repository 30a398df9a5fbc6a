import DoughAnalyzer.Console
import DoughAnalyzer.Update.Status

set_option autoImplicit false

namespace DoughAnalyzer

def healthInterval : Nat := 60000

structure Health where
  uptime : Nat
  cycles : Nat
  heapFree : Nat
  heapLeast : Nat
  rssi : Option Int
  status : Update.Status
  progress : Nat
  deriving DecidableEq, Repr

def signalText : Option Int → String
  | some dbm => "Some(" ++ toString dbm ++ ")"
  | none => "None"

namespace Health

/-- A quarter of a kilobyte is lost per minute; minutes are counted in a 32-bit word. -/
def heapAfter (uptime : Nat) : Nat := 204800 - uptime / 60 % UInt32.size * 256

def collect (uptime cycles : Nat) (rssi : Option Int) (status : Update.Status) (progress : Nat) :
    Health :=
  let free := heapAfter uptime
  ⟨uptime, cycles, free, free - free / 8, rssi, status, progress⟩

def record (h : Health) : Console.Record :=
  .info ("HEALTH | up=" ++ toString h.uptime ++ "s cycles=" ++ toString h.cycles
    ++ " heap=" ++ toString h.heapFree ++ "/" ++ toString h.heapLeast ++ "min rssi="
    ++ signalText h.rssi ++ " ota=" ++ h.status.label ++ "@" ++ toString h.progress ++ "%")

/-- The last line before a reset: the reason, if it is a text, and where the update stood. -/
def postMortem (reason : Option String) (status : Update.Status) : Console.Record :=
  .error ("PANIC: " ++ reason.getD "unknown panic" ++ " (ota=" ++ status.word ++ ")")

end Health

end DoughAnalyzer
