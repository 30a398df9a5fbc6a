import DoughAnalyzer.Document.Print
import DoughAnalyzer.Lifecycle
import DoughAnalyzer.Reading

set_option autoImplicit false

namespace DoughAnalyzer

structure Telemetry where
  id : String
  uptime : Nat
  reading : Reading

/-- The radio link as a report shows it: without a signal it counts as down, at strength zero. -/
structure LinkReport where
  connected : Bool
  rssi : Int
  deriving DecidableEq, Repr

structure Diagnostics where
  id : String
  uptime : Nat
  freeHeap : Nat
  phase : Phase
  link : LinkReport
  reading : Option Reading

def Reading.members (r : Reading) : List (String × String) :=
  [("temperature", Document.real r.temperature), ("humidity", Document.real r.humidity),
    ("rise", Document.real r.rise)]

/-- Uptime counts whole seconds. -/
def Telemetry.of (id : String) (now : Nat) (reading : Reading) : Telemetry :=
  ⟨id, now / 1000, reading⟩

def Telemetry.document (t : Telemetry) : String :=
  Document.object
    (("analyzerId", Document.text t.id) :: ("uptime", Document.natural t.uptime) ::
      t.reading.members)

def LinkReport.of (rssi : Option Int) : LinkReport := ⟨rssi.isSome, rssi.getD 0⟩

def Diagnostics.of (id : String) (now freeHeap : Nat) (phase : Phase) (rssi : Option Int)
    (reading : Option Reading) : Diagnostics :=
  ⟨id, now / 1000, freeHeap, phase, LinkReport.of rssi, reading⟩

def Diagnostics.document (d : Diagnostics) : String :=
  Document.object
    [("analyzerId", Document.text d.id), ("uptime", Document.natural d.uptime),
      ("freeHeap", Document.natural d.freeHeap), ("state", Document.text d.phase.name),
      ("wifi", Document.object
        [("connected", Document.flag d.link.connected), ("rssi", Document.integer d.link.rssi)]),
      ("sensors", match d.reading with
        | some r => Document.object r.members
        | none => Document.null)]

end DoughAnalyzer
