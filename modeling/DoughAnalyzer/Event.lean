import DoughAnalyzer.Lifecycle
import DoughAnalyzer.Update.Status

set_option autoImplicit false

namespace DoughAnalyzer

inductive Event where
  | started (phase : Phase)
  | phaseChanged (left entered : Phase)
  | statusChanged (left entered : Update.Status)
  | firmwareConfirmed
  | telemetryPublished (ok : Bool)
  deriving DecidableEq, Repr

def Event.record : Event → Console.Record
  | started phase => .info ("START | phase=" ++ phase.name)
  | phaseChanged left entered => .info ("PHASE | " ++ left.name ++ " -> " ++ entered.name)
  | statusChanged left entered => .info ("OTA   | " ++ left.label ++ " -> " ++ entered.label)
  | firmwareConfirmed => .info "OTA   | running image marked valid"
  | telemetryPublished true => .info "TELEM | published"
  | telemetryPublished false => .warn "TELEM | publish failed"

end DoughAnalyzer
