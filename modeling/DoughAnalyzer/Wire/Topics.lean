import DoughAnalyzer.Text.Capacity

set_option autoImplicit false

namespace DoughAnalyzer.Wire

structure Topics where
  telemetry : String
  diagnosticsRequest : String
  diagnosticsResponse : String
  updateStart : String
  updateChunk : String
  updateStatus : String
  deriving DecidableEq, Repr

namespace Topics

def capacity : Nat := 64

/-- The pieces go in one by one, so an identity that is too long leaves a topic that ends early. -/
def topic (id leaf : String) : String := Text.fill capacity ["analyzer/", id, "/", leaf]

def ofId (id : String) : Topics where
  telemetry := topic id "telemetry"
  diagnosticsRequest := topic id "diagnostics/request"
  diagnosticsResponse := topic id "diagnostics/response"
  updateStart := topic id "ota/start"
  updateChunk := topic id "ota/chunk"
  updateStatus := topic id "ota/status"

/-- What is subscribed after every connect, in this order. -/
def subscriptions (t : Topics) : List String := [t.updateStart, t.updateChunk, t.diagnosticsRequest]

end Topics

end DoughAnalyzer.Wire
