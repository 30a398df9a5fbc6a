set_option autoImplicit false

namespace DoughAnalyzer.Update

inductive Status where
  | idle | downloading | applying | complete | rebooting | error
  deriving DecidableEq, Repr

namespace Status

def label : Status → String
  | idle => "Idle"
  | downloading => "Downloading"
  | applying => "Applying"
  | complete => "Complete"
  | rebooting => "Rebooting"
  | error => "Error"

def word : Status → String
  | idle => "idle"
  | downloading => "downloading"
  | applying => "applying"
  | complete => "complete"
  | rebooting => "rebooting"
  | error => "error"

def all : List Status := [idle, downloading, applying, complete, rebooting, error]

/-- The partition is held exactly while bytes arrive or are being verified. -/
def holdsPartition : Status → Bool
  | downloading | applying => true
  | idle | complete | rebooting | error => false

def acceptsAnnouncement : Status → Bool
  | idle | complete | error => true
  | downloading | applying | rebooting => false

end Status

end DoughAnalyzer.Update
