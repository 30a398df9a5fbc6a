import DoughAnalyzer.Document.Print
import DoughAnalyzer.Update.Error

set_option autoImplicit false

namespace DoughAnalyzer.Update

/-- Progress is in percent. -/
inductive Notice where
  | started
  | downloading (progress : Nat)
  | resumed (progress : Nat)
  | applying
  | complete
  | error (reason : UpdateError) (progress : Nat)
  deriving DecidableEq, Repr

namespace Notice

def progress : Notice → Nat
  | started => 0
  | downloading p | resumed p | error _ p => p
  | applying | complete => 100

def status : Notice → String
  | started => "started"
  | downloading _ | resumed _ => "downloading"
  | applying => "applying"
  | complete => "complete"
  | error _ _ => "error"

def extra : Notice → List (String × String)
  | resumed _ => [("resumed", Document.flag true)]
  | error reason _ => [("message", Document.text reason.reason)]
  | started | downloading _ | applying | complete => []

def document (n : Notice) : String :=
  Document.object
    (("status", Document.text n.status) :: ("progress", Document.natural n.progress) :: n.extra)

end Notice

end DoughAnalyzer.Update
