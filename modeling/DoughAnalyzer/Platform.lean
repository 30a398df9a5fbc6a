import DoughAnalyzer.Console
import DoughAnalyzer.Fault

set_option autoImplicit false

namespace DoughAnalyzer

/-- `sleeps` holds the lengths of the sleeps in milliseconds, the first one first. -/
structure Platform where
  pending : Bool := false
  failMarkValid : Bool := false
  freeHeap : Nat := 180000
  restarts : Nat := 0
  confirmations : Nat := 0
  sleeps : List Nat := []
  deriving DecidableEq, Repr

namespace Platform

def afterUpdate : Platform where
  pending := true

def restart (p : Platform) : Platform × Console.Log :=
  ({ p with restarts := p.restarts + 1 }, [.info "platform(sim): restart requested"])

def markRunningValid (p : Platform) : Except PlatformError Unit × Platform :=
  if p.failMarkValid then (.error .markValidFailed, p)
  else (.ok (), { p with pending := false, confirmations := p.confirmations + 1 })

def sleep (p : Platform) (span : Nat) : Platform := { p with sleeps := p.sleeps ++ [span] }

end Platform

end DoughAnalyzer
