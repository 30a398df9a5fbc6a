import DoughAnalyzer.Platform

set_option autoImplicit false

namespace DoughAnalyzer

structure BootCheck where
  pending : Bool
  deriving DecidableEq, Repr

namespace BootCheck

def read (pending : Bool) : BootCheck := ⟨pending⟩

def readLog (pending : Bool) : Console.Log :=
  if pending then [.info "boot: running image pending verification"] else []

/-- The check after an attempt to confirm; a failed attempt leaves it pending. -/
def confirmed (b : BootCheck) : Except PlatformError Unit → BootCheck
  | .ok () => ⟨false⟩
  | .error _ => b

def confirmRecord : Except PlatformError Unit → Console.Record
  | .ok () => .info "boot: firmware marked valid (rollback cancelled)"
  | .error e => .warn ("boot: mark valid failed: " ++ e.message)

def confirm (b : BootCheck) (p : Platform) :
    Except PlatformError Bool × BootCheck × Platform × Console.Log :=
  if b.pending then
    let (r, p) := p.markRunningValid
    (r.map fun _ => true, b.confirmed r, p, [confirmRecord r])
  else (.ok false, b, p, [])

end BootCheck

end DoughAnalyzer
