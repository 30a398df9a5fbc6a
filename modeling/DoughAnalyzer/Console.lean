set_option autoImplicit false

namespace DoughAnalyzer.Console

inductive Level where
  | error | warn | info | debug
  deriving DecidableEq, Repr

def Level.name : Level → String
  | .error => "ERROR"
  | .warn => "WARN"
  | .info => "INFO"
  | .debug => "DEBUG"

structure Record where
  level : Level
  message : String
  deriving DecidableEq, Repr

namespace Record

def error (message : String) : Record := ⟨.error, message⟩
def warn (message : String) : Record := ⟨.warn, message⟩
def info (message : String) : Record := ⟨.info, message⟩
def debug (message : String) : Record := ⟨.debug, message⟩

def line (r : Record) : String := r.level.name ++ " " ++ r.message

end Record

abbrev Log := List Record

end DoughAnalyzer.Console
