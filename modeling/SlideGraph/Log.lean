/-!
# Log records

What happens inside is told to authors in records of three levels. A record is a plain value that
an operation returns beside its result.
-/

namespace SlideGraph

/-- How serious a record is, the most serious level first. -/
inductive Level
  | warn
  | info
  | debug
deriving DecidableEq, Repr

namespace Level

/-- The position of a level, the most serious one first. -/
def rank : Level → Nat
  | warn => 0
  | info => 1
  | debug => 2

def name : Level → String
  | warn => "WARN"
  | info => "INFO"
  | debug => "DEBUG"

end Level

/-- A record of the log. -/
structure LogRecord where
  level : Level
  message : String
deriving DecidableEq, Repr

namespace LogRecord

/-- A warning. -/
def warn (message : String) : LogRecord := ⟨.warn, message⟩

/-- A notice. -/
def info (message : String) : LogRecord := ⟨.info, message⟩

/-- A detail. -/
def debug (message : String) : LogRecord := ⟨.debug, message⟩

/-- The line of a record in a log. -/
def line (r : LogRecord) : String := r.level.name ++ " " ++ r.message

end LogRecord

end SlideGraph
