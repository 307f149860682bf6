/-!
# Log lines

What the service reports while it works: warnings about adjusted requests and missing
catalog entries, and errors for operations that failed on the server side.
-/

namespace Storefront

/-- How serious a log line is. -/
inductive Level where
  | warning
  | error
deriving DecidableEq, Repr

/-- The name of a level. -/
def Level.name : Level → String
  | .warning => "WARNING"
  | .error => "ERROR"

/-- A log line: its level and text. -/
structure Note where
  level : Level
  text : String
deriving DecidableEq, Repr

/-- A warning. -/
def Note.warn (text : String) : Note := ⟨.warning, text⟩

end Storefront
