/-!
# Notes

The lines that operations leave for the people who run them.
-/

namespace SinkKeeper

/-- How much a note matters. -/
inductive Level
  | debug
  | info
  | warning
  | error
deriving DecidableEq, Repr

def Level.name : Level → String
  | .debug => "DEBUG"
  | .info => "INFO"
  | .warning => "WARNING"
  | .error => "ERROR"

/-- One line. -/
structure Note where
  level : Level
  text : String
deriving DecidableEq, Repr

end SinkKeeper
