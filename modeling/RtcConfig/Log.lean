/-! # Log records

A log record is a level and a line of text. A construction that leaves records returns them
beside its result, so a construction that fails leaves none.
-/

namespace RtcConfig

inductive LogLevel where
  | debug
  | info
  | warn
  deriving DecidableEq, Repr

def LogLevel.name : LogLevel → String
  | .debug => "DEBUG"
  | .info => "INFO"
  | .warn => "WARN"

structure LogRecord where
  level : LogLevel
  text : String
  deriving DecidableEq, Repr

def LogRecord.line (r : LogRecord) : String := r.level.name ++ " " ++ r.text

/-- A value and the records left while it was made, oldest first. -/
structure Logged (α : Type) where
  value : α
  records : List LogRecord

end RtcConfig
