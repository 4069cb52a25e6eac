import LispEditor.Refusal

set_option autoImplicit false
set_option relaxedAutoImplicit false

/-!
# The log
-/

namespace LispEditor

/-- How much a record matters. -/
inductive LogLevel where
  | debug
  | info
  deriving DecidableEq, Repr

/-- A line of the log. -/
structure LogRecord where
  level : LogLevel
  text : String
  deriving DecidableEq, Repr

def LogLevel.name : LogLevel → String
  | debug => "DEBUG"
  | info => "INFO"

def LogRecord.line (r : LogRecord) : String :=
  r.level.name ++ ": " ++ r.text

def Refusal.log (r : Refusal) : List LogRecord :=
  (r.note?.map (LogRecord.mk .debug)).toList

end LispEditor
