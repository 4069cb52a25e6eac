set_option autoImplicit false
set_option relaxedAutoImplicit false

/-!
# Commands

The structural edits, as key maps and configuration files name them.
-/

namespace LispEditor

/-- A structural edit. -/
inductive Command where
  | slurpForward
  | barfForward
  deriving DecidableEq, Repr

namespace Command

def all : List Command :=
  [slurpForward, barfForward]

def id : Command → String
  | slurpForward => "slurp-forward"
  | barfForward => "barf-forward"

def label : Command → String
  | slurpForward => "Slurp Forward"
  | barfForward => "Barf Forward"

def defaultKeys : Command → List String
  | slurpForward => ["ctrl+right", "alt+right"]
  | barfForward => ["ctrl+left", "alt+left"]

end Command

/-- The complaint about a name that belongs to no command. -/
structure UnknownCommand where
  id : String
  deriving DecidableEq, Repr

def UnknownCommand.message (e : UnknownCommand) : String :=
  "unknown command: " ++ e.id

def Command.ofId (id : String) : Except UnknownCommand Command :=
  match Command.all.find? (·.id == id) with
  | some command => .ok command
  | none => .error ⟨id⟩

end LispEditor
