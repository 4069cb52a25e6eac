import LispEditor.Command

set_option autoImplicit false
set_option relaxedAutoImplicit false

/-!
# Actions

What a key can be bound to.
-/

namespace LispEditor

/-- Something that a key does: a structural edit, or a service of the editor. -/
inductive Action where
  | slurpForward
  | barfForward
  | evalLastForm
  | save
  | quit
  deriving DecidableEq, Repr

namespace Action

def all : List Action :=
  [slurpForward, barfForward, evalLastForm, save, quit]

def name : Action → String
  | slurpForward => "slurp-forward"
  | barfForward => "barf-forward"
  | evalLastForm => "eval-last-form"
  | save => "save"
  | quit => "quit"

def ofName? (name : String) : Option Action :=
  all.find? (·.name == name)

def command? : Action → Option Command
  | slurpForward => some .slurpForward
  | barfForward => some .barfForward
  | evalLastForm => none
  | save => none
  | quit => none

def ofCommand : Command → Action
  | .slurpForward => slurpForward
  | .barfForward => barfForward

end Action

end LispEditor
