import LispEditor.Character.LowerCase
import LispEditor.Config.Bindings

set_option autoImplicit false
set_option relaxedAutoImplicit false

/-!
# Configurations
-/

namespace LispEditor

/-- What a user can choose. -/
structure Config where
  /-- How long an evaluated form stays marked, in milliseconds. -/
  flashMs : Nat
  /-- The file to open when none is named. -/
  scratchPath : Option String
  /-- What the keys do. -/
  bindings : Bindings
  deriving DecidableEq, Repr

namespace Config

def default : Config where
  flashMs := 500
  scratchPath := none
  bindings := .default

/-- The action of a key, whose letters may be capitals. -/
def actionFor? (config : Config) (key : String) : Option Action :=
  config.bindings.lookup (lowerCase key)

end Config

end LispEditor
