import LispEditor.Config.Basic
import LispEditor.Toml.Writer

set_option autoImplicit false
set_option relaxedAutoImplicit false

/-!
# Writing configurations
-/

namespace LispEditor

namespace Config

def writePair (key value : String) : List Char :=
  Toml.writeKey key.toList ++ [' ', '=', ' '] ++ Toml.writeString value.toList ++ ['\n']

def toToml (config : Config) : String :=
  let flash := "flash_ms = ".toList ++ (toString config.flashMs).toList ++ ['\n']
  let path := match config.scratchPath with
    | some path => writePair "scratch_path" path
    | none => []
  let bindings := config.bindings.flatMap fun (key, action) => writePair key action.name
  String.ofList (flash ++ path ++ "\n[keybindings]\n".toList ++ bindings)

end Config

end LispEditor
