import LispEditor.Config.Storage
import LispEditor.Editor.Basic

set_option autoImplicit false
set_option relaxedAutoImplicit false

/-!
# Launching the editor

The command line names one file, or none if the configuration has a scratch file.
-/

namespace LispEditor

/-- Why the editor does not start. -/
inductive LaunchError where
  /-- The configuration cannot be loaded. -/
  | config (e : Config.LoadError)
  /-- The command line names no file, or too many. -/
  | usage (program configPath : String)
  /-- The file cannot be read. -/
  | file (e : EditorError)

def LaunchError.report : LaunchError → String
  | config e => "Error: Failed to load config file: " ++ e.message ++ "\n"
  | usage program configPath =>
      "Usage: " ++ program ++ " <file>\nOr set scratch_path in " ++ configPath ++ "\n"
  | file e => "Error: " ++ e.context ++ "\n\nCaused by:\n    " ++ e.cause.message ++ "\n"

def launchPath? (args : List String) (config : Config) : Option String :=
  match args with
  | [] => config.scratchPath
  | [path] => some path
  | _ => none

/-- The editor that the command line asks for, and what opening its file leaves in the log. -/
def launch (program : String) (args : List String) (env : Environment) (files : FileTree) :
    Except LaunchError (Editor × List LogRecord) :=
  match Config.load env files (Config.userPath env) with
  | .error e => .error (.config e)
  | .ok found =>
      let config := found.getD .default
      match launchPath? args config with
      | none => .error (.usage program (Config.userPath env))
      | some path => (Editor.openFile files path config).mapError .file

end LispEditor
