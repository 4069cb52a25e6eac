import LispEditor.Config.Reader
import LispEditor.Config.Writer
import LispEditor.Files.Tree

set_option autoImplicit false
set_option relaxedAutoImplicit false

/-!
# Configuration files
-/

namespace LispEditor

namespace Config

/-- Why a configuration file cannot be loaded. -/
inductive LoadError where
  /-- The file cannot be read. -/
  | unreadable (path : String) (e : FileError)
  /-- The text of the file is no configuration. -/
  | invalid (path text : String) (e : ParseError)

def load (env : Environment) (files : FileTree) (path : String) :
    Except LoadError (Option Config) :=
  if files.hasPath path then
    match files.read path with
    | .error e => .error (.unreadable path e)
    | .ok text =>
        match ofToml env text with
        | .error e => .error (.invalid path text e)
        | .ok config => .ok (some config)
  else .ok none

def save (config : Config) (files : FileTree) (path : String) : FileChange :=
  let change := files.makeParents path
  match change.error? with
  | some _ => change
  | none =>
      match change.files.write path config.toToml with
      | .ok files => ⟨files, none⟩
      | .error e => ⟨change.files, some e⟩

def userPath (env : Environment) : String :=
  String.ofList (env.expandTilde "~/.config/sexpedit".toList) ++ "/config.toml"

def LoadError.message : LoadError → String
  | unreadable path e => "Failed to read config file at " ++ path ++ ": " ++ e.message
  | invalid path _ .malformed => "Failed to parse config file at " ++ path
  | invalid path text (.value f) =>
      "Failed to parse config file at " ++ path ++ ": " ++ f.report text

end Config

end LispEditor
