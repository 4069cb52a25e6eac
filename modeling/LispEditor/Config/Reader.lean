import LispEditor.Config.Basic
import LispEditor.Config.Environment
import LispEditor.Text.Quoted
import LispEditor.Toml.Location

set_option autoImplicit false
set_option relaxedAutoImplicit false

/-!
# Reading configurations

A configuration is a TOML document. Keys that mean nothing here are passed over. The bindings are
put over the default ones in the order of their keys, in small letters.
-/

namespace LispEditor

namespace Toml

def Value.kind : Value → String
  | string s => "string " ++ quoteText s
  | integer n => "integer `" ++ toString n ++ "`"
  | float x => "floating point `" ++ x.text ++ "`"
  | boolean b => "boolean `" ++ (if b then "true" else "false") ++ "`"
  | dateTime _ => "map"
  | array _ => "sequence"
  | table _ _ => "map"
  | tables _ _ => "sequence"

def Value.typeName : Value → String
  | string _ => "string"
  | integer _ => "integer"
  | float _ => "float"
  | boolean _ => "boolean"
  | dateTime _ => "datetime"
  | array _ => "array"
  | table _ _ => "table"
  | tables _ _ => "array"

end Toml

namespace Config

open Toml (Value Entries)

/-- What is wrong with a value of a configuration. -/
inductive ValueError where
  /-- A value of another type was expected. -/
  | wrongType (found : Value) (expected : String)
  /-- A time below zero. -/
  | negative (n : Int)
  /-- A name that is no action's. -/
  | unknownAction (name : String)
  /-- Neither the name of an action nor a table with one. -/
  | notAction
  /-- A table with no action, or with several. -/
  | notOneAction (several : Bool)
  /-- A table that gives the action an argument. -/
  | argument (found : Value)

/-- A wrong entry of a configuration. -/
structure Fault where
  /-- The keys that lead to the entry. -/
  path : List String
  /-- Whether the key of the entry is wrong, and not its value. -/
  atKey : Bool
  /-- What is wrong. -/
  error : ValueError

/-- Why a text is no configuration. -/
inductive ParseError where
  /-- It is no TOML document. -/
  | malformed
  /-- An entry is wrong. -/
  | value (fault : Fault)

def actionNames : String :=
  ", ".intercalate (Action.all.map fun a => "`" ++ a.name ++ "`")

def ValueError.message : ValueError → String
  | wrongType found expected => "invalid type: " ++ found.kind ++ ", expected " ++ expected
  | negative n => "invalid value: integer `" ++ toString n ++ "`, expected u64"
  | unknownAction name => "unknown variant `" ++ name ++ "`, expected one of " ++ actionNames
  | notAction => "wanted string or table"
  | notOneAction false => "wanted exactly 1 element, found 0 elements"
  | notOneAction true => "wanted exactly 1 element, more than 1 element"
  | argument (.array _) => "expected empty array"
  | argument (.tables _ _) => "expected empty array"
  | argument (.table _ _) => "expected empty table"
  | argument found => "expected table, found " ++ found.typeName

namespace Fault

def message (f : Fault) : String :=
  f.error.message

/-- The error in words, below the line of the configuration in which it stands. -/
def report (text : String) (f : Fault) : String :=
  let shown := match Toml.mark? text.toList f.path with
    | some mark => Toml.excerpt text.toList (if f.atKey then mark.key else mark.value)
    | none => ""
  shown ++ f.message ++ "\n"

def whole (e : ValueError) : Fault :=
  ⟨[], false, e⟩

def under (key : String) (f : Fault) : Fault :=
  { f with path := key :: f.path }

end Fault

def readFlash : Value → Except Fault Nat
  | .integer (.ofNat n) =>
      if n < UInt64.size then .ok n else .error (.whole (.wrongType (.integer n) "u64"))
  | .integer n => .error (.whole (.negative n))
  | v => .error (.whole (.wrongType v "u64"))

def readPath : Value → Except Fault String
  | .string s => .ok s
  | v => .error (.whole (.wrongType v "path string"))

def readName (name : String) : Except ValueError Action :=
  match Action.ofName? name with
  | some action => .ok action
  | none => .error (.unknownAction name)

/-- The action that a value gives: by its name, or as the only key of a table with no argument. -/
def readAction : Value → Except Fault Action
  | .string name => (readName name).mapError .whole
  | .table _ [] => .error (.whole (.notOneAction false))
  | .table _ [(name, v)] => do
      let action ← (readName name).mapError (⟨[name], true, ·⟩)
      match v with
      | .array [] => .ok action
      | .table _ [] => .ok action
      | v => .error ⟨[name], false, .argument v⟩
  | .table _ _ => .error (.whole (.notOneAction true))
  | _ => .error (.whole .notAction)

def sortEntries (entries : Entries) : Entries :=
  entries.mergeSort fun a b => a.1 ≤ b.1

/-- The bindings that a value gives, in the order of their keys. A date or a time counts as a table
with its text as the only binding. -/
def readBindings : Value → Except Fault (List (String × Action))
  | .table _ entries =>
      (sortEntries entries).mapM fun (key, v) =>
        return (key, ← (readAction v).mapError (.under key))
  | .dateTime d => .error (.whole (.unknownAction d.text))
  | v => .error (.whole (.wrongType v "a map"))

def readEntry {α : Type} (entries : Entries) (key : String) (read : Value → Except Fault α) :
    Except Fault (Option α) :=
  match entries.lookup key with
  | none => .ok none
  | some v => ((read v).map some).mapError (.under key)

def mergeBindings (user : List (String × Action)) : Bindings :=
  Bindings.default.insertAll (user.map fun (key, action) => (lowerCase key, action))

def ofEntries (env : Environment) (entries : Entries) : Except Fault Config := do
  let flash ← readEntry entries "flash_ms" readFlash
  let user ← readEntry entries "keybindings" readBindings
  let path ← readEntry entries "scratch_path" readPath
  return {
    flashMs := flash.getD default.flashMs
    scratchPath := path.map env.expand
    bindings := mergeBindings (user.getD []) }

/-- The configuration that a text gives. An integer of more than 64 bits does no harm where it is
passed over, but a text that holds one counts as malformed if any value is wrong. -/
def ofToml (env : Environment) (text : String) : Except ParseError Config :=
  match Toml.read text with
  | none => .error .malformed
  | some entries =>
      match ofEntries env entries with
      | .ok config => .ok config
      | .error e => .error (if Toml.anyWide entries then .malformed else .value e)

end Config

end LispEditor
