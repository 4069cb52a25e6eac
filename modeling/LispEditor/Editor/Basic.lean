import LispEditor.Config.Basic
import LispEditor.Edit
import LispEditor.Evaluation
import LispEditor.Files.Tree
import LispEditor.Log
import LispEditor.Text.Position

set_option autoImplicit false
set_option relaxedAutoImplicit false

/-!
# The editor

The editor holds one file as a buffer with a caret. Times are in milliseconds.
-/

namespace LispEditor

/-- A span that is marked until a time. -/
structure Flash where
  span : Span
  deadline : Nat
  deriving DecidableEq, Repr

/-- The state of the editor. -/
structure Editor where
  /-- The file that is edited. -/
  path : String
  config : Config
  buffer : Text
  /-- The offset of the caret. -/
  caret : Nat
  /-- The last message to the user. -/
  status : String
  /-- The code evaluated last. -/
  flash : Option Flash
  /-- Whether the buffer was changed since it was read or written. -/
  dirty : Bool
  deriving DecidableEq, Repr

/-- Why the editor cannot use its file. -/
inductive EditorError where
  | reading (path : String) (cause : FileError)
  | writing (path : String) (cause : FileError)
  deriving DecidableEq, Repr

namespace EditorError

def context : EditorError → String
  | reading path _ => "reading " ++ path
  | writing path _ => "writing " ++ path

def cause : EditorError → FileError
  | reading _ e => e
  | writing _ e => e

def message (e : EditorError) : String :=
  e.context ++ ": " ++ e.cause.message

end EditorError

namespace Editor

/-- The buffer that a file gives: its text, or nothing if it is not there. -/
def fileBuffer (files : FileTree) (path : String) : Except FileError Text :=
  if files.hasPath path then (files.read path).map String.toList else .ok []

def openFile (files : FileTree) (path : String) (config : Config) :
    Except EditorError (Editor × List LogRecord) :=
  match fileBuffer files path with
  | .error e => .error (.reading path e)
  | .ok buffer =>
      let note := "opened " ++ path ++ " (" ++ toString buffer.length ++ " chars)"
      .ok ({ path, config, buffer, caret := 0, status := "", flash := none, dirty := false },
        [⟨.info, note⟩])

def position (e : Editor) : Position :=
  e.buffer.position e.caret

def activeFlash? (e : Editor) (now : Nat) : Option Span :=
  match e.flash with
  | some flash => if now < flash.deadline then some flash.span else none
  | none => none

end Editor

end LispEditor
