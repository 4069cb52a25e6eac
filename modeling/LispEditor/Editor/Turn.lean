import LispEditor.Editor.Basic
import LispEditor.Editor.Key

set_option autoImplicit false
set_option relaxedAutoImplicit false

/-!
# Turns of the editor

A turn is what one key press does to the editor, to the files and to the log. A key that is bound
runs its action; any other moves the caret or changes the buffer at it.
-/

namespace LispEditor

/-- How a turn ends. -/
inductive Outcome where
  | proceed
  | quit
  | failed (e : EditorError)
  deriving DecidableEq, Repr

/-- What a turn leaves behind. -/
structure Turn where
  editor : Editor
  files : FileTree
  log : List LogRecord
  outcome : Outcome

namespace Editor

def insert (e : Editor) (c : Char) : Editor :=
  { e with
    buffer := e.buffer.take e.caret ++ c :: e.buffer.drop e.caret
    caret := e.caret + 1
    dirty := true }

def delete (e : Editor) : Editor :=
  if e.buffer.length ≤ e.caret then e
  else { e with buffer := e.buffer.eraseIdx e.caret, dirty := true }

def backspace (e : Editor) : Editor :=
  match e.caret with
  | 0 => e
  | caret + 1 => delete { e with caret }

def moveTo (e : Editor) (p : Position) : Editor :=
  { e with caret := e.buffer.offsetAt p }

def moveUp (e : Editor) : Editor :=
  match e.position.line with
  | 0 => e
  | line + 1 => e.moveTo ⟨line, e.position.col⟩

def moveDown (e : Editor) : Editor :=
  e.moveTo ⟨e.position.line + 1, e.position.col⟩

def moveHome (e : Editor) : Editor :=
  e.moveTo ⟨e.position.line, 0⟩

/-- Move the caret to the end of its line, by asking for the greatest column there is. -/
def moveEnd (e : Editor) : Editor :=
  e.moveTo ⟨e.position.line, UInt64.size - 1⟩

/-- What a key does that is not bound. -/
def type (e : Editor) (key : Key) : Editor :=
  match key.code with
  | .left => { e with caret := e.caret - 1 }
  | .right => { e with caret := min (e.caret + 1) e.buffer.length }
  | .up => e.moveUp
  | .down => e.moveDown
  | .home => e.moveHome
  | .lineEnd => e.moveEnd
  | .backspace => e.backspace
  | .delete => e.delete
  | .enter => e.insert '\n'
  | .tab => (e.insert ' ').insert ' '
  | .char c => if key.ctrl || key.alt then e else e.insert c
  | _ => e

def apply (e : Editor) (command : Command) : Editor × List LogRecord :=
  match command.apply e.buffer e.caret with
  | .ok patch =>
      ({ e with
        buffer := patch.text
        caret := patch.offset
        dirty := true
        status := command.label }, [])
  | .error refusal =>
      ({ e with status := command.label ++ ": not applicable here" }, refusal.log)

def evalLastForm (e : Editor) (now : Nat) : Editor × List LogRecord :=
  match e.buffer.evalTarget e.caret none with
  | .ok target =>
      ({ e with
        flash := some ⟨target.span, now + e.config.flashMs⟩
        status := "eval: " ++ String.ofList target.code }, [])
  | .error refusal => ({ e with status := "eval: no form before the caret" }, refusal.log)

/-- Write the buffer to its file. Nothing changes if that fails. -/
def save (e : Editor) (files : FileTree) : Turn :=
  match files.write e.path (String.ofList e.buffer) with
  | .ok files =>
      let note := "saved " ++ e.path
      ⟨{ e with dirty := false, status := note }, files, [⟨.info, note⟩], .proceed⟩
  | .error cause => ⟨e, files, [], .failed (.writing e.path cause)⟩

def keepFiles (files : FileTree) (step : Editor × List LogRecord) : Turn :=
  ⟨step.1, files, step.2, .proceed⟩

def run (e : Editor) (files : FileTree) (now : Nat) : Action → Turn
  | .slurpForward => keepFiles files (e.apply .slurpForward)
  | .barfForward => keepFiles files (e.apply .barfForward)
  | .evalLastForm => keepFiles files (e.evalLastForm now)
  | .save => e.save files
  | .quit => ⟨e, files, [], .quit⟩

def press (e : Editor) (files : FileTree) (now : Nat) (key : Key) : Turn :=
  match key.name?.bind e.config.actionFor? with
  | some action => e.run files now action
  | none => keepFiles files (e.type key, [])

/-- What the key presses of a list do, one after the other. The log is that of all of them, and the
outcome that of the last one. -/
def pressAll (e : Editor) (files : FileTree) (now : Nat) (keys : List Key) : Turn :=
  keys.foldl
    (fun turn key =>
      let next := turn.editor.press turn.files now key
      { next with log := turn.log ++ next.log })
    ⟨e, files, [], .proceed⟩

end Editor

end LispEditor
