import LispEditor.Editor.Screen
import LispEditor.Editor.Turn
import LispEditor.Launch

set_option autoImplicit false
set_option relaxedAutoImplicit false

/-!
# The command line

The program opens a file and then reads the names of keys, one a line, from the standard input. It
draws the screen after each of them.
-/

namespace LispEditor

def variableNames : List Char → List (List Char)
  | [] => []
  | c :: rest =>
      match variableNames rest with
      | word :: words =>
          if Environment.isNameChar c then (c :: word) :: words else [] :: word :: words
      | [] => if Environment.isNameChar c then [[c]] else []

def readEnvironment (names : List String) : IO Environment := do
  let values ← names.mapM fun name => do return (name, ← IO.getEnv name)
  return values.filterMap fun (name, value) => value.map (name, ·)

def readNode (files : FileTree) (path : String) : IO FileTree := do
  let node ← try
      let content ← IO.FS.readBinFile path
      pure (some (FileNode.file content))
    catch e =>
      match e with
      | .inappropriateType .. => pure (some FileNode.directory)
      | _ => pure none
  match node with
  | none => return (files.makeParents path).files
  | some node =>
      match files.place path node with
      | .ok files => return files
      | .error _ => return files

/-- What a key press does. A save is tried on the disk, and one that the disk denies is the save to
files that deny it. -/
def pressOnDisk (e : Editor) (files : FileTree) (key : Key) : IO Turn := do
  let now ← IO.monoMsNow
  let turn := e.press files now key
  unless key.name?.bind e.config.actionFor? == some .save && turn.outcome == .proceed do
    return turn
  try
    IO.FS.writeFile e.path (String.ofList e.buffer)
    return turn
  catch denial =>
    return { e.press (files.deny (toString denial)) now key with files }

def showError (turn : Turn) : Editor :=
  match turn.outcome with
  | .failed e => { turn.editor with status := "error: " ++ e.message }
  | _ => turn.editor

def draw (e : Editor) : IO Unit := do
  for row in e.screen (← IO.monoMsNow) 80 24 do
    IO.println (String.ofList (row.flatMap (·.symbol)))

/-- Press the keys that the standard input names until one of them quits. -/
partial def session (input : IO.FS.Stream) (e : Editor) (files : FileTree) : IO Unit := do
  draw e
  let line ← input.getLine
  if line.isEmpty then return
  match Key.ofName? (String.ofList (line.toList.filter (· != '\n'))) with
  | none => session input e files
  | some key =>
      let turn ← pressOnDisk e files key
      if turn.outcome == .quit then return
      session input (showError turn) turn.files

end LispEditor

open LispEditor in
def main (args : List String) : IO UInt32 := do
  let home ← readEnvironment ["HOME"]
  let configPath := Config.userPath home
  let files ← readNode .empty configPath
  let words := match files.read configPath with
    | .ok text => (variableNames text.toList).map String.ofList
    | .error _ => []
  let env := home ++ (← readEnvironment words)
  let config := match Config.load env files configPath with
    | .ok (some config) => config
    | _ => .default
  let files ← match launchPath? args config with
    | some path => readNode files path
    | none => pure files
  match launch "sexpedit-cli" args env files with
  | .error e =>
      IO.eprint e.report
      return 1
  | .ok (e, _) =>
      session (← IO.getStdin) e files
      return 0
