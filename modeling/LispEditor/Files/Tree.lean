import LispEditor.Files.Path

set_option autoImplicit false
set_option relaxedAutoImplicit false

/-!
# Trees of files

A tree holds the files and directories below the current directory, the directories around it and
the root. Reading a file decodes its bytes as UTF-8, and writing one encodes a text, unless the
system denies it.
-/

namespace LispEditor

/-- Why an operation on a file fails. -/
inductive FileError where
  | notFound
  | alreadyExists
  | notDirectory
  | isDirectory
  | notText
  | invalidName
  | nameTooLong
  | denied (reason : String)
  deriving DecidableEq, Repr

def FileError.message : FileError → String
  | notFound => "No such file or directory (os error 2)"
  | alreadyExists => "File exists (os error 17)"
  | notDirectory => "Not a directory (os error 20)"
  | isDirectory => "Is a directory (os error 21)"
  | notText => "stream did not contain valid UTF-8"
  | invalidName => "file name contained an unexpected NUL byte"
  | nameTooLong => "File name too long (os error 36)"
  | denied reason => reason

/-- What stands at a place of a tree. -/
inductive FileNode where
  | file (content : ByteArray)
  | directory

/-- A place of a tree: the names from the current directory on, first of all two dots for each
directory around it, or from the root, whose name is a slash. -/
abbrev Location := List String

namespace Location

def root : Location := ["/"]

/-- Whether the place is the root, the current directory or one around it: they are always there. -/
def isTop (l : Location) : Bool :=
  l == root || l.all (· == "..")

/-- The place that a name leads to from a directory. Around the root is the root itself. -/
def step (l : Location) (name : String) : Location :=
  if name = "." then l
  else if name = ".." then if l = root then l else if l.isTop then l ++ [".."] else l.dropLast
  else l ++ [name]

def start (p : Path) : Location :=
  if p.absolute then root else []

end Location

/-- Files and directories by their places. The system may deny writing at a place, whatever stands
there, and give a reason: the place is protected, or the disk is full. -/
structure FileTree where
  nodes : List (Location × FileNode)
  denial? : Location → Option String := fun _ => none

namespace FileTree

def empty : FileTree := { nodes := [] }

def node? (t : FileTree) (l : Location) : Option FileNode :=
  if l.isTop then some .directory else t.nodes.lookup l

def put (t : FileTree) (l : Location) (n : FileNode) : FileTree :=
  { t with nodes := (l, n) :: t.nodes.filter (·.1 != l) }

/-- The tree of a system that denies writing anywhere. -/
def deny (t : FileTree) (reason : String) : FileTree :=
  { t with denial? := fun _ => some reason }

def maxName : Nat := 255

def maxPath : Nat := 4095

/-- The place that names lead to. All but the last have to be directories. -/
def follow (t : FileTree) : Location → List String → Except FileError Location
  | l, [] => .ok l
  | l, name :: names =>
      match t.node? l with
      | some .directory =>
          if maxName < name.utf8ByteSize then .error .nameTooLong else follow t (l.step name) names
      | some (.file _) => .error .notDirectory
      | none => .error .notFound

def locate (t : FileTree) (p : Path) : Except FileError Location :=
  t.follow (.start p) p.names

/-- Whether a name can be no file's, because it holds a null character. -/
def isInvalidName (name : String) : Bool :=
  name.toList.contains '\x00'

def pathOf (text : String) : Except FileError Path :=
  if isInvalidName text then .error .invalidName
  else if maxPath < text.utf8ByteSize then .error .nameTooLong
  else
    match Path.ofString? text with
    | none => .error .notFound
    | some p => .ok p

def find (t : FileTree) (path : String) : Except FileError FileNode := do
  let p ← pathOf path
  match t.node? (← t.locate p) with
  | none => .error .notFound
  | some .directory => .ok .directory
  | some (.file content) => if p.directory then .error .notDirectory else .ok (.file content)

def hasPath (t : FileTree) (path : String) : Bool :=
  match t.find path with
  | .ok _ => true
  | .error _ => false

def read (t : FileTree) (path : String) : Except FileError String := do
  match ← t.find path with
  | .directory => .error .isDirectory
  | .file content =>
      match String.fromUTF8? content with
      | some text => .ok text
      | none => .error .notText

/-- The tree with a text written to a file, in place of an earlier one. A path with a slash at its
end names a directory, whatever its last name is. -/
def write (t : FileTree) (path text : String) : Except FileError FileTree := do
  let p ← pathOf path
  if p.directory then
    let _ ← t.follow (.start p) (p.names.dropLast ++ ["."])
    .error .isDirectory
  else
    let l ← t.locate p
    match t.node? l, t.denial? l with
    | some .directory, _ => .error .isDirectory
    | _, some reason => .error (.denied reason)
    | _, none => .ok (t.put l (.file text.toUTF8))

end FileTree

/-- What making directories comes to: the tree afterwards and, if it failed, why. What was made
before a failure stays. -/
structure FileChange where
  files : FileTree
  error? : Option FileError

namespace FileTree

/-- Make the directories that names lead through; `made` tells whether one has been made already. A
file in the way exists where a directory was to be made, if it comes last or behind a new directory,
and is no directory to pass through otherwise. -/
def makeDirectories (t : FileTree) (made : Bool) : Location → List String → FileChange
  | _, [] => ⟨t, none⟩
  | l, name :: names =>
      let next := l.step name
      if maxName < name.utf8ByteSize then ⟨t, some .nameTooLong⟩
      else
        match t.node? next, t.denial? next with
        | some .directory, _ => makeDirectories t made next names
        | some (.file _), _ =>
            ⟨t, some (if made || names.isEmpty then .alreadyExists else .notDirectory)⟩
        | none, some reason => ⟨t, some (.denied reason)⟩
        | none, none => makeDirectories (t.put next .directory) true next names

def makeParents (t : FileTree) (path : String) : FileChange :=
  match Path.ofString? path with
  | none => ⟨t, none⟩
  | some p =>
      if p.parent.any isInvalidName then ⟨t, some .invalidName⟩
      else if maxPath < ("/".intercalate p.parent).utf8ByteSize then ⟨t, some .nameTooLong⟩
      else t.makeDirectories false (.start p) p.parent

/-- The tree with a node placed at a path, in directories made for it. -/
def place (t : FileTree) (path : String) (n : FileNode) : Except FileError FileTree := do
  let change := t.makeParents path
  match change.error? with
  | some e => .error e
  | none => return change.files.put (← change.files.locate (← pathOf path)) n

end FileTree

end LispEditor
