set_option autoImplicit false
set_option relaxedAutoImplicit false

/-!
# Paths

A path is a list of names, read from the current directory or from the root. Empty names mean
nothing, a single dot leads to the directory itself, and two dots lead to the directory around.
-/

namespace LispEditor

def splitAtChar (separator : Char) : List Char → List (List Char)
  | [] => [[]]
  | c :: rest =>
      if c = separator then [] :: splitAtChar separator rest
      else
        match splitAtChar separator rest with
        | [] => [[c]]
        | piece :: pieces => (c :: piece) :: pieces

/-- A way through directories. -/
structure Path where
  /-- Whether it begins at the root. -/
  absolute : Bool
  /-- The names to follow. -/
  names : List String
  /-- Whether a slash at its end asks for a directory. -/
  directory : Bool
  deriving DecidableEq, Repr

namespace Path

def ofString? (text : String) : Option Path :=
  let cs := text.toList
  let pieces := (splitAtChar '/' cs).map String.ofList
  if cs.isEmpty then none
  else some {
    absolute := cs.head? == some '/'
    names := pieces.filter (· != "")
    directory := pieces.getLast? == some "" }

/-- The names on the way to the directory that the path's last name stands in. Single dots do not
count as names here. -/
def parent (p : Path) : List String :=
  (p.names.filter (· != ".")).dropLast

end Path

end LispEditor
