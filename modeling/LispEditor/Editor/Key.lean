import LispEditor.Character.LowerCase

set_option autoImplicit false
set_option relaxedAutoImplicit false

/-!
# Keys

A key press is a key with the modifiers held down. Most of them have a name, by which a
configuration binds them.
-/

namespace LispEditor

/-- A key of the keyboard; a character key gives its character with shift already in it. -/
inductive KeyCode where
  | char (c : Char)
  | left
  | right
  | up
  | down
  | enter
  | home
  | lineEnd
  | tab
  | escape
  | backspace
  | delete
  | backTab
  | insert
  | pageUp
  | pageDown
  | null
  | function (n : Nat)
  deriving DecidableEq, Repr

/-- A key press. -/
structure Key where
  code : KeyCode
  ctrl : Bool := false
  alt : Bool := false
  shift : Bool := false
  deriving DecidableEq, Repr

def KeyCode.name? : KeyCode → Option String
  | char c => some (String.ofList (lowerChar c))
  | left => some "left"
  | right => some "right"
  | up => some "up"
  | down => some "down"
  | enter => some "enter"
  | home => some "home"
  | lineEnd => some "end"
  | tab => some "tab"
  | escape => some "esc"
  | backspace => some "backspace"
  | delete => some "delete"
  | backTab => none
  | insert => none
  | pageUp => none
  | pageDown => none
  | null => none
  | function _ => none

def KeyCode.isChar : KeyCode → Bool
  | char _ => true
  | _ => false

/-- The name of a key press, if it can be bound: the modifiers, then the key. Shift is not named
with a character, which already shows it. -/
def Key.name? (key : Key) : Option String :=
  key.code.name?.map fun name =>
    (if key.ctrl then "ctrl+" else "") ++ (if key.alt then "alt+" else "") ++
      (if key.shift && !key.code.isChar then "shift+" else "") ++ name

def KeyCode.named : List KeyCode :=
  [.left, .right, .up, .down, .enter, .home, .lineEnd, .tab, .escape, .backspace, .delete]

def KeyCode.ofName? (name : String) : Option KeyCode :=
  match name.toList with
  | [c] => some (.char c)
  | _ => KeyCode.named.find? (·.name? == some name)

/-- The key press of a name, behind modifiers in the order in which they are named. -/
def Key.ofName? (name : String) : Option Key :=
  let take := fun (modifier : String) (cs : List Char) =>
    if modifier.toList.isPrefixOf cs then (true, cs.drop modifier.length) else (false, cs)
  let (ctrl, cs) := take "ctrl+" name.toList
  let (alt, cs) := take "alt+" cs
  let (shift, cs) := take "shift+" cs
  (KeyCode.ofName? (String.ofList cs)).map fun code => { code, ctrl, alt, shift }

end LispEditor
