import LispEditor.Toml.Value

set_option autoImplicit false
set_option relaxedAutoImplicit false

/-!
# Growing a tree of tables

The lines of a document add to a tree of tables: a header opens a table, an array header starts the
next table of an array, and a pair sets a key. Nothing is set or opened twice, and a table that was
written as a whole does not grow.
-/

namespace LispEditor

namespace Toml

namespace Entries

/-- Change the entries that the keys of a header lead to. Tables that are missing on the way are
implied, and an array of tables stands for its newest table. -/
def alongHeader (change : Entries → Option Entries) : List String → Entries → Option Entries
  | [], entries => change entries
  | key :: keys, entries =>
      match entries.lookup key with
      | none => (alongHeader change keys []).map fun sub => entries.put key (.table .implied sub)
      | some (.table .inline _) => none
      | some (.table origin sub) =>
          (alongHeader change keys sub).map fun sub => entries.put key (.table origin sub)
      | some (.tables newest older) =>
          (alongHeader change keys newest).map fun sub => entries.put key (.tables sub older)
      | some _ => none

/-- Change the entries that the front keys of a dotted key lead to. The last of them has to be a
table of dotted keys, those in front of it at least no table with a header of its own. -/
def alongDotted (change : Entries → Option Entries) : List String → Entries → Option Entries
  | [], entries => change entries
  | key :: keys, entries =>
      match entries.lookup key with
      | none => (alongDotted change keys []).map fun sub => entries.put key (.table .dotted sub)
      | some (.table .dotted sub) =>
          (alongDotted change keys sub).map fun sub => entries.put key (.table .dotted sub)
      | some (.table .implied sub) =>
          if keys.isEmpty then none
          else (alongDotted change keys sub).map fun sub => entries.put key (.table .implied sub)
      | some (.tables newest older) =>
          if keys.isEmpty then none
          else (alongDotted change keys newest).map fun sub => entries.put key (.tables sub older)
      | some _ => none

def setNew (key : String) (v : Value) (entries : Entries) : Option Entries :=
  match entries.lookup key with
  | none => some (entries.put key v)
  | some _ => none

def openTable (key : String) (entries : Entries) : Option Entries :=
  match entries.lookup key with
  | none => some (entries.put key (.table .header []))
  | some (.table .implied sub) => some (entries.put key (.table .header sub))
  | some _ => none

def openNext (key : String) (entries : Entries) : Option Entries :=
  match entries.lookup key with
  | none => some (entries.put key (.tables [] []))
  | some (.tables newest older) => some (entries.put key (.tables [] (newest :: older)))
  | some _ => none

end Entries

/-- A key with the keys in front of its last dot. -/
structure DottedKey where
  front : List String
  last : String
  deriving DecidableEq, Repr

def DottedKey.keys (k : DottedKey) : List String :=
  k.front ++ [k.last]

def Entries.assign (k : DottedKey) (v : Value) (entries : Entries) : Option Entries :=
  entries.alongDotted (·.setNew k.last v) k.front

end Toml

end LispEditor
