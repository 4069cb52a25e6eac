import LispEditor.Number.Binary64
import LispEditor.Toml.DateTime

set_option autoImplicit false
set_option relaxedAutoImplicit false

/-!
# TOML values

A document is a table. Each table remembers how it came into being, because that decides whether a
later line may still add to it.
-/

namespace LispEditor

namespace Toml

/-- How a table came into being. -/
inductive Origin where
  /-- Written between braces. -/
  | inline
  /-- Named by a header of its own. -/
  | header
  /-- Passed through by the header of a table inside it. -/
  | implied
  /-- Passed through by a dotted key. -/
  | dotted
  deriving DecidableEq, Repr

/-- A value, with the tables of an array of tables newest first. -/
inductive Value where
  | string (s : String)
  | integer (n : Int)
  | float (x : Binary64)
  | boolean (b : Bool)
  | dateTime (d : DateTime)
  | array (items : List Value)
  | table (origin : Origin) (entries : List (String × Value))
  | tables (newest : List (String × Value)) (older : List (List (String × Value)))

/-- The entries of a table, each key once. -/
abbrev Entries := List (String × Value)

/-- The entries with the value of `key` replaced, or added at the end. -/
def Entries.put (key : String) (v : Value) : Entries → Entries
  | [] => [(key, v)]
  | (k, w) :: rest => if k = key then (k, v) :: rest else (k, w) :: Entries.put key v rest

mutual

/-- Whether a value holds an integer that does not fit into 64 bits, with a sign or without one. -/
def Value.isWide : Value → Bool
  | .integer n => n < -(2 ^ 63) || 2 ^ 64 ≤ n
  | .array items => anyItemWide items
  | .table _ entries => anyWide entries
  | .tables newest older => anyWide newest || anyTableWide older
  | _ => false

/-- Whether an item of an array holds an integer that does not fit into 64 bits. -/
def anyItemWide : List Value → Bool
  | [] => false
  | v :: rest => v.isWide || anyItemWide rest

/-- Whether an entry of a table holds an integer that does not fit into 64 bits. -/
def anyWide : List (String × Value) → Bool
  | [] => false
  | (_, v) :: rest => v.isWide || anyWide rest

/-- Whether one of several tables holds an integer that does not fit into 64 bits. -/
def anyTableWide : List (List (String × Value)) → Bool
  | [] => false
  | entries :: rest => anyWide entries || anyTableWide rest

end

end Toml

end LispEditor
