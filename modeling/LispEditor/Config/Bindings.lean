import LispEditor.Config.Action

set_option autoImplicit false
set_option relaxedAutoImplicit false

/-!
# Key bindings

The bindings of keys to actions, sorted by key in the order of code points, each key once.
-/

namespace LispEditor

/-- Actions by key, in the order of the keys. -/
abbrev Bindings := List (String × Action)

namespace Bindings

/-- Bind a key, in place of an earlier binding of it. -/
def insert (key : String) (action : Action) : Bindings → Bindings
  | [] => [(key, action)]
  | (k, a) :: rest =>
      if key < k then (key, action) :: (k, a) :: rest
      else if key = k then (key, action) :: rest
      else (k, a) :: insert key action rest

def erase (key : String) (bindings : Bindings) : Bindings :=
  bindings.filter (·.1 != key)

def insertAll (bindings : Bindings) (pairs : List (String × Action)) : Bindings :=
  pairs.foldl (fun b p => b.insert p.1 p.2) bindings

/-- The bindings that hold unless a configuration says otherwise. -/
def default : Bindings :=
  insertAll []
    (Command.all.flatMap (fun c => c.defaultKeys.map (·, Action.ofCommand c)) ++
      [("ctrl+e", .evalLastForm), ("ctrl+s", .save), ("ctrl+q", .quit)])

end Bindings

end LispEditor
