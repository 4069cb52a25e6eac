import LispEditor.Toml.Scalar
import LispEditor.Toml.Tree

set_option autoImplicit false
set_option relaxedAutoImplicit false

/-!
# Reading TOML documents

`Toml.read` gives the table that a document stands for, or nothing if the text is no document: it is
not well formed, sets a key or opens a table twice, nests too deeply, or holds a number out of
range.

The readers of nested values count down from the length of the text, which bounds their steps, and
from `maxDepth`, which bounds how deeply arrays and tables between braces may stand in each other.
-/

namespace LispEditor

namespace Toml

/-- How many arrays and tables between braces may stand in each other, and how many keys a dotted
key may have. -/
def maxDepth : Nat := 80

/-- Read the keys behind the first one of a dotted key; `room` bounds the number of all of them. -/
def dottedRest (front : List String) (last : String) : (room : Nat) → Reader DottedKey
  | 0, _ => none
  | room + 1, cs =>
      match cs.dropWhile isGap with
      | '.' :: rest =>
          match simpleKey (rest.dropWhile isGap) with
          | some (key, rest) => dottedRest (front ++ [last]) key room rest
          | none => none
      | rest => some (⟨front, last⟩, rest)

def dottedKey : Reader DottedKey := fun cs =>
  match simpleKey (cs.dropWhile isGap) with
  | some (key, rest) => dottedRest [] key maxDepth rest
  | none => none

mutual

/-- Read a value; `depth` more arrays and tables may stand in each other. -/
def value : (fuel depth : Nat) → Reader Value
  | 0, _, _ => none
  | fuel + 1, depth, cs =>
      match cs with
      | '[' :: rest =>
          if depth = 0 then none
          else (items fuel (depth - 1) rest).map fun (xs, rest) => (.array xs, rest)
      | '{' :: rest =>
          if depth = 0 then none
          else
            (pairs fuel (depth - 1) [] rest).map fun (entries, rest) =>
              (.table .inline entries, rest)
      | '"' :: _ => (quoted cs).map fun (s, rest) => (.string (String.ofList s), rest)
      | '\'' :: _ => (quoted cs).map fun (s, rest) => (.string (String.ofList s), rest)
      | _ => scalar cs

def items : (fuel depth : Nat) → Reader (List Value)
  | 0, _, _ => none
  | fuel + 1, depth, cs => do
      match ← skipGap false cs with
      | ']' :: rest => some ([], rest)
      | cs => do
          let (v, rest) ← value fuel depth cs
          match ← skipGap false rest with
          | ']' :: rest => some ([v], rest)
          | ',' :: rest => do
              let (vs, rest) ← items fuel depth rest
              some (v :: vs, rest)
          | _ => none

/-- Read the pairs of a table between braces, behind its brace or a comma. Lines may end and
comments may stand everywhere but inside a key. -/
def pairs : (fuel depth : Nat) → Entries → Reader Entries
  | 0, _, _, _ => none
  | fuel + 1, depth, entries, cs => do
      match ← skipGap false cs with
      | '}' :: rest => some (entries, rest)
      | cs => do
          let (key, rest) ← dottedKey cs
          match ← skipGap false rest with
          | '=' :: rest => do
              let (v, rest) ← value fuel depth (← skipGap false rest)
              let entries ← entries.assign key v
              match ← skipGap false rest with
              | '}' :: rest => some (entries, rest)
              | ',' :: rest => pairs fuel depth entries rest
              | _ => none
          | _ => none

end

/-- The tables read so far and the header that the next pairs belong to. -/
structure Draft where
  root : Entries
  header : List String

/-- Read a line of a document: a header, an array header or a pair. -/
def expression (draft : Draft) : Reader Draft
  | '[' :: '[' :: cs => do
      let (key, rest) ← dottedKey cs
      match rest with
      | ']' :: ']' :: rest => do
          let root ← draft.root.alongHeader (·.openNext key.last) key.front
          some (⟨root, key.keys⟩, rest)
      | _ => none
  | '[' :: cs => do
      let (key, rest) ← dottedKey cs
      match rest with
      | ']' :: rest => do
          let root ← draft.root.alongHeader (·.openTable key.last) key.front
          some (⟨root, key.keys⟩, rest)
      | _ => none
  | cs => do
      let (key, rest) ← dottedKey cs
      match rest with
      | '=' :: rest => do
          let (v, rest) ← value rest.length maxDepth (rest.dropWhile isGap)
          let root ← draft.root.alongHeader (·.assign key v) draft.header
          some (⟨root, draft.header⟩, rest)
      | _ => none

def document : (fuel : Nat) → Draft → List Char → Option Entries
  | 0, _, _ => none
  | fuel + 1, draft, cs =>
      match cs.dropWhile isGap with
      | [] => some draft.root
      | cs =>
          match lineEnd cs with
          | some rest => document fuel draft rest
          | none => do
              let (draft, rest) ← expression draft cs
              document fuel draft (← lineEnd rest)

def dropMark : List Char → List Char
  | '\ufeff' :: rest => rest
  | cs => cs

def read (text : String) : Option Entries :=
  let cs := dropMark text.toList
  document (cs.length + 1) ⟨[], []⟩ cs

end Toml

end LispEditor
