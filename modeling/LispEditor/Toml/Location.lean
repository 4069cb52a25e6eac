import LispEditor.Text.Position
import LispEditor.Toml.Reader

set_option autoImplicit false
set_option relaxedAutoImplicit false

/-!
# Where entries stand in a document

A message about a wrong entry shows the line of the document in which it stands. `Toml.marks` finds
the keys and the values of a document that has been read, `Toml.excerpt` shows one of them.
-/

namespace LispEditor

namespace Toml

/-- Where an entry stands. -/
structure Mark where
  /-- The keys that lead to the entry. -/
  path : List String
  /-- The last of these keys. -/
  key : Span
  /-- The value, the header of a table that has one, or the key of a table passed through. -/
  value : Span
  /-- Whether the entry is a table that a longer key or header passes through. -/
  passed : Bool
  deriving DecidableEq, Repr

/-- The offsets in a text of `total` characters at which the texts `cs` and `rest` are left. -/
def spanBetween (total : Nat) (cs rest : List Char) : Span :=
  ⟨total - cs.length, total - rest.length⟩

/-- Read a dotted key with the places of its parts; `room` bounds their number. -/
def keyParts (total : Nat) : (room : Nat) → Reader (List (String × Span))
  | 0, _ => none
  | room + 1, cs =>
      let cs := cs.dropWhile isGap
      match simpleKey cs with
      | none => none
      | some (key, rest) =>
          let part := (key, spanBetween total cs rest)
          match rest.dropWhile isGap with
          | '.' :: more => (keyParts total room more).map fun (parts, rest) => (part :: parts, rest)
          | rest => some ([part], rest)

def keyMarks (value : Span) : (path : List String) → List (String × Span) → List Mark
  | _, [] => []
  | path, [(key, span)] => [⟨path ++ [key], span, value, false⟩]
  | path, (key, span) :: parts =>
      ⟨path ++ [key], span, span, true⟩ :: keyMarks value (path ++ [key]) parts

/-- The marks of the pairs between braces, behind the brace or a comma, if a pair stands there. -/
def pairMarks (total : Nat) : (fuel : Nat) → (path : List String) → List Char → Option (List Mark)
  | 0, _, _ => none
  | fuel + 1, path, cs => do
      let (parts, rest) ← keyParts total maxDepth (← skipGap false cs)
      let cs ← skipGap false ((← skipGap false rest).drop 1)
      let (_, rest) ← value (fuel + 1) maxDepth cs
      let inside := match cs with
        | '{' :: cs => pairMarks total fuel (path ++ parts.map Prod.fst) cs
        | _ => none
      let later := match skipGap false rest with
        | some (',' :: rest) => pairMarks total fuel path rest
        | _ => none
      some (keyMarks (spanBetween total cs rest) path parts ++ inside.getD [] ++ later.getD [])

/-- The marks of a pair of a document below the table `path`, and the text behind it. -/
def lineMarks (total : Nat) (path : List String) : Reader (List Mark) := fun cs => do
  let (parts, rest) ← keyParts total maxDepth cs
  let cs := (rest.drop 1).dropWhile isGap
  let (_, rest) ← value (cs.length + 1) maxDepth cs
  let inside := match cs with
    | '{' :: cs => pairMarks total cs.length (path ++ parts.map Prod.fst) cs
    | _ => none
  some (keyMarks (spanBetween total cs rest) path parts ++ inside.getD [], rest)

/-- The keys of a header with the marks that it leaves, and the text behind it. -/
def headerMarks (total : Nat) (cs : List Char) : Reader (List String × List Mark)
  | '[' :: body => do
      let (parts, rest) ← keyParts total maxDepth body
      let rest := rest.drop 2
      some ((parts.map Prod.fst, keyMarks (spanBetween total cs rest) [] parts), rest)
  | body => do
      let (parts, rest) ← keyParts total maxDepth body
      let rest := rest.drop 1
      some ((parts.map Prod.fst, keyMarks (spanBetween total cs rest) [] parts), rest)

/-- The marks of the lines of a document below the table `path`; `fuel` bounds their number. -/
def documentMarks (total : Nat) : (fuel : Nat) → (path : List String) → List Char → List Mark
  | 0, _, _ => []
  | fuel + 1, path, cs =>
      match cs.dropWhile isGap with
      | [] => []
      | '[' :: body =>
          match headerMarks total ('[' :: body) body with
          | some ((path, marks), rest) =>
              marks ++ documentMarks total fuel path ((lineEnd rest).getD [])
          | none => []
      | cs =>
          match lineEnd cs with
          | some rest => documentMarks total fuel path rest
          | none =>
              match lineMarks total path cs with
              | some (marks, rest) =>
                  marks ++ documentMarks total fuel path ((lineEnd rest).getD [])
              | none => []

def marks (text : Text) : List Mark :=
  documentMarks text.length (text.length + 1) [] (dropMark text)

/-- Where the entry at a path stands in a document. A value or a header of its own goes before keys
that pass through. -/
def mark? (text : Text) (path : List String) : Option Mark :=
  let found := (marks text).filter (·.path == path)
  (found.find? (!·.passed)).or found.head?

def byteLength (cs : List Char) : Nat :=
  (String.ofList cs).utf8ByteSize

/-- The line of a document in which a span begins, with the span underlined up to the line's end.
The underline counts bytes. -/
def excerpt (text : Text) (span : Span) : String :=
  let p := text.position span.start
  let line := text.slice (text.lines[p.line]?.getD ⟨0, 0⟩)
  let number := toString (p.line + 1)
  let margin := String.ofList (List.replicate (number.length + 1) ' ') ++ "|"
  let length := max 1 (min (byteLength (text.slice span)) (byteLength line - p.col))
  "TOML parse error at line " ++ number ++ ", column " ++ toString (p.col + 1) ++ "\n" ++
    margin ++ "\n" ++
    number ++ " | " ++ String.ofList line ++ "\n" ++
    margin ++ String.ofList (List.replicate (p.col + 1) ' ' ++ List.replicate length '^') ++ "\n"

end Toml

end LispEditor
