import LispEditor.Form.Basic

set_option autoImplicit false
set_option relaxedAutoImplicit false

/-!
# Documents

A document is the tree of forms that a well nested text writes, blanks included. The scans of
`LispEditor.Form` work on the text alone; the document says what there is for them to find.
-/

namespace LispEditor

/-- A sequence of blanks and forms, given by its first piece and what follows it. -/
inductive Document where
  | nil
  | blank (c : Char) (rest : Document)
  | atom (chars : List Char) (rest : Document)
  | string (body : List Char) (rest : Document)
  | list (kind : Delimiter) (inside rest : Document)
  deriving DecidableEq, Repr

/-- Whether a text can stand between the quotes of a string, behind the character `last`. It holds
no delimiter, each quote in it stands right behind a backslash, and its end is no backslash. -/
def isStringBody (last : Char) : List Char → Bool
  | [] => last != '\\'
  | c :: rest =>
      !isOpener c && !isCloser c && (c != '"' || last == '\\') && isStringBody c rest

namespace Document

/-- The text of a document. -/
def render : Document → Text
  | nil => []
  | blank c rest => c :: rest.render
  | atom chars rest => chars ++ rest.render
  | string body rest => '"' :: (body ++ '"' :: rest.render)
  | list kind inside rest => kind.opener :: (inside.render ++ kind.closer :: rest.render)

def startsWithAtom : Document → Bool
  | atom _ _ => true
  | _ => false

/-- Whether the pieces are what their names say, and no atom follows another without a blank. -/
def isWellFormed : Document → Bool
  | nil => true
  | blank c rest => isBlank c && rest.isWellFormed
  | atom chars rest =>
      !chars.isEmpty && chars.all isToken && !rest.startsWithAtom && rest.isWellFormed
  | string body rest => isStringBody '"' body && rest.isWellFormed
  | list _ inside rest => inside.isWellFormed && rest.isWellFormed

/-- The forms of the document itself, not those inside its lists, for a text that stands from the
offset `here` on. -/
def formsAt (here : Nat) : Document → List Form
  | nil => []
  | blank _ rest => rest.formsAt (here + 1)
  | atom chars rest =>
      .atom ⟨here, here + chars.length⟩ :: rest.formsAt (here + chars.length)
  | string body rest =>
      .string ⟨here, here + body.length + 2⟩ :: rest.formsAt (here + body.length + 2)
  | list kind inside rest =>
      let stop := here + inside.render.length + 2
      .list kind ⟨here, stop⟩ :: rest.formsAt stop

def leaves : Document → List Text
  | nil => []
  | blank _ rest => rest.leaves
  | atom chars rest => chars :: rest.leaves
  | string body rest => ('"' :: (body ++ ['"'])) :: rest.leaves
  | list _ inside rest => inside.leaves ++ rest.leaves

def append : Document → Document → Document
  | nil, d => d
  | blank c rest, d => blank c (rest.append d)
  | atom chars rest, d => atom chars (rest.append d)
  | string body rest, d => string body (rest.append d)
  | list kind inside rest, d => list kind inside (rest.append d)

theorem render_append (d e : Document) : (d.append e).render = d.render ++ e.render := by
  induction d with
  | nil => rfl
  | blank c rest ih => simp only [append, render, ih, List.cons_append]
  | atom chars rest ih => simp only [append, render, ih, List.append_assoc]
  | string body rest ih => simp only [append, render, ih, List.cons_append, List.append_assoc]
  | list kind inside rest _ ih =>
      simp only [append, render, ih, List.cons_append, List.append_assoc]

end Document

/-- Whether a text is that of a well-formed document. -/
def Text.WellFormed (t : Text) : Prop :=
  ∃ d : Document, d.isWellFormed = true ∧ d.render = t

end LispEditor
