import LispEditor.Form.Before

set_option autoImplicit false
set_option relaxedAutoImplicit false

/-!
# What an evaluation takes

A selection that holds something wins; without one it is the form before the caret.
-/

namespace LispEditor

/-- The code to evaluate and where it stands. -/
structure EvalTarget where
  code : Text
  span : Span
  deriving DecidableEq, Repr

namespace Text

/-- The part of a selection that lies in the text, whichever end comes first; none if empty. -/
def selected? (t : Text) (selection : Span) : Option Span :=
  let span : Span :=
    ⟨t.clamp (min selection.start selection.stop), t.clamp (max selection.start selection.stop)⟩
  if span.isEmpty then none else some span

def evalTarget (t : Text) (offset : Nat) (selection : Option Span) :
    Except Refusal EvalTarget := do
  let span ← match selection.bind t.selected? with
    | some span => .ok span
    | none => t.formBefore offset
  let code := t.slice span
  if code.all isBlank then .error (.blankSelection offset) else .ok ⟨code, span⟩

end Text

end LispEditor
