import LispEditor.Command
import LispEditor.Text.Span

set_option autoImplicit false
set_option relaxedAutoImplicit false

/-!
# Refusals

An operation at the caret either gives its result or the reason why it does not apply there.
-/

namespace LispEditor

/-- Why an operation does not apply at an offset. -/
inductive Refusal where
  /-- No list is around the offset. -/
  | outsideList (command : Command) (offset : Nat)
  /-- No form follows the list in front of the next closer. -/
  | nothingFollows (list : Span)
  /-- The list has no child. -/
  | emptyList (list : Span)
  /-- Only blanks stand in front of the offset. -/
  | nothingBefore (offset : Nat)
  /-- What stands in front of the offset ends no form. -/
  | noForm
  /-- The selected text is all blank. -/
  | blankSelection (offset : Nat)
  deriving DecidableEq, Repr

def Span.shown (s : Span) : String :=
  toString s.start ++ ".." ++ toString s.stop

def Refusal.note? : Refusal → Option String
  | outsideList command offset =>
      some (command.id ++ ": offset " ++ toString offset ++ " is not inside a list")
  | nothingFollows list => some ("slurp-forward: no form follows list " ++ list.shown)
  | emptyList list => some ("barf-forward: list " ++ list.shown ++ " is empty")
  | nothingBefore offset =>
      some ("form-before-cursor: nothing before offset " ++ toString offset)
  | noForm => none
  | blankSelection offset => some ("eval: nothing to evaluate at offset " ++ toString offset)

end LispEditor
