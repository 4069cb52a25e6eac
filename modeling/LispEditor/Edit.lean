import LispEditor.Form.Basic
import LispEditor.Refusal

set_option autoImplicit false
set_option relaxedAutoImplicit false

/-!
# Structural edits

An edit moves the closer of the list around the caret, and nothing else: forward past the form that
follows the list, or backward in front of its last child.
-/

namespace LispEditor

/-- A whole new text with the caret in it. -/
structure Patch where
  text : Text
  offset : Nat
  deriving DecidableEq, Repr

namespace Text

def slurpForward (t : Text) (offset : Nat) : Except Refusal Patch :=
  let offset := t.clamp offset
  match t.enclosing? offset with
  | none => .error (.outsideList .slurpForward offset)
  | some ⟨list, kind⟩ =>
      match t.nextForm? list.stop with
      | none => .error (.nothingFollows list)
      | some sibling =>
          .ok {
            text := t.take (list.stop - 1) ++ t.slice ⟨list.stop, sibling.span.stop⟩ ++
              kind.closer :: t.drop sibling.span.stop
            offset }

/-- Put the last child of the list around the caret behind the list. The blanks in front of the
child stay between them; if there are none, a space is put there. -/
def barfForward (t : Text) (offset : Nat) : Except Refusal Patch :=
  let offset := t.clamp offset
  match t.enclosing? offset with
  | none => .error (.outsideList .barfForward offset)
  | some ⟨list, kind⟩ =>
      match t.lastChild? list with
      | none => .error (.emptyList list)
      | some child =>
          let stop := ((t.solidBefore? child.span.start).map (· + 1)).getD child.span.start
          let gap := if stop = child.span.start then [' '] else t.slice ⟨stop, child.span.start⟩
          .ok {
            text := t.take stop ++ kind.closer :: gap ++
              t.slice ⟨child.span.start, list.stop - 1⟩ ++ t.drop list.stop
            offset }

end Text

def Command.apply : Command → Text → Nat → Except Refusal Patch
  | slurpForward => Text.slurpForward
  | barfForward => Text.barfForward

end LispEditor
