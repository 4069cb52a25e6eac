import LispEditor.Proofs.Caret

set_option autoImplicit false
set_option relaxedAutoImplicit false

/-!
# Edits of well-formed documents

Either edit makes the text of a well-formed document from one, and so is every text that a sequence
of edits passes through.
-/

namespace LispEditor

namespace Text

private theorem WellFormed.slurpForward {t : Text} (h : t.WellFormed) {offset : Nat} {patch : Patch}
    (done : t.slurpForward offset = .ok patch) : patch.text.WellFormed := by
  obtain ⟨c, s, rfl, rfl, rfl⟩ := Caret.exists_slurped h done
  exact .of_document (c.slurped s).wellFormed_document

private theorem WellFormed.barfForward {t : Text} (h : t.WellFormed) {offset : Nat} {patch : Patch}
    (done : t.barfForward offset = .ok patch) : patch.text.WellFormed := by
  obtain ⟨c, l, rfl, rfl, rfl⟩ := Caret.exists_barfed h done
  exact .of_document (c.wellFormed_barfedDocument l)

end Text

/-- The text after a command at an offset; a command that does not apply there keeps it. -/
def Command.edit (command : Command) (t : Text) (offset : Nat) : Text :=
  match command.apply t offset with
  | .ok patch => patch.text
  | .error _ => t

namespace Text

/-- The texts after each of the steps, a command with its offset each. -/
def history (t : Text) : List (Command × Nat) → List Text
  | [] => []
  | (command, offset) :: steps =>
      command.edit t offset :: history (command.edit t offset) steps

private theorem WellFormed.edit {t : Text} (h : t.WellFormed) (command : Command) (offset : Nat) :
    (command.edit t offset).WellFormed := by
  unfold Command.edit
  split
  · rename_i patch done
    cases command with
    | slurpForward => exact h.slurpForward done
    | barfForward => exact h.barfForward done
  · exact h

/-- Whatever edits are made, the text stays that of a well-formed document. -/
theorem wellFormed_history (t : Text) (h : t.WellFormed) (steps : List (Command × Nat)) :
    ∀ u ∈ t.history steps, u.WellFormed ∧ u.WellNested := by
  induction steps generalizing t with
  | nil => simp [history]
  | cons step steps ih =>
      obtain ⟨command, offset⟩ := step
      have first := h.edit command offset
      intro u hu
      rcases List.mem_cons.mp hu with rfl | later
      · exact ⟨first, first.wellNested⟩
      · exact ih _ first u later

theorem wellFormed_slurped_atoms :
    WellFormed ['(', 'a', ')', 'b'] ∧
      WellFormed ['(', 'a', 'b', ')'] ∧ WellNested ['(', 'a', 'b', ')'] := by
  have before : WellFormed ['(', 'a', ')', 'b'] :=
    ⟨.list .paren (.atom ['a'] .nil) (.atom ['b'] .nil), by decide, rfl⟩
  have slurped : Command.slurpForward.edit ['(', 'a', ')', 'b'] 1 = ['(', 'a', 'b', ')'] := by
    decide
  refine ⟨before, ?_⟩
  refine wellFormed_history _ before [(.slurpForward, 1), (.barfForward, 99)] _ ?_
  exact List.mem_cons.mpr (.inl slurped.symm)

end Text

end LispEditor
