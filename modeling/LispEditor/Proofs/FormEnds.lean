import LispEditor.Proofs.BeforeCaret
import LispEditor.Proofs.Extents

set_option autoImplicit false
set_option relaxedAutoImplicit false

/-!
# Where the form before the caret ends

In any text, well nested or not, the form before the caret is settled by a cut of the text at the
last character of the form. Where the caret stands behind this cut does not matter, as long as only
blanks are between: from there the same form is found.
-/

namespace LispEditor

namespace Text

private theorem not_token_behind_tokens (t : Text) (offset : Nat) :
    ∀ c ∈ (t.drop (offset + ((t.drop offset).takeWhile isToken).length)).head?,
      isToken c = false := by
  have rest : t.drop (offset + ((t.drop offset).takeWhile isToken).length) =
      (t.drop offset).dropWhile isToken := calc
    _ = (t.drop offset).drop ((t.drop offset).takeWhile isToken).length := List.drop_drop.symm
    _ = ((t.drop offset).takeWhile isToken ++ (t.drop offset).dropWhile isToken).drop
        ((t.drop offset).takeWhile isToken).length := by rw [List.takeWhile_append_dropWhile]
    _ = _ := List.drop_left
  have stops := List.head?_dropWhile_not isToken (t.drop offset)
  intro c first
  rw [rest, Option.mem_def] at first
  rw [first] at stops
  exact stops

private theorem apart_at_tokenEnd (t : Text) (offset : Nat) :
    (∀ c ∈ (t.take (t.tokenEnd offset)).getLast?, isToken c = false) ∨
      ∀ c ∈ (t.drop (t.tokenEnd offset)).head?, isToken c = false := by
  unfold tokenEnd
  dsimp only
  split_ifs with inside
  · exact .inr (t.not_token_behind_tokens offset)
  · by_contra! meet
    obtain ⟨⟨c, last, tokenLast⟩, d, first, tokenFirst⟩ := meet
    rw [List.head?_drop, Option.mem_def] at first
    rw [Option.mem_def] at last
    have short := (List.getElem?_eq_some_iff.mp first).1
    have positive : 0 < offset := by
      rw [Nat.pos_iff_ne_zero]
      rintro rfl
      cases last
    have before : (t.take offset).getLast? = t[offset - 1]? := by
      simp [List.getLast?_take, Nat.ne_of_gt positive,
        List.getElem?_eq_getElem (show offset - 1 < t.length by omega)]
    rw [before] at last
    simp [positive, first, last, tokenFirst, tokenLast] at inside

/-- Whether the form `s` ends with the character `c` of the text, in front of `back`: the scan from
`c` gives the form its start, and `c` is the last character of its token, if it is in one. -/
structure FormEnds (front : Text) (c : Char) (back : Text) (s : Span) : Prop where
  solid : isBlank c = false
  apart : isToken c = false ∨ ∀ d ∈ back.head?, isToken d = false
  start : formStart? c front.reverse = some s.start
  stop : s.stop = front.length + 1
  proper : s.start < s.stop

variable {front back : Text} {c : Char} {s : Span}

theorem exists_formEnds {t : Text} {offset : Nat} (h : t.formBefore offset = .ok s) :
    ∃ front c back, t = front ++ c :: back ∧ FormEnds front c back s := by
  unfold formBefore at h
  dsimp only at h
  split at h
  · cases h
  · rename_i c before seen
    obtain ⟨solid, gap, taken, blank⟩ := exists_gap_of_solidBack seen
    split at h
    · cases h
    · rename_i start found
      split_ifs at h with proper
      cases h
      refine ⟨before.reverse, c, gap ++ t.drop (t.tokenEnd (t.clamp offset)), ?_, solid, ?_, ?_, ?_,
        proper⟩
      · rw [← List.cons_append, ← List.append_assoc, ← taken, List.take_append_drop]
      · -- Right behind the character is the caret, which no token goes on at, or else a blank.
        have apart := t.apart_at_tokenEnd (t.clamp offset)
        cases gap with
        | nil =>
            rw [taken, List.getLast?_concat] at apart
            exact apart.imp (fun last => last c rfl) id
        | cons d gap =>
            right
            rintro e same
            obtain rfl : d = e := Option.some.inj same
            exact isToken_of_isBlank (blank d List.mem_cons_self)
      · rw [List.reverse_reverse, found]
      · rw [List.length_reverse]

theorem FormEnds.stop_le (h : FormEnds front c back s) :
    s.stop ≤ (front ++ c :: back).length := by
  have stop := h.stop
  simp only [List.length_append, List.length_cons]
  omega

theorem FormEnds.getElem?_last (h : FormEnds front c back s) :
    (front ++ c :: back)[s.stop - 1]? = some c := by
  rw [h.stop, Nat.add_sub_cancel, getElem?_length_append]
  rfl

theorem FormEnds.formBefore {gap rest : Text} (h : FormEnds front c (gap ++ rest) s)
    (blank : ∀ d ∈ gap, isBlank d = true) :
    formBefore (front ++ c :: (gap ++ rest)) (s.stop + gap.length) = .ok s := by
  have apart : isToken c = false ∨ gap ≠ [] ∨ ∀ d ∈ rest.head?, isToken d = false := by
    by_cases empty : gap = []
    · subst empty
      exact h.apart.imp_right .inr
    · exact .inr (.inl empty)
  have found := formBefore_append rest h.solid blank apart h.start
  rw [← h.stop, if_pos h.proper, List.append_assoc, List.singleton_append, List.length_append,
    List.length_singleton, ← h.stop] at found
  exact found

end Text

end LispEditor
