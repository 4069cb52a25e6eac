import LispEditor.Proofs.Caret

set_option autoImplicit false
set_option relaxedAutoImplicit false

/-!
# Edits that undo each other

An edit keeps the offset of the caret while the text around it changes. The list around the caret is
the same one all the same, only longer or shorter, as long as the caret is not behind what stays in
it. So a barf can take back a slurp, and a slurp a barf. What stands in the way is what an edit does
not remember: blanks in front of the closer, the space that a barf puts in, and atoms that have
become one.
-/

namespace LispEditor

namespace Caret

variable (c : Caret)

/-! ## Around the brackets -/

private theorem getElem?_stop : c.text[c.list.stop]? = (c.after.render ++ c.outer.right).head? := by
  rw [← c.drop_stop, List.head?_drop]

private theorem endsSolid_inner (h : c.text.blankAt (c.list.stop - 2) = false) :
    c.inner.render.EndsSolid := by
  have front : c.front.EndsSolid := by
    intro d last
    have place : c.list.stop - 2 = c.front.length - 1 := by
      rw [list_stop]
      omega
    have positive : 0 < c.front.length := List.length_pos_of_mem (List.mem_of_getLast? last)
    rw [place, text_eq, Text.blankAt, Text.getElem?_pred_length_append _ positive,
      Option.mem_def.mp last] at h
    exact h
  exact Text.EndsSolid.of_append front

private theorem gap_ne_nil (s : c.after.FirstForm) (h : c.text.blankAt c.list.stop = true) :
    s.gap ≠ [] := by
  intro empty
  have wfForm := (Document.wellFormed_of_append (s.wellFormed c.wfAfter).1).2
  obtain ⟨d, chars, first, solid⟩ := Document.exists_solid_head s.isForm wfForm
  rw [Text.blankAt, getElem?_stop, s.render_eq, empty, first] at h
  simp [solid] at h

private theorem not_startsWithAtom_after (h : c.text.tokenAt c.list.stop = false) :
    c.after.startsWithAtom = false := by
  cases after : c.after with
  | nil | blank | string | list => rfl
  | atom chars rest =>
      have wf := c.wfAfter
      rw [after] at wf
      obtain ⟨nonempty, tokens, -, -⟩ := Document.wellFormed_atom.mp wf
      obtain ⟨d, chars, rfl⟩ := List.exists_cons_of_ne_nil nonempty
      rw [Text.tokenAt, getElem?_stop, after] at h
      simp [Document.render, tokens d List.mem_cons_self] at h

private theorem solidEnd_keptFront (l : c.inner.LastForm) :
    c.text.SolidEnd ((c.keptFront l).length + l.gap.length) (c.keptFront l).length := by
  rw [text_eq_keptFront c l]
  exact Text.solidEnd_append (c.endsSolid_keptFront l) (c.keptFront_ne_nil l)
    (l.wellFormed c.wfInner).2.1 _

private theorem stays_of_le (l : c.inner.LastForm)
    (h : min c.offset c.text.length ≤ (c.keptFront l).length) :
    c.left.length ≤ l.kept.render.length := by
  have inside := c.offset_lt_length
  rw [length_keptFront, Nat.min_eq_left (Nat.le_of_lt inside), offset] at h
  omega

/-! ## Taking an edit back -/

/-- A slurped form is the last one of the list, behind what was there before. -/
def slurpedLast (s : c.after.FirstForm) (solid : c.inner.render.EndsSolid) (gap : s.gap ≠ []) :
    (c.slurped s).inner.LastForm where
  kept := c.inner
  gap := s.gap
  form := s.form
  tail := []
  split := by
    have apart : ((Document.blanks s.gap).append s.form).startsWithAtom = false := by
      obtain ⟨d, more, same⟩ := List.exists_cons_of_ne_nil gap
      rw [same]
      rfl
    have wf := Document.wellFormed_append c.wfInner (s.wellFormed c.wfAfter).1 apart
    show c.inner.join _ = _
    rw [Document.join_eq_append wf, Document.blanks, Document.append_nil, Document.append_assoc]
  solid := solid
  isForm := s.isForm

private theorem barfedDocument_slurped (s : c.after.FirstForm) (solid : c.inner.render.EndsSolid)
    (gap : s.gap ≠ []) :
    (c.slurped s).barfedDocument (c.slurpedLast s solid gap) = c.document := by
  have wf := c.wfAfter
  rw [s.split] at wf
  have behind : (c.slurpedLast s solid gap).putBefore s.rest = c.after := by
    have wfForm := (Document.wellFormed_of_append wf).2
    rw [Document.LastForm.putBefore, slurpedLast, Text.barfGap, if_neg gap, Document.blanks,
      Document.append_nil, Document.join_eq_append wfForm, Document.blanks_join]
    exact s.split.symm
  show (Context.within c.before c.kind ((c.slurpedLast s solid gap).putBefore s.rest) c.outer).plug
    c.inner = _
  rw [behind]
  rfl

/-- A barfed form is the first one behind the list, if it has not become one with an atom there. -/
def barfedFirst (l : c.inner.LastForm) (stays : c.left.length ≤ l.kept.render.length)
    (gap : l.gap ≠ []) (flush : l.tail = [])
    (apart : ∀ chars, l.form = .atom chars .nil → c.after.startsWithAtom = false) :
    (c.barfed l stays).after.FirstForm where
  gap := l.gap
  form := l.form
  rest := c.after
  split := by
    have wfForm := (Document.wellFormed_of_append (l.wellFormed c.wfInner).2.2).1
    have wf := Document.wellFormed_form_append l.isForm wfForm c.wfAfter apart
    show l.putBefore c.after = _
    rw [Document.LastForm.putBefore, flush, Text.barfGap, if_neg gap, Document.blanks,
      Document.append_nil, Document.join_eq_append wf, Document.blanks_join]
  isForm := l.isForm

private theorem document_slurped_barfed (l : c.inner.LastForm)
    (stays : c.left.length ≤ l.kept.render.length) (gap : l.gap ≠ []) (flush : l.tail = [])
    (apart : ∀ chars, l.form = .atom chars .nil → c.after.startsWithAtom = false) :
    ((c.barfed l stays).slurped (c.barfedFirst l stays gap flush apart)).document = c.document := by
  have whole : c.inner = l.kept.append ((Document.blanks l.gap).append l.form) := by
    have split := l.split
    rwa [flush, Document.blanks, Document.append_nil, Document.append_assoc] at split
  have wf := c.wfInner
  rw [whole] at wf
  show (Context.within c.before c.kind c.after c.outer).plug
    (l.kept.join ((Document.blanks l.gap).append l.form)) = c.context.plug c.inner
  rw [Document.join_eq_append wf, ← whole]
  rfl

end Caret

namespace Text

/-- In a well-formed text a barf takes back a slurp, if no blank is in front of the closer of the
list and some blank is behind it. -/
theorem barfForward_of_slurpForward {t : Text} (wf : t.WellFormed) {offset : Nat} {list : Span}
    {kind : Delimiter} (around : t.enclosing? offset = some ⟨list, kind⟩) {patch : Patch}
    (done : t.slurpForward offset = .ok patch) (solid : t.blankAt (list.stop - 2) = false)
    (gap : t.blankAt list.stop = true) :
    patch.text.barfForward patch.offset = .ok ⟨t, min offset t.length⟩ := by
  obtain ⟨c, s, rfl, rfl, rfl⟩ := Caret.exists_slurped wf done
  cases c.enclosing?_eq.symm.trans around
  have solidInner := c.endsSolid_inner solid
  have nonempty := c.gap_ne_nil s gap
  have undone := (c.slurped s).barfForward_eq (c.slurpedLast s solidInner nonempty)
  rw [c.barfedDocument_slurped s solidInner nonempty] at undone
  rw [Nat.min_eq_left (Nat.le_of_lt c.offset_lt_length)]
  exact undone

theorem barfForward_takes_string_back :
    slurpForward "[ab]\n\"\\\"\"".toList 3 = .ok ⟨"[ab\n\"\\\"\"]".toList, 3⟩ ∧
    barfForward "[ab\n\"\\\"\"]".toList 3 = .ok ⟨"[ab]\n\"\\\"\"".toList, 3⟩ := by
  have wf : WellFormed "[ab]\n\"\\\"\"".toList :=
    ⟨.list .bracket (.atom ['a', 'b'] .nil) (.blank '\n' (.string ['\\', '"'] .nil)), by decide,
      by decide⟩
  have around : enclosing? "[ab]\n\"\\\"\"".toList 3 = some ⟨⟨0, 4⟩, .bracket⟩ := by decide
  have slurped : slurpForward "[ab]\n\"\\\"\"".toList 3 = .ok ⟨"[ab\n\"\\\"\"]".toList, 3⟩ := by
    decide
  exact ⟨slurped, barfForward_of_slurpForward wf around slurped (by decide) (by decide)⟩

/-- In a well-formed text a slurp takes back a barf, if blanks were in front of the child and none
behind it, the caret is not behind what stays in the list, and the child has not become one with an
atom. -/
theorem slurpForward_of_barfForward {t : Text} (wf : t.WellFormed) {offset : Nat} {list : Span}
    {kind : Delimiter} (around : t.enclosing? offset = some ⟨list, kind⟩) {child : Form}
    (last : t.lastChild? list = some child) {patch : Patch}
    (done : t.barfForward offset = .ok patch) (gap : t.blankAt (child.span.start - 1) = true)
    (flush : child.span.stop + 1 = list.stop) {place : Nat}
    (behind : t.SolidEnd child.span.start place) (caret : min offset t.length ≤ place)
    (apart : ∀ span, child = .atom span → t.tokenAt list.stop = false) :
    patch.text.slurpForward patch.offset = .ok ⟨t, offset⟩ := by
  obtain ⟨c, l, rfl, rfl, rfl⟩ := Caret.exists_barfed wf done
  cases c.enclosing?_eq.symm.trans around
  obtain ⟨f, found, single, start, stop⟩ := c.exists_lastChild l
  cases found.symm.trans last
  have stays : c.left.length ≤ l.kept.render.length := by
    rw [start] at behind
    rw [behind.unique (c.solidEnd_keptFront l)] at caret
    exact c.stays_of_le l caret
  have nonempty : l.gap ≠ [] := by
    rw [start, c.text_eq_keptFront l] at gap
    exact (blankAt_pred_iff (c.endsSolid_keptFront l) (c.keptFront_ne_nil l)
      (l.wellFormed c.wfInner).2.1 _).mp gap
  have noTail : l.tail = [] := by
    rw [stop, c.list_stop_eq_keptFront l, List.length_append] at flush
    rw [← List.length_eq_zero_iff]
    omega
  have separate : ∀ chars, l.form = .atom chars .nil → c.after.startsWithAtom = false := by
    intro chars isAtom
    rw [isAtom] at single
    exact c.not_startsWithAtom_after (apart _ (List.cons.inj single).1.symm)
  have undone := (c.barfed l stays).slurpForward_eq (c.barfedFirst l stays nonempty noTail separate)
  have restored : Caret.text _ = c.text :=
    congrArg Document.render (c.document_slurped_barfed l stays nonempty noTail separate)
  rw [restored] at undone
  exact undone

theorem slurpForward_takes_atom_back :
    barfForward "(foo (bar baz) qux)".toList 9 = .ok ⟨"(foo (bar) baz qux)".toList, 9⟩ ∧
    slurpForward "(foo (bar) baz qux)".toList 9 = .ok ⟨"(foo (bar baz) qux)".toList, 9⟩ := by
  have wf : WellFormed "(foo (bar baz) qux)".toList :=
    ⟨.list .paren (.atom "foo".toList (.blank ' ' (.list .paren (.atom "bar".toList
      (.blank ' ' (.atom "baz".toList .nil))) (.blank ' ' (.atom "qux".toList .nil))))) .nil,
      by decide, by decide⟩
  have around : enclosing? "(foo (bar baz) qux)".toList 9 = some ⟨⟨5, 14⟩, .paren⟩ := by decide
  have last : lastChild? "(foo (bar baz) qux)".toList ⟨5, 14⟩ = some (.atom ⟨10, 13⟩) := by cbv
  have barfed : barfForward "(foo (bar baz) qux)".toList 9 =
      .ok ⟨"(foo (bar) baz qux)".toList, 9⟩ := by cbv
  have behind : SolidEnd "(foo (bar baz) qux)".toList 10 9 := by
    refine ⟨by decide, by decide, ⟨'r', rfl, rfl⟩, ?_⟩
    intro i above below
    obtain rfl : i = 9 := by omega
    rfl
  exact ⟨barfed, slurpForward_of_barfForward wf around last barfed rfl rfl behind (by decide)
    fun _ _ => rfl⟩

/-- In a well-formed text, the list around the caret after an edit is the one from before: up to the
end of the form that was slurped, or up to what stays in it after a barf, if the caret is not behind
that. -/
theorem enclosing?_after_edit {t : Text} (wf : t.WellFormed) {offset : Nat} {list : Span}
    {kind : Delimiter} (around : t.enclosing? offset = some ⟨list, kind⟩) :
    (∀ patch, t.slurpForward offset = .ok patch →
      ∃ sibling, t.nextForm? list.stop = some sibling ∧
        patch.text.enclosing? patch.offset = some ⟨⟨list.start, sibling.span.stop⟩, kind⟩) ∧
    (∀ patch, t.barfForward offset = .ok patch →
      ∃ child place, t.lastChild? list = some child ∧ t.SolidEnd child.span.start place ∧
        (min offset t.length ≤ place →
          patch.text.enclosing? patch.offset = some ⟨⟨list.start, place + 1⟩, kind⟩) ∧
        place + 1 + child.span.length ≤ list.stop) := by
  constructor
  · intro patch done
    obtain ⟨c, s, rfl, rfl, rfl⟩ := Caret.exists_slurped wf done
    cases c.enclosing?_eq.symm.trans around
    obtain ⟨sibling, next, stop⟩ := c.exists_sibling s
    refine ⟨sibling, next, ?_⟩
    rw [stop, ← c.slurped_list s]
    exact (c.slurped s).enclosing?_eq
  · intro patch done
    obtain ⟨c, l, rfl, rfl, rfl⟩ := Caret.exists_barfed wf done
    cases c.enclosing?_eq.symm.trans around
    obtain ⟨child, last, -, start, stop⟩ := c.exists_lastChild l
    refine ⟨child, (c.keptFront l).length, last, ?_, ?_, ?_⟩
    · rw [start]
      exact c.solidEnd_keptFront l
    · intro caret
      rw [c.length_keptFront l]
      exact (c.barfed l (c.stays_of_le l caret)).enclosing?_eq
    · rw [Span.length, start, stop, c.list_stop_eq_keptFront l, List.length_append]
      omega

theorem enclosing?_after_edit_of_glued_atoms :
    (slurpForward "(x (a b)c)".toList 5 = .ok ⟨"(x (a bc))".toList, 5⟩ ∧
      enclosing? "(x (a bc))".toList 5 = some ⟨⟨3, 9⟩, .paren⟩) ∧
    (barfForward "(x (a b)c)".toList 5 = .ok ⟨"(x (a) bc)".toList, 5⟩ ∧
      enclosing? "(x (a) bc)".toList 5 = some ⟨⟨3, 6⟩, .paren⟩) := by
  have wf : WellFormed "(x (a b)c)".toList :=
    ⟨.list .paren (.atom ['x'] (.blank ' ' (.list .paren (.atom ['a'] (.blank ' '
      (.atom ['b'] .nil))) (.atom ['c'] .nil)))) .nil, by decide, by decide⟩
  have around : enclosing? "(x (a b)c)".toList 5 = some ⟨⟨3, 8⟩, .paren⟩ := by decide
  have next : nextForm? "(x (a b)c)".toList 8 = some (.atom ⟨8, 9⟩) := by decide
  have last : lastChild? "(x (a b)c)".toList ⟨3, 8⟩ = some (.atom ⟨6, 7⟩) := by cbv
  have slurped : slurpForward "(x (a b)c)".toList 5 = .ok ⟨"(x (a bc))".toList, 5⟩ := by decide
  have barfed : barfForward "(x (a b)c)".toList 5 = .ok ⟨"(x (a) bc)".toList, 5⟩ := by cbv
  have behind : SolidEnd "(x (a b)c)".toList 6 5 := by
    refine ⟨by decide, by decide, ⟨'a', rfl, rfl⟩, ?_⟩
    intro i above below
    obtain rfl : i = 5 := by omega
    rfl
  obtain ⟨slurp, barf⟩ := enclosing?_after_edit wf around
  refine ⟨⟨slurped, ?_⟩, barfed, ?_⟩
  · obtain ⟨f, found, same⟩ := slurp _ slurped
    cases next.symm.trans found
    exact same
  · obtain ⟨f, place, found, ends, same, -⟩ := barf _ barfed
    cases last.symm.trans found
    obtain rfl := behind.unique ends
    exact same (by decide)

end Text

end LispEditor
