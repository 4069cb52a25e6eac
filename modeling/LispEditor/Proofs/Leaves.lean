import LispEditor.Proofs.BeforeCaret
import LispEditor.Proofs.Caret
import LispEditor.Proofs.Parsing

set_option autoImplicit false
set_option relaxedAutoImplicit false

/-!
# The leaves under an edit

The leaves of a document are its atoms and strings, from left to right. An edit moves a form past a
closer and so keeps them in order. But it takes the closer away from where it was, and if this stood
between two token characters, the atoms on both sides of it become one. Nothing else can happen to
the leaves: a string ends with its quote, whatever comes to stand next to it.
-/

namespace LispEditor

namespace Text

/-- Whether the closer of the list stands right between two token characters. -/
def PartsTokens (t : Text) (list : Span) : Prop :=
  endsInToken (t.take (list.stop - 1)) = true ∧ startsWithToken (t.drop list.stop) = true

instance (t : Text) (list : Span) : Decidable (t.PartsTokens list) :=
  inferInstanceAs (Decidable (_ ∧ _))

def lastTokens (t : Text) : Text :=
  t.rtakeWhile isToken

def firstTokens (t : Text) : Text :=
  t.takeWhile isToken

section Right

variable {right : Text} (stops : ∀ c ∈ right.head?, isToken c = false)
include stops

private theorem startsWithToken_append_of_stops (t : Text) :
    (t ++ right).startsWithToken = t.startsWithToken := by
  cases t with
  | nil =>
      cases right with
      | nil => rfl
      | cons c right => exact stops c rfl
  | cons c t => rfl

private theorem firstTokens_append (t : Text) : (t ++ right).firstTokens = t.firstTokens := by
  induction t with
  | nil =>
      cases right with
      | nil => rfl
      | cons c right => simp [firstTokens, stops c rfl]
  | cons c t ih =>
      rw [firstTokens] at ih
      simp only [firstTokens, List.cons_append, List.takeWhile_cons, ih]

end Right

section Left

variable {left : Text} (stops : ∀ c ∈ left.getLast?, isToken c = false)
include stops

private theorem endsInToken_append_of_stops (t : Text) :
    (left ++ t).endsInToken = t.endsInToken := by
  by_cases empty : t = []
  · rw [empty, List.append_nil, endsInToken]
    cases last : left.getLast? with
    | none => rfl
    | some c => exact stops c last
  · exact endsInToken_append empty

private theorem lastTokens_append (t : Text) : (left ++ t).lastTokens = t.lastTokens := by
  have stopsBack : ∀ c ∈ left.reverse.head?, isToken c = false := by
    rwa [List.head?_reverse]
  have same := firstTokens_append stopsBack t.reverse
  rw [← List.reverse_append] at same
  exact congrArg List.reverse same

end Left

end Text

namespace Document

/-- Whether the second sequence of leaves is the first one with the neighbours `x` and `y` made
one. -/
def Glued (x y : Text) (leaves fewer : List Text) : Prop :=
  ∃ front back : List Text, leaves = front ++ x :: y :: back ∧ fewer = front ++ (x ++ y) :: back

/-- Whether the leaves of `e` are those of `d`, but for two atoms that only the closer of the list
parts: if there are such atoms, they are one in `e`. -/
structure KeepsLeaves (d : Document) (list : Span) (e : Document) : Prop where
  same : e.leaves = d.leaves ↔ ¬ d.render.PartsTokens list
  glued : d.render.PartsTokens list →
    Glued (Text.lastTokens (d.render.take (list.stop - 1)))
      (Text.firstTokens (d.render.drop list.stop)) d.leaves e.leaves

private theorem Glued.ne {x y : Text} {leaves fewer : List Text} (h : Glued x y leaves fewer) :
    fewer ≠ leaves := by
  obtain ⟨front, back, rfl, rfl⟩ := h
  intro same
  have lengths := congrArg List.length same
  simp only [List.length_append, List.length_cons] at lengths
  omega

private theorem Glued.frame {x y : Text} {leaves fewer : List Text} (h : Glued x y leaves fewer)
    (front back : List Text) :
    Glued x y (front ++ (leaves ++ back)) (front ++ (fewer ++ back)) := by
  obtain ⟨first, last, rfl, rfl⟩ := h
  exact ⟨front ++ first, last ++ back, by simp, by simp⟩

/-! ## The leaves of a document and of its parts -/

private theorem leaves_append (d e : Document) : (d.append e).leaves = d.leaves ++ e.leaves := by
  induction d with
  | nil => rfl
  | blank c rest ih => exact ih
  | atom chars rest ih => simp only [append, leaves, ih, List.cons_append]
  | string body rest ih => simp only [append, leaves, ih, List.cons_append]
  | list kind inside rest _ ih => simp only [append, leaves, ih, List.append_assoc]

@[simp] theorem leaves_blanks (gap : List Char) : (blanks gap).leaves = [] := by
  induction gap with
  | nil => rfl
  | cons c gap ih => exact ih

private theorem exists_leaves_plug (outer : Context) (before : Document) (kind : Delimiter) :
    ∃ front back : List Text, ∀ inner after : Document,
      ((Context.within before kind after outer).plug inner).leaves =
        front ++ ((inner.leaves ++ after.leaves) ++ back) := by
  induction outer generalizing before kind with
  | top =>
      refine ⟨before.leaves, [], ?_⟩
      intro inner after
      simp [Context.plug, leaves_append, leaves]
  | within first other later outer ih =>
      obtain ⟨front, back, around⟩ := ih first other
      refine ⟨front ++ before.leaves, later.leaves ++ back, ?_⟩
      intro inner after
      rw [Context.plug, around, leaves_append, leaves]
      simp only [List.append_assoc]

private theorem FirstForm.leaves_eq {d : Document} (s : d.FirstForm) :
    d.leaves = ((blanks s.gap).append s.form).leaves ++ s.rest.leaves := by
  have whole := congrArg leaves s.split
  rwa [← append_assoc, leaves_append] at whole

private theorem LastForm.leaves_eq {d : Document} (l : d.LastForm) :
    d.leaves = l.kept.leaves ++ (l.form.append (blanks l.tail)).leaves := by
  have whole := congrArg leaves l.split
  rwa [leaves_append, leaves_append, leaves_blanks, List.append_nil] at whole

/-! ## Where two documents meet -/

private theorem lastTokens_of_atom {front : Document} {chars : List Char}
    (wf : (front.append (atom chars nil)).isWellFormed = true) :
    (front.append (atom chars nil)).render.lastTokens = chars := by
  obtain ⟨-, tokens, -, -⟩ := wellFormed_atom.mp (wellFormed_of_append wf).2
  rw [render_append, render, render, List.append_nil,
    Text.lastTokens_append (not_token_in_front wf)]
  exact List.rtakeWhile_eq_self_iff.mpr tokens

private theorem firstTokens_of_atom {chars : List Char} {rest : Document}
    (wf : (atom chars rest).isWellFormed = true) :
    (atom chars rest).render.firstTokens = chars := by
  obtain ⟨-, tokens, apart, wfRest⟩ := wellFormed_atom.mp wf
  have stops := not_token_of_startsWithAtom wfRest apart (.inl rfl)
  rw [List.append_nil] at stops
  rw [render, Text.firstTokens_append stops]
  exact List.takeWhile_eq_self_iff.mpr tokens

private theorem glued_join {d e : Document} (hd : d.isWellFormed = true)
    (he : e.isWellFormed = true) (last : d.render.endsInToken = true)
    (first : e.render.startsWithToken = true) :
    Glued d.render.lastTokens e.render.firstTokens (d.leaves ++ e.leaves) (d.join e).leaves := by
  rw [startsWithToken_render he] at first
  obtain ⟨front, chars, rfl⟩ := exists_atom_of_endsInToken hd last
  obtain ⟨more, rest, rfl⟩ := exists_atom_of_startsWithAtom first
  rw [lastTokens_of_atom hd, firstTokens_of_atom he]
  refine ⟨front.leaves, rest.leaves, ?_, ?_⟩
  · simp [leaves_append, leaves]
  · rw [join_atoms, leaves_append, leaves]

/-- Among others, the leaves of two documents that are made one stay the same exactly if no token
characters meet. -/
theorem leaves_eq_iff_apart {d e : Document} (hd : d.isWellFormed = true)
    (he : e.isWellFormed = true) {front back old new : List Text}
    (before : old = front ++ ((d.leaves ++ e.leaves) ++ back))
    (after : new = front ++ ((d.join e).leaves ++ back)) :
    (new = old ↔ ¬ (d.render.endsInToken = true ∧ e.render.startsWithToken = true)) ∧
      (d.render.endsInToken = true ∧ e.render.startsWithToken = true →
        Glued d.render.lastTokens e.render.firstTokens old new) := by
  have changes : d.render.endsInToken = true ∧ e.render.startsWithToken = true →
      Glued d.render.lastTokens e.render.firstTokens old new := by
    rintro ⟨last, first⟩
    rw [before, after]
    exact (glued_join hd he last first).frame front back
  refine ⟨⟨?_, ?_⟩, changes⟩
  · intro same meet
    exact (changes meet).ne same
  · intro apart
    rw [before, after, join_eq_append_of_apart hd he apart, leaves_append]

private theorem render_ne_nil_of_isForm {form : Document} (isForm : form.isForm = true)
    (wf : form.isWellFormed = true) : form.render ≠ [] := by
  obtain ⟨c, chars, same, -⟩ := exists_solid_head isForm wf
  rw [same]
  exact List.cons_ne_nil c chars

private theorem FirstForm.startsWithToken_eq {d : Document} (s : d.FirstForm)
    (wf : d.isWellFormed = true) :
    ((blanks s.gap).append s.form).render.startsWithToken = d.render.startsWithToken := by
  have wfForm := (wellFormed_of_append (s.wellFormed wf).1).2
  have some : s.gap ++ s.form.render ≠ [] :=
    List.append_ne_nil_of_right_ne_nil _ (render_ne_nil_of_isForm s.isForm wfForm)
  rw [s.render_eq, ← List.append_assoc, Text.startsWithToken_append _ some, render_append,
    render_blanks]

private theorem LastForm.endsInToken_eq {d : Document} (l : d.LastForm)
    (wf : d.isWellFormed = true) :
    (l.form.append (blanks l.tail)).render.endsInToken = d.render.endsInToken := by
  have wfForm := (wellFormed_of_append (l.wellFormed wf).2.2).1
  have some : l.form.render ++ l.tail ≠ [] :=
    List.append_ne_nil_of_left_ne_nil (render_ne_nil_of_isForm l.isForm wfForm) _
  rw [l.render_eq, ← List.append_assoc, Text.endsInToken_append some, render_append, render_blanks]

private theorem FirstForm.firstTokens_eq {d : Document} (s : d.FirstForm)
    (wf : d.isWellFormed = true) (h : d.render.startsWithToken = true) :
    ((blanks s.gap).append s.form).render.firstTokens = d.render.firstTokens := by
  have wfPart := (s.wellFormed wf).1
  rw [← s.startsWithToken_eq wf, startsWithToken_render wfPart] at h
  obtain ⟨chars, rest, part⟩ := exists_atom_of_startsWithAtom h
  have whole : d = atom chars (rest.append s.rest) := by
    calc d = (blanks s.gap).append (s.form.append s.rest) := s.split
      _ = (atom chars rest).append s.rest := by rw [← append_assoc, part]
  rw [part] at wfPart ⊢
  rw [whole] at wf ⊢
  rw [firstTokens_of_atom wfPart, firstTokens_of_atom wf]

private theorem LastForm.lastTokens_eq {d : Document} (l : d.LastForm) (wf : d.isWellFormed = true)
    (h : d.render.endsInToken = true) :
    (l.form.append (blanks l.tail)).render.lastTokens = d.render.lastTokens := by
  have wfPart := (l.wellFormed wf).2.2
  rw [← l.endsInToken_eq wf] at h
  obtain ⟨front, chars, part⟩ := exists_atom_of_endsInToken wfPart h
  have whole : d = ((l.kept.append (blanks l.gap)).append front).append (atom chars nil) := by
    calc d = _ := l.split
      _ = (l.kept.append (blanks l.gap)).append (front.append (atom chars nil)) := by
        rw [← part, append_assoc]
      _ = _ := (append_assoc _ _ _).symm
  rw [part] at wfPart ⊢
  rw [whole] at wf ⊢
  rw [lastTokens_of_atom wfPart, lastTokens_of_atom wf]

end Document

namespace Caret

variable (c : Caret)

private theorem take_closer : c.text.take (c.list.stop - 1) = c.context.left ++ c.inner.render := by
  rw [c.list_stop, Nat.add_sub_cancel, c.text_eq, List.take_left]
  rfl

private theorem not_token_right : ∀ d ∈ c.outer.right.head?, isToken d = false :=
  Document.not_token_of_startsWithAtom (d := .nil) rfl rfl c.outer.endsLevel_right

private theorem partsTokens_iff : c.text.PartsTokens c.list ↔
    c.inner.render.endsInToken = true ∧ c.after.render.startsWithToken = true := by
  rw [Text.PartsTokens, take_closer, drop_stop,
    Text.endsInToken_append_of_stops c.context.not_token_left,
    Text.startsWithToken_append_of_stops c.not_token_right]

private theorem keepsLeaves_of_meeting {e : Document}
    (same : e.leaves = c.document.leaves ↔
      ¬ (c.inner.render.endsInToken = true ∧ c.after.render.startsWithToken = true))
    (glued : c.inner.render.endsInToken = true ∧ c.after.render.startsWithToken = true →
      Document.Glued c.inner.render.lastTokens c.after.render.firstTokens c.document.leaves
        e.leaves) :
    c.document.KeepsLeaves c.list e := by
  refine ⟨same.trans (not_congr c.partsTokens_iff.symm), ?_⟩
  intro parts
  show Document.Glued (Text.lastTokens (c.text.take _)) (Text.firstTokens (c.text.drop _)) _ _
  rw [take_closer, drop_stop, Text.lastTokens_append c.context.not_token_left,
    Text.firstTokens_append c.not_token_right]
  exact glued (c.partsTokens_iff.mp parts)

private theorem keepsLeaves_slurped (s : c.after.FirstForm) :
    c.document.KeepsLeaves c.list (c.slurped s).document := by
  obtain ⟨front, back, around⟩ := Document.exists_leaves_plug c.outer c.before c.kind
  -- The two documents differ in where the inside of the list meets the form: in the first one they
  -- are next to each other, in the second they are joined.
  have before : c.document.leaves = _ := around c.inner c.after
  rw [s.leaves_eq, ← List.append_assoc c.inner.leaves, List.append_assoc _ s.rest.leaves] at before
  have after : (c.slurped s).document.leaves = _ :=
    around (c.inner.join ((Document.blanks s.gap).append s.form)) s.rest
  rw [List.append_assoc _ s.rest.leaves] at after
  obtain ⟨same, glued⟩ :=
    Document.leaves_eq_iff_apart c.wfInner (s.wellFormed c.wfAfter).1 before after
  rw [s.startsWithToken_eq c.wfAfter] at same glued
  refine c.keepsLeaves_of_meeting same ?_
  intro meet
  rw [← s.firstTokens_eq c.wfAfter meet.2]
  exact glued meet

private theorem keepsLeaves_barfed (l : c.inner.LastForm) :
    c.document.KeepsLeaves c.list (c.barfedDocument l) := by
  obtain ⟨front, back, around⟩ := Document.exists_leaves_plug c.outer c.before c.kind
  -- What stays in the list is in front of the two parts that are joined here.
  have before : c.document.leaves = _ := around c.inner c.after
  rw [l.leaves_eq, List.append_assoc l.kept.leaves, List.append_assoc l.kept.leaves,
    ← List.append_assoc front] at before
  have after : (c.barfedDocument l).leaves = _ := around l.kept (l.putBefore c.after)
  rw [Document.LastForm.putBefore, Document.blanks_join, Document.leaves_append,
    Document.leaves_blanks, List.nil_append, List.append_assoc l.kept.leaves,
    ← List.append_assoc front] at after
  obtain ⟨same, glued⟩ :=
    Document.leaves_eq_iff_apart (l.wellFormed c.wfInner).2.2 c.wfAfter before after
  rw [l.endsInToken_eq c.wfInner] at same glued
  refine c.keepsLeaves_of_meeting same ?_
  intro meet
  rw [← l.lastTokens_eq c.wfInner meet.1]
  exact glued meet

end Caret

namespace Document

/-- In a well-formed document a slurp keeps the leaves exactly if the closer of the list around the
offset does not stand right between two token characters. If it does, the atoms on both sides of it
become one, and the other leaves stay. -/
theorem leaves_of_slurpForward {d : Document} (wf : d.isWellFormed = true) {offset : Nat}
    {patch : Patch} (done : d.render.slurpForward offset = .ok patch) :
    ∃ (e : Document) (list : Span) (kind : Delimiter), patch.text.ParsesAs e ∧
      d.render.enclosing? offset = some ⟨list, kind⟩ ∧ d.KeepsLeaves list e := by
  obtain ⟨c, s, text, rfl, rfl⟩ := Caret.exists_slurped (.of_document wf) done
  obtain rfl := (parsesAs_render wf).unique c.document c.wellFormed_document text
  exact ⟨(c.slurped s).document, c.list, c.kind, parsesAs_render (c.slurped s).wellFormed_document,
    c.enclosing?_eq, c.keepsLeaves_slurped s⟩

theorem leaves_of_slurped_string_behind_backslash :
    Text.slurpForward "(\\)\"s\"".toList 1 = .ok ⟨"(\\\"s\")".toList, 1⟩ ∧
    ∃ e : Document, Text.ParsesAs "(\\\"s\")".toList e ∧
      e.leaves = ["\\".toList, "\"s\"".toList] := by
  have wf : (list .paren (atom ['\\'] nil) (string ['s'] nil)).isWellFormed = true := by decide
  have done : (list .paren (atom ['\\'] nil) (string ['s'] nil)).render.slurpForward 1 =
      .ok ⟨"(\\\"s\")".toList, 1⟩ := by decide
  have around : (list .paren (atom ['\\'] nil) (string ['s'] nil)).render.enclosing? 1 =
      some ⟨⟨0, 3⟩, .paren⟩ := by decide
  obtain ⟨e, span, kind, parses, found, keeps⟩ := leaves_of_slurpForward wf done
  cases around.symm.trans found
  exact ⟨done, e, parses, keeps.same.mpr (by decide)⟩

/-- Two atoms with only the closer between them become one. -/
theorem slurpForward_glues_atoms :
    Text.ParsesAs "(a)b".toList (list .paren (atom ['a'] nil) (atom ['b'] nil)) ∧
    Text.slurpForward "(a)b".toList 1 = .ok ⟨"(ab)".toList, 1⟩ ∧
    Text.ParsesAs "(ab)".toList (list .paren (atom ['a', 'b'] nil) nil) ∧
    (list .paren (atom ['a', 'b'] nil) nil).leaves ≠
      (list .paren (atom ['a'] nil) (atom ['b'] nil)).leaves := by
  exact ⟨parsesAs_of_render_eq (by decide) (by decide), by decide,
    parsesAs_of_render_eq (by decide) (by decide), by decide⟩

/-- In a well-formed document a barf keeps the leaves exactly if the closer of the list around the
offset does not stand right between two token characters. If it does, the atoms on both sides of it
become one, and the other leaves stay. -/
theorem leaves_of_barfForward {d : Document} (wf : d.isWellFormed = true) {offset : Nat}
    {patch : Patch} (done : d.render.barfForward offset = .ok patch) :
    ∃ (e : Document) (list : Span) (kind : Delimiter), patch.text.ParsesAs e ∧
      d.render.enclosing? offset = some ⟨list, kind⟩ ∧ d.KeepsLeaves list e := by
  obtain ⟨c, l, text, rfl, rfl⟩ := Caret.exists_barfed (.of_document wf) done
  obtain rfl := (parsesAs_render wf).unique c.document c.wellFormed_document text
  exact ⟨c.barfedDocument l, c.list, c.kind, parsesAs_render (c.wellFormed_barfedDocument l),
    c.enclosing?_eq, c.keepsLeaves_barfed l⟩

theorem leaves_of_barfed_atom_before_string :
    Text.barfForward "(a b\\)\"s\"".toList 1 = .ok ⟨"(a) b\\\"s\"".toList, 1⟩ ∧
    ∃ e : Document, Text.ParsesAs "(a) b\\\"s\"".toList e ∧
      e.leaves = ["a".toList, "b\\".toList, "\"s\"".toList] := by
  have wf : (list .paren (atom ['a'] (blank ' ' (atom ['b', '\\'] nil)))
      (string ['s'] nil)).isWellFormed = true := by decide
  have done : (list .paren (atom ['a'] (blank ' ' (atom ['b', '\\'] nil)))
      (string ['s'] nil)).render.barfForward 1 = .ok ⟨"(a) b\\\"s\"".toList, 1⟩ := by cbv
  have around : (list .paren (atom ['a'] (blank ' ' (atom ['b', '\\'] nil)))
      (string ['s'] nil)).render.enclosing? 1 = some ⟨⟨0, 6⟩, .paren⟩ := by decide
  obtain ⟨e, span, kind, parses, found, keeps⟩ := leaves_of_barfForward wf done
  cases around.symm.trans found
  exact ⟨done, e, parses, keeps.same.mpr (by decide)⟩

/-- Only on one side of the form that is put behind the list is there always a blank. -/
theorem barfForward_glues_atoms :
    Text.ParsesAs "(a b)c".toList
      (list .paren (atom ['a'] (blank ' ' (atom ['b'] nil))) (atom ['c'] nil)) ∧
    Text.barfForward "(a b)c".toList 1 = .ok ⟨"(a) bc".toList, 1⟩ ∧
    Text.ParsesAs "(a) bc".toList (list .paren (atom ['a'] nil) (blank ' ' (atom ['b', 'c'] nil))) ∧
    (list .paren (atom ['a'] nil) (blank ' ' (atom ['b', 'c'] nil))).leaves ≠
      (list .paren (atom ['a'] (blank ' ' (atom ['b'] nil))) (atom ['c'] nil)).leaves := by
  exact ⟨parsesAs_of_render_eq (by decide) (by decide), by cbv,
    parsesAs_of_render_eq (by decide) (by decide), by decide⟩

end Document

end LispEditor
