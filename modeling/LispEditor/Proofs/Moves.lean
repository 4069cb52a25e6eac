import LispEditor.Proofs.Parsing
import LispEditor.Proofs.Repetition

set_option autoImplicit false
set_option relaxedAutoImplicit false

/-!
# Edits as moves of a form

An edit cuts the text, and in the document it moves one form: a slurp moves the form behind the list
around the caret to the end of its inside, and a barf moves the last form inside the list behind it.
It is refused where no list is around the caret or there is no form to move. Only if nothing but the
closer that is taken away has kept two atoms apart is there no such move, since they are one then.
-/

namespace LispEditor

namespace Text

private theorem gap_eq_nil_of_startsWithToken {gap rest : Text}
    (blank : ∀ c ∈ gap, isBlank c = true) (h : (gap ++ rest).startsWithToken = true) :
    gap = [] := by
  cases gap with
  | nil => rfl
  | cons c gap =>
      have noToken := isToken_of_isBlank (blank c List.mem_cons_self)
      simp [startsWithToken, noToken] at h

private theorem tail_eq_nil_of_endsInToken {front tail : Text}
    (blank : ∀ c ∈ tail, isBlank c = true) (h : (front ++ tail).endsInToken = true) :
    tail = [] := by
  by_contra some
  have last := List.getLast?_eq_some_getLast some
  have noToken := isToken_of_isBlank (blank _ (List.mem_of_getLast? last))
  rw [endsInToken_append some, endsInToken, last] at h
  simp [noToken] at h

end Text

namespace Document

/-- A list of a document around an offset: the offset is inside the list, and in none of the lists
inside it. -/
structure ListAround (d : Document) (offset : Nat) where
  outer : Context
  before : Document
  kind : Delimiter
  inner : Document
  after : Document
  place : Nat
  whole : outer.plug (before.append (list kind inner after)) = d
  spot : inner.Spot place
  here : outer.start + before.render.length + 1 + place = offset

private theorem spot_or_listAround {d : Document} {offset : Nat} (h : offset ≤ d.render.length) :
    d.Spot offset ∨ Nonempty (d.ListAround offset) := by
  obtain ⟨context, level, i, rfl, spot, rfl⟩ := hasSpotAt h
  cases context with
  | top =>
      left
      simpa [Context.plug, Context.start, Context.left] using spot
  | within before kind after outer =>
      right
      refine ⟨⟨outer, before, kind, level, after, i, rfl, spot, ?_⟩⟩
      rw [Context.start_within]

private theorem Spot.balanced_cut {level : Document} {i : Nat} (spot : level.Spot i)
    (wf : level.isWellFormed = true) :
    i ≤ level.render.length ∧ Text.Balanced (level.render.take i) ∧
      Text.Balanced (level.render.drop i) := by
  obtain ⟨u, v, split, rfl, hu, hv⟩ := spot.exists_split wf
  rw [split, List.take_left, List.drop_left, List.length_append]
  exact ⟨Nat.le_add_right _ _, hu, hv⟩

private theorem Spot.apply_eq_error {d : Document} {offset : Nat} (spot : d.Spot offset)
    (wf : d.isWellFormed = true) (command : Command) :
    command.apply d.render offset = .error (.outsideList command offset) := by
  obtain ⟨u, v, split, rfl, hu, -⟩ := spot.exists_split wf
  have none : d.render.enclosing? u.length = none := by
    rw [split]
    exact hu.enclosing?_eq_none v
  have inside : d.render.clamp u.length = u.length := by
    apply Text.clamp_of_le
    rw [split, List.length_append]
    omega
  cases command with
  | slurpForward => simp only [Command.apply, Text.slurpForward, inside, none]
  | barfForward => simp only [Command.apply, Text.barfForward, inside, none]

private theorem blanks_or_firstForm (d : Document) :
    (∃ gap, d = blanks gap) ∨ Nonempty d.FirstForm := by
  cases forms : d.formsAt 0 with
  | nil => exact .inl (eq_blanks_of_formsAt forms)
  | cons f later =>
      have first : (d.formsAt 0).head? = some f := by
        rw [forms]
        rfl
      exact .inr (exists_firstForm first)

private theorem blanks_or_lastForm {d : Document} (wf : d.isWellFormed = true) :
    (∃ gap, d = blanks gap) ∨ Nonempty d.LastForm := by
  rcases List.eq_nil_or_concat (d.formsAt 0) with none | ⟨earlier, f, forms⟩
  · exact .inl (eq_blanks_of_formsAt none)
  · have last : (d.formsAt 0).getLast? = some f := by
      rw [forms, List.concat_eq_append, List.getLast?_concat]
    exact .inr (exists_lastForm wf last)

private theorem wellFormed_blanks_append {gap : List Char} (blank : ∀ c ∈ gap, isBlank c = true)
    {d : Document} (wf : d.isWellFormed = true) : ((blanks gap).append d).isWellFormed = true := by
  rw [← blanks_join]
  exact wellFormed_join (wellFormed_blanks.mpr blank) wf

private theorem FirstForm.blank {d : Document} (s : d.FirstForm) (wf : d.isWellFormed = true) :
    ∀ c ∈ s.gap, isBlank c = true :=
  wellFormed_blanks.mp (wellFormed_of_append (s.wellFormed wf).1).1

private theorem eq_atom_of_endsInToken {form : Document} (isForm : form.isForm = true)
    (h : form.render.endsInToken = true) : ∃ chars, form = atom chars nil := by
  unfold Document.isForm at isForm
  split at isForm
  · exact ⟨_, rfl⟩
  · rename_i body
    rw [render_string, render, List.append_nil, Text.endsInToken_concat] at h
    cases h
  · rename_i kind inside
    rw [render_list, render, List.append_nil, Text.endsInToken_concat, kind.isToken_closer] at h
    cases h
  · cases isForm

namespace ListAround

variable {d : Document} {offset : Nat} (a : d.ListAround offset)

def front : Text :=
  a.outer.left ++ a.before.render

private theorem wellFormed (wf : d.isWellFormed = true) :
    a.outer.isWellFormed = true ∧ a.before.isWellFormed = true ∧ a.inner.isWellFormed = true ∧
      a.after.isWellFormed = true := by
  have plugged : ((Context.within a.before a.kind a.after a.outer).plug a.inner).isWellFormed =
      true := by
    rw [← a.whole] at wf
    exact wf
  obtain ⟨wfContext, wfInner⟩ := Context.wellFormed_plug.mp plugged
  obtain ⟨wfBefore, wfAfter, wfOuter⟩ := Context.wellFormed_within.mp wfContext
  exact ⟨wfOuter, wfBefore, wfInner, wfAfter⟩

def caret (wf : d.isWellFormed = true) : Caret where
  outer := a.outer
  before := a.before
  kind := a.kind
  inner := a.inner
  after := a.after
  left := a.inner.render.take a.place
  right := a.inner.render.drop a.place
  wfOuter := (a.wellFormed wf).1
  wfBefore := (a.wellFormed wf).2.1
  wfInner := (a.wellFormed wf).2.2.1
  wfAfter := (a.wellFormed wf).2.2.2
  split := (List.take_append_drop a.place a.inner.render).symm
  balancedLeft := (a.spot.balanced_cut (a.wellFormed wf).2.2.1).2.1
  balancedRight := (a.spot.balanced_cut (a.wellFormed wf).2.2.1).2.2

private theorem text_caret (wf : d.isWellFormed = true) : (a.caret wf).text = d.render :=
  congrArg render a.whole

private theorem offset_caret (wf : d.isWellFormed = true) : (a.caret wf).offset = offset := by
  have inside := (a.spot.balanced_cut (a.wellFormed wf).2.2.1).1
  have length : (a.inner.render.take a.place).length = a.place := List.length_take_of_le inside
  show (Context.within a.before a.kind a.after a.outer).start +
    (a.inner.render.take a.place).length = offset
  rw [Context.start_within, length]
  exact a.here

private theorem render_plug_list (inner after : Document) :
    (a.outer.plug (a.before.append (list a.kind inner after))).render =
      a.front ++ a.kind.opener ::
        (inner.render ++ a.kind.closer :: (after.render ++ a.outer.right)) := by
  simp [Context.render_plug, render_append, render, front]

private theorem wellFormed_plug_list (wf : d.isWellFormed = true) {inner after : Document}
    (wfInner : inner.isWellFormed = true) (wfAfter : after.isWellFormed = true) :
    (a.outer.plug (a.before.append (list a.kind inner after))).isWellFormed = true := by
  obtain ⟨wfOuter, wfBefore, -, -⟩ := a.wellFormed wf
  have wfLevel : (a.before.append (list a.kind inner after)).isWellFormed = true :=
    wellFormed_append wfBefore (wellFormed_list.mpr ⟨wfInner, wfAfter⟩) rfl
  exact Context.wellFormed_plug.mpr ⟨wfOuter, wfLevel⟩

/-! ## Slurping -/

/-- The document with the form behind the list moved to the end of its inside, with the blanks in
front of the form. -/
def slurped (s : a.after.FirstForm) : Document :=
  a.outer.plug (a.before.append
    (list a.kind (a.inner.append ((blanks s.gap).append s.form)) s.rest))

/-- The text with the closer of the list moved behind the form that follows the list. -/
def slurpedText (s : a.after.FirstForm) : Text :=
  a.front ++ a.kind.opener ::
    (a.inner.render ++ (s.gap ++ (s.form.render ++ a.kind.closer ::
      (s.rest.render ++ a.outer.right))))

private theorem render_eq_of_firstForm (s : a.after.FirstForm) :
    d.render = a.front ++ a.kind.opener ::
      (a.inner.render ++ a.kind.closer ::
        (s.gap ++ (s.form.render ++ (s.rest.render ++ a.outer.right)))) := by
  have whole := a.render_plug_list a.inner a.after
  rw [a.whole, s.render_eq] at whole
  simpa only [List.append_assoc] using whole

private theorem slurpForward_eq (wf : d.isWellFormed = true) (s : a.after.FirstForm) :
    d.render.slurpForward offset = .ok ⟨a.slurpedText s, offset⟩ := by
  have text : ((a.caret wf).slurped s).text = a.slurpedText s := by
    have whole := a.render_plug_list (a.inner.join ((blanks s.gap).append s.form)) s.rest
    rw [render_join, render_append, render_blanks] at whole
    simp only [List.append_assoc] at whole
    exact whole
  have done := (a.caret wf).slurpForward_eq s
  rwa [a.text_caret wf, a.offset_caret wf, text] at done

private theorem slurpForward_eq_error (wf : d.isWellFormed = true) {gap : List Char}
    (none : a.after = blanks gap) : ∃ refusal, d.render.slurpForward offset = .error refusal := by
  have followers : (a.caret wf).followers = [] := by
    show a.after.formsAt _ = []
    rw [none, formsAt_blanks]
  have refused := (a.caret wf).slurpForward_of_followers followers
  rw [a.text_caret wf, a.offset_caret wf] at refused
  exact ⟨_, refused⟩

private theorem parsesAs_slurped (wf : d.isWellFormed = true) (s : a.after.FirstForm)
    (apart : ¬ (s.gap = [] ∧ a.inner.render.endsInToken = true ∧
      s.form.render.startsWithToken = true)) :
    (a.slurpedText s).ParsesAs (a.slurped s) := by
  obtain ⟨-, -, wfInner, wfAfter⟩ := a.wellFormed wf
  obtain ⟨wfPulled, wfRest⟩ := s.wellFormed wfAfter
  have noAtoms : ¬ (a.inner.render.endsInToken = true ∧
      ((blanks s.gap).append s.form).render.startsWithToken = true) := by
    -- With a blank between them the two do not meet.
    rintro ⟨last, first⟩
    rw [render_append, render_blanks] at first
    have none := Text.gap_eq_nil_of_startsWithToken (s.blank wfAfter) first
    rw [none, List.nil_append] at first
    exact apart ⟨none, last, first⟩
  have wfInside := wellFormed_append_of_apart wfInner wfPulled noAtoms
  have text : (a.slurped s).render = a.slurpedText s := by
    have whole := a.render_plug_list (a.inner.append ((blanks s.gap).append s.form)) s.rest
    rw [render_append, render_append, render_blanks] at whole
    simp only [List.append_assoc] at whole
    exact whole
  rw [← text]
  exact parsesAs_render (a.wellFormed_plug_list wf wfInside wfRest)

/-! ## Barfing -/

/-- The document with the last form inside the list moved behind it, with the blanks around the
form, or a space in front of it if there are none. -/
def barfed (l : a.inner.LastForm) : Document :=
  a.outer.plug (a.before.append (list a.kind l.kept
    ((blanks (Text.barfGap l.gap)).append (l.form.append ((blanks l.tail).append a.after)))))

/-- The text with the closer of the list moved in front of the last form and the blanks before it,
and a space between them if there are no blanks. -/
def barfedText (l : a.inner.LastForm) : Text :=
  a.front ++ a.kind.opener ::
    (l.kept.render ++ a.kind.closer ::
      (Text.barfGap l.gap ++ (l.form.render ++ (l.tail ++ (a.after.render ++ a.outer.right)))))

private theorem render_eq_of_lastForm (l : a.inner.LastForm) :
    d.render = a.front ++ a.kind.opener ::
      (l.kept.render ++ (l.gap ++ (l.form.render ++ (l.tail ++ a.kind.closer ::
        (a.after.render ++ a.outer.right))))) := by
  have whole := a.render_plug_list a.inner a.after
  rw [a.whole, l.render_eq] at whole
  simpa only [List.append_assoc] using whole

private theorem barfForward_eq (wf : d.isWellFormed = true) (l : a.inner.LastForm) :
    d.render.barfForward offset = .ok ⟨a.barfedText l, offset⟩ := by
  have text : ((a.caret wf).barfedDocument l).render = a.barfedText l := by
    have whole := a.render_plug_list l.kept (l.putBefore a.after)
    rw [LastForm.putBefore, render_join, render_join, render_append, render_blanks,
      render_blanks] at whole
    simp only [List.append_assoc] at whole
    exact whole
  have done := (a.caret wf).barfForward_eq l
  rwa [a.text_caret wf, a.offset_caret wf, text] at done

private theorem barfForward_eq_error (wf : d.isWellFormed = true) {gap : List Char}
    (none : a.inner = blanks gap) : ∃ refusal, d.render.barfForward offset = .error refusal := by
  have children : (a.caret wf).children = [] := by
    show a.inner.formsAt _ = []
    rw [none, formsAt_blanks]
  have refused := (a.caret wf).barfForward_of_children children
  rw [a.text_caret wf, a.offset_caret wf] at refused
  exact ⟨_, refused⟩

private theorem parsesAs_barfed (wf : d.isWellFormed = true) (l : a.inner.LastForm)
    (apart : ¬ (l.tail = [] ∧ (∃ chars, l.form = atom chars nil) ∧
      (a.after.render ++ a.outer.right).startsWithToken = true)) :
    (a.barfedText l).ParsesAs (a.barfed l) := by
  obtain ⟨-, -, wfInner, wfAfter⟩ := a.wellFormed wf
  obtain ⟨wfKept, blank, wfPushed⟩ := l.wellFormed wfInner
  have blankTail := wellFormed_blanks.mp (wellFormed_of_append wfPushed).2
  have noAtoms : ¬ ((l.form.append (blanks l.tail)).render.endsInToken = true ∧
      a.after.render.startsWithToken = true) := by
    -- Without blanks behind it, the form itself ends in a token character, so it is an atom.
    rintro ⟨last, first⟩
    rw [render_append, render_blanks] at last
    have none := Text.tail_eq_nil_of_endsInToken blankTail last
    rw [none, List.append_nil] at last
    exact apart ⟨none, eq_atom_of_endsInToken l.isForm last,
      Text.startsWithToken_of_append _ first⟩
  have wfBehind : (l.form.append ((blanks l.tail).append a.after)).isWellFormed = true := by
    rw [← append_assoc]
    exact wellFormed_append_of_apart wfPushed wfAfter noAtoms
  have text : (a.barfed l).render = a.barfedText l := by
    have whole := a.render_plug_list l.kept
      ((blanks (Text.barfGap l.gap)).append (l.form.append ((blanks l.tail).append a.after)))
    rw [render_append, render_append, render_append, render_blanks, render_blanks] at whole
    simp only [List.append_assoc] at whole
    exact whole
  rw [← text]
  exact parsesAs_render (a.wellFormed_plug_list wf wfKept
    (wellFormed_blanks_append (Text.blank_of_mem_barfGap blank) wfBehind))

end ListAround

/-! ## The edits at any offset -/

private theorem slurp_place_cases (d : Document) {offset : Nat}
    (inside : offset ≤ d.render.length) :
    (d.Spot offset ∨ ∃ (a : d.ListAround offset) (gap : List Char), a.after = blanks gap) ∨
      ∃ a : d.ListAround offset, Nonempty a.after.FirstForm := by
  rcases spot_or_listAround inside with spot | ⟨⟨a⟩⟩
  · exact .inl (.inl spot)
  · rcases blanks_or_firstForm a.after with ⟨gap, none⟩ | form
    · exact .inl (.inr ⟨a, gap, none⟩)
    · exact .inr ⟨a, form⟩

private theorem barf_place_cases {d : Document} (wf : d.isWellFormed = true) {offset : Nat}
    (inside : offset ≤ d.render.length) :
    (d.Spot offset ∨ ∃ (a : d.ListAround offset) (gap : List Char), a.inner = blanks gap) ∨
      ∃ a : d.ListAround offset, Nonempty a.inner.LastForm := by
  rcases spot_or_listAround inside with spot | ⟨⟨a⟩⟩
  · exact .inl (.inl spot)
  · rcases blanks_or_lastForm (a.wellFormed wf).2.2.1 with ⟨gap, none⟩ | form
    · exact .inl (.inr ⟨a, gap, none⟩)
    · exact .inr ⟨a, form⟩

private theorem refused_iff_and_done_iff {result : Except Refusal Patch} {Refused : Prop}
    {Done : Patch → Prop} (refuses : Refused → ∃ refusal, result = .error refusal)
    (succeeds : ∀ patch, Done patch → result = .ok patch) (total : Refused ∨ ∃ patch, Done patch) :
    ((∃ refusal, result = .error refusal) ↔ Refused) ∧
      ∀ patch, result = .ok patch ↔ Done patch := by
  refine ⟨⟨?_, refuses⟩, fun patch => ⟨?_, succeeds patch⟩⟩
  · rintro ⟨refusal, refused⟩
    refine total.resolve_right ?_
    rintro ⟨patch, done⟩
    cases refused.symm.trans (succeeds patch done)
  · intro result
    rcases total with none | ⟨other, done⟩
    · obtain ⟨refusal, refused⟩ := refuses none
      cases refused.symm.trans result
    · cases result.symm.trans (succeeds other done)
      exact done

/-- In a well-formed document a slurp is refused outside of all lists, and in a list that no form
follows in its level. Anywhere else it moves the closer of the list around the offset behind the
form that follows the list. In the document this form has then moved to the end of the list, unless
no blank and nothing but the closer has set it apart from an atom there. -/
theorem slurpForward_moves_form_in {d : Document} (wf : d.isWellFormed = true) (offset : Nat) :
    ((∃ refusal, d.render.slurpForward offset = .error refusal) ↔
      d.Spot (d.render.clamp offset) ∨
        ∃ (a : d.ListAround (d.render.clamp offset)) (gap : List Char), a.after = blanks gap) ∧
    (∀ patch, d.render.slurpForward offset = .ok patch ↔
      ∃ (a : d.ListAround (d.render.clamp offset)) (s : a.after.FirstForm),
        patch = ⟨a.slurpedText s, d.render.clamp offset⟩) ∧
    ∀ (a : d.ListAround (d.render.clamp offset)) (s : a.after.FirstForm),
      d.render = a.front ++ a.kind.opener ::
        (a.inner.render ++ a.kind.closer ::
          (s.gap ++ (s.form.render ++ (s.rest.render ++ a.outer.right)))) ∧
      (¬ (s.gap = [] ∧ a.inner.render.endsInToken = true ∧ s.form.render.startsWithToken = true) →
        (a.slurpedText s).ParsesAs (a.slurped s)) := by
  rw [← Text.slurpForward_clamp]
  refine and_assoc.mp ⟨refused_iff_and_done_iff ?_ ?_ ?_, ?_⟩
  · rintro (spot | ⟨a, gap, none⟩)
    · exact ⟨_, spot.apply_eq_error wf .slurpForward⟩
    · exact a.slurpForward_eq_error wf none
  · rintro patch ⟨a, s, rfl⟩
    exact a.slurpForward_eq wf s
  · rcases slurp_place_cases d (Text.clamp_le d.render offset) with none | ⟨a, ⟨s⟩⟩
    · exact .inl none
    · exact .inr ⟨_, a, s, rfl⟩
  · intro a s
    exact ⟨a.render_eq_of_firstForm s, a.parsesAs_slurped wf s⟩

theorem slurpForward_moves_string_behind_backslash :
    (list .bracket (list .paren (atom ['\\'] nil) (string ['s'] nil)) nil).isWellFormed = true ∧
    Text.slurpForward "[(\\)\"s\"]".toList 2 = .ok ⟨"[(\\\"s\")]".toList, 2⟩ ∧
    Text.ParsesAs "[(\\\"s\")]".toList
      (list .bracket (list .paren (atom ['\\'] (string ['s'] nil)) nil) nil) := by
  have wf : (list .bracket (list .paren (atom ['\\'] nil) (string ['s'] nil)) nil).isWellFormed =
      true := by decide
  obtain ⟨-, done, moves⟩ := slurpForward_moves_form_in wf 2
  let a : ListAround (list .bracket (list .paren (atom ['\\'] nil) (string ['s'] nil)) nil) 2 :=
    ⟨.within nil .bracket nil .top, nil, .paren, atom ['\\'] nil, string ['s'] nil, 0, rfl,
      .between nil _ rfl, rfl⟩
  let s : a.after.FirstForm := ⟨[], string ['s'] nil, nil, rfl, rfl⟩
  exact ⟨wf, (done _).mpr ⟨a, s, rfl⟩, (moves a s).2 (by decide)⟩

/-- In a well-formed document a barf is refused outside of all lists, and in a list without a form
in it. Anywhere else it moves the closer of the list around the offset in front of the last form in
the list and of the blanks before this form, and puts a space there if there are none. In the
document this form has then moved behind the list, unless it is an atom that nothing but the closer
has set apart from an atom behind the list. -/
theorem barfForward_moves_form_out {d : Document} (wf : d.isWellFormed = true) (offset : Nat) :
    ((∃ refusal, d.render.barfForward offset = .error refusal) ↔
      d.Spot (d.render.clamp offset) ∨
        ∃ (a : d.ListAround (d.render.clamp offset)) (gap : List Char), a.inner = blanks gap) ∧
    (∀ patch, d.render.barfForward offset = .ok patch ↔
      ∃ (a : d.ListAround (d.render.clamp offset)) (l : a.inner.LastForm),
        patch = ⟨a.barfedText l, d.render.clamp offset⟩) ∧
    ∀ (a : d.ListAround (d.render.clamp offset)) (l : a.inner.LastForm),
      d.render = a.front ++ a.kind.opener ::
        (l.kept.render ++ (l.gap ++ (l.form.render ++ (l.tail ++ a.kind.closer ::
          (a.after.render ++ a.outer.right))))) ∧
      (¬ (l.tail = [] ∧ (∃ chars, l.form = atom chars nil) ∧
          (a.after.render ++ a.outer.right).startsWithToken = true) →
        (a.barfedText l).ParsesAs (a.barfed l)) := by
  rw [← Text.barfForward_clamp]
  refine and_assoc.mp ⟨refused_iff_and_done_iff ?_ ?_ ?_, ?_⟩
  · rintro (spot | ⟨a, gap, none⟩)
    · exact ⟨_, spot.apply_eq_error wf .barfForward⟩
    · exact a.barfForward_eq_error wf none
  · rintro patch ⟨a, l, rfl⟩
    exact a.barfForward_eq wf l
  · rcases barf_place_cases wf (Text.clamp_le d.render offset) with none | ⟨a, ⟨l⟩⟩
    · exact .inl none
    · exact .inr ⟨_, a, l, rfl⟩
  · intro a l
    exact ⟨a.render_eq_of_lastForm l, a.parsesAs_barfed wf l⟩

theorem barfForward_moves_list_in_front_of_atom :
    (list .bracket (list .paren (atom ['x'] (list .paren (atom ['y'] nil) (blank ' ' nil)))
      (atom ['z'] nil)) nil).isWellFormed = true ∧
    Text.barfForward "[(x(y) )z]".toList 2 = .ok ⟨"[(x) (y) z]".toList, 2⟩ ∧
    Text.ParsesAs "[(x) (y) z]".toList
      (list .bracket (list .paren (atom ['x'] nil) (blank ' ' (list .paren (atom ['y'] nil)
        (blank ' ' (atom ['z'] nil))))) nil) := by
  have wf : (list .bracket (list .paren (atom ['x'] (list .paren (atom ['y'] nil) (blank ' ' nil)))
      (atom ['z'] nil)) nil).isWellFormed = true := by decide
  obtain ⟨-, done, moves⟩ := barfForward_moves_form_out wf 2
  let a : ListAround (list .bracket (list .paren (atom ['x'] (list .paren (atom ['y'] nil)
      (blank ' ' nil))) (atom ['z'] nil)) nil) 2 :=
    ⟨.within nil .bracket nil .top, nil, .paren, _, atom ['z'] nil, 0, rfl, .between nil _ rfl, rfl⟩
  have solid : (atom ['x'] nil).render.EndsSolid := Text.EndsSolid.concat [] (by decide)
  let l : a.inner.LastForm := ⟨atom ['x'] nil, [], list .paren (atom ['y'] nil) nil, [' '], rfl,
    solid, rfl⟩
  exact ⟨wf, (done _).mpr ⟨a, l, rfl⟩, (moves a l).2 fun h => by cases h.1⟩

end Document

end LispEditor
