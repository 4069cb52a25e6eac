import LispEditor.Edit
import LispEditor.Proofs.Extents
import LispEditor.Proofs.Reading

set_option autoImplicit false
set_option relaxedAutoImplicit false

/-!
# A caret in a document

A caret in a list of a well-formed document stands in the level inside the list, in none of the
lists of this level. Slurping moves the form behind the list to the end of its inside, and barfing
moves the last form inside it behind the list, with the blanks that belong to it. Either way the
caret is again one in a list of a well-formed document, unless it is behind what stays in the list.
-/

namespace LispEditor

namespace Text

/-! ## The edits, as cuts -/

theorem slurpForward_eq_of_cut {front pulled back : Text} {k : Delimiter} {offset : Nat}
    {list : Span} {sibling : Form} {t : Text}
    (whole : t = front ++ k.closer :: (pulled ++ back)) (inside : offset ≤ t.length)
    (around : t.enclosing? offset = some ⟨list, k⟩) (next : t.nextForm? list.stop = some sibling)
    (size : list.stop = front.length + 1)
    (stop : sibling.span.stop = front.length + 1 + pulled.length) :
    t.slurpForward offset = .ok ⟨front ++ (pulled ++ k.closer :: back), offset⟩ := by
  have kept : t.take (list.stop - 1) = front := by
    rw [whole, size, Nat.add_sub_cancel, List.take_left]
  have moved : t.slice ⟨list.stop, sibling.span.stop⟩ = pulled := by
    have cut : t = (front ++ [k.closer]) ++ (pulled ++ back) := by simp [whole]
    rw [cut]
    exact slice_append _ _ _ (by simp [size]) (by simp [stop])
  have rest : t.drop sibling.span.stop = back := by
    have cut : t = (front ++ k.closer :: pulled) ++ back := by simp [whole]
    rw [cut]
    apply List.drop_left'
    simp only [stop, List.length_append, List.length_cons]
    omega
  simp only [slurpForward, clamp_of_le inside, around, next, kept, moved, rest, List.append_assoc]

/-- The blanks between a list and the child put behind it: those in front of the child, or a space
if there are none. -/
def barfGap (gap : List Char) : List Char :=
  if gap = [] then [' '] else gap

theorem blank_of_mem_barfGap {gap : List Char} (blank : ∀ c ∈ gap, isBlank c = true) :
    ∀ c ∈ barfGap gap, isBlank c = true := by
  unfold barfGap
  split_ifs
  · intro c hc
    rw [List.mem_singleton.mp hc]
    rfl
  · exact blank

theorem barfForward_eq_of_cut {front gap pushed back : Text} {k : Delimiter} {offset : Nat}
    {list : Span} {child : Form} {t : Text}
    (whole : t = front ++ (gap ++ (pushed ++ k.closer :: back))) (inside : offset ≤ t.length)
    (around : t.enclosing? offset = some ⟨list, k⟩) (last : t.lastChild? list = some child)
    (size : list.stop = front.length + gap.length + pushed.length + 1)
    (first : child.span.start = front.length + gap.length)
    (solid : front.EndsSolid) (nonempty : front ≠ []) (blank : ∀ c ∈ gap, isBlank c = true) :
    t.barfForward offset =
      .ok ⟨front ++ k.closer :: (barfGap gap ++ (pushed ++ back)), offset⟩ := by
  have positive : 0 < front.length := List.length_pos_iff.mpr nonempty
  have stop : ((t.solidBefore? child.span.start).map (· + 1)).getD child.span.start =
      front.length := by
    rw [first, whole, solidBefore?_append solid nonempty blank]
    exact Nat.sub_add_cancel positive
  have kept : t.take front.length = front := by
    rw [whole, List.take_left]
  have between : (if front.length = child.span.start then [' ']
      else t.slice ⟨front.length, child.span.start⟩) = barfGap gap := by
    have same : front.length = child.span.start ↔ gap = [] := by
      rw [first, ← List.length_eq_zero_iff]
      omega
    have cut : t.slice ⟨front.length, child.span.start⟩ = gap := by
      rw [whole]
      exact slice_append _ _ _ rfl first
    simp only [same, cut, barfGap]
  have moved : t.slice ⟨child.span.start, list.stop - 1⟩ = pushed := by
    have cut : t = (front ++ gap) ++ (pushed ++ k.closer :: back) := by simp [whole]
    rw [cut]
    exact slice_append _ _ _ (by simp [first]) (by simp [size])
  have rest : t.drop list.stop = back := by
    have cut : t = (front ++ (gap ++ (pushed ++ [k.closer]))) ++ back := by simp [whole]
    rw [cut, size]
    apply List.drop_left'
    simp only [List.length_append, List.length_singleton]
    omega
  simp only [barfForward, clamp_of_le inside, around, last, stop, kept, between, moved, rest,
    List.append_assoc, List.cons_append]

theorem slurpForward_clamp (t : Text) (offset : Nat) :
    t.slurpForward (t.clamp offset) = t.slurpForward offset := by
  simp only [slurpForward, clamp_clamp]

theorem barfForward_clamp (t : Text) (offset : Nat) :
    t.barfForward (t.clamp offset) = t.barfForward offset := by
  simp only [barfForward, clamp_clamp]

theorem scans_of_slurpForward {t : Text} {offset : Nat} {patch : Patch}
    (done : t.slurpForward offset = .ok patch) :
    ∃ (list : Span) (k : Delimiter) (sibling : Form),
      t.enclosing? offset = some ⟨list, k⟩ ∧ t.nextForm? list.stop = some sibling := by
  simp only [slurpForward, enclosing?_clamp] at done
  split at done
  · cases done
  · rename_i list k around
    split at done
    · cases done
    · rename_i sibling next
      exact ⟨list, k, sibling, around, next⟩

theorem scans_of_barfForward {t : Text} {offset : Nat} {patch : Patch}
    (done : t.barfForward offset = .ok patch) :
    ∃ (list : Span) (k : Delimiter) (child : Form),
      t.enclosing? offset = some ⟨list, k⟩ ∧ t.lastChild? list = some child := by
  simp only [barfForward, enclosing?_clamp] at done
  split at done
  · cases done
  · rename_i list k around
    split at done
    · cases done
    · rename_i child last
      exact ⟨list, k, child, around, last⟩

end Text

namespace Document

/-! ## The first and the last form of a level -/

/-- A document split at its first form. -/
structure FirstForm (d : Document) where
  gap : List Char
  form : Document
  rest : Document
  split : d = (blanks gap).append (form.append rest)
  isForm : form.isForm = true

/-- A document split at its last form, and at the end of what stands in front of the blanks before
the form. -/
structure LastForm (d : Document) where
  kept : Document
  gap : List Char
  form : Document
  tail : List Char
  split : d = (kept.append (blanks gap)).append (form.append (blanks tail))
  solid : kept.render.EndsSolid
  isForm : form.isForm = true

theorem exists_firstForm {d : Document} {here : Nat} {f : Form}
    (h : (d.formsAt here).head? = some f) : Nonempty d.FirstForm := by
  obtain ⟨later, forms⟩ := List.head?_eq_some_iff.mp h
  obtain ⟨gap, form, rest, split, isForm, -, -⟩ := exists_first_form forms
  exact ⟨⟨gap, form, rest, split, isForm⟩⟩

theorem exists_lastForm {d : Document} (wf : d.isWellFormed = true) {here : Nat} {f : Form}
    (h : (d.formsAt here).getLast? = some f) : Nonempty d.LastForm := by
  obtain ⟨earlier, forms⟩ := List.getLast?_eq_some_iff.mp h
  obtain ⟨start, form, tail, split, isForm, -⟩ := exists_last_form forms
  rw [split] at wf
  obtain ⟨kept, gap, rfl, solid⟩ := exists_trim (wellFormed_of_append wf).1
  exact ⟨⟨kept, gap, form, tail, split, solid, isForm⟩⟩

theorem FirstForm.formsAt_eq {d : Document} (s : d.FirstForm) (here : Nat) :
    d.formsAt here = s.form.formsAt (here + s.gap.length) ++
      s.rest.formsAt (here + s.gap.length + s.form.render.length) := by
  have whole := congrArg (formsAt here) s.split
  rwa [formsAt_append, formsAt_append, formsAt_blanks, render_blanks, List.nil_append] at whole

theorem LastForm.formsAt_eq {d : Document} (l : d.LastForm) (here : Nat) :
    d.formsAt here =
      l.kept.formsAt here ++ l.form.formsAt (here + l.kept.render.length + l.gap.length) := by
  have whole := congrArg (formsAt here) l.split
  rwa [formsAt_append, formsAt_append, formsAt_append, formsAt_blanks, formsAt_blanks,
    render_append, render_blanks, List.length_append, ← Nat.add_assoc, List.append_nil,
    List.append_nil] at whole

theorem FirstForm.render_eq {d : Document} (s : d.FirstForm) :
    d.render = s.gap ++ (s.form.render ++ s.rest.render) := by
  have whole := congrArg render s.split
  rwa [render_append, render_append, render_blanks] at whole

theorem LastForm.render_eq {d : Document} (l : d.LastForm) :
    d.render = l.kept.render ++ (l.gap ++ (l.form.render ++ l.tail)) := by
  have whole := congrArg render l.split
  rwa [render_append, render_append, render_append, render_blanks, render_blanks,
    List.append_assoc] at whole

theorem FirstForm.wellFormed {d : Document} (s : d.FirstForm) (wf : d.isWellFormed = true) :
    ((blanks s.gap).append s.form).isWellFormed = true ∧ s.rest.isWellFormed = true := by
  rw [s.split, ← append_assoc] at wf
  exact wellFormed_of_append wf

theorem LastForm.wellFormed {d : Document} (l : d.LastForm) (wf : d.isWellFormed = true) :
    l.kept.isWellFormed = true ∧ (∀ c ∈ l.gap, isBlank c = true) ∧
      (l.form.append (blanks l.tail)).isWellFormed = true := by
  rw [l.split] at wf
  obtain ⟨wfStart, wfPushed⟩ := wellFormed_of_append wf
  obtain ⟨wfKept, wfGap⟩ := wellFormed_of_append wfStart
  exact ⟨wfKept, wellFormed_blanks.mp wfGap, wfPushed⟩

/-- What stands behind a list whose last form is put there, in front of the document `after`. -/
def LastForm.putBefore {d : Document} (l : d.LastForm) (after : Document) : Document :=
  -- The form can end up right in front of an atom, and then the two are one.
  (blanks (Text.barfGap l.gap)).join ((l.form.append (blanks l.tail)).join after)

private theorem LastForm.wellFormed_putBefore {d after : Document} (l : d.LastForm)
    (wf : d.isWellFormed = true) (wfAfter : after.isWellFormed = true) :
    (l.putBefore after).isWellFormed = true := by
  obtain ⟨-, blank, wfPushed⟩ := l.wellFormed wf
  refine wellFormed_join ?_ (wellFormed_join wfPushed wfAfter)
  exact wellFormed_blanks.mpr (Text.blank_of_mem_barfGap blank)

end Document

/-! ## Carets -/

/-- A caret in a list of a well-formed document: what is around the list, and the inside of the list
with the texts on both sides of the caret, in none of the lists there. -/
structure Caret where
  outer : Context
  before : Document
  kind : Delimiter
  inner : Document
  after : Document
  left : Text
  right : Text
  wfOuter : outer.isWellFormed = true
  wfBefore : before.isWellFormed = true
  wfInner : inner.isWellFormed = true
  wfAfter : after.isWellFormed = true
  split : inner.render = left ++ right
  balancedLeft : left.Balanced
  balancedRight : right.Balanced

namespace Caret

variable (c : Caret)

def context : Context :=
  .within c.before c.kind c.after c.outer

def document : Document :=
  c.context.plug c.inner

def text : Text :=
  c.document.render

/-- The text up to the closer of the list. -/
def front : Text :=
  c.context.left ++ c.inner.render

def offset : Nat :=
  c.context.start + c.left.length

def list : Span :=
  c.context.listSpan c.inner

theorem wellFormed_document : c.document.isWellFormed = true :=
  Context.wellFormed_plug.mpr
    ⟨Context.wellFormed_within.mpr ⟨c.wfBefore, c.wfAfter, c.wfOuter⟩, c.wfInner⟩

theorem text_eq : c.text = c.front ++ c.kind.closer :: (c.after.render ++ c.outer.right) := by
  rw [text, document, Context.render_plug, front, List.append_assoc]
  rfl

theorem front_eq : c.front = c.context.left ++ c.inner.render := rfl

theorem length_front : c.front.length = c.context.start + c.inner.render.length :=
  List.length_append

theorem list_stop : c.list.stop = c.front.length + 1 := by
  rw [length_front]
  rfl

private theorem offset_le_length_front : c.offset ≤ c.front.length := by
  rw [length_front, c.split, List.length_append, offset]
  omega

theorem offset_lt_length : c.offset < c.text.length := by
  have inFront := c.offset_le_length_front
  rw [text_eq, List.length_append, List.length_cons]
  omega

theorem enclosing?_eq : c.text.enclosing? c.offset = some ⟨c.list, c.kind⟩ :=
  Context.enclosing?_within c.split c.balancedLeft c.balancedRight

theorem drop_stop : c.text.drop c.list.stop = c.after.render ++ c.outer.right := by
  have whole : c.text = (c.front ++ [c.kind.closer]) ++ (c.after.render ++ c.outer.right) := by
    simp [text_eq]
  rw [whole]
  apply List.drop_left'
  rw [list_stop, List.length_append, List.length_singleton]

theorem nextForm?_eq : c.text.nextForm? c.list.stop = (c.after.formsAt c.list.stop).head? :=
  Document.nextForm?_eq_head? c.wfAfter c.drop_stop c.outer.endsLevel_right

theorem lastChild?_eq : c.text.lastChild? c.list = (c.inner.formsAt c.context.start).getLast? := by
  rw [Text.lastChild?, list, text, document,
    Context.children_listSpan c.wellFormed_document (by simp [context])]

/-- In a well-formed text, an offset with a list around it is a caret in this list. -/
theorem exists_caret {t : Text} (wf : t.WellFormed) {offset : Nat} {list : Span} {k : Delimiter}
    (around : t.enclosing? offset = some ⟨list, k⟩) :
    ∃ c : Caret, c.text = t ∧ c.offset = offset ∧ c.list = list ∧ c.kind = k := by
  obtain ⟨d, wf, rfl⟩ := wf
  rw [← Text.enclosing?_clamp] at around
  obtain ⟨context, inner, i, rfl, spot, here⟩ := Document.hasSpotAt (Text.clamp_le d.render offset)
  obtain ⟨wfContext, wfInner⟩ := Context.wellFormed_plug.mp wf
  obtain ⟨u, v, split, rfl, hu, hv⟩ := spot.exists_split wfInner
  rw [← here] at around
  cases context with
  | top =>
      rw [Context.enclosing?_top split hu] at around
      cases around
  | within before kind after outer =>
      obtain ⟨wfBefore, wfAfter, wfOuter⟩ := Context.wellFormed_within.mp wfContext
      let c : Caret := ⟨outer, before, kind, inner, after, u, v, wfOuter, wfBefore, wfInner,
        wfAfter, split, hu, hv⟩
      have found : c.text.enclosing? c.offset = some ⟨list, k⟩ := around
      have clamped : c.text.clamp offset = c.offset := here.symm
      rw [c.enclosing?_eq] at found
      cases found
      refine ⟨c, rfl, ?_, rfl, rfl⟩
      -- The closer of the list is behind the caret, so the offset was not past the end.
      have inside := c.offset_lt_length
      unfold Text.clamp at clamped
      omega

/-! ## Slurping -/

/-- The caret after a slurp: the form behind the list is at the end of its inside. -/
def slurped (s : c.after.FirstForm) : Caret where
  outer := c.outer
  before := c.before
  kind := c.kind
  inner := c.inner.join ((Document.blanks s.gap).append s.form)
  after := s.rest
  left := c.left
  right := c.right ++ (s.gap ++ s.form.render)
  wfOuter := c.wfOuter
  wfBefore := c.wfBefore
  wfInner := Document.wellFormed_join c.wfInner (s.wellFormed c.wfAfter).1
  wfAfter := (s.wellFormed c.wfAfter).2
  split := by
    rw [Document.render_join, Document.render_append, Document.render_blanks, c.split,
      List.append_assoc]
  balancedLeft := c.balancedLeft
  balancedRight := by
    have balanced := Document.balanced_render (s.wellFormed c.wfAfter).1
    rw [Document.render_append, Document.render_blanks] at balanced
    exact c.balancedRight.append balanced

theorem exists_sibling (s : c.after.FirstForm) :
    ∃ sibling, c.text.nextForm? c.list.stop = some sibling ∧
      sibling.span.stop = c.list.stop + s.gap.length + s.form.render.length := by
  obtain ⟨sibling, single, span⟩ :=
    Document.formsAt_of_isForm s.isForm (c.list.stop + s.gap.length)
  refine ⟨sibling, ?_, by rw [span]⟩
  rw [c.nextForm?_eq, s.formsAt_eq, single]
  rfl

theorem slurpForward_eq (s : c.after.FirstForm) :
    c.text.slurpForward c.offset = .ok ⟨(c.slurped s).text, c.offset⟩ := by
  obtain ⟨sibling, next, last⟩ := c.exists_sibling s
  have whole : c.text = c.front ++ c.kind.closer ::
      ((s.gap ++ s.form.render) ++ (s.rest.render ++ c.outer.right)) := by
    rw [text_eq, s.render_eq]
    simp only [List.append_assoc]
  have stop : sibling.span.stop = c.front.length + 1 + (s.gap ++ s.form.render).length := by
    rw [last, list_stop, List.length_append, Nat.add_assoc _ s.gap.length]
  have outcome : (c.slurped s).text = c.front ++
      ((s.gap ++ s.form.render) ++ c.kind.closer :: (s.rest.render ++ c.outer.right)) := by
    have inside : (c.slurped s).front = c.front ++ (s.gap ++ s.form.render) := by
      rw [front_eq, front_eq, List.append_assoc, c.split, List.append_assoc]
      exact congrArg _ (c.slurped s).split
    rw [text_eq, inside, List.append_assoc]
    rfl
  rw [Text.slurpForward_eq_of_cut whole (Nat.le_of_lt c.offset_lt_length) c.enclosing?_eq next
    c.list_stop stop, outcome]

theorem slurped_list (s : c.after.FirstForm) :
    (c.slurped s).list =
      ⟨c.list.start, c.list.stop + s.gap.length + s.form.render.length⟩ := by
  have size : (c.slurped s).inner.render.length =
      c.inner.render.length + (s.gap.length + s.form.render.length) := by
    rw [(c.slurped s).split, c.split]
    simp only [slurped, List.length_append]
    omega
  have stop : (c.slurped s).list.stop = c.list.stop + s.gap.length + s.form.render.length := by
    show c.context.start + (c.slurped s).inner.render.length + 1 =
      c.context.start + c.inner.render.length + 1 + s.gap.length + s.form.render.length
    omega
  rw [← stop]
  rfl

theorem exists_slurped {t : Text} (wf : t.WellFormed) {offset : Nat} {patch : Patch}
    (done : t.slurpForward offset = .ok patch) :
    ∃ (c : Caret) (s : c.after.FirstForm), c.text = t ∧ c.offset = offset ∧
      patch = ⟨(c.slurped s).text, c.offset⟩ := by
  obtain ⟨list, k, sibling, around, next⟩ := Text.scans_of_slurpForward done
  obtain ⟨c, rfl, rfl, rfl, rfl⟩ := exists_caret wf around
  rw [c.nextForm?_eq] at next
  obtain ⟨s⟩ := Document.exists_firstForm next
  rw [c.slurpForward_eq s] at done
  exact ⟨c, s, rfl, rfl, (Except.ok.inj done).symm⟩

/-! ## Barfing -/

/-- The document after a barf: the last form of the inside of the list is behind it. -/
def barfedDocument (l : c.inner.LastForm) : Document :=
  (Context.within c.before c.kind (l.putBefore c.after) c.outer).plug l.kept

theorem wellFormed_barfedDocument (l : c.inner.LastForm) :
    (c.barfedDocument l).isWellFormed = true := by
  refine Context.wellFormed_plug.mpr ⟨Context.wellFormed_within.mpr ?_, (l.wellFormed c.wfInner).1⟩
  exact ⟨c.wfBefore, l.wellFormed_putBefore c.wfInner c.wfAfter, c.wfOuter⟩

/-- The text up to the end of what stays in the list after a barf. -/
def keptFront (l : c.inner.LastForm) : Text :=
  c.context.left ++ l.kept.render

theorem length_keptFront (l : c.inner.LastForm) :
    (c.keptFront l).length = c.context.start + l.kept.render.length :=
  List.length_append

theorem text_eq_keptFront (l : c.inner.LastForm) :
    c.text = c.keptFront l ++ (l.gap ++ ((l.form.render ++ l.tail) ++
      c.kind.closer :: (c.after.render ++ c.outer.right))) := by
  rw [text_eq, front_eq, l.render_eq, keptFront]
  simp only [List.append_assoc]

private theorem keptFront_eq (l : c.inner.LastForm) :
    c.keptFront l = ((c.outer.left ++ c.before.render) ++ [c.kind.opener]) ++ l.kept.render := by
  simp [keptFront, context, Context.left]

theorem keptFront_ne_nil (l : c.inner.LastForm) : c.keptFront l ≠ [] := by
  simp [keptFront_eq]

theorem endsSolid_keptFront (l : c.inner.LastForm) : (c.keptFront l).EndsSolid := by
  rw [keptFront_eq]
  exact (Text.EndsSolid.concat _ c.kind.isBlank_opener).append l.solid

theorem list_stop_eq_keptFront (l : c.inner.LastForm) :
    c.list.stop =
      (c.keptFront l).length + l.gap.length + (l.form.render ++ l.tail).length + 1 := by
  rw [list_stop, length_front, l.render_eq, length_keptFront]
  simp only [List.length_append]
  omega

theorem exists_lastChild (l : c.inner.LastForm) :
    ∃ child, c.text.lastChild? c.list = some child ∧
      l.form.formsAt ((c.keptFront l).length + l.gap.length) = [child] ∧
      child.span.start = (c.keptFront l).length + l.gap.length ∧
      child.span.stop = (c.keptFront l).length + l.gap.length + l.form.render.length := by
  obtain ⟨child, single, span⟩ :=
    Document.formsAt_of_isForm l.isForm ((c.keptFront l).length + l.gap.length)
  refine ⟨child, ?_, single, by rw [span], by rw [span]⟩
  rw [c.lastChild?_eq, l.formsAt_eq, ← length_keptFront, single, List.getLast?_concat]

theorem barfForward_eq (l : c.inner.LastForm) :
    c.text.barfForward c.offset = .ok ⟨(c.barfedDocument l).render, c.offset⟩ := by
  obtain ⟨child, last, -, first, -⟩ := c.exists_lastChild l
  rw [Text.barfForward_eq_of_cut (c.text_eq_keptFront l) (Nat.le_of_lt c.offset_lt_length)
    c.enclosing?_eq last (c.list_stop_eq_keptFront l) first (c.endsSolid_keptFront l)
    (c.keptFront_ne_nil l) (l.wellFormed c.wfInner).2.1]
  simp [barfedDocument, Document.LastForm.putBefore, keptFront_eq, Context.render_plug,
    Context.left, Context.right, Document.render_append, Document.render_join]

theorem exists_barfed {t : Text} (wf : t.WellFormed) {offset : Nat} {patch : Patch}
    (done : t.barfForward offset = .ok patch) :
    ∃ (c : Caret) (l : c.inner.LastForm), c.text = t ∧ c.offset = offset ∧
      patch = ⟨(c.barfedDocument l).render, c.offset⟩ := by
  obtain ⟨list, k, child, around, last⟩ := Text.scans_of_barfForward done
  obtain ⟨c, rfl, rfl, rfl, rfl⟩ := exists_caret wf around
  rw [c.lastChild?_eq] at last
  obtain ⟨l⟩ := Document.exists_lastForm c.wfInner last
  rw [c.barfForward_eq l] at done
  exact ⟨c, l, rfl, rfl, (Except.ok.inj done).symm⟩

private theorem left_append_drop (l : c.inner.LastForm)
    (stays : c.left.length ≤ l.kept.render.length) :
    c.left ++ l.kept.render.drop c.left.length = l.kept.render := by
  have front : l.kept.render <+: c.inner.render := ⟨_, l.render_eq.symm⟩
  have left : c.left <+: c.inner.render := ⟨_, c.split.symm⟩
  exact List.prefix_iff_eq_append.mp (List.prefix_of_prefix_length_le left front stays)

/-- The caret after a barf, if it is not behind what stays in the list. -/
def barfed (l : c.inner.LastForm) (stays : c.left.length ≤ l.kept.render.length) : Caret where
  outer := c.outer
  before := c.before
  kind := c.kind
  inner := l.kept
  after := l.putBefore c.after
  left := c.left
  right := l.kept.render.drop c.left.length
  wfOuter := c.wfOuter
  wfBefore := c.wfBefore
  wfInner := (l.wellFormed c.wfInner).1
  wfAfter := l.wellFormed_putBefore c.wfInner c.wfAfter
  split := (c.left_append_drop l stays).symm
  balancedLeft := c.balancedLeft
  balancedRight := by
    refine c.balancedLeft.of_append ?_
    rw [c.left_append_drop l stays]
    exact Document.balanced_render (l.wellFormed c.wfInner).1

end Caret

end LispEditor
