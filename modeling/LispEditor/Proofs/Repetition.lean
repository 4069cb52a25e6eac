import LispEditor.Proofs.Caret
import Mathlib.Data.List.Perm.Basic

set_option autoImplicit false
set_option relaxedAutoImplicit false

/-!
# The same edit again and again

An edit leaves the caret in the list that it changed, so that the next one goes on from there.
Slurps take in the forms behind the list one by one and end where its level ends. Barfs from the
front of a list put its children behind it one by one and end when none is left; then nothing is
between the brackets, not even a blank.
-/

namespace LispEditor

namespace Command

/-- The outcome of a command that is given a number of times, each time at the caret of the patch
that the last time made. -/
def repeated (command : Command) : Nat → Patch → Except Refusal Patch
  | 0, patch => .ok patch
  | n + 1, patch => command.apply patch.text patch.offset >>= command.repeated n

private theorem repeated_succ_of_ok {command : Command} {patch next : Patch} (n : Nat)
    (done : command.apply patch.text patch.offset = .ok next) :
    command.repeated (n + 1) patch = command.repeated n next := by
  rw [repeated, done]
  rfl

private theorem repeated_succ_of_error {command : Command} {patch last : Patch} {refusal : Refusal}
    {n : Nat} (run : command.repeated n patch = .ok last)
    (refused : command.apply last.text last.offset = .error refusal) :
    command.repeated (n + 1) patch = .error refusal := by
  induction n generalizing patch with
  | zero =>
      cases run
      rw [repeated, refused]
      rfl
  | succ n ih =>
      cases first : command.apply patch.text patch.offset with
      | error other =>
          rw [repeated, first] at run
          cases run
      | ok next =>
          rw [repeated_succ_of_ok n first] at run
          rw [repeated_succ_of_ok (n + 1) first]
          exact ih run

end Command

private theorem Text.perm_of_moved (front gap pushed back : Text) (c : Char) :
    (front ++ c :: (gap ++ (pushed ++ back))).Perm
      (front ++ (gap ++ (pushed ++ c :: back))) := by
  have inside : (c :: (gap ++ (pushed ++ back))).Perm (gap ++ (pushed ++ c :: back)) := by
    rw [← List.append_assoc gap, ← List.append_assoc gap]
    exact List.perm_middle.symm
  exact inside.append_left front

namespace Document

private theorem render_eq_nil_of_endsSolid {d : Document} (wf : d.isWellFormed = true) {here : Nat}
    (forms : d.formsAt here = []) (solid : d.render.EndsSolid) : d.render = [] := by
  obtain ⟨gap, rfl⟩ := eq_blanks_of_formsAt forms
  rw [render_blanks] at solid ⊢
  by_contra nonempty
  have last := List.getLast?_eq_some_getLast nonempty
  have isBlankLast := wellFormed_blanks.mp wf _ (List.mem_of_getLast? last)
  rw [solid _ last] at isBlankLast
  cases isBlankLast

private theorem eq_list_of_formsAt {form : Document} (isForm : form.isForm = true) {here : Nat}
    {kind : Delimiter} {list : Span} (found : form.formsAt here = [.list kind list]) :
    ∃ inner : Document, form = .list kind inner nil ∧
      list = ⟨here, here + inner.render.length + 2⟩ := by
  unfold Document.isForm at isForm
  split at isForm
  · cases found
  · cases found
  · rename_i k inner
    cases found
    exact ⟨inner, rfl, rfl⟩
  · cases isForm

end Document

namespace Caret

variable (c : Caret)

/-- The forms behind the list, in the level around it. -/
def followers : List Form :=
  c.after.formsAt c.list.stop

def children : List Form :=
  c.inner.formsAt c.context.start

/-! ## The list of a caret -/

private theorem exists_caret_within {before inner after : Document} {kind : Delimiter}
    {outer : Context}
    (wf : ((Context.within before kind after outer).plug inner).isWellFormed = true) {offset : Nat}
    (around : ((Context.within before kind after outer).plug inner).render.enclosing? offset =
      some ⟨(Context.within before kind after outer).listSpan inner, kind⟩) :
    ∃ c : Caret, c.document = (Context.within before kind after outer).plug inner ∧
      c.offset = offset ∧ c.list = (Context.within before kind after outer).listSpan inner ∧
      c.kind = kind ∧ c.after = after := by
  obtain ⟨c, text, rfl, list, rfl⟩ := exists_caret (.of_document wf) around
  obtain ⟨wfContext, wfInner⟩ := Context.wellFormed_plug.mp wf
  obtain ⟨wfBefore, wfAfter, wfOuter⟩ := Context.wellFormed_within.mp wfContext
  -- The two documents have the same text and the same list in it, so the same text inside it.
  have start : c.context.start = (Context.within before c.kind after outer).start := by
    have first : c.context.start - 1 = (Context.within before c.kind after outer).start - 1 :=
      congrArg Span.start list
    rw [context, Context.start_within, Context.start_within] at first
    rw [context, Context.start_within, Context.start_within]
    omega
  have length : c.inner.render.length = inner.render.length := by
    have last : c.context.start + c.inner.render.length + 1 =
        (Context.within before c.kind after outer).start + inner.render.length + 1 :=
      congrArg Span.stop list
    omega
  have same : c.inner.render = inner.render := by
    have whole := text
    rw [Caret.text, document, Context.render_plug, Context.render_plug] at whole
    obtain ⟨-, back⟩ := List.append_inj whole start
    exact (List.append_inj back length).1
  refine ⟨⟨outer, before, c.kind, inner, after, c.left, c.right, wfOuter, wfBefore, wfInner,
    wfAfter, same.symm.trans c.split, c.balancedLeft, c.balancedRight⟩, rfl, ?_, rfl, rfl, rfl⟩
  show (Context.within before c.kind after outer).start + c.left.length = c.context.start + _
  rw [start]

private theorem exists_caret_in_list {outer : Context} {level : Document}
    (wf : (outer.plug level).isWellFormed = true) {earlier later : List Form} {kind : Delimiter}
    {list : Span} (forms : level.formsAt outer.start = earlier ++ .list kind list :: later)
    {offset : Nat} (around : (outer.plug level).render.enclosing? offset = some ⟨list, kind⟩) :
    ∃ c : Caret, c.text = (outer.plug level).render ∧ c.offset = offset ∧ c.list = list ∧
      c.kind = kind ∧ c.followers = later := by
  obtain ⟨before, form, after, rfl, isForm, -, found, behind⟩ :=
    Document.exists_form_of_formsAt forms
  obtain ⟨inner, rfl, span⟩ := Document.eq_list_of_formsAt isForm found
  have covers : (Context.within before kind after outer).listSpan inner = list := by
    rw [span, Context.listSpan, Context.start_within]
    congr 1
    omega
  have around : ((Context.within before kind after outer).plug inner).render.enclosing? offset =
      some ⟨(Context.within before kind after outer).listSpan inner, kind⟩ := by
    rw [covers]
    exact around
  obtain ⟨c, document, rfl, place, rfl, rfl⟩ := exists_caret_within wf around
  have place : c.list = list := place.trans covers
  refine ⟨c, congrArg Document.render document, rfl, place, rfl, ?_⟩
  rw [followers, place]
  exact behind

/-! ## Slurping on -/

private theorem length_text :
    c.text.length = c.list.stop + c.after.render.length + c.outer.right.length := by
  rw [text_eq, list_stop, List.length_append, List.length_cons, List.length_append]
  omega

private theorem length_text_slurped (s : c.after.FirstForm) :
    (c.slurped s).text.length = c.text.length := by
  have behind : c.after.render.length =
      s.gap.length + (s.form.render.length + s.rest.render.length) := by
    rw [s.render_eq, List.length_append, List.length_append]
  have stop : (c.slurped s).list.stop = c.list.stop + s.gap.length + s.form.render.length := by
    rw [slurped_list]
  rw [length_text, length_text, stop, behind]
  show _ + s.rest.render.length + c.outer.right.length = _
  omega

private theorem exists_slurped_of_followers {f : Form} {later : List Form}
    (h : c.followers = f :: later) :
    ∃ s : c.after.FirstForm, (c.slurped s).list = ⟨c.list.start, f.span.stop⟩ ∧
      (c.slurped s).followers = later := by
  have head : (c.after.formsAt c.list.stop).head? = some f := by
    rw [← followers, h]
    rfl
  obtain ⟨s⟩ := Document.exists_firstForm head
  obtain ⟨g, single, span⟩ := Document.formsAt_of_isForm s.isForm (c.list.stop + s.gap.length)
  have forms : f :: later =
      g :: s.rest.formsAt (c.list.stop + s.gap.length + s.form.render.length) := by
    rw [← h, followers, s.formsAt_eq, single]
    rfl
  obtain ⟨rfl, rest⟩ := List.cons.inj forms
  refine ⟨s, ?_, ?_⟩
  · rw [slurped_list, span]
  · rw [rest, followers, slurped_list]
    rfl

theorem slurpForward_of_followers (h : c.followers = []) :
    c.text.slurpForward c.offset = .error (.nothingFollows c.list) := by
  have none : c.text.nextForm? c.list.stop = none := by
    rw [nextForm?_eq, ← followers, h]
    rfl
  simp only [Text.slurpForward, Text.clamp_of_le (Nat.le_of_lt c.offset_lt_length), enclosing?_eq,
    none]

/-- As many slurps as there are forms in the first part of those behind the list take in this part
of them, and leave the others behind the list. -/
theorem exists_slurped_repeated {pulled later : List Form} (h : c.followers = pulled ++ later) :
    ∃ e : Caret, e.offset = c.offset ∧ e.kind = c.kind ∧ e.text.length = c.text.length ∧
      e.list = ⟨c.list.start, Document.endOf c.list.stop pulled⟩ ∧ e.followers = later ∧
      Command.slurpForward.repeated pulled.length ⟨c.text, c.offset⟩ = .ok ⟨e.text, c.offset⟩ := by
  induction pulled generalizing c with
  | nil => exact ⟨c, rfl, rfl, rfl, rfl, h, rfl⟩
  | cons f pulled ih =>
      obtain ⟨s, list, rest⟩ := c.exists_slurped_of_followers h
      obtain ⟨e, offset, kind, length, last, behind, run⟩ := ih (c.slurped s) rest
      refine ⟨e, offset, kind, length.trans (c.length_text_slurped s), ?_, behind, ?_⟩
      · rw [last, list]
        rfl
      · have first : Command.slurpForward.apply c.text c.offset = _ := c.slurpForward_eq s
        rw [List.length_cons, Command.repeated_succ_of_ok _ first]
        exact run

/-! ## Barfing on -/

private theorem children_eq (l : c.inner.LastForm) :
    ∃ child, c.children = l.kept.formsAt c.context.start ++ [child] := by
  obtain ⟨child, single, -⟩ :=
    Document.formsAt_of_isForm l.isForm (c.context.start + l.kept.render.length + l.gap.length)
  exact ⟨child, by rw [children, l.formsAt_eq, single]⟩

private theorem exists_lastForm_of_children {earlier : List Form} {f : Form}
    (h : c.children = earlier ++ [f]) :
    ∃ l : c.inner.LastForm, l.kept.formsAt c.context.start = earlier := by
  have last : (c.inner.formsAt c.context.start).getLast? = some f := by
    rw [← children, h, List.getLast?_concat]
  obtain ⟨l⟩ := Document.exists_lastForm c.wfInner last
  obtain ⟨child, forms⟩ := c.children_eq l
  rw [h] at forms
  exact ⟨l, (List.append_inj_left' forms rfl).symm⟩

theorem barfForward_of_children (h : c.children = []) :
    c.text.barfForward c.offset = .error (.emptyList c.list) := by
  have none : c.text.lastChild? c.list = none := by
    rw [lastChild?_eq, ← children, h]
    rfl
  simp only [Text.barfForward, Text.clamp_of_le (Nat.le_of_lt c.offset_lt_length), enclosing?_eq,
    none]

private theorem brackets_of_empty (h : c.inner.render = []) :
    c.text[c.context.start - 1]? = some c.kind.opener ∧
      c.text[c.context.start]? = some c.kind.closer := by
  obtain ⟨delimits, -⟩ := Text.delimits_of_enclosing? c.enclosing?_eq
  refine ⟨delimits.opens, ?_⟩
  have closes := delimits.closes
  rw [list_stop, length_front, h] at closes
  exact closes

private theorem text_barfed_perm (l : c.inner.LastForm)
    (stays : c.left.length ≤ l.kept.render.length) :
    ∃ spaces ≤ 1, (c.barfed l stays).text.Perm (c.text ++ List.replicate spaces ' ') := by
  have barfed : (c.barfed l stays).text = c.keptFront l ++ c.kind.closer ::
      (Text.barfGap l.gap ++ ((l.form.render ++ l.tail) ++ (c.after.render ++ c.outer.right))) := by
    rw [text_eq]
    simp [barfed, front_eq, keptFront, context, Context.left, Document.LastForm.putBefore,
      Document.render_join, Document.render_append]
  have moved := Text.perm_of_moved (c.keptFront l) (Text.barfGap l.gap) (l.form.render ++ l.tail)
    (c.after.render ++ c.outer.right) c.kind.closer
  rw [← barfed] at moved
  by_cases empty : l.gap = []
  · refine ⟨1, Nat.le_refl 1, moved.trans ?_⟩
    rw [Text.barfGap, if_pos empty, c.text_eq_keptFront l, empty]
    exact List.perm_middle.trans (List.perm_append_singleton ' ' _).symm
  · refine ⟨0, Nat.zero_le 1, ?_⟩
    rw [Text.barfGap, if_neg empty, ← c.text_eq_keptFront l] at moved
    rwa [List.replicate_zero, List.append_nil]

/-- As many barfs as there are forms in the last part of those in the list put this part of them
behind the list, and leave the others in it. The caret is in front of all of them. -/
theorem exists_barfed_repeated (front : c.left = []) {kept pushed : List Form}
    (h : c.children = kept ++ pushed) :
    ∃ e : Caret, e.left = [] ∧ e.context.start = c.context.start ∧ e.kind = c.kind ∧
      e.children = kept ∧ (c.inner.render.EndsSolid ∨ pushed ≠ [] → e.inner.render.EndsSolid) ∧
      (∃ spaces ≤ pushed.length, e.text.Perm (c.text ++ List.replicate spaces ' ')) ∧
      Command.barfForward.repeated pushed.length ⟨c.text, c.offset⟩ = .ok ⟨e.text, c.offset⟩ := by
  induction pushed using List.reverseRecOn generalizing c with
  | nil =>
      refine ⟨c, front, rfl, rfl, by rw [h, List.append_nil], ?_, ⟨0, Nat.le_refl 0, ?_⟩, rfl⟩
      · rintro (solid | some)
        · exact solid
        · exact absurd rfl some
      · rw [List.replicate_zero, List.append_nil]
  | append_singleton pushed f ih =>
      rw [← List.append_assoc] at h
      obtain ⟨l, rest⟩ := c.exists_lastForm_of_children h
      have stays : c.left.length ≤ l.kept.render.length := by
        rw [front]
        exact Nat.zero_le _
      obtain ⟨e, left, start, kind, inside, solid, ⟨spaces, few, perm⟩, run⟩ :=
        ih (c.barfed l stays) front rest
      obtain ⟨space, one, first⟩ := c.text_barfed_perm l stays
      refine ⟨e, left, start, kind, inside, ?_, ⟨space + spaces, ?_, ?_⟩, ?_⟩
      · intro _
        exact solid (.inl l.solid)
      · rw [List.length_append, List.length_singleton]
        omega
      · have second := perm.trans (first.append_right (List.replicate spaces ' '))
        rwa [List.append_assoc, ← List.replicate_add] at second
      · have step : Command.barfForward.apply c.text c.offset = _ := c.barfForward_eq l
        rw [List.length_append, List.length_singleton, Command.repeated_succ_of_ok _ step]
        exact run

end Caret

namespace Document

/-- Behind a list of a well-formed document, slurps take in the forms that follow the list in its
level, one each, and then no more. The text keeps its length, and the list around the caret reaches
from where it began to the end of the last form taken in. -/
theorem slurpForward_absorbs_followers (d : Document) (wf : d.isWellFormed = true)
    (context : Context) (level : Document) (whole : context.plug level = d)
    {earlier later : List Form} {kind : Delimiter} {list : Span}
    (forms : level.formsAt context.start = earlier ++ .list kind list :: later) {offset : Nat}
    (around : d.render.enclosing? offset = some ⟨list, kind⟩) :
    (∀ n ≤ later.length, ∃ text : Text,
      Command.slurpForward.repeated n ⟨d.render, offset⟩ = .ok ⟨text, offset⟩ ∧
      text.length = d.render.length ∧
      text.enclosing? offset = some ⟨⟨list.start, endOf list.stop (later.take n)⟩, kind⟩) ∧
    Command.slurpForward.repeated (later.length + 1) ⟨d.render, offset⟩ =
      .error (.nothingFollows ⟨list.start, endOf list.stop later⟩) := by
  subst whole
  obtain ⟨c, text, rfl, rfl, rfl, rfl⟩ := Caret.exists_caret_in_list wf forms around
  rw [← text]
  constructor
  · intro n few
    obtain ⟨e, offset, kind, length, span, -, run⟩ :=
      c.exists_slurped_repeated (List.take_append_drop n c.followers).symm
    rw [List.length_take_of_le few] at run
    refine ⟨e.text, run, length, ?_⟩
    rw [← offset, ← kind, ← span]
    exact e.enclosing?_eq
  · obtain ⟨e, offset, -, -, span, none, run⟩ :=
      c.exists_slurped_repeated (List.append_nil c.followers).symm
    have refused : Command.slurpForward.apply e.text e.offset = _ :=
      e.slurpForward_of_followers none
    rw [offset, span] at refused
    exact Command.repeated_succ_of_error run refused

theorem slurpForward_absorbs_glued_atom_and_list :
    Command.slurpForward.repeated 2 ⟨"(x [a]b (c) )".toList, 4⟩ =
      .ok ⟨"(x [ab (c)] )".toList, 4⟩ ∧
    Text.enclosing? "(x [ab (c)] )".toList 4 = some ⟨⟨3, 11⟩, .bracket⟩ ∧
    Command.slurpForward.repeated 3 ⟨"(x [a]b (c) )".toList, 4⟩ =
      .error (.nothingFollows ⟨3, 11⟩) := by
  let level : Document := .atom ['x'] (.blank ' ' (.list .bracket (.atom ['a'] .nil)
    (.atom ['b'] (.blank ' ' (.list .paren (.atom ['c'] .nil) (.blank ' ' .nil))))))
  have wf : (list .paren level .nil).isWellFormed = true := by decide
  have forms : level.formsAt 1 =
      [.atom ⟨1, 2⟩] ++ .list .bracket ⟨3, 6⟩ :: [.atom ⟨6, 7⟩, .list .paren ⟨8, 11⟩] := rfl
  have around : (list .paren level .nil).render.enclosing? 4 = some ⟨⟨3, 6⟩, .bracket⟩ := by decide
  have slurped : Command.slurpForward.repeated 2 ⟨"(x [a]b (c) )".toList, 4⟩ =
      .ok ⟨"(x [ab (c)] )".toList, 4⟩ := by decide
  obtain ⟨run, refused⟩ := slurpForward_absorbs_followers (list .paren level .nil) wf
    (.within .nil .paren .nil .top) level rfl forms around
  refine ⟨slurped, ?_, refused⟩
  obtain ⟨text, found, -, list⟩ := run 2 (Nat.le_refl 2)
  cases slurped.symm.trans found
  exact list

/-- Barfs from the front of a list of a well-formed document put its children behind it, one each,
and then no more. They add at most one space each to the text, and if the list had a child, its
closer is right behind its opener in the end. -/
theorem barfForward_drains_list (d : Document) (wf : d.isWellFormed = true)
    (before inner after : Document) (kind : Delimiter) (outer : Context)
    (whole : (Context.within before kind after outer).plug inner = d) {here : Nat}
    (front : here = (Context.within before kind after outer).start) :
    (∀ n ≤ (inner.formsAt here).length, ∃ (text : Text) (spaces : Nat),
      Command.barfForward.repeated n ⟨d.render, here⟩ = .ok ⟨text, here⟩ ∧
      spaces ≤ n ∧ text.Perm (d.render ++ List.replicate spaces ' ') ∧
      (0 < n → n = (inner.formsAt here).length →
        text[here - 1]? = some kind.opener ∧ text[here]? = some kind.closer)) ∧
    ∃ list, Command.barfForward.repeated ((inner.formsAt here).length + 1) ⟨d.render, here⟩ =
      .error (.emptyList list) := by
  subst whole front
  obtain ⟨wfContext, wfInner⟩ := Context.wellFormed_plug.mp wf
  obtain ⟨wfBefore, wfAfter, wfOuter⟩ := Context.wellFormed_within.mp wfContext
  let c : Caret := ⟨outer, before, kind, inner, after, [], inner.render, wfOuter, wfBefore, wfInner,
    wfAfter, rfl, .nil, balanced_render wfInner⟩
  have children : c.children = inner.formsAt (Context.within before kind after outer).start := rfl
  rw [← children]
  constructor
  · intro n few
    have count : (c.children.drop (c.children.length - n)).length = n := by
      rw [List.length_drop]
      omega
    obtain ⟨e, -, start, same, rest, solid, ⟨spaces, bound, perm⟩, run⟩ :=
      c.exists_barfed_repeated rfl (List.take_append_drop (c.children.length - n) c.children).symm
    rw [count] at run bound
    refine ⟨e.text, spaces, run, bound, perm, ?_⟩
    intro positive all
    have drained : e.children = [] := by
      rw [rest, ← all, Nat.sub_self, List.take_zero]
    have some : c.children.drop (c.children.length - n) ≠ [] := by
      rw [← List.length_pos_iff, count]
      exact positive
    have empty := render_eq_nil_of_endsSolid e.wfInner drained (solid (.inr some))
    have brackets := e.brackets_of_empty empty
    rwa [start, same] at brackets
  · obtain ⟨e, left, start, -, drained, -, -, run⟩ :=
      c.exists_barfed_repeated rfl (List.nil_append c.children).symm
    have offset : e.offset = c.offset := by
      rw [Caret.offset, Caret.offset, left, start]
    have refused : Command.barfForward.apply e.text e.offset = _ :=
      e.barfForward_of_children drained
    rw [offset] at refused
    exact ⟨e.list, Command.repeated_succ_of_error run refused⟩

theorem barfForward_drains_tight_list :
    Command.barfForward.repeated 2 ⟨"(a(b) )x".toList, 1⟩ = .ok ⟨"() a (b) x".toList, 1⟩ ∧
    (∃ spaces ≤ 2, "() a (b) x".toList.Perm ("(a(b) )x".toList ++ List.replicate spaces ' ')) ∧
    ∃ list, Command.barfForward.repeated 3 ⟨"(a(b) )x".toList, 1⟩ = .error (.emptyList list) := by
  let inner : Document := .atom ['a'] (.list .paren (.atom ['b'] .nil) (.blank ' ' .nil))
  have wf : (list .paren inner (.atom ['x'] .nil)).isWellFormed = true := by decide
  have barfed : Command.barfForward.repeated 2 ⟨"(a(b) )x".toList, 1⟩ =
      .ok ⟨"() a (b) x".toList, 1⟩ := by cbv
  obtain ⟨run, refused⟩ := barfForward_drains_list (list .paren inner (.atom ['x'] .nil)) wf .nil
    inner (.atom ['x'] .nil) .paren .top rfl rfl
  obtain ⟨text, spaces, found, few, perm, -⟩ := run 2 (Nat.le_refl 2)
  cases barfed.symm.trans found
  exact ⟨barfed, ⟨spaces, few, perm⟩, refused⟩

end Document

end LispEditor
