import LispEditor.Proofs.Grammar
import Mathlib.Tactic.Tauto

set_option autoImplicit false
set_option relaxedAutoImplicit false

/-!
# The levels of a document

A document has a level at its top and one inside each of its lists. The context of a level says what
stands around it. Every offset of a document lies in one of the levels, in none of the lists of that
level; the list around the offset is then the one whose inside the level is.
-/

namespace LispEditor

/-- What stands around a level of a document: nothing, or the brackets of a list, with what stands
in front of it and behind it in the level outside. -/
inductive Context where
  | top
  | within (before : Document) (kind : Delimiter) (after : Document) (outer : Context)
  deriving DecidableEq, Repr

namespace Context

def plug : Context → Document → Document
  | top, inner => inner
  | within before kind after outer, inner => outer.plug (before.append (.list kind inner after))

def left : Context → Text
  | top => []
  | within before kind _ outer => outer.left ++ (before.render ++ [kind.opener])

def right : Context → Text
  | top => []
  | within _ kind after outer => kind.closer :: (after.render ++ outer.right)

def start (context : Context) : Nat :=
  context.left.length

/-- The span of the list whose inside is the level `inner` in the context. -/
def listSpan (context : Context) (inner : Document) : Span :=
  ⟨context.start - 1, context.start + inner.render.length + 1⟩

def isWellFormed : Context → Bool
  | top => true
  | within before _ after outer =>
      before.isWellFormed && after.isWellFormed && outer.isWellFormed

theorem start_within (before : Document) (kind : Delimiter) (after : Document) (outer : Context) :
    (within before kind after outer).start = outer.start + before.render.length + 1 := by
  simp only [start, left, List.length_append, List.length_singleton]
  omega

theorem wellFormed_within {before after : Document} {kind : Delimiter} {outer : Context} :
    (within before kind after outer).isWellFormed = true ↔
      before.isWellFormed = true ∧ after.isWellFormed = true ∧ outer.isWellFormed = true := by
  simp [isWellFormed, and_assoc]

theorem render_plug (context : Context) (inner : Document) :
    (context.plug inner).render = context.left ++ (inner.render ++ context.right) := by
  induction context generalizing inner with
  | top => simp [plug, left, right]
  | within before kind after outer ih =>
      simp [plug, left, right, ih, Document.render_append, Document.render]

theorem render_plug_append (context : Context) (front back : Document) :
    (context.plug (front.append back)).render =
      (context.left ++ front.render) ++ (back.render ++ context.right) := by
  rw [render_plug, Document.render_append]
  simp only [List.append_assoc]

theorem length_left_append (context : Context) (front : Document) :
    (context.left ++ front.render).length = context.start + front.render.length := by
  rw [List.length_append, start]

theorem wellFormed_plug {context : Context} {inner : Document} :
    (context.plug inner).isWellFormed = true ↔
      context.isWellFormed = true ∧ inner.isWellFormed = true := by
  induction context generalizing inner with
  | top => simp [plug, isWellFormed]
  | within before kind after outer ih =>
      have level : (before.append (.list kind inner after)).isWellFormed = true ↔
          before.isWellFormed = true ∧ inner.isWellFormed = true ∧ after.isWellFormed = true := by
        constructor
        · intro wf
          obtain ⟨wfBefore, wfList⟩ := Document.wellFormed_of_append wf
          exact ⟨wfBefore, Document.wellFormed_list.mp wfList⟩
        · rintro ⟨wfBefore, wfList⟩
          exact Document.wellFormed_append wfBefore (Document.wellFormed_list.mpr wfList) rfl
      rw [plug, ih, level, wellFormed_within]
      tauto

end Context

namespace Document

/-- Where an offset of a level can be that is in none of its lists: between two pieces, inside an
atom or inside a string. -/
inductive Spot (level : Document) : Nat → Prop
  | between (front back : Document) : level = front.append back → Spot level front.render.length
  | inAtom (front : Document) (chars more : List Char) (back : Document) :
      level = front.append (.atom (chars ++ more) back) → chars ≠ [] → more ≠ [] →
        Spot level (front.render.length + chars.length)
  | inString (front : Document) (body : List Char) (back : Document) (inside : Nat) :
      level = front.append (.string body back) → 0 < inside → inside < body.length + 2 →
        Spot level (front.render.length + inside)

/-- Whether the offset lies in some level of the document, in none of the lists of the level. -/
def HasSpotAt (d : Document) (offset : Nat) : Prop :=
  ∃ (context : Context) (level : Document) (i : Nat),
    context.plug level = d ∧ level.Spot i ∧ context.start + i = offset

private theorem hasSpotAt_behind {outer : Context} {before rest : Document} (piece : Document)
    (ih : ∀ before : Document, ∀ offset ≤ rest.render.length,
      (outer.plug (before.append rest)).HasSpotAt (outer.start + before.render.length + offset))
    {offset : Nat} (behind : piece.render.length ≤ offset)
    (h : offset ≤ (piece.append rest).render.length) :
    (outer.plug (before.append (piece.append rest))).HasSpotAt
      (outer.start + before.render.length + offset) := by
  rw [render_append, List.length_append] at h
  have spot := ih (before.append piece) (offset - piece.render.length) (by omega)
  have same : outer.start + (before.append piece).render.length +
      (offset - piece.render.length) = outer.start + before.render.length + offset := by
    rw [render_append, List.length_append]
    omega
  rwa [append_assoc, same] at spot

private theorem hasSpotAt_front (outer : Context) (before d : Document) :
    (outer.plug (before.append d)).HasSpotAt (outer.start + before.render.length + 0) :=
  ⟨outer, _, _, rfl, .between before d rfl, rfl⟩

private theorem hasSpotAt_plug (outer : Context) (before d : Document) (offset : Nat)
    (h : offset ≤ d.render.length) :
    (outer.plug (before.append d)).HasSpotAt (outer.start + before.render.length + offset) := by
  -- On the document, with what has been passed over in its level in `before`.
  induction d generalizing outer before offset with
  | nil =>
      obtain rfl : offset = 0 := by simpa [render] using h
      exact hasSpotAt_front outer before nil
  | blank c rest ih =>
      rcases Nat.eq_zero_or_pos offset with rfl | behind
      · exact hasSpotAt_front outer before _
      · exact hasSpotAt_behind (.blank c nil) (ih outer) behind h
  | atom chars rest ih =>
      rcases Nat.eq_zero_or_pos offset with rfl | positive
      · exact hasSpotAt_front outer before _
      · rcases Nat.lt_or_ge offset chars.length with inside | behind
        · have length : (chars.take offset).length = offset := by
            rw [List.length_take]
            omega
          refine ⟨outer, _, _, rfl, .inAtom before (chars.take offset) (chars.drop offset) rest
            ?_ ?_ ?_, ?_⟩
          · rw [List.take_append_drop]
          · rw [← List.length_pos_iff, length]
            exact positive
          · rw [← List.length_pos_iff, List.length_drop]
            omega
          · rw [length, Nat.add_assoc]
        · exact hasSpotAt_behind (.atom chars nil) (ih outer) (by simpa [render] using behind) h
  | string body rest ih =>
      rcases Nat.eq_zero_or_pos offset with rfl | positive
      · exact hasSpotAt_front outer before _
      · rcases Nat.lt_or_ge offset (body.length + 2) with inside | behind
        · refine ⟨outer, _, _, rfl, .inString before body rest offset rfl positive inside, ?_⟩
          rw [Nat.add_assoc]
        · refine hasSpotAt_behind (.string body nil) (ih outer) ?_ h
          simp only [render, List.length_cons, List.length_append, List.length_nil]
          omega
  | list kind inside rest ihInside ihRest =>
      -- The offset is in front of the list, inside it or behind it.
      rcases Nat.eq_zero_or_pos offset with rfl | positive
      · exact hasSpotAt_front outer before _
      · rcases Nat.lt_or_ge offset (inside.render.length + 2) with inList | behind
        · have spot := ihInside (.within before kind rest outer) nil (offset - 1) (by omega)
          have same : (Context.within before kind rest outer).start + nil.render.length +
              (offset - 1) = outer.start + before.render.length + offset := by
            rw [Context.start_within, render, List.length_nil]
            omega
          rwa [same] at spot
        · refine hasSpotAt_behind (.list kind inside nil) (ihRest outer) ?_ h
          simp only [render, List.length_cons, List.length_append, List.length_nil]
          omega

/-- Every offset of a document lies in a level, in none of the lists of the level. -/
theorem hasSpotAt {d : Document} {offset : Nat} (h : offset ≤ d.render.length) :
    d.HasSpotAt offset := by
  have spot := hasSpotAt_plug .top nil d offset h
  simpa [Context.plug, Context.start, Context.left, append, render] using spot

private theorem balanced_cut {front plain back : Text} (hf : front.Balanced) (hb : back.Balanced)
    (h : ∀ c ∈ plain, isOpener c = false ∧ isCloser c = false) (i : Nat) :
    Text.Balanced (front ++ plain.take i) ∧ Text.Balanced (plain.drop i ++ back) := by
  constructor
  · exact hf.append (.of_plain fun c hc => h c (List.mem_of_mem_take hc))
  · exact Text.Balanced.append (.of_plain fun c hc => h c (List.mem_of_mem_drop hc)) hb

theorem Spot.exists_split {level : Document} {i : Nat} (spot : level.Spot i)
    (wf : level.isWellFormed = true) :
    ∃ u v : Text, level.render = u ++ v ∧ u.length = i ∧ u.Balanced ∧ v.Balanced := by
  cases spot with
  | between front back same =>
      rw [same] at wf ⊢
      obtain ⟨wfFront, wfBack⟩ := wellFormed_of_append wf
      exact ⟨front.render, back.render, render_append front back, rfl, balanced_render wfFront,
        balanced_render wfBack⟩
  | inAtom front chars more back same =>
      rw [same] at wf ⊢
      obtain ⟨wfFront, wfBack⟩ := wellFormed_of_append wf
      obtain ⟨-, tokens, -, wfRest⟩ := wellFormed_atom.mp wfBack
      have plain : ∀ c ∈ chars ++ more, isOpener c = false ∧ isCloser c = false := by
        intro c hc
        obtain ⟨-, opens, closes, -⟩ := isToken_iff.mp (tokens c hc)
        exact ⟨opens, closes⟩
      obtain ⟨hu, hv⟩ :=
        balanced_cut (balanced_render wfFront) (balanced_render wfRest) plain chars.length
      rw [List.take_left] at hu
      rw [List.drop_left] at hv
      refine ⟨_, _, ?_, ?_, hu, hv⟩
      · simp [render_append, render]
      · rw [List.length_append]
  | inString front body back inside same _ last =>
      rw [same] at wf ⊢
      obtain ⟨wfFront, wfBack⟩ := wellFormed_of_append wf
      obtain ⟨isBody, wfRest⟩ := wellFormed_string.mp wfBack
      have plain : ∀ c ∈ '"' :: (body ++ ['"']), isOpener c = false ∧ isCloser c = false := by
        intro c hc
        simp only [List.mem_cons, List.mem_append, List.not_mem_nil, or_false] at hc
        rcases hc with rfl | hc | rfl
        · exact ⟨rfl, rfl⟩
        · exact plain_of_isStringBody isBody c hc
        · exact ⟨rfl, rfl⟩
      obtain ⟨hu, hv⟩ :=
        balanced_cut (balanced_render wfFront) (balanced_render wfRest) plain inside
      refine ⟨_, _, ?_, ?_, hu, hv⟩
      · have whole := List.take_append_drop inside ('"' :: (body ++ ['"']))
        rw [List.append_assoc, ← List.append_assoc (List.take _ _), whole]
        simp [render_append, render]
      · rw [List.length_append, List.length_take]
        simp only [List.length_cons, List.length_append, List.length_nil]
        omega

end Document

namespace Context

theorem enclosing?_top {inner : Document} {u v : Text} (split : inner.render = u ++ v)
    (hu : Text.Balanced u) : (top.plug inner).render.enclosing? (top.start + u.length) = none := by
  rw [plug, split, start, left, List.length_nil, Nat.zero_add]
  exact hu.enclosing?_eq_none v

theorem enclosing?_within {before after inner : Document} {kind : Delimiter} {outer : Context}
    {u v : Text} (split : inner.render = u ++ v) (hu : Text.Balanced u) (hv : Text.Balanced v) :
    ((within before kind after outer).plug inner).render.enclosing?
        ((within before kind after outer).start + u.length) =
      some ⟨(within before kind after outer).listSpan inner, kind⟩ := by
  have found := Text.enclosing?_of_balanced hu hv kind (outer.left ++ before.render)
    (after.render ++ outer.right)
  have length : (within before kind after outer).start =
      (outer.left ++ before.render).length + 1 := by
    rw [start_within, length_left_append]
  have whole : ((within before kind after outer).plug inner).render =
      (outer.left ++ before.render) ++
        kind.opener :: (u ++ (v ++ kind.closer :: (after.render ++ outer.right))) := by
    rw [render_plug, split]
    simp [left, right]
  have size : inner.render.length = u.length + v.length := by rw [split, List.length_append]
  rw [whole, listSpan, length, found, size, Nat.add_sub_cancel, Nat.add_assoc _ u.length v.length]

end Context

namespace Document

/-! ## The forms of a document -/

/-- The forms of the document and of the levels in it, for a text that stands from the offset `here`
on. -/
def allFormsAt (here : Nat) : Document → List Form
  | nil => []
  | blank _ rest => rest.allFormsAt (here + 1)
  | atom chars rest =>
      .atom ⟨here, here + chars.length⟩ :: rest.allFormsAt (here + chars.length)
  | string body rest =>
      .string ⟨here, here + body.length + 2⟩ :: rest.allFormsAt (here + body.length + 2)
  | list kind inside rest =>
      let stop := here + inside.render.length + 2
      .list kind ⟨here, stop⟩ :: (inside.allFormsAt (here + 1) ++ rest.allFormsAt stop)

def HasForm (d : Document) (f : Form) : Prop :=
  f ∈ d.allFormsAt 0

instance (d : Document) (f : Form) : Decidable (d.HasForm f) :=
  inferInstanceAs (Decidable (f ∈ d.allFormsAt 0))

private theorem allFormsAt_append (d e : Document) (here : Nat) :
    (d.append e).allFormsAt here = d.allFormsAt here ++ e.allFormsAt (here + d.render.length) := by
  induction d generalizing here with
  | nil => rfl
  | blank c rest ih =>
      rw [append, allFormsAt, ih, allFormsAt, render, List.length_cons, Nat.add_assoc,
        Nat.add_comm 1]
  | atom chars rest ih =>
      rw [append, allFormsAt, ih, allFormsAt, render, List.length_append, ← Nat.add_assoc,
        List.cons_append]
  | string body rest ih =>
      have stop : here + body.length + 2 + rest.render.length =
          here + (string body rest).render.length := by
        simp only [render, List.length_cons, List.length_append]
        omega
      rw [append, allFormsAt, ih, allFormsAt, stop, List.cons_append]
  | list kind inside rest _ ih =>
      have stop : here + inside.render.length + 2 + rest.render.length =
          here + (list kind inside rest).render.length := by
        simp only [render, List.length_cons, List.length_append]
        omega
      rw [append, allFormsAt, ih, allFormsAt, stop, List.cons_append, List.append_assoc]

private theorem mem_allFormsAt_of_formsAt {d : Document} {here : Nat} {f : Form}
    (h : f ∈ d.formsAt here) :
    f ∈ d.allFormsAt here := by
  induction d generalizing here with
  | nil => exact h
  | blank c rest ih => exact ih h
  | atom chars rest ih | string body rest ih =>
      rcases List.mem_cons.mp h with first | later
      · exact List.mem_cons.mpr (.inl first)
      · exact List.mem_cons.mpr (.inr (ih later))
  | list kind inside rest _ ih =>
      rcases List.mem_cons.mp h with first | later
      · exact List.mem_cons.mpr (.inl first)
      · exact List.mem_cons.mpr (.inr (List.mem_append_right _ (ih later)))

private theorem hasForm_of_level {context : Context} {level : Document} {f : Form}
    (h : f ∈ level.allFormsAt context.start) : (context.plug level).HasForm f := by
  induction context generalizing level with
  | top => exact h
  | within before kind after outer ih =>
      apply ih
      rw [Context.start_within] at h
      rw [allFormsAt_append]
      exact List.mem_append_right _ (List.mem_cons.mpr (.inr (List.mem_append_left _ h)))

def InLevel (d : Document) (f : Form) : Prop :=
  ∃ (context : Context) (level : Document), context.plug level = d ∧ f ∈ level.formsAt context.start

variable {outer : Context} {before d rest : Document} {f : Form}

private theorem inLevel_here (h : f ∈ d.formsAt (outer.start + before.render.length)) :
    (outer.plug (before.append d)).InLevel f := by
  refine ⟨outer, _, rfl, ?_⟩
  rw [formsAt_append]
  exact List.mem_append_right _ h

private theorem inLevel_behind (piece : Document)
    (ih : ∀ before : Document, f ∈ rest.allFormsAt (outer.start + before.render.length) →
      (outer.plug (before.append rest)).InLevel f)
    (h : f ∈ rest.allFormsAt (outer.start + before.render.length + piece.render.length)) :
    (outer.plug (before.append (piece.append rest))).InLevel f := by
  rw [← append_assoc]
  apply ih
  rwa [render_append, List.length_append, ← Nat.add_assoc]

private theorem inLevel_plug (outer : Context) (before : Document)
    (h : f ∈ d.allFormsAt (outer.start + before.render.length)) :
    (outer.plug (before.append d)).InLevel f := by
  -- On the document, with what has been passed over in its level in `before`.
  induction d generalizing outer before with
  | nil => cases h
  | blank c rest ih => exact inLevel_behind (.blank c nil) (ih outer) h
  | atom chars rest ih =>
      rcases List.mem_cons.mp h with rfl | later
      · exact inLevel_here List.mem_cons_self
      · refine inLevel_behind (.atom chars nil) (ih outer) ?_
        simpa [render] using later
  | string body rest ih =>
      rcases List.mem_cons.mp h with rfl | later
      · exact inLevel_here List.mem_cons_self
      · refine inLevel_behind (.string body nil) (ih outer) ?_
        simpa [render, Nat.add_assoc] using later
  | list kind inside rest ihInside ihRest =>
      rcases List.mem_cons.mp h with rfl | later
      · exact inLevel_here List.mem_cons_self
      · rcases List.mem_append.mp later with within | behind
        · refine ihInside (.within before kind rest outer) nil ?_
          rwa [Context.start_within]
        · refine inLevel_behind (.list kind inside nil) (ihRest outer) ?_
          simpa [render, Nat.add_assoc] using behind

private theorem HasForm.inLevel (h : d.HasForm f) : d.InLevel f :=
  inLevel_plug .top nil h

theorem hasForm_plug {context : Context} {front back : Document} (form : Document) {f : Form}
    (found : form.formsAt (context.start + front.render.length) = [f]) :
    (context.plug (front.append (form.append back))).HasForm f := by
  apply hasForm_of_level
  apply mem_allFormsAt_of_formsAt
  rw [formsAt_append, formsAt_append, found]
  simp

theorem HasForm.exists_split {d : Document} {f : Form} (h : d.HasForm f) :
    ∃ (context : Context) (front form back : Document),
      context.plug (front.append (form.append back)) = d ∧ form.isForm = true ∧
      form.formsAt (context.start + front.render.length) = [f] := by
  obtain ⟨context, level, rfl, member⟩ := h.inLevel
  obtain ⟨earlier, later, forms⟩ := List.append_of_mem member
  obtain ⟨front, form, back, rfl, isForm, -, found, -⟩ := exists_form_of_formsAt forms
  exact ⟨context, front, form, back, rfl, isForm, found⟩

end Document

end LispEditor
