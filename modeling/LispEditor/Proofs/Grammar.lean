import LispEditor.Document
import LispEditor.Proofs.Nesting

set_option autoImplicit false
set_option relaxedAutoImplicit false

/-!
# Well-formed documents

What well-formed documents are closed under, and how they split at their forms. The text of one is
balanced, since its strings hold no delimiter. Two of them in a row are one again: where two atoms
meet they become one, so what counts as well-formed is the text and not how it is cut.
-/

namespace LispEditor

theorem isToken_iff {c : Char} : isToken c = true ↔
    isBlank c = false ∧ isOpener c = false ∧ isCloser c = false ∧ c ≠ '"' := by
  simp [isToken, and_assoc]

@[simp] theorem isBlank_quote : isBlank '"' = false := rfl

@[simp] theorem isCloser_quote : isCloser '"' = false := rfl

@[simp] theorem isToken_quote : isToken '"' = false := rfl

@[simp] theorem Delimiter.isToken_opener (k : Delimiter) : isToken k.opener = false := by
  cases k <;> rfl

@[simp] theorem Delimiter.isToken_closer (k : Delimiter) : isToken k.closer = false := by
  cases k <;> rfl

private theorem isOpener_of_isBlank {c : Char} (h : isBlank c = true) : isOpener c = false := by
  rw [← Bool.not_eq_true]
  intro opens
  obtain ⟨k, rfl⟩ := exists_opener_of_isOpener opens
  simp at h

private theorem isCloser_of_isBlank {c : Char} (h : isBlank c = true) : isCloser c = false := by
  rw [← Bool.not_eq_true]
  intro closes
  obtain ⟨k, rfl⟩ := exists_closer_of_isCloser closes
  simp at h

theorem isToken_of_isBlank {c : Char} (h : isBlank c = true) : isToken c = false := by
  simp [isToken, h]

theorem isStringBody_cons {last c : Char} {body : List Char} :
    isStringBody last (c :: body) = true ↔
      isOpener c = false ∧ isCloser c = false ∧ ¬ (c = '"' ∧ last ≠ '\\') ∧
        isStringBody c body = true := by
  simp [isStringBody, and_assoc, Decidable.imp_iff_not_or]

theorem plain_of_isStringBody {last : Char} {body : List Char}
    (h : isStringBody last body = true) : ∀ c ∈ body, isOpener c = false ∧ isCloser c = false := by
  induction body generalizing last with
  | nil => simp
  | cons c body ih =>
      obtain ⟨opens, closes, -, rest⟩ := isStringBody_cons.mp h
      intro d hd
      rcases List.mem_cons.mp hd with rfl | hd
      · exact ⟨opens, closes⟩
      · exact ih rest d hd

namespace Text

theorem forall_getLast?_append {p : Char → Prop} {t u : Text} (ht : ∀ c ∈ t.getLast?, p c)
    (hu : ∀ c ∈ u.getLast?, p c) : ∀ c ∈ (t ++ u).getLast?, p c := by
  intro c hc
  rw [List.getLast?_append, Option.mem_def, Option.or_eq_some_iff] at hc
  rcases hc with last | ⟨-, last⟩
  · exact hu c last
  · exact ht c last

theorem forall_getLast?_concat {p : Char → Prop} (t : Text) {c : Char} (h : p c) :
    ∀ d ∈ (t ++ [c]).getLast?, p d := by
  simpa using h

/-- Whether the text does not end in a blank. -/
def EndsSolid (t : Text) : Prop :=
  ∀ c ∈ t.getLast?, isBlank c = false

theorem EndsSolid.nil : EndsSolid [] := by
  simp [EndsSolid]

theorem EndsSolid.concat (t : Text) {c : Char} (h : isBlank c = false) : EndsSolid (t ++ [c]) :=
  forall_getLast?_concat t h

theorem EndsSolid.append {t u : Text} (ht : t.EndsSolid) (hu : u.EndsSolid) :
    EndsSolid (t ++ u) :=
  forall_getLast?_append ht hu

theorem EndsSolid.of_append {t u : Text} (h : EndsSolid (t ++ u)) : u.EndsSolid := by
  intro c hc
  apply h
  rw [List.getLast?_append, Option.mem_def.mp hc]
  rfl

theorem getElem?_length_append (front back : Text) :
    (front ++ back)[front.length]? = back.head? := by
  rw [List.getElem?_append_right (Nat.le_refl _), Nat.sub_self, List.head?_eq_getElem?]

theorem getElem?_pred_length_append {front : Text} (back : Text) (positive : 0 < front.length) :
    (front ++ back)[front.length - 1]? = front.getLast? := by
  rw [List.getElem?_append_left (by omega), List.getLast?_eq_getElem?]

theorem slice_append (before inside after : Text) {start stop : Nat} (first : start = before.length)
    (last : stop = before.length + inside.length) :
    slice (before ++ (inside ++ after)) ⟨start, stop⟩ = inside := by
  subst first last
  rw [slice, ← List.append_assoc, ← List.length_append, List.take_left, List.drop_left]

theorem solidBack_append {front gap : Text} (solid : front.EndsSolid)
    (blank : ∀ c ∈ gap, isBlank c = true) (after : Text) :
    solidBack (front ++ (gap ++ after)) (front.length + gap.length) = front.reverse := by
  have blankBack : ∀ c ∈ gap.reverse, isBlank c = true := by
    intro c hc
    exact blank c (List.mem_reverse.mp hc)
  rw [solidBack, ← List.append_assoc, ← List.length_append, List.take_left, List.reverse_append,
    List.dropWhile_append_of_pos blankBack]
  cases reversed : front.reverse with
  | nil => rfl
  | cons c before =>
      have last : front.getLast? = some c := by
        rw [← List.head?_reverse, reversed]
        rfl
      simp [solid c last]

theorem solidBefore?_append {front gap : Text} (solid : front.EndsSolid) (nonempty : front ≠ [])
    (blank : ∀ c ∈ gap, isBlank c = true) (after : Text) :
    solidBefore? (front ++ (gap ++ after)) (front.length + gap.length) =
      some (front.length - 1) := by
  rw [solidBefore?, solidBack_append solid blank]
  cases reversed : front.reverse with
  | nil => exact absurd (List.reverse_eq_nil_iff.mp reversed) nonempty
  | cons c before =>
      have length : front.length = before.length + 1 := by
        rw [← List.length_reverse, reversed, List.length_cons]
      rw [length, Nat.add_sub_cancel]

end Text

namespace Document

section wellFormed

variable {c : Char} {chars body : List Char} {kind : Delimiter} {inside rest : Document}

theorem wellFormed_blank :
    (blank c rest).isWellFormed = true ↔ isBlank c = true ∧ rest.isWellFormed = true := by
  simp [isWellFormed]

theorem wellFormed_atom :
    (atom chars rest).isWellFormed = true ↔
      chars ≠ [] ∧ (∀ c ∈ chars, isToken c = true) ∧ rest.startsWithAtom = false ∧
        rest.isWellFormed = true := by
  simp [isWellFormed, and_assoc]

theorem wellFormed_string :
    (string body rest).isWellFormed = true ↔
      isStringBody '"' body = true ∧ rest.isWellFormed = true := by
  simp [isWellFormed]

theorem wellFormed_list :
    (list kind inside rest).isWellFormed = true ↔
      inside.isWellFormed = true ∧ rest.isWellFormed = true := by
  simp [isWellFormed]

end wellFormed

theorem render_string (body : List Char) (rest : Document) :
    (string body rest).render = (('"' :: body) ++ ['"']) ++ rest.render := by
  simp [render]

theorem render_list (kind : Delimiter) (inside rest : Document) :
    (list kind inside rest).render =
      ((kind.opener :: inside.render) ++ [kind.closer]) ++ rest.render := by
  simp [render]

/-- The delimiters of a well-formed document are those of its lists. -/
theorem balanced_render {d : Document} (wf : d.isWellFormed = true) : Text.Balanced d.render := by
  induction d with
  | nil => exact .nil
  | blank c rest ih =>
      obtain ⟨blank, wfRest⟩ := wellFormed_blank.mp wf
      exact .plain (isOpener_of_isBlank blank) (isCloser_of_isBlank blank) (ih wfRest)
  | atom chars rest ih =>
      obtain ⟨-, tokens, -, wfRest⟩ := wellFormed_atom.mp wf
      refine Text.Balanced.append (.of_plain ?_) (ih wfRest)
      intro c hc
      obtain ⟨-, opens, closes, -⟩ := isToken_iff.mp (tokens c hc)
      exact ⟨opens, closes⟩
  | string body rest ih =>
      obtain ⟨isBody, wfRest⟩ := wellFormed_string.mp wf
      refine .plain rfl rfl (Text.Balanced.append (.of_plain (plain_of_isStringBody isBody)) ?_)
      exact .plain rfl rfl (ih wfRest)
  | list kind inside rest ihInside ihRest =>
      obtain ⟨wfInside, wfRest⟩ := wellFormed_list.mp wf
      exact .pair kind (ihInside wfInside) (ihRest wfRest)

/-! ## One document behind the other -/

theorem append_assoc (d e f : Document) : (d.append e).append f = d.append (e.append f) := by
  induction d with
  | nil => rfl
  | blank c rest ih => simp only [append, ih]
  | atom chars rest ih => simp only [append, ih]
  | string body rest ih => simp only [append, ih]
  | list kind inside rest _ ih => simp only [append, ih]

theorem append_nil (d : Document) : d.append nil = d := by
  induction d with
  | nil => rfl
  | blank c rest ih => simp only [append, ih]
  | atom chars rest ih => simp only [append, ih]
  | string body rest ih => simp only [append, ih]
  | list kind inside rest _ ih => simp only [append, ih]

/-- One document behind the other, with two atoms that meet made one. -/
def join : Document → Document → Document
  | nil, e => e
  | blank c rest, e => blank c (rest.join e)
  | atom chars nil, atom more rest => atom (chars ++ more) rest
  | atom chars rest, e => atom chars (rest.join e)
  | string body rest, e => string body (rest.join e)
  | list kind inside rest, e => list kind inside (rest.join e)

theorem render_join (d e : Document) : (d.join e).render = d.render ++ e.render := by
  fun_induction join d e with
  | case1 e => rfl
  | case2 c rest e ih => simp only [render, ih, List.cons_append]
  | case3 chars more rest => simp only [render, List.append_nil, List.append_assoc]
  | case4 chars rest e _ ih => simp only [render, ih, List.append_assoc]
  | case5 body rest e ih => simp only [render, ih, List.cons_append, List.append_assoc]
  | case6 kind inside rest e ih => simp only [render, ih, List.cons_append, List.append_assoc]

private theorem startsWithAtom_join {d : Document} (e : Document) (h : d ≠ nil) :
    (d.join e).startsWithAtom = d.startsWithAtom := by
  cases d with
  | nil => exact absurd rfl h
  | blank | string | list => rfl
  | atom chars rest => cases rest <;> cases e <;> rfl

theorem wellFormed_join {d e : Document} (hd : d.isWellFormed = true)
    (he : e.isWellFormed = true) : (d.join e).isWellFormed = true := by
  fun_induction join d e with
  | case1 e => exact he
  | case2 c rest e ih =>
      obtain ⟨blank, wfRest⟩ := wellFormed_blank.mp hd
      exact wellFormed_blank.mpr ⟨blank, ih wfRest he⟩
  | case3 chars more rest =>
      obtain ⟨nonempty, tokens, -, -⟩ := wellFormed_atom.mp hd
      obtain ⟨-, tokensMore, separate, wfRest⟩ := wellFormed_atom.mp he
      refine wellFormed_atom.mpr ⟨?_, ?_, separate, wfRest⟩
      · exact List.append_ne_nil_of_left_ne_nil nonempty more
      · intro c hc
        rcases List.mem_append.mp hc with hc | hc
        · exact tokens c hc
        · exact tokensMore c hc
  | case4 chars rest e apart ih =>
      obtain ⟨nonempty, tokens, separate, wfRest⟩ := wellFormed_atom.mp hd
      refine wellFormed_atom.mpr ⟨nonempty, tokens, ?_, ih wfRest he⟩
      by_cases last : rest = nil
      · subst last
        cases e with
        | atom more rest => exact absurd rfl (apart more rest rfl)
        | nil | blank | string | list => rfl
      · rw [startsWithAtom_join e last]
        exact separate
  | case5 body rest e ih =>
      obtain ⟨isBody, wfRest⟩ := wellFormed_string.mp hd
      exact wellFormed_string.mpr ⟨isBody, ih wfRest he⟩
  | case6 kind inside rest e ih =>
      obtain ⟨wfInside, wfRest⟩ := wellFormed_list.mp hd
      exact wellFormed_list.mpr ⟨wfInside, ih wfRest he⟩

private theorem startsWithAtom_append {d : Document} (e : Document) (h : d ≠ nil) :
    (d.append e).startsWithAtom = d.startsWithAtom := by
  cases d with
  | nil => exact absurd rfl h
  | blank | atom | string | list => rfl

private theorem startsWithAtom_of_append {d e : Document}
    (h : (d.append e).startsWithAtom = false) :
    d.startsWithAtom = false := by
  by_cases first : d = nil
  · rw [first]
    rfl
  · rwa [startsWithAtom_append e first] at h

theorem wellFormed_of_append {d e : Document} (wf : (d.append e).isWellFormed = true) :
    d.isWellFormed = true ∧ e.isWellFormed = true := by
  induction d with
  | nil => exact ⟨rfl, wf⟩
  | blank c rest ih =>
      obtain ⟨blank, wfRest⟩ := wellFormed_blank.mp wf
      obtain ⟨front, back⟩ := ih wfRest
      exact ⟨wellFormed_blank.mpr ⟨blank, front⟩, back⟩
  | atom chars rest ih =>
      obtain ⟨nonempty, tokens, separate, wfRest⟩ := wellFormed_atom.mp wf
      obtain ⟨front, back⟩ := ih wfRest
      have apart := startsWithAtom_of_append separate
      exact ⟨wellFormed_atom.mpr ⟨nonempty, tokens, apart, front⟩, back⟩
  | string body rest ih =>
      obtain ⟨isBody, wfRest⟩ := wellFormed_string.mp wf
      obtain ⟨front, back⟩ := ih wfRest
      exact ⟨wellFormed_string.mpr ⟨isBody, front⟩, back⟩
  | list kind inside rest _ ih =>
      obtain ⟨wfInside, wfRest⟩ := wellFormed_list.mp wf
      obtain ⟨front, back⟩ := ih wfRest
      exact ⟨wellFormed_list.mpr ⟨wfInside, front⟩, back⟩

theorem wellFormed_append {d e : Document} (hd : d.isWellFormed = true)
    (he : e.isWellFormed = true) (apart : e.startsWithAtom = false) :
    (d.append e).isWellFormed = true := by
  induction d with
  | nil => exact he
  | blank c rest ih =>
      obtain ⟨blank, wfRest⟩ := wellFormed_blank.mp hd
      exact wellFormed_blank.mpr ⟨blank, ih wfRest⟩
  | atom chars rest ih =>
      obtain ⟨nonempty, tokens, separate, wfRest⟩ := wellFormed_atom.mp hd
      refine wellFormed_atom.mpr ⟨nonempty, tokens, ?_, ih wfRest⟩
      by_cases last : rest = nil
      · rw [last]
        exact apart
      · rwa [startsWithAtom_append e last]
  | string body rest ih =>
      obtain ⟨isBody, wfRest⟩ := wellFormed_string.mp hd
      exact wellFormed_string.mpr ⟨isBody, ih wfRest⟩
  | list kind inside rest _ ih =>
      obtain ⟨wfInside, wfRest⟩ := wellFormed_list.mp hd
      exact wellFormed_list.mpr ⟨wfInside, ih wfRest⟩

theorem join_eq_append {d e : Document} (wf : (d.append e).isWellFormed = true) :
    d.join e = d.append e := by
  fun_induction join d e with
  | case1 e => rfl
  | case2 c rest e ih => rw [ih (wellFormed_blank.mp wf).2, append]
  | case3 chars more rest =>
      obtain ⟨-, -, apart, -⟩ := wellFormed_atom.mp wf
      cases apart
  | case4 chars rest e _ ih => rw [ih (wellFormed_atom.mp wf).2.2.2, append]
  | case5 body rest e ih => rw [ih (wellFormed_string.mp wf).2, append]
  | case6 kind inside rest e ih => rw [ih (wellFormed_list.mp wf).2, append]

theorem formsAt_append (d e : Document) (here : Nat) :
    (d.append e).formsAt here = d.formsAt here ++ e.formsAt (here + d.render.length) := by
  induction d generalizing here with
  | nil => rfl
  | blank c rest ih =>
      simp only [append, formsAt, render, List.length_cons, ih]
      rw [Nat.add_right_comm here 1, Nat.add_assoc]
  | atom chars rest ih =>
      simp only [append, formsAt, render, List.length_append, List.cons_append, ih, Nat.add_assoc]
  | string body rest ih =>
      simp only [append, formsAt, render, List.length_append, List.length_cons, List.cons_append,
        ih]
      congr 3
      omega
  | list kind inside rest _ ih =>
      simp only [append, formsAt, render, List.length_append, List.length_cons, List.cons_append,
        ih]
      congr 3
      omega

/-! ## Blanks around the forms -/

def blanks : List Char → Document
  | [] => nil
  | c :: gap => blank c (blanks gap)

@[simp] theorem render_blanks (gap : List Char) : (blanks gap).render = gap := by
  induction gap with
  | nil => rfl
  | cons c gap ih => simp only [blanks, render, ih]

@[simp] theorem formsAt_blanks (gap : List Char) (here : Nat) : (blanks gap).formsAt here = [] := by
  induction gap generalizing here with
  | nil => rfl
  | cons c gap ih => exact ih (here + 1)

theorem blanks_append (gap more : List Char) :
    blanks (gap ++ more) = (blanks gap).append (blanks more) := by
  induction gap with
  | nil => rfl
  | cons c gap ih => simp only [List.cons_append, blanks, append, ih]

theorem blanks_join (gap : List Char) (d : Document) :
    (blanks gap).join d = (blanks gap).append d := by
  induction gap with
  | nil => rfl
  | cons c gap ih => simp only [blanks, join, append, ih]

theorem wellFormed_blanks {gap : List Char} :
    (blanks gap).isWellFormed = true ↔ ∀ c ∈ gap, isBlank c = true := by
  induction gap with
  | nil => simp [blanks, isWellFormed]
  | cons c gap ih => rw [blanks, wellFormed_blank, ih, List.forall_mem_cons]

theorem eq_blanks_of_formsAt {d : Document} {here : Nat} (h : d.formsAt here = []) :
    ∃ gap, d = blanks gap := by
  induction d generalizing here with
  | nil => exact ⟨[], rfl⟩
  | blank c rest ih =>
      obtain ⟨gap, rfl⟩ := ih h
      exact ⟨c :: gap, rfl⟩
  | atom | string | list => cases h

theorem eq_nil_of_render_eq_nil {d : Document} (wf : d.isWellFormed = true)
    (h : d.render = []) : d = nil := by
  cases d with
  | nil => rfl
  | blank | string | list => cases h
  | atom chars rest =>
      obtain ⟨nonempty, -⟩ := wellFormed_atom.mp wf
      exact absurd (List.append_eq_nil_iff.mp h).1 nonempty

theorem exists_trim {d : Document} (wf : d.isWellFormed = true) :
    ∃ (e : Document) (gap : List Char), d = e.append (blanks gap) ∧ e.render.EndsSolid := by
  induction d with
  | nil => exact ⟨nil, [], rfl, Text.EndsSolid.nil⟩
  | blank c rest ih =>
      have wfRest := (wellFormed_blank.mp wf).2
      obtain ⟨e, gap, rfl, solid⟩ := ih wfRest
      by_cases empty : e.render = []
      · have none := eq_nil_of_render_eq_nil (wellFormed_of_append wfRest).1 empty
        exact ⟨nil, c :: gap, by rw [none]; rfl, Text.EndsSolid.nil⟩
      · refine ⟨blank c e, gap, rfl, ?_⟩
        rwa [Text.EndsSolid, render, List.getLast?_cons_of_ne_nil empty]
  | atom chars rest ih =>
      obtain ⟨-, tokens, -, wfRest⟩ := wellFormed_atom.mp wf
      obtain ⟨e, gap, rfl, solid⟩ := ih wfRest
      refine ⟨atom chars e, gap, rfl, Text.EndsSolid.append ?_ solid⟩
      intro c hc
      exact (isToken_iff.mp (tokens c (List.mem_of_getLast? hc))).1
  | string body rest ih =>
      obtain ⟨e, gap, rfl, solid⟩ := ih (wellFormed_string.mp wf).2
      refine ⟨string body e, gap, rfl, ?_⟩
      rw [render_string]
      exact (Text.EndsSolid.concat _ isBlank_quote).append solid
  | list kind inside rest _ ih =>
      obtain ⟨e, gap, rfl, solid⟩ := ih (wellFormed_list.mp wf).2
      refine ⟨list kind inside e, gap, rfl, ?_⟩
      rw [render_list]
      exact (Text.EndsSolid.concat _ kind.isBlank_closer).append solid

/-! ## The first and the last form -/

/-- Whether the document is one form and nothing else. -/
def isForm : Document → Bool
  | atom _ nil | string _ nil | list _ _ nil => true
  | _ => false

theorem formsAt_of_isForm {d : Document} (h : d.isForm = true) (here : Nat) :
    ∃ f, d.formsAt here = [f] ∧ f.span = ⟨here, here + d.render.length⟩ := by
  unfold isForm at h
  split at h
  · exact ⟨_, rfl, by simp [Form.span, render]⟩
  · exact ⟨_, rfl, by simp [Form.span, render, Nat.add_assoc]⟩
  · exact ⟨_, rfl, by simp [Form.span, render, Nat.add_assoc]⟩
  · cases h

theorem stop_of_formsAt {d : Document} (h : d.isForm = true) {here : Nat} {f : Form}
    (found : d.formsAt here = [f]) : f.span.stop = here + d.render.length := by
  obtain ⟨g, forms, span⟩ := formsAt_of_isForm h here
  obtain rfl : g = f := by simpa [forms] using found
  rw [span]

theorem exists_solid_head {form : Document} (isForm : form.isForm = true)
    (wf : form.isWellFormed = true) :
    ∃ (c : Char) (chars : List Char), form.render = c :: chars ∧ isBlank c = false := by
  unfold Document.isForm at isForm
  split at isForm
  · rename_i chars
    obtain ⟨nonempty, tokens, -, -⟩ := wellFormed_atom.mp wf
    obtain ⟨c, chars, rfl⟩ := List.exists_cons_of_ne_nil nonempty
    exact ⟨c, _, rfl, (isToken_iff.mp (tokens c List.mem_cons_self)).1⟩
  · exact ⟨_, _, rfl, isBlank_quote⟩
  · rename_i kind inside
    exact ⟨_, _, rfl, kind.isBlank_opener⟩
  · cases isForm

theorem wellFormed_form_append {form d : Document} (isForm : form.isForm = true)
    (wfForm : form.isWellFormed = true) (wf : d.isWellFormed = true)
    (apart : ∀ chars, form = atom chars nil → d.startsWithAtom = false) :
    (form.append d).isWellFormed = true := by
  unfold Document.isForm at isForm
  split at isForm
  · rename_i chars
    exact wellFormed_append wfForm wf (apart chars rfl)
  · exact wellFormed_string.mpr ⟨(wellFormed_string.mp wfForm).1, wf⟩
  · exact wellFormed_list.mpr ⟨(wellFormed_list.mp wfForm).1, wf⟩
  · cases isForm

theorem exists_first_form {d : Document} {here : Nat} {f : Form} {later : List Form}
    (h : d.formsAt here = f :: later) :
    ∃ (gap : List Char) (form rest : Document), d = (blanks gap).append (form.append rest) ∧
      form.isForm = true ∧ form.formsAt (here + gap.length) = [f] ∧
      rest.formsAt f.span.stop = later := by
  induction d generalizing here with
  | nil => cases h
  | blank c rest ih =>
      obtain ⟨gap, form, rest, rfl, isForm, first, forms⟩ := ih h
      refine ⟨c :: gap, form, rest, rfl, isForm, ?_, forms⟩
      rwa [List.length_cons, Nat.add_comm gap.length, ← Nat.add_assoc]
  | atom chars rest =>
      obtain ⟨rfl, rfl⟩ := List.cons.inj h
      exact ⟨[], atom chars nil, rest, rfl, rfl, rfl, rfl⟩
  | string body rest =>
      obtain ⟨rfl, rfl⟩ := List.cons.inj h
      exact ⟨[], string body nil, rest, rfl, rfl, rfl, rfl⟩
  | list kind inside rest =>
      obtain ⟨rfl, rfl⟩ := List.cons.inj h
      exact ⟨[], list kind inside nil, rest, rfl, rfl, rfl, rfl⟩

/-- At each of its forms a document splits into what is in front, the form and what is behind. -/
theorem exists_form_of_formsAt {d : Document} {here : Nat} {earlier : List Form} {f : Form}
    {later : List Form} (h : d.formsAt here = earlier ++ f :: later) :
    ∃ before form after : Document, d = before.append (form.append after) ∧ form.isForm = true ∧
      before.formsAt here = earlier ∧ form.formsAt (here + before.render.length) = [f] ∧
      after.formsAt f.span.stop = later := by
  -- On the forms in front: each takes the first form off the document.
  induction earlier generalizing d here with
  | nil =>
      obtain ⟨gap, form, rest, rfl, isForm, first, forms⟩ := exists_first_form h
      refine ⟨blanks gap, form, rest, rfl, isForm, formsAt_blanks gap here, ?_, forms⟩
      rwa [render_blanks]
  | cons g earlier ih =>
      obtain ⟨gap, form, rest, rfl, isForm, first, forms⟩ := exists_first_form h
      obtain ⟨before, last, after, rfl, isLast, middle, found, behind⟩ := ih forms
      have stop := stop_of_formsAt isForm first
      refine ⟨(blanks gap).append (form.append before), last, after, ?_, isLast, ?_, ?_, behind⟩
      · simp only [append_assoc]
      · rw [formsAt_append, formsAt_append, formsAt_blanks, render_blanks, first, ← stop, middle]
        rfl
      · rw [render_append, render_append, render_blanks, List.length_append, List.length_append,
          ← Nat.add_assoc, ← Nat.add_assoc, ← stop]
        exact found

theorem exists_last_form {d : Document} {here : Nat} {earlier : List Form} {f : Form}
    (h : d.formsAt here = earlier ++ [f]) :
    ∃ (before form : Document) (gap : List Char), d = before.append (form.append (blanks gap)) ∧
      form.isForm = true ∧ form.formsAt (here + before.render.length) = [f] := by
  obtain ⟨before, form, after, rfl, isForm, -, found, forms⟩ := exists_form_of_formsAt h
  obtain ⟨gap, rfl⟩ := eq_blanks_of_formsAt forms
  exact ⟨before, form, gap, rfl, isForm, found⟩

end Document

namespace Text

theorem WellFormed.of_document {d : Document} (wf : d.isWellFormed = true) :
    WellFormed d.render :=
  ⟨d, wf, rfl⟩

theorem WellFormed.wellNested {t : Text} (h : t.WellFormed) : t.WellNested := by
  obtain ⟨d, wf, rfl⟩ := h
  exact (Document.balanced_render wf).wellNested

end Text

end LispEditor
