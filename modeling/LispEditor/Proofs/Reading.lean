import LispEditor.Proofs.Context

set_option autoImplicit false
set_option relaxedAutoImplicit false

/-!
# Reading the forms of a document

`Text.nextForm?` reads from the text alone what the document says. In front of each form of a level,
from the end of the form before it on, it gives this form; behind the last form of a level it gives
none. So the walk over the forms of a list visits its children, and ends with the last one.
-/

namespace LispEditor

/-- Whether the text ends here or goes on with a closer, as it does behind a level. -/
def Text.EndsLevel (t : Text) : Prop :=
  t = [] ∨ ∃ (k : Delimiter) (rest : Text), t = k.closer :: rest

theorem Context.endsLevel_right (context : Context) : context.right.EndsLevel := by
  cases context with
  | top => exact .inl rfl
  | within before kind after outer => exact .inr ⟨kind, _, rfl⟩

namespace Text

/-! ## One form -/

private theorem nextForm?_of_drop_eq_nil {t : Text} {offset : Nat} (h : t.drop offset = []) :
    t.nextForm? offset = none := by
  simp [nextForm?, solidFrom?, h]

private theorem nextForm?_of_drop_eq_blank {t : Text} {offset : Nat} {c : Char} {rest : Text}
    (h : t.drop offset = c :: rest) (blank : isBlank c = true) :
    t.nextForm? offset = t.nextForm? (offset + 1) := by
  have next : t.drop (offset + 1) = rest := by
    rw [← List.drop_drop, h]
    rfl
  have solid : t.solidFrom? offset = t.solidFrom? (offset + 1) := by
    rw [solidFrom?, solidFrom?, h, next, List.findIdx?_cons]
    simp only [blank, Bool.not_true, Bool.false_eq_true, if_false, Option.map_map]
    congr 1
    funext i
    show offset + (i + 1) = offset + 1 + i
    omega
  rw [nextForm?, nextForm?, solid]

theorem nextForm?_of_drop_eq_solid {t : Text} {offset : Nat} {c : Char} {rest : Text}
    (h : t.drop offset = c :: rest) (solid : isBlank c = false) :
    t.nextForm? offset = formAt? offset c rest := by
  have start : t.solidFrom? offset = some offset := by
    simp [solidFrom?, h, List.findIdx?_cons, solid]
  simp [nextForm?, start, h]

theorem stringEnd_of_isStringBody {last : Char} {body : List Char}
    (h : isStringBody last body = true) (here : Nat) (rest : List Char) :
    stringEnd last here (body ++ '"' :: rest) = some (here + body.length + 1) := by
  induction body generalizing last here with
  | nil =>
      have free : last ≠ '\\' := by simpa [isStringBody] using h
      simp [stringEnd, free]
  | cons c body ih =>
      obtain ⟨-, -, goesOn, isBody⟩ := isStringBody_cons.mp h
      have step : stringEnd last here (c :: (body ++ '"' :: rest)) =
          stringEnd c (here + 1) (body ++ '"' :: rest) := by
        rw [stringEnd, if_neg]
        simpa using goesOn
      rw [List.cons_append, step, ih isBody, List.length_cons]
      congr 1
      omega

theorem takeWhile_isToken {chars rest : List Char} (tokens : ∀ c ∈ chars, isToken c = true)
    (stops : ∀ c ∈ rest.head?, isToken c = false) :
    (chars ++ rest).takeWhile isToken = chars := by
  rw [List.takeWhile_append_of_pos tokens]
  cases rest with
  | nil => simp
  | cons c rest => simp [stops c rfl]

private theorem formAt?_opener (here : Nat) (k : Delimiter) {inside : Text} (h : Balanced inside)
    (rest : Text) :
    formAt? here k.opener (inside ++ k.closer :: rest) =
      some (.list k ⟨here, here + inside.length + 2⟩) := by
  have stop : here + 1 + inside.length + 1 = here + inside.length + 2 := by omega
  rw [formAt?, Delimiter.ofOpener?_opener]
  simp only [h.matchFrom_closer, Option.map_some, stop]

private theorem formAt?_quote (here : Nat) {body : List Char} (h : isStringBody '"' body = true)
    (rest : Text) :
    formAt? here '"' (body ++ '"' :: rest) = some (.string ⟨here, here + body.length + 2⟩) := by
  have noOpener : Delimiter.ofOpener? '"' = none := rfl
  have stop : here + 1 + body.length + 1 = here + body.length + 2 := by omega
  rw [formAt?, noOpener]
  simp only [if_true, stringEnd_of_isStringBody h, Option.map_some, stop]

private theorem formAt?_token (here : Nat) {c : Char} {chars rest : Text} (token : isToken c = true)
    (tokens : ∀ c ∈ chars, isToken c = true) (stops : ∀ c ∈ rest.head?, isToken c = false) :
    formAt? here c (chars ++ rest) = some (.atom ⟨here, here + (c :: chars).length⟩) := by
  obtain ⟨-, opens, closes, quote⟩ := isToken_iff.mp token
  have noOpener : Delimiter.ofOpener? c = none := by simpa [isOpener] using opens
  have stop : here + 1 + chars.length = here + (c :: chars).length := by
    rw [List.length_cons]
    omega
  rw [formAt?, noOpener]
  simp only [quote, if_false, closes, Bool.false_eq_true, takeWhile_isToken tokens stops, stop]

theorem formAt?_closer (here : Nat) (k : Delimiter) (rest : Text) :
    formAt? here k.closer rest = none := by
  have noOpener : Delimiter.ofOpener? k.closer = none := by cases k <;> rfl
  have quote : k.closer ≠ '"' := by cases k <;> decide
  rw [formAt?, noOpener]
  simp [quote]

end Text

namespace Document

theorem not_token_of_startsWithAtom {d : Document} (wf : d.isWellFormed = true)
    (apart : d.startsWithAtom = false) {rest : Text} (ends : rest.EndsLevel) :
    ∀ c ∈ (d.render ++ rest).head?, isToken c = false := by
  cases d with
  | nil =>
      rcases ends with rfl | ⟨k, rest, rfl⟩
      · simp [render]
      · simp [render]
  | blank c rest =>
      have blank := (wellFormed_blank.mp wf).1
      simpa [render] using isToken_of_isBlank blank
  | atom chars rest => cases apart
  | string body rest => simp [render]
  | list kind inside rest => simp [render]

theorem nextForm?_eq_head? {d : Document} (wf : d.isWellFormed = true) {t rest : Text} {here : Nat}
    (h : t.drop here = d.render ++ rest) (ends : rest.EndsLevel) :
    t.nextForm? here = (d.formsAt here).head? := by
  induction d generalizing here with
  | nil =>
      rcases ends with rfl | ⟨k, rest, rfl⟩
      · exact Text.nextForm?_of_drop_eq_nil h
      · rw [Text.nextForm?_of_drop_eq_solid h k.isBlank_closer, Text.formAt?_closer]
        rfl
  | blank c d ih =>
      obtain ⟨blank, wfRest⟩ := wellFormed_blank.mp wf
      rw [Text.nextForm?_of_drop_eq_blank h blank]
      refine ih wfRest ?_
      rw [← List.drop_drop, h]
      rfl
  | atom chars d =>
      obtain ⟨nonempty, tokens, apart, wfRest⟩ := wellFormed_atom.mp wf
      obtain ⟨c, chars, rfl⟩ := List.exists_cons_of_ne_nil nonempty
      obtain ⟨first, tokens⟩ := List.forall_mem_cons.mp tokens
      rw [render, List.append_assoc, List.cons_append] at h
      rw [Text.nextForm?_of_drop_eq_solid h (isToken_iff.mp first).1, Text.formAt?_token here first
        tokens (not_token_of_startsWithAtom wfRest apart ends)]
      rfl
  | string body d =>
      have isBody := (wellFormed_string.mp wf).1
      rw [render, List.cons_append, List.append_assoc, List.cons_append] at h
      rw [Text.nextForm?_of_drop_eq_solid h isBlank_quote, Text.formAt?_quote here isBody]
      rfl
  | list kind inside d =>
      have balanced := balanced_render (wellFormed_list.mp wf).1
      rw [render, List.cons_append, List.append_assoc, List.cons_append] at h
      rw [Text.nextForm?_of_drop_eq_solid h kind.isBlank_opener, Text.formAt?_opener here kind
        balanced]
      rfl

/-! ## The gaps between the forms -/

/-- The offset behind the last of the forms, or `here` if there is none. -/
def endOf (here : Nat) : List Form → Nat
  | [] => here
  | f :: later => endOf f.span.stop later

/-- The offset of the first of the forms, or `stop` if there is none. -/
def startOf (stop : Nat) : List Form → Nat
  | [] => stop
  | f :: _ => f.span.start

private theorem exists_gap (d : Document) (here : Nat) :
    ∃ (gap : List Char) (rest : Document), d = (blanks gap).append rest ∧
      rest.formsAt (here + gap.length) = d.formsAt here ∧
      startOf (here + d.render.length) (d.formsAt here) = here + gap.length := by
  induction d generalizing here with
  | nil => exact ⟨[], nil, rfl, rfl, rfl⟩
  | blank c d ih =>
      obtain ⟨gap, rest, rfl, forms, start⟩ := ih (here + 1)
      have length : here + (c :: gap).length = here + 1 + gap.length := by
        rw [List.length_cons]
        omega
      have size : here + (blank c ((blanks gap).append rest)).render.length =
          here + 1 + ((blanks gap).append rest).render.length := by
        rw [render, List.length_cons]
        omega
      refine ⟨c :: gap, rest, rfl, ?_, ?_⟩
      · rw [length]
        exact forms
      · rw [length, size]
        exact start
  | atom chars d => exact ⟨[], atom chars d, rfl, rfl, rfl⟩
  | string body d => exact ⟨[], string body d, rfl, rfl, rfl⟩
  | list kind inside d => exact ⟨[], list kind inside d, rfl, rfl, rfl⟩

private theorem exists_split_at_gap {d : Document} {here offset : Nat} {earlier later : List Form}
    (forms : d.formsAt here = earlier ++ later) (above : endOf here earlier ≤ offset)
    (below : offset ≤ startOf (here + d.render.length) later) :
    ∃ front back : Document, d = front.append back ∧ here + front.render.length = offset ∧
      back.formsAt offset = later := by
  induction earlier generalizing d here with
  | nil =>
      rw [List.nil_append] at forms
      obtain ⟨gap, rest, rfl, same, start⟩ := exists_gap d here
      rw [forms] at same start
      rw [start] at below
      have above : here ≤ offset := above
      refine ⟨blanks (gap.take (offset - here)),
        (blanks (gap.drop (offset - here))).append rest, ?_, ?_, ?_⟩
      · rw [← append_assoc, ← blanks_append, List.take_append_drop]
      · rw [render_blanks, List.length_take]
        omega
      · rw [formsAt_append, formsAt_blanks, render_blanks, List.length_drop, List.nil_append]
        rwa [show offset + (gap.length - (offset - here)) = here + gap.length by omega]
  | cons f earlier ih =>
      obtain ⟨gap, form, rest, rfl, isForm, first, forms⟩ := exists_first_form forms
      have stop := stop_of_formsAt isForm first
      have length : here + ((blanks gap).append (form.append rest)).render.length =
          f.span.stop + rest.render.length := by
        rw [render_append, render_append, render_blanks, List.length_append, List.length_append]
        omega
      rw [length] at below
      obtain ⟨front, back, rfl, behind, found⟩ := ih forms above below
      refine ⟨(blanks gap).append (form.append front), back, ?_, ?_, found⟩
      · simp only [append_assoc]
      · rw [render_append, render_append, render_blanks, List.length_append, List.length_append]
        omega

/-! ## The walk over a list -/

private theorem formsWithin_eq_formsAt {d : Document} (wf : d.isWellFormed = true) {t rest : Text}
    {here : Nat} (h : t.drop here = d.render ++ rest) (ends : rest.EndsLevel) :
    t.formsWithin (here + d.render.length + 1) here = d.formsAt here := by
  -- On the forms: each call of the walk takes the first one off.
  generalize forms : d.formsAt here = children
  induction children generalizing d here with
  | nil =>
      have next : t.nextForm? here = none := by rw [nextForm?_eq_head? wf h ends, forms]; rfl
      rw [Text.formsWithin]
      split_ifs
      · split
        · rfl
        · simp_all
      · rfl
  | cons f later ih =>
      have next : t.nextForm? here = some f := by rw [nextForm?_eq_head? wf h ends, forms]; rfl
      have progress := Text.lt_stop_of_nextForm? next
      obtain ⟨gap, form, d, rfl, isForm, first, forms⟩ := exists_first_form forms
      have stop := stop_of_formsAt isForm first
      have wfRest := (wellFormed_of_append (wellFormed_of_append wf).2).2
      have length : here + ((blanks gap).append (form.append d)).render.length =
          f.span.stop + d.render.length := by
        rw [render_append, render_append, render_blanks, List.length_append, List.length_append]
        omega
      have behind : t.drop f.span.stop = d.render ++ rest := by
        have whole : t.drop here = (gap ++ form.render) ++ (d.render ++ rest) := by
          rw [h, render_append, render_append, render_blanks]
          simp only [List.append_assoc]
        have size : f.span.stop = here + (gap ++ form.render).length := by
          rw [List.length_append]
          omega
        rw [size, ← List.drop_drop, whole, List.drop_left]
      rw [Text.formsWithin, length]
      split_ifs with inside
      · split
        · simp_all
        · rename_i g found
          obtain rfl : f = g := by simpa [next] using found
          rw [if_neg (by omega), ih wfRest behind forms]
      · omega

end Document

namespace Context

private theorem drop_render_plug (context : Context) (front back : Document) :
    (context.plug (front.append back)).render.drop (context.start + front.render.length) =
      back.render ++ context.right := by
  rw [render_plug_append, ← length_left_append, List.drop_left]

/-- From the end of a form on, the next form is the one after it in its level. -/
theorem nextForm?_at_gap {context : Context} {inner : Document}
    (wf : (context.plug inner).isWellFormed = true) {earlier later : List Form}
    (forms : inner.formsAt context.start = earlier ++ later) {offset : Nat}
    (above : Document.endOf context.start earlier ≤ offset)
    (below : offset ≤ Document.startOf (context.start + inner.render.length) later) :
    (context.plug inner).render.nextForm? offset = later.head? := by
  obtain ⟨front, back, rfl, rfl, found⟩ := Document.exists_split_at_gap forms above below
  have wfBack := (Document.wellFormed_of_append (wellFormed_plug.mp wf).2).2
  rw [Document.nextForm?_eq_head? wfBack (drop_render_plug context front back)
    context.endsLevel_right, found]

theorem children_listSpan {context : Context} {inner : Document}
    (wf : (context.plug inner).isWellFormed = true) (inList : context ≠ top) :
    (context.plug inner).render.children (context.listSpan inner) =
      inner.formsAt context.start := by
  have positive : 0 < context.start := by
    cases context with
    | top => exact absurd rfl inList
    | within before kind after outer =>
        rw [start_within]
        exact Nat.succ_pos _
  have first : context.start - 1 + 1 = context.start := Nat.sub_add_cancel positive
  have wfInner := (wellFormed_plug.mp wf).2
  have walk := Document.formsWithin_eq_formsAt wfInner (drop_render_plug context .nil inner)
    context.endsLevel_right
  simpa [Text.children, listSpan, first, Document.append, Document.render] using walk

end Context

namespace Document

theorem HasForm.nextForm? {d : Document} (wf : d.isWellFormed = true) {f : Form}
    (h : d.HasForm f) : d.render.nextForm? f.span.start = some f := by
  obtain ⟨context, front, form, back, rfl, single, found⟩ := h.exists_split
  obtain ⟨g, forms, span⟩ := formsAt_of_isForm single (context.start + front.render.length)
  obtain rfl : g = f := by simpa [forms] using found
  have wfForm := (wellFormed_of_append (Context.wellFormed_plug.mp wf).2).2
  rw [span, nextForm?_eq_head? wfForm (context.drop_render_plug front _) context.endsLevel_right,
    formsAt_append, found]
  rfl

/-- In every level of a well-formed document, the next form from the end of one form up to the start
of the following one is the latter, there is none behind the last form, and the last child of the
list around the level is the last form of the level. -/
theorem nextForm?_reads_levels (d : Document) (wf : d.isWellFormed = true) (context : Context)
    (inner : Document) (level : context.plug inner = d) :
    (∀ (earlier : List Form) (child : Form) (later : List Form),
      inner.formsAt context.start = earlier ++ child :: later →
      ∀ offset, endOf context.start earlier ≤ offset → offset ≤ child.span.start →
        d.render.nextForm? offset = some child) ∧
    (∀ offset, endOf context.start (inner.formsAt context.start) ≤ offset →
      offset ≤ context.start + inner.render.length → d.render.nextForm? offset = none) ∧
    (context ≠ .top →
      d.render.lastChild? (context.listSpan inner) = (inner.formsAt context.start).getLast?) := by
  subst level
  refine ⟨?_, ?_, ?_⟩
  · intro earlier child later forms offset above below
    exact Context.nextForm?_at_gap wf forms above below
  · intro offset above below
    exact Context.nextForm?_at_gap wf (List.append_nil _).symm above below
  · intro inList
    rw [Text.lastChild?, Context.children_listSpan wf inList]

theorem nextForm?_behind_escaped_quote :
    (list .paren (string ['\\', '"'] (atom ['b'] nil)) nil).isWellFormed = true ∧
    (Context.within nil .paren nil .top).plug (string ['\\', '"'] (atom ['b'] nil)) =
      list .paren (string ['\\', '"'] (atom ['b'] nil)) nil ∧
    (list .paren (string ['\\', '"'] (atom ['b'] nil)) nil).render.nextForm? 5 =
      some (.atom ⟨5, 6⟩) ∧
    (list .paren (string ['\\', '"'] (atom ['b'] nil)) nil).render.lastChild? ⟨0, 7⟩ =
      some (.atom ⟨5, 6⟩) := by
  have wf : (list .paren (string ['\\', '"'] (atom ['b'] nil)) nil).isWellFormed = true := by decide
  obtain ⟨next, -, last⟩ :=
    nextForm?_reads_levels _ wf (.within nil .paren nil .top) (string ['\\', '"'] (atom ['b'] nil))
      rfl
  refine ⟨wf, rfl, ?_, last (by decide)⟩
  exact next [.string ⟨1, 5⟩] (.atom ⟨5, 6⟩) [] rfl 5 (by decide) (by decide)

end Document

end LispEditor
