import LispEditor.Proofs.Reading
import Mathlib.Data.List.Basic

set_option autoImplicit false
set_option relaxedAutoImplicit false

/-!
# The form before the caret in a document

`Text.formBefore` goes backward over the text, with one scan for each of the three sorts of forms.
In a well-formed document these find the forms that the document consists of: the atom around the
caret, or else the form that ends nearest in front of it. Two things are left out. Inside a string
the caret sees the text of the string as if it were code. And a quote right behind a backslash looks
escaped from behind, though a string can begin there.
-/

namespace LispEditor

namespace Text

/-! ## The scans -/

private theorem stringStart_append {last : Char} {body : List Char}
    (h : isStringBody last body = true) (before : List Char) :
    stringStart (body.reverse ++ last :: before) = stringStart (last :: before) := by
  induction body generalizing last before with
  | nil => rfl
  | cons c body ih =>
      obtain ⟨-, -, goesOn, isBody⟩ := isStringBody_cons.mp h
      rw [List.reverse_cons, List.append_assoc, List.singleton_append, ih isBody, stringStart,
        if_neg]
      simpa using goesOn

private theorem formStart?_quote {front : Text} {body : List Char}
    (h : isStringBody '"' body = true) (free : ∀ c ∈ front.getLast?, c ≠ '\\') :
    formStart? '"' (front ++ '"' :: body).reverse = some front.length := by
  have reversed : (front ++ '"' :: body).reverse = body.reverse ++ '"' :: front.reverse := by simp
  have first : front.getLast? ≠ some '\\' := by
    intro escaped
    exact free _ escaped rfl
  rw [formStart?, reversed, stringStart_append h, stringStart]
  simp [first]

theorem formStart?_eq_unpairedOpener (l : Delimiter) (before : List Char) :
    formStart? l.closer before = unpairedOpener 0 before := by
  rw [formStart?, l.isCloser_closer, if_pos rfl, pairedOpener, l.isCloser_closer, if_pos rfl,
    pairedOpener_succ]

theorem formStart?_closer {front inside : Text} (k : Delimiter) (h : Balanced inside) :
    formStart? k.closer (front ++ k.opener :: inside).reverse = some front.length := by
  have reversed : (front ++ k.opener :: inside).reverse =
      inside.reverse ++ k.opener :: front.reverse := by simp
  rw [formStart?_eq_unpairedOpener, reversed, h.unpairedOpener_append, unpairedOpener_opener_zero,
    List.length_reverse]

private theorem formStart?_token {front chars : Text} {c : Char} (token : isToken c = true)
    (tokens : ∀ d ∈ chars, isToken d = true) (stops : ∀ d ∈ front.getLast?, isToken d = false) :
    formStart? c (front ++ chars).reverse = some front.length := by
  obtain ⟨-, -, closes, quote⟩ := isToken_iff.mp token
  have reversed : c :: (front ++ chars).reverse = (c :: chars.reverse) ++ front.reverse := by simp
  have run : ∀ d ∈ c :: chars.reverse, isToken d = true := by
    intro d hd
    rcases List.mem_cons.mp hd with rfl | hd
    · exact token
    · exact tokens d (List.mem_reverse.mp hd)
  have rest : front.reverse.dropWhile isToken = front.reverse := by
    cases back : front.reverse with
    | nil => rfl
    | cons d before =>
        have last : front.getLast? = some d := by
          rw [← List.head?_reverse, back]
          rfl
        simp [stops d last]
  rw [formStart?, closes, if_neg (by simp), if_neg quote, reversed,
    List.dropWhile_append_of_pos run, rest, List.length_reverse]

private theorem formStart?_opener (k : Delimiter) (before : List Char) :
    formStart? k.opener before = some (before.length + 1) := by
  have quote : k.opener ≠ '"' := by cases k <;> decide
  simp [formStart?, quote]

/-! ## The caret -/

private theorem tokenEnd_append {front back : Text}
    (stops : (∀ c ∈ front.getLast?, isToken c = false) ∨ ∀ c ∈ back.head?, isToken c = false) :
    tokenEnd (front ++ back) front.length = front.length := by
  have outside : (0 < front.length && ((front ++ back)[front.length]?).any isToken &&
      ((front ++ back)[front.length - 1]?).any isToken) = false := by
    rw [Bool.eq_false_iff]
    intro inside
    simp only [Bool.and_eq_true, decide_eq_true_eq] at inside
    obtain ⟨⟨positive, next⟩, last⟩ := inside
    rw [getElem?_length_append] at next
    rw [getElem?_pred_length_append back positive] at last
    obtain ⟨c, hc, token⟩ := (Option.any_eq_true _ _).mp next
    obtain ⟨d, hd, tokenLast⟩ := (Option.any_eq_true _ _).mp last
    rcases stops with none | none
    · rw [none d hd] at tokenLast
      cases tokenLast
    · rw [none c hc] at token
      cases token
  simp only [tokenEnd, outside, Bool.false_eq_true, if_false]

private theorem tokenEnd_inside {front chars more back : Text}
    (tokens : ∀ c ∈ chars, isToken c = true) (tokensMore : ∀ c ∈ more, isToken c = true)
    (nonempty : chars ≠ []) (nonemptyMore : more ≠ [])
    (stops : ∀ c ∈ back.head?, isToken c = false) :
    tokenEnd (front ++ (chars ++ (more ++ back))) (front.length + chars.length) =
      front.length + chars.length + more.length := by
  have positive : 0 < (front ++ chars).length := by
    have := List.length_pos_iff.mpr nonempty
    rw [List.length_append]
    omega
  have next : (more ++ back).head?.any isToken = true := by
    obtain ⟨c, more, rfl⟩ := List.exists_cons_of_ne_nil nonemptyMore
    simpa using tokensMore c List.mem_cons_self
  have last : (front ++ chars).getLast?.any isToken = true := by
    rw [List.getLast?_append_of_ne_nil _ nonempty, List.getLast?_eq_some_getLast nonempty]
    exact tokens _ (List.getLast_mem nonempty)
  rw [← List.append_assoc, ← List.length_append]
  simp only [tokenEnd, getElem?_length_append, getElem?_pred_length_append _ positive, positive,
    next, last, decide_true, Bool.and_self, if_true, List.drop_left,
    takeWhile_isToken tokensMore stops]

private theorem formBefore_congr {t : Text} {offset other : Nat}
    (h : t.tokenEnd (t.clamp offset) = t.tokenEnd (t.clamp other)) :
    t.formBefore offset = t.formBefore other := by
  simp only [formBefore, h]

private theorem formBefore_inside_token {front chars more back : Text}
    (tokens : ∀ c ∈ chars ++ more, isToken c = true) (nonempty : chars ≠ [])
    (nonemptyMore : more ≠ []) (stops : ∀ c ∈ back.head?, isToken c = false) :
    formBefore (front ++ (chars ++ (more ++ back))) (front.length + chars.length) =
      formBefore (front ++ (chars ++ (more ++ back))) (front.length + (chars ++ more).length) := by
  have moves : tokenEnd (front ++ (chars ++ (more ++ back))) (front.length + chars.length) =
      front.length + chars.length + more.length :=
    tokenEnd_inside (fun c hc => tokens c (List.mem_append_left _ hc))
      (fun c hc => tokens c (List.mem_append_right _ hc)) nonempty nonemptyMore stops
  have stays : tokenEnd ((front ++ (chars ++ more)) ++ back) (front ++ (chars ++ more)).length =
      (front ++ (chars ++ more)).length :=
    tokenEnd_append (.inr stops)
  have whole : (front ++ (chars ++ more)) ++ back = front ++ (chars ++ (more ++ back)) := by simp
  rw [whole, List.length_append] at stays
  apply formBefore_congr
  rw [clamp_of_le, clamp_of_le, moves, stays, List.length_append, Nat.add_assoc]
  · simp only [List.length_append]
    omega
  · simp only [List.length_append]
    omega

theorem formBefore_append {front gap : Text} {c : Char} (back : Text) (solid : isBlank c = false)
    (blank : ∀ d ∈ gap, isBlank d = true)
    (stops : isToken c = false ∨ gap ≠ [] ∨ ∀ d ∈ back.head?, isToken d = false) {start : Nat}
    (found : formStart? c front.reverse = some start) :
    formBefore ((front ++ [c]) ++ (gap ++ back)) ((front ++ [c]).length + gap.length) =
      if start < front.length + 1 then .ok ⟨start, front.length + 1⟩ else .error .noForm := by
  have inside : (front ++ [c]).length + gap.length ≤ ((front ++ [c]) ++ (gap ++ back)).length := by
    simp only [List.length_append]
    omega
  have stays : tokenEnd ((front ++ [c]) ++ (gap ++ back)) ((front ++ [c]).length + gap.length) =
      (front ++ [c]).length + gap.length := by
    rw [← List.append_assoc, ← List.length_append]
    apply tokenEnd_append
    by_cases empty : gap = []
    · subst empty
      rcases stops with none | none | none
      · left
        simpa using none
      · exact absurd rfl none
      · exact .inr none
    · left
      intro d hd
      rw [List.getLast?_append_of_ne_nil _ empty] at hd
      exact isToken_of_isBlank (blank d (List.mem_of_getLast? hd))
  have seen := solidBack_append (EndsSolid.concat front solid) blank back
  rw [List.reverse_append, List.reverse_singleton, List.singleton_append] at seen
  simp only [formBefore, clamp_of_le inside, stays, seen, found, List.length_reverse]

/-- Whether only blanks, or an opener and blanks behind it, stand right in front of the offset. -/
def NoFormBefore (t : Text) (offset : Nat) : Prop :=
  (∀ c ∈ t.take offset, isBlank c = true) ∨
    ∃ (front : Text) (k : Delimiter) (gap : Text), t.take offset = front ++ k.opener :: gap ∧
      ∀ c ∈ gap, isBlank c = true

private theorem NoFormBefore.formBefore {t : Text} {offset : Nat} (h : t.NoFormBefore offset)
    (inside : offset ≤ t.length) : ∃ refusal, t.formBefore offset = .error refusal := by
  have length : (t.take offset).length = offset := by
    rw [List.length_take]
    omega
  have whole : t = t.take offset ++ t.drop offset := (List.take_append_drop offset t).symm
  rcases h with blank | ⟨front, k, gap, taken, blank⟩
  · have stays : tokenEnd (t.take offset ++ t.drop offset) (t.take offset).length =
        (t.take offset).length := by
      apply tokenEnd_append
      left
      intro c hc
      exact isToken_of_isBlank (blank c (List.mem_of_getLast? hc))
    have seen := solidBack_append EndsSolid.nil blank (t.drop offset)
    rw [← whole, length] at stays
    rw [List.nil_append, List.length_nil, Nat.zero_add, ← whole, length] at seen
    exact ⟨.nothingBefore offset, by
      simp only [Text.formBefore, clamp_of_le inside, stays, seen, List.reverse_nil]⟩
  · have found := formBefore_append (t.drop offset) k.isBlank_opener blank
      (.inl k.isToken_opener) (formStart?_opener k front.reverse)
    rw [List.length_reverse, if_neg (Nat.lt_irrefl _)] at found
    have same : (front ++ [k.opener]) ++ (gap ++ t.drop offset) = t := by
      rw [taken] at whole
      simpa using whole.symm
    have size : (front ++ [k.opener]).length + gap.length = offset := by
      rw [← length, taken]
      simp only [List.length_append, List.length_cons, List.length_nil]
      omega
    rw [same, size] at found
    exact ⟨.noForm, found⟩

end Text

namespace Document

/-- Whether no string of the document begins right behind a backslash. -/
def OpensStringsFree (d : Document) : Prop :=
  ∀ span, d.HasForm (.string span) → 0 < span.start → d.render[span.start - 1]? ≠ some '\\'

theorem not_token_in_front {front : Document} {chars : List Char} {back : Document}
    (wf : (front.append (.atom chars back)).isWellFormed = true) :
    ∀ c ∈ front.render.getLast?, isToken c = false := by
  induction front with
  | nil => simp [render]
  | blank c rest ih =>
      obtain ⟨blank, wfRest⟩ := wellFormed_blank.mp wf
      exact Text.forall_getLast?_append (t := [c]) (by simpa using isToken_of_isBlank blank)
        (ih wfRest)
  | atom more rest ih =>
      obtain ⟨-, -, apart, wfRest⟩ := wellFormed_atom.mp wf
      have nonempty : rest.render ≠ [] := by
        intro empty
        rw [eq_nil_of_render_eq_nil (wellFormed_of_append wfRest).1 empty] at apart
        cases apart
      rw [render, List.getLast?_append_of_ne_nil _ nonempty]
      exact ih wfRest
  | string body rest ih =>
      rw [render_string]
      exact Text.forall_getLast?_append (Text.forall_getLast?_concat _ isToken_quote)
        (ih (wellFormed_string.mp wf).2)
  | list kind inside rest _ ih =>
      rw [render_list]
      exact Text.forall_getLast?_append (Text.forall_getLast?_concat _ kind.isToken_closer)
        (ih (wellFormed_list.mp wf).2)

end Document

namespace Context

theorem not_token_left (context : Context) : ∀ c ∈ context.left.getLast?, isToken c = false := by
  cases context with
  | top => simp [left]
  | within before kind after outer => simp [left, ← List.append_assoc]

variable {context : Context} {front back : Document} {f : Form} {gap rest : Text}

private theorem not_escaped_in_front {body : List Char}
    (free : (context.plug (front.append (.string body back))).OpensStringsFree) :
    ∀ c ∈ (context.left ++ front.render).getLast?, c ≠ '\\' := by
  rintro c last rfl
  have positive : 0 < (context.left ++ front.render).length := by
    rw [List.length_pos_iff]
    intro empty
    rw [empty] at last
    cases last
  have string := free _ (Document.hasForm_plug (.string body .nil) rfl)
  rw [← length_left_append, render_plug_append] at string
  apply string positive
  rw [Text.getElem?_pred_length_append _ positive]
  exact last

private theorem exists_formStart? {form : Document}
    (wf : (context.plug (front.append (form.append back))).isWellFormed = true)
    (free : (context.plug (front.append (form.append back))).OpensStringsFree)
    (isForm : form.isForm = true) :
    ∃ (init : Text) (c : Char), form.render = init ++ [c] ∧ isBlank c = false ∧
      (isToken c = false ∨ ∀ d ∈ (back.render ++ context.right).head?, isToken d = false) ∧
      Text.formStart? c ((context.left ++ front.render) ++ init).reverse =
        some (context.left ++ front.render).length := by
  have wfLevel := (wellFormed_plug.mp wf).2
  have wfForm := (Document.wellFormed_of_append wfLevel).2
  unfold Document.isForm at isForm
  split at isForm
  · rename_i chars
    obtain ⟨nonempty, tokens, apart, wfBack⟩ := Document.wellFormed_atom.mp wfForm
    obtain ⟨init, c, rfl⟩ : ∃ init c, chars = init ++ [c] :=
      ⟨_, _, (List.dropLast_append_getLast nonempty).symm⟩
    have token : isToken c = true := tokens c (by simp)
    refine ⟨init, c, by simp [Document.render], (isToken_iff.mp token).1, ?_, ?_⟩
    · right
      exact Document.not_token_of_startsWithAtom wfBack apart context.endsLevel_right
    · refine Text.formStart?_token token (fun d hd => tokens d (List.mem_append_left _ hd)) ?_
      exact Text.forall_getLast?_append context.not_token_left (Document.not_token_in_front wfLevel)
  · rename_i body
    have isBody := (Document.wellFormed_string.mp wfForm).1
    refine ⟨'"' :: body, '"', by simp [Document.render], rfl, .inl rfl, ?_⟩
    exact Text.formStart?_quote isBody (not_escaped_in_front free)
  · rename_i kind inside
    have balanced := Document.balanced_render (Document.wellFormed_list.mp wfForm).1
    exact ⟨kind.opener :: inside.render, kind.closer, by simp [Document.render],
      kind.isBlank_closer, .inl kind.isToken_closer, Text.formStart?_closer kind balanced⟩
  · cases isForm

private theorem formBefore_behind_form (form : Document)
    (wf : (context.plug (front.append (form.append back))).isWellFormed = true)
    (free : (context.plug (front.append (form.append back))).OpensStringsFree)
    (isForm : form.isForm = true)
    (found : form.formsAt (context.start + front.render.length) = [f])
    (behind : back.render ++ context.right = gap ++ rest) (blank : ∀ c ∈ gap, isBlank c = true) :
    (context.plug (front.append (form.append back))).render.formBefore
      (f.span.stop + gap.length) = .ok f.span := by
  obtain ⟨init, c, text, solid, stops, start⟩ := exists_formStart? wf free isForm
  obtain ⟨g, single, span⟩ :=
    Document.formsAt_of_isForm isForm (context.start + front.render.length)
  obtain rfl : g = f := by simpa [single] using found
  have whole : (context.plug (front.append (form.append back))).render =
      (((context.left ++ front.render) ++ init) ++ [c]) ++ (gap ++ rest) := by
    rw [render_plug_append, Document.render_append, ← behind, text]
    simp only [List.append_assoc]
  have apart : isToken c = false ∨ gap ≠ [] ∨ ∀ d ∈ rest.head?, isToken d = false := by
    rcases stops with none | none
    · exact .inl none
    · by_cases empty : gap = []
      · rw [behind, empty] at none
        exact .inr (.inr none)
      · exact .inr (.inl empty)
  have result := Text.formBefore_append rest solid blank apart start
  have stop : (context.left ++ front.render).length + form.render.length =
      (((context.left ++ front.render) ++ init) ++ [c]).length := by
    rw [text, ← List.length_append, List.append_assoc _ init]
  rw [← length_left_append, stop] at span
  have starts : (context.left ++ front.render).length <
      ((context.left ++ front.render) ++ init).length + 1 := by
    simp only [List.length_append]
    omega
  rw [whole, span, result, if_pos starts]
  simp [Nat.add_assoc]

private theorem formBefore_inside_atom {chars more : List Char}
    (wf : (context.plug (front.append (.atom (chars ++ more) back))).isWellFormed = true)
    (free : (context.plug (front.append (.atom (chars ++ more) back))).OpensStringsFree)
    (nonempty : chars ≠ []) (nonemptyMore : more ≠ []) :
    (context.plug (front.append (.atom (chars ++ more) back))).render.formBefore
        (context.start + front.render.length + chars.length) =
      .ok ⟨context.start + front.render.length,
        context.start + front.render.length + (chars ++ more).length⟩ := by
  have wfAtom := (Document.wellFormed_of_append (wellFormed_plug.mp wf).2).2
  obtain ⟨-, tokens, apart, wfBack⟩ := Document.wellFormed_atom.mp wfAtom
  have stops := Document.not_token_of_startsWithAtom wfBack apart context.endsLevel_right
  have atEnd := formBefore_behind_form (.atom (chars ++ more) .nil) wf free rfl rfl
    (List.nil_append _).symm (by simp)
  simp only [Form.span, Document.append, List.length_nil, Nat.add_zero] at atEnd
  rw [← atEnd]
  have whole : (context.plug (front.append (.atom (chars ++ more) back))).render =
      (context.left ++ front.render) ++ (chars ++ (more ++ (back.render ++ context.right))) := by
    rw [render_plug_append, Document.render]
    simp only [List.append_assoc]
  rw [whole, ← length_left_append]
  exact Text.formBefore_inside_token tokens nonempty nonemptyMore stops

private theorem noFormBefore_behind_blanks (context : Context) (blank : ∀ c ∈ gap, isBlank c = true)
    (back : Document) :
    (context.plug ((Document.blanks gap).append back)).render.NoFormBefore
      (context.start + (Document.blanks gap).render.length) := by
  have taken : (context.plug ((Document.blanks gap).append back)).render.take
      (context.start + (Document.blanks gap).render.length) = context.left ++ gap := by
    rw [render_plug_append, ← length_left_append, List.take_left, Document.render_blanks]
  rw [Text.NoFormBefore, taken]
  cases context with
  | top => exact .inl blank
  | within before kind after outer =>
      exact .inr ⟨outer.left ++ before.render, kind, gap, by simp [left], blank⟩

end Context

/-- Whether `offset` is inside the span and at neither of its ends. -/
def Span.Around (s : Span) (offset : Nat) : Prop :=
  s.start < offset ∧ offset < s.stop

namespace Document

private theorem HasForm.formBefore_atom {d : Document} (wf : d.isWellFormed = true)
    (free : d.OpensStringsFree) {span : Span} (h : d.HasForm (.atom span)) {offset : Nat}
    (around : span.Around offset) : d.render.formBefore offset = .ok span := by
  obtain ⟨context, front, form, back, rfl, single, found⟩ := h.exists_split
  obtain ⟨chars, rfl⟩ : ∃ chars, form = .atom chars nil := by
    unfold isForm at single
    split at single
    · exact ⟨_, rfl⟩
    · cases found
    · cases found
    · cases single
  obtain rfl : (⟨context.start + front.render.length,
      context.start + front.render.length + chars.length⟩ : Span) = span := by
    simpa [formsAt] using found
  obtain ⟨first, last⟩ := around
  simp only at first last
  -- The atom splits at the caret.
  obtain ⟨init, more, rfl, nonempty, nonemptyMore, here⟩ : ∃ init more : List Char,
      chars = init ++ more ∧ init ≠ [] ∧ more ≠ [] ∧
        context.start + front.render.length + init.length = offset := by
    refine ⟨chars.take (offset - (context.start + front.render.length)),
      chars.drop (offset - (context.start + front.render.length)),
      (List.take_append_drop _ chars).symm, ?_, ?_, ?_⟩
    · rw [← List.length_pos_iff, List.length_take]
      omega
    · rw [← List.length_pos_iff, List.length_drop]
      omega
    · rw [List.length_take]
      omega
  rw [← here]
  exact Context.formBefore_inside_atom wf free nonempty nonemptyMore

private theorem HasForm.formBefore_of_blank {d : Document} (wf : d.isWellFormed = true)
    (free : d.OpensStringsFree) {f : Form} (h : d.HasForm f) {offset : Nat}
    (inside : offset ≤ d.render.length) (ends : f.span.stop ≤ offset)
    (blank : ∀ c ∈ d.render.slice ⟨f.span.stop, offset⟩, isBlank c = true) :
    d.render.formBefore offset = .ok f.span := by
  obtain ⟨context, front, form, back, rfl, single, found⟩ := h.exists_split
  have stop := stop_of_formsAt single found
  have whole : (context.plug (front.append (form.append back))).render =
      (context.left ++ (front.render ++ form.render)) ++ (back.render ++ context.right) := by
    rw [Context.render_plug]
    simp [render_append]
  have length : (context.left ++ (front.render ++ form.render)).length = f.span.stop := by
    rw [stop, Context.start]
    simp only [List.length_append]
    omega
  have gap : (context.plug (front.append (form.append back))).render.slice ⟨f.span.stop, offset⟩ =
      (back.render ++ context.right).take (offset - f.span.stop) := by
    rw [Text.slice, List.drop_take, whole, List.drop_left' length]
  have size : ((back.render ++ context.right).take (offset - f.span.stop)).length =
      offset - f.span.stop := by
    rw [whole, List.length_append, length] at inside
    rw [List.length_take]
    omega
  rw [gap] at blank
  have result := Context.formBefore_behind_form form wf free single found
    (List.take_append_drop (offset - f.span.stop) _).symm blank
  rwa [size, Nat.add_sub_cancel' ends] at result

private theorem noFormBefore_or_form_in_front (context : Context) {front : Document}
    (wf : front.isWellFormed = true) (back : Document) :
    (context.plug (front.append back)).render.NoFormBefore (context.start + front.render.length) ∨
      ∃ f, (context.plug (front.append back)).HasForm f ∧
        f.span.stop ≤ context.start + front.render.length ∧
        ∀ c ∈ (context.plug (front.append back)).render.slice
          ⟨f.span.stop, context.start + front.render.length⟩, isBlank c = true := by
  rcases List.eq_nil_or_concat (front.formsAt context.start) with none | ⟨earlier, f, forms⟩
  · left
    obtain ⟨gap, rfl⟩ := eq_blanks_of_formsAt none
    exact context.noFormBefore_behind_blanks (wellFormed_blanks.mp wf) back
  · right
    rw [List.concat_eq_append] at forms
    obtain ⟨before, form, gap, rfl, single, found⟩ := exists_last_form forms
    have stop := stop_of_formsAt single found
    have blank := wellFormed_blanks.mp (wellFormed_of_append (wellFormed_of_append wf).2).2
    have whole : (context.plug ((before.append (form.append (blanks gap))).append back)).render =
        (context.left ++ (before.render ++ form.render)) ++
          (gap ++ (back.render ++ context.right)) := by
      rw [Context.render_plug]
      simp [render_append, render_blanks]
    refine ⟨f, ?_, ?_, ?_⟩
    · rw [append_assoc, append_assoc]
      exact hasForm_plug form found
    · rw [stop]
      simp only [render_append, List.length_append]
      omega
    · rw [whole, Text.slice_append]
      · exact blank
      · rw [stop, Context.start]
        simp only [List.length_append]
        omega
      · rw [Context.start]
        simp only [render_append, render_blanks, List.length_append]
        omega

/-- Where an offset can be: with no form before it, inside an atom or a string, or behind a form
with only blanks between. -/
theorem cases_before {d : Document} (wf : d.isWellFormed = true) {offset : Nat}
    (inside : offset ≤ d.render.length) :
    d.render.NoFormBefore offset ∨ (∃ span, d.HasForm (.atom span) ∧ span.Around offset) ∨
      (∃ span, d.HasForm (.string span) ∧ span.Around offset) ∨
      ∃ f, d.HasForm f ∧ f.span.stop ≤ offset ∧
        ∀ c ∈ d.render.slice ⟨f.span.stop, offset⟩, isBlank c = true := by
  obtain ⟨context, level, i, rfl, spot, rfl⟩ := hasSpotAt inside
  cases spot with
  | between front back same =>
      subst same
      have wfFront := (wellFormed_of_append (Context.wellFormed_plug.mp wf).2).1
      rcases noFormBefore_or_form_in_front context wfFront back with none | form
      · exact .inl none
      · exact .inr (.inr (.inr form))
  | inAtom front chars more back same nonempty nonemptyMore =>
      subst same
      have := List.length_pos_iff.mpr nonempty
      have := List.length_pos_iff.mpr nonemptyMore
      right; left
      refine ⟨_, hasForm_plug (.atom (chars ++ more) nil) rfl, ?_, ?_⟩
      · simp only
        omega
      · simp only [List.length_append]
        omega
  | inString front body back within same first last =>
      subst same
      right; right; left
      refine ⟨_, hasForm_plug (.string body nil) rfl, ?_, ?_⟩
      · simp only
        omega
      · simp only
        omega

/-- Whether the span is the one of the form that the caret has before it: of the atom around it, or
else of the form that ends with the last character in front of it that is no blank. -/
def IsFormBefore (d : Document) (offset : Nat) (span : Span) : Prop :=
  (d.HasForm (.atom span) ∧ span.Around offset) ∨
    (¬ ∃ atom, d.HasForm (.atom atom) ∧ atom.Around offset) ∧
      ∃ f, d.HasForm f ∧ f.span = span ∧ span.stop ≤ offset ∧
        ∀ c ∈ d.render.slice ⟨span.stop, offset⟩, isBlank c = true

private theorem IsFormBefore.exists_form {d : Document} {offset : Nat} {span : Span}
    (h : d.IsFormBefore offset span) : ∃ f, d.HasForm f ∧ f.span = span := by
  rcases h with ⟨atom, -⟩ | ⟨-, f, form, same, -⟩
  · exact ⟨_, atom, rfl⟩
  · exact ⟨f, form, same⟩

private theorem IsFormBefore.formBefore {d : Document} (wf : d.isWellFormed = true)
    (free : d.OpensStringsFree) {offset : Nat} (inside : offset ≤ d.render.length) {span : Span}
    (h : d.IsFormBefore offset span) :
    d.render.formBefore offset = .ok span := by
  rcases h with ⟨atom, around⟩ | ⟨-, f, form, rfl, ends, blank⟩
  · exact atom.formBefore_atom wf free around
  · exact form.formBefore_of_blank wf free inside ends blank

private theorem exists_isFormBefore {d : Document} (wf : d.isWellFormed = true) {offset : Nat}
    (inside : offset ≤ d.render.length)
    (outside : ∀ span, d.HasForm (.string span) → ¬ span.Around offset) :
    d.render.NoFormBefore offset ∨ ∃ span, d.IsFormBefore offset span := by
  by_cases inAtom : ∃ atom, d.HasForm (.atom atom) ∧ atom.Around offset
  · obtain ⟨span, atom⟩ := inAtom
    exact .inr ⟨span, .inl atom⟩
  · rcases cases_before wf inside with none | atom | ⟨span, string, around⟩ | ⟨f, form, ends, blank⟩
    · exact .inl none
    · exact absurd atom inAtom
    · exact absurd around (outside span string)
    · exact .inr ⟨f.span, .inr ⟨inAtom, f, form, rfl, ends, blank⟩⟩

/-- In a well-formed document, with the caret inside no string, the backward scans find the form
before the caret, refuse where there is none, and agree with the forward reading. -/
theorem formBefore_eq_form_at_caret {d : Document} (wf : d.isWellFormed = true)
    (free : d.OpensStringsFree) (offset : Nat)
    (outside : ∀ span, d.HasForm (.string span) → ¬ span.Around (d.render.clamp offset)) :
    (∀ span, d.render.formBefore offset = .ok span ↔
      d.IsFormBefore (d.render.clamp offset) span) ∧
    ((∃ refusal, d.render.formBefore offset = .error refusal) ↔
      d.render.NoFormBefore (d.render.clamp offset)) ∧
    ∀ span, d.render.formBefore offset = .ok span →
      ∃ f, f.span = span ∧ d.render.nextForm? span.start = some f := by
  have inside : d.render.clamp offset ≤ d.render.length := Text.clamp_le _ _
  have same : d.render.formBefore offset = d.render.formBefore (d.render.clamp offset) :=
    Text.formBefore_congr (by rw [Text.clamp_clamp])
  have found : ∀ span, d.render.formBefore offset = .ok span →
      d.IsFormBefore (d.render.clamp offset) span := by
    intro span result
    rcases exists_isFormBefore wf inside outside with none | ⟨other, before⟩
    · obtain ⟨refusal, refused⟩ := none.formBefore inside
      rw [same, refused] at result
      cases result
    · rw [same, before.formBefore wf free inside] at result
      cases result
      exact before
  refine ⟨fun span => ⟨found span, ?_⟩, ⟨?_, ?_⟩, ?_⟩
  · intro before
    rw [same]
    exact before.formBefore wf free inside
  · rintro ⟨refusal, refused⟩
    rcases exists_isFormBefore wf inside outside with none | ⟨span, before⟩
    · exact none
    · rw [same, before.formBefore wf free inside] at refused
      cases refused
  · intro none
    rw [same]
    exact none.formBefore inside
  · intro span result
    obtain ⟨f, form, rfl⟩ := (found span result).exists_form
    exact ⟨f, rfl, form.nextForm? wf⟩

theorem formBefore_behind_escaped_quote :
    (list .bracket (string ['\\', '"'] (blank ' ' (atom ['c', 'd'] nil))) nil).isWellFormed = true ∧
    (list .bracket (string ['\\', '"'] (blank ' ' (atom ['c', 'd'] nil))) nil).OpensStringsFree ∧
    (list .bracket (string ['\\', '"'] (blank ' ' (atom ['c', 'd'] nil))) nil).render.formBefore 6 =
      .ok ⟨1, 5⟩ ∧
    (list .bracket (string ['\\', '"'] (blank ' ' (atom ['c', 'd'] nil))) nil).render.formBefore 7 =
      .ok ⟨6, 8⟩ := by
  have wf : (list .bracket (string ['\\', '"'] (blank ' ' (atom ['c', 'd'] nil)))
      nil).isWellFormed = true := by decide
  have strings : ∀ span, (list .bracket (string ['\\', '"'] (blank ' ' (atom ['c', 'd'] nil)))
      nil).HasForm (.string span) → span = ⟨1, 5⟩ := by
    intro span string
    simpa [HasForm, allFormsAt] using string
  have free : (list .bracket (string ['\\', '"'] (blank ' ' (atom ['c', 'd'] nil)))
      nil).OpensStringsFree := by
    intro span string
    rw [strings span string]
    decide
  have behind := formBefore_eq_form_at_caret wf free 6 (by
    intro span string
    rw [strings span string]
    simp [Span.Around, Text.clamp, render])
  have inside := formBefore_eq_form_at_caret wf free 7 (by
    intro span string
    rw [strings span string]
    simp [Span.Around, Text.clamp, render])
  refine ⟨wf, free, (behind.1 _).mpr (.inr ⟨?_, .string ⟨1, 5⟩, ?_⟩), (inside.1 _).mpr (.inl ?_)⟩
  · rintro ⟨atom, form, around⟩
    obtain rfl : atom = ⟨6, 8⟩ := by simpa [HasForm, allFormsAt] using form
    exact absurd around.1 (by decide)
  · have gap : ∀ c ∈ [' '], isBlank c = true := List.forall_mem_singleton.mpr (by decide)
    exact ⟨by decide, rfl, by decide, gap⟩
  · exact ⟨by decide, by decide, by decide⟩

end Document

end LispEditor
