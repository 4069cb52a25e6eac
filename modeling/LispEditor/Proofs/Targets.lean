import LispEditor.Proofs.Crossing
import LispEditor.Proofs.Traps

set_option autoImplicit false
set_option relaxedAutoImplicit false

/-!
# What an evaluation takes from any text

The text need not be well nested here. The form before the caret is found by backward scans of its
own. Behind a closer they agree with the scan for the list around an offset, on which the edits
rely. The form does not change while the caret moves over the blanks behind it. An evaluation takes
the form, or what is selected, and never something blank.
-/

namespace LispEditor

namespace Text

variable {t : Text}

/-! ## Behind a closer -/

private theorem pairedOpener_eq_openBefore? {i : Nat} {l : Delimiter}
    (closes : t[i]? = some l.closer) :
    pairedOpener 0 (t.take (i + 1)).reverse = t.openBefore? i := by
  rw [reverse_take_succ closes, pairedOpener, if_pos l.isCloser_closer, pairedOpener_succ,
    openBefore?]

private theorem formBefore_behind_closer {i start : Nat} {l : Delimiter}
    (closes : t[i]? = some l.closer) (opened : t.openBefore? i = some start) :
    t.formBefore (i + 1) = .ok ⟨start, i + 1⟩ := by
  obtain ⟨front, back, rfl, rfl⟩ := exists_cut_at closes
  rw [openBefore?, List.take_left] at opened
  have inside := lt_length_of_unpairedOpener opened
  rw [List.length_reverse] at inside
  have ends : FormEnds front l.closer ([] ++ back) ⟨start, front.length + 1⟩ :=
    ⟨l.isBlank_closer, .inl l.isToken_closer, by rw [formStart?_eq_unpairedOpener, opened], rfl,
      Nat.lt_succ_of_lt inside⟩
  exact ends.formBefore (by simp)

private theorem enclosing?_of_closer {i : Nat} {l : Delimiter} (nested : t.WellNested)
    (closes : t[i]? = some l.closer) : ∃ start, t.enclosing? i = some ⟨⟨start, i + 1⟩, l⟩ := by
  obtain ⟨front, back, rfl, rfl⟩ := exists_cut_at closes
  obtain ⟨before, inside, rfl, balanced⟩ := exists_opener_of_wellNested nested
  have around := enclosing?_of_balanced balanced .nil l before back
  have whole : (before ++ l.opener :: inside) ++ l.closer :: back =
      before ++ l.opener :: (inside ++ ([] ++ l.closer :: back)) := by simp
  have length : (before ++ l.opener :: inside).length = before.length + 1 + inside.length := by
    simp only [List.length_append, List.length_cons]
    omega
  rw [← whole, ← length, List.length_nil, Nat.add_zero] at around
  exact ⟨before.length, around⟩

/-- From a closer of any text, both backward scans come to the same opener or to none, and on
machine words they do so without a trap. If there is a list around the place in front of the closer,
the form that ends with the closer begins where the list begins. In a well nested text there is such
a list, and the form is the list. -/
theorem backward_scans_agree {i : Nat} {c : Char} (here : t[i]? = some c)
    (closes : isCloser c = true) :
    pairedOpener 0 (t.take (i + 1)).reverse = t.openBefore? i ∧
    (t.length < 2 ^ 63 → Checked.pairLoop t (i + 1) 0 = .ok (t.openBefore? i) ∧
      Checked.openLoop t i 0 = .ok (t.openBefore? i)) ∧
    (∀ (list : Span) (k : Delimiter), t.enclosing? i = some ⟨list, k⟩ →
      t.formBefore (i + 1) = .ok ⟨list.start, i + 1⟩) ∧
    (t.WellNested → ∃ (list : Span) (k : Delimiter), t.enclosing? i = some ⟨list, k⟩ ∧
      t.formBefore (i + 1) = .ok list) := by
  obtain ⟨l, rfl⟩ := exists_closer_of_isCloser closes
  have inside := (List.getElem?_eq_some_iff.mp here).1
  have begins : ∀ (list : Span) (k : Delimiter), t.enclosing? i = some ⟨list, k⟩ →
      t.formBefore (i + 1) = .ok ⟨list.start, i + 1⟩ := by
    intro list k around
    obtain ⟨opened, -⟩ := enclosing?_eq_some_iff.mp around
    rw [clamp_of_le (Nat.le_of_lt inside)] at opened
    exact formBefore_behind_closer here opened
  have same := pairedOpener_eq_openBefore? here
  refine ⟨same, ?_, begins, ?_⟩
  · intro short
    rw [Checked.pairLoop_of_closer short here closes, same]
    exact ⟨rfl, Checked.openLoop_eq short (by omega) (by omega)⟩
  · intro nested
    obtain ⟨start, around⟩ := enclosing?_of_closer nested here
    exact ⟨_, l, around, begins _ l around⟩

/-- A closer of another kind than the list around it, and one in a well nested text. -/
theorem backward_scans_agree_at_crossing :
    (enclosing? "] ([a) b]".toList 5 = some ⟨⟨3, 9⟩, .bracket⟩ ∧
      pairedOpener 0 ("] ([a) b]".toList.take 6).reverse = openBefore? "] ([a) b]".toList 5 ∧
      formBefore "] ([a) b]".toList 6 = .ok ⟨3, 6⟩) ∧
    WellNested "(a [b])".toList ∧ ∃ (list : Span) (k : Delimiter),
      enclosing? "(a [b])".toList 6 = some ⟨list, k⟩ ∧
        formBefore "(a [b])".toList 7 = .ok list := by
  have around : enclosing? "] ([a) b]".toList 5 = some ⟨⟨3, 9⟩, .bracket⟩ := by decide
  have nested : WellNested "(a [b])".toList := ⟨[⟨0, 6, .paren⟩, ⟨3, 5, .bracket⟩], by decide⟩
  have crossed : "] ([a) b]".toList[5]? = some ')' := by decide
  have closed : "(a [b])".toList[6]? = some ')' := by decide
  obtain ⟨same, -, begins, -⟩ := backward_scans_agree crossed rfl
  obtain ⟨-, -, -, isList⟩ := backward_scans_agree closed rfl
  exact ⟨⟨around, same, begins _ _ around⟩, nested, isList nested⟩

/-! ## The form before the caret -/

private theorem quote_of_stringStart {start : Nat} {before : List Char}
    (h : stringStart before = some start) : before.reverse[start]? = some '"' := by
  induction before with
  | nil => cases h
  | cons c before ih =>
      unfold stringStart at h
      rw [List.reverse_cons]
      split_ifs at h with quote
      · cases h
        simp only [Bool.and_eq_true, decide_eq_true_eq] at quote
        rw [quote.1]
        simp
      · have found := ih h
        have inside := (List.getElem?_eq_some_iff.mp found).1
        rw [List.getElem?_append_left inside, found]

private theorem token_of_dropWhile (h : (t.reverse.dropWhile isToken).length < t.length) :
    ∃ c, t[(t.reverse.dropWhile isToken).length]? = some c ∧ isToken c = true := by
  have cut : t.rdropWhile isToken ++ t.rtakeWhile isToken = t := List.rdropWhile_append_rtakeWhile
  have length : (t.rdropWhile isToken).length = (t.reverse.dropWhile isToken).length :=
    List.length_reverse
  cases run : t.rtakeWhile isToken with
  | nil =>
      rw [run, List.append_nil] at cut
      rw [← length, cut] at h
      exact absurd h (Nat.lt_irrefl _)
  | cons c tokens =>
      have first := getElem?_length_append (t.rdropWhile isToken) (t.rtakeWhile isToken)
      rw [cut, length, run] at first
      have mem : c ∈ t.rtakeWhile isToken := by
        rw [run]
        exact List.mem_cons_self
      exact ⟨c, first, List.mem_rtakeWhile_imp mem⟩

private theorem FormEnds.first_solid {front back : Text} {c : Char} {s : Span}
    (h : FormEnds front c back s) :
    ∃ d, (front ++ c :: back)[s.start]? = some d ∧ isBlank d = false := by
  have start := h.start
  by_cases closes : isCloser c = true
  · obtain ⟨l, rfl⟩ := exists_closer_of_isCloser closes
    rw [formStart?_eq_unpairedOpener] at start
    obtain ⟨before, inside, k, cut, length, -⟩ := exists_cut_of_unpairedOpener start
    rw [List.reverse_reverse] at cut
    refine ⟨k.opener, ?_, k.isBlank_opener⟩
    rw [cut, ← length, List.append_assoc, getElem?_length_append]
    rfl
  · rw [formStart?, if_neg closes] at start
    split_ifs at start with quote
    · have found := quote_of_stringStart start
      rw [List.reverse_reverse] at found
      have inside := (List.getElem?_eq_some_iff.mp found).1
      exact ⟨'"', by rw [List.getElem?_append_left inside, found], rfl⟩
    · have whole : c :: front.reverse = (front ++ [c]).reverse := by simp
      have length : (front ++ [c]).length = front.length + 1 := by simp
      rw [whole, Option.some.injEq] at start
      have proper := h.proper
      rw [h.stop, ← length, ← start] at proper
      obtain ⟨d, first, token⟩ := token_of_dropWhile proper
      refine ⟨d, ?_, (isToken_iff.mp token).1⟩
      rw [← start, ← List.singleton_append, ← List.append_assoc, List.getElem?_append_left proper,
        first]

/-- In any text, the form before the caret is not empty, lies in the text, and has a blank neither
at its start nor at its end. It is also the form before its own end, and before every offset that
only blanks keep apart from its end. -/
theorem formBefore_stays {offset : Nat} {s : Span} (found : t.formBefore offset = .ok s) :
    s.start < s.stop ∧ s.stop ≤ t.length ∧
      (∃ c, t[s.start]? = some c ∧ isBlank c = false) ∧
      (∃ c, t[s.stop - 1]? = some c ∧ isBlank c = false) ∧
      ∀ other, s.stop ≤ other → other ≤ t.length →
        (∀ c ∈ t.slice ⟨s.stop, other⟩, isBlank c = true) → t.formBefore other = .ok s := by
  obtain ⟨front, c, back, rfl, ends⟩ := exists_formEnds found
  refine ⟨ends.proper, ends.stop_le, ends.first_solid, ⟨c, ends.getElem?_last, ends.solid⟩, ?_⟩
  intro other behind inside blank
  have stop := ends.stop
  have length : (front ++ c :: back).length = front.length + 1 + back.length := by
    simp only [List.length_append, List.length_cons]
    omega
  obtain ⟨gap, rest, rfl, size⟩ := exists_cut (show other - s.stop ≤ back.length by omega)
  have slice : slice (front ++ c :: (gap ++ rest)) ⟨s.stop, other⟩ = gap := by
    rw [← List.singleton_append, ← List.append_assoc]
    refine slice_append (front ++ [c]) gap rest ?_ ?_
    · rw [stop, List.length_append, List.length_singleton]
    · rw [List.length_append, List.length_singleton]
      omega
  rw [slice] at blank
  have again := ends.formBefore blank
  rwa [size, Nat.add_sub_cancel' behind] at again

/-- The caret inside a token, behind a closer that closes nothing, and behind the blanks that
follow. -/
theorem formBefore_stays_behind_blanks :
    let t : Text := ") ab \n(".toList
    t.formBefore 3 = .ok ⟨2, 4⟩ ∧ (∀ c ∈ t.slice ⟨4, 6⟩, isBlank c = true) ∧
      t.formBefore 6 = .ok ⟨2, 4⟩ := by
  intro t
  have found : t.formBefore 3 = .ok ⟨2, 4⟩ := by decide
  have blank : ∀ c ∈ t.slice ⟨4, 6⟩, isBlank c = true := List.all_eq_true.mp (by decide)
  obtain ⟨-, -, -, -, stays⟩ := formBefore_stays found
  exact ⟨found, blank, stays 6 (by decide) (by decide) blank⟩

/-! ## What an evaluation takes -/

/-- The offsets between the ends of a selection, whichever comes first, that lie in the text. -/
def covered (t : Text) (selection : Span) : Span :=
  ⟨min (min selection.start selection.stop) t.length,
    min (max selection.start selection.stop) t.length⟩

private theorem selected?_eq (t : Text) (selection : Span) :
    t.selected? selection =
      if min selection.start t.length = min selection.stop t.length then none
      else some (t.covered selection) := by
  have empty : (t.covered selection).isEmpty = true ↔
      min selection.start t.length = min selection.stop t.length := by
    simp only [Span.isEmpty, Span.length, covered, beq_iff_eq]
    omega
  have unfolded : t.selected? selection =
      if (t.covered selection).isEmpty then none else some (t.covered selection) := rfl
  rw [unfolded]
  simp only [empty]

private theorem selected?_swap (t : Text) (first second : Nat) :
    t.selected? ⟨first, second⟩ = t.selected? ⟨second, first⟩ := by
  simp only [selected?, Nat.min_comm first, Nat.max_comm first]

private theorem bounds_of_selected? {selection span : Span}
    (h : t.selected? selection = some span) :
    span.start < span.stop ∧ span.stop ≤ t.length := by
  rw [selected?_eq] at h
  split_ifs at h
  cases h
  simp only [covered]
  omega

private theorem solid_of_formBefore {offset : Nat} {s : Span} (h : t.formBefore offset = .ok s) :
    s.start < s.stop ∧ s.stop ≤ t.length ∧ ∃ c ∈ t.slice s, isBlank c = false := by
  obtain ⟨front, c, back, rfl, ends⟩ := exists_formEnds h
  have proper := ends.proper
  have stop := ends.stop
  refine ⟨proper, ends.stop_le, c, ?_, ends.solid⟩
  have taken : (front ++ c :: back).take s.stop = front ++ [c] := by
    rw [stop, ← List.singleton_append, ← List.append_assoc]
    exact List.take_left' (by simp)
  rw [slice, taken, List.drop_append_of_le_length (by omega)]
  simp

private theorem evalTarget_of_selected? {selection span : Span}
    (h : t.selected? selection = some span) (offset : Nat) :
    t.evalTarget offset (some selection) =
      if (t.slice span).all isBlank then .error (.blankSelection offset)
      else .ok ⟨t.slice span, span⟩ := by
  rw [evalTarget, Option.bind_some, h]
  rfl

private theorem evalTarget_of_none {selection : Option Span} (h : selection.bind t.selected? = none)
    (offset : Nat) :
    t.evalTarget offset selection =
      (t.formBefore offset).map fun span => ⟨t.slice span, span⟩ := by
  rw [evalTarget, h]
  cases found : t.formBefore offset with
  | error refusal => rfl
  | ok span =>
      obtain ⟨-, -, c, mem, solid⟩ := solid_of_formBefore found
      have notBlank : ¬ (t.slice span).all isBlank = true := by
        rw [List.all_eq_true]
        intro blank
        rw [blank c mem] at solid
        cases solid
      exact if_neg notBlank

private theorem bounds_of_evalTarget {offset : Nat} {selection : Option Span} {target : EvalTarget}
    (h : t.evalTarget offset selection = .ok target) :
    target.span.start < target.span.stop ∧ target.span.stop ≤ t.length ∧
      target.code = t.slice target.span ∧ ∃ c ∈ target.code, isBlank c = false := by
  cases chosen : selection.bind t.selected? with
  | none =>
      rw [evalTarget_of_none chosen] at h
      cases found : t.formBefore offset with
      | error refusal =>
          rw [found] at h
          cases h
      | ok span =>
          rw [found] at h
          cases h
          obtain ⟨proper, inside, solid⟩ := solid_of_formBefore found
          exact ⟨proper, inside, rfl, solid⟩
  | some span =>
      obtain ⟨s, rfl, chosen⟩ := Option.bind_eq_some_iff.mp chosen
      rw [evalTarget_of_selected? chosen] at h
      split_ifs at h with blank
      cases h
      obtain ⟨proper, inside⟩ := bounds_of_selected? chosen
      exact ⟨proper, inside, rfl, by simpa using blank⟩

/-- Whatever the offset and the ends of the selection: what an evaluation takes is a span of the
text that is not empty, with its characters, and not all of them are blanks. It does not matter
which end of the selection comes first. A selection that covers nothing of the text leaves the form
before the caret, whenever there is one. Of any other selection the evaluation takes what it covers,
or nothing if this is blank. -/
theorem evalTarget_takes_selection_or_form (t : Text) (offset : Nat) (selection : Option Span) :
    (∀ target, t.evalTarget offset selection = .ok target →
      target.span.start < target.span.stop ∧ target.span.stop ≤ t.length ∧
        target.code = t.slice target.span ∧ ∃ c ∈ target.code, isBlank c = false) ∧
    t.evalTarget offset (selection.map fun s => ⟨s.stop, s.start⟩) =
      t.evalTarget offset selection ∧
    ((∀ s ∈ selection, min s.start t.length = min s.stop t.length) →
      t.evalTarget offset selection =
        (t.formBefore offset).map fun span => ⟨t.slice span, span⟩) ∧
    ∀ s ∈ selection, min s.start t.length ≠ min s.stop t.length →
      ((∃ refusal, t.evalTarget offset selection = .error refusal) ↔
        ∀ c ∈ t.slice (t.covered s), isBlank c = true) ∧
      ∀ target, t.evalTarget offset selection = .ok target → target.span = t.covered s := by
  refine ⟨fun target => bounds_of_evalTarget, ?_, ?_, ?_⟩
  · have same : (selection.map fun s => (⟨s.stop, s.start⟩ : Span)).bind t.selected? =
        selection.bind t.selected? := by
      cases selection with
      | none => rfl
      | some s => exact t.selected?_swap s.stop s.start
    simp only [evalTarget, same]
  · intro empty
    apply evalTarget_of_none
    rw [Option.bind_eq_none_iff]
    intro s mem
    rw [selected?_eq, if_pos (empty s mem)]
  · rintro s mem proper
    rw [Option.mem_def] at mem
    subst mem
    have chosen : t.selected? s = some (t.covered s) := by rw [selected?_eq, if_neg proper]
    rw [evalTarget_of_selected? chosen, ← List.all_eq_true]
    split_ifs with blank
    · refine ⟨⟨fun _ => blank, fun _ => ⟨_, rfl⟩⟩, ?_⟩
      intro target taken
      cases taken
    · refine ⟨⟨?_, fun all => absurd all blank⟩, ?_⟩
      · rintro ⟨refusal, refused⟩
        cases refused
      · intro target taken
        cases taken
        rfl

/-- Selections from behind the end of the text back into it, of blanks only, and wholly behind the
end. -/
theorem evalTarget_takes_at_ends :
    let t : Text := "(a)  b".toList
    t.evalTarget 3 (some ⟨99, 4⟩) = .ok ⟨" b".toList, ⟨4, 6⟩⟩ ∧
    t.evalTarget 3 (some ⟨4, 99⟩) = .ok ⟨" b".toList, ⟨4, 6⟩⟩ ∧
    (∃ refusal, t.evalTarget 3 (some ⟨3, 5⟩) = .error refusal) ∧
    t.evalTarget 3 (some ⟨99, 6⟩) = .ok ⟨"(a)".toList, ⟨0, 3⟩⟩ := by
  intro t
  have taken : t.evalTarget 3 (some ⟨99, 4⟩) = .ok ⟨" b".toList, ⟨4, 6⟩⟩ := by decide
  have found : t.formBefore 3 = .ok ⟨0, 3⟩ := by decide
  obtain ⟨-, swapped, -, -⟩ := evalTarget_takes_selection_or_form t 3 (some ⟨99, 4⟩)
  obtain ⟨-, -, -, refused⟩ := evalTarget_takes_selection_or_form t 3 (some ⟨3, 5⟩)
  obtain ⟨-, -, left, -⟩ := evalTarget_takes_selection_or_form t 3 (some ⟨99, 6⟩)
  refine ⟨taken, swapped.trans taken, ?_, ?_⟩
  · exact (refused _ rfl (by decide)).1.mpr (List.all_eq_true.mp (by decide))
  · rw [left (by decide), found]
    rfl

end Text

end LispEditor
