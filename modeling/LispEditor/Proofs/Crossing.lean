import LispEditor.Proofs.Coherence
import LispEditor.Proofs.Conservation
import LispEditor.Proofs.FormEnds

set_option autoImplicit false
set_option relaxedAutoImplicit false

/-!
# Brackets that cross

The backward scans count the brackets of all kinds alike. In a text that is not well nested they can
pair a closer with an opener of another kind, and the list that is found around an offset can end
right at it. So the form before the caret need not begin with the opener of the kind that it ends
with, and a slurp can change the character in front of the caret. In a well nested text neither
happens.
-/

namespace LispEditor

namespace Text

/-! ## Pairs without kinds -/

/-- Whether the first and the last bracket of the text pair off if all kinds are counted alike: it
has as many openers as closers, and each shorter end of it that is not empty has more closers. -/
structure PairsOff (t : Text) : Prop where
  even : t.countP isOpener = t.countP isCloser
  later : ∀ v, v <:+ t → v ≠ [] → v ≠ t → v.countP isOpener < v.countP isCloser

/-- Whether a backward scan can pass the text with `balance` closers waiting for their openers when
it starts: they and those of the text are as many as its openers, and no end of it has more openers
than that. -/
structure Passes (balance : Nat) (t : Text) : Prop where
  even : t.countP isOpener = t.countP isCloser + balance
  ends : ∀ v, v <:+ t → v.countP isOpener ≤ v.countP isCloser + balance

private theorem Passes.nil : Passes 0 [] := by
  refine ⟨rfl, ?_⟩
  intro v isEnd
  simp [List.suffix_nil.mp isEnd]

private theorem Passes.concat {balance other : Nat} {t : Text} {c : Char} (h : Passes other t)
    (count : other + [c].countP isOpener = balance + [c].countP isCloser) :
    Passes balance (t ++ [c]) := by
  have even := h.even
  constructor
  · rw [List.countP_append, List.countP_append]
    omega
  · intro v isEnd
    obtain rfl | ⟨w, rfl, within⟩ := List.suffix_concat_iff.mp isEnd
    · simp
    · have bound := h.ends w within
      rw [List.countP_append, List.countP_append]
      omega

private theorem Passes.pairsOff {t : Text} (h : Passes 0 t) (k l : Delimiter) :
    PairsOff (k.opener :: (t ++ [l.closer])) := by
  constructor
  · simp [h.even]
  · intro v isEnd nonempty shorter
    obtain same | behind := List.suffix_cons_iff.mp isEnd
    · exact absurd same shorter
    · obtain rfl | ⟨w, rfl, within⟩ := List.suffix_concat_iff.mp behind
      · exact absurd rfl nonempty
      · have bound := h.ends w within
        have opens : [l.closer].countP isOpener = 0 := by simp
        have closes : [l.closer].countP isCloser = 1 := by simp
        rw [List.countP_append, List.countP_append]
        omega

theorem exists_cut_of_unpairedOpener {balance start : Nat} {before : List Char}
    (h : unpairedOpener balance before = some start) :
    ∃ (front inside : Text) (k : Delimiter), before.reverse = front ++ k.opener :: inside ∧
      front.length = start ∧ Passes balance inside := by
  induction before generalizing balance with
  | nil => simp [unpairedOpener] at h
  | cons c before ih =>
      have goesOn : ∀ b, unpairedOpener b before = some start →
          b + [c].countP isOpener = balance + [c].countP isCloser →
          ∃ (front inside : Text) (k : Delimiter),
            (c :: before).reverse = front ++ k.opener :: inside ∧
              front.length = start ∧ Passes balance inside := by
        intro b found count
        obtain ⟨front, inside, k, whole, length, passes⟩ := ih found
        exact ⟨front, inside ++ [c], k, by simp [whole], length, passes.concat count⟩
      unfold unpairedOpener at h
      split_ifs at h with closes opens
      · obtain ⟨k, rfl⟩ := exists_closer_of_isCloser closes
        exact goesOn _ h (by simp)
      · cases balance with
        | zero =>
            cases h
            obtain ⟨k, rfl⟩ := exists_opener_of_isOpener opens
            exact ⟨before.reverse, [], k, by simp, List.length_reverse, .nil⟩
        | succ balance => exact goesOn _ h (by simp [opens, closes])
      · exact goesOn _ h (by simp [opens, closes])

/-! ## Pairs by kind -/

private theorem Balanced.countP_eq {t : Text} (h : Balanced t) :
    t.countP isOpener = t.countP isCloser := by
  induction h with
  | nil => rfl
  | plain opens closes _ ih => simp [opens, closes, ih]
  | pair k _ _ ihInside ihRest =>
      simp only [List.countP_cons, List.countP_append, ihInside, ihRest, Delimiter.isOpener_opener,
        Delimiter.isOpener_closer, Delimiter.isCloser_opener, Delimiter.isCloser_closer]
      omega

private theorem balanced_of_run {u : Text} {p : Parser} (run : Parser.initial.run u = some p)
    (closed : p.opened = []) : Balanced u := by
  have leaves : Leaves u p.opened := leaves_of_run (t := []) (.none .nil) rfl run
  rw [closed] at leaves
  cases leaves with
  | none balanced => exact balanced

private theorem WellNested.balanced {t : Text} (h : t.WellNested) : Balanced t := by
  obtain ⟨pairs, found⟩ := h
  obtain ⟨q, run, closed, -⟩ := pairs?_eq_some.mp found
  exact balanced_of_run run closed

/-- If the brackets in between pair off by kind, so do the first and the last. -/
theorem PairsOff.kind_eq {k l : Delimiter} {inside : Text}
    (pairs : PairsOff (k.opener :: (inside ++ [l.closer])))
    (nested : WellNested (k.opener :: (inside ++ [l.closer]))) : k = l := by
  have balanced := nested.balanced
  generalize whole : k.opener :: (inside ++ [l.closer]) = t at pairs balanced
  cases balanced with
  | nil => cases whole
  | plain opens =>
      obtain ⟨rfl, -⟩ := List.cons.inj whole
      simp at opens
  | @pair m inner rest _ back =>
      obtain ⟨first, tails⟩ := List.cons.inj whole
      obtain rfl := Delimiter.opener_inj.mp first
      -- What stands behind the closer of the first bracket has as many openers as closers.
      have last : rest = [] := by
        by_contra nonempty
        have isEnd : rest <:+ k.opener :: (inner ++ k.closer :: rest) :=
          ⟨k.opener :: (inner ++ [k.closer]), by simp⟩
        have shorter : rest ≠ k.opener :: (inner ++ k.closer :: rest) := by
          intro same
          have length := congrArg List.length same
          simp only [List.length_cons, List.length_append] at length
          omega
        have more := pairs.later rest isEnd nonempty shorter
        have even := back.countP_eq
        omega
      subst last
      obtain ⟨-, closers⟩ := List.append_inj' tails rfl
      exact (Delimiter.closer_inj.mp (List.cons.inj closers).1).symm

theorem exists_opener_of_wellNested {front back : Text} {l : Delimiter}
    (h : WellNested (front ++ l.closer :: back)) :
    ∃ before inside : Text, front = before ++ l.opener :: inside ∧ Balanced inside := by
  obtain ⟨pairs, found⟩ := h
  obtain ⟨q, run, -, -⟩ := pairs?_eq_some.mp found
  rw [Parser.run_append] at run
  obtain ⟨p, runFront, run⟩ := Option.bind_eq_some_iff.mp run
  obtain ⟨m, step, -⟩ := Option.bind_eq_some_iff.mp run
  have leaves : Leaves front p.opened := leaves_of_run (t := []) (.none .nil) rfl runFront
  obtain ⟨k, same, -⟩ | ⟨k, start, outer, same, top, -⟩ | ⟨-, closes, -⟩ := Parser.step_cases step
  · exact absurd same (Delimiter.closer_ne_opener l k)
  · obtain rfl := Delimiter.closer_inj.mp same
    rw [top] at leaves
    cases leaves with
    | opener k outside balanced => exact ⟨_, _, rfl, balanced⟩
  · simp at closes

/-! ## The form before the caret -/

private theorem exists_cut_of_formBefore {t : Text} {offset : Nat} {s : Span}
    (h : t.formBefore offset = .ok s) :
    ∃ (front : Text) (c : Char) (back : Text), t = front ++ c :: back ∧
      s.stop = front.length + 1 ∧ formStart? c front.reverse = some s.start := by
  obtain ⟨front, c, back, whole, ends⟩ := exists_formEnds h
  exact ⟨front, c, back, whole, ends.stop, ends.start⟩

/-- In any text, a form before the caret that ends with a closer begins with the opener that pairs
off with it if all kinds are counted alike. If the brackets of the form are well nested, both are of
one kind, and they are in a well nested text. -/
theorem formBefore_pairs_off {t : Text} {offset : Nat} {s : Span} {l : Delimiter}
    (found : t.formBefore offset = .ok s) (closes : t[s.stop - 1]? = some l.closer) :
    ∃ k : Delimiter, t[s.start]? = some k.opener ∧ (t.slice s).PairsOff ∧
      ((t.slice s).WellNested → k = l) ∧ (t.WellNested → (t.slice s).WellNested) := by
  obtain ⟨front, c, back, rfl, stop, start⟩ := exists_cut_of_formBefore found
  obtain rfl : c = l.closer := by
    rw [stop, Nat.add_sub_cancel, getElem?_length_append] at closes
    exact Option.some.inj closes
  have scan := start
  rw [formStart?_eq_unpairedOpener] at scan
  obtain ⟨before, inside, k, cut, length, passes⟩ := exists_cut_of_unpairedOpener scan
  rw [List.reverse_reverse] at cut
  subst cut
  have pairs := passes.pairsOff k l
  have whole : (before ++ k.opener :: inside) ++ l.closer :: back =
      before ++ (k.opener :: (inside ++ [l.closer]) ++ back) := by simp
  have slice : slice ((before ++ k.opener :: inside) ++ l.closer :: back) s =
      k.opener :: (inside ++ [l.closer]) := by
    rw [whole]
    refine slice_append before _ back length.symm ?_
    rw [stop]
    simp only [List.length_append, List.length_cons, List.length_nil]
    omega
  refine ⟨k, ?_, ?_, ?_, ?_⟩
  · rw [whole, ← length, getElem?_length_append]
    rfl
  · rw [slice]
    exact pairs
  · rw [slice]
    exact pairs.kind_eq
  · intro nested
    obtain ⟨outer, inner, same, balanced⟩ := exists_opener_of_wellNested nested
    -- The scan finds the opener of the kind, so that is the one the form begins with.
    rw [same, formStart?_closer l balanced, Option.some.injEq, ← length] at start
    obtain ⟨-, tails⟩ := List.append_inj same start.symm
    obtain ⟨first, rfl⟩ := List.cons.inj tails
    rw [slice, first]
    exact (balanced.enclose l).wellNested

/-- A closer in front of it that closes nothing does not matter to a well nested form. -/
theorem formBefore_pairs_off_behind_stray_closer :
    let t : Text := ") (a [b])".toList
    (t.formBefore 9 = .ok ⟨2, 9⟩ ∧ t[8]? = some Delimiter.paren.closer) ∧
    (t.slice ⟨2, 9⟩).WellNested ∧ t[2]? = some Delimiter.paren.opener := by
  intro t
  have found : t.formBefore 9 = .ok ⟨2, 9⟩ := by decide
  have closes : t[8]? = some Delimiter.paren.closer := by decide
  have nested : (t.slice ⟨2, 9⟩).WellNested :=
    ⟨[⟨0, 6, .paren⟩, ⟨3, 5, .bracket⟩], by decide⟩
  obtain ⟨k, opens, -, sameKind, -⟩ := formBefore_pairs_off found closes
  obtain rfl := sameKind nested
  exact ⟨⟨found, closes⟩, nested, opens⟩

/-- A form before the caret can begin with an opener of another kind than that of its closer. -/
theorem formBefore_crosses_kinds :
    ¬ ∀ (t : Text) (offset : Nat) (s : Span) (k : Delimiter), t.formBefore offset = .ok s →
      t[s.stop - 1]? = some k.closer → t[s.start]? = some k.opener := by
  intro sameKind
  have found : formBefore "(a]".toList 3 = .ok ⟨0, 3⟩ := by decide
  exact absurd (sameKind _ 3 _ .bracket found (by decide)) (by decide)

/-! ## The text in front of the caret -/

private theorem lt_stop_of_wellNested {t : Text} {offset : Nat} {list : Span} {k : Delimiter}
    (nested : t.WellNested) (around : t.enclosing? offset = some ⟨list, k⟩) :
    t.clamp offset < list.stop := by
  obtain ⟨pairs, found⟩ := nested
  obtain ⟨q, run, done, -⟩ := pairs?_eq_some.mp found
  obtain ⟨u, v, whole, length⟩ := exists_cut (clamp_le t offset)
  rw [← enclosing?_clamp, ← length, whole] at around
  rw [whole, Parser.run_append] at run
  obtain ⟨p, front, back⟩ := Option.bind_eq_some_iff.mp run
  rw [← length]
  cases opened : p.opened with
  | nil =>
      rw [(balanced_of_run front opened).enclosing?_eq_none] at around
      cases around
  | cons top outer =>
      obtain ⟨e, -, ⟨-, closer⟩, found, -⟩ := exists_pair_of_opened_eq_cons front back done opened
      rw [found] at around
      cases around
      exact Nat.lt_succ_of_le closer

private theorem ne_closer_of_nextForm? {t : Text} {offset : Nat} {f : Form}
    (next : t.nextForm? offset = some f) (k : Delimiter) : t[offset]? ≠ some k.closer := by
  intro here
  rw [nextForm?_of_solid here k.isBlank_closer, formAt?_closer] at next
  cases next

/-- A slurp keeps all characters in front of the closer that it moves. The closer itself stands in
front of the caret only if the list around the caret ends at the caret, and exactly then the slurp
changes what is in front of the caret. In a well nested text this does not happen. -/
theorem slurpForward_keeps_front_iff {t : Text} {offset : Nat} {patch : Patch}
    (done : t.slurpForward offset = .ok patch) :
    ∃ (list : Span) (k : Delimiter), t.enclosing? offset = some ⟨list, k⟩ ∧
      min offset t.length ≤ list.stop ∧
      patch.text.take (list.stop - 1) = t.take (list.stop - 1) ∧
      (patch.text.take (min offset t.length) = t.take (min offset t.length) ↔
        min offset t.length < list.stop) ∧
      (t.WellNested → min offset t.length < list.stop) := by
  obtain ⟨list, k, sibling, front, pulled, back, around, next, whole, size, stop, rfl⟩ :=
    exists_cut_of_slurpForward done
  obtain ⟨-, -, -, behind⟩ := enclosing?_eq_some_iff.mp around
  obtain ⟨first, nonempty, -⟩ := bounds_of_nextForm? next
  have keeps : ∀ n ≤ front.length,
      (front ++ (pulled ++ k.closer :: back)).take n = t.take n := by
    intro n inside
    rw [whole, List.take_append_of_le_length inside, List.take_append_of_le_length inside]
  refine ⟨list, k, around, behind, keeps _ (by omega), ?_, fun nested =>
    lt_stop_of_wellNested nested around⟩
  constructor
  · intro same
    by_contra outside
    -- The character in front of the caret was the closer. Now it is what stood behind the list.
    have moved := congrArg (·[front.length]?) same
    dsimp only at moved
    rw [List.getElem?_take_of_lt (by omega), List.getElem?_take_of_lt (by omega), whole,
      getElem?_length_append, getElem?_length_append, List.head?_cons] at moved
    cases pulled with
    | nil =>
        rw [List.length_nil] at stop
        omega
    | cons c pulled =>
        apply ne_closer_of_nextForm? next k
        rw [← moved, size, whole]
        simp
  · intro inside
    exact keeps _ (by omega)

/-- Both texts have brackets that cross. The list around the caret ends behind the caret in the
first one, and at the caret in the second. -/
theorem slurpForward_keeps_front_unless_list_ends :
    (slurpForward "([a) b] c".toList 2 = .ok ⟨"([a) b c]".toList, 2⟩ ∧
      "([a) b c]".toList.take 2 = "([a) b] c".toList.take 2) ∧
    slurpForward "([) b".toList 3 = .ok ⟨"([ b)".toList, 3⟩ ∧
      "([ b)".toList.take 3 ≠ "([) b".toList.take 3 := by
  have behind : enclosing? "([a) b] c".toList 2 = some ⟨⟨1, 7⟩, .bracket⟩ := by decide
  have atCaret : enclosing? "([) b".toList 3 = some ⟨⟨0, 3⟩, .paren⟩ := by decide
  have kept : slurpForward "([a) b] c".toList 2 = .ok ⟨"([a) b c]".toList, 2⟩ := by decide
  have changed : slurpForward "([) b".toList 3 = .ok ⟨"([ b)".toList, 3⟩ := by decide
  refine ⟨⟨kept, ?_⟩, changed, ?_⟩
  · obtain ⟨list, k, around, -, -, keeps, -⟩ := slurpForward_keeps_front_iff kept
    cases behind.symm.trans around
    exact keeps.mpr (by decide)
  · obtain ⟨list, k, around, -, -, keeps, -⟩ := slurpForward_keeps_front_iff changed
    cases atCaret.symm.trans around
    exact mt keeps.mp (by decide)

/-- A slurp can change the character in front of the caret. -/
theorem slurpForward_changes_front :
    ¬ ∀ (t : Text) (offset : Nat) (patch : Patch), t.slurpForward offset = .ok patch →
      patch.text.take (min offset t.length) = t.take (min offset t.length) := by
  intro keeps
  have done : slurpForward "([) b".toList 3 = .ok ⟨"([ b)".toList, 3⟩ := by decide
  exact absurd (keeps _ 3 _ done) (by decide)

end Text

end LispEditor
