import LispEditor.Proofs.Caret

set_option autoImplicit false
set_option relaxedAutoImplicit false

/-!
# What an edit keeps

An edit moves one closer and nothing else, also in a text that is not well nested. Slurping takes it
out at the end of the list and puts it back behind the next form. Barfing puts it back in front of
the last child and of the blanks before it, and adds a space if there are none.
-/

namespace LispEditor

namespace Text

/-! ## Cuts of a text -/

theorem exists_cut {t : Text} {i : Nat} (h : i ≤ t.length) :
    ∃ front back : Text, t = front ++ back ∧ front.length = i :=
  ⟨t.take i, t.drop i, (List.take_append_drop i t).symm, List.length_take_of_le h⟩

theorem exists_cut_at {t : Text} {i : Nat} {c : Char} (h : t[i]? = some c) :
    ∃ front back : Text, t = front ++ c :: back ∧ front.length = i := by
  obtain ⟨inside, rfl⟩ := List.getElem?_eq_some_iff.mp h
  obtain ⟨front, back, whole, rfl⟩ := exists_cut (Nat.le_of_lt inside)
  refine ⟨front, t.drop (front.length + 1), ?_, rfl⟩
  rw [← List.drop_eq_getElem_cons inside]
  conv_rhs => rw [whole, List.drop_left]
  exact whole

private theorem eraseIdx_length_append (front back : Text) (c : Char) :
    (front ++ c :: back).eraseIdx front.length = front ++ back := by
  simp [List.eraseIdx_append_of_length_le]

private theorem insertIdx_length_append (front back : Text) (c : Char) :
    (front ++ back).insertIdx front.length c = front ++ c :: back := by
  induction front with
  | nil => rfl
  | cons d front ih =>
      rw [List.cons_append, List.length_cons, List.insertIdx_succ_cons, ih, List.cons_append]

/-! ## The cuts of an edit -/

/-- A slurp cuts the text at the closer of the list and behind the next form. -/
theorem exists_cut_of_slurpForward {t : Text} {offset : Nat} {patch : Patch}
    (done : t.slurpForward offset = .ok patch) :
    ∃ (list : Span) (k : Delimiter) (sibling : Form) (front pulled back : Text),
      t.enclosing? offset = some ⟨list, k⟩ ∧ t.nextForm? list.stop = some sibling ∧
      t = front ++ k.closer :: (pulled ++ back) ∧ list.stop = front.length + 1 ∧
      sibling.span.stop = front.length + 1 + pulled.length ∧
      patch = ⟨front ++ (pulled ++ k.closer :: back), t.clamp offset⟩ := by
  obtain ⟨list, k, sibling, around, next⟩ := scans_of_slurpForward done
  obtain ⟨delimits, -⟩ := delimits_of_enclosing? around
  have proper := delimits.proper
  obtain ⟨first, nonempty, inside⟩ := bounds_of_nextForm? next
  obtain ⟨front, behind, whole, length⟩ := exists_cut_at delimits.closes
  have size : list.stop = front.length + 1 := by omega
  have long : sibling.span.stop - list.stop ≤ behind.length := by
    rw [whole, List.length_append, List.length_cons] at inside
    omega
  obtain ⟨pulled, back, rfl, width⟩ := exists_cut long
  have stop : sibling.span.stop = front.length + 1 + pulled.length := by omega
  have cut := slurpForward_eq_of_cut whole (clamp_le t offset) ((enclosing?_clamp t offset).trans
    around) next size stop
  rw [slurpForward_clamp, done] at cut
  exact ⟨list, k, sibling, front, pulled, back, around, next, whole, size, stop, Except.ok.inj cut⟩

/-- A barf cuts the text behind what stays in the list, in front of the last child and at the closer
of the list. -/
theorem exists_cut_of_barfForward {t : Text} {offset : Nat} {patch : Patch}
    (done : t.barfForward offset = .ok patch) :
    ∃ (list : Span) (k : Delimiter) (child : Form) (front gap pushed back : Text),
      t.enclosing? offset = some ⟨list, k⟩ ∧ t.lastChild? list = some child ∧
      t = front ++ (gap ++ (pushed ++ k.closer :: back)) ∧
      list.stop = front.length + gap.length + pushed.length + 1 ∧
      child.span.start = front.length + gap.length ∧ list.start < front.length ∧
      front.EndsSolid ∧ (∀ c ∈ gap, isBlank c = true) ∧
      patch = ⟨front ++ k.closer :: (barfGap gap ++ (pushed ++ back)), t.clamp offset⟩ := by
  obtain ⟨list, k, child, around, last⟩ := scans_of_barfForward done
  obtain ⟨delimits, -⟩ := delimits_of_enclosing? around
  obtain ⟨first, nonempty, inside, -⟩ := bounds_of_lastChild? last
  obtain ⟨inList, back, whole, length⟩ := exists_cut_at delimits.closes
  obtain ⟨lead, pushed, rfl, start⟩ := exists_cut (t := inList) (i := child.span.start) (by omega)
  obtain ⟨front, gap, rfl, solid, blank⟩ := exists_trim lead
  rw [List.length_append] at length start
  rw [List.length_append] at length
  rw [List.append_assoc, List.append_assoc] at whole
  have size : list.stop = front.length + gap.length + pushed.length + 1 := by omega
  -- The opener is no blank, so it is not among the blanks in front of the child.
  have kept : list.start < front.length := by
    by_contra outside
    have opener := delimits.opens
    have within : list.start - front.length < gap.length := by omega
    rw [whole, List.getElem?_append_right (by omega), List.getElem?_append_left within] at opener
    have isBlankOpener := blank _ (List.mem_of_getElem? opener)
    simp at isBlankOpener
  have nonempty : front ≠ [] := List.length_pos_iff.mp (by omega)
  have cut := barfForward_eq_of_cut whole (clamp_le t offset) ((enclosing?_clamp t offset).trans
    around) last size start.symm solid nonempty blank
  rw [barfForward_clamp, done] at cut
  exact ⟨list, k, child, front, gap, pushed, back, around, last, whole, size, start.symm, kept,
    solid, blank, Except.ok.inj cut⟩

/-! ## The moved closer -/

/-- In any text a slurp takes the closer of the list out and puts it back behind the next form, and
a barf takes it out and puts it back behind what stays in the list, with a space behind it if no
blank was in front of the last child. All other characters keep their order. -/
theorem edit_moves_closer (t : Text) (offset : Nat) :
    (∀ patch, t.slurpForward offset = .ok patch →
      ∃ (list : Span) (kind : Delimiter) (sibling : Form),
        t.enclosing? offset = some ⟨list, kind⟩ ∧ t.nextForm? list.stop = some sibling ∧
        t[list.stop - 1]? = some kind.closer ∧
        list.stop < sibling.span.stop ∧ sibling.span.stop ≤ t.length ∧
        patch.text = (t.eraseIdx (list.stop - 1)).insertIdx (sibling.span.stop - 1) kind.closer ∧
        patch.text.length = t.length ∧ patch.offset = min offset t.length) ∧
    (∀ patch, t.barfForward offset = .ok patch →
      ∃ (list : Span) (kind : Delimiter) (child : Form) (place : Nat),
        t.enclosing? offset = some ⟨list, kind⟩ ∧ t.lastChild? list = some child ∧
        t[list.stop - 1]? = some kind.closer ∧
        list.start < place ∧ place ≤ list.stop - 1 ∧ t.SolidEnd child.span.start place ∧
        patch.text =
          (if t.blankAt (child.span.start - 1) then
            (t.eraseIdx (list.stop - 1)).insertIdx place kind.closer
          else
            ((t.eraseIdx (list.stop - 1)).insertIdx place kind.closer).insertIdx (place + 1) ' ') ∧
        patch.text.length =
          (if t.blankAt (child.span.start - 1) then t.length else t.length + 1) ∧
        patch.offset = min offset t.length) := by
  constructor
  · intro patch done
    obtain ⟨list, k, sibling, front, pulled, back, around, next, whole, size, stop, rfl⟩ :=
      exists_cut_of_slurpForward done
    obtain ⟨delimits, -⟩ := delimits_of_enclosing? around
    obtain ⟨first, nonempty, inside⟩ := bounds_of_nextForm? next
    refine ⟨list, k, sibling, around, next, delimits.closes, by omega, inside, ?_, ?_, rfl⟩
    · have place : sibling.span.stop - 1 = (front ++ pulled).length := by
        rw [List.length_append]
        omega
      have erased : t.eraseIdx (list.stop - 1) = (front ++ pulled) ++ back := by
        rw [whole, size, Nat.add_sub_cancel, eraseIdx_length_append, List.append_assoc]
      rw [erased, place, insertIdx_length_append, List.append_assoc]
    · rw [whole]
      simp only [List.length_append, List.length_cons]
      omega
  · intro patch done
    obtain ⟨list, k, child, front, gap, pushed, back, around, last, whole, size, start, kept, solid,
      blank, rfl⟩ := exists_cut_of_barfForward done
    obtain ⟨delimits, -⟩ := delimits_of_enclosing? around
    have nonempty : front ≠ [] := List.length_pos_iff.mp (by omega)
    have behind : t.SolidEnd child.span.start front.length := by
      rw [whole, start]
      exact solidEnd_append solid nonempty blank _
    have moved : (t.eraseIdx (list.stop - 1)).insertIdx front.length k.closer =
        front ++ k.closer :: (gap ++ (pushed ++ back)) := by
      have cut : t = (front ++ (gap ++ pushed)) ++ k.closer :: back := by simp [whole]
      have length : list.stop - 1 = (front ++ (gap ++ pushed)).length := by
        simp only [List.length_append]
        omega
      rw [cut, length, eraseIdx_length_append, List.append_assoc, insertIdx_length_append,
        List.append_assoc]
    have separated : t.blankAt (child.span.start - 1) = true ↔ gap ≠ [] := by
      rw [whole, start]
      exact blankAt_pred_iff solid nonempty blank _
    refine ⟨list, k, child, front.length, around, last, delimits.closes, kept, by omega, behind, ?_,
      ?_, rfl⟩
    · rw [moved]
      by_cases empty : gap = []
      · rw [if_neg (by simp [separated, empty]), barfGap, if_pos empty, empty]
        have added := insertIdx_length_append (front ++ [k.closer]) (pushed ++ back) ' '
        simpa using added.symm
      · rw [if_pos (separated.mpr empty), barfGap, if_neg empty]
    · by_cases empty : gap = []
      · rw [if_neg (by simp [separated, empty]), barfGap, if_pos empty, whole, empty]
        simp only [List.length_append, List.length_cons, List.length_nil]
        omega
      · rw [if_pos (separated.mpr empty), barfGap, if_neg empty, whole]
        simp only [List.length_append, List.length_cons]
        omega

theorem edit_moves_closer_of_crossing :
    (slurpForward "([a) b] c".toList 2 = .ok ⟨"([a) b c]".toList, 2⟩ ∧
      "([a) b c]".toList = ("([a) b] c".toList.eraseIdx 6).insertIdx 8 ']') ∧
    (barfForward "([a) b] c".toList 2 = .ok ⟨"([] a) b c".toList, 2⟩ ∧
      "([] a) b c".toList = (("([a) b] c".toList.eraseIdx 6).insertIdx 2 ']').insertIdx 3 ' ') := by
  have found : enclosing? "([a) b] c".toList 2 = some ⟨⟨1, 7⟩, .bracket⟩ := by decide
  have sibling : nextForm? "([a) b] c".toList 7 = some (.atom ⟨8, 9⟩) := by decide
  have child : lastChild? "([a) b] c".toList ⟨1, 7⟩ = some (.atom ⟨2, 3⟩) := by cbv
  have slurped : slurpForward "([a) b] c".toList 2 = .ok ⟨"([a) b c]".toList, 2⟩ := by decide
  have barfed : barfForward "([a) b] c".toList 2 = .ok ⟨"([] a) b c".toList, 2⟩ := by cbv
  obtain ⟨slurp, barf⟩ := edit_moves_closer "([a) b] c".toList 2
  refine ⟨⟨slurped, ?_⟩, barfed, ?_⟩
  · obtain ⟨list, kind, f, around, next, -, -, -, moved, -⟩ := slurp _ slurped
    cases found.symm.trans around
    cases sibling.symm.trans next
    exact moved
  · obtain ⟨list, kind, f, place, around, last, -, above, -, behind, moved, -⟩ := barf _ barfed
    cases found.symm.trans around
    cases child.symm.trans last
    obtain rfl : place = 2 := Nat.le_antisymm behind.le above
    exact moved

end Text

end LispEditor
