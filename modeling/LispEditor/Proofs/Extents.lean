import LispEditor.Proofs.Grammar
import Mathlib.Data.List.DropRight

set_option autoImplicit false
set_option relaxedAutoImplicit false

/-!
# What the scans find in any text

The text need not be well nested here. The list around an offset begins with the opener and ends
with the closer of its kind all the same, a form lies in the text, and the children of a list lie
between its brackets.
-/

namespace LispEditor

namespace Text

def blankAt (t : Text) (offset : Nat) : Bool :=
  (t[offset]?).any isBlank

def tokenAt (t : Text) (offset : Nat) : Bool :=
  (t[offset]?).any isToken

/-! ## Lists -/

/-- Whether the span begins with the opener of the kind and ends with its closer. -/
structure Delimits (t : Text) (list : Span) (k : Delimiter) : Prop where
  opens : t[list.start]? = some k.opener
  closes : t[list.stop - 1]? = some k.closer
  proper : list.start + 1 < list.stop

private theorem closer_of_matchFrom {k : Delimiter} {depth here stop : Nat} {cs : List Char}
    (h : matchFrom k depth here cs = some stop) :
    ∃ i, stop = here + i + 1 ∧ cs[i]? = some k.closer := by
  induction cs generalizing depth here with
  | nil => simp [matchFrom] at h
  | cons c rest ih =>
      -- Either the scan ends with `c`, or it goes on behind it at some depth.
      have later : ∀ d, matchFrom k d (here + 1) rest = some stop →
          ∃ i, stop = here + i + 1 ∧ (c :: rest)[i]? = some k.closer := by
        intro d found
        obtain ⟨i, rfl, closes⟩ := ih found
        exact ⟨i + 1, by omega, closes⟩
      unfold matchFrom at h
      split_ifs at h with opens closes
      · exact later _ h
      · cases depth with
        | zero =>
            cases h
            exact ⟨0, rfl, by rw [closes]; rfl⟩
        | succ depth => exact later _ h
      · exact later _ h

theorem lt_length_of_unpairedOpener {balance start : Nat} {before : List Char}
    (h : unpairedOpener balance before = some start) : start < before.length := by
  induction before generalizing balance with
  | nil => simp [unpairedOpener] at h
  | cons c before ih =>
      have later : ∀ b, unpairedOpener b before = some start → start < (c :: before).length :=
        fun b found => Nat.lt_succ_of_lt (ih found)
      unfold unpairedOpener at h
      split_ifs at h with closes opens
      · exact later _ h
      · cases balance with
        | zero =>
            cases h
            exact Nat.lt_succ_self _
        | succ balance => exact later _ h
      · exact later _ h

theorem enclosing?_eq_some_iff {t : Text} {offset : Nat} {list : Span} {k : Delimiter} :
    t.enclosing? offset = some ⟨list, k⟩ ↔
      t.openBefore? (t.clamp offset) = some list.start ∧ t[list.start]? = some k.opener ∧
        t.matchForward? list.start k = some list.stop ∧ t.clamp offset ≤ list.stop := by
  constructor
  · intro h
    obtain ⟨start, scan, h⟩ := Option.bind_eq_some_iff.mp h
    obtain ⟨c, first, h⟩ := Option.bind_eq_some_iff.mp h
    obtain ⟨kind, opens, h⟩ := Option.bind_eq_some_iff.mp h
    obtain ⟨stop, found, h⟩ := Option.bind_eq_some_iff.mp h
    split_ifs at h with before
    cases h
    rw [Delimiter.ofOpener?_eq_some] at opens
    exact ⟨scan, opens ▸ first, found, Nat.le_of_not_lt before⟩
  · rintro ⟨scan, first, found, behind⟩
    simp [enclosing?, scan, first, found, Nat.not_lt.mpr behind]

theorem delimits_of_enclosing? {t : Text} {offset : Nat} {list : Span} {k : Delimiter}
    (h : t.enclosing? offset = some ⟨list, k⟩) :
    t.Delimits list k ∧ list.start < t.clamp offset := by
  obtain ⟨scan, opens, found, -⟩ := enclosing?_eq_some_iff.mp h
  obtain ⟨i, stop, closes⟩ := closer_of_matchFrom found
  rw [List.getElem?_drop] at closes
  refine ⟨⟨opens, ?_, by omega⟩, ?_⟩
  · rw [stop, Nat.add_sub_cancel]
    exact closes
  · have short := lt_length_of_unpairedOpener scan
    rw [List.length_reverse, List.length_take] at short
    omega

theorem reverse_take_succ {t : Text} {i : Nat} {c : Char} (here : t[i]? = some c) :
    (t.take (i + 1)).reverse = c :: (t.take i).reverse := by
  simp [List.take_add_one, here]

theorem length_reverse_take {t : Text} {i : Nat} (inside : i ≤ t.length) :
    (t.take i).reverse.length = i := by
  rw [List.length_reverse, List.length_take]
  omega

theorem enclosing?_behind_opener {t : Text} {start : Nat} {k : Delimiter}
    (here : t[start]? = some k.opener) :
    t.enclosing? (start + 1) =
      (t.matchForward? start k).map fun stop => ⟨⟨start, stop⟩, k⟩ := by
  have inside : start < t.length := (List.getElem?_eq_some_iff.mp here).1
  have clamped : t.clamp (start + 1) = start + 1 := Nat.min_eq_left inside
  have length := length_reverse_take (Nat.le_of_lt inside)
  rw [enclosing?, clamped, openBefore?, reverse_take_succ here, unpairedOpener_opener_zero, length]
  simp only [Option.bind_eq_bind, Option.bind_some, here, Delimiter.ofOpener?_opener]
  cases found : t.matchForward? start k with
  | none => rfl
  | some stop =>
      have behind := lt_of_matchFrom found
      exact if_neg (by omega)

/-! ## Forms -/

theorem le_of_stringEnd {last : Char} {here stop : Nat} {cs : List Char}
    (h : stringEnd last here cs = some stop) : stop ≤ here + cs.length := by
  induction cs generalizing last here with
  | nil => simp [stringEnd] at h
  | cons c rest ih =>
      rw [List.length_cons]
      unfold stringEnd at h
      split_ifs at h
      · cases h
        omega
      · have later := ih h
        omega

private theorem stop_le_of_formAt? {start : Nat} {c : Char} {rest : List Char} {f : Form}
    (h : formAt? start c rest = some f) : f.span.stop ≤ start + 1 + rest.length := by
  unfold formAt? at h
  split at h
  · obtain ⟨stop, found, rfl⟩ := Option.map_eq_some_iff.mp h
    obtain ⟨i, rfl, closes⟩ := closer_of_matchFrom found
    have inside := (List.getElem?_eq_some_iff.mp closes).1
    show start + 1 + i + 1 ≤ _
    omega
  · split_ifs at h
    · obtain ⟨stop, found, rfl⟩ := Option.map_eq_some_iff.mp h
      exact le_of_stringEnd found
    · cases h
      exact Nat.add_le_add_left (List.takeWhile_prefix isToken).length_le (start + 1)

/-- Whether `place` is the first offset from `offset` on that holds no blank. -/
structure FirstSolid (t : Text) (offset place : Nat) : Prop where
  le : offset ≤ place
  solid : ∃ c, t[place]? = some c ∧ isBlank c = false
  blank : ∀ i, offset ≤ i → i < place → t.blankAt i = true

theorem firstSolid_of_solidFrom? {t : Text} {offset start : Nat}
    (h : t.solidFrom? offset = some start) : t.FirstSolid offset start := by
  obtain ⟨j, first, rfl⟩ := Option.map_eq_some_iff.mp h
  obtain ⟨inside, solid, blank⟩ := List.findIdx?_eq_some_iff_getElem.mp first
  refine ⟨Nat.le_add_right offset j, ⟨(t.drop offset)[j], ?_, ?_⟩, ?_⟩
  · rw [← List.getElem?_drop, List.getElem?_eq_getElem inside]
  · exact (Bool.not_eq_true' _).mp solid
  · intro i above below
    have there : i - offset < j := by omega
    have place : offset + (i - offset) = i := by omega
    rw [blankAt, ← place, ← List.getElem?_drop,
      List.getElem?_eq_getElem (Nat.lt_trans there inside)]
    simpa using blank _ there

theorem bounds_of_nextForm? {t : Text} {offset : Nat} {f : Form} (h : t.nextForm? offset = some f) :
    offset ≤ f.span.start ∧ f.span.start < f.span.stop ∧ f.span.stop ≤ t.length := by
  obtain ⟨start, found, h⟩ := Option.bind_eq_some_iff.mp h
  have first := le_of_solidFrom? found
  split at h
  · cases h
  · rename_i c rest back
    have length : t.length - start = rest.length + 1 := by
      rw [← List.length_drop, back, List.length_cons]
    have stop := stop_le_of_formAt? h
    obtain ⟨same, proper⟩ := formAt?_span h
    omega

private theorem bounds_of_mem_formsWithin {t : Text} {stop here : Nat} {f : Form}
    (h : f ∈ t.formsWithin stop here) :
    here ≤ f.span.start ∧ f.span.start < f.span.stop ∧ f.span.stop < stop ∧
      f.span.stop ≤ t.length := by
  fun_induction formsWithin t stop here with
  | case1 | case2 | case4 => cases h
  | case3 here _ g found inside ih =>
      obtain ⟨first, proper, short⟩ := bounds_of_nextForm? found
      rcases List.mem_cons.mp h with rfl | later
      · omega
      · have bounds := ih later
        omega

theorem bounds_of_lastChild? {t : Text} {list : Span} {child : Form}
    (h : t.lastChild? list = some child) :
    list.start < child.span.start ∧ child.span.start < child.span.stop ∧
      child.span.stop < list.stop ∧ child.span.stop ≤ t.length :=
  bounds_of_mem_formsWithin (List.mem_of_getLast? h)

/-! ## The blanks in front of an offset -/

/-- Whether `place` is right behind the last character in front of `offset` that is no blank. -/
structure SolidEnd (t : Text) (offset place : Nat) : Prop where
  positive : 0 < place
  le : place ≤ offset
  solid : ∃ c, t[place - 1]? = some c ∧ isBlank c = false
  blank : ∀ i, place ≤ i → i < offset → t.blankAt i = true

theorem SolidEnd.unique {t : Text} {offset p q : Nat} (hp : t.SolidEnd offset p)
    (hq : t.SolidEnd offset q) : p = q := by
  -- Of two different places, the last character in front of the later one would be a blank.
  have noLater : ∀ {p q : Nat}, t.SolidEnd offset p → t.SolidEnd offset q → ¬ p < q := by
    intro p q hp hq later
    obtain ⟨c, last, solid⟩ := hq.solid
    have inFront := hq.le
    have blank := hp.blank (q - 1) (by omega) (by omega)
    simp [blankAt, last, solid] at blank
  have notBefore := noLater hp hq
  have notBehind := noLater hq hp
  omega

theorem exists_gap_of_solidBack {t : Text} {offset : Nat} {c : Char} {before : List Char}
    (h : t.solidBack offset = c :: before) :
    isBlank c = false ∧ ∃ gap : Text, t.take offset = before.reverse ++ c :: gap ∧
      ∀ d ∈ gap, isBlank d = true := by
  have first := List.head?_dropWhile_not isBlank (t.take offset).reverse
  have cut := List.takeWhile_append_dropWhile (p := isBlank) (l := (t.take offset).reverse)
  rw [show (t.take offset).reverse.dropWhile isBlank = c :: before from h] at first cut
  refine ⟨first, ((t.take offset).reverse.takeWhile isBlank).reverse, ?_, ?_⟩
  · simpa using (congrArg List.reverse cut).symm
  · intro d hd
    exact List.mem_takeWhile_imp (List.mem_reverse.mp hd)

theorem eq_append_of_solidBack {t : Text} {offset : Nat} {c : Char} {before : List Char}
    (h : t.solidBack offset = c :: before) : ∃ after, t = before.reverse ++ c :: after := by
  obtain ⟨-, gap, front, -⟩ := exists_gap_of_solidBack h
  refine ⟨gap ++ t.drop offset, ?_⟩
  rw [← List.cons_append, ← List.append_assoc, ← front, List.take_append_drop]

theorem solidEnd_append {front gap : Text} (solid : front.EndsSolid) (nonempty : front ≠ [])
    (blank : ∀ c ∈ gap, isBlank c = true) (after : Text) :
    SolidEnd (front ++ (gap ++ after)) (front.length + gap.length) front.length := by
  have positive : 0 < front.length := List.length_pos_iff.mpr nonempty
  refine ⟨positive, Nat.le_add_right _ _, ?_, ?_⟩
  · refine ⟨front.getLast nonempty, ?_, solid _ (List.getLast?_eq_some_getLast nonempty)⟩
    rw [getElem?_pred_length_append _ positive]
    exact List.getLast?_eq_some_getLast nonempty
  · intro i above below
    have inside : i - front.length < gap.length := by omega
    rw [blankAt, List.getElem?_append_right above, List.getElem?_append_left inside,
      List.getElem?_eq_getElem inside]
    exact blank _ (List.getElem_mem inside)

theorem blankAt_pred_iff {front gap : Text} (solid : front.EndsSolid) (nonempty : front ≠ [])
    (blank : ∀ c ∈ gap, isBlank c = true) (back : Text) :
    blankAt (front ++ (gap ++ back)) (front.length + gap.length - 1) = true ↔ gap ≠ [] := by
  have positive : 0 < front.length := List.length_pos_iff.mpr nonempty
  constructor
  · rintro isBlankThere rfl
    have last := List.getLast?_eq_some_getLast nonempty
    rw [List.nil_append, List.length_nil, Nat.add_zero, blankAt,
      getElem?_pred_length_append _ positive, last] at isBlankThere
    simp [solid _ last] at isBlankThere
  · intro some
    have positive : 0 < gap.length := List.length_pos_iff.mpr some
    exact (solidEnd_append solid nonempty blank back).blank _ (by omega) (by omega)

theorem exists_trim (t : Text) :
    ∃ front gap : Text, t = front ++ gap ∧ front.EndsSolid ∧ ∀ c ∈ gap, isBlank c = true := by
  refine ⟨t.rdropWhile isBlank, t.rtakeWhile isBlank, ?_, ?_, ?_⟩
  · exact List.rdropWhile_append_rtakeWhile.symm
  · intro c hc
    have nonempty : t.rdropWhile isBlank ≠ [] := by
      rintro empty
      rw [empty] at hc
      cases hc
    rw [List.getLast?_eq_some_getLast nonempty] at hc
    cases hc
    exact eq_false_of_ne_true (List.rdropWhile_last_not _ _ nonempty)
  · intro c hc
    exact List.mem_rtakeWhile_imp hc

end Text

end LispEditor
