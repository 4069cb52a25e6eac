import LispEditor.Text.Position
import Mathlib.Data.List.TakeWhile
import Mathlib.Tactic.SplitIfs

set_option autoImplicit false
set_option relaxedAutoImplicit false

/-!
# Lines and offsets

The lines of a text lie in the text, and so does every place that a line and a column stand for.
An offset gives its line and column, and these give the offset back; a line and a column that are
not there give the nearest ones that are.
-/

namespace LispEditor

def Span.shift (d : Nat) (s : Span) : Span :=
  ⟨d + s.start, d + s.stop⟩

@[simp]
theorem Span.length_shift (d : Nat) (s : Span) : (s.shift d).length = s.length := by
  simp only [shift, length]
  omega

namespace Text

private theorem bounds_of_mem_linesFrom {start here : Nat} {cs : List Char} {line : Span}
    (begun : start ≤ here) (h : line ∈ linesFrom start here cs) :
    line.start ≤ line.stop ∧ line.stop ≤ here + cs.length := by
  induction cs generalizing start here with
  | nil =>
      obtain rfl := List.mem_singleton.mp h
      exact ⟨begun, Nat.le_refl here⟩
  | cons c rest ih =>
      rw [List.length_cons]
      unfold linesFrom at h
      split at h
      · rcases List.mem_cons.mp h with rfl | later
        · exact ⟨begun, Nat.le_add_right here _⟩
        · have bounds := ih (Nat.le_refl (here + 1)) later
          omega
      · have bounds := ih (Nat.le_succ_of_le begun) h
        omega

theorem bounds_of_mem_lines {t : Text} {line : Span} (h : line ∈ t.lines) :
    line.start ≤ line.stop ∧ line.stop ≤ t.length := by
  have bounds := bounds_of_mem_linesFrom (Nat.le_refl 0) h
  omega

theorem offsetAt_le_length (t : Text) (p : Position) : t.offsetAt p ≤ t.length := by
  unfold offsetAt
  cases last : (t.lines.take (p.line + 1)).getLast? with
  | none =>
      show 0 + min p.col 0 ≤ t.length
      omega
  | some line =>
      have bounds := bounds_of_mem_lines (List.mem_of_mem_take (List.mem_of_getLast? last))
      show line.start + min p.col (line.stop - line.start) ≤ t.length
      omega

/-! ## Line by line -/

@[elab_as_elim]
theorem line_induction {motive : Text → Prop} (last : ∀ line, '\n' ∉ line → motive line)
    (more : ∀ line rest, '\n' ∉ line → motive rest → motive (line ++ '\n' :: rest)) (t : Text) :
    motive t := by
  -- The characters of the line that has begun are carried along.
  suffices begun : ∀ line, '\n' ∉ line → motive (line ++ t) from begun [] List.not_mem_nil
  induction t with
  | nil =>
      intro line plain
      rw [List.append_nil]
      exact last line plain
  | cons c rest ih =>
      intro line plain
      by_cases feed : c = '\n'
      · subst feed
        exact more line rest plain (ih [] List.not_mem_nil)
      · have longer : '\n' ∉ line ++ [c] := by
          simp [plain, Ne.symm feed]
        simpa using ih (line ++ [c]) longer

private theorem linesFrom_shift (d start here : Nat) (cs : List Char) :
    linesFrom (d + start) (d + here) cs = (linesFrom start here cs).map (Span.shift d) := by
  induction cs generalizing start here with
  | nil => rfl
  | cons c rest ih =>
      unfold linesFrom
      split_ifs
      · rw [List.map_cons, ← ih]
        rfl
      · exact ih start (here + 1)

theorem linesFrom_append {line : List Char} (plain : '\n' ∉ line) (start here : Nat)
    (after : List Char) :
    linesFrom start here (line ++ after) = linesFrom start (here + line.length) after := by
  induction line generalizing here with
  | nil => rfl
  | cons c line ih =>
      obtain ⟨first, rest⟩ := not_or.mp (mt List.mem_cons.mpr plain)
      rw [List.cons_append, linesFrom, if_neg (Ne.symm first), ih rest, List.length_cons]
      congr 1
      omega

theorem lines_of_plain {line : Text} (plain : '\n' ∉ line) : line.lines = [⟨0, line.length⟩] := by
  have split := linesFrom_append plain 0 0 []
  rwa [List.append_nil, Nat.zero_add] at split

theorem lines_append {line : Text} (plain : '\n' ∉ line) (rest : Text) :
    lines (line ++ '\n' :: rest) =
      ⟨0, line.length⟩ :: rest.lines.map (Span.shift (line.length + 1)) := by
  rw [lines, linesFrom_append plain, Nat.zero_add, linesFrom, if_pos rfl]
  exact congrArg _ (linesFrom_shift (line.length + 1) 0 0 rest)

private theorem lines_ne_nil (t : Text) : t.lines ≠ [] := by
  induction t using line_induction with
  | last line plain => simp [lines_of_plain plain]
  | more line rest plain ih => simp [lines_append plain]

private theorem slice_shift (front back : Text) (s : Span) :
    slice (front ++ back) (s.shift front.length) = back.slice s := by
  rw [slice, Span.shift, List.take_length_add_append, List.drop_length_add_append, slice]

theorem map_slice_lines (t : Text) : t.lines.map t.slice = t.splitOn '\n' := by
  induction t using line_induction with
  | last line plain => simp [lines_of_plain plain, slice, List.splitOn_eq_singleton plain]
  | more line rest plain ih =>
      rw [lines_append plain, List.splitOn_append_cons_self_of_not_mem plain, ← ih, List.map_cons,
        List.map_map]
      congr 1
      · simp [slice]
      · refine List.map_congr_left fun s _ => ?_
        simpa using slice_shift (line ++ ['\n']) rest s

/-! ## There and back -/

private theorem position_of_le {line : Text} (plain : '\n' ∉ line) (after : Text) {k : Nat}
    (inside : k ≤ line.length) : position (line ++ after) k = ⟨0, k⟩ := by
  have front : (line ++ after).take k = line.take k := List.take_append_of_le_length inside
  have free : '\n' ∉ line.take k := fun here => plain (List.mem_of_mem_take here)
  have width : ((line.take k).reverse.takeWhile (· != '\n')).length = k := by
    rw [List.takeWhile_eq_self_iff.mpr, List.length_reverse, List.length_take]
    · omega
    · rintro c here
      simp only [bne_iff_ne]
      rintro rfl
      exact free (List.mem_reverse.mp here)
  simp only [position, front, width, List.count_eq_zero.mpr free]

private theorem takeWhile_append_stop {α : Type} {p : α → Bool} {x : α} (stop : p x = false)
    (l m : List α) : (l ++ x :: m).takeWhile p = l.takeWhile p := by
  induction l with
  | nil => simp [stop]
  | cons a l ih => simp only [List.cons_append, List.takeWhile_cons, ih]

private theorem position_behind {line : Text} (plain : '\n' ∉ line) (rest : Text) (k : Nat) :
    position (line ++ '\n' :: rest) (line.length + 1 + k) =
      ⟨(rest.position k).line + 1, (rest.position k).col⟩ := by
  have front : (line ++ '\n' :: rest).take (line.length + 1 + k) = line ++ '\n' :: rest.take k := by
    have cut : (line ++ ['\n'] ++ rest).take ((line ++ ['\n']).length + k) =
        line ++ ['\n'] ++ rest.take k := List.take_length_add_append ..
    simpa using cut
  have back : (line ++ '\n' :: rest.take k).reverse =
      (rest.take k).reverse ++ '\n' :: line.reverse := by simp
  have count : (line ++ '\n' :: rest.take k).count '\n' = (rest.take k).count '\n' + 1 := by
    simp [List.count_eq_zero.mpr plain]
  rw [position, front, back, count, takeWhile_append_stop (by rfl), position]

private theorem offsetAt_first {line : Text} (plain : '\n' ∉ line) (rest : Text) (col : Nat) :
    offsetAt (line ++ '\n' :: rest) ⟨0, col⟩ = min col line.length := by
  simp [offsetAt, lines_append plain, Span.length]

private theorem offsetAt_of_plain {line : Text} (plain : '\n' ∉ line) (p : Position) :
    line.offsetAt p = min p.col line.length := by
  simp [offsetAt, lines_of_plain plain, Span.length]

private theorem offsetAt_later {line : Text} (plain : '\n' ∉ line) (rest : Text) (l col : Nat) :
    offsetAt (line ++ '\n' :: rest) ⟨l + 1, col⟩ = line.length + 1 + rest.offsetAt ⟨l, col⟩ := by
  obtain ⟨s, found⟩ : ∃ s, (rest.lines.take (l + 1)).getLast? = some s :=
    Option.ne_none_iff_exists'.mp (by simp [lines_ne_nil])
  have same : ((lines (line ++ '\n' :: rest)).take (l + 2)).getLast? =
      some (s.shift (line.length + 1)) := by
    rw [lines_append plain, List.take_succ_cons, ← List.map_take, List.getLast?_cons,
      List.getLast?_map, found]
    rfl
  rw [offsetAt, offsetAt, same, found]
  simp only [Option.getD_some, Span.length_shift]
  show line.length + 1 + s.start + min col s.length = line.length + 1 + (s.start + min col s.length)
  omega

private theorem position_clamp (t : Text) (offset : Nat) :
    t.position (t.clamp offset) = t.position offset := by
  rw [position, clamp, ← List.take_eq_take_min, position]

theorem offsetAt_position_of_le {t : Text} {offset : Nat} (inside : offset ≤ t.length) :
    t.offsetAt (t.position offset) = offset := by
  induction t using line_induction generalizing offset with
  | last line plain =>
      have here := position_of_le plain [] inside
      rw [List.append_nil] at here
      rw [here, offsetAt_of_plain plain]
      exact Nat.min_eq_left inside
  | more line rest plain ih =>
      rcases Nat.lt_or_ge line.length offset with behind | front
      · obtain ⟨k, rfl⟩ := Nat.exists_eq_add_of_lt behind
        have moved : line.length + k + 1 = line.length + 1 + k := by omega
        rw [List.length_append, List.length_cons] at inside
        rw [moved, position_behind plain, offsetAt_later plain, ih (by omega)]
      · rw [position_of_le plain _ front, offsetAt_first plain]
        exact Nat.min_eq_left front

theorem position_offsetAt (t : Text) (p : Position) :
    ∃ line, t.lines[min p.line (t.lines.length - 1)]? = some line ∧
      t.position (t.offsetAt p) = ⟨min p.line (t.lines.length - 1), min p.col line.length⟩ := by
  induction t using line_induction generalizing p with
  | last line plain =>
      refine ⟨⟨0, line.length⟩, by simp [lines_of_plain plain], ?_⟩
      have here := position_of_le plain [] (Nat.min_le_right p.col line.length)
      rw [List.append_nil] at here
      rw [offsetAt_of_plain plain, here, lines_of_plain plain]
      simp [Span.length]
  | more line rest plain ih =>
      obtain ⟨l, col⟩ := p
      cases l with
      | zero =>
          refine ⟨⟨0, line.length⟩, by simp [lines_append plain], ?_⟩
          rw [offsetAt_first plain, position_of_le plain _ (Nat.min_le_right col line.length)]
          simp [Span.length]
      | succ l =>
          obtain ⟨s, found, same⟩ := ih ⟨l, col⟩
          have several : 0 < rest.lines.length := List.length_pos_iff.mpr rest.lines_ne_nil
          have place : min (l + 1) ((lines (line ++ '\n' :: rest)).length - 1) =
              min l (rest.lines.length - 1) + 1 := by
            rw [lines_append plain, List.length_cons, List.length_map]
            omega
          refine ⟨s.shift (line.length + 1), ?_, ?_⟩
          · rw [place, lines_append plain, List.getElem?_cons_succ, List.getElem?_map, found]
            rfl
          · rw [place, offsetAt_later plain, position_behind plain, same, Span.length_shift]

theorem length_slice_of_mem_lines {t : Text} {line : Span} (h : line ∈ t.lines) :
    (t.slice line).length = line.length := by
  have bounds := bounds_of_mem_lines h
  rw [slice, List.length_drop, List.length_take, Span.length]
  omega

/-- Offsets and lines with columns are inverse to each other, but for what lies outside the text.
The lines are what the line feeds divide the text into. -/
theorem offsetAt_inverts_position (t : Text) :
    (∀ offset, t.offsetAt (t.position offset) = min offset t.length) ∧
      (∀ p : Position, ∃ line, t.lines[min p.line (t.lines.length - 1)]? = some line ∧
        t.position (t.offsetAt p) =
          ⟨min p.line (t.lines.length - 1), min p.col (t.slice line).length⟩) ∧
      t.lines.map t.slice = t.splitOn '\n' := by
  refine ⟨?_, ?_, map_slice_lines t⟩
  · intro offset
    rw [← position_clamp]
    exact offsetAt_position_of_le (Nat.min_le_right offset t.length)
  · intro p
    obtain ⟨line, found, same⟩ := position_offsetAt t p
    rw [← length_slice_of_mem_lines (List.mem_of_getElem? found)] at same
    exact ⟨line, found, same⟩

end Text

end LispEditor
