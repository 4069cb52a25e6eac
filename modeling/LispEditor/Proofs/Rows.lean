import LispEditor.Editor.Screen
import LispEditor.Proofs.Lines

set_option autoImplicit false
set_option relaxedAutoImplicit false

/-!
# Rows of the buffer

The buffer is drawn with a row for each of its lines. A cell of a row shows the character whose line
and column are those of the cell, and the caret has one cell, at the line and column that the status
line gives. The lines that are left out at the top keep the row of the caret in the box, unless it
lies too far down for a count of lines of 16 bits.
-/

namespace LispEditor

namespace Text

/-! ## Lines and their ends -/

/-- Whether no character of a line stands at the offset: a line feed does, or the text ends. -/
def endsLine (t : Text) (offset : Nat) : Bool :=
  t[offset]?.all (· == '\n')

private theorem endsLine_eq_false_iff (t : Text) (offset : Nat) :
    t.endsLine offset = false ↔ ∃ c, t[offset]? = some c ∧ c ≠ '\n' := by
  unfold endsLine
  cases t[offset]? with
  | none => simp
  | some c => simp

private theorem lt_length_of_endsLine {t : Text} {offset : Nat}
    (inLine : t.endsLine offset = false) :
    offset < t.length := by
  obtain ⟨c, found, -⟩ := (t.endsLine_eq_false_iff offset).mp inLine
  exact (List.getElem?_eq_some_iff.mp found).1

private theorem endsLine_append_of_lt {chars : Text} (plain : '\n' ∉ chars) (after : Text)
    {offset : Nat} (inside : offset < chars.length) : endsLine (chars ++ after) offset = false := by
  refine (endsLine_eq_false_iff _ _).mpr ⟨chars[offset], ?_, ?_⟩
  · rw [List.getElem?_append_left inside, List.getElem?_eq_getElem inside]
  · intro feed
    exact plain (feed ▸ List.getElem_mem inside)

private theorem endsLine_append_feed (line rest : Text) :
    endsLine (line ++ '\n' :: rest) line.length = true := by
  simp [endsLine]

private theorem endsLine_append_behind (line rest : Text) (offset : Nat) :
    endsLine (line ++ '\n' :: rest) (line.length + 1 + offset) = rest.endsLine offset := by
  have behind : (line ++ '\n' :: rest)[line.length + 1 + offset]? = rest[offset]? := by
    rw [List.getElem?_append_right (by omega)]
    have later : line.length + 1 + offset - line.length = offset + 1 := by omega
    rw [later, List.getElem?_cons_succ]
  rw [endsLine, behind, endsLine]

private theorem stop_of_mem_lines {t : Text} {line : Span} (listed : line ∈ t.lines) :
    line.stop = line.start + line.length := by
  have bounds := bounds_of_mem_lines listed
  rw [Span.length]
  omega

private theorem endsLine_of_mem_lines {t : Text} {line : Span} (listed : line ∈ t.lines) {col : Nat}
    (within : col ≤ line.length) : t.endsLine (line.start + col) = true ↔ col = line.length := by
  induction t using line_induction generalizing line with
  | last chars plain =>
      rw [lines_of_plain plain, List.mem_singleton] at listed
      subst listed
      change col ≤ chars.length at within
      change endsLine chars (0 + col) = true ↔ col = chars.length
      obtain inLine | rfl := Nat.lt_or_eq_of_le within
      · have free := endsLine_append_of_lt plain [] inLine
        rw [List.append_nil] at free
        simp [free, Nat.ne_of_lt inLine]
      · simp [endsLine]
  | more chars rest plain ih =>
      rw [lines_append plain, List.mem_cons] at listed
      obtain rfl | later := listed
      · change col ≤ chars.length at within
        change endsLine (chars ++ '\n' :: rest) (0 + col) = true ↔ col = chars.length
        obtain inLine | rfl := Nat.lt_or_eq_of_le within
        · simp [endsLine_append_of_lt plain ('\n' :: rest) inLine, Nat.ne_of_lt inLine]
        · simp [endsLine_append_feed]
      · obtain ⟨s, listed, rfl⟩ := List.mem_map.mp later
        rw [Span.length_shift] at within ⊢
        rw [Span.shift, Nat.add_assoc, endsLine_append_behind]
        exact ih listed within

private theorem offsetAt_of_getElem? {t : Text} {p : Position} {line : Span}
    (found : t.lines[p.line]? = some line) : t.offsetAt p = line.start + min p.col line.length := by
  obtain ⟨below, -⟩ := List.getElem?_eq_some_iff.mp found
  have last : (t.lines.take (p.line + 1)).getLast? = some line := by
    rw [List.getLast?_eq_getElem?, List.length_take_of_le (by omega), Nat.add_sub_cancel,
      List.getElem?_take_of_lt (Nat.lt_succ_self _), found]
  rw [offsetAt, last]
  rfl

private theorem position_of_line {t : Text} {p : Position} {line : Span}
    (found : t.lines[p.line]? = some line) (inside : p.col ≤ line.length) :
    t.position (line.start + p.col) = p := by
  obtain ⟨below, -⟩ := List.getElem?_eq_some_iff.mp found
  obtain ⟨other, same, there⟩ := t.position_offsetAt p
  have row : min p.line (t.lines.length - 1) = p.line := by omega
  rw [row, found] at same
  obtain rfl := Option.some.inj same
  rw [offsetAt_of_getElem? found, row, Nat.min_eq_left inside] at there
  exact there

theorem exists_line_of_le {t : Text} {offset : Nat} (inside : offset ≤ t.length) :
    ∃ line, t.lines[(t.position offset).line]? = some line ∧
      (t.position offset).col ≤ line.length ∧ offset = line.start + (t.position offset).col := by
  obtain ⟨line, found, there⟩ := t.position_offsetAt (t.position offset)
  rw [offsetAt_position_of_le inside] at there
  have row := congrArg Position.line there
  have col := congrArg Position.col there
  dsimp only at row col
  rw [← row] at found
  refine ⟨line, found, by omega, ?_⟩
  have back := offsetAt_position_of_le inside
  rw [offsetAt_of_getElem? found, ← col] at back
  exact back.symm

private theorem length_lines (t : Text) : t.lines.length = t.count '\n' + 1 := by
  induction t using line_induction with
  | last line plain => simp [lines_of_plain plain, List.count_eq_zero.mpr plain]
  | more line rest plain ih => simp [lines_append plain, ih, List.count_eq_zero.mpr plain]

end Text

namespace Editor

/-! ## Cells -/

def cell? (e : Editor) (now : Nat) (p : Position) : Option Cell :=
  (e.rows now)[p.line]?.bind (·[p.col]?)

def charCells (e : Editor) (flash : Option Span) (line : Span) : List Cell :=
  (List.range' line.start line.length).map (e.cellAt flash)

/-- The rows without the cell of its own on which a caret at the end of a line stands. -/
def bufferRows (e : Editor) (now : Nat) : List (List Cell) :=
  if e.buffer.endsLine e.caret then
    (e.rows now).modify e.position.line (·.eraseIdx e.position.col)
  else e.rows now

variable {e : Editor} {now : Nat} {p : Position}

private theorem length_charCells (e : Editor) (flash : Option Span) (line : Span) :
    (e.charCells flash line).length = line.length := by
  simp [charCells]

private theorem lineCells_eq (e : Editor) (flash : Option Span) (line : Span) :
    e.lineCells flash line =
      e.charCells flash line ++ if e.caret = line.stop then [⟨' ', .caret⟩] else [] :=
  rfl

private theorem getElem?_lineCells (e : Editor) (flash : Option Span) (line : Span) (col : Nat) :
    (e.lineCells flash line)[col]? =
      if col < line.length then some (e.cellAt flash (line.start + col))
      else if col = line.length ∧ e.caret = line.stop then some ⟨' ', .caret⟩
      else none := by
  rw [lineCells_eq, List.getElem?_append, length_charCells]
  by_cases inside : col < line.length
  · simp [charCells, inside]
  · rw [if_neg inside, if_neg inside]
    by_cases atEnd : e.caret = line.stop
    · rw [if_pos atEnd, List.getElem?_singleton]
      have first : col - line.length = 0 ↔ col = line.length := by omega
      simp only [first, atEnd, and_true]
    · simp [atEnd]

private theorem cell?_eq_of_line {line : Span} (found : e.buffer.lines[p.line]? = some line) :
    e.cell? now p = (e.lineCells (e.activeFlash? now) line)[p.col]? := by
  simp [cell?, rows, found]

private theorem exists_line_of_cell? {cell : Cell} (drawn : e.cell? now p = some cell) :
    ∃ line, e.buffer.lines[p.line]? = some line := by
  obtain ⟨row, there, -⟩ := Option.bind_eq_some_iff.mp drawn
  rw [rows, List.getElem?_map, Option.map_eq_some_iff] at there
  obtain ⟨line, found, -⟩ := there
  exact ⟨line, found⟩

private theorem position_of_caret_eq_stop {row : Nat} {line : Span}
    (found : e.buffer.lines[row]? = some line) (stops : e.caret = line.stop) :
    e.position = ⟨row, line.length⟩ := by
  rw [position, stops, Text.stop_of_mem_lines (List.mem_of_getElem? found)]
  exact Text.position_of_line (p := ⟨row, line.length⟩) found (Nat.le_refl _)

private theorem caret_eq_stop_iff (inside : e.caret ≤ e.buffer.length) {row : Nat} {line : Span}
    (found : e.buffer.lines[row]? = some line) :
    e.caret = line.stop ↔ e.buffer.endsLine e.caret = true ∧ e.position.line = row := by
  have listed := List.mem_of_getElem? found
  constructor
  · intro stops
    refine ⟨?_, congrArg Position.line (position_of_caret_eq_stop found stops)⟩
    rw [stops, Text.stop_of_mem_lines listed]
    exact (Text.endsLine_of_mem_lines listed (Nat.le_refl _)).mpr rfl
  · rintro ⟨ends, rfl⟩
    obtain ⟨_, same, within, place⟩ := Text.exists_line_of_le inside
    obtain rfl := Option.some.inj (found.symm.trans same)
    rw [place, Text.endsLine_of_mem_lines listed within] at ends
    rw [place, ends, Text.stop_of_mem_lines listed]

/-- The cells are those of the characters of all lines, each at its line and column, and the cell of
a caret at the end of a line. -/
theorem cell?_eq_some_iff (inside : e.caret ≤ e.buffer.length) (cell : Cell) :
    e.cell? now p = some cell ↔
      (∃ offset, e.buffer.endsLine offset = false ∧ e.buffer.position offset = p ∧
        cell = e.cellAt (e.activeFlash? now) offset) ∨
      (e.buffer.endsLine e.caret = true ∧ e.position = p ∧ cell = ⟨' ', .caret⟩) := by
  constructor
  · intro drawn
    obtain ⟨line, found⟩ := exists_line_of_cell? drawn
    have listed := List.mem_of_getElem? found
    rw [cell?_eq_of_line found, getElem?_lineCells] at drawn
    split_ifs at drawn with inLine atEnd
    · have within := Nat.le_of_lt inLine
      refine .inl ⟨line.start + p.col, ?_, Text.position_of_line found within,
        (Option.some.inj drawn).symm⟩
      rw [← Bool.not_eq_true, Text.endsLine_of_mem_lines listed within]
      exact Nat.ne_of_lt inLine
    · obtain ⟨last, stops⟩ := atEnd
      refine .inr ⟨((caret_eq_stop_iff inside found).mp stops).1, ?_, (Option.some.inj drawn).symm⟩
      rw [position_of_caret_eq_stop found stops, ← last]
  · rintro (⟨offset, inLine, rfl, rfl⟩ | ⟨ends, rfl, rfl⟩)
    · have below := Nat.le_of_lt (Text.lt_length_of_endsLine inLine)
      obtain ⟨line, found, within, place⟩ := Text.exists_line_of_le below
      have stops : (e.buffer.position offset).col ≠ line.length := by
        rw [place, ← Bool.not_eq_true,
          Text.endsLine_of_mem_lines (List.mem_of_getElem? found) within] at inLine
        exact inLine
      rw [cell?_eq_of_line found, getElem?_lineCells, if_pos (Nat.lt_of_le_of_ne within stops),
        ← place]
    · obtain ⟨line, found, -⟩ := Text.exists_line_of_le inside
      rw [← position] at found
      have stops := (caret_eq_stop_iff inside found).mpr ⟨ends, rfl⟩
      have last := congrArg Position.col (position_of_caret_eq_stop found stops)
      rw [cell?_eq_of_line found, getElem?_lineCells, last, if_neg (Nat.lt_irrefl _),
        if_pos ⟨rfl, stops⟩]

private theorem style_cellAt_eq_caret_iff (e : Editor) (flash : Option Span) (offset : Nat) :
    (e.cellAt flash offset).style = .caret ↔ offset = e.caret := by
  unfold cellAt
  split_ifs with here marked
  · simp [here]
  · simp [here]
  · simp [here]

private theorem style_cellAt_eq_flash_iff (e : Editor) (flash : Option Span) (offset : Nat) :
    (e.cellAt flash offset).style = .flash ↔
      offset ≠ e.caret ∧ ∃ s, flash = some s ∧ s.contains offset = true := by
  have marks : flash.any (·.contains offset) = true ↔
      ∃ s, flash = some s ∧ s.contains offset = true := by
    cases flash <;> simp
  unfold cellAt
  split_ifs with here marked
  · simp [here]
  · simp [here, ← marks, marked]
  · simp [here, ← marks, marked]

private theorem exists_caret_cell_iff (inside : e.caret ≤ e.buffer.length) (now : Nat)
    (p : Position) :
    (∃ cell, e.cell? now p = some cell ∧ cell.style = .caret) ↔ p = e.position := by
  constructor
  · rintro ⟨cell, drawn, style⟩
    obtain ⟨offset, -, rfl, rfl⟩ | ⟨-, rfl, -⟩ := (cell?_eq_some_iff inside cell).mp drawn
    · rw [style_cellAt_eq_caret_iff] at style
      rw [style, position]
    · rfl
  · rintro rfl
    cases ends : e.buffer.endsLine e.caret with
    | true => exact ⟨_, (cell?_eq_some_iff inside _).mpr (.inr ⟨ends, rfl, rfl⟩), rfl⟩
    | false =>
        exact ⟨_, (cell?_eq_some_iff inside _).mpr (.inl ⟨e.caret, ends, rfl, rfl⟩),
          (style_cellAt_eq_caret_iff e _ _).mpr rfl⟩

private theorem exists_flash_cell_iff (inside : e.caret ≤ e.buffer.length) (now : Nat)
    (p : Position) :
    (∃ cell, e.cell? now p = some cell ∧ cell.style = .flash) ↔
      ∃ offset, e.buffer.endsLine offset = false ∧ e.buffer.position offset = p ∧
        offset ≠ e.caret ∧ ∃ s, e.activeFlash? now = some s ∧ s.contains offset = true := by
  constructor
  · rintro ⟨cell, drawn, style⟩
    obtain ⟨offset, inLine, place, rfl⟩ | ⟨-, -, rfl⟩ := (cell?_eq_some_iff inside cell).mp drawn
    · exact ⟨offset, inLine, place, (style_cellAt_eq_flash_iff e _ _).mp style⟩
    · cases style
  · rintro ⟨offset, inLine, place, marked⟩
    exact ⟨_, (cell?_eq_some_iff inside _).mpr (.inl ⟨offset, inLine, place, rfl⟩),
      (style_cellAt_eq_flash_iff e _ _).mpr marked⟩

/-! ## The text of the rows -/

private theorem map_char_charCells {line : Span} (listed : line ∈ e.buffer.lines)
    (flash : Option Span) :
    (e.charCells flash line).map Cell.char = e.buffer.slice line := by
  have bounds := Text.bounds_of_mem_lines listed
  have size : line.length = line.stop - line.start := rfl
  ext1 i
  simp only [charCells, List.getElem?_map, Text.slice, List.getElem?_drop]
  by_cases inside : i < line.length
  · have there : line.start + i < e.buffer.length := by omega
    rw [List.getElem?_range' inside, List.getElem?_take_of_lt (by omega),
      List.getElem?_eq_getElem there]
    simp [cellAt, List.getElem?_eq_getElem there]
  · rw [List.getElem?_eq_none (by simpa using inside), List.getElem?_eq_none]
    · rfl
    · rw [List.length_take]
      omega

private theorem bufferRows_eq (inside : e.caret ≤ e.buffer.length) (now : Nat) :
    e.bufferRows now = e.buffer.lines.map (e.charCells (e.activeFlash? now)) := by
  unfold bufferRows
  ext1 row
  rw [apply_ite (·[row]?), List.getElem?_modify, rows, List.getElem?_map, List.getElem?_map]
  cases found : e.buffer.lines[row]? with
  | none => simp
  | some line =>
      have iff := caret_eq_stop_iff inside found
      by_cases stops : e.caret = line.stop
      · have place := position_of_caret_eq_stop found stops
        have last := length_charCells e (e.activeFlash? now) line
        rw [if_pos (iff.mp stops).1]
        simp [place, lineCells_eq, stops, ← last, List.eraseIdx_append_of_length_le]
      · have other := mt iff.mpr stops
        split_ifs with ends here
        · exact absurd ⟨ends, here⟩ other
        · simp [lineCells_eq, stops]
        · simp [lineCells_eq, stops]

private theorem map_char_bufferRows (inside : e.caret ≤ e.buffer.length) (now : Nat) :
    (e.bufferRows now).map (·.map Cell.char) = e.buffer.splitOn '\n' := by
  rw [bufferRows_eq inside, List.map_map, ← Text.map_slice_lines]
  exact List.map_congr_left fun line listed => map_char_charCells listed _

private theorem activeFlash?_eq_some_iff (e : Editor) (now : Nat) (s : Span) :
    e.activeFlash? now = some s ↔
      ∃ flash, e.flash = some flash ∧ now < flash.deadline ∧ flash.span = s := by
  unfold activeFlash?
  cases e.flash with
  | none => simp
  | some flash => simp

/-- There is a row for each line. One cell is set off as the caret, at the caret's line and column;
without it, if it is one that a line has at its end, the rows are the buffer. The cells that are
marked are those of the characters but the one at the caret in a flash whose time has not run
out. -/
theorem rows_show_caret_once (inside : e.caret ≤ e.buffer.length) (now : Nat) :
    (e.rows now).length = e.buffer.count '\n' + 1 ∧
    (∀ p, (∃ cell, e.cell? now p = some cell ∧ cell.style = .caret) ↔ p = e.position) ∧
    ['\n'].intercalate ((e.bufferRows now).map (·.map Cell.char)) = e.buffer ∧
    ∀ p, (∃ cell, e.cell? now p = some cell ∧ cell.style = .flash) ↔
      ∃ offset c flash, e.buffer[offset]? = some c ∧ c ≠ '\n' ∧ offset ≠ e.caret ∧
        e.flash = some flash ∧ now < flash.deadline ∧
        flash.span.start ≤ offset ∧ offset < flash.span.stop ∧ e.buffer.position offset = p := by
  refine ⟨?_, exists_caret_cell_iff inside now, ?_, ?_⟩
  · rw [rows, List.length_map, Text.length_lines]
  · rw [map_char_bufferRows inside, List.intercalate_splitOn]
  · intro p
    rw [exists_flash_cell_iff inside]
    constructor
    · rintro ⟨offset, inLine, place, other, s, active, holds⟩
      obtain ⟨c, found, noFeed⟩ := (Text.endsLine_eq_false_iff _ _).mp inLine
      obtain ⟨flash, stored, live, rfl⟩ := (activeFlash?_eq_some_iff e now s).mp active
      simp only [Span.contains, Bool.and_eq_true, decide_eq_true_eq] at holds
      exact ⟨offset, c, flash, found, noFeed, other, stored, live, holds.1, holds.2, place⟩
    · rintro ⟨offset, c, flash, found, noFeed, other, stored, live, begun, ends, place⟩
      have active := (activeFlash?_eq_some_iff e now flash.span).mpr ⟨flash, stored, live, rfl⟩
      refine ⟨offset, (Text.endsLine_eq_false_iff _ _).mpr ⟨c, found, noFeed⟩, place, other,
        flash.span, active, ?_⟩
      simp only [Span.contains, Bool.and_eq_true, decide_eq_true_eq]
      exact ⟨begun, ends⟩

theorem rows_show_caret_behind_last_feed :
    let e : Editor := ⟨"s.clj", .default, "(a\n".toList, 3, "", some ⟨⟨1, 9⟩, 5⟩, true⟩
    e.caret ≤ e.buffer.length ∧ (e.rows 4).length = 2 ∧
    (∃ cell, e.cell? 4 ⟨1, 0⟩ = some cell ∧ cell.style = .caret) ∧
    ['\n'].intercalate ((e.bufferRows 4).map (·.map Cell.char)) = "(a\n".toList ∧
    ∃ cell, e.cell? 4 ⟨0, 1⟩ = some cell ∧ cell.style = .flash := by
  intro e
  have inside : e.caret ≤ e.buffer.length := by decide
  obtain ⟨count, caret, text, flash⟩ := rows_show_caret_once inside 4
  refine ⟨inside, count, (caret _).mpr rfl, text, (flash _).mpr ?_⟩
  exact ⟨1, 'a', ⟨⟨1, 9⟩, 5⟩, rfl, by decide, by decide, rfl, by decide, by decide, by decide, rfl⟩

/-! ## The window -/

private theorem scroll_le (e : Editor) (height : Nat) : e.scroll height ≤ e.position.line := by
  unfold scroll
  omega

private theorem lt_scroll_add_iff {height : Nat} (visible : 1 ≤ height - 2) :
    e.position.line < e.scroll height + (height - 2) ↔ e.position.line < 65535 + (height - 2) := by
  unfold scroll
  omega

private theorem getElem?_box {width height row : Nat} {cells : List Cell}
    (drawn : (e.rows now)[row]? = some cells) (above : e.scroll height ≤ row)
    (below : row < e.scroll height + (height - 2)) :
    (e.box now width height)[row - e.scroll height + 1]? =
      some (boxRow width '│' (Glyph.row (width - 2) (cells.flatMap Glyph.ofCell)) '│') := by
  have shown : row - e.scroll height < height - 2 := by omega
  have place : e.scroll height + (row - e.scroll height) = row := by omega
  simp only [box]
  rw [List.getElem?_take_of_lt (by omega), List.getElem?_cons_succ,
    List.getElem?_append_left (by simpa using shown), List.getElem?_map,
    List.getElem?_range shown, Option.map_some, List.getElem?_drop, place, drawn]
  rfl

/-- The row of the caret is never one of those left out at the top, and it is in the box, where it
is drawn, exactly if it lies less than a window below line 65535. -/
theorem caret_row_in_window_iff (inside : e.caret ≤ e.buffer.length) (height : Nat)
    (visible : 1 ≤ height - 2) {cell : Cell} (drawn : e.cell? now p = some cell)
    (style : cell.style = .caret) :
    e.scroll height ≤ p.line ∧
    (p.line < e.scroll height + (height - 2) ↔ p.line < 65535 + (height - 2)) ∧
    (p.line < 65535 + (height - 2) → ∃ cells, (e.rows now)[p.line]? = some cells ∧ cell ∈ cells ∧
      ∀ width, (e.box now width height)[p.line - e.scroll height + 1]? =
        some (boxRow width '│' (Glyph.row (width - 2) (cells.flatMap Glyph.ofCell)) '│')) := by
  obtain rfl := (exists_caret_cell_iff inside now p).mp ⟨cell, drawn, style⟩
  refine ⟨scroll_le e height, lt_scroll_add_iff visible, ?_⟩
  intro near
  obtain ⟨cells, row, there⟩ := Option.bind_eq_some_iff.mp drawn
  refine ⟨cells, row, List.mem_of_getElem? there, fun width => ?_⟩
  exact getElem?_box row (scroll_le e height) ((lt_scroll_add_iff visible).mpr near)

theorem caret_row_in_window_of_one_row :
    let e : Editor := ⟨"s.clj", .default, "(a\n\nb".toList, 3, "", none, false⟩
    (e.caret ≤ e.buffer.length ∧ 1 ≤ 3 - 2 ∧ e.cell? 0 ⟨1, 0⟩ = some ⟨' ', .caret⟩) ∧
    e.scroll 3 ≤ 1 ∧ 1 < e.scroll 3 + (3 - 2) := by
  intro e
  have inside : e.caret ≤ e.buffer.length := by decide
  have drawn : e.cell? 0 ⟨1, 0⟩ = some ⟨' ', .caret⟩ := rfl
  obtain ⟨above, below, -⟩ := caret_row_in_window_iff inside 3 (by decide) drawn rfl
  exact ⟨⟨inside, by decide, drawn⟩, above, below.mpr (by decide)⟩

private theorem line_of_feeds (n : Nat) : (Text.position (List.replicate n '\n') n).line = n := by
  simp [Text.position]

/-- A caret in line 65536 is below a window of one row. -/
theorem caret_row_below_window :
    let e : Editor := ⟨"s.clj", .default, List.replicate 65536 '\n', 65536, "", none, false⟩
    e.caret ≤ e.buffer.length ∧ 1 ≤ 3 - 2 ∧
    ∃ (p : Position) (cell : Cell), e.cell? 0 p = some cell ∧ cell.style = .caret ∧
      ¬ (e.scroll 3 ≤ p.line ∧ p.line < e.scroll 3 + (3 - 2)) := by
  intro e
  have inside : e.caret ≤ e.buffer.length := Nat.le_of_eq List.length_replicate.symm
  obtain ⟨cell, drawn, style⟩ := (exists_caret_cell_iff inside 0 e.position).mpr rfl
  refine ⟨inside, by decide, e.position, cell, drawn, style, ?_⟩
  have line : e.position.line = 65536 := line_of_feeds 65536
  rw [lt_scroll_add_iff (by decide), line]
  omega

end Editor

end LispEditor
