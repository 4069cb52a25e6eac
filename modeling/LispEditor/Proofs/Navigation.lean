import LispEditor.Proofs.Rows
import LispEditor.Proofs.Typing

set_option autoImplicit false
set_option relaxedAutoImplicit false

/-!
# Moving by lines

Up and Down put the caret in the line above or below, in its column or at the end of a line that is
too short for it. Home and End put it at the ends of its line. In the first line Up leaves it where
it is, and so does Down in the last one.
-/

namespace LispEditor

namespace Text

/-! ## Lines by their numbers -/

def lineLength (t : Text) (line : Nat) : Nat :=
  ((t.splitOn '\n').getD line []).length

private theorem length_splitOn (t : Text) : (t.splitOn '\n').length = t.lines.length := by
  rw [← map_slice_lines, List.length_map]

private theorem lineLength_eq (t : Text) (row : Nat) :
    t.lineLength row = (t.lines[row]?.map Span.length).getD 0 := by
  rw [lineLength, ← map_slice_lines, List.getD_eq_getElem?_getD, List.getElem?_map]
  cases found : t.lines[row]? with
  | none => rfl
  | some line => exact length_slice_of_mem_lines (List.mem_of_getElem? found)

private theorem lineLength_of_getElem? {t : Text} {row : Nat} {line : Span}
    (found : t.lines[row]? = some line) : t.lineLength row = line.length := by
  rw [lineLength_eq, found]
  rfl

private theorem eq_of_position_eq {t : Text} {i j : Nat} (hi : i ≤ t.length) (hj : j ≤ t.length)
    (same : t.position i = t.position j) : i = j := by
  rw [← offsetAt_position_of_le hi, same, offsetAt_position_of_le hj]

end Text

namespace Editor

variable {e f : Editor} {p : Position} {l c : Nat}

/-! ## Moves -/

/-- Whether the second editor is the first one with the caret put at the line and column. -/
structure MovedTo (e : Editor) (p : Position) (f : Editor) : Prop where
  inside : f.caret ≤ f.buffer.length
  position : f.position = p
  rest : f = { e with caret := f.caret }

private theorem MovedTo.unique {g : Editor} (hf : e.MovedTo p f) (hg : e.MovedTo p g) : f = g := by
  have buffers : f.buffer = g.buffer := by rw [hf.rest, hg.rest]
  have carets : f.caret = g.caret := by
    have place := hf.position.trans hg.position.symm
    have inside := hf.inside
    rw [Editor.position, Editor.position, buffers] at place
    rw [buffers] at inside
    exact Text.eq_of_position_eq inside hg.inside place
  rw [hf.rest, hg.rest, carets]

private theorem MovedTo.eq_self (h : e.MovedTo e.position f) (inside : e.caret ≤ e.buffer.length) :
    f = e :=
  h.unique ⟨inside, rfl, rfl⟩

private theorem MovedTo.back (h : e.MovedTo p f) (inside : e.caret ≤ e.buffer.length) :
    f.MovedTo e.position e := by
  refine ⟨inside, rfl, ?_⟩
  rw [h.rest]

private theorem movedTo_moveTo (e : Editor) (p : Position) :
    let row := min p.line (e.buffer.lines.length - 1)
    e.MovedTo ⟨row, min p.col (e.buffer.lineLength row)⟩ (e.moveTo p) := by
  obtain ⟨line, found, there⟩ := e.buffer.position_offsetAt p
  refine ⟨e.buffer.offsetAt_le_length p, ?_, rfl⟩
  rw [Text.lineLength_of_getElem? found]
  exact there

private theorem movedTo_moveTo_of_lt (there : p.line < e.buffer.lines.length) :
    e.MovedTo ⟨p.line, min p.col (e.buffer.lineLength p.line)⟩ (e.moveTo p) := by
  have moved := e.movedTo_moveTo p
  have row : min p.line (e.buffer.lines.length - 1) = p.line := by omega
  simp only [row] at moved
  exact moved

section

variable (inside : e.caret ≤ e.buffer.length) (here : e.position = ⟨l, c⟩)
include inside here

private theorem line_lt_of_position : l < e.buffer.lines.length := by
  obtain ⟨line, found, -, -⟩ := Text.exists_line_of_le inside
  rw [← Editor.position, here] at found
  exact (List.getElem?_eq_some_iff.mp found).1

private theorem col_le_of_position : c ≤ e.buffer.lineLength l := by
  obtain ⟨line, found, within, -⟩ := Text.exists_line_of_le inside
  rw [← Editor.position, here] at found within
  rw [Text.lineLength_of_getElem? found]
  exact within

private theorem movedTo_moveHome : e.MovedTo ⟨l, 0⟩ e.moveHome := by
  have moved := movedTo_moveTo_of_lt (p := ⟨l, 0⟩) (line_lt_of_position inside here)
  rw [Nat.zero_min] at moved
  rw [moveHome, here]
  exact moved

private theorem movedTo_moveEnd :
    e.MovedTo ⟨l, min (UInt64.size - 1) (e.buffer.lineLength l)⟩ e.moveEnd := by
  rw [moveEnd, here]
  exact movedTo_moveTo_of_lt (p := ⟨l, UInt64.size - 1⟩) (line_lt_of_position inside here)

private theorem moveDown_of_last (last : l + 1 = e.buffer.lines.length) : e.moveDown = e := by
  have moved := e.movedTo_moveTo ⟨l + 1, c⟩
  have row : min (l + 1) (e.buffer.lines.length - 1) = l := by omega
  simp only [row, Nat.min_eq_left (col_le_of_position inside here), ← here] at moved
  rw [moveDown, here]
  exact moved.eq_self inside

omit inside in
private theorem movedTo_moveDown (more : l + 1 < e.buffer.lines.length) :
    e.MovedTo ⟨l + 1, min c (e.buffer.lineLength (l + 1))⟩ e.moveDown := by
  rw [moveDown, here]
  exact movedTo_moveTo_of_lt (p := ⟨l + 1, c⟩) more

private theorem movedTo_moveUp (more : 0 < l) :
    e.MovedTo ⟨l - 1, min c (e.buffer.lineLength (l - 1))⟩ e.moveUp := by
  obtain ⟨m, rfl⟩ := Nat.exists_eq_add_of_lt more
  have above : 0 + m < e.buffer.lines.length := Nat.lt_of_succ_lt (line_lt_of_position inside here)
  have moved := movedTo_moveTo_of_lt (p := ⟨0 + m, c⟩) above
  have up : e.moveUp = e.moveTo ⟨0 + m, c⟩ := by
    simp only [moveUp, here]
  rw [up, Nat.add_sub_cancel]
  exact moved

private theorem moveHome_moveHome : e.moveHome.moveHome = e.moveHome := by
  have home := movedTo_moveHome inside here
  have again := movedTo_moveHome home.inside home.position
  rw [← home.position] at again
  exact again.eq_self home.inside

private theorem moveEnd_moveEnd : e.moveEnd.moveEnd = e.moveEnd := by
  have atEnd := movedTo_moveEnd inside here
  have again := movedTo_moveEnd atEnd.inside atEnd.position
  have buffer : e.moveEnd.buffer = e.buffer := rfl
  rw [buffer, ← atEnd.position] at again
  exact again.eq_self atEnd.inside

private theorem moveUp_moveDown (more : l + 1 < e.buffer.lines.length)
    (long : c ≤ e.buffer.lineLength (l + 1)) : e.moveDown.moveUp = e := by
  have down := movedTo_moveDown here more
  rw [Nat.min_eq_left long] at down
  have up := movedTo_moveUp down.inside down.position (Nat.succ_pos l)
  have buffer : e.moveDown.buffer = e.buffer := rfl
  rw [Nat.add_sub_cancel, buffer, Nat.min_eq_left (col_le_of_position inside here), ← here] at up
  exact up.unique (down.back inside)

private theorem moveDown_moveUp (more : 0 < l) (long : c ≤ e.buffer.lineLength (l - 1)) :
    e.moveUp.moveDown = e := by
  have up := movedTo_moveUp inside here more
  rw [Nat.min_eq_left long] at up
  have buffer : e.moveUp.buffer = e.buffer := by rw [up.rest]
  have there : l - 1 + 1 < e.moveUp.buffer.lines.length := by
    have line := line_lt_of_position inside here
    rw [buffer]
    omega
  have down := movedTo_moveDown up.position there
  rw [Nat.sub_add_cancel more, buffer, Nat.min_eq_left (col_le_of_position inside here),
    ← here] at down
  exact down.unique (up.back inside)

end

private theorem moveUp_of_first (here : e.position = ⟨0, c⟩) : e.moveUp = e := by
  simp only [moveUp, here]

/-! ## Keys -/

private theorem MovedTo.press_of_leaves {key : Key} (h : e.MovedTo p f) (free : e.config.Leaves key)
    (files : FileTree) (now : Nat) :
    f.press files now key = ⟨f.type key, files, [], .proceed⟩ := by
  have config : f.config = e.config := by rw [h.rest]
  rw [← config] at free
  exact Editor.press_of_leaves free files now

/-- With the caret in line `l` and column `c`, a key that is not bound moves it like this. Down goes
to line `l + 1` and Up to line `l - 1`, in column `c` or at the end of a shorter line; in the last
and in the first line they leave the caret where it is. Home and End go to the ends of line `l`, as
long as its length is a word, and a second press of theirs changes nothing. Nothing but the caret is
changed. Up takes a press of Down back, and Down one of Up, if the other line is there and not too
short. -/
theorem press_moves_by_lines (inside : e.caret ≤ e.buffer.length) (here : e.position = ⟨l, c⟩)
    (files : FileTree) (now : Nat) {key : Key} (free : e.config.Leaves key) :
    let n := (e.buffer.splitOn '\n').length
    let w := e.buffer.lineLength
    ∃ f, e.press files now key = ⟨f, files, [], .proceed⟩ ∧
      (key.code = .down → (l = n - 1 → f = e) ∧
        (l ≠ n - 1 → e.MovedTo ⟨l + 1, min c (w (l + 1))⟩ f)) ∧
      (key.code = .up → (l = 0 → f = e) ∧ (l ≠ 0 → e.MovedTo ⟨l - 1, min c (w (l - 1))⟩ f)) ∧
      (key.code = .home → e.MovedTo ⟨l, 0⟩ f) ∧
      (key.code = .lineEnd → w l < UInt64.size → e.MovedTo ⟨l, w l⟩ f) ∧
      (key.code = .home ∨ key.code = .lineEnd →
        ∀ later, f.press files later key = ⟨f, files, [], .proceed⟩) ∧
      (∀ back : Key, e.config.Leaves back →
        key.code = .down ∧ back.code = .up ∧ l + 1 < n ∧ c ≤ w (l + 1) ∨
          key.code = .up ∧ back.code = .down ∧ 0 < l ∧ c ≤ w (l - 1) →
        ∀ later, f.press files later back = ⟨e, files, [], .proceed⟩) := by
  intro n w
  have count : n = e.buffer.lines.length := e.buffer.length_splitOn
  have line := line_lt_of_position inside here
  refine ⟨e.type key, press_of_leaves free files now, ?_, ?_, ?_, ?_, ?_, ?_⟩
  · intro down
    simp only [type, down]
    exact ⟨fun last => moveDown_of_last inside here (by omega),
      fun more => movedTo_moveDown here (by omega)⟩
  · intro up
    simp only [type, up]
    constructor
    · rintro rfl
      exact moveUp_of_first here
    · intro more
      exact movedTo_moveUp inside here (Nat.pos_of_ne_zero more)
  · intro home
    simp only [type, home]
    exact movedTo_moveHome inside here
  · intro atEnd fits
    have moved := movedTo_moveEnd inside here
    rw [Nat.min_eq_right (Nat.le_sub_one_of_lt fits)] at moved
    simp only [type, atEnd]
    exact moved
  · rintro (home | atEnd) later
    · simp only [type, home]
      rw [(movedTo_moveHome inside here).press_of_leaves free]
      simp only [type, home, moveHome_moveHome inside here]
    · simp only [type, atEnd]
      rw [(movedTo_moveEnd inside here).press_of_leaves free]
      simp only [type, atEnd, moveEnd_moveEnd inside here]
  · rintro back backFree (⟨down, up, more, long⟩ | ⟨up, down, more, long⟩) later
    · simp only [type, down]
      rw [count] at more
      rw [(movedTo_moveDown here more).press_of_leaves backFree]
      simp only [type, up, moveUp_moveDown inside here more long]
    · simp only [type, up]
      rw [(movedTo_moveUp inside here more).press_of_leaves backFree]
      simp only [type, down, moveDown_moveUp inside here more long]

theorem press_moves_past_empty_line :
    let config : Config := ⟨500, none, [("ctrl+s", .save)]⟩
    let e : Editor := ⟨"s.clj", config, "ab\n\ncd\nx".toList, 5, "", none, false⟩
    let up : Key := { code := .up, shift := true }
    let down : Key := { code := .down }
    let lineEnd : Key := { code := .lineEnd, ctrl := true }
    (e.caret ≤ e.buffer.length ∧ e.position = ⟨2, 1⟩ ∧ config.Leaves up ∧ config.Leaves down ∧
      config.Leaves lineEnd) ∧
    (∃ f, e.press .empty 5 up = ⟨f, .empty, [], .proceed⟩ ∧ e.MovedTo ⟨1, 0⟩ f) ∧
    (∃ f, e.press .empty 5 lineEnd = ⟨f, .empty, [], .proceed⟩ ∧ e.MovedTo ⟨2, 2⟩ f) ∧
    ∃ f, e.press .empty 5 down = ⟨f, .empty, [], .proceed⟩ ∧ e.MovedTo ⟨3, 1⟩ f ∧
      f.press .empty 7 up = ⟨e, .empty, [], .proceed⟩ := by
  intro config e up down lineEnd
  have inside : e.caret ≤ e.buffer.length := by decide
  have here : e.position = ⟨2, 1⟩ := by decide
  have upFree : config.Leaves up := by
    simp only [Config.Leaves, config, up]
    decide +kernel
  have downFree : config.Leaves down := by
    simp only [Config.Leaves, config, down]
    decide +kernel
  have endFree : config.Leaves lineEnd := by
    simp only [Config.Leaves, config, lineEnd]
    decide +kernel
  obtain ⟨f, pressed, -, moved, -⟩ := press_moves_by_lines inside here .empty 5 upFree
  obtain ⟨g, pressedDown, movedDown, -, -, -, -, back⟩ :=
    press_moves_by_lines inside here .empty 5 downFree
  obtain ⟨h, pressedEnd, -, -, -, movedEnd, -⟩ :=
    press_moves_by_lines inside here .empty 5 endFree
  refine ⟨⟨inside, here, upFree, downFree, endFree⟩,
    ⟨f, pressed, (moved rfl).2 (by decide)⟩, ⟨h, pressedEnd, movedEnd rfl (by decide)⟩,
    g, pressedDown, (movedDown rfl).2 (by decide), ?_⟩
  exact back up upFree (.inl ⟨rfl, rfl, by decide, by decide⟩) 7

end Editor

end LispEditor
