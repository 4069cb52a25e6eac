import LispEditor.Editor.Basic
import LispEditor.Text.Cluster
import LispEditor.Text.Width

set_option autoImplicit false
set_option relaxedAutoImplicit false

/-!
# The screen

The buffer is drawn in a box with the name of its file, above a line with the caret's position and
the last message. As many lines are left out at the top as it takes to bring the caret's line into
the box, but 65535 at most.

A cell of the screen shows a glyph, a cluster of characters. A glyph that is wider than a cell
leaves the cells behind it blank. In the buffer each character is a glyph of its own.
-/

namespace LispEditor

/-- How a cell is set off. -/
inductive Style where
  | plain
  | caret
  | flash
  | position
  deriving DecidableEq, Repr

/-- A character of the buffer, as it is set off. -/
structure Cell where
  char : Char
  style : Style
  deriving DecidableEq, Repr

/-- What a cell of the screen shows. -/
structure Glyph where
  symbol : List Char
  style : Style
  deriving DecidableEq, Repr

/-- A run of cells in a row with the same style. -/
structure StyleRun where
  start : Nat
  length : Nat
  style : Style
  deriving DecidableEq, Repr

def isControlCode (c : Char) : Bool :=
  c.toNat < 0x20 || (0x7F ≤ c.toNat && c.toNat < 0xA0)

namespace Glyph

def plain (c : Char) : Glyph := ⟨[c], .plain⟩

def blank : Glyph := plain ' '

def width (g : Glyph) : Nat :=
  textWidth g.symbol

def ofText (style : Style) (cs : List Char) : List Glyph :=
  ((clusters cs).filter fun symbol => !symbol.any isControlCode).map (⟨·, style⟩)

/-- The glyph of a character of the buffer, unless it is a control character. -/
def ofCell (cell : Cell) : List Glyph :=
  ofText cell.style [cell.char]

/-- The glyphs in front of the first one that does not fit into what is left of the width. One that
never fits is left out. -/
def cut (width : Nat) : (used : Nat) → List Glyph → List Glyph
  | _, [] => []
  | used, g :: gs =>
      if width < g.width then cut width used gs
      else if width < used + g.width then []
      else g :: cut width (used + g.width) gs

def cells (g : Glyph) : List Glyph :=
  match g.width with
  | 0 => []
  | n + 1 => g :: List.replicate n blank

def row (width : Nat) (gs : List Glyph) : List Glyph :=
  let shown := (cut width 0 gs).flatMap cells
  shown ++ List.replicate (width - shown.length) blank

/-- Draw glyphs over a row from column `x` up to the column `stop`. A glyph that takes no cell is
added to the one in front of it, or to the cell in which the drawing begins. -/
def drawOver (start stop : Nat) : (x : Nat) → (first : Bool) → List Glyph → List Glyph → List Glyph
  | _, _, [], row => row
  | x, first, g :: gs, row =>
      let after := x + g.width
      if stop < after then row
      else
        let add := fun cell : Glyph => (⟨cell.symbol ++ g.symbol, g.style⟩ : Glyph)
        let drawn :=
          if first then row.set x g
          else if x = start then row.modify x add
          else if g.width = 0 then row.modify (x - 1) add
          else row.set x g
        let cleared := (List.range' (x + 1) (g.width - 1)).foldl (·.set · blank) drawn
        drawOver start stop after false gs cleared

/-- Draw texts over a row one behind the other, up to the column `stop`. Each begins where the width
of the one in front of it ends. -/
def drawTexts (stop : Nat) : (x : Nat) → List (List Char) → List Glyph → List Glyph
  | _, [], row => row
  | x, cs :: texts, row =>
      if textWidth cs = 0 then drawTexts stop x texts row
      else if stop ≤ x then row
      else
        drawTexts stop (x + textWidth cs) texts (drawOver x stop x true (ofText .plain cs) row)

/-- The longest runs of a style in a row, from column `x` on; plain cells are left out. -/
def runsFrom : (x : Nat) → List Glyph → List StyleRun
  | _, [] => []
  | x, g :: rest =>
      match g.style, runsFrom (x + 1) rest with
      | .plain, runs => runs
      | style, ⟨start, length, s⟩ :: runs =>
          if start = x + 1 && s = style then ⟨x, length + 1, s⟩ :: runs
          else ⟨x, 1, style⟩ :: ⟨start, length, s⟩ :: runs
      | style, [] => [⟨x, 1, style⟩]

def runs (row : List Glyph) : List StyleRun :=
  runsFrom 0 row

end Glyph

namespace Editor

def cellAt (e : Editor) (flash : Option Span) (offset : Nat) : Cell where
  char := e.buffer[offset]?.getD ' '
  style :=
    if offset = e.caret then .caret
    else if flash.any (·.contains offset) then .flash
    else .plain

/-- The cells of a line. A caret at its end stands on a cell of its own. -/
def lineCells (e : Editor) (flash : Option Span) (line : Span) : List Cell :=
  (List.range' line.start line.length).map (e.cellAt flash) ++
    if e.caret = line.stop then [⟨' ', .caret⟩] else []

def rows (e : Editor) (now : Nat) : List (List Cell) :=
  e.buffer.lines.map (e.lineCells (e.activeFlash? now))

/-- How many lines are left out at the top of a box of the given height, 65535 at most. -/
def scroll (e : Editor) (height : Nat) : Nat :=
  min (e.position.line - (height - 2 - 1)) 65535

/-- The name over the box, with a sign if the buffer was changed. -/
def title (e : Editor) : String :=
  e.path ++ if e.dirty then " [+]" else ""

def titleLines (e : Editor) : List (List Char) :=
  let pieces := splitAtChar '\n' e.title.toList
  let ended := pieces.dropLast.map fun piece =>
    if piece.getLast? = some '\r' then piece.dropLast else piece
  ended ++ pieces.getLast?.toList.filter (!·.isEmpty)

def boxRow (width : Nat) (left : Char) (inside : List Glyph) (right : Char) : List Glyph :=
  (Glyph.plain left :: (inside ++ [Glyph.plain right])).take width

/-- The upper border of the box with the lines of the title in it, one behind the other. -/
def topRow (e : Editor) (width : Nat) : List Glyph :=
  let lines := e.titleLines
  let stop := min (lines.foldl (fun cells line => cells + textWidth line) 0) (width - 2)
  let border := List.replicate (width - 2) (Glyph.plain '─')
  boxRow width '┌' (Glyph.drawTexts stop 0 lines border) '┐'

def bottomRow (width : Nat) : List Glyph :=
  boxRow width '└' (List.replicate (width - 2) (Glyph.plain '─')) '┘'

/-- The rows of the box, the buffer inside. A box of one row is only its upper border. -/
def box (e : Editor) (now width height : Nat) : List (List Glyph) :=
  let lines := (e.rows now).drop (e.scroll height)
  let inside := (List.range (height - 2)).map fun y =>
    boxRow width '│' (Glyph.row (width - 2) ((lines[y]?.getD []).flatMap Glyph.ofCell)) '│'
  (e.topRow width :: (inside ++ [bottomRow width])).take height

/-- The last row: the position of the caret, counted from one, and the message. -/
def statusRow (e : Editor) (width : Nat) : List Glyph :=
  let p := e.position
  let place := " " ++ toString (p.line + 1) ++ ":" ++ toString (p.col + 1) ++ " "
  Glyph.row width (Glyph.ofText .position place.toList ++ Glyph.blank ::
    Glyph.ofText .plain e.status.toList)

def screen (e : Editor) (now width height : Nat) : List (List Glyph) :=
  match height with
  | 0 => []
  | bodyHeight + 1 => e.box now width bodyHeight ++ [e.statusRow width]

end Editor

end LispEditor
