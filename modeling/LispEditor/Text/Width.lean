import LispEditor.Character.Emoji
import LispEditor.Character.Width

set_option autoImplicit false
set_option relaxedAutoImplicit false

/-!
# Widths of texts

A text takes as many cells as its characters do by themselves, unless some of them flow together: a
line ending of two characters, ligatures of some scripts, and emoji of several characters. The width
is summed up from the end of the text, because what stands behind a character decides.
-/

namespace LispEditor

/-- What stands behind a character, as far as it matters for its width; `joined` tells that a joiner
stands in front of it. -/
inductive Behind where
  | plain
  | lineFeed
  | alef
  | lamed (joined : Bool)
  | coengLetter
  | bugineseYa (joined : Bool)
  | bugineseVowel
  | tifinagh (joined : Bool)
  | tifinaghJoiner
  | lisuTone
  | orkhonI (joined : Bool)
  | kiratE
  | kiratAi
  | emoji (joined : Bool)
  | selector (joined : Bool)
  | modifier
  deriving DecidableEq, Repr

/-- Whether a ligature may be under way that marks without a glyph do not break. -/
def Behind.isLigature : Behind → Bool
  | lamed _ => true
  | coengLetter => true
  | bugineseYa _ => true
  | bugineseVowel => true
  | tifinagh _ => true
  | tifinaghJoiner => true
  | lisuTone => true
  | orkhonI _ => true
  | kiratE => true
  | kiratAi => true
  | _ => false

/-- What stands behind a joiner, seen from in front of the joiner. -/
def Behind.join : Behind → Behind
  | lamed _ => lamed true
  | bugineseYa _ => bugineseYa true
  | tifinagh _ => tifinagh true
  | orkhonI _ => orkhonI true
  | emoji _ => emoji true
  | b => if b.isLigature then b else plain

/-- The code points of marks without a glyph, which do not break a ligature. -/
def ligatureMarkRanges : List CodeRange :=
  [⟨0x034F, 0x034F⟩, ⟨0x17B4, 0x17B5⟩, ⟨0x180B, 0x180D⟩, ⟨0x180F, 0x180F⟩, ⟨0xFE00, 0xFE0F⟩,
    ⟨0xE0100, 0xE01EF⟩]

def lamRanges : List CodeRange :=
  [⟨0x0644, 0x0644⟩, ⟨0x06B5, 0x06B8⟩, ⟨0x076A, 0x076A⟩, ⟨0x08A6, 0x08A6⟩, ⟨0x08C7, 0x08C7⟩]

def alefRanges : List CodeRange :=
  [⟨0x0622, 0x0623⟩, ⟨0x0625, 0x0625⟩, ⟨0x0627, 0x0627⟩, ⟨0x0671, 0x0673⟩, ⟨0x0675, 0x0675⟩,
    ⟨0x0773, 0x0774⟩, ⟨0x0870, 0x0882⟩]

/-- The code points of letters that the sign coeng puts under the letter in front. -/
def coengRanges : List CodeRange :=
  [⟨0x1780, 0x1782⟩, ⟨0x1784, 0x1787⟩, ⟨0x1789, 0x178C⟩, ⟨0x178E, 0x1793⟩, ⟨0x1795, 0x1798⟩,
    ⟨0x179B, 0x179D⟩, ⟨0x17A0, 0x17A0⟩, ⟨0x17A2, 0x17A2⟩, ⟨0x17A7, 0x17A7⟩, ⟨0x17AB, 0x17AC⟩,
    ⟨0x17AF, 0x17AF⟩]

def tifinaghRanges : List CodeRange := [⟨0x2D31, 0x2D65⟩, ⟨0x2D6F, 0x2D6F⟩]

def lisuFirstRanges : List CodeRange := [⟨0xA4F8, 0xA4FB⟩]

def lisuSecondRanges : List CodeRange := [⟨0xA4FC, 0xA4FD⟩]

def emojiModifierRanges : List CodeRange := [⟨0x1F3FB, 0x1F3FF⟩]

def Behind.ofChar (c : Char) : Behind :=
  if CodeRange.covers alefRanges c then .alef
  else if c = '\u05dc' then .lamed false
  else if CodeRange.covers coengRanges c then .coengLetter
  else if c = '\u1a10' then .bugineseYa false
  else if CodeRange.covers tifinaghRanges c then .tifinagh false
  else if CodeRange.covers lisuSecondRanges c then .lisuTone
  else if c.toNat = 0x10C03 then .orkhonI false
  else if c.toNat = 0x16D67 then .kiratE
  else if c.toNat = 0x16D68 then .kiratAi
  else if CodeRange.covers emojiModifierRanges c then .modifier
  else if isEmoji c then .emoji false
  else .plain

/-- What a character adds to the width if it flows together with what stands behind it, and what it
is for the one in front. -/
def ligature? (c : Char) : Behind → Option (Int × Behind)
  | .alef =>
      if CodeRange.covers lamRanges c then some (0, .plain)
      else if isTransparent c then some (0, .alef)
      else none
  | .lamed true => if c = '\u05d0' then some (0, .plain) else none
  | .coengLetter => if c = '\u17d2' then some (-1, .plain) else none
  | .bugineseYa true => if c = '\u1a17' then some (0, .bugineseVowel) else none
  | .bugineseVowel => if c = '\u1a15' then some (0, .plain) else none
  | .tifinagh joined =>
      if c = '\u2d7f' then some (1, .tifinaghJoiner)
      else if joined && CodeRange.covers tifinaghRanges c then some (0, .plain)
      else none
  | .tifinaghJoiner => if CodeRange.covers tifinaghRanges c then some (-1, .plain) else none
  | .lisuTone => if CodeRange.covers lisuFirstRanges c then some (0, .plain) else none
  | .orkhonI true => if c.toNat = 0x10C32 then some (0, .plain) else none
  | .kiratE =>
      if c.toNat = 0x16D67 then some (0, .kiratAi)
      else if c.toNat = 0x16D63 || c.toNat = 0x16D69 then some (0, .plain)
      else none
  | .kiratAi => if c.toNat = 0x16D63 then some (0, .plain) else none
  | .modifier => if isModifiable c then some (0, .emoji false) else none
  | .emoji true =>
      if CodeRange.covers emojiModifierRanges c then some (0, .modifier)
      else if isEmoji c then some (0, .emoji false)
      else none
  | _ => none

/-- What a character adds to the width in front of what stands behind it, and what it is for the one
in front of it. -/
def widthBefore (c : Char) (b : Behind) : Int × Behind :=
  match b with
  | .selector joined =>
      if isSelectable c then (if joined then 0 else 2, .emoji false)
      else ((charWidth c : Int), .ofChar c)
  | b =>
      if c = '\n' then (1, .lineFeed)
      else if c = '\r' && b == .lineFeed then (0, .plain)
      else if c = '\u200d' then (0, b.join)
      else if b.isLigature && CodeRange.covers ligatureMarkRanges c then (0, b)
      else if c = '\ufe0f' then (0, .selector (b == .emoji true))
      else
        match ligature? c b with
        | some result => result
        | none => ((charWidth c : Int), .ofChar c)

/-- The width of a text, and what it is for a character in front of it. -/
def widthFrom : List Char → Int × Behind
  | [] => (0, .plain)
  | c :: cs =>
      let (width, behind) := widthFrom cs
      let (added, behind) := widthBefore c behind
      (width + added, behind)

def textWidth (cs : List Char) : Nat :=
  (widthFrom cs).1.toNat

end LispEditor
