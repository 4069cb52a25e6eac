import LispEditor.Toml.Writer
import Mathlib.Tactic.IntervalCases
import Mathlib.Tactic.SplitIfs

set_option autoImplicit false
set_option relaxedAutoImplicit false

/-!
# Reading back quoted texts

Whichever form the writer chooses for a key or a string, the reader gives the text back, whatever
stands behind it.
-/

namespace LispEditor

namespace Toml

/-! ## Escapes -/

private theorem hexDigit?_hexDigit {n : Nat} (small : n < 16) :
    hexDigit? (hexDigit n) = some n := by
  interval_cases n <;> rfl

private theorem codePoint?_hexDigits {c : Char} (small : c.toNat < 256) :
    codePoint? ['0', '0', hexDigit (c.toNat / 16), hexDigit (c.toNat % 16)] = some c := by
  have high : hexDigit? (hexDigit (c.toNat / 16)) = some (c.toNat / 16) :=
    hexDigit?_hexDigit (by omega)
  have low : hexDigit? (hexDigit (c.toNat % 16)) = some (c.toNat % 16) :=
    hexDigit?_hexDigit (by omega)
  have zero : hexDigit? '0' = some 0 := rfl
  have joined : 16 * (c.toNat / 16) + c.toNat % 16 = c.toNat := by omega
  have valid : c.toNat.isValidChar := c.valid
  simp [codePoint?, high, low, zero, joined, valid]

private theorem toNat_lt_of_isControl {c : Char} (control : isControl c = true) :
    c.toNat < 256 := by
  simp only [isControl, Bool.or_eq_true, Bool.and_eq_true, decide_eq_true_eq, beq_iff_eq] at control
  omega

private theorem letter_of_escape? {e c : Char} (h : escape? e = some c) :
    e ≠ 'x' ∧ e ≠ 'u' ∧ e ≠ 'U' ∧ e ≠ '\n' ∧ e ≠ '\r' ∧ isGap e = false := by
  refine ⟨?_, ?_, ?_, ?_, ?_, ?_⟩
  iterate 5 (rintro rfl; cases h)
  rw [Bool.eq_false_iff]
  intro gap
  simp only [isGap, Bool.or_eq_true, beq_iff_eq] at gap
  rcases gap with rfl | rfl <;> cases h

/-- A written character is a character that stands for itself, a letter behind a backslash, or a
code point behind a backslash. -/
theorem writeChar_cases (c : Char) :
    (writeChar c = [c] ∧ isControl c = false ∧ c ≠ '\\') ∨
      (∃ e, writeChar c = ['\\', e] ∧ escape? e = some c) ∨
      ∃ x y, writeChar c = ['\\', 'u', '0', '0', x, y] ∧ codePoint? ['0', '0', x, y] = some c := by
  unfold writeChar
  split_ifs with h₁ h₂ h₃ h₄ h₅ h₆ control
  · exact .inr (.inl ⟨'b', rfl, by rw [h₁]; rfl⟩)
  · exact .inr (.inl ⟨'t', rfl, by rw [h₂]; rfl⟩)
  · exact .inr (.inl ⟨'f', rfl, by rw [h₃]; rfl⟩)
  · exact .inr (.inl ⟨'r', rfl, by rw [h₄]; rfl⟩)
  · exact .inr (.inl ⟨'n', rfl, by rw [h₅]; rfl⟩)
  · exact .inr (.inl ⟨'\\', rfl, by rw [h₆]; rfl⟩)
  · exact .inr (.inr ⟨_, _, rfl, codePoint?_hexDigits (toNat_lt_of_isControl control)⟩)
  · exact .inl ⟨rfl, eq_false_of_ne_true control, h₆⟩

private theorem exists_writeChar_eq_cons (c : Char) :
    ∃ d tail, writeChar c = d :: tail ∧ (d = '\\' ∨ d = c ∧ isControl c = false) := by
  obtain ⟨h, shown, -⟩ | ⟨e, h, -⟩ | ⟨x, y, h, -⟩ := writeChar_cases c
  · exact ⟨c, [], h, .inr ⟨rfl, shown⟩⟩
  · exact ⟨_, _, h, .inl rfl⟩
  · exact ⟨_, _, h, .inl rfl⟩

/-- A reader of characters between quotes takes a character that needs no escape as it is, and gives
the character that an escape stands for. -/
structure UndoesEscapes (body : Reader (List Char)) : Prop where
  plain {c : Char} (rest : List Char) (quote : c ≠ '"') (slash : c ≠ '\\')
    (shown : isControl c = false) : body (c :: rest) = consRead [c] (body rest)
  escape {e c : Char} (rest : List Char) (stands : escape? e = some c) :
    body ('\\' :: e :: rest) = consRead [c] (body rest)
  code {x y c : Char} (rest : List Char) (stands : codePoint? ['0', '0', x, y] = some c) :
    body ('\\' :: 'u' :: '0' :: '0' :: x :: y :: rest) = consRead [c] (body rest)

private theorem UndoesEscapes.read_writeChar {body : Reader (List Char)}
    (undoes : UndoesEscapes body) {c : Char} (quote : c ≠ '"') (rest : List Char) :
    body (writeChar c ++ rest) = consRead [c] (body rest) := by
  obtain ⟨written, shown, slash⟩ | ⟨e, written, stands⟩ | ⟨x, y, written, stands⟩ :=
    writeChar_cases c
  · rw [written]
    exact undoes.plain rest quote slash shown
  · rw [written]
    exact undoes.escape rest stands
  · rw [written]
    exact undoes.code rest stands

/-! ## Basic strings -/

private theorem undoesEscapes_basicBody : UndoesEscapes basicBody where
  plain rest quote slash shown := by
    rw [basicBody, shown]
    all_goals grind
  escape rest stands := by
    obtain ⟨x, u, U, -⟩ := letter_of_escape? stands
    rw [basicBody, stands]
    all_goals grind
  code rest stands := by
    rw [basicBody, consCode, stands]

private theorem basicBody_basicChars (cs rest : List Char) :
    basicBody (basicChars cs ++ '"' :: rest) = some (cs, rest) := by
  induction cs with
  | nil => rfl
  | cons c cs ih =>
      rw [basicChars, List.flatMap_cons, ← basicChars, List.append_assoc]
      by_cases quote : c = '"'
      · subst quote
        have stands : escape? '"' = some '"' := rfl
        rw [if_pos rfl, List.cons_append, List.singleton_append,
          undoesEscapes_basicBody.escape _ stands, ih]
        rfl
      · rw [if_neg quote, undoesEscapes_basicBody.read_writeChar quote, ih]
        rfl

private theorem exists_basicChars_eq_cons (c : Char) (cs : List Char) :
    ∃ d tail, basicChars (c :: cs) = d :: tail ∧ d ≠ '"' := by
  rw [basicChars, List.flatMap_cons]
  split_ifs with quote
  · exact ⟨_, _, rfl, by decide⟩
  · obtain ⟨d, tail, written, first⟩ := exists_writeChar_eq_cons c
    refine ⟨d, _, by rw [written]; rfl, ?_⟩
    obtain rfl | ⟨rfl, -⟩ := first
    · decide
    · exact quote

/-! ## Literal strings -/

private theorem literalBody_append {cs : List Char} (rest : List Char)
    (fits : fitsLiteral cs = true) :
    literalBody (cs ++ '\'' :: rest) = some (cs, rest) := by
  induction cs with
  | nil => rfl
  | cons c cs ih =>
      simp only [fitsLiteral, isOneLine, List.all_cons, List.contains_cons, Bool.and_eq_true,
        Bool.not_eq_true', Bool.or_eq_false_iff, beq_eq_false_iff_ne] at fits ih
      obtain ⟨⟨shown, showns⟩, quote, quotes⟩ := fits
      rw [List.cons_append, literalBody, if_neg (Ne.symm quote), shown, if_neg Bool.false_ne_true,
        ih ⟨showns, quotes⟩]
      rfl

/-! ## Basic strings of several lines -/

private theorem ne_of_shown {c d : Char} (shown : isControl c = false)
    (control : isControl d = true) :
    c ≠ d := by
  rintro rfl
  rw [control] at shown
  cases shown

theorem newline?_of_ne {c : Char} (rest : List Char) (feed : c ≠ '\n') (back : c ≠ '\r') :
    newline? (c :: rest) = none := by
  rw [newline?]
  · rintro _ ⟨rfl, -⟩
    exact feed rfl
  · rintro _ ⟨rfl, -⟩
    exact back rfl

private theorem undoesEscapes_longBasicBody : UndoesEscapes (longBasicBody false) where
  plain rest quote slash shown := by
    have feed := ne_of_shown shown (d := '\n') rfl
    have back := ne_of_shown shown (d := '\r') rfl
    rw [longBasicBody, shown]
    all_goals grind
  escape {e c} rest stands := by
    obtain ⟨x, u, U, feed, back, gap⟩ := letter_of_escape? stands
    have apart : joinsLines (e :: rest) = false := by
      rw [joinsLines, List.dropWhile_cons_of_neg (by simp [gap]), newline?_of_ne rest feed back]
      rfl
    rw [longBasicBody, apart, stands]
    all_goals grind
  code rest stands := by
    rw [longBasicBody, consCode, stands]

private theorem longBasicBody_quote {rest : List Char} (few : ¬ ['"', '"'] <+: rest) :
    longBasicBody false ('"' :: rest) = consRead ['"'] (longBasicBody false rest) := by
  have shown : isControl '"' = false := rfl
  rw [longBasicBody, shown]
  all_goals grind

private theorem exists_longBasicChars_eq_cons (quotes : Nat) (c : Char) (cs : List Char) :
    ∃ d tail, longBasicChars quotes (c :: cs) = d :: tail ∧
      (d = '\\' ∨ d = c ∧ (isControl c = false ∨ c = '\n') ∧ (c = '"' → quotes < 2)) := by
  rw [longBasicChars]
  split_ifs with quote few feed
  · exact ⟨_, _, rfl, .inr ⟨quote.symm, .inl (by rw [quote]; rfl), fun _ => few⟩⟩
  · exact ⟨_, _, rfl, .inl rfl⟩
  · exact ⟨_, _, rfl, .inr ⟨feed.symm, .inr feed, fun same => absurd same quote⟩⟩
  · obtain ⟨d, tail, written, first⟩ := exists_writeChar_eq_cons c
    refine ⟨d, _, by rw [written]; rfl, ?_⟩
    obtain escaped | ⟨same, shown⟩ := first
    · exact .inl escaped
    · exact .inr ⟨same, .inl shown, fun same => absurd same quote⟩

private theorem end_of_two_quotes {quotes : Nat} {cs rest : List Char} (behind : 0 < quotes)
    (two : ['"', '"'] <+: longBasicChars quotes cs ++ '"' :: '"' :: '"' :: rest) :
    cs = [] ∨ cs = ['"'] ∧ quotes < 2 := by
  cases cs with
  | nil => exact .inl rfl
  | cons c cs =>
      obtain ⟨d, tail, written, first⟩ := exists_longBasicChars_eq_cons quotes c cs
      have begins : d = '"' := by
        rw [written] at two
        simpa using (List.cons_prefix_cons.mp two).1.symm
      obtain rfl | ⟨rfl, -, few⟩ := first
      · cases begins
      subst begins
      cases cs with
      | nil => exact .inr ⟨rfl, few rfl⟩
      | cons d cs =>
          obtain ⟨e, tail, written, first⟩ := exists_longBasicChars_eq_cons (quotes + 1) d cs
          rw [longBasicChars, if_pos rfl, if_pos (few rfl), written] at two
          obtain ⟨-, two⟩ := List.cons_prefix_cons.mp two
          obtain ⟨rfl, -⟩ := List.cons_prefix_cons.mp two
          obtain impossible | ⟨rfl, -, none⟩ := first
          · cases impossible
          · have := none rfl
            omega

private theorem longBasicBody_longBasicChars {rest : List Char} (apart : rest.head? ≠ some '"')
    (quotes : Nat) (cs : List Char) :
    longBasicBody false (longBasicChars quotes cs ++ '"' :: '"' :: '"' :: rest) =
      some (cs, rest) := by
  have alone : ∀ more, rest ≠ '"' :: more := by
    rintro more rfl
    exact apart rfl
  induction cs generalizing quotes with
  | nil =>
      rw [longBasicChars, List.nil_append, longBasicBody]
      all_goals grind
  | cons c cs ih =>
      rw [longBasicChars]
      split_ifs with quote few feed
      · subst quote
        -- Three quotes in a row close the string, together with up to two that belong to the text.
        by_cases two : ['"', '"'] <+: longBasicChars (quotes + 1) cs ++ '"' :: '"' :: '"' :: rest
        · obtain rfl | ⟨rfl, few⟩ := end_of_two_quotes (Nat.succ_pos quotes) two
          · rw [longBasicChars, List.cons_append, List.nil_append, longBasicBody]
            all_goals grind
          · rw [longBasicChars, if_pos rfl, if_pos few]
            rfl
        · rw [List.cons_append, longBasicBody_quote two, ih]
          rfl
      · subst quote
        have stands : escape? '"' = some '"' := rfl
        rw [List.cons_append, List.cons_append, undoesEscapes_longBasicBody.escape _ stands, ih]
        rfl
      · subst feed
        rw [List.cons_append, longBasicBody, ih]
        rfl
      · rw [List.append_assoc, undoesEscapes_longBasicBody.read_writeChar quote, ih]
        rfl

/-! ## Literal strings of several lines -/

private theorem longestRun_ge (q : Char) (run best : Nat) (cs : List Char) :
    run ≤ longestRun q run best cs ∧ best ≤ longestRun q run best cs := by
  induction cs generalizing run best with
  | nil => exact ⟨Nat.le_max_left _ _, Nat.le_max_right _ _⟩
  | cons c cs ih =>
      rw [longestRun]
      split_ifs
      · have := ih (run + 1) best
        omega
      · have := ih 0 (max run best)
        omega

private theorem longestRun_cons {q c : Char} {run best : Nat} {cs : List Char}
    (few : longestRun q run best (c :: cs) ≤ 2) :
    (c = q → ¬ [q, q] <+: cs) ∧ ∃ run best, longestRun q run best cs ≤ 2 := by
  rw [longestRun] at few
  constructor
  · rintro rfl ⟨more, rfl⟩
    rw [if_pos rfl] at few
    simp only [List.cons_append, List.nil_append, longestRun, if_true] at few
    have := (longestRun_ge c (run + 1 + 1 + 1) best more).1
    omega
  · split_ifs at few
    · exact ⟨_, _, few⟩
    · exact ⟨_, _, few⟩

private theorem longLiteralBody_plain {c : Char} (rest : List Char)
    (quote : c = '\'' → ¬ ['\'', '\''] <+: rest) (shown : isControl c = false ∨ c = '\n') :
    longLiteralBody (c :: rest) = consRead [c] (longLiteralBody rest) := by
  have back : c ≠ '\r' := by
    rintro rfl
    revert shown
    decide
  have passed : (isControl c && c != '\n') = false := by
    obtain shown | rfl := shown
    · rw [shown]
      rfl
    · rfl
  rw [longLiteralBody, passed]
  all_goals grind

private theorem longLiteralBody_append {cs rest : List Char} (apart : rest.head? ≠ some '\'')
    (lines : isLines cs = true) {run best : Nat} (few : longestRun '\'' run best cs ≤ 2) :
    longLiteralBody (cs ++ '\'' :: '\'' :: '\'' :: rest) = some (cs, rest) := by
  have alone : ∀ more, rest ≠ '\'' :: more := by
    rintro more rfl
    exact apart rfl
  induction cs generalizing run best with
  | nil =>
      rw [List.nil_append, longLiteralBody]
      all_goals grind
  | cons c cs ih =>
      simp only [isLines, List.all_cons, Bool.and_eq_true, Bool.or_eq_true, Bool.not_eq_true',
        beq_iff_eq] at lines ih
      obtain ⟨first, run, best, later⟩ := longestRun_cons few
      by_cases two : c = '\'' ∧ ['\'', '\''] <+: cs ++ '\'' :: '\'' :: '\'' :: rest
      · obtain ⟨rfl, two⟩ := two
        rcases cs with _ | ⟨d, _ | ⟨e, cs⟩⟩
        · rw [List.cons_append, List.nil_append, longLiteralBody]
          all_goals grind
        · obtain ⟨rfl, -⟩ := List.cons_prefix_cons.mp two
          rfl
        · obtain ⟨same, two⟩ := List.cons_prefix_cons.mp two
          obtain ⟨same', -⟩ := List.cons_prefix_cons.mp two
          exact absurd ⟨cs, by rw [← same, ← same']; rfl⟩ (first rfl)
      · rw [List.cons_append, longLiteralBody_plain _ (by tauto) lines.1, ih lines.2 later]
        rfl

/-! ## Strings and keys -/

private theorem dropNewline_firstBreak {cs body : List Char}
    (apart : '\n' ∉ cs → ∃ c rest, body = c :: rest ∧ c ≠ '\n' ∧ c ≠ '\r') :
    dropNewline (firstBreak cs ++ body) = body := by
  by_cases feed : '\n' ∈ cs
  · simp [firstBreak, feed, dropNewline, newline?]
  · obtain ⟨c, rest, rfl, feed', back⟩ := apart feed
    simp [firstBreak, feed, dropNewline, newline?_of_ne rest feed' back]

private theorem quoted_writeBasic {rest : List Char} (apart : rest.head? ≠ some '"')
    (cs : List Char) :
    quoted (writeBasic cs ++ rest) = some (cs, rest) := by
  have opened : writeBasic cs ++ rest = '"' :: (basicChars cs ++ '"' :: rest) := by
    simp [writeBasic]
  have short : ∀ more, basicChars cs ++ '"' :: rest ≠ '"' :: '"' :: more := by
    intro more same
    cases cs with
    | nil =>
        obtain rfl : rest = '"' :: more := (List.cons.inj same).2
        exact apart rfl
    | cons c cs =>
        obtain ⟨d, tail, written, other⟩ := exists_basicChars_eq_cons c cs
        rw [written] at same
        exact other (List.cons.inj same).1
  rw [opened, quoted, basicBody_basicChars]
  exact short

private theorem quoted_writeLiteral {cs rest : List Char} (apart : rest.head? ≠ some '\'')
    (fits : fitsLiteral cs = true) : quoted (writeLiteral cs ++ rest) = some (cs, rest) := by
  have opened : writeLiteral cs ++ rest = '\'' :: (cs ++ '\'' :: rest) := by
    simp [writeLiteral]
  have short : ∀ more, cs ++ '\'' :: rest ≠ '\'' :: '\'' :: more := by
    intro more same
    cases cs with
    | nil =>
        obtain rfl : rest = '\'' :: more := (List.cons.inj same).2
        exact apart rfl
    | cons c cs =>
        obtain rfl : c = '\'' := (List.cons.inj same).1
        simp [fitsLiteral] at fits
  rw [opened, quoted, literalBody_append rest fits]
  exact short

private theorem quoted_writeLongBasic {rest : List Char} (apart : rest.head? ≠ some '"')
    (cs : List Char) : quoted (writeLongBasic cs ++ rest) = some (cs, rest) := by
  have opened : writeLongBasic cs ++ rest = '"' :: '"' :: '"' ::
      (firstBreak cs ++ (longBasicChars 0 cs ++ '"' :: '"' :: '"' :: rest)) := by
    simp [writeLongBasic]
  rw [opened, quoted, dropNewline_firstBreak, longBasicBody_longBasicChars apart]
  intro feed
  cases cs with
  | nil => exact ⟨'"', _, rfl, by decide, by decide⟩
  | cons c cs =>
      obtain ⟨d, tail, written, first⟩ := exists_longBasicChars_eq_cons 0 c cs
      refine ⟨d, _, by rw [written]; rfl, ?_⟩
      obtain rfl | ⟨rfl, shown | rfl, -⟩ := first
      · decide
      · exact ⟨ne_of_shown shown rfl, ne_of_shown shown rfl⟩
      · exact absurd List.mem_cons_self feed

private theorem quoted_writeLongLiteral {cs rest : List Char} (apart : rest.head? ≠ some '\'')
    (fits : fitsLongLiteral cs = true) :
    quoted (writeLongLiteral cs ++ rest) = some (cs, rest) := by
  have opened : writeLongLiteral cs ++ rest =
      '\'' :: '\'' :: '\'' :: (firstBreak cs ++ (cs ++ '\'' :: '\'' :: '\'' :: rest)) := by
    simp [writeLongLiteral]
  simp only [fitsLongLiteral, fewInARow, Bool.and_eq_true, decide_eq_true_eq] at fits
  obtain ⟨lines, few⟩ := fits
  rw [opened, quoted, dropNewline_firstBreak, longLiteralBody_append apart lines few]
  intro feed
  cases cs with
  | nil => exact ⟨'\'', _, rfl, by decide, by decide⟩
  | cons c cs =>
      simp only [isLines, List.all_cons, Bool.and_eq_true, Bool.or_eq_true, Bool.not_eq_true',
        beq_iff_eq] at lines
      refine ⟨c, _, rfl, ?_⟩
      obtain ⟨shown | rfl, -⟩ := lines
      · exact ⟨ne_of_shown shown rfl, ne_of_shown shown rfl⟩
      · exact absurd List.mem_cons_self feed

theorem quoted_writeString {rest : List Char} (basic : rest.head? ≠ some '"')
    (literal : rest.head? ≠ some '\'') (cs : List Char) :
    quoted (writeString cs ++ rest) = some (cs, rest) := by
  unfold writeString
  split_ifs with h₁ h₂ h₃ h₄ h₅
  · exact quoted_writeBasic basic cs
  · exact quoted_writeLiteral literal h₂
  · exact quoted_writeLongBasic basic cs
  · exact quoted_writeLongLiteral literal h₄
  · exact quoted_writeLongBasic basic cs
  · exact quoted_writeBasic basic cs

private theorem simpleKey_of_fitsBare {cs : List Char} (rest : List Char) {d : Char}
    (apart : isBare d = false) (fits : fitsBare cs = true) :
    simpleKey (cs ++ d :: rest) = some (String.ofList cs, d :: rest) := by
  simp only [fitsBare, Bool.and_eq_true, Bool.not_eq_true', List.all_eq_true] at fits
  obtain ⟨some, bare⟩ := fits
  have word : (cs ++ d :: rest).takeWhile isBare = cs := by
    rw [List.takeWhile_append_of_pos bare, List.takeWhile_cons_of_neg (by simp [apart]),
      List.append_nil]
  have behind : (cs ++ d :: rest).dropWhile isBare = d :: rest := by
    rw [List.dropWhile_append_of_pos bare, List.dropWhile_cons_of_neg (by simp [apart])]
  cases cs with
  | nil => cases some
  | cons c cs =>
      have basic : c ≠ '"' := by
        rintro rfl
        exact absurd (bare '"' List.mem_cons_self) (by decide)
      have literal : c ≠ '\'' := by
        rintro rfl
        exact absurd (bare '\'' List.mem_cons_self) (by decide)
      rw [simpleKey]
      · rw [word, behind]
      · rintro _ same
        exact basic (List.cons.inj same).1
      · rintro _ same
        exact literal (List.cons.inj same).1

theorem simpleKey_writeKey (cs rest : List Char) {d : Char} (apart : isBare d = false) :
    simpleKey (writeKey cs ++ d :: rest) = some (String.ofList cs, d :: rest) := by
  have basic : simpleKey (writeBasic cs ++ d :: rest) = some (String.ofList cs, d :: rest) := by
    simp [writeBasic, simpleKey, basicBody_basicChars]
  unfold writeKey
  split_ifs with bare _ literal
  · exact simpleKey_of_fitsBare rest apart bare
  · exact basic
  · simp [writeLiteral, simpleKey, literalBody_append _ literal]
  · exact basic

end Toml

end LispEditor
