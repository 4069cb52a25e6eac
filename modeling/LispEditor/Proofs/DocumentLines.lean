import LispEditor.Proofs.Quotation
import LispEditor.Toml.Reader
import Mathlib.Data.List.TakeWhile
import Mathlib.Tactic.SplitIfs

set_option autoImplicit false
set_option relaxedAutoImplicit false

/-!
# Reading documents line by line

A document is read one line at a time: a line feed is passed over, a header opens its table, and a
pair sets its key. A pair is stated for any text that reads as a value, and numbers in decimal
digits and strings in the form that the writer chooses are such texts.
-/

namespace LispEditor

namespace Toml

/-! ## Numbers -/

private theorem between_of_isDigit {c : Char} (digit : c.isDigit = true) :
    ('0' ≤ c && c ≤ '9') = true := by
  rw [Bool.and_eq_true, decide_eq_true_eq, decide_eq_true_eq]
  exact Char.isDigit_iff_toNat.mp digit

private theorem hexDigit?_of_isDigit {c : Char} (digit : c.isDigit = true) :
    hexDigit? c = some (c.toNat - '0'.toNat) := by
  rw [hexDigit?, if_pos (between_of_isDigit digit)]

private theorem digitsFrom_of_isDigit {cs : List Char} (digits : ∀ c ∈ cs, c.isDigit = true)
    {after : Bool} (some_digit : after = true ∨ cs ≠ []) :
    digitsFrom 10 after cs = some (cs.map fun c => c.toNat - '0'.toNat) := by
  induction cs generalizing after with
  | nil =>
      obtain rfl | absurd := some_digit
      · rfl
      · exact (absurd rfl).elim
  | cons c cs ih =>
      have digit := digits c List.mem_cons_self
      have bounds := Char.isDigit_iff_toNat.mp digit
      have small : c.toNat - '0'.toNat < 10 := by
        have : '9'.toNat = '0'.toNat + 9 := rfl
        omega
      have score : c ≠ '_' := by
        rintro rfl
        cases digit
      have later := ih (fun d there => digits d (List.mem_cons_of_mem c there)) (.inl rfl)
      rw [digitsFrom, if_neg score, hexDigit?_of_isDigit digit]
      simp only [if_pos small, later]
      rfl

private theorem natural?_toDigits (n : Nat) : natural? 10 (Nat.toDigits 10 n) = some n := by
  have digits : ∀ c ∈ Nat.toDigits 10 n, c.isDigit = true := fun c =>
    Nat.isDigit_of_mem_toDigits (by decide) (by decide)
  rw [natural?, digitsFrom_of_isDigit digits (.inr Nat.toDigits_ne_nil), Option.map_some, ofDigits,
    List.foldl_map, ← Nat.ofDigitChars_eq_foldl, Nat.ofDigitChars_ten_toDigits]

private theorem eq_zero_of_head?_toDigits {n : Nat} (zero : (Nat.toDigits 10 n).head? = some '0') :
    n = 0 := by
  induction n using Nat.strongRecOn with
  | ind n ih =>
      by_cases small : n < 10
      · rw [Nat.toDigits_of_lt_base small] at zero
        exact Nat.digitChar_eq_zero.mp (Option.some.inj zero)
      · have split := Nat.toDigits_of_base_le (b := 10) (by decide) (Nat.not_lt.mp small)
        obtain ⟨c, cs, front⟩ := List.exists_cons_of_ne_nil (Nat.toDigits_ne_nil (n := n / 10))
        rw [split, front] at zero
        have := ih (n / 10) (by omega) (by rw [front]; exact zero)
        omega

private theorem exists_toDigits_eq_cons (n : Nat) :
    ∃ c cs, Nat.toDigits 10 n = c :: cs ∧ c.isDigit = true ∧ (c = '0' → cs = []) := by
  cases written : Nat.toDigits 10 n with
  | nil => exact (Nat.toDigits_ne_nil written).elim
  | cons c cs =>
      have digit : c.isDigit = true := by
        refine Nat.isDigit_of_mem_toDigits (b := 10) (n := n) (by decide) (by decide) ?_
        rw [written]
        exact List.mem_cons_self
      refine ⟨c, cs, rfl, digit, ?_⟩
      rintro rfl
      obtain rfl : n = 0 := eq_zero_of_head?_toDigits (by rw [written]; rfl)
      exact (List.cons.inj written).2.symm

private theorem inRange?_of_lt {n : Nat} (small : n < Nat.pow 2 128) :
    inRange? (n : Int) = some (.integer n) := by
  have low (k : Nat) : -(k : Int) ≤ n := by omega
  have high : (n : Int) < (Nat.pow 2 128 : Int) := Int.ofNat_lt.mpr small
  rw [inRange?, decide_eq_true (low _), decide_eq_true high, Bool.and_self, if_pos rfl]

private theorem integer?_toDigits {n : Nat} (small : n < Nat.pow 2 128) :
    integer? (Nat.toDigits 10 n) = some (.integer n) := by
  obtain ⟨c, cs, written, digit, zero⟩ := exists_toDigits_eq_cons n
  have word : unsigned (c :: cs) = (false, c :: cs) := by
    rw [unsigned]
    · rintro _ same
      obtain ⟨rfl, -⟩ := List.cons.inj same
      cases digit
    · rintro _ same
      obtain ⟨rfl, -⟩ := List.cons.inj same
      cases digit
  have decimal : decimal? (c :: cs) = some n := by
    rw [decimal?]
    · rw [← written, natural?_toDigits]
    · rintro _ _ same
      obtain ⟨rfl, rfl⟩ := List.cons.inj same
      cases zero rfl
  rw [written, integer?]
  · rw [word]
    dsimp only
    rw [decimal, Option.bind_some, if_neg Bool.false_ne_true, inRange?_of_lt small]
  -- Behind a zero no mark of another base follows, because a first zero is the only digit.
  all_goals
    rintro _ same
    obtain ⟨rfl, rfl⟩ := List.cons.inj same
    cases zero rfl

private theorem scalar?_toDigits {n : Nat} (small : n < Nat.pow 2 128) :
    scalar? (Nat.toDigits 10 n) = some (.integer n) := by
  obtain ⟨c, cs, written, digit, -⟩ := exists_toDigits_eq_cons n
  have yes : Nat.toDigits 10 n ≠ ['t', 'r', 'u', 'e'] := by
    intro same
    obtain ⟨rfl, -⟩ := List.cons.inj (written.symm.trans same)
    cases digit
  have no : Nat.toDigits 10 n ≠ ['f', 'a', 'l', 's', 'e'] := by
    intro same
    obtain ⟨rfl, -⟩ := List.cons.inj (written.symm.trans same)
    cases digit
  rw [scalar?, if_neg yes, if_neg no, integer?_toDigits small]
  rfl

private theorem isScalar_of_isDigit {c : Char} (digit : c.isDigit = true) : isScalar c = true := by
  simp [isScalar, isBare, between_of_isDigit digit]

private theorem scalar_toDigits {n : Nat} (small : n < Nat.pow 2 128) (rest : List Char) :
    scalar (Nat.toDigits 10 n ++ '\n' :: rest) = some (.integer n, '\n' :: rest) := by
  have digits : ∀ c ∈ Nat.toDigits 10 n, isScalar c = true := fun c there =>
    isScalar_of_isDigit (Nat.isDigit_of_mem_toDigits (by decide) (by decide) there)
  have feed : ¬ isScalar '\n' = true := by decide
  have word : (Nat.toDigits 10 n ++ '\n' :: rest).takeWhile isScalar = Nat.toDigits 10 n := by
    rw [List.takeWhile_append_of_pos digits, List.takeWhile_cons_of_neg feed, List.append_nil]
  have behind : (Nat.toDigits 10 n ++ '\n' :: rest).dropWhile isScalar = '\n' :: rest := by
    rw [List.dropWhile_append_of_pos digits, List.dropWhile_cons_of_neg feed]
  have split : scalarWord (Nat.toDigits 10 n ++ '\n' :: rest) =
      (Nat.toDigits 10 n, '\n' :: rest) := by
    simp only [scalarWord, word, behind]
    split
    · rename_i same
      cases same
    · rfl
  simp only [scalar, split, scalar?_toDigits small, Option.map_some]

/-! ## Values and keys -/

/-- A text at the end of a line, with no blank in front, that reads as a value. -/
structure ReadsAs (written : List Char) (v : Value) : Prop where
  /-- The text does not begin with a blank. -/
  solid : ∃ c cs, written = c :: cs ∧ isGap c = false
  /-- The reader takes the text and no more. -/
  value_eq (fuel depth : Nat) (rest : List Char) :
    value (fuel + 1) depth (written ++ '\n' :: rest) = some (v, '\n' :: rest)

theorem readsAs_toDigits {n : Nat} (small : n < Nat.pow 2 128) :
    ReadsAs (Nat.toDigits 10 n) (.integer n) := by
  obtain ⟨c, cs, written, digit, -⟩ := exists_toDigits_eq_cons n
  refine ⟨⟨c, cs, written, ?_⟩, fun fuel depth rest => ?_⟩
  · rw [Bool.eq_false_iff]
    intro gap
    simp only [isGap, Bool.or_eq_true, beq_iff_eq] at gap
    rcases gap with rfl | rfl <;> cases digit
  · have number := scalar_toDigits small rest
    rw [written, List.cons_append] at number ⊢
    rw [value, number]
    all_goals
      rintro _ same
      obtain ⟨rfl, -⟩ := List.cons.inj same
      cases digit

private theorem exists_writeString_eq_cons (cs : List Char) :
    ∃ q tail, writeString cs = q :: tail ∧ (q = '"' ∨ q = '\'') := by
  unfold writeString
  split_ifs
  · exact ⟨_, _, rfl, .inl rfl⟩
  · exact ⟨_, _, rfl, .inr rfl⟩
  · exact ⟨_, _, rfl, .inl rfl⟩
  · exact ⟨_, _, rfl, .inr rfl⟩
  · exact ⟨_, _, rfl, .inl rfl⟩
  · exact ⟨_, _, rfl, .inl rfl⟩

private theorem value_of_quote {q : Char} (quote : q = '"' ∨ q = '\'') (fuel depth : Nat)
    (cs : List Char) : value (fuel + 1) depth (q :: cs) =
      (quoted (q :: cs)).map fun (s, rest) => (.string (String.ofList s), rest) := by
  rcases quote with rfl | rfl <;> rw [value]

theorem readsAs_writeString (cs : List Char) :
    ReadsAs (writeString cs) (.string (String.ofList cs)) := by
  obtain ⟨q, tail, written, quote⟩ := exists_writeString_eq_cons cs
  refine ⟨⟨q, tail, written, ?_⟩, fun fuel depth rest => ?_⟩
  · rcases quote with rfl | rfl <;> decide
  · have read : quoted (writeString cs ++ '\n' :: rest) = some (cs, '\n' :: rest) :=
      quoted_writeString (by simp) (by simp) cs
    rw [written, List.cons_append] at read ⊢
    rw [value_of_quote quote, read, Option.map_some]

private theorem exists_writeKey_eq_cons (cs : List Char) :
    ∃ c tail, writeKey cs = c :: tail ∧ isGap c = false ∧ c ∉ ['#', '[', '\n', '\r'] := by
  unfold writeKey
  split_ifs with bare
  · simp only [fitsBare, Bool.and_eq_true, Bool.not_eq_true', List.all_eq_true] at bare
    cases cs with
    | nil => cases bare.1
    | cons c cs =>
        have first : isBare c = true := bare.2 c List.mem_cons_self
        have other {d : Char} (no : isBare d = false) : c ≠ d := by
          rintro rfl
          rw [first] at no
          cases no
        refine ⟨c, cs, rfl, ?_, ?_⟩
        · rw [isGap, beq_false_of_ne (other rfl), beq_false_of_ne (other rfl)]
          rfl
        · simp only [List.mem_cons, List.not_mem_nil, or_false, not_or]
          exact ⟨other rfl, other rfl, other rfl, other rfl⟩
  · exact ⟨_, _, rfl, by decide, by decide⟩
  · exact ⟨_, _, rfl, by decide, by decide⟩
  · exact ⟨_, _, rfl, by decide, by decide⟩

private theorem dottedKey_writeKey (cs rest : List Char) {d : Char} (apart : isBare d = false)
    (single : ((d :: rest).dropWhile isGap).head? ≠ some '.') :
    dottedKey (writeKey cs ++ d :: rest) =
      some (⟨[], String.ofList cs⟩, (d :: rest).dropWhile isGap) := by
  obtain ⟨c, tail, written, gap, -⟩ := exists_writeKey_eq_cons cs
  have solid : (writeKey cs ++ d :: rest).dropWhile isGap = writeKey cs ++ d :: rest := by
    rw [written, List.cons_append, List.dropWhile_cons_of_neg (by simp [gap])]
  have undotted : ∀ more, (d :: rest).dropWhile isGap ≠ '.' :: more := by
    intro more same
    rw [same] at single
    exact single rfl
  have room : maxDepth = 79 + 1 := rfl
  rw [dottedKey, solid, simpleKey_writeKey cs rest apart]
  dsimp only
  rw [room, dottedRest]
  split
  · rename_i more same
    exact absurd same (undotted more)
  · rfl

/-! ## Entries -/

namespace Entries

variable {entries : Entries} {key : String}

private theorem put_append (new : entries.lookup key = none) (v : Value) (more : Entries) :
    put key v (entries ++ more) = entries ++ more.put key v := by
  induction entries with
  | nil => rfl
  | cons entry entries ih =>
      obtain ⟨k, w⟩ := entry
      by_cases same : k = key
      · simp [same] at new
      · have passed : (key == k) = false := beq_false_of_ne (Ne.symm same)
        rw [List.lookup_cons, passed] at new
        rw [List.cons_append, put, if_neg same, ih new]
        rfl

private theorem put_of_new (new : entries.lookup key = none) (v : Value) :
    entries.put key v = entries ++ [(key, v)] := by
  have added := put_append new v []
  rw [List.append_nil] at added
  exact added

private theorem setNew_eq (new : entries.lookup key = none) (v : Value) :
    entries.setNew key v = some (entries ++ [(key, v)]) := by
  rw [setNew, new]
  exact congrArg some (put_of_new new v)

theorem openTable_eq (new : entries.lookup key = none) :
    entries.openTable key = some (entries ++ [(key, .table .header [])]) := by
  rw [openTable, new]
  exact congrArg some (put_of_new new (.table .header []))

theorem alongHeader_last {top sub : Entries} {header : String}
    (outer : top.lookup header = none) (new : sub.lookup key = none) (v : Value) :
    alongHeader (·.assign ⟨[], key⟩ v) [header] (top ++ [(header, .table .header sub)]) =
      some (top ++ [(header, .table .header (sub ++ [(key, v)]))]) := by
  have found : (top ++ [(header, Value.table .header sub)]).lookup header =
      some (.table .header sub) := by
    rw [List.lookup_append, outer, List.lookup_cons_self]
    rfl
  have assigned : sub.assign ⟨[], key⟩ v = some (sub ++ [(key, v)]) := setNew_eq new v
  rw [alongHeader, found]
  dsimp only
  rw [alongHeader, assigned, Option.map_some, put_append outer, put, if_pos rfl]

end Entries

/-! ## Lines -/

variable {draft : Draft} {root : Entries}

private theorem lineEnd_of_solid {c : Char} (cs : List Char) (gap : isGap c = false)
    (comment : c ≠ '#') :
    lineEnd (c :: cs) = newline? (c :: cs) := by
  have solid : (c :: cs).dropWhile isGap = c :: cs :=
    List.dropWhile_cons_of_neg (by simp [gap])
  unfold lineEnd
  rw [solid]
  split <;> grind

theorem document_feed (fuel : Nat) (rest : List Char) :
    document (fuel + 1) draft ('\n' :: rest) = document fuel draft rest := by
  rw [document, List.dropWhile_cons_of_neg (by decide)]
  dsimp only
  rw [lineEnd_of_solid rest (by decide) (by decide), newline?]

private theorem document_line {c : Char} {cs rest : List Char} {next : Draft}
    (gap : isGap c = false) (other : c ∉ ['#', '\n', '\r'])
    (read : expression draft (c :: cs) = some (next, '\n' :: rest)) (fuel : Nat) :
    document (fuel + 1) draft (c :: cs) = document fuel next rest := by
  simp only [List.mem_cons, List.not_mem_nil, or_false, not_or] at other
  obtain ⟨comment, feed, back⟩ := other
  have ended : lineEnd ('\n' :: rest) = some rest := by
    rw [lineEnd_of_solid rest (by decide) (by decide), newline?]
  rw [document, List.dropWhile_cons_of_neg (by simp [gap])]
  dsimp only
  rw [lineEnd_of_solid cs gap comment, newline?_of_ne cs feed back]
  dsimp only
  rw [read, Option.bind_eq_bind, Option.bind_some]
  dsimp only
  rw [ended]
  rfl

private theorem expression_pair {key : String} {written : List Char} {v : Value}
    (reads : ReadsAs written v)
    (set : draft.root.alongHeader (·.assign ⟨[], key⟩ v) draft.header = some root)
    (rest : List Char) :
    expression draft (writeKey key.toList ++ ' ' :: '=' :: ' ' :: (written ++ '\n' :: rest)) =
      some (⟨root, draft.header⟩, '\n' :: rest) := by
  obtain ⟨c, tail, begins, -, other⟩ := exists_writeKey_eq_cons key.toList
  obtain ⟨⟨d, cs, front, solid⟩, read⟩ := reads
  have named : dottedKey (writeKey key.toList ++ ' ' :: '=' :: ' ' :: (written ++ '\n' :: rest)) =
      some (⟨[], key⟩, '=' :: ' ' :: (written ++ '\n' :: rest)) := by
    have := dottedKey_writeKey key.toList ('=' :: ' ' :: (written ++ '\n' :: rest)) (d := ' ')
      (by decide) (by simp [isGap])
    simpa [isGap] using this
  have room : (' ' :: (written ++ '\n' :: rest)).length = (written ++ '\n' :: rest).length + 1 :=
    rfl
  have apart : (' ' :: (written ++ '\n' :: rest)).dropWhile isGap = written ++ '\n' :: rest := by
    rw [List.dropWhile_cons_of_pos (by decide), front, List.cons_append,
      List.dropWhile_cons_of_neg (by simp [solid])]
  rw [expression]
  · simp only [named, Option.bind_eq_bind, Option.bind_some, room, apart, read, set]
  all_goals
    rintro _ same
    rw [begins] at same
    obtain ⟨rfl, -⟩ := List.cons.inj same
    exact other (by decide)

theorem document_pair {key : String} {written : List Char} {v : Value}
    (reads : ReadsAs written v)
    (set : draft.root.alongHeader (·.assign ⟨[], key⟩ v) draft.header = some root) (fuel : Nat)
    (rest : List Char) :
    document (fuel + 1) draft
        (writeKey key.toList ++ ' ' :: '=' :: ' ' :: (written ++ '\n' :: rest)) =
      document fuel ⟨root, draft.header⟩ rest := by
  have read := expression_pair reads set rest
  obtain ⟨c, tail, begins, gap, other⟩ := exists_writeKey_eq_cons key.toList
  rw [begins, List.cons_append] at read ⊢
  exact document_line gap (by simp_all) read fuel

theorem document_header {key : String} (opened : draft.root.openTable key = some root) (fuel : Nat)
    (rest : List Char) :
    document (fuel + 1) draft ('[' :: (writeKey key.toList ++ ']' :: '\n' :: rest)) =
      document fuel ⟨root, [key]⟩ rest := by
  have named : dottedKey (writeKey key.toList ++ ']' :: '\n' :: rest) =
      some (⟨[], key⟩, ']' :: '\n' :: rest) := by
    have := dottedKey_writeKey key.toList ('\n' :: rest) (d := ']') (by decide) (by simp [isGap])
    simpa [isGap] using this
  obtain ⟨c, tail, begins, -, other⟩ := exists_writeKey_eq_cons key.toList
  refine document_line (by decide) (by decide) ?_ fuel
  rw [expression]
  · simp only [named, Option.bind_eq_bind, Option.bind_some, Entries.alongHeader, opened]
    rfl
  · intro _ same
    rw [begins] at same
    obtain ⟨rfl, -⟩ := List.cons.inj same
    exact other (by decide)

end Toml

end LispEditor
