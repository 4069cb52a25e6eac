import LispEditor.Proofs.Checked
import LispEditor.Proofs.Extents
import LispEditor.Proofs.Lines
import Mathlib.Algebra.Group.Nat.Defs

set_option autoImplicit false
set_option relaxedAutoImplicit false

/-!
# No scan traps

On a text of less than 2 ^ 63 characters, well nested or not, no scan and no edit traps, whatever
offset, selection, line or column it is given. Each gives the answer of its namesake for texts.
-/

namespace LispEditor

namespace Checked

variable {t : Text}

/-! ## Steps -/

@[simp]
theorem ok_bind {α β : Type} (a : α) (f : α → Checked β) : (Except.ok a >>= f) = f a :=
  rfl

@[simp]
private theorem pure_eq_ok {α : Type} (a : α) : (pure a : Checked α) = .ok a :=
  rfl

private theorem add_eq {a b : Nat} (fits : a + b < 2 ^ 64) : add a b = .ok (a + b) :=
  if_pos fits

private theorem sub_eq {a b : Nat} (le : b ≤ a) : sub a b = .ok (a - b) :=
  if_pos le

private theorem index_eq {i : Nat} {c : Char} (here : t[i]? = some c) : index t i = .ok c := by
  rw [index, here]

private theorem slice_eq (t : Text) (s : Span) : slice t s = .ok (t.slice s) := by
  have inside : min s.start (t.clamp s.stop) ≤ t.clamp s.stop ∧ t.clamp s.stop ≤ t.length :=
    ⟨Nat.min_le_right .., Nat.min_le_right ..⟩
  have front : t.take (t.clamp s.stop) = t.take s.stop := List.take_eq_take_min.symm
  rw [slice, range, if_pos inside, front, Text.slice]
  rcases Nat.le_total s.start (t.clamp s.stop) with proper | empty
  · rw [Nat.min_eq_left proper]
  · have short : (t.take s.stop).length ≤ t.clamp s.stop := by
      rw [List.length_take]
      exact Nat.le_refl _
    rw [Nat.min_eq_right empty, List.drop_of_length_le short,
      List.drop_of_length_le (Nat.le_trans short empty)]

/-! ## Searches -/

/-- Whether the test of an offset is a test of the character that stands there. -/
def Reads (test : Nat → Checked Bool) (t : Text) (q : Char → Bool) : Prop :=
  ∀ i c, t[i]? = some c → test i = .ok (q c)

private theorem reads_isSolid (t : Text) : Reads (isSolid t) t (!isBlank ·) := by
  intro i c here
  simp [isSolid, index_eq here]

private theorem reads_breaksToken (t : Text) : Reads (breaksToken t) t (!isToken ·) := by
  intro i c here
  simp [breaksToken, here]

private theorem reads_isLineFeed (t : Text) : Reads (isLineFeed t) t (· == '\n') := by
  intro i c here
  simp [isLineFeed, index_eq here]

private theorem firstOf_eq_findIdx? {test : Nat → Checked Bool} {q : Char → Bool}
    (reads : Reads test t q) (i : Nat) :
    firstOf test (t.length - i) i = .ok (((t.drop i).findIdx? q).map (i + ·)) := by
  generalize counted : t.length - i = count
  induction count generalizing i with
  | zero =>
      rw [List.drop_of_length_le (by omega)]
      rfl
  | succ count ih =>
      have inside : i < t.length := by omega
      rw [firstOf, reads i _ (List.getElem?_eq_getElem inside), List.drop_eq_getElem_cons inside,
        List.findIdx?_cons, ok_bind, ih (i + 1) (by omega)]
      cases q t[i] with
      | true => rfl
      | false =>
          simp only [Bool.false_eq_true, if_false, Option.map_map]
          congr 2
          funext j
          simp only [Function.comp]
          omega

/-- The offset of the first of some characters in front of an offset, given nearest first. -/
def topIndex? : List Char → Option Nat
  | [] => none
  | _ :: before => some before.length

private theorem behind_eq {found? : Option Nat} (small : ∀ i ∈ found?, i < 2 ^ 63)
    (otherwise : Nat) :
    behind otherwise found? = .ok ((found?.map (· + 1)).getD otherwise) := by
  cases found? with
  | none => rfl
  | some i =>
      have bound := small i rfl
      exact add_eq (by omega)

private theorem behind_topIndex? {cs : List Char} (short : cs.length < 2 ^ 63) :
    behind 0 (topIndex? cs) = .ok cs.length := by
  cases cs with
  | nil => rfl
  | cons c cs =>
      rw [List.length_cons] at short
      exact add_eq (by omega)

private theorem lastBelow_eq_topIndex? {test : Nat → Checked Bool} {q : Char → Bool}
    (reads : Reads test t q) {stop : Nat} (inside : stop ≤ t.length) :
    lastBelow test stop = .ok (topIndex? ((t.take stop).reverse.dropWhile (!q ·))) := by
  induction stop with
  | zero => rfl
  | succ i ih =>
      obtain ⟨c, here⟩ : ∃ c, t[i]? = some c := ⟨_, List.getElem?_eq_getElem inside⟩
      rw [lastBelow, reads i c here, Text.reverse_take_succ here, ih (by omega), ok_bind]
      cases passed : q c with
      | true =>
          simp only [passed, List.dropWhile_cons, Bool.not_true, Bool.false_eq_true, if_false,
            if_true, topIndex?, Text.length_reverse_take (Nat.le_of_succ_le inside), pure_eq_ok]
      | false => simp [passed]

private theorem solidFrom?_eq (t : Text) (offset : Nat) :
    solidFrom? t offset = .ok (t.solidFrom? offset) :=
  firstOf_eq_findIdx? (reads_isSolid t) offset

private theorem solidBefore?_eq (t : Text) (offset : Nat) :
    solidBefore? t offset = .ok (t.solidBefore? offset) := by
  have front : t.take (t.clamp offset) = t.take offset := List.take_eq_take_min.symm
  have inside := t.clamp_le offset
  rw [solidBefore?, lastBelow_eq_topIndex? (reads_isSolid t) inside, front]
  simp only [Bool.not_not]
  rfl

private theorem tokensEnd_eq {offset : Nat} (inside : offset ≤ t.length) :
    tokensEnd t offset = .ok (offset + ((t.drop offset).takeWhile isToken).length) := by
  have length : t.length = offset + (t.drop offset).length := by
    rw [List.length_drop]
    omega
  rw [tokensEnd, firstOf_eq_findIdx? (reads_breaksToken t), ok_bind, pure_eq_ok,
    List.takeWhile_eq_take_findIdx_not, List.length_take, Nat.min_eq_left List.findIdx_le_length,
    List.findIdx_eq_getD_findIdx?]
  cases (t.drop offset).findIdx? (!isToken ·) with
  | none => exact congrArg _ length
  | some j => rfl

/-! ## Lines -/

private theorem position_eq (short : t.length < 2 ^ 63) (offset : Nat) :
    position t offset = .ok (t.position offset) := by
  have bounds : 0 ≤ t.clamp offset ∧ t.clamp offset ≤ t.length :=
    ⟨Nat.zero_le _, Nat.min_le_right ..⟩
  have front : t.take (t.clamp offset) = t.take offset := List.take_eq_take_min.symm
  have all : (t.take offset).take (t.take offset).length = t.take offset := List.take_length
  have length : (t.take offset).length = t.clamp offset := List.length_take
  -- The line begins behind the characters from its end back to its start.
  have cut : ((t.take offset).reverse.takeWhile (· != '\n')).length +
      ((t.take offset).reverse.dropWhile (· != '\n')).length = t.clamp offset := by
    rw [← List.length_append, List.takeWhile_append_dropWhile, List.length_reverse, length]
  rw [position]
  simp only [range, if_pos bounds, front, List.drop_zero, ok_bind,
    lastBelow_eq_topIndex? (reads_isLineFeed _) (Nat.le_refl _), all]
  have start : behind 0 (topIndex? ((t.take offset).reverse.dropWhile (· != '\n'))) =
      .ok ((t.take offset).reverse.dropWhile (· != '\n')).length :=
    behind_topIndex? (by omega)
  have back : t.clamp offset - ((t.take offset).reverse.dropWhile (· != '\n')).length =
      ((t.take offset).reverse.takeWhile (· != '\n')).length := by omega
  rw [show (fun c : Char => !c == '\n') = (· != '\n') from rfl, start, ok_bind, sub_eq (by omega),
    back]
  rfl

private theorem linesFrom_of_plain {start : Nat} (inside : start ≤ t.length)
    (plain : '\n' ∉ t.drop start) :
    Text.linesFrom start start (t.drop start) = [⟨start, t.length⟩] := by
  have single := Text.linesFrom_append plain start start []
  rw [List.append_nil, List.length_drop, Nat.add_sub_cancel' inside] at single
  exact single

private theorem linesFrom_of_feed {start j : Nat}
    (found : (t.drop start).findIdx? (· == '\n') = some j) :
    Text.linesFrom start start (t.drop start) =
      ⟨start, start + j⟩ ::
        Text.linesFrom (start + j + 1) (start + j + 1) (t.drop (start + j + 1)) := by
  obtain ⟨inside, feed, none⟩ := List.findIdx?_eq_some_iff_getElem.mp found
  have plain : '\n' ∉ (t.drop start).take j := by
    intro here
    obtain ⟨i, bound, same⟩ := List.mem_iff_getElem.mp here
    rw [List.length_take] at bound
    rw [List.getElem_take] at same
    exact none i (by omega) (by simpa using same)
  have cut : t.drop start = (t.drop start).take j ++ '\n' :: t.drop (start + j + 1) := by
    rw [← eq_of_beq feed, Nat.add_assoc, ← List.drop_drop, ← List.drop_eq_getElem_cons inside,
      List.take_append_drop]
  have length : ((t.drop start).take j).length = j := by
    rw [List.length_take]
    omega
  rw [cut, Text.linesFrom_append plain, Text.linesFrom, if_pos rfl, length]

private theorem lineLoop_eq (short : t.length < 2 ^ 63) (line rounds : Nat) {i start : Nat}
    (inside : start ≤ t.length) (enough : t.length < rounds + start) (fewer : i ≤ start)
    (before : i ≤ line) :
    ∃ span, lineLoop t line rounds i start = .ok span ∧
      ((Text.linesFrom start start (t.drop start)).take (line - i + 1)).getLast? = some span := by
  induction rounds generalizing i start with
  | zero => omega
  | succ rounds ih =>
      rw [lineLoop, firstOf_eq_findIdx? (reads_isLineFeed t), ok_bind]
      cases found : (t.drop start).findIdx? (· == '\n') with
      | none =>
          have plain : '\n' ∉ t.drop start := by
            intro here
            simpa using List.findIdx?_eq_none_iff.mp found '\n' here
          refine ⟨⟨start, t.length⟩, ?_, ?_⟩
          · rw [add_eq (by omega)]
            rfl
          · rw [linesFrom_of_plain inside plain, List.take_succ_cons, List.take_nil]
            rfl
      | some j =>
          have bound := (List.findIdx?_eq_some_iff_getElem.mp found).1
          rw [List.length_drop] at bound
          have next := add_eq (show start + j + 1 < 2 ^ 64 by omega)
          have later := add_eq (show i + 1 < 2 ^ 64 by omega)
          simp only [Option.map_some, linesFrom_of_feed found, next, later, ok_bind]
          split_ifs with reached
          · subst reached
            refine ⟨⟨start, start + j⟩, rfl, ?_⟩
            simp
          · have behind : start + j + 1 ≤ t.length := by omega
            obtain ⟨span, run, last⟩ := ih behind (by omega) (show i + 1 ≤ _ by omega) (by omega)
            have steps : line - i = line - (i + 1) + 1 := by omega
            refine ⟨span, run, ?_⟩
            rw [List.take_succ_cons, steps, List.getLast?_cons, last]
            rfl

private theorem offsetAt_eq (short : t.length < 2 ^ 63) (p : Position) :
    offsetAt t p = .ok (t.offsetAt p) := by
  obtain ⟨span, run, last⟩ := lineLoop_eq short p.line (t.length + 1) (Nat.zero_le t.length)
    (Nat.lt_succ_self t.length) (Nat.le_refl 0) (Nat.zero_le p.line)
  have found : (t.lines.take (p.line + 1)).getLast? = some span := last
  have inside := Text.bounds_of_mem_lines (List.mem_of_mem_take (List.mem_of_getLast? found))
  rw [offsetAt, run, ok_bind, Text.offsetAt, found, Span.length, add_eq (by omega)]
  rfl

/-! ## Lists -/

private theorem matchLoop_eq (k : Delimiter) (fits : t.length < 2 ^ 64) {count depth i : Nat}
    (counted : count = t.length - i) (shallow : depth ≤ i) :
    matchLoop t k count depth i = .ok (Text.matchFrom k depth i (t.drop i)) := by
  induction count generalizing depth i with
  | zero =>
      rw [List.drop_of_length_le (by omega)]
      rfl
  | succ count ih =>
      have inside : i < t.length := by omega
      rw [List.drop_eq_getElem_cons inside, matchLoop, List.getElem?_eq_getElem inside]
      unfold Text.matchFrom
      dsimp only
      split_ifs with opens closes level
      · rw [add_eq (by omega), ok_bind, ih (by omega) (by omega)]
      · subst level
        rw [add_eq (by omega)]
        rfl
      · obtain ⟨d, rfl⟩ := Nat.exists_eq_succ_of_ne_zero level
        rw [sub_eq (by omega), ok_bind, ih (by omega) (by omega)]
        rfl
      · exact ih (by omega) (by omega)

theorem matchForward?_eq (k : Delimiter) (fits : t.length < 2 ^ 64) {start : Nat}
    (word : start + 1 < 2 ^ 64) :
    matchForward? t start k = .ok (t.matchForward? start k) := by
  rw [matchForward?, add_eq word, ok_bind, matchLoop_eq k fits rfl (Nat.zero_le _),
    Text.matchForward?]

theorem openLoop_eq (short : t.length < 2 ^ 63) {stop balance : Nat} (inside : stop ≤ t.length)
    (fits : balance + stop ≤ t.length) :
    openLoop t stop balance = .ok (Text.unpairedOpener balance (t.take stop).reverse) := by
  induction stop generalizing balance with
  | zero => rfl
  | succ i ih =>
      obtain ⟨c, here⟩ : ∃ c, t[i]? = some c := ⟨_, List.getElem?_eq_getElem inside⟩
      have length := Text.length_reverse_take (Nat.le_of_succ_le inside)
      rw [openLoop, here, Text.reverse_take_succ here]
      unfold Text.unpairedOpener
      dsimp only
      split_ifs with closes opens level
      · rw [add_eq (by omega), ok_bind, ih (by omega) (by omega)]
      · subst level
        rw [length]
      · obtain ⟨b, rfl⟩ := Nat.exists_eq_succ_of_ne_zero level
        rw [sub_eq (by omega), ok_bind, ih (by omega) (by omega)]
        rfl
      · exact ih (by omega) (by omega)

private theorem enclosing?_eq (short : t.length < 2 ^ 63) (offset : Nat) :
    enclosing? t offset = .ok (t.enclosing? offset) := by
  have inside := t.clamp_le offset
  rw [enclosing?, openLoop_eq short inside (by omega), ok_bind]
  unfold Text.enclosing? Text.openBefore?
  cases found : Text.unpairedOpener 0 (t.take (t.clamp offset)).reverse with
  | none => rfl
  | some start =>
      have before := Text.lt_length_of_unpairedOpener found
      rw [List.length_reverse, List.length_take] at before
      have here : start < t.length := by omega
      simp only [List.getElem?_eq_getElem here, Option.bind_eq_bind, Option.bind_some]
      cases Delimiter.ofOpener? t[start] with
      | none => rfl
      | some kind =>
          have scan := matchForward?_eq kind (show t.length < 2 ^ 64 by omega)
            (show start + 1 < 2 ^ 64 by omega)
          simp only [scan, ok_bind, Option.bind_some]
          cases t.matchForward? start kind with
          | none => rfl
          | some stop => rfl

/-! ## Forms -/

private theorem firstOf_closesString {i : Nat} {last : Char} (here : t[i]? = some last) :
    firstOf (closesString t) (t.length - (i + 1)) (i + 1) =
      .ok ((Text.stringEnd last (i + 1) (t.drop (i + 1))).map (· - 1)) := by
  generalize counted : t.length - (i + 1) = count
  induction count generalizing i last with
  | zero =>
      rw [List.drop_of_length_le (by omega)]
      rfl
  | succ count ih =>
      have inside : i + 1 < t.length := by omega
      obtain ⟨c, next⟩ : ∃ c, t[i + 1]? = some c := ⟨_, List.getElem?_eq_getElem inside⟩
      have cut : t.drop (i + 1) = c :: t.drop (i + 1 + 1) := by
        rw [List.drop_eq_getElem_cons inside, (List.getElem?_eq_some_iff.mp next).2]
      have test : closesString t (i + 1) = .ok (c = '"' && last != '\\') := by
        unfold closesString
        by_cases quote : c = '"'
        · rw [next, quote, if_pos rfl, sub_eq (Nat.le_add_left 1 i), ok_bind, Nat.add_sub_cancel,
            here]
          rfl
        · simp [next, quote]
      rw [firstOf, test, ok_bind, cut, Text.stringEnd, ih next (by omega)]
      split_ifs
      · rfl
      · rfl

private theorem tokensEnd_of_drop {start : Nat} {c : Char} {rest : List Char}
    (back : t.drop start = c :: rest) (token : isToken c = true) :
    tokensEnd t start = .ok (start + 1 + (rest.takeWhile isToken).length) := by
  have inside : start < t.length := by
    have length := congrArg List.length back
    rw [List.length_drop, List.length_cons] at length
    omega
  rw [tokensEnd_eq (by omega), back, List.takeWhile_cons_of_pos token, List.length_cons]
  congr 1
  omega

private theorem add_of_stringEnd (short : t.length < 2 ^ 63) {start stop : Nat} {c : Char}
    (inside : start < t.length)
    (ends : Text.stringEnd c (start + 1) (t.drop (start + 1)) = some stop) :
    add (stop - 1) 1 = .ok stop := by
  have later := Text.lt_of_stringEnd ends
  have bound := Text.le_of_stringEnd ends
  rw [List.length_drop] at bound
  rw [add_eq (by omega), Nat.sub_add_cancel (by omega)]

theorem nextForm?_eq (short : t.length < 2 ^ 63) (offset : Nat) :
    nextForm? t offset = .ok (t.nextForm? offset) := by
  rw [nextForm?, solidFrom?_eq, ok_bind, Text.nextForm?]
  cases found : t.solidFrom? offset with
  | none => rfl
  | some start =>
      rw [Option.bind_eq_bind, Option.bind_some]
      dsimp only
      rw [← List.head?_drop]
      cases back : t.drop start with
      | nil => rfl
      | cons c rest =>
          have here : t[start]? = some c := by
            rw [← List.head?_drop, back]
            rfl
          have inside : start < t.length := (List.getElem?_eq_some_iff.mp here).1
          have after : t.drop (start + 1) = rest := by
            rw [← List.drop_drop, back]
            rfl
          subst after
          simp only [List.head?_cons, add_eq (show start + 1 < 2 ^ 64 by omega), ok_bind,
            enclosing?_eq short, firstOf_closesString here, Text.formAt?, isOpener]
          cases opens : Delimiter.ofOpener? c with
          | some k =>
              rw [Delimiter.ofOpener?_eq_some] at opens
              subst opens
              rw [Text.enclosing?_behind_opener here, Text.matchForward?]
              simp [Function.comp_def]
          | none =>
              simp only [Option.isSome_none, Bool.false_eq_true, if_false]
              split_ifs with quote closes
              · cases ends : Text.stringEnd c (start + 1) (t.drop (start + 1)) with
                | none => rfl
                | some stop =>
                    simp only [Option.map_some, add_of_stringEnd short inside ends]
                    rfl
              · rfl
              · obtain ⟨d, there, solid⟩ := (Text.firstSolid_of_solidFrom? found).solid
                obtain rfl : c = d := Option.some.inj (here.symm.trans there)
                have token : isToken c = true := by
                  simp [isToken, isOpener, solid, opens, quote, closes]
                rw [tokensEnd_of_drop back token]
                rfl

private theorem childLoop_eq (short : t.length < 2 ^ 63) (list : Span) {rounds current : Nat}
    (last : Option Form) (positive : 0 < rounds) (enough : t.length < rounds + current) :
    childLoop t list (list.stop - 1) rounds current last =
      .ok ((t.formsWithin list.stop current).getLast?.or last) := by
  obtain ⟨rounds, rfl⟩ := Nat.exists_eq_succ_of_ne_zero (Nat.ne_of_gt positive)
  fun_induction Text.formsWithin t list.stop current generalizing rounds last with
  | case1 current inside next => simp [childLoop, inside, nextForm?_eq short, next]
  | case2 current inside f next ends => simp [childLoop, inside, nextForm?_eq short, next, ends]
  | case3 current inside f next within ih =>
      obtain ⟨first, proper, bound⟩ := Text.bounds_of_nextForm? next
      obtain ⟨rounds, rfl⟩ := Nat.exists_eq_succ_of_ne_zero (show rounds ≠ 0 by omega)
      rw [childLoop, if_pos inside, nextForm?_eq short, ok_bind, next]
      dsimp only
      rw [if_neg within, ih _ rounds (by omega) (by omega), List.getLast?_cons]
      cases (t.formsWithin list.stop f.span.stop).getLast? with
      | none => rfl
      | some g => rfl
  | case4 current beyond => simp [childLoop, beyond]

theorem lastChild?_eq (short : t.length < 2 ^ 63) {list : Span} (fits : list.start + 1 < 2 ^ 64) :
    lastChild? t list = .ok (t.lastChild? list) := by
  rw [lastChild?, add_eq fits, ok_bind, childLoop_eq short list none (by omega) (by omega),
    Option.or_none]
  rfl

/-! ## Edits -/

private theorem slurpForward_eq (short : t.length < 2 ^ 63) (offset : Nat) :
    slurpForward t offset = .ok (t.slurpForward offset) := by
  rw [slurpForward, enclosing?_eq short, ok_bind, Text.slurpForward]
  cases around : t.enclosing? (t.clamp offset) with
  | none => rfl
  | some enclosure =>
      obtain ⟨list, kind⟩ := enclosure
      have proper := (Text.delimits_of_enclosing? around).1.proper
      dsimp only
      rw [nextForm?_eq short, ok_bind]
      cases t.nextForm? list.stop with
      | none => rfl
      | some sibling =>
          simp only [sub_eq (show 1 ≤ list.stop by omega), slice_eq, ok_bind, pure_eq_ok]
          simp [Text.slice]

private theorem lt_length_of_solidBefore? {offset last : Nat}
    (h : t.solidBefore? offset = some last) :
    last < t.length := by
  unfold Text.solidBefore? at h
  split at h
  · cases h
  · rename_i c before back
    cases h
    obtain ⟨after, whole⟩ := Text.eq_append_of_solidBack back
    have length := congrArg List.length whole
    rw [List.length_append, List.length_reverse, List.length_cons] at length
    omega

private theorem barfForward_eq (short : t.length < 2 ^ 63) (offset : Nat) :
    barfForward t offset = .ok (t.barfForward offset) := by
  rw [barfForward, enclosing?_eq short, ok_bind, Text.barfForward]
  cases around : t.enclosing? (t.clamp offset) with
  | none => rfl
  | some enclosure =>
      obtain ⟨list, kind⟩ := enclosure
      obtain ⟨delimits, -⟩ := Text.delimits_of_enclosing? around
      have proper := delimits.proper
      have opened := (List.getElem?_eq_some_iff.mp delimits.opens).1
      dsimp only
      rw [lastChild?_eq short (by omega), ok_bind]
      cases t.lastChild? list with
      | none => rfl
      | some child =>
          have gap : behind child.span.start (t.solidBefore? child.span.start) =
              .ok (((t.solidBefore? child.span.start).map (· + 1)).getD child.span.start) :=
            behind_eq (fun i h => Nat.lt_trans (lt_length_of_solidBefore? h) short) _
          simp only [sub_eq (show 1 ≤ list.stop by omega), slice_eq, solidBefore?_eq, gap, ok_bind,
            pure_eq_ok]
          split_ifs with tight
          · simp [Text.slice]
          · simp [Text.slice]

/-! ## The form before the caret -/

private theorem tokenEnd_eq {offset : Nat} (inside : offset ≤ t.length) :
    tokenEnd t offset = .ok (t.tokenEnd offset) := by
  have test : insideToken t offset =
      .ok (0 < offset && (t[offset]?).any isToken && (t[offset - 1]?).any isToken) := by
    unfold insideToken
    split_ifs with here
    · obtain ⟨positive, token⟩ := here
      rw [sub_eq positive, ok_bind]
      simp [positive, token]
    · by_cases positive : 0 < offset
      · have other : (t[offset]?).any isToken = false := by
          simpa [positive] using here
        simp [other]
      · simp [positive]
  rw [tokenEnd, test, ok_bind, Text.tokenEnd]
  split_ifs
  · exact tokensEnd_eq inside
  · rfl

private theorem pairLoop_eq (short : t.length < 2 ^ 63) {stop balance : Nat}
    (inside : stop ≤ t.length) (fits : balance + stop ≤ t.length) (positive : 1 ≤ balance) :
    pairLoop t stop balance = .ok (Text.pairedOpener balance (t.take stop).reverse) := by
  induction stop generalizing balance with
  | zero => rfl
  | succ i ih =>
      obtain ⟨c, here⟩ : ∃ c, t[i]? = some c := ⟨_, List.getElem?_eq_getElem inside⟩
      have length := Text.length_reverse_take (Nat.le_of_succ_le inside)
      rw [pairLoop, here, Text.reverse_take_succ here, Text.pairedOpener, length]
      dsimp only
      split_ifs with closes opens level
      · rw [add_eq (by omega), ok_bind, ih (by omega) (by omega) (by omega)]
      · rw [sub_eq positive, ok_bind, if_pos level]
        rfl
      · rw [sub_eq positive, ok_bind, if_neg level, ih (by omega) (by omega) (by omega)]
      · exact ih (by omega) (by omega) positive

theorem pairLoop_of_closer (short : t.length < 2 ^ 63) {i : Nat} {c : Char} (here : t[i]? = some c)
    (closes : isCloser c = true) :
    pairLoop t (i + 1) 0 = .ok (Text.pairedOpener 0 (t.take (i + 1)).reverse) := by
  have inside : i < t.length := (List.getElem?_eq_some_iff.mp here).1
  rw [pairLoop, here, Text.reverse_take_succ here, Text.pairedOpener]
  dsimp only
  rw [if_pos closes, if_pos closes, add_eq (by omega), ok_bind,
    pairLoop_eq short (by omega) (by omega) (by omega)]

private theorem lastBelow_opensString {stop : Nat} (inside : stop ≤ t.length) :
    lastBelow (opensString t) stop = .ok (Text.stringStart (t.take stop).reverse) := by
  induction stop with
  | zero => rfl
  | succ i ih =>
      obtain ⟨c, here⟩ : ∃ c, t[i]? = some c := ⟨_, List.getElem?_eq_getElem inside⟩
      have length := Text.length_reverse_take (Nat.le_of_succ_le inside)
      have test : opensString t i =
          .ok (c = '"' && (t.take i).reverse.head? != some '\\') := by
        rw [opensString, here, List.head?_reverse]
        by_cases quote : c = '"'
        · cases i with
          | zero => simp [quote]
          | succ j =>
              have before : (t.take (j + 1)).getLast? = t[j]? := by
                simp [List.getLast?_take, List.getElem?_eq_getElem (show j < t.length by omega)]
              rw [before, if_pos (by rw [quote]), if_neg (by omega), sub_eq (by omega), ok_bind]
              simp [quote]
        · simp [quote]
      rw [lastBelow, test, ok_bind, Text.reverse_take_succ here, Text.stringStart, length,
        ih (by omega)]
      split_ifs
      · rfl
      · rfl

private theorem formStart?_eq (short : t.length < 2 ^ 63) {last : Nat} {c : Char}
    (here : t[last]? = some c) :
    formStart? t c last = .ok (Text.formStart? c (t.take last).reverse) := by
  have inside : last < t.length := (List.getElem?_eq_some_iff.mp here).1
  unfold formStart? Text.formStart?
  split_ifs with closes quote
  · rw [pairLoop_of_closer short here closes, Text.reverse_take_succ here]
  · exact lastBelow_opensString (by omega)
  · rw [lastBelow_eq_topIndex? (reads_breaksToken t) inside, Text.reverse_take_succ here, ok_bind]
    have short : ((c :: (t.take last).reverse).dropWhile isToken).length < 2 ^ 63 := by
      have fewer := (List.dropWhile_suffix isToken (l := c :: (t.take last).reverse)).length_le
      rw [List.length_cons, List.length_reverse, List.length_take] at fewer
      omega
    simp only [Bool.not_not, behind_topIndex? short, ok_bind, pure_eq_ok]

private theorem formBefore_eq (short : t.length < 2 ^ 63) (offset : Nat) :
    formBefore t offset = .ok (t.formBefore offset) := by
  rw [formBefore, tokenEnd_eq (t.clamp_le offset), ok_bind, solidBefore?_eq, ok_bind,
    Text.formBefore, Text.solidBefore?]
  cases back : t.solidBack (t.tokenEnd (t.clamp offset)) with
  | nil => rfl
  | cons c before =>
      obtain ⟨after, whole⟩ := Text.eq_append_of_solidBack back
      have here : t[before.length]? = some c := by simp [whole]
      have front : (t.take before.length).reverse = before := by simp [whole]
      have inside : before.length < t.length := (List.getElem?_eq_some_iff.mp here).1
      dsimp only
      rw [add_eq (by omega), ok_bind, here]
      dsimp only
      rw [formStart?_eq short here, front, ok_bind]
      cases Text.formStart? c before with
      | none => rfl
      | some start => rfl

private theorem evalTarget_eq (short : t.length < 2 ^ 63) (offset : Nat) (selection : Option Span) :
    evalTarget t offset selection = .ok (t.evalTarget offset selection) := by
  unfold evalTarget Text.evalTarget
  cases selection.bind t.selected? with
  | some span =>
      simp only [pure_eq_ok, ok_bind, slice_eq]
      rfl
  | none =>
      simp only [formBefore_eq short, ok_bind]
      cases t.formBefore offset with
      | error e => rfl
      | ok span =>
          simp only [slice_eq, ok_bind]
          rfl

/-- On any text of less than 2 ^ 63 characters, for any offset, selection, span, line and column: no
sum overflows, no difference goes below zero, no index and no range leaves the text, and every loop
comes to its end. Among the differences are those that lower the depth and the balance of the
bracket scans, and the one that takes the closer off the list of an edit. -/
theorem scans_never_trap {t : Text} (short : t.length < 2 ^ 63) :
    (∀ offset, enclosing? t offset = .ok (t.enclosing? offset)) ∧
      (∀ offset, nextForm? t offset = .ok (t.nextForm? offset)) ∧
      (∀ offset, slurpForward t offset = .ok (t.slurpForward offset)) ∧
      (∀ offset, barfForward t offset = .ok (t.barfForward offset)) ∧
      (∀ offset, formBefore t offset = .ok (t.formBefore offset)) ∧
      (∀ offset selection, evalTarget t offset selection = .ok (t.evalTarget offset selection)) ∧
      (∀ span, slice t span = .ok (t.slice span)) ∧
      (∀ offset, position t offset = .ok (t.position offset)) ∧
      (∀ p, offsetAt t p = .ok (t.offsetAt p)) :=
  ⟨enclosing?_eq short, nextForm?_eq short, slurpForward_eq short, barfForward_eq short,
    formBefore_eq short, evalTarget_eq short, slice_eq t, position_eq short, offsetAt_eq short⟩

/-- Brackets that close the wrong kind or nothing, and a string that never ends. -/
theorem scans_never_trap_of_crossing :
    let t : Text := [')', 'a', ' ', '(', 'b', ']', '[', '"']
    t.length < 2 ^ 63 ∧ formBefore t 6 = .ok (.ok ⟨3, 6⟩) ∧
      formBefore t (2 ^ 64 - 1) = .ok (.error .noForm) ∧
      enclosing? t (2 ^ 64 - 1) = .ok none ∧ nextForm? t 3 = .ok none := by
  intro t
  have short : t.length < 2 ^ 63 := by decide
  obtain ⟨around, next, -, -, before, -⟩ := scans_never_trap short
  exact ⟨short, before 6, before (2 ^ 64 - 1), around (2 ^ 64 - 1), next 3⟩

end Checked

end LispEditor
