import LispEditor.Proofs.Traps
import Mathlib.Data.List.Forall2
import Mathlib.Order.Nat

set_option autoImplicit false
set_option relaxedAutoImplicit false

/-!
# The first surplus of closers

The forward scan keeps a count of the lists of one kind that are open, and stops at a closer instead
of counting below zero. In any text, balanced or not, this is the first character up to which more
closers than openers of the kind stand behind the start. Nothing but the brackets of the kind is
counted, so the other characters can be any.
-/

namespace LispEditor

namespace Delimiter

def IsBracket (k : Delimiter) (c : Char) : Prop :=
  c = k.opener ∨ c = k.closer

/-- Whether `d` is `c`, or stands in its place where neither is a bracket of the kind. -/
def Replaces (k : Delimiter) (c d : Char) : Prop :=
  c = d ∨ ¬ k.IsBracket c ∧ ¬ k.IsBracket d

instance (k : Delimiter) (c : Char) : Decidable (k.IsBracket c) :=
  inferInstanceAs (Decidable (_ ∨ _))

instance (k : Delimiter) (c d : Char) : Decidable (k.Replaces c d) :=
  inferInstanceAs (Decidable (_ ∨ _ ∧ _))

end Delimiter

namespace Text

variable {t u : Text} {k : Delimiter} {c : Char} {depth here start stop : Nat} {cs : List Char}

/-! ## Characters that close more than they open -/

/-- Whether the characters have more closers of the kind than openers, with `depth` more openers
counted that stand in front of them. -/
def Surplus (k : Delimiter) (depth : Nat) (cs : List Char) : Prop :=
  depth + cs.count k.opener < cs.count k.closer

/-- The indices of the characters up to which there is a surplus. -/
def surpluses (k : Delimiter) (depth : Nat) (cs : List Char) : Set Nat :=
  {i | i < cs.length ∧ Surplus k depth (cs.take (i + 1))}

private theorem mem_surpluses_iff {i : Nat} :
    i ∈ surpluses k depth cs ↔ i < cs.length ∧ Surplus k depth (cs.take (i + 1)) :=
  Iff.rfl

private theorem not_surplus_nil : ¬ Surplus k depth [] :=
  Nat.not_lt_zero _

private theorem surplus_opener : Surplus k depth (k.opener :: cs) ↔ Surplus k (depth + 1) cs := by
  have other : k.opener ≠ k.closer := (Delimiter.closer_ne_opener k k).symm
  rw [Surplus, Surplus, List.count_cons_self, List.count_cons_of_ne other]
  omega

private theorem surplus_closer : Surplus k (depth + 1) (k.closer :: cs) ↔ Surplus k depth cs := by
  rw [Surplus, Surplus, List.count_cons_self,
    List.count_cons_of_ne (Delimiter.closer_ne_opener k k)]
  omega

private theorem surplus_of_not_isBracket (plain : ¬ k.IsBracket c) :
    Surplus k depth (c :: cs) ↔ Surplus k depth cs := by
  rw [Delimiter.IsBracket, not_or] at plain
  rw [Surplus, Surplus, List.count_cons_of_ne plain.1, List.count_cons_of_ne plain.2]

private theorem isLeast_surpluses_cons {next : Nat}
    (step : ∀ rest, Surplus k depth (c :: rest) ↔ Surplus k next rest) {i : Nat} :
    IsLeast (surpluses k depth (c :: cs)) i ↔
      ∃ j, i = j + 1 ∧ IsLeast (surpluses k next cs) j := by
  have first : 0 ∉ surpluses k depth (c :: cs) := by
    rintro ⟨-, surplus⟩
    exact not_surplus_nil ((step []).mp surplus)
  have later : ∀ j, j + 1 ∈ surpluses k depth (c :: cs) ↔ j ∈ surpluses k next cs := by
    intro j
    rw [mem_surpluses_iff, mem_surpluses_iff, List.length_cons, List.take_succ_cons, step,
      Nat.add_lt_add_iff_right]
  constructor
  · rintro ⟨here, least⟩
    obtain _ | j := i
    · exact absurd here first
    · refine ⟨j, rfl, (later j).mp here, ?_⟩
      intro l there
      exact Nat.le_of_succ_le_succ (least ((later l).mpr there))
  · rintro ⟨j, rfl, here, least⟩
    refine ⟨(later j).mpr here, ?_⟩
    intro l there
    obtain _ | l := l
    · exact absurd there first
    · exact Nat.succ_le_succ (least ((later l).mp there))

private theorem zero_mem_surpluses : 0 ∈ surpluses k 0 (k.closer :: cs) := by
  refine ⟨Nat.zero_lt_succ _, ?_⟩
  rw [List.take_succ_cons, List.take_zero, Surplus]
  simp

/-! ## The forward scan -/

private theorem matchFrom_of_not_isBracket (plain : ¬ k.IsBracket c) (rest : List Char) :
    matchFrom k depth here (c :: rest) = matchFrom k depth (here + 1) rest := by
  rw [Delimiter.IsBracket, not_or] at plain
  rw [matchFrom.eq_def]
  dsimp only
  rw [if_neg plain.1, if_neg plain.2]

/-- The forward scan stops behind the first character with a surplus. -/
theorem matchFrom_eq_some_iff :
    matchFrom k depth here cs = some stop ↔
      ∃ i, stop = here + i + 1 ∧ IsLeast (surpluses k depth cs) i := by
  induction cs generalizing depth here with
  | nil =>
      constructor
      · intro found
        cases found
      · rintro ⟨i, -, ⟨inside, -⟩, -⟩
        cases inside
  | cons c rest ih =>
      have goesOn : ∀ next, (∀ cs, Surplus k depth (c :: cs) ↔ Surplus k next cs) →
          (matchFrom k next (here + 1) rest = some stop ↔
            ∃ i, stop = here + i + 1 ∧ IsLeast (surpluses k depth (c :: rest)) i) := by
        intro next step
        rw [ih]
        constructor
        · rintro ⟨j, rfl, least⟩
          exact ⟨j + 1, by omega, (isLeast_surpluses_cons step).mpr ⟨j, rfl, least⟩⟩
        · rintro ⟨i, rfl, least⟩
          obtain ⟨j, rfl, later⟩ := (isLeast_surpluses_cons step).mp least
          exact ⟨j, by omega, later⟩
      by_cases bracket : k.IsBracket c
      · obtain rfl | rfl := bracket
        · rw [matchFrom_opener, if_pos rfl]
          exact goesOn _ fun _ => surplus_opener
        · cases depth with
          | zero =>
              rw [matchFrom_closer_zero, Option.some.injEq]
              constructor
              · rintro rfl
                exact ⟨0, rfl, zero_mem_surpluses, fun _ _ => Nat.zero_le _⟩
              · rintro ⟨i, rfl, -, least⟩
                rw [Nat.le_zero.mp (least zero_mem_surpluses)]
          | succ depth =>
              rw [matchFrom_closer_succ]
              exact goesOn _ fun _ => surplus_closer
      · rw [matchFrom_of_not_isBracket bracket]
        exact goesOn _ fun _ => surplus_of_not_isBracket bracket

private theorem matchFrom_of_replaces {ds : List Char} (replaced : List.Forall₂ k.Replaces cs ds) :
    matchFrom k depth here ds = matchFrom k depth here cs := by
  induction replaced generalizing depth here with
  | nil => rfl
  | @cons c d cs ds first _ ih =>
      obtain rfl | ⟨plain, plain'⟩ := first
      · unfold matchFrom
        split_ifs
        · exact ih
        · cases depth with
          | zero => rfl
          | succ depth => exact ih
        · exact ih
      · rw [matchFrom_of_not_isBracket plain, matchFrom_of_not_isBracket plain', ih]

/-! ## The closer of a list -/

/-- Whether the text holds more closers than openers of the kind from behind `start` up to the
character at `i`. -/
def ClosesMore (t : Text) (k : Delimiter) (start i : Nat) : Prop :=
  start < i ∧ i < t.length ∧
    (t.slice ⟨start + 1, i + 1⟩).count k.opener < (t.slice ⟨start + 1, i + 1⟩).count k.closer

instance (t : Text) (k : Delimiter) (start i : Nat) : Decidable (t.ClosesMore k start i) :=
  inferInstanceAs (Decidable (_ ∧ _ ∧ _ < _))

private theorem closesMore_iff {i : Nat} :
    t.ClosesMore k start i ↔ ∃ j ∈ surpluses k 0 (t.drop (start + 1)), i = start + 1 + j := by
  have cut : ∀ j, t.slice ⟨start + 1, start + 1 + j + 1⟩ = (t.drop (start + 1)).take (j + 1) := by
    intro j
    have length : start + 1 + j + 1 - (start + 1) = j + 1 := by omega
    rw [slice, List.drop_take, length]
  constructor
  · rintro ⟨behind, inside, more⟩
    obtain ⟨j, rfl⟩ := Nat.exists_eq_add_of_le behind
    rw [cut] at more
    refine ⟨j, ⟨?_, ?_⟩, rfl⟩
    · rw [List.length_drop]
      omega
    · rw [Surplus, Nat.zero_add]
      exact more
  · rintro ⟨j, ⟨inside, more⟩, rfl⟩
    rw [List.length_drop] at inside
    rw [Surplus, Nat.zero_add, ← cut] at more
    exact ⟨by omega, by omega, more⟩

private theorem isLeast_closesMore_iff {i : Nat} :
    IsLeast {i | t.ClosesMore k start i} i ↔
      ∃ j, i = start + 1 + j ∧ IsLeast (surpluses k 0 (t.drop (start + 1))) j := by
  constructor
  · rintro ⟨here, least⟩
    obtain ⟨j, surplus, rfl⟩ := closesMore_iff.mp here
    refine ⟨j, rfl, surplus, ?_⟩
    intro l there
    exact Nat.le_of_add_le_add_left (least (closesMore_iff.mpr ⟨l, there, rfl⟩))
  · rintro ⟨j, rfl, surplus, least⟩
    refine ⟨closesMore_iff.mpr ⟨j, surplus, rfl⟩, ?_⟩
    intro i there
    obtain ⟨l, surplus', rfl⟩ := closesMore_iff.mp there
    exact Nat.add_le_add_left (least surplus') _

private theorem matchForward?_eq_some_iff :
    t.matchForward? start k = some stop ↔
      ∃ i, stop = i + 1 ∧ IsLeast {i | t.ClosesMore k start i} i := by
  simp only [matchForward?, matchFrom_eq_some_iff, isLeast_closesMore_iff]
  constructor
  · rintro ⟨j, rfl, least⟩
    exact ⟨start + 1 + j, rfl, j, rfl, least⟩
  · rintro ⟨i, rfl, j, rfl, least⟩
    exact ⟨j, rfl, least⟩

private theorem matchForward?_eq_none_iff :
    t.matchForward? start k = none ↔ ∀ i, ¬ t.ClosesMore k start i := by
  constructor
  · intro absent i more
    -- Of the indices with more closers one is the least, and there the scan would stop.
    have least := Nat.isLeast_find ⟨i, more⟩
    rw [matchForward?_eq_some_iff.mpr ⟨_, rfl, least⟩] at absent
    cases absent
  · intro never
    rw [Option.eq_none_iff_forall_ne_some]
    intro stop found
    obtain ⟨i, -, more, -⟩ := matchForward?_eq_some_iff.mp found
    exact never i more

private theorem matchForward?_of_replaces (replaced : List.Forall₂ k.Replaces t u) (start : Nat) :
    u.matchForward? start k = t.matchForward? start k :=
  matchFrom_of_replaces (List.forall₂_drop (start + 1) replaced)

end Text

namespace Checked

/-- The forward scan of any text, from any start that is not the greatest word, has an answer. It
stops behind the least index up to which the characters behind the start have more closers than
openers of the kind, and finds nothing exactly if there is no such index. It gives the same answer
if characters that are no brackets of the kind, such as those of the other kinds, are replaced by
others that are none. -/
theorem matchForward?_stops_at_first_surplus {t : Text} (fits : t.length < 2 ^ 64)
    (k : Delimiter) {start : Nat} (word : start < 2 ^ 64 - 1) :
    matchForward? t start k = .ok (t.matchForward? start k) ∧
    (∀ stop, matchForward? t start k = .ok (some stop) ↔
      ∃ i, stop = i + 1 ∧ IsLeast {i | t.ClosesMore k start i} i) ∧
    (matchForward? t start k = .ok none ↔ ∀ i, ¬ t.ClosesMore k start i) ∧
    ∀ u, List.Forall₂ k.Replaces t u → matchForward? u start k = matchForward? t start k := by
  have answer := matchForward?_eq k fits (show start + 1 < 2 ^ 64 by omega)
  refine ⟨answer, ?_, ?_, ?_⟩
  · intro stop
    rw [answer, Except.ok.injEq, Text.matchForward?_eq_some_iff]
  · rw [answer, Except.ok.injEq, Text.matchForward?_eq_none_iff]
  · intro u replaced
    have fits' : u.length < 2 ^ 64 := replaced.length_eq ▸ fits
    rw [answer, matchForward?_eq k fits' (by omega), Text.matchForward?_of_replaces replaced]

/-- A start without an opener, a list in which brackets of other kinds stand alone, and starts
behind which nothing more is closed, one of them far behind the text. -/
theorem matchForward?_stops_behind_inner_list :
    let t : Text := "(a ] (b\x7d c) d)".toList
    let u : Text := "(a x (b\" c) d)".toList
    (t.length < 2 ^ 64 ∧ List.Forall₂ Delimiter.paren.Replaces t u) ∧
    (matchForward? t 2 .paren = .ok (some 14) ∧ IsLeast {i | t.ClosesMore .paren 2 i} 13) ∧
    matchForward? u 2 .paren = .ok (some 14) ∧
    (∀ i, ¬ t.ClosesMore .paren 13 i) ∧ ∀ i, ¬ t.ClosesMore .bracket (2 ^ 64 - 2) i := by
  intro t u
  have fits : t.length < 2 ^ 64 := by decide
  have replaced : List.Forall₂ Delimiter.paren.Replaces t u := by decide
  obtain ⟨-, stops, -, others⟩ := matchForward?_stops_at_first_surplus fits .paren
    (show 2 < 2 ^ 64 - 1 by decide)
  obtain ⟨-, -, none, -⟩ := matchForward?_stops_at_first_surplus fits .paren
    (show 13 < 2 ^ 64 - 1 by decide)
  obtain ⟨-, -, far, -⟩ := matchForward?_stops_at_first_surplus fits .bracket
    (show 2 ^ 64 - 2 < 2 ^ 64 - 1 by decide)
  have found : matchForward? t 2 .paren = .ok (some 14) := by decide
  refine ⟨⟨fits, replaced⟩, ⟨found, ?_⟩, (others u replaced).trans found,
    none.mp (by decide), far.mp (by decide)⟩
  obtain ⟨i, last, least⟩ := (stops 14).mp found
  obtain rfl : i = 13 := by omega
  exact least

end Checked

end LispEditor
