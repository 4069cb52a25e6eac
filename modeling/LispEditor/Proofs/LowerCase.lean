import LispEditor.Character.LowerCase
import Mathlib.Data.List.Chain
import Mathlib.Data.List.TakeWhile
import Mathlib.Tactic.SplitIfs

set_option autoImplicit false
set_option relaxedAutoImplicit false

/-!
# Lower-casing twice

Lower-casing gives letters that stand for themselves under lower-casing, so a second time changes
nothing. For the letters of the table this is a property of its runs: the small letters of each run
lie apart from the capital letters of all of them.
-/

namespace LispEditor

namespace CapitalRun

def lastSmall (r : CapitalRun) : Nat :=
  r.small + (r.last - r.first)

/-- Whether the small letters of `r` lie apart from the capital letters of `s`: in front of them,
behind them, or in between where only every second code point is one of them. -/
def apart (r s : CapitalRun) : Bool :=
  r.lastSmall.blt s.first || s.last.blt r.small ||
    ((r.step.beq 2 || r.first.beq r.last) && s.step.beq 2 && ((r.small + s.first) % 2).beq 1)

/-- Whether the small letters of a run are code points, and none is a letter that is lower-cased in
a way of its own, a capital i with a dot above or a capital sigma. -/
def isCommon (r : CapitalRun) : Bool :=
  (r.lastSmall.blt 0xD800 || Nat.blt 0xDFFF r.small && r.lastSmall.blt 0x110000) &&
    (r.lastSmall.blt 0x130 || Nat.blt 0x130 r.small) &&
    (r.lastSmall.blt 0x3A3 || Nat.blt 0x3A3 r.small)

variable {r s : CapitalRun} {n : Nat}

theorem contains_iff : r.contains n = true ↔
    (r.first ≤ n ∧ n ≤ r.last) ∧ (n - r.first) % r.step = 0 := by
  simp only [contains, Bool.and_eq_true, decide_eq_true_eq, beq_iff_eq]

private theorem contains_eq_false_of_apart (h : r.apart s = true) (capital : r.contains n = true) :
    s.contains (r.small + (n - r.first)) = false := by
  simp only [apart, lastSmall, Bool.or_eq_true, Bool.and_eq_true, Nat.blt_eq, Nat.beq_eq] at h
  obtain ⟨⟨first, last⟩, step⟩ := contains_iff.mp capital
  rw [Bool.eq_false_iff, Ne, contains_iff]
  rintro ⟨⟨first', last'⟩, step'⟩
  obtain (inFront | behind) | ⟨⟨two | single, two'⟩, parity⟩ := h
  · omega
  · omega
  · rw [two] at step
    rw [two'] at step'
    omega
  · rw [two'] at step'
    omega

private theorem apart_of_lt_first (h : r.lastSmall < s.first) : r.apart s = true := by
  simp [apart, h]

private theorem apart_of_last_lt (h : s.last < r.small) : r.apart s = true := by
  simp [apart, h]

/-- Where the runs ascend, only those that reach to the first small letter of `r` and do not begin
behind the last one can be in their way. -/
theorem apart_of_mem {runs : List CapitalRun} (ascend : runs.Pairwise (·.first < ·.first))
    (between : ((runs.dropWhile (·.last.blt r.small)).takeWhile
      (!r.lastSmall.blt ·.first)).all r.apart = true) (listed : s ∈ runs) :
    r.apart s = true := by
  have split := List.takeWhile_append_dropWhile (p := (·.last.blt r.small)) (l := runs)
  generalize runs.dropWhile (·.last.blt r.small) = rest at split between
  have split' := List.takeWhile_append_dropWhile (p := (!r.lastSmall.blt ·.first)) (l := rest)
  generalize behind : rest.dropWhile (!r.lastSmall.blt ·.first) = last at split'
  rw [← split', ← List.append_assoc] at split
  rw [← split, List.mem_append, List.mem_append] at listed
  obtain (inFront | near) | far := listed
  · have ends := List.mem_takeWhile_imp inFront
    exact apart_of_last_lt (Nat.blt_eq.mp ends)
  · exact List.all_eq_true.mp between s near
  · cases last with
    | nil => cases far
    | cons first others =>
        have begins : r.lastSmall < first.first := by
          have stops := List.head?_dropWhile_not (!r.lastSmall.blt ·.first) rest
          rw [behind] at stops
          simpa using stops
        rw [← split] at ascend
        have later := (List.pairwise_append.mp ascend).2.1
        obtain rfl | far := List.mem_cons.mp far
        · exact apart_of_lt_first begins
        · exact apart_of_lt_first (Nat.lt_trans begins (List.rel_of_pairwise_cons later far))

end CapitalRun

private theorem capitalRuns_ascend : capitalRuns.Pairwise (·.first < ·.first) := by
  have chain : (capitalRuns.map CapitalRun.first).IsChain (· < ·) := by decide +kernel
  exact List.pairwise_map.mp (List.isChain_iff_pairwise.mp chain)

private theorem capitalRuns_apart : (capitalRuns.all fun r => capitalRuns.all r.apart) = true := by
  have between : (capitalRuns.all fun r => ((capitalRuns.dropWhile (·.last.blt r.small)).takeWhile
      (!r.lastSmall.blt ·.first)).all r.apart) = true := by
    decide +kernel
  rw [List.all_eq_true] at between ⊢
  intro r listed
  rw [List.all_eq_true]
  exact fun s other => CapitalRun.apart_of_mem capitalRuns_ascend (between r listed) other

private theorem capitalRuns_isCommon : capitalRuns.all CapitalRun.isCommon = true := by
  decide +kernel

/-- The character stands for itself under lower-casing, wherever it is. -/
def IsSmall (c : Char) : Prop :=
  c ≠ 'Σ' ∧ lowerChar c = [c]

private theorem isSmall_of_find {c : Char} {r : CapitalRun}
    (found : capitalRuns.find? (·.contains c.toNat) = some r) :
    IsSmall (Char.ofNat (r.small + (c.toNat - r.first))) := by
  have listed : r ∈ capitalRuns := List.mem_of_find?_eq_some found
  have capital : r.contains c.toNat = true := by simpa using List.find?_some found
  obtain ⟨⟨first, last⟩, -⟩ := CapitalRun.contains_iff.mp capital
  have common := List.all_eq_true.mp capitalRuns_isCommon r listed
  simp only [CapitalRun.isCommon, CapitalRun.lastSmall, Bool.or_eq_true, Bool.and_eq_true,
    Nat.blt_eq] at common
  obtain ⟨⟨valid, dotted⟩, sigma⟩ := common
  generalize small : r.small + (c.toNat - r.first) = n
  have code : (Char.ofNat n).toNat = n := by
    have point : n.isValidChar := by
      rw [Nat.isValidChar]
      omega
    rw [Char.ofNat, dif_pos point]
    rfl
  have none : capitalRuns.find? (·.contains n) = none := by
    rw [List.find?_eq_none]
    intro s other
    have apart := List.all_eq_true.mp (List.all_eq_true.mp capitalRuns_apart r listed) s other
    rw [← small, CapitalRun.contains_eq_false_of_apart apart capital]
    exact Bool.false_ne_true
  constructor
  · intro same
    have : n = 0x3A3 := by
      rw [← code, same]
      rfl
    omega
  · have other : Char.ofNat n ≠ 'İ' := by
      intro same
      have : n = 0x130 := by
        rw [← code, same]
        rfl
      omega
    rw [lowerChar, if_neg other, code, none]

private theorem isSmall_of_mem_lowerChar {c d : Char} (sigma : c ≠ 'Σ') (h : d ∈ lowerChar c) :
    IsSmall d := by
  by_cases dotted : c = 'İ'
  · rw [lowerChar, if_pos dotted] at h
    simp only [List.mem_cons, List.not_mem_nil, or_false] at h
    rcases h with rfl | rfl
    · exact ⟨by decide, by decide +kernel⟩
    · exact ⟨by decide, by decide +kernel⟩
  · cases found : capitalRuns.find? (·.contains c.toNat) with
    | some r =>
        rw [lowerChar, if_neg dotted, found] at h
        rw [List.mem_singleton.mp h]
        exact isSmall_of_find found
    | none =>
        have itself : lowerChar c = [c] := by rw [lowerChar, if_neg dotted, found]
        rw [itself] at h
        rw [List.mem_singleton.mp h]
        exact ⟨sigma, itself⟩

private theorem isSmall_of_mem_lowerFrom {before cs : List Char} {d : Char}
    (h : d ∈ lowerFrom before cs) : IsSmall d := by
  induction cs generalizing before with
  | nil => cases h
  | cons c cs ih =>
      rw [lowerFrom, List.mem_append] at h
      obtain here | later := h
      · rw [lowerBetween] at here
        split_ifs at here with sigma
        · rw [List.mem_singleton.mp here]
          exact ⟨by decide, by decide +kernel⟩
        · rw [List.mem_singleton.mp here]
          exact ⟨by decide, by decide +kernel⟩
        · exact isSmall_of_mem_lowerChar sigma here
      · exact ih later

private theorem lowerFrom_eq_self {cs : List Char} (small : ∀ c ∈ cs, IsSmall c)
    (before : List Char) :
    lowerFrom before cs = cs := by
  induction cs generalizing before with
  | nil => rfl
  | cons c cs ih =>
      obtain ⟨sigma, itself⟩ := small c List.mem_cons_self
      have later := ih (fun d there => small d (List.mem_cons_of_mem c there)) (c :: before)
      rw [lowerFrom, lowerBetween, if_neg sigma, itself, later]
      rfl

theorem lowerCase_lowerCase (s : String) : lowerCase (lowerCase s) = lowerCase s := by
  rw [lowerCase, lowerCase, String.toList_ofList,
    lowerFrom_eq_self (fun _ there => isSmall_of_mem_lowerFrom there)]

end LispEditor
