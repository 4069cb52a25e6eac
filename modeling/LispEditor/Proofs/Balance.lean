import LispEditor.Form.Before
import Mathlib.Tactic.Set
import Mathlib.Tactic.SplitIfs

set_option autoImplicit false
set_option relaxedAutoImplicit false

/-!
# Balanced texts

A text is balanced if its delimiters pair off by kind, one pair inside or beside the other. Each of
the scans passes over a balanced text as if it were not there: forward with the delimiters of one
kind, backward with those of all kinds. So an offset behind an opener and a balanced text, in front
of a balanced text and the closer of the kind, has this pair as its enclosing list.
-/

namespace LispEditor

namespace Delimiter

theorem ofOpener?_eq_some {c : Char} {k : Delimiter} : ofOpener? c = some k ↔ c = k.opener := by
  constructor
  · intro h
    unfold ofOpener? at h
    split_ifs at h <;> cases h <;> assumption
  · rintro rfl
    cases k <;> rfl

private theorem ofCloser?_eq_some {c : Char} {k : Delimiter} :
    ofCloser? c = some k ↔ c = k.closer := by
  constructor
  · intro h
    unfold ofCloser? at h
    split_ifs at h <;> cases h <;> assumption
  · rintro rfl
    cases k <;> rfl

@[simp] theorem ofOpener?_opener (k : Delimiter) : ofOpener? k.opener = some k :=
  ofOpener?_eq_some.mpr rfl

@[simp] theorem ofCloser?_closer (k : Delimiter) : ofCloser? k.closer = some k :=
  ofCloser?_eq_some.mpr rfl

@[simp] theorem isOpener_opener (k : Delimiter) : isOpener k.opener = true := by
  cases k <;> rfl

@[simp] theorem isCloser_closer (k : Delimiter) : isCloser k.closer = true := by
  cases k <;> rfl

@[simp] theorem isCloser_opener (k : Delimiter) : isCloser k.opener = false := by
  cases k <;> rfl

@[simp] theorem isOpener_closer (k : Delimiter) : isOpener k.closer = false := by
  cases k <;> rfl

@[simp] theorem isBlank_opener (k : Delimiter) : isBlank k.opener = false := by
  cases k <;> rfl

@[simp] theorem isBlank_closer (k : Delimiter) : isBlank k.closer = false := by
  cases k <;> rfl

@[simp] theorem opener_inj {k l : Delimiter} : k.opener = l.opener ↔ k = l := by
  cases k <;> cases l <;> decide

@[simp] theorem closer_inj {k l : Delimiter} : k.closer = l.closer ↔ k = l := by
  cases k <;> cases l <;> decide

@[simp] theorem closer_ne_opener (k l : Delimiter) : k.closer ≠ l.opener := by
  cases k <;> cases l <;> decide

end Delimiter

theorem exists_opener_of_isOpener {c : Char} (h : isOpener c = true) :
    ∃ k : Delimiter, c = k.opener := by
  obtain ⟨k, found⟩ := Option.isSome_iff_exists.mp h
  exact ⟨k, Delimiter.ofOpener?_eq_some.mp found⟩

theorem exists_closer_of_isCloser {c : Char} (h : isCloser c = true) :
    ∃ k : Delimiter, c = k.closer := by
  obtain ⟨k, found⟩ := Option.isSome_iff_exists.mp h
  exact ⟨k, Delimiter.ofCloser?_eq_some.mp found⟩

private theorem ne_opener_of_isOpener {c : Char} (h : isOpener c = false) (k : Delimiter) :
    c ≠ k.opener := by
  rintro rfl
  simp at h

private theorem ne_closer_of_isCloser {c : Char} (h : isCloser c = false) (k : Delimiter) :
    c ≠ k.closer := by
  rintro rfl
  simp at h

namespace Text

/-- Texts whose delimiters pair off by kind. -/
inductive Balanced : Text → Prop
  | nil : Balanced []
  | plain {c : Char} {rest : Text} :
      isOpener c = false → isCloser c = false → Balanced rest → Balanced (c :: rest)
  | pair (k : Delimiter) {inside rest : Text} :
      Balanced inside → Balanced rest → Balanced (k.opener :: (inside ++ k.closer :: rest))

theorem Balanced.append {t u : Text} (ht : Balanced t) (hu : Balanced u) : Balanced (t ++ u) := by
  induction ht with
  | nil => exact hu
  | plain opens closes _ ih => exact .plain opens closes ih
  | pair k inside _ _ ih =>
      rw [List.cons_append, List.append_assoc, List.cons_append]
      exact .pair k inside ih

theorem Balanced.of_plain {t : Text}
    (h : ∀ c ∈ t, isOpener c = false ∧ isCloser c = false) : Balanced t := by
  induction t with
  | nil => exact .nil
  | cons c rest ih =>
      have first := h c List.mem_cons_self
      exact .plain first.1 first.2 (ih fun d hd => h d (List.mem_cons_of_mem c hd))

theorem Balanced.enclose {t : Text} (k : Delimiter) (h : Balanced t) :
    Balanced (k.opener :: (t ++ [k.closer])) :=
  .pair k h .nil

/-! ## The forward scan -/

theorem matchFrom_opener (k l : Delimiter) (depth here : Nat) (rest : List Char) :
    matchFrom k depth here (l.opener :: rest) =
      matchFrom k (if l = k then depth + 1 else depth) (here + 1) rest := by
  by_cases same : l = k
  · simp [matchFrom, same]
  · simp [matchFrom, same, (Delimiter.closer_ne_opener k l).symm]

private theorem matchFrom_closer_of_ne {k l : Delimiter} (other : l ≠ k) (depth here : Nat)
    (rest : List Char) :
    matchFrom k depth here (l.closer :: rest) = matchFrom k depth (here + 1) rest := by
  simp [matchFrom, other]

theorem matchFrom_closer_zero (k : Delimiter) (here : Nat) (rest : List Char) :
    matchFrom k 0 here (k.closer :: rest) = some (here + 1) := by
  simp [matchFrom]

theorem matchFrom_closer_succ (k : Delimiter) (depth here : Nat) (rest : List Char) :
    matchFrom k (depth + 1) here (k.closer :: rest) = matchFrom k depth (here + 1) rest := by
  simp [matchFrom]

private theorem Balanced.matchFrom_append {t : Text} (h : Balanced t) (k : Delimiter)
    (depth here : Nat) (rest : List Char) :
    matchFrom k depth here (t ++ rest) = matchFrom k depth (here + t.length) rest := by
  induction h generalizing depth here rest with
  | nil => rfl
  | @plain c t opens closes _ ih =>
      have step : matchFrom k depth here (c :: (t ++ rest)) =
          matchFrom k depth (here + 1) (t ++ rest) := by
        simp [matchFrom, ne_opener_of_isOpener opens k, ne_closer_of_isCloser closes k]
      rw [List.cons_append, step, ih, List.length_cons]
      congr 1
      omega
  | @pair l inside t _ _ ihInside ihRest =>
      rw [List.cons_append, List.append_assoc, List.cons_append, matchFrom_opener, ihInside]
      by_cases same : l = k
      · rw [if_pos same, same, matchFrom_closer_succ, ihRest]
        simp only [List.length_cons, List.length_append]
        congr 1
        omega
      · rw [if_neg same, matchFrom_closer_of_ne same, ihRest]
        simp only [List.length_cons, List.length_append]
        congr 1
        omega

theorem Balanced.matchFrom_closer {t : Text} (h : Balanced t) (k : Delimiter) (here : Nat)
    (rest : List Char) :
    matchFrom k 0 here (t ++ k.closer :: rest) = some (here + t.length + 1) := by
  rw [h.matchFrom_append, matchFrom_closer_zero]

private theorem Balanced.closer_unique {u v : Text} (hu : Balanced u) (hv : Balanced v)
    {k : Delimiter} {a b : Text} (same : u ++ k.closer :: a = v ++ k.closer :: b) :
    u = v ∧ a = b := by
  have stopU := hu.matchFrom_closer k 0 a
  rw [same, hv.matchFrom_closer k 0 b, Option.some.injEq] at stopU
  obtain ⟨rfl, tails⟩ := List.append_inj same (by omega)
  exact ⟨rfl, (List.cons.inj tails).2⟩

theorem Balanced.of_append {u v : Text} (hu : Balanced u) (h : Balanced (u ++ v)) : Balanced v := by
  -- On the balanced text in front: its first character decides how the whole text is balanced.
  induction hu with
  | nil => exact h
  | @plain c rest opens closes _ ih =>
      generalize whole : c :: rest ++ v = t at h
      cases h with
      | nil => cases whole
      | plain _ _ back =>
          obtain ⟨-, rfl⟩ := List.cons.inj whole
          exact ih back
      | pair k =>
          obtain ⟨rfl, -⟩ := List.cons.inj whole
          simp at opens
  | @pair k inside rest hInside _ _ ih =>
      rw [List.cons_append, List.append_assoc, List.cons_append] at h
      generalize whole : k.opener :: (inside ++ k.closer :: (rest ++ v)) = t at h
      cases h with
      | nil => cases whole
      | plain opens =>
          obtain ⟨rfl, -⟩ := List.cons.inj whole
          simp at opens
      | pair l hOther back =>
          obtain ⟨first, tails⟩ := List.cons.inj whole
          obtain rfl := Delimiter.opener_inj.mp first
          obtain ⟨-, rfl⟩ := hInside.closer_unique hOther tails
          exact ih back

/-! ## The backward scans -/

private theorem unpairedOpener_closer (k : Delimiter) (balance : Nat) (before : List Char) :
    unpairedOpener balance (k.closer :: before) = unpairedOpener (balance + 1) before := by
  simp [unpairedOpener]

theorem unpairedOpener_opener_zero (k : Delimiter) (before : List Char) :
    unpairedOpener 0 (k.opener :: before) = some before.length := by
  simp [unpairedOpener]

private theorem unpairedOpener_opener_succ (k : Delimiter) (balance : Nat) (before : List Char) :
    unpairedOpener (balance + 1) (k.opener :: before) = unpairedOpener balance before := by
  simp [unpairedOpener]

theorem Balanced.unpairedOpener_append {t : Text} (h : Balanced t) (balance : Nat)
    (before : List Char) :
    unpairedOpener balance (t.reverse ++ before) = unpairedOpener balance before := by
  induction h generalizing balance before with
  | nil => rfl
  | @plain c t opens closes _ ih =>
      rw [List.reverse_cons, List.append_assoc, List.singleton_append, ih]
      simp [unpairedOpener, opens, closes]
  | @pair k inside t _ _ ihInside ihRest =>
      have reversed : (k.opener :: (inside ++ k.closer :: t)).reverse ++ before =
          t.reverse ++ k.closer :: (inside.reverse ++ k.opener :: before) := by
        simp
      rw [reversed, ihRest, unpairedOpener_closer, ihInside, unpairedOpener_opener_succ]

theorem pairedOpener_succ (balance : Nat) (before : List Char) :
    pairedOpener (balance + 1) before = unpairedOpener balance before := by
  induction before generalizing balance with
  | nil => rfl
  | cons c before ih =>
      unfold pairedOpener unpairedOpener
      by_cases closes : isCloser c = true
      · simpa [closes] using ih (balance + 1)
      · by_cases opens : isOpener c = true
        · cases balance with
          | zero => simp [closes, opens]
          | succ balance => simpa [closes, opens] using ih balance
        · simpa [closes, opens] using ih balance

/-! ## The list around an offset -/

@[simp] theorem clamp_clamp (t : Text) (offset : Nat) :
    t.clamp (t.clamp offset) = t.clamp offset := by
  simp [clamp]

theorem clamp_le (t : Text) (offset : Nat) : t.clamp offset ≤ t.length :=
  Nat.min_le_right offset t.length

theorem clamp_of_le {t : Text} {offset : Nat} (h : offset ≤ t.length) : t.clamp offset = offset :=
  Nat.min_eq_left h

theorem enclosing?_clamp (t : Text) (offset : Nat) :
    t.enclosing? (t.clamp offset) = t.enclosing? offset := by
  simp only [enclosing?, clamp_clamp]

theorem Balanced.enclosing?_eq_none {u : Text} (hu : Balanced u) (v : Text) :
    (u ++ v).enclosing? u.length = none := by
  have inside : u.length ≤ (u ++ v).length := by simp
  have scan : (u ++ v).openBefore? u.length = none := by
    have passed := hu.unpairedOpener_append 0 []
    simpa [openBefore?, unpairedOpener] using passed
  simp [enclosing?, clamp_of_le inside, scan]

/-- Between an opener and its closer, with balanced texts on both sides, the list is theirs. -/
theorem enclosing?_of_balanced {u v : Text} (hu : Balanced u) (hv : Balanced v) (k : Delimiter)
    (before after : Text) :
    (before ++ k.opener :: (u ++ (v ++ k.closer :: after))).enclosing?
        (before.length + 1 + u.length) =
      some ⟨⟨before.length, before.length + 1 + u.length + v.length + 1⟩, k⟩ := by
  set t : Text := before ++ k.opener :: (u ++ (v ++ k.closer :: after)) with ht
  have inside : before.length + 1 + u.length ≤ t.length := by
    simp only [ht, List.length_append, List.length_cons]
    omega
  have front : t.take (before.length + 1 + u.length) = before ++ k.opener :: u := by
    have whole : t = (before ++ k.opener :: u) ++ (v ++ k.closer :: after) := by simp [ht]
    rw [whole]
    apply List.take_left'
    simp only [List.length_append, List.length_cons]
    omega
  -- The backward scan counts all kinds together, the forward scan only the kind it has found.
  have back : t.openBefore? (before.length + 1 + u.length) = some before.length := by
    have reversed : (before ++ k.opener :: u).reverse =
        u.reverse ++ k.opener :: before.reverse := by simp
    rw [openBefore?, front, reversed, hu.unpairedOpener_append, unpairedOpener_opener_zero,
      List.length_reverse]
  have first : t[before.length]? = some k.opener := by
    simp [ht]
  have rest : t.drop (before.length + 1) = (u ++ v) ++ k.closer :: after := by
    have whole : t = (before ++ [k.opener]) ++ ((u ++ v) ++ k.closer :: after) := by simp [ht]
    rw [whole]
    apply List.drop_left'
    simp
  have forward : t.matchForward? before.length k =
      some (before.length + 1 + u.length + v.length + 1) := by
    rw [matchForward?, rest, (hu.append hv).matchFrom_closer, List.length_append,
      Nat.add_assoc (before.length + 1) u.length v.length]
  have notBefore :
      ¬ before.length + 1 + u.length + v.length + 1 < before.length + 1 + u.length := by
    omega
  simp [enclosing?, clamp_of_le inside, back, first, forward, notBefore]

end Text

end LispEditor
