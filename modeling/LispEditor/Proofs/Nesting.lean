import LispEditor.Proofs.Balance

set_option autoImplicit false
set_option relaxedAutoImplicit false

/-!
# Nesting and the list around an offset

A parser with a stack reads a text from left to right: it stacks each opener and pairs each closer
with the opener on top, if the kinds agree. A text is well nested if this succeeds and leaves the
stack empty. The scans behind `Text.enclosing?` have no stack, only one counter each. In a well
nested text they find the parser's pairs all the same: the innermost one around the offset.
-/

namespace LispEditor

/-- An opener and its closer, by their offsets. -/
structure Pair where
  opener : Nat
  closer : Nat
  kind : Delimiter
  deriving DecidableEq, Repr

namespace Pair

def enclosure (p : Pair) : Enclosure :=
  ⟨⟨p.opener, p.closer + 1⟩, p.kind⟩

/-- Whether `offset` is behind the opener and not behind the closer. -/
def Around (p : Pair) (offset : Nat) : Prop :=
  p.opener < offset ∧ offset ≤ p.closer

instance (p : Pair) (offset : Nat) : Decidable (p.Around offset) :=
  inferInstanceAs (Decidable (_ ∧ _))

/-- Whether the pair is around `offset`, and inside all the pairs that are. -/
def Innermost (pairs : List Pair) (offset : Nat) (p : Pair) : Prop :=
  p ∈ pairs ∧ p.Around offset ∧
    ∀ q ∈ pairs, q.Around offset → q.opener ≤ p.opener ∧ p.closer ≤ q.closer

private theorem innermost_iff {pairs : List Pair} {offset : Nat} {p : Pair} (hp : p ∈ pairs)
    (around : p.Around offset)
    (nested : ∀ q ∈ pairs, q.Around offset → q = p ∨ (q.opener < p.opener ∧ p.closer < q.closer))
    (q : Pair) : Innermost pairs offset q ↔ q = p := by
  constructor
  · rintro ⟨hq, aroundQ, inside⟩
    rcases nested q hq aroundQ with same | ⟨before, -⟩
    · exact same
    · have behind := (inside p hp around).1
      omega
  · rintro rfl
    refine ⟨hp, around, ?_⟩
    intro r hr aroundR
    rcases nested r hr aroundR with rfl | ⟨before, behind⟩
    · exact ⟨Nat.le_refl _, Nat.le_refl _⟩
    · exact ⟨Nat.le_of_lt before, Nat.le_of_lt behind⟩

end Pair

/-- The parser between two characters: how many it has read, the open openers, innermost first, and
the pairs it has found. -/
structure Parser where
  read : Nat
  opened : List (Nat × Delimiter)
  pairs : List Pair
  deriving DecidableEq, Repr

namespace Parser

def initial : Parser :=
  ⟨0, [], []⟩

/-- Read one character; a closer has to match the opener on top of the stack. -/
def step (p : Parser) (c : Char) : Option Parser :=
  match Delimiter.ofOpener? c with
  | some k => some ⟨p.read + 1, (p.read, k) :: p.opened, p.pairs⟩
  | none =>
      match Delimiter.ofCloser? c with
      | none => some ⟨p.read + 1, p.opened, p.pairs⟩
      | some k =>
          match p.opened with
          | [] => none
          | (start, l) :: outer =>
              if l = k then some ⟨p.read + 1, outer, ⟨start, p.read, k⟩ :: p.pairs⟩ else none

def run (p : Parser) (t : Text) : Option Parser :=
  t.foldlM step p

end Parser

namespace Text

/-- The pairs of a text, if it is well nested. -/
def pairs? (t : Text) : Option (List Pair) :=
  match Parser.initial.run t with
  | some ⟨_, [], pairs⟩ => some pairs
  | _ => none

/-- Whether all delimiters of the text pair off by kind. -/
def WellNested (t : Text) : Prop :=
  ∃ pairs, t.pairs? = some pairs

def depthAt? (t : Text) (offset : Nat) : Option Nat :=
  (Parser.initial.run (t.take offset)).map (·.opened.length)

end Text

namespace Parser

private theorem run_cons (p : Parser) (c : Char) (t : Text) :
    p.run (c :: t) = (p.step c).bind (·.run t) := rfl

theorem run_append (p : Parser) (t u : Text) : p.run (t ++ u) = (p.run t).bind (·.run u) :=
  List.foldlM_append

private theorem step_opener (p : Parser) (k : Delimiter) :
    p.step k.opener = some ⟨p.read + 1, (p.read, k) :: p.opened, p.pairs⟩ := by
  simp [step]

private theorem step_closer {p : Parser} {start : Nat} {k : Delimiter}
    {outer : List (Nat × Delimiter)} (top : p.opened = (start, k) :: outer) :
    p.step k.closer = some ⟨p.read + 1, outer, ⟨start, p.read, k⟩ :: p.pairs⟩ := by
  have noOpener : Delimiter.ofOpener? k.closer = none := by cases k <;> rfl
  simp [step, noOpener, top]

private theorem step_plain {c : Char} (opens : isOpener c = false) (closes : isCloser c = false)
    (p : Parser) : p.step c = some ⟨p.read + 1, p.opened, p.pairs⟩ := by
  have noOpener : Delimiter.ofOpener? c = none := by simpa [isOpener] using opens
  have noCloser : Delimiter.ofCloser? c = none := by simpa [isCloser] using closes
  simp [step, noOpener, noCloser]

/-- What one character can do: open a list, close the innermost one, or neither. -/
theorem step_cases {p q : Parser} {c : Char} (h : p.step c = some q) :
    (∃ k : Delimiter, c = k.opener ∧ q = ⟨p.read + 1, (p.read, k) :: p.opened, p.pairs⟩) ∨
    (∃ (k : Delimiter) (start : Nat) (outer : List (Nat × Delimiter)),
      c = k.closer ∧ p.opened = (start, k) :: outer ∧
        q = ⟨p.read + 1, outer, ⟨start, p.read, k⟩ :: p.pairs⟩) ∨
    (isOpener c = false ∧ isCloser c = false ∧ q = ⟨p.read + 1, p.opened, p.pairs⟩) := by
  by_cases opens : isOpener c = true
  · obtain ⟨k, rfl⟩ := exists_opener_of_isOpener opens
    rw [step_opener] at h
    exact .inl ⟨k, rfl, (Option.some.inj h).symm⟩
  · rw [Bool.not_eq_true] at opens
    by_cases closes : isCloser c = true
    · obtain ⟨k, rfl⟩ := exists_closer_of_isCloser closes
      have noOpener : Delimiter.ofOpener? k.closer = none := by cases k <;> rfl
      simp only [step, noOpener, Delimiter.ofCloser?_closer] at h
      split at h
      · cases h
      · rename_i start l outer top
        split_ifs at h with same
        subst same
        exact .inr (.inl ⟨l, start, outer, rfl, top, (Option.some.inj h).symm⟩)
    · rw [Bool.not_eq_true] at closes
      rw [step_plain opens closes] at h
      exact .inr (.inr ⟨opens, closes, (Option.some.inj h).symm⟩)

/-! ## What a run leaves as it was -/

private theorem run_read {p q : Parser} {t : Text} (h : p.run t = some q) :
    q.read = p.read + t.length := by
  induction t generalizing p with
  | nil =>
      cases h
      rfl
  | cons c t ih =>
      obtain ⟨m, first, rest⟩ := Option.bind_eq_some_iff.mp h
      have read : m.read = p.read + 1 := by
        obtain ⟨k, -, rfl⟩ | ⟨k, start, outer, -, -, rfl⟩ | ⟨-, -, rfl⟩ := step_cases first <;> rfl
      rw [ih rest, read, List.length_cons]
      omega

private theorem mem_pairs_of_run {p q : Parser} {t : Text} (h : p.run t = some q) {e : Pair}
    (he : e ∈ q.pairs) :
    e ∈ p.pairs ∨
      (p.read ≤ e.closer ∧ (p.read ≤ e.opener ∨ (e.opener, e.kind) ∈ p.opened)) := by
  induction t generalizing p with
  | nil =>
      cases h
      exact .inl he
  | cons c t ih =>
      obtain ⟨m, first, rest⟩ := Option.bind_eq_some_iff.mp h
      obtain ⟨k, -, rfl⟩ | ⟨k, start, outer, -, top, rfl⟩ | ⟨-, -, rfl⟩ := step_cases first
      · rcases ih rest with old | ⟨closed, later | stacked⟩
        · exact .inl old
        · exact .inr ⟨Nat.le_of_succ_le closed, .inl (Nat.le_of_succ_le later)⟩
        · refine .inr ⟨Nat.le_of_succ_le closed, ?_⟩
          rcases List.mem_cons.mp stacked with new | stacked
          · exact .inl (Nat.le_of_eq (congrArg Prod.fst new).symm)
          · exact .inr stacked
      · rcases ih rest with old | ⟨closed, later | stacked⟩
        · rcases List.mem_cons.mp old with rfl | old
          · refine .inr ⟨Nat.le_refl _, .inr ?_⟩
            rw [top]
            exact List.mem_cons_self
          · exact .inl old
        · exact .inr ⟨Nat.le_of_succ_le closed, .inl (Nat.le_of_succ_le later)⟩
        · refine .inr ⟨Nat.le_of_succ_le closed, .inr ?_⟩
          rw [top]
          exact List.mem_cons_of_mem _ stacked
      · rcases ih rest with old | ⟨closed, later | stacked⟩
        · exact .inl old
        · exact .inr ⟨Nat.le_of_succ_le closed, .inl (Nat.le_of_succ_le later)⟩
        · exact .inr ⟨Nat.le_of_succ_le closed, .inr stacked⟩

private theorem pairs_subset_of_run {p q : Parser} {t : Text} (h : p.run t = some q) :
    p.pairs ⊆ q.pairs := by
  induction t generalizing p with
  | nil =>
      cases h
      exact List.Subset.refl _
  | cons c t ih =>
      obtain ⟨m, first, rest⟩ := Option.bind_eq_some_iff.mp h
      have later := ih rest
      obtain ⟨k, -, rfl⟩ | ⟨k, start, outer, -, -, rfl⟩ | ⟨-, -, rfl⟩ := step_cases first
      · exact later
      · exact List.Subset.trans (List.subset_cons_self _ _) later
      · exact later

private theorem closer_lt_read_of_run {p q : Parser} {t : Text} (h : p.run t = some q)
    (past : ∀ e ∈ p.pairs, e.closer < p.read) : ∀ e ∈ q.pairs, e.closer < q.read := by
  induction t generalizing p with
  | nil =>
      cases h
      exact past
  | cons c t ih =>
      obtain ⟨m, first, rest⟩ := Option.bind_eq_some_iff.mp h
      refine ih rest ?_
      obtain ⟨k, -, rfl⟩ | ⟨k, start, outer, -, -, rfl⟩ | ⟨-, -, rfl⟩ := step_cases first
      · exact fun e he => Nat.lt_succ_of_lt (past e he)
      · intro e he
        rcases List.mem_cons.mp he with rfl | old
        · exact Nat.lt_succ_self p.read
        · exact Nat.lt_succ_of_lt (past e old)
      · exact fun e he => Nat.lt_succ_of_lt (past e he)

end Parser

namespace Text

/-! ## The stack and the text

What the parser has read is a balanced text behind each open opener, and what it has yet to read is
a balanced text in front of the closer of each.
-/

/-- The text is one that leaves the stack `opened`: openers with balanced texts between them. -/
inductive Leaves : Text → List (Nat × Delimiter) → Prop
  | none {t : Text} : Balanced t → Leaves t []
  | opener {t : Text} {outer : List (Nat × Delimiter)} (k : Delimiter) {u : Text} :
      Leaves t outer → Balanced u → Leaves (t ++ k.opener :: u) ((t.length, k) :: outer)

/-- The text is one that empties the stack `opened`: closers with balanced texts between them. -/
inductive Empties : Text → List (Nat × Delimiter) → Prop
  | none {t : Text} : Balanced t → Empties t []
  | closer {t : Text} {outer : List (Nat × Delimiter)} (start : Nat) (k : Delimiter) {u : Text} :
      Balanced u → Empties t outer → Empties (u ++ k.closer :: t) ((start, k) :: outer)

private theorem Leaves.append {t u : Text} {opened : List (Nat × Delimiter)} (h : Leaves t opened)
    (hu : Balanced u) : Leaves (t ++ u) opened := by
  cases h with
  | none ht => exact .none (ht.append hu)
  | opener k front ht =>
      rw [List.append_assoc, List.cons_append]
      exact .opener k front (ht.append hu)

private theorem Leaves.close {t : Text} {start : Nat} {k : Delimiter}
    {outer : List (Nat × Delimiter)} (h : Leaves t ((start, k) :: outer)) :
    Leaves (t ++ [k.closer]) outer := by
  cases h with
  | opener k front hu =>
      rw [List.append_assoc, List.cons_append]
      exact front.append (hu.enclose k)

private theorem Leaves.lt_length {t : Text} {opened : List (Nat × Delimiter)}
    (h : Leaves t opened) :
    ∀ x ∈ opened, x.1 < t.length := by
  induction h with
  | none => simp
  | @opener t outer k u _ _ ih =>
      intro x hx
      rw [List.length_append, List.length_cons]
      rcases List.mem_cons.mp hx with rfl | old
      · exact Nat.lt_add_of_pos_right (Nat.succ_pos _)
      · exact Nat.lt_add_right _ (ih x old)

private theorem Empties.append {t u : Text} {opened : List (Nat × Delimiter)} (hu : Balanced u)
    (h : Empties t opened) : Empties (u ++ t) opened := by
  cases h with
  | none ht => exact .none (hu.append ht)
  | closer start k ht back =>
      rw [← List.append_assoc]
      exact .closer start k (hu.append ht) back

private theorem Empties.open {t : Text} {start : Nat} {k : Delimiter}
    {outer : List (Nat × Delimiter)} (h : Empties t ((start, k) :: outer)) :
    Empties (k.opener :: t) outer := by
  cases h with
  | @closer t _ _ _ u hu back =>
      have whole : k.opener :: (u ++ k.closer :: t) = k.opener :: (u ++ [k.closer]) ++ t := by simp
      rw [whole]
      exact Empties.append (hu.enclose k) back

theorem leaves_of_run {p q : Parser} {t u : Text} (front : Leaves t p.opened)
    (read : p.read = t.length) (h : p.run u = some q) : Leaves (t ++ u) q.opened := by
  induction u generalizing p t with
  | nil =>
      cases h
      rwa [List.append_nil]
  | cons c u ih =>
      obtain ⟨m, first, rest⟩ := Option.bind_eq_some_iff.mp h
      have whole : t ++ c :: u = (t ++ [c]) ++ u := by simp
      rw [whole]
      obtain ⟨k, rfl, rfl⟩ | ⟨k, start, outer, rfl, top, rfl⟩ | ⟨opens, closes, rfl⟩ :=
        Parser.step_cases first
      · refine ih ?_ (by simp [read]) rest
        rw [read]
        exact .opener k front .nil
      · refine ih ?_ (by simp [read]) rest
        rw [top] at front
        exact front.close
      · refine ih ?_ (by simp [read]) rest
        exact front.append (.plain opens closes .nil)

private theorem empties_of_run {p q : Parser} {u : Text} (h : p.run u = some q)
    (done : q.opened = []) :
    Empties u p.opened := by
  induction u generalizing p with
  | nil =>
      cases h
      rw [done]
      exact .none .nil
  | cons c u ih =>
      obtain ⟨m, first, rest⟩ := Option.bind_eq_some_iff.mp h
      have back := ih rest
      obtain ⟨k, rfl, rfl⟩ | ⟨k, start, outer, rfl, top, rfl⟩ | ⟨opens, closes, rfl⟩ :=
        Parser.step_cases first
      · exact back.open
      · rw [top]
        exact .closer (u := []) start k .nil back
      · exact Empties.append (.plain opens closes .nil) back

private theorem Balanced.run {t : Text} (h : Balanced t) (p : Parser) :
    ∃ q, p.run t = some q ∧ q.opened = p.opened ∧
      ∀ e ∈ q.pairs, e ∈ p.pairs ∨ p.read ≤ e.opener := by
  induction h generalizing p with
  | nil => exact ⟨p, rfl, rfl, fun e he => .inl he⟩
  | plain opens closes _ ih =>
      obtain ⟨q, found, opened, pairs⟩ := ih ⟨p.read + 1, p.opened, p.pairs⟩
      refine ⟨q, ?_, opened, ?_⟩
      · rw [Parser.run_cons, Parser.step_plain opens closes]
        exact found
      · intro e he
        rcases pairs e he with old | later
        · exact .inl old
        · exact .inr (Nat.le_of_succ_le later)
  | @pair k inside rest _ _ ihInside ihRest =>
      obtain ⟨m, foundInside, openedInside, pairsInside⟩ :=
        ihInside ⟨p.read + 1, (p.read, k) :: p.opened, p.pairs⟩
      obtain ⟨q, found, opened, pairs⟩ :=
        ihRest ⟨m.read + 1, p.opened, ⟨p.read, m.read, k⟩ :: m.pairs⟩
      have readInside := Parser.run_read foundInside
      refine ⟨q, ?_, opened, ?_⟩
      · rw [Parser.run_cons, Parser.step_opener, Option.bind_some, Parser.run_append, foundInside,
          Option.bind_some, Parser.run_cons, Parser.step_closer openedInside]
        exact found
      · intro e he
        rcases pairs e he with old | later
        · rcases List.mem_cons.mp old with rfl | old
          · exact .inr (Nat.le_refl _)
          · rcases pairsInside e old with old | later
            · exact .inl old
            · exact .inr (Nat.le_of_succ_le later)
        · right
          simp only at readInside later
          omega

theorem pairs?_eq_some {t : Text} {pairs : List Pair} :
    t.pairs? = some pairs ↔
      ∃ q, Parser.initial.run t = some q ∧ q.opened = [] ∧ q.pairs = pairs := by
  constructor
  · intro h
    unfold pairs? at h
    split at h
    · rename_i read found heq
      cases h
      exact ⟨_, heq, rfl, rfl⟩
    · cases h
  · rintro ⟨⟨read, opened, found⟩, run, rfl, rfl⟩
    simp [pairs?, run]

theorem Balanced.wellNested {t : Text} (h : Balanced t) : t.WellNested := by
  obtain ⟨q, found, opened, -⟩ := h.run Parser.initial
  exact ⟨q.pairs, pairs?_eq_some.mpr ⟨q, found, opened, rfl⟩⟩

/-! ## The innermost pair -/

private theorem not_around_of_opened_eq_nil {u v : Text} {p q : Parser}
    (front : Parser.initial.run u = some p) (back : p.run v = some q) (closed : p.opened = []) :
    ∀ e ∈ q.pairs, ¬ e.Around u.length := by
  have read : p.read = u.length := by simpa [Parser.initial] using Parser.run_read front
  rintro e he ⟨opener, closer⟩
  rcases Parser.mem_pairs_of_run back he with old | ⟨-, later | stacked⟩
  · have past := Parser.closer_lt_read_of_run front (by simp [Parser.initial]) e old
    omega
  · omega
  · rw [closed] at stacked
    cases stacked

/-- With lists open, the pair of the opener on top of the stack is the innermost one: every other
pair around the offset was opened before it and is closed behind it. -/
theorem exists_pair_of_opened_eq_cons {u v : Text} {p q : Parser} {start : Nat} {k : Delimiter}
    {outer : List (Nat × Delimiter)} (front : Parser.initial.run u = some p)
    (back : p.run v = some q) (done : q.opened = []) (top : p.opened = (start, k) :: outer) :
    ∃ e ∈ q.pairs, e.Around u.length ∧ (u ++ v).enclosing? u.length = some e.enclosure ∧
      ∀ f ∈ q.pairs, f.Around u.length → f = e ∨ (f.opener < e.opener ∧ e.closer < f.closer) := by
  have read : p.read = u.length := by simpa [Parser.initial] using Parser.run_read front
  have leaves : Leaves u p.opened := leaves_of_run (t := []) (.none .nil) rfl front
  have empties : Empties v p.opened := empties_of_run back done
  rw [top] at leaves empties
  cases leaves with
  | @opener before _ _ inside outside hInside =>
    cases empties with
    | @closer after _ _ _ ahead hAhead _ =>
      obtain ⟨m, runAhead, openedAhead, pairsAhead⟩ := hAhead.run p
      have readAhead := Parser.run_read runAhead
      rw [top] at openedAhead
      rw [Parser.run_append, runAhead, Option.bind_some, Parser.run_cons,
        Parser.step_closer openedAhead, Option.bind_some] at back
      have length : (before ++ k.opener :: inside).length = before.length + 1 + inside.length := by
        simp only [List.length_append, List.length_cons]
        omega
      refine ⟨⟨before.length, m.read, k⟩, ?_, ?_, ?_, ?_⟩
      · exact Parser.pairs_subset_of_run back List.mem_cons_self
      · constructor
        · show before.length < _
          omega
        · show _ ≤ m.read
          omega
      · rw [length, List.append_assoc, List.cons_append, enclosing?_of_balanced hInside hAhead]
        simp only [Pair.enclosure, Option.some.injEq, Enclosure.mk.injEq, Span.mk.injEq, true_and,
          and_true]
        omega
      · rintro f hf ⟨opener, closer⟩
        -- A pair around the offset is still open at the closer of the list, or is the list's own.
        rcases Parser.mem_pairs_of_run back hf with old | ⟨closed, later | stacked⟩
        · rcases List.mem_cons.mp old with same | old
          · exact .inl same
          · rcases pairsAhead f old with old | later
            · have past := Parser.closer_lt_read_of_run front (by simp [Parser.initial]) f old
              omega
            · omega
        · simp only at later
          omega
        · exact .inr ⟨outside.lt_length _ stacked, closed⟩

/-- In a well nested text the list around an offset is the innermost pair around it, and there is
none exactly where no list is open. -/
theorem enclosing?_eq_innermost_pair (t : Text) (pairs : List Pair) (nested : t.pairs? = some pairs)
    (offset : Nat) :
    (∀ e, t.enclosing? offset = some e ↔
      ∃ p, Pair.Innermost pairs (min offset t.length) p ∧ p.enclosure = e) ∧
    ((t.enclosing? offset).isSome ↔ ∃ p ∈ pairs, p.Around (min offset t.length)) ∧
    (t.enclosing? offset = none ↔ t.depthAt? (min offset t.length) = some 0) := by
  obtain ⟨q, run, done, rfl⟩ := pairs?_eq_some.mp nested
  -- The stack that the parser has at the offset says which pair is around it.
  obtain ⟨u, v, whole, length⟩ : ∃ u v : Text, t = u ++ v ∧ u.length = min offset t.length := by
    refine ⟨t.take (min offset t.length), t.drop (min offset t.length), ?_, ?_⟩
    · exact (List.take_append_drop _ t).symm
    · rw [List.length_take]
      omega
  have enclosing : t.enclosing? offset = t.enclosing? u.length := by
    rw [length]
    exact (enclosing?_clamp t offset).symm
  rw [whole, Parser.run_append] at run
  obtain ⟨p, front, back⟩ := Option.bind_eq_some_iff.mp run
  have depth : t.depthAt? (min offset t.length) = some p.opened.length := by
    rw [depthAt?, ← length, whole, List.take_left, front, Option.map_some]
  rw [enclosing, depth, ← length, whole]
  cases opened : p.opened with
  | nil =>
      have outside := not_around_of_opened_eq_nil front back opened
      have balanced : Balanced u := by
        have leaves := leaves_of_run (t := []) (.none .nil) rfl front
        rw [opened] at leaves
        cases leaves with
        | none h => exact h
      rw [balanced.enclosing?_eq_none]
      refine ⟨?_, ?_, by simp⟩
      · intro e
        constructor
        · intro h
          cases h
        · rintro ⟨f, ⟨hf, around, -⟩, -⟩
          exact absurd around (outside f hf)
      · constructor
        · intro h
          cases h
        · rintro ⟨f, hf, around⟩
          exact absurd around (outside f hf)
  | cons top outer =>
      obtain ⟨e, he, around, found, nested⟩ := exists_pair_of_opened_eq_cons front back done opened
      have unique := Pair.innermost_iff he around nested
      rw [found]
      refine ⟨?_, ?_, by simp⟩
      · intro f
        rw [Option.some.injEq]
        constructor
        · intro same
          exact ⟨e, (unique e).mpr rfl, same⟩
        · rintro ⟨g, innermost, same⟩
          rw [← same, (unique g).mp innermost]
      · constructor
        · intro _
          exact ⟨e, he, around⟩
        · intro _
          rfl

theorem enclosing?_let_bindings :
    pairs? "(let [x {:a 1}] x)".toList =
      some [⟨0, 17, .paren⟩, ⟨5, 14, .bracket⟩, ⟨8, 13, .brace⟩] ∧
    (∃ p, Pair.Innermost [⟨0, 17, .paren⟩, ⟨5, 14, .bracket⟩, ⟨8, 13, .brace⟩] 6 p ∧
      p.enclosure = ⟨⟨5, 15⟩, .bracket⟩) := by
  have nested : pairs? "(let [x {:a 1}] x)".toList =
      some [⟨0, 17, .paren⟩, ⟨5, 14, .bracket⟩, ⟨8, 13, .brace⟩] := by decide
  refine ⟨nested, ?_⟩
  exact ((enclosing?_eq_innermost_pair _ _ nested 6).1 _).mp (by decide)

end Text

end LispEditor
