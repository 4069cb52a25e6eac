import LispEditor.Form.Matching

set_option autoImplicit false
set_option relaxedAutoImplicit false

/-!
# Forms

A form is a list, a string literal or an atom. `Text.nextForm?` reads the form at or after an
offset; `Text.lastChild?` walks over the forms inside a span.
-/

namespace LispEditor

/-- A complete unit of a text, with its span. -/
inductive Form where
  | list (delimiter : Delimiter) (span : Span)
  | string (span : Span)
  | atom (span : Span)
  deriving DecidableEq, Repr

def Form.span : Form → Span
  | list _ s => s
  | string s => s
  | atom s => s

namespace Text

/-- The offset past the first double quote that is not escaped. The characters stand from offset
`here` on, behind the character `last`; a backslash right in front of a quote escapes it. -/
def stringEnd (last : Char) (here : Nat) : List Char → Option Nat
  | [] => none
  | c :: rest =>
      if c = '"' && last != '\\' then some (here + 1) else stringEnd c (here + 1) rest

/-- The form that begins at offset `start` with the character `c`, in front of `rest`. -/
def formAt? (start : Nat) (c : Char) (rest : List Char) : Option Form :=
  match Delimiter.ofOpener? c with
  | some k => (matchFrom k 0 (start + 1) rest).map fun stop => .list k ⟨start, stop⟩
  | none =>
      if c = '"' then (stringEnd c (start + 1) rest).map fun stop => .string ⟨start, stop⟩
      else if isCloser c then none
      else some (.atom ⟨start, start + 1 + (rest.takeWhile isToken).length⟩)

/-- The first form at or after `offset`. There is none at the end of the text, in front of a closer,
or where a string or a list never ends. -/
def nextForm? (t : Text) (offset : Nat) : Option Form := do
  let start ← t.solidFrom? offset
  match t.drop start with
  | [] => none
  | c :: rest => formAt? start c rest

theorem lt_of_matchFrom {k : Delimiter} {depth here stop : Nat} {cs : List Char}
    (h : matchFrom k depth here cs = some stop) : here < stop := by
  induction cs generalizing depth here with
  | nil => simp [matchFrom] at h
  | cons c rest ih =>
      unfold matchFrom at h
      split at h
      · exact Nat.lt_of_succ_lt (ih h)
      · split at h
        · split at h
          · cases h
            exact Nat.lt_succ_self here
          · exact Nat.lt_of_succ_lt (ih h)
        · exact Nat.lt_of_succ_lt (ih h)

theorem lt_of_stringEnd {last : Char} {here stop : Nat} {cs : List Char}
    (h : stringEnd last here cs = some stop) : here < stop := by
  induction cs generalizing last here with
  | nil => simp [stringEnd] at h
  | cons c rest ih =>
      unfold stringEnd at h
      split at h
      · cases h
        exact Nat.lt_succ_self here
      · exact Nat.lt_of_succ_lt (ih h)

theorem formAt?_span {start : Nat} {c : Char} {rest : List Char} {f : Form}
    (h : formAt? start c rest = some f) : f.span.start = start ∧ start < f.span.stop := by
  unfold formAt? at h
  split at h
  · obtain ⟨stop, found, rfl⟩ := Option.map_eq_some_iff.mp h
    exact ⟨rfl, Nat.lt_of_succ_lt (lt_of_matchFrom found)⟩
  · split at h
    · obtain ⟨stop, found, rfl⟩ := Option.map_eq_some_iff.mp h
      exact ⟨rfl, Nat.lt_of_succ_lt (lt_of_stringEnd found)⟩
    · split at h
      · cases h
      · cases h
        refine ⟨rfl, ?_⟩
        show start < start + 1 + _
        omega

theorem le_of_solidFrom? {t : Text} {offset start : Nat} (h : t.solidFrom? offset = some start) :
    offset ≤ start := by
  obtain ⟨i, _, rfl⟩ := Option.map_eq_some_iff.mp h
  exact Nat.le_add_right offset i

theorem lt_stop_of_nextForm? {t : Text} {offset : Nat} {f : Form}
    (h : t.nextForm? offset = some f) : offset < f.span.stop := by
  obtain ⟨start, found, h⟩ := Option.bind_eq_some_iff.mp h
  have first := le_of_solidFrom? found
  split at h
  · cases h
  · exact Nat.lt_of_le_of_lt first (formAt?_span h).2

/-- The forms that follow each other from `here` on, as far as they end in front of `stop`. -/
def formsWithin (t : Text) (stop here : Nat) : List Form :=
  if here < stop - 1 then
    match _found : t.nextForm? here with
    | none => []
    | some f => if stop ≤ f.span.stop then [] else f :: formsWithin t stop f.span.stop
  else []
termination_by stop - here
decreasing_by
  have := lt_stop_of_nextForm? _found
  omega

/-- The children of the list that covers the span. -/
def children (t : Text) (list : Span) : List Form :=
  t.formsWithin list.stop (list.start + 1)

def lastChild? (t : Text) (list : Span) : Option Form :=
  (t.children list).getLast?

end Text

end LispEditor
