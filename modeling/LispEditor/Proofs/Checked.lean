import LispEditor.Edit
import LispEditor.Evaluation
import LispEditor.Text.Position

set_option autoImplicit false
set_option relaxedAutoImplicit false

/-!
# Scans on machine words

A machine counts in words of 64 bits and reads a text by index. Here each scan is a loop over
offsets, and every sum, difference, index and range on its way is checked: one that the machine
cannot form ends the whole computation with a trap. A loop over a range counts through its offsets
and never past its end. Any other loop has one round more than the text has characters, and wanting
still more is a trap, too.
-/

namespace LispEditor

/-- Why a machine stops in the middle of a computation. -/
inductive Trap where
  /-- A sum is too great for a word. -/
  | overflow
  /-- A difference is below zero. -/
  | underflow
  /-- An index or a range is not in the text. -/
  | outOfRange
  /-- A loop goes on and on. -/
  | endless
  deriving DecidableEq, Repr

/-- A computation on machine words, which may end with a trap. -/
abbrev Checked (α : Type) := Except Trap α

namespace Checked

/-! ## Steps -/

def add (a b : Nat) : Checked Nat :=
  if a + b < UInt64.size then .ok (a + b) else .error .overflow

def sub (a b : Nat) : Checked Nat :=
  if b ≤ a then .ok (a - b) else .error .underflow

def index (t : Text) (i : Nat) : Checked Char :=
  match t[i]? with
  | some c => .ok c
  | none => .error .outOfRange

def range (t : Text) (start stop : Nat) : Checked Text :=
  if start ≤ stop ∧ stop ≤ t.length then .ok ((t.take stop).drop start) else .error .outOfRange

/-- The first of `count` offsets from `i` on that passes the test. -/
def firstOf (test : Nat → Checked Bool) : (count i : Nat) → Checked (Option Nat)
  | 0, _ => .ok none
  | count + 1, i => do if ← test i then return some i else firstOf test count (i + 1)

def lastBelow (test : Nat → Checked Bool) : (stop : Nat) → Checked (Option Nat)
  | 0 => .ok none
  | i + 1 => do if ← test i then return some i else lastBelow test i

/-! ## Texts -/

/-- The characters at the offsets of the span that lie in the text. -/
def slice (t : Text) (s : Span) : Checked Text :=
  let stop := t.clamp s.stop
  range t (min s.start stop) stop

def isSolid (t : Text) (i : Nat) : Checked Bool := do
  return !isBlank (← index t i)

def solidFrom? (t : Text) (offset : Nat) : Checked (Option Nat) :=
  firstOf (isSolid t) (t.length - offset) offset

def solidBefore? (t : Text) (offset : Nat) : Checked (Option Nat) :=
  lastBelow (isSolid t) (t.clamp offset)

def breaksToken (t : Text) (i : Nat) : Checked Bool :=
  return !(t[i]?).any isToken

/-- The first offset from `offset` on that holds no token character, or else the end. -/
def tokensEnd (t : Text) (offset : Nat) : Checked Nat := do
  return (← firstOf (breaksToken t) (t.length - offset) offset).getD t.length

/-- The offset behind the one that a search has found, or `otherwise` if it has found none. -/
def behind (otherwise : Nat) : Option Nat → Checked Nat
  | none => return otherwise
  | some i => add i 1

/-! ## Lines -/

def isLineFeed (t : Text) (i : Nat) : Checked Bool := do
  return (← index t i) == '\n'

def position (t : Text) (offset : Nat) : Checked Position := do
  let offset := t.clamp offset
  let front ← range t 0 offset
  let start ← behind 0 (← lastBelow (isLineFeed front) front.length)
  return ⟨front.count '\n', ← sub offset start⟩

/-- The line of the number `line`, or else the last one, in a walk over the lines that has come to
the line of the number `i`, which begins at `start`. -/
def lineLoop (t : Text) (line : Nat) : (rounds i start : Nat) → Checked Span
  | 0, _, _ => .error .endless
  | rounds + 1, i, start => do
      match ← firstOf (isLineFeed t) (t.length - start) start with
      | none => do
          let _ ← add i 1
          return ⟨start, t.length⟩
      | some feed => do
          let next ← add feed 1
          let later ← add i 1
          if i = line then return ⟨start, feed⟩ else lineLoop t line rounds later next

def offsetAt (t : Text) (p : Position) : Checked Nat := do
  let line ← lineLoop t p.line (t.length + 1) 0 0
  add line.start (min p.col line.length)

/-! ## Lists -/

/-- The forward scan over `count` offsets from `i` on, with `depth` lists of the kind open. -/
def matchLoop (t : Text) (k : Delimiter) : (count depth i : Nat) → Checked (Option Nat)
  | 0, _, _ => .ok none
  | count + 1, depth, i =>
      match t[i]? with
      | none => .ok none
      | some c =>
          if c = k.opener then do matchLoop t k count (← add depth 1) (i + 1)
          else if c = k.closer then
            if depth = 0 then do return some (← add i 1)
            else do matchLoop t k count (← sub depth 1) (i + 1)
          else matchLoop t k count depth (i + 1)

/-- The offset past the closer of the list of kind `k` that begins at `start`. -/
def matchForward? (t : Text) (start : Nat) (k : Delimiter) : Checked (Option Nat) := do
  let first ← add start 1
  matchLoop t k (t.length - first) 0 first

/-- The backward scan over the offsets below `stop` for an opener that is not closed on the way,
with `balance` closers waiting for their openers. -/
def openLoop (t : Text) : (stop balance : Nat) → Checked (Option Nat)
  | 0, _ => .ok none
  | i + 1, balance =>
      match t[i]? with
      | none => .ok none
      | some c =>
          if isCloser c then do openLoop t i (← add balance 1)
          else if isOpener c then
            if balance = 0 then .ok (some i) else do openLoop t i (← sub balance 1)
          else openLoop t i balance

/-- The innermost list with `offset` behind its opener and in front of its end. -/
def enclosing? (t : Text) (offset : Nat) : Checked (Option Enclosure) := do
  let offset := t.clamp offset
  match ← openLoop t offset 0 with
  | none => return none
  | some start =>
      match (t[start]?).bind Delimiter.ofOpener? with
      | none => return none
      | some kind =>
          match ← matchForward? t start kind with
          | none => return none
          | some stop => return if stop < offset then none else some ⟨⟨start, stop⟩, kind⟩

/-! ## Forms -/

/-- Whether a double quote stands at the offset, and no backslash in front of it. -/
def closesString (t : Text) (i : Nat) : Checked Bool :=
  if t[i]? = some '"' then do return t[← sub i 1]? != some '\\' else return false

def nextForm? (t : Text) (offset : Nat) : Checked (Option Form) := do
  match ← solidFrom? t offset with
  | none => return none
  | some start =>
      match t[start]? with
      | none => return none
      | some c =>
          if isOpener c then do
            let list ← enclosing? t (← add start 1)
            return list.map fun e => .list e.delimiter e.span
          else if c = '"' then do
            let first ← add start 1
            match ← firstOf (closesString t) (t.length - first) first with
            | none => return none
            | some close => do return some (.string ⟨start, ← add close 1⟩)
          else if isCloser c then return none
          else do return some (.atom ⟨start, ← tokensEnd t start⟩)

/-- The walk over the forms inside a list, from `current` on and in front of `close`, with the last
form that it has passed. -/
def childLoop (t : Text) (list : Span) (close : Nat) :
    (rounds current : Nat) → Option Form → Checked (Option Form)
  | 0, _, _ => .error .endless
  | rounds + 1, current, last =>
      if current < close then do
        match ← nextForm? t current with
        | none => return last
        | some f =>
            if list.stop ≤ f.span.stop then return last
            else childLoop t list close rounds f.span.stop (some f)
      else return last

def lastChild? (t : Text) (list : Span) : Checked (Option Form) := do
  let first ← add list.start 1
  childLoop t list (list.stop - 1) (t.length + 1) first none

/-! ## Edits -/

def slurpForward (t : Text) (offset : Nat) : Checked (Except Refusal Patch) := do
  let offset := t.clamp offset
  match ← enclosing? t offset with
  | none => return .error (.outsideList .slurpForward offset)
  | some ⟨list, kind⟩ =>
      match ← nextForm? t list.stop with
      | none => return .error (.nothingFollows list)
      | some sibling => do
          let inner ← slice t ⟨0, ← sub list.stop 1⟩
          let taken ← slice t ⟨list.stop, sibling.span.stop⟩
          let rest ← slice t ⟨sibling.span.stop, t.length⟩
          return .ok ⟨inner ++ taken ++ kind.closer :: rest, offset⟩

/-- Put the last child of the list around the caret behind the list. -/
def barfForward (t : Text) (offset : Nat) : Checked (Except Refusal Patch) := do
  let offset := t.clamp offset
  match ← enclosing? t offset with
  | none => return .error (.outsideList .barfForward offset)
  | some ⟨list, kind⟩ =>
      match ← lastChild? t list with
      | none => return .error (.emptyList list)
      | some child => do
          let start := child.span.start
          let stop ← behind start (← solidBefore? t start)
          let kept ← slice t ⟨0, stop⟩
          let gap ← if stop = start then pure [' '] else slice t ⟨stop, start⟩
          let given ← slice t ⟨start, ← sub list.stop 1⟩
          let rest ← slice t ⟨list.stop, t.length⟩
          return .ok ⟨kept ++ kind.closer :: gap ++ given ++ rest, offset⟩

/-! ## The form before the caret -/

/-- Whether token characters stand at the offset and in front of it. -/
def insideToken (t : Text) (offset : Nat) : Checked Bool :=
  if 0 < offset ∧ (t[offset]?).any isToken then do return (t[← sub offset 1]?).any isToken
  else return false

def tokenEnd (t : Text) (offset : Nat) : Checked Nat := do
  if ← insideToken t offset then tokensEnd t offset else return offset

/-- The backward scan over the offsets below `stop`, with `balance` more closers than openers
passed, for the opener that makes them equal in number. -/
def pairLoop (t : Text) : (stop balance : Nat) → Checked (Option Nat)
  | 0, _ => .ok none
  | i + 1, balance =>
      match t[i]? with
      | none => .ok none
      | some c =>
          if isCloser c then do pairLoop t i (← add balance 1)
          else if isOpener c then do
            let balance ← sub balance 1
            if balance = 0 then return some i else pairLoop t i balance
          else pairLoop t i balance

/-- Whether a double quote stands at the offset, with no backslash in front of it. -/
def opensString (t : Text) (i : Nat) : Checked Bool :=
  if t[i]? = some '"' then
    if i = 0 then return true else do return t[← sub i 1]? != some '\\'
  else return false

/-- The offset at which the form begins that ends with `c` at the offset `last`. -/
def formStart? (t : Text) (c : Char) (last : Nat) : Checked (Option Nat) :=
  if isCloser c then pairLoop t (last + 1) 0
  else if c = '"' then lastBelow (opensString t) last
  else do return some (← behind 0 (← lastBelow (breaksToken t) (last + 1)))

def formBefore (t : Text) (offset : Nat) : Checked (Except Refusal Span) := do
  let offset ← tokenEnd t (t.clamp offset)
  match ← solidBefore? t offset with
  | none => return .error (.nothingBefore offset)
  | some last => do
      let stop ← add last 1
      match t[last]? with
      | none => return .error .noForm
      | some c =>
          match ← formStart? t c last with
          | none => return .error .noForm
          | some start => return if start < stop then .ok ⟨start, stop⟩ else .error .noForm

def evalTarget (t : Text) (offset : Nat) (selection : Option Span) :
    Checked (Except Refusal EvalTarget) := do
  let span ← match selection.bind t.selected? with
    | some span => pure (.ok span)
    | none => formBefore t offset
  match span with
  | .error e => return .error e
  | .ok span => do
      let code ← slice t span
      return if code.all isBlank then .error (.blankSelection offset) else .ok ⟨code, span⟩

end Checked

end LispEditor
