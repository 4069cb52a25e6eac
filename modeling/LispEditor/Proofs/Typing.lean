import LispEditor.Proofs.Bytes
import LispEditor.Proofs.Session
import Mathlib.Data.List.Forall2
import Mathlib.Logic.Function.Iterate

set_option autoImplicit false
set_option relaxedAutoImplicit false

/-!
# Typing

A key press that types a character, and is not bound, puts it in at the caret, and Backspace takes
it out again. So a text that is typed stands at the caret as it was typed, and as many presses of
Backspace as it has characters leave the buffer and the caret as they were.
-/

namespace LispEditor

/-- Whether the key press types the character: Enter a line feed, the key of any other character
that character, with shift or without. -/
inductive Key.Types : Key → Char → Prop
  | enter : Types { code := .enter } '\n'
  | char {c : Char} (shift : Bool) : c ≠ '\n' → Types { code := .char c, shift } c

/-- Whether the key press is not bound to an action. -/
def Config.Leaves (config : Config) (key : Key) : Prop :=
  key.name?.bind config.actionFor? = none

namespace Editor

/-- What key presses at their times do, one after the other. The log is that of all of them, and the
outcome that of the last one. -/
def pressEach (e : Editor) (files : FileTree) (events : List (Nat × Key)) : Turn :=
  events.foldl
    (fun turn event =>
      let next := turn.editor.press turn.files event.1 event.2
      { next with log := turn.log ++ next.log })
    ⟨e, files, [], .proceed⟩

variable {e : Editor} {files : FileTree} {s : List Char}

private theorem pressAll_eq_pressEach (e : Editor) (files : FileTree) (now : Nat)
    (keys : List Key) :
    e.pressAll files now keys = e.pressEach files (keys.map (now, ·)) := by
  rw [pressEach, List.foldl_map, pressAll]

/-! ## One key press -/

theorem press_of_leaves {key : Key} (free : e.config.Leaves key) (files : FileTree) (now : Nat) :
    e.press files now key = ⟨e.type key, files, [], .proceed⟩ := by
  unfold press
  rw [free]
  rfl

private theorem type_of_types {key : Key} {c : Char} (types : key.Types c) :
    e.type key = e.insert c := by
  cases types with
  | enter => rfl
  | char shift _ => rfl

private theorem pressEach_cons {now : Nat} {key : Key} {next : Editor}
    (step : e.press files now key = ⟨next, files, [], .proceed⟩) (events : List (Nat × Key)) :
    e.pressEach files ((now, key) :: events) = next.pressEach files events := by
  rw [pressEach, List.foldl_cons]
  dsimp only
  rw [step]
  rfl

private theorem backspace_insert (inside : e.caret ≤ e.buffer.length) (c : Char) (dirty : Bool) :
    backspace { e.insert c with dirty } = { e with dirty := true } := by
  have size : (e.buffer.take e.caret).length = e.caret := List.length_take_of_le inside
  have erased : (e.buffer.take e.caret ++ c :: e.buffer.drop e.caret).eraseIdx e.caret =
      e.buffer := by
    rw [List.eraseIdx_append_of_length_le (Nat.le_of_eq size), size, Nat.sub_self,
      List.eraseIdx_zero, List.tail_cons, List.take_append_drop]
  have within : ¬ (e.insert c).buffer.length ≤ e.caret :=
    Nat.not_le.mpr (caret_le_insert inside c)
  change delete { e.insert c with caret := e.caret, dirty } = _
  rw [delete, if_neg within]
  simp only [insert, erased]

/-! ## Runs of key presses -/

private theorem pressEach_of_types {events : List (Nat × Key)}
    (types : List.Forall₂ (fun event c => event.2.Types c) events s)
    (free : ∀ event ∈ events, e.config.Leaves event.2) :
    e.pressEach files events = ⟨s.foldl insert e, files, [], .proceed⟩ := by
  induction types generalizing e with
  | nil => rfl
  | @cons event c events s types later ih =>
      obtain ⟨here, others⟩ := List.forall_mem_cons.mp free
      have step := press_of_leaves here files event.1
      rw [type_of_types types] at step
      have rest : (e.insert c).pressEach files events = ⟨_, files, [], .proceed⟩ := ih others
      rw [pressEach_cons step, rest, List.foldl_cons]

private theorem config_backspace (e : Editor) : e.backspace.config = e.config := by
  unfold backspace
  split
  · rfl
  · unfold delete
    split_ifs <;> rfl

private theorem pressEach_of_backspace {events : List (Nat × Key)}
    (erases : ∀ event ∈ events, event.2 = { code := .backspace })
    (free : e.config.Leaves { code := .backspace }) :
    e.pressEach files events = ⟨backspace^[events.length] e, files, [], .proceed⟩ := by
  induction events generalizing e with
  | nil => rfl
  | cons event events ih =>
      obtain ⟨now, key⟩ := event
      obtain ⟨rfl, others⟩ := List.forall_mem_cons.mp erases
      have step : e.press files now { code := .backspace } = ⟨e.backspace, files, [], .proceed⟩ :=
        press_of_leaves free files now
      rw [← config_backspace] at free
      rw [pressEach_cons step, ih others free, List.length_cons, Function.iterate_succ_apply]

private theorem iterate_backspace (inside : e.caret ≤ e.buffer.length) (s : List Char)
    (dirty : Bool) :
    backspace^[s.length] { s.foldl insert e with dirty } =
      { e with dirty := dirty || !s.isEmpty } := by
  induction s generalizing e with
  | nil => simp
  | cons c s ih =>
      rw [List.length_cons, Function.iterate_succ_apply', List.foldl_cons,
        ih (caret_le_insert inside c), backspace_insert inside]
      simp

private theorem foldlM_insert?_byteBuffer (e : Editor) (s : List Char) :
    s.foldlM ByteBuffer.insert? e.byteBuffer = some (s.foldl insert e).byteBuffer := by
  induction s generalizing e with
  | nil => rfl
  | cons c s ih =>
      rw [List.foldlM_cons, insert?_byteBuffer, List.foldl_cons, ← ih]
      rfl

private theorem foldlM_backspace?_byteBuffer (e : Editor) (s : List Char) :
    s.foldlM (fun b _ => b.backspace?) e.byteBuffer =
      some (backspace^[s.length] e).byteBuffer := by
  induction s generalizing e with
  | nil => rfl
  | cons c s ih =>
      rw [List.foldlM_cons, backspace?_byteBuffer, List.length_cons, Function.iterate_succ_apply,
        ← ih]
      rfl

/-- A text that is typed with keys that are not bound stands at the caret as it was typed, with the
caret behind it, and pressing Backspace once for each character gives the buffer and the caret
back. The same goes for the bytes in which the buffer is held. -/
theorem typed_text_is_inserted_and_erased (inside : e.caret ≤ e.buffer.length) (files : FileTree)
    {typing erasing : List (Nat × Key)}
    (types : List.Forall₂ (fun event c => event.2.Types c) typing s)
    (free : ∀ event ∈ typing, e.config.Leaves event.2)
    (erases : ∀ event ∈ erasing, event.2 = { code := .backspace })
    (count : erasing.length = s.length) (backspaceFree : e.config.actionFor? "backspace" = none) :
    let typed : Editor :=
      { e with
        buffer := e.buffer.take e.caret ++ s ++ e.buffer.drop e.caret
        caret := e.caret + s.length
        dirty := e.dirty || !s.isEmpty }
    e.pressEach files typing = ⟨typed, files, [], .proceed⟩ ∧
    typed.pressEach files erasing =
      ⟨{ e with dirty := e.dirty || !s.isEmpty }, files, [], .proceed⟩ ∧
    s.foldlM ByteBuffer.insert? e.byteBuffer = some typed.byteBuffer ∧
    s.foldlM (fun b _ => b.backspace?) typed.byteBuffer = some e.byteBuffer := by
  intro typed
  have same : s.foldl insert e = typed := by
    rw [foldl_insert inside]
    simp only [typed, List.append_assoc]
  have erased : backspace^[s.length] typed = { e with dirty := e.dirty || !s.isEmpty } := by
    have taken := iterate_backspace inside s (e.dirty || !s.isEmpty)
    rw [same, Bool.or_assoc, Bool.or_self] at taken
    exact taken
  have erasingFree : typed.config.Leaves { code := .backspace } := backspaceFree
  refine ⟨?_, ?_, ?_, ?_⟩
  · rw [pressEach_of_types types free, same]
  · rw [pressEach_of_backspace erases erasingFree, count, erased]
  · rw [foldlM_insert?_byteBuffer, same]
  · rw [foldlM_backspace?_byteBuffer, erased]
    rfl

theorem capital_and_line_are_inserted_and_erased :
    let config : Config := ⟨500, none, [("ctrl+s", .save)]⟩
    let e : Editor := ⟨"s.clj", config, "λb".toList, 1, "", none, false⟩
    let typed : Editor := ⟨"s.clj", config, "λÉ\nb".toList, 3, "", none, true⟩
    let keys : List Key := [{ code := .char 'É', shift := true }, { code := .enter }]
    let erasing : List (Nat × Key) := [(7, { code := .backspace }), (9, { code := .backspace })]
    (e.caret ≤ e.buffer.length ∧ (∀ key ∈ keys, config.Leaves key) ∧
      config.actionFor? "backspace" = none) ∧
    e.pressAll .empty 5 keys = ⟨typed, .empty, [], .proceed⟩ ∧
    typed.pressEach .empty erasing = ⟨{ e with dirty := true }, .empty, [], .proceed⟩ ∧
    e.byteBuffer.bytes = [0xCE, 0xBB, 0x62] ∧
    typed.byteBuffer.bytes = [0xCE, 0xBB, 0xC3, 0x89, 0x0A, 0x62] := by
  intro config e typed keys erasing
  have inside : e.caret ≤ e.buffer.length := by decide
  have types : List.Forall₂ (fun (event : Nat × Key) c => event.2.Types c) (keys.map (5, ·))
      ['É', '\n'] := .cons (.char true (by decide)) (.cons .enter .nil)
  have free : ∀ key ∈ keys, config.Leaves key := by
    simp only [keys, Config.Leaves]
    decide +kernel
  have erases : ∀ event ∈ erasing, event.2 = { code := .backspace } := by decide
  have backspaceFree : config.actionFor? "backspace" = none := by decide +kernel
  obtain ⟨inserted, erased, -, -⟩ := typed_text_is_inserted_and_erased inside .empty types
    (List.forall_mem_map.mpr free) erases rfl backspaceFree
  refine ⟨⟨inside, free, backspaceFree⟩, ?_, erased, by decide +kernel, by decide +kernel⟩
  rw [pressAll_eq_pressEach]
  exact inserted

end Editor

end LispEditor
