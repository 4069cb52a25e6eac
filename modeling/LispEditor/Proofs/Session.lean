import LispEditor.Editor.Turn
import LispEditor.Proofs.Conservation
import LispEditor.Proofs.Lines
import LispEditor.Proofs.Writing

set_option autoImplicit false
set_option relaxedAutoImplicit false

/-!
# Sessions

A session of the editor begins with a file that is opened, and goes on with key presses at any
times. Between them others may change the files, and what the system denies. A key press edits the
buffer at the caret, or keeps it, or writes it to its file, which can fail and then changes nothing.
So the caret never leaves the buffer, and a buffer that does not count as changed is what its file
reads.
-/

namespace LispEditor

/-- What an edit makes of a text and a caret in it: one character or two spaces are put in at the
caret, the character at it or the one in front of it is taken out, or a command is applied. -/
inductive BufferEdit (t : Text) (caret : Nat) : Text → Nat → Prop
  | inserted (added : List Char) : (∃ c, added = [c]) ∨ added = [' ', ' '] →
      BufferEdit t caret (t.take caret ++ (added ++ t.drop caret)) (caret + added.length)
  | deletedAt : caret < t.length → BufferEdit t caret (t.eraseIdx caret) caret
  | deletedBefore : 0 < caret → BufferEdit t caret (t.eraseIdx (caret - 1)) (caret - 1)
  | patched {command : Command} {patch : Patch} : command.apply t caret = .ok patch →
      BufferEdit t caret patch.text patch.offset

private theorem Command.offset_le_of_apply {command : Command} {t : Text} {offset : Nat}
    {patch : Patch} (done : command.apply t offset = .ok patch) :
    patch.offset ≤ patch.text.length := by
  have inside := Text.clamp_le t offset
  cases command with
  | slurpForward =>
      obtain ⟨-, k, -, front, pulled, back, -, -, whole, -, -, rfl⟩ :=
        Text.exists_cut_of_slurpForward done
      have size : (front ++ (pulled ++ k.closer :: back)).length = t.length := by
        rw [whole]
        simp only [List.length_append, List.length_cons]
        omega
      exact size ▸ inside
  | barfForward =>
      obtain ⟨-, k, -, front, gap, pushed, back, -, -, whole, -, -, -, -, -, rfl⟩ :=
        Text.exists_cut_of_barfForward done
      have wider : gap.length ≤ (Text.barfGap gap).length := by
        unfold Text.barfGap
        split_ifs with empty
        · simp [empty]
        · exact Nat.le_refl _
      have size :
          t.length ≤ (front ++ k.closer :: (Text.barfGap gap ++ (pushed ++ back))).length := by
        rw [whole]
        simp only [List.length_append, List.length_cons]
        omega
      exact Nat.le_trans inside size

private theorem BufferEdit.caret_le {t u : Text} {caret place : Nat}
    (edit : BufferEdit t caret u place) (inside : caret ≤ t.length) : place ≤ u.length := by
  cases edit with
  | inserted added short =>
      simp only [List.length_append, List.length_take, List.length_drop]
      omega
  | deletedAt inside =>
      rw [List.length_eraseIdx_of_lt inside]
      omega
  | deletedBefore behind =>
      rw [List.length_eraseIdx_of_lt (by omega)]
      omega
  | patched done => exact Command.offset_le_of_apply done

namespace Editor

/-! ## One key press -/

/-- What a key press can do: edit the buffer, keep it, or write it to its file, which can fail. -/
inductive Step (e : Editor) (files : FileTree) : Turn → Prop
  | edits {buffer : Text} {caret : Nat} (status : String) :
      BufferEdit e.buffer e.caret buffer caret →
        Step e files ⟨{ e with buffer, caret, status, dirty := true }, files, [], .proceed⟩
  | keeps {caret : Nat} (status : String) (flash : Option Flash) (log : List LogRecord)
      {outcome : Outcome} : caret ≤ e.buffer.length → (∀ err, outcome ≠ .failed err) →
        Step e files ⟨{ e with caret, status, flash }, files, log, outcome⟩
  | saves {written : FileTree} (status : String) (log : List LogRecord) :
      files.write e.path (String.ofList e.buffer) = .ok written →
        Step e files ⟨{ e with status, dirty := false }, written, log, .proceed⟩
  | fails {cause : FileError} : files.write e.path (String.ofList e.buffer) = .error cause →
      Step e files ⟨e, files, [], .failed (.writing e.path cause)⟩

variable {e : Editor} (files : FileTree)

private theorem step_insert (e : Editor) (c : Char) :
    e.Step files (keepFiles files (e.insert c, [])) :=
  .edits e.status (.inserted [c] (.inl ⟨c, rfl⟩))

theorem caret_le_insert (inside : e.caret ≤ e.buffer.length) (c : Char) :
    (e.insert c).caret ≤ (e.insert c).buffer.length := by
  simp only [insert, List.length_append, List.length_cons, List.length_take, List.length_drop]
  omega

theorem foldl_insert (inside : e.caret ≤ e.buffer.length) (added : List Char) :
    added.foldl insert e =
      { e with
        buffer := e.buffer.take e.caret ++ (added ++ e.buffer.drop e.caret)
        caret := e.caret + added.length
        dirty := e.dirty || !added.isEmpty } := by
  induction added generalizing e with
  | nil => simp
  | cons c added ih =>
      have first : (e.buffer.take e.caret ++ [c]).length = e.caret + 1 := by
        rw [List.length_append, List.length_take_of_le inside]
        rfl
      have whole : (e.insert c).buffer =
          (e.buffer.take e.caret ++ [c]) ++ e.buffer.drop e.caret := by
        rw [List.append_assoc]
        rfl
      have place : (e.insert c).caret = (e.buffer.take e.caret ++ [c]).length := first.symm
      rw [List.foldl_cons, ih (caret_le_insert inside c), whole, place, List.take_left,
        List.drop_left, first]
      simp [insert, Nat.add_comm, Nat.add_left_comm]

private theorem step_delete (inside : e.caret ≤ e.buffer.length) :
    e.Step files (keepFiles files (e.delete, [])) := by
  unfold delete
  split_ifs with atEnd
  · exact .keeps e.status e.flash [] inside (by simp)
  · exact .edits e.status (.deletedAt (by omega))

private theorem step_backspace (inside : e.caret ≤ e.buffer.length) :
    e.Step files (keepFiles files (e.backspace, [])) := by
  unfold backspace
  split
  · exact .keeps e.status e.flash [] inside (by simp)
  · rename_i caret behind
    have edit : BufferEdit e.buffer e.caret (e.buffer.eraseIdx caret) caret := by
      rw [behind]
      exact .deletedBefore (Nat.succ_pos caret)
    have deleted : delete { e with caret } =
        { e with buffer := e.buffer.eraseIdx caret, caret, dirty := true } :=
      if_neg (by rw [behind] at inside; exact Nat.not_le.mpr inside)
    rw [deleted]
    exact .edits e.status edit

private theorem step_moveTo (e : Editor) (p : Position) :
    e.Step files (keepFiles files (e.moveTo p, [])) :=
  .keeps e.status e.flash [] (Text.offsetAt_le_length _ _) (by simp)

private theorem step_type (inside : e.caret ≤ e.buffer.length) (key : Key) :
    e.Step files (keepFiles files (e.type key, [])) := by
  have same : e.Step files (keepFiles files (e, [])) := .keeps e.status e.flash [] inside (by simp)
  unfold type
  cases key.code with
  | left => exact .keeps e.status e.flash [] (by omega) (by simp)
  | right => exact .keeps e.status e.flash [] (by omega) (by simp)
  | up =>
      simp only [moveUp]
      split
      · exact same
      · exact step_moveTo files e _
  | down => exact step_moveTo files e _
  | home => exact step_moveTo files e _
  | lineEnd => exact step_moveTo files e _
  | backspace => exact step_backspace files inside
  | delete => exact step_delete files inside
  | enter => exact step_insert files e '\n'
  | tab =>
      have spaces := foldl_insert inside [' ', ' ']
      simp only [List.foldl_cons, List.foldl_nil] at spaces
      simp only [spaces, List.isEmpty_cons, Bool.not_false, Bool.or_true]
      exact .edits e.status (.inserted [' ', ' '] (.inr rfl))
  | char c =>
      simp only
      split
      · exact same
      · exact step_insert files e c
  | escape | backTab | insert | pageUp | pageDown | null | function n => exact same

private theorem step_apply (inside : e.caret ≤ e.buffer.length) (command : Command) :
    e.Step files (keepFiles files (e.apply command)) := by
  unfold apply
  split
  · rename_i patch done
    exact .edits command.label (.patched done)
  · exact .keeps _ e.flash _ inside (by simp)

private theorem step_evalLastForm (inside : e.caret ≤ e.buffer.length) (now : Nat) :
    e.Step files (keepFiles files (e.evalLastForm now)) := by
  unfold evalLastForm
  split
  · exact .keeps _ _ _ inside (by simp)
  · exact .keeps _ e.flash _ inside (by simp)

private theorem step_save (e : Editor) : e.Step files (e.save files) := by
  unfold save
  split
  · rename_i written done
    exact .saves _ _ done
  · rename_i cause denied
    exact .fails denied

private theorem step_press (inside : e.caret ≤ e.buffer.length) (now : Nat) (key : Key) :
    e.Step files (e.press files now key) := by
  unfold press
  split
  · rename_i action bound
    cases action with
    | slurpForward => exact step_apply files inside .slurpForward
    | barfForward => exact step_apply files inside .barfForward
    | evalLastForm => exact step_evalLastForm files inside now
    | save => exact step_save files e
    | quit => exact .keeps e.status e.flash [] inside (by simp)
  · exact step_type files inside key

private theorem outcome_save_eq_failed (e : Editor) {err : EditorError} :
    (e.save files).outcome = .failed err ↔
      ∃ cause, err = .writing e.path cause ∧
        files.write e.path (String.ofList e.buffer) = .error cause := by
  unfold save
  split
  · rename_i written done
    simp [done]
  · rename_i cause denied
    simp [denied, eq_comm]

private theorem press_of_action {key : Key} {action : Action}
    (bound : key.name?.bind e.config.actionFor? = some action) (now : Nat) :
    e.press files now key = e.run files now action := by
  rw [press, bound]

private theorem outcome_press_eq_failed (e : Editor) (now : Nat) (key : Key) {err : EditorError} :
    (e.press files now key).outcome = .failed err ↔
      key.name?.bind e.config.actionFor? = some .save ∧
        ∃ cause, err = .writing e.path cause ∧
          files.write e.path (String.ofList e.buffer) = .error cause := by
  rcases bound : key.name?.bind e.config.actionFor? with _ | action
  · simp [press, bound, keepFiles]
  · rw [press_of_action files bound]
    cases action with
    | save => simpa [run] using outcome_save_eq_failed files e
    | slurpForward | barfForward | evalLastForm | quit => simp [run, keepFiles]

private theorem press_deny {key : Key} (bound : key.name?.bind e.config.actionFor? = some .save)
    (reason : String) (now : Nat) :
    ∃ cause, e.press (files.deny reason) now key =
      ⟨e, files.deny reason, [], .failed (.writing e.path cause)⟩ := by
  obtain ⟨cause, denied⟩ :=
    files.exists_error_of_deny reason e.path (String.ofList e.buffer)
  refine ⟨cause, ?_⟩
  rw [press_of_action _ bound, run, save, denied]

variable {files} {turn : Turn}

private theorem Step.caret_le (step : e.Step files turn) (inside : e.caret ≤ e.buffer.length) :
    turn.editor.caret ≤ turn.editor.buffer.length := by
  cases step with
  | edits status edit => exact edit.caret_le inside
  | keeps status flash log inside _ => exact inside
  | saves _ _ _ => exact inside
  | fails _ => exact inside

private theorem Step.path_eq (step : e.Step files turn) : turn.editor.path = e.path := by
  cases step <;> rfl

private theorem Step.buffer_eq_or_edit (step : e.Step files turn) :
    turn.editor.buffer = e.buffer ∨
      BufferEdit e.buffer e.caret turn.editor.buffer turn.editor.caret := by
  cases step with
  | edits status edit => exact .inr edit
  | keeps _ _ _ _ _ => exact .inl rfl
  | saves _ _ _ => exact .inl rfl
  | fails _ => exact .inl rfl

private theorem Step.eq_of_failed (step : e.Step files turn) {err : EditorError}
    (failed : turn.outcome = .failed err) : turn.editor = e ∧ turn.files = files := by
  cases step with
  | edits _ _ => cases failed
  | keeps _ _ _ _ proceeds => exact absurd failed (proceeds err)
  | saves _ _ _ => cases failed
  | fails _ => exact ⟨rfl, rfl⟩

/-- Whether the buffer is what the file reads, unless it counts as changed. -/
def Faithful (e : Editor) (files : FileTree) : Prop :=
  e.dirty = false → fileBuffer files e.path = .ok e.buffer

private theorem fileBuffer_of_write {path : String} {buffer : Text} {written : FileTree}
    (done : files.write path (String.ofList buffer) = .ok written) :
    fileBuffer written path = .ok buffer := by
  rw [fileBuffer, if_pos (FileTree.hasPath_of_write done), FileTree.read_of_write done]
  exact congrArg Except.ok String.toList_ofList

/-- An edit marks the buffer as changed, and only a write takes the mark away. -/
theorem Step.faithful (step : e.Step files turn) (before : e.Faithful files) :
    turn.editor.Faithful turn.files := by
  cases step with
  | edits _ _ =>
      intro clean
      cases clean
  | keeps _ _ _ _ _ => exact before
  | saves _ _ done =>
      intro _
      exact fileBuffer_of_write done
  | fails _ => exact before

private theorem fileBuffer_of_openFile {path : String} {config : Config} {log : List LogRecord}
    (done : openFile files path config = .ok (e, log)) :
    fileBuffer files path = .ok e.buffer ∧ e.path = path ∧ e.caret = 0 := by
  unfold openFile at done
  split at done
  · cases done
  · rename_i buffer found
    cases done
    exact ⟨found, rfl, rfl⟩

private theorem exists_openFile_of_fileBuffer {path : String} {buffer : Text}
    (found : fileBuffer files path = .ok buffer) (config : Config) :
    ∃ (fresh : Editor) (log : List LogRecord),
      openFile files path config = .ok (fresh, log) ∧ fresh.buffer = buffer := by
  simp only [openFile, found]
  exact ⟨_, _, rfl, rfl⟩

end Editor

/-! ## Sessions -/

/-- The states of the editor and of the files in a session with a file. What others do to the files
between two key presses is one of the changes `others`. -/
inductive Session (others : FileTree → FileTree → Prop) (path : String) (config : Config) :
    Editor → FileTree → Prop
  | opened {e : Editor} {files : FileTree} {log : List LogRecord} :
      Editor.openFile files path config = .ok (e, log) → Session others path config e files
  | pressed {e : Editor} {files : FileTree} (now : Nat) (key : Key) :
      Session others path config e files →
        Session others path config (e.press files now key).editor (e.press files now key).files
  | elsewhere {e : Editor} {files changed : FileTree} :
      Session others path config e files → others files changed →
        Session others path config e changed

/-- Whether a change of the files leaves alone what the file at the path reads. -/
def FileTree.Spares (path : String) (files changed : FileTree) : Prop :=
  Editor.fileBuffer changed path = Editor.fileBuffer files path

namespace Session

variable {others : FileTree → FileTree → Prop} {path : String} {config : Config} {e : Editor}
  {files : FileTree}

private theorem caret_le (s : Session others path config e files) : e.caret ≤ e.buffer.length := by
  induction s with
  | opened done =>
      obtain ⟨-, -, start⟩ := Editor.fileBuffer_of_openFile done
      rw [start]
      exact Nat.zero_le _
  | pressed now key _ ih => exact (Editor.step_press _ ih now key).caret_le ih
  | elsewhere _ _ ih => exact ih

private theorem path_eq (s : Session others path config e files) : e.path = path := by
  induction s with
  | opened done => exact (Editor.fileBuffer_of_openFile done).2.1
  | pressed now key before ih =>
      exact (Editor.step_press _ before.caret_le now key).path_eq.trans ih
  | elsewhere _ _ ih => exact ih

private theorem faithful (s : Session others path config e files)
    (alone : ∀ before after, others before after → before.Spares path after) :
    e.Faithful files := by
  induction s with
  | opened done =>
      obtain ⟨found, same, -⟩ := Editor.fileBuffer_of_openFile done
      intro _
      rw [same]
      exact found
  | pressed now key before ih => exact (Editor.step_press _ before.caret_le now key).faithful ih
  | elsewhere before change ih =>
      intro clean
      rw [before.path_eq]
      have found := ih clean
      rw [before.path_eq] at found
      exact (alone _ _ change).trans found

/-- In a session, whatever others do to the files, the caret is never behind the end of the buffer,
and a key press either keeps the buffer or edits it at the caret. -/
theorem caret_le_and_press_edits (s : Session others path config e files) :
    e.caret ≤ e.buffer.length ∧
    ∀ (now : Nat) (key : Key),
      (e.press files now key).editor.caret ≤ (e.press files now key).editor.buffer.length ∧
      ((e.press files now key).editor.buffer = e.buffer ∨
        BufferEdit e.buffer e.caret (e.press files now key).editor.buffer
          (e.press files now key).editor.caret) := by
  refine ⟨s.caret_le, ?_⟩
  intro now key
  have step := Editor.step_press files s.caret_le now key
  exact ⟨step.caret_le s.caret_le, step.buffer_eq_or_edit⟩

theorem press_edits_of_bound_tab :
    let config : Config := ⟨500, none, [("tab", .slurpForward)]⟩
    let files : FileTree := { nodes := [(["s.clj"], .file "(a)\nb".toUTF8)] }
    let e : Editor := ⟨"s.clj", config, "(a)\nb".toList, 1, "", none, false⟩
    Session (fun _ _ => True) "s.clj" config e files ∧
    (e.press files 0 { code := .tab }).editor.buffer = "(a\nb)".toList ∧
    (e.press files 0 { code := .tab }).editor.caret ≤ 5 ∧
    BufferEdit "(a)\nb".toList 1 "(a\nb)".toList 1 := by
  intro config files e
  have opened : Editor.openFile files "s.clj" config =
      .ok ({ e with caret := 0 }, [⟨.info, "opened s.clj (5 chars)"⟩]) := rfl
  have s : Session (fun _ _ => True) "s.clj" config e files :=
    (Session.opened opened).pressed 0 { code := .right }
  have slurped : (e.press files 0 { code := .tab }).editor.buffer = "(a\nb)".toList := rfl
  obtain ⟨inside, same | edit⟩ := (caret_le_and_press_edits s).2 0 { code := .tab }
  · exact absurd (slurped.symm.trans same) (by decide)
  · exact ⟨s, slurped, inside, edit⟩

/-- In a session in which nobody else writes the file, a buffer that does not count as changed is
the one that opening the file again gives. Whatever others do to the files, a key press fails
exactly if its key saves and the file cannot be written, and then it changes nothing; and if the
system denies writing, every save fails. -/
theorem clean_reopens_and_failed_keeps (s : Session others path config e files) :
    ((∀ before after, others before after → before.Spares path after) →
      e.dirty = false → ∀ config : Config, ∃ (fresh : Editor) (log : List LogRecord),
        Editor.openFile files e.path config = .ok (fresh, log) ∧ fresh.buffer = e.buffer) ∧
    ∀ (now : Nat) (key : Key),
      (∀ err, (e.press files now key).outcome = .failed err ↔
        key.name?.bind e.config.actionFor? = some .save ∧
          ∃ cause, err = .writing e.path cause ∧
            files.write e.path (String.ofList e.buffer) = .error cause) ∧
      (∀ err, (e.press files now key).outcome = .failed err →
        (e.press files now key).editor = e ∧ (e.press files now key).files = files) ∧
      (key.name?.bind e.config.actionFor? = some .save → ∀ reason, ∃ cause,
        e.press (files.deny reason) now key =
          ⟨e, files.deny reason, [], .failed (.writing e.path cause)⟩) := by
  constructor
  · intro alone clean config
    exact Editor.exists_openFile_of_fileBuffer (s.faithful alone clean) config
  · intro now key
    refine ⟨fun err => Editor.outcome_press_eq_failed files e now key, ?_, ?_⟩
    · intro err failed
      exact (Editor.step_press files s.caret_le now key).eq_of_failed failed
    · intro bound reason
      exact Editor.press_deny files bound reason now

/-- A file that was saved, and then a disk that is full. -/
theorem saved_reopens_and_failed_save_keeps :
    let config : Config := ⟨500, none, [("ctrl+s", .save)]⟩
    let save : Key := { code := .char 's', ctrl := true }
    let saved : Editor := ⟨"s.clj", config, "x(".toList, 1, "saved s.clj", none, false⟩
    let files : FileTree := { nodes := [(["s.clj"], .file "x(".toUTF8)] }
    let full : FileTree := files.deny "No space left on device (os error 28)"
    let typed : Editor := ⟨"s.clj", config, "xy(".toList, 2, "saved s.clj", none, true⟩
    let failed : EditorError :=
      .writing "s.clj" (.denied "No space left on device (os error 28)")
    (Session (FileTree.Spares "s.clj") "s.clj" config saved files ∧
      ∃ (fresh : Editor) (log : List LogRecord),
        Editor.openFile files "s.clj" .default = .ok (fresh, log) ∧
          fresh.buffer = "x(".toList) ∧
    Session (FileTree.Spares "s.clj") "s.clj" config typed full ∧
    full.read "s.clj" = .ok "x(" ∧
    (typed.press full 0 save).outcome = .failed failed ∧
    (typed.press full 0 save).editor = typed ∧ (typed.press full 0 save).files = full := by
  intro config save saved files full typed failed
  let old : FileTree := { nodes := [(["s.clj"], .file "(".toUTF8)] }
  let first : Editor := ⟨"s.clj", config, "(".toList, 0, "", none, false⟩
  have opened : Editor.openFile old "s.clj" config =
      .ok (first, [⟨.info, "opened s.clj (1 chars)"⟩]) := rfl
  have changes : first.press old 0 { code := .char 'x' } =
      ⟨{ first with buffer := "x(".toList, caret := 1, dirty := true }, old, [], .proceed⟩ := rfl
  have saves : { first with buffer := "x(".toList, caret := 1, dirty := true }.press old 0 save =
      ⟨saved, files, [⟨.info, "saved s.clj"⟩], .proceed⟩ := by
    dsimp only [first, save, saved, old, files, config]
    rfl
  have s : Session (FileTree.Spares "s.clj") "s.clj" config first old := .opened opened
  have s₁ : Session (FileTree.Spares "s.clj") "s.clj" config saved files := by
    have next := (s.pressed 0 { code := .char 'x' }).pressed 0 save
    rwa [changes, saves] at next
  have types : saved.press full 0 { code := .char 'y' } = ⟨typed, full, [], .proceed⟩ := rfl
  have s₂ : Session (FileTree.Spares "s.clj") "s.clj" config typed full := by
    have next := (s₁.elsewhere (show files.Spares "s.clj" full from rfl)).pressed 0
      { code := .char 'y' }
    rwa [types] at next
  have kept : full.read "s.clj" = .ok "x(" := rfl
  have fails : (typed.press full 0 save).outcome = .failed failed := by
    dsimp only [typed, save, config]
    rfl
  obtain ⟨reopens, -⟩ := clean_reopens_and_failed_keeps s₁
  obtain ⟨-, presses⟩ := clean_reopens_and_failed_keeps s₂
  obtain ⟨-, keeps, -⟩ := presses 0 save
  exact ⟨⟨s₁, reopens (fun _ _ spares => spares) rfl .default⟩, s₂, kept, fails, keeps _ fails⟩

end Session

end LispEditor
