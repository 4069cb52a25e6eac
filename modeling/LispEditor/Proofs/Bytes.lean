import LispEditor.Editor.Turn

set_option autoImplicit false
set_option relaxedAutoImplicit false

/-!
# Buffers in UTF-8

A buffer is held in UTF-8, in which a character takes up to four bytes, while the caret counts
characters. An edit looks for the byte at which the character at the caret begins and changes the
bytes there; it fails if no character begins or ends at that byte. The edits of the editor never
fail so, and give the bytes of the text that they give.
-/

namespace LispEditor

def Text.bytes (t : Text) : List UInt8 :=
  t.flatMap String.utf8EncodeChar

/-- A buffer in UTF-8, with a caret that counts characters. -/
structure ByteBuffer where
  bytes : List UInt8
  caret : Nat
  deriving DecidableEq, Repr

namespace ByteBuffer

/-- The indices at which characters begin, in bytes from index `here` on. -/
def startsFrom (here : Nat) : List UInt8 → List Nat
  | [] => []
  | byte :: rest =>
      if byte.IsUTF8FirstByte then here :: startsFrom (here + 1) rest
      else startsFrom (here + 1) rest

def length (b : ByteBuffer) : Nat :=
  (startsFrom 0 b.bytes).length

/-- The index at which the character at the caret begins, or the end of the bytes. -/
def index (b : ByteBuffer) : Nat :=
  (startsFrom 0 b.bytes)[b.caret]?.getD b.bytes.length

/-- Put a character in at the caret, if no character is cut apart there. -/
def insert? (b : ByteBuffer) (c : Char) : Option ByteBuffer :=
  let behind := b.bytes.drop b.index
  if behind.head?.all (·.IsUTF8FirstByte) then
    some ⟨b.bytes.take b.index ++ (String.utf8EncodeChar c ++ behind), b.caret + 1⟩
  else none

/-- Take the character at the caret out, with all bytes up to the next one that begins a character,
if a character begins there. -/
def delete? (b : ByteBuffer) : Option ByteBuffer :=
  if b.length ≤ b.caret then some b
  else
    match b.bytes.drop b.index with
    | [] => none
    | first :: rest =>
        if first.IsUTF8FirstByte then
          some { b with
            bytes := b.bytes.take b.index ++ rest.dropWhile fun byte => !byte.IsUTF8FirstByte }
        else none

def backspace? (b : ByteBuffer) : Option ByteBuffer :=
  match b.caret with
  | 0 => some b
  | caret + 1 => delete? { b with caret }

end ByteBuffer

def Editor.byteBuffer (e : Editor) : ByteBuffer :=
  ⟨e.buffer.bytes, e.caret⟩

/-! ## Bytes of characters -/

private theorem exists_first_byte (c : Char) :
    ∃ first rest, String.utf8EncodeChar c = first :: rest ∧ first.IsUTF8FirstByte ∧
      ∀ byte ∈ rest, ¬ byte.IsUTF8FirstByte := by
  cases encoded : String.utf8EncodeChar c with
  | nil => exact absurd encoded String.utf8EncodeChar_ne_nil
  | cons first rest =>
      refine ⟨first, rest, rfl, ?_, ?_⟩
      · have zeroth : 0 < (String.utf8EncodeChar c).length := by simp [encoded]
        have begins := (@UInt8.isUTF8FirstByte_getElem_utf8EncodeChar c 0 zeroth).mpr rfl
        simpa [encoded] using begins
      · intro byte there
        obtain ⟨i, below, rfl⟩ := List.mem_iff_getElem.mp there
        have later : i + 1 < (String.utf8EncodeChar c).length := by simpa [encoded] using below
        have inside := mt (@UInt8.isUTF8FirstByte_getElem_utf8EncodeChar c (i + 1) later).mp
          (Nat.succ_ne_zero i)
        simpa [encoded] using inside

namespace Text

private theorem bytes_append (t u : Text) : bytes (t ++ u) = t.bytes ++ u.bytes :=
  List.flatMap_append

private theorem bytes_cons (c : Char) (t : Text) :
    bytes (c :: t) = String.utf8EncodeChar c ++ t.bytes :=
  List.flatMap_cons

private theorem bytes_eq_append (t : Text) (offset : Nat) :
    t.bytes = bytes (t.take offset) ++ bytes (t.drop offset) := by
  rw [← bytes_append, List.take_append_drop]

private theorem head?_bytes (t : Text) : t.bytes.head?.all (·.IsUTF8FirstByte) = true := by
  cases t with
  | nil => rfl
  | cons c t =>
      obtain ⟨first, inner, encoded, begins, -⟩ := exists_first_byte c
      simp [bytes_cons, encoded, begins]

private theorem dropWhile_bytes {inner : List UInt8}
    (others : ∀ byte ∈ inner, ¬ byte.IsUTF8FirstByte) (t : Text) :
    (inner ++ t.bytes).dropWhile (fun byte => !byte.IsUTF8FirstByte) = t.bytes := by
  rw [List.dropWhile_append_of_pos (by simpa using others)]
  have begins := t.head?_bytes
  cases bytes : t.bytes with
  | nil => rfl
  | cons first rest =>
      rw [bytes] at begins
      exact List.dropWhile_cons_of_neg (by simpa using begins)

end Text

namespace ByteBuffer

private theorem startsFrom_of_inner {bytes : List UInt8}
    (inner : ∀ byte ∈ bytes, ¬ byte.IsUTF8FirstByte) (here : Nat) (rest : List UInt8) :
    startsFrom here (bytes ++ rest) = startsFrom (here + bytes.length) rest := by
  induction bytes generalizing here with
  | nil => rfl
  | cons byte bytes ih =>
      obtain ⟨this, later⟩ := List.forall_mem_cons.mp inner
      rw [List.cons_append, startsFrom, if_neg this, ih later, List.length_cons]
      congr 1
      omega

private theorem startsFrom_char (here : Nat) (c : Char) (rest : List UInt8) :
    startsFrom here (String.utf8EncodeChar c ++ rest) =
      here :: startsFrom (here + (String.utf8EncodeChar c).length) rest := by
  obtain ⟨first, inner, encoded, begins, others⟩ := exists_first_byte c
  rw [encoded, List.cons_append, startsFrom, if_pos begins, startsFrom_of_inner others,
    List.length_cons]
  congr 2
  omega

private theorem length_startsFrom (here : Nat) (t : Text) :
    (startsFrom here t.bytes).length = t.length := by
  induction t generalizing here with
  | nil => rfl
  | cons c t ih => rw [Text.bytes_cons, startsFrom_char, List.length_cons, ih, List.length_cons]

private theorem getElem?_startsFrom (here : Nat) (t : Text) (offset : Nat) :
    (startsFrom here t.bytes)[offset]?.getD (here + t.bytes.length) =
      here + (Text.bytes (t.take offset)).length := by
  induction t generalizing here offset with
  | nil => simp [Text.bytes, startsFrom]
  | cons c t ih =>
      rw [Text.bytes_cons, startsFrom_char, List.length_append]
      cases offset with
      | zero => rfl
      | succ offset =>
          rw [List.getElem?_cons_succ, ← Nat.add_assoc, ih, List.take_succ_cons, Text.bytes_cons,
            List.length_append, Nat.add_assoc]

end ByteBuffer

namespace Editor

variable (e : Editor)

private theorem length_byteBuffer : e.byteBuffer.length = e.buffer.length :=
  ByteBuffer.length_startsFrom 0 e.buffer

private theorem index_byteBuffer :
    e.byteBuffer.index = (Text.bytes (e.buffer.take e.caret)).length := by
  have found := ByteBuffer.getElem?_startsFrom 0 e.buffer e.caret
  rw [Nat.zero_add, Nat.zero_add] at found
  exact found

private theorem take_index_byteBuffer :
    e.byteBuffer.bytes.take e.byteBuffer.index = Text.bytes (e.buffer.take e.caret) := by
  rw [index_byteBuffer, byteBuffer, e.buffer.bytes_eq_append e.caret, List.take_left]

private theorem drop_index_byteBuffer :
    e.byteBuffer.bytes.drop e.byteBuffer.index = Text.bytes (e.buffer.drop e.caret) := by
  rw [index_byteBuffer, byteBuffer, e.buffer.bytes_eq_append e.caret, List.drop_left]

/-! ## Edits -/

theorem insert?_byteBuffer (c : Char) :
    e.byteBuffer.insert? c = some (e.insert c).byteBuffer := by
  simp only [ByteBuffer.insert?, drop_index_byteBuffer, take_index_byteBuffer]
  rw [if_pos (Text.head?_bytes _), ← Text.bytes_cons, ← Text.bytes_append]
  rfl

private theorem delete?_byteBuffer : e.byteBuffer.delete? = some e.delete.byteBuffer := by
  rw [ByteBuffer.delete?, length_byteBuffer, delete]
  by_cases past : e.buffer.length ≤ e.caret
  · rw [if_pos past, if_pos]
    exact past
  · obtain ⟨c, rest, behind⟩ : ∃ c rest, e.buffer.drop e.caret = c :: rest :=
      List.exists_cons_of_ne_nil (by simpa using past)
    have erased : e.buffer.eraseIdx e.caret = e.buffer.take e.caret ++ rest := by
      have next : e.buffer.drop (e.caret + 1) = rest := by
        rw [← List.drop_drop, behind]
        rfl
      rw [List.eraseIdx_eq_take_drop_succ, next]
    obtain ⟨first, inner, encoded, begins, others⟩ := exists_first_byte c
    rw [if_neg past, if_neg]
    · rw [drop_index_byteBuffer, behind, Text.bytes_cons, encoded, List.cons_append]
      dsimp only
      rw [if_pos begins, take_index_byteBuffer, Text.dropWhile_bytes others,
        ← Text.bytes_append, ← erased]
      rfl
    · exact past

theorem backspace?_byteBuffer : e.byteBuffer.backspace? = some e.backspace.byteBuffer := by
  change (match e.caret with
    | 0 => some e.byteBuffer
    | caret + 1 => ByteBuffer.delete? ⟨e.buffer.bytes, caret⟩) = _
  unfold backspace
  cases e.caret with
  | zero => rfl
  | succ caret => exact delete?_byteBuffer { e with caret }

end Editor

end LispEditor
