import LispEditor.Proofs.Reading

set_option autoImplicit false
set_option relaxedAutoImplicit false

/-!
# The document of a text

A text is that of at most one well-formed document. The first character shows what the document
begins with, and the characters of its first piece show where the piece ends: an atom goes as far as
the token characters do, a string up to the first quote that is not escaped, and a list up to the
closer behind its inside.
-/

namespace LispEditor

/-- What a level can begin with. -/
inductive Opening where
  | levelEnd
  | blank
  | atom
  | string
  | list
  deriving DecidableEq, Repr

namespace Text

/-- What a level with this text begins with, as its first character shows. -/
def opening : Text → Opening
  | [] => .levelEnd
  | c :: _ =>
      if isBlank c then .blank
      else if isOpener c then .list
      else if isCloser c then .levelEnd
      else if c = '"' then .string
      else .atom

def endsInToken (t : Text) : Bool :=
  t.getLast?.any isToken

def startsWithToken (t : Text) : Bool :=
  t.head?.any isToken

/-- Whether the text is that of the document, and of no other one. -/
structure ParsesAs (t : Text) (d : Document) : Prop where
  wellFormed : d.isWellFormed = true
  render : d.render = t
  unique : ∀ e : Document, e.isWellFormed = true → e.render = t → e = d

private theorem opening_of_endsLevel {t : Text} (h : t.EndsLevel) : t.opening = .levelEnd := by
  rcases h with rfl | ⟨k, rest, rfl⟩
  · rfl
  · simp [opening]

private theorem eq_of_isStringBody {body other : List Char} (hb : isStringBody '"' body = true)
    (ho : isStringBody '"' other = true) {rest more : Text}
    (h : body ++ '"' :: rest = other ++ '"' :: more) : body = other ∧ rest = more := by
  have first := stringEnd_of_isStringBody hb 0 rest
  rw [h, stringEnd_of_isStringBody ho 0 more, Option.some.injEq] at first
  obtain ⟨same, behind⟩ := List.append_inj h (by omega)
  exact ⟨same, (List.cons.inj behind).2⟩

private theorem eq_of_isToken {chars others rest more : List Char}
    (hc : ∀ c ∈ chars, isToken c = true) (ho : ∀ c ∈ others, isToken c = true)
    (hr : ∀ c ∈ rest.head?, isToken c = false) (hm : ∀ c ∈ more.head?, isToken c = false)
    (h : chars ++ rest = others ++ more) :
    chars = others ∧ rest = more := by
  have first := takeWhile_isToken hc hr
  rw [h, takeWhile_isToken ho hm] at first
  subst first
  exact ⟨rfl, List.append_cancel_left h⟩

end Text

namespace Document

def opening : Document → Opening
  | nil => .levelEnd
  | blank _ _ => .blank
  | atom _ _ => .atom
  | string _ _ => .string
  | list _ _ _ => .list

private theorem opening_render {d : Document} (wf : d.isWellFormed = true) {rest : Text}
    (ends : rest.EndsLevel) : (d.render ++ rest).opening = d.opening := by
  cases d with
  | nil => exact Text.opening_of_endsLevel ends
  | blank c d =>
      have blank := (wellFormed_blank.mp wf).1
      simp [render, Text.opening, blank, opening]
  | atom chars d =>
      obtain ⟨nonempty, tokens, -, -⟩ := wellFormed_atom.mp wf
      obtain ⟨c, chars, rfl⟩ := List.exists_cons_of_ne_nil nonempty
      obtain ⟨solid, opens, closes, quote⟩ := isToken_iff.mp (tokens c List.mem_cons_self)
      simp [render, Text.opening, solid, opens, closes, quote, opening]
  | string body d => rfl
  | list kind inside d => simp [render, Text.opening, opening]

private theorem opening_eq {d e : Document} (hd : d.isWellFormed = true)
    (he : e.isWellFormed = true) {rest more : Text} (hr : rest.EndsLevel) (hm : more.EndsLevel)
    (h : d.render ++ rest = e.render ++ more) : d.opening = e.opening := by
  rw [← opening_render hd hr, h, opening_render he hm]

private theorem eq_of_render_append {d e : Document} (hd : d.isWellFormed = true)
    (he : e.isWellFormed = true) {rest more : Text} (hr : rest.EndsLevel) (hm : more.EndsLevel)
    (h : d.render ++ rest = e.render ++ more) : d = e ∧ rest = more := by
  -- On the first document; the other one begins with a piece of the same sort.
  induction d generalizing e rest more with
  | nil =>
      have same := opening_eq hd he hr hm h
      cases e with
      | nil => exact ⟨rfl, h⟩
      | blank | atom | string | list => cases same
  | blank c d ih =>
      have same := opening_eq hd he hr hm h
      cases e with
      | blank b e =>
          obtain ⟨rfl, behind⟩ := List.cons.inj h
          have wfD := (wellFormed_blank.mp hd).2
          have wfE := (wellFormed_blank.mp he).2
          obtain ⟨rfl, ends⟩ := ih wfD wfE hr hm behind
          exact ⟨rfl, ends⟩
      | nil | atom | string | list => cases same
  | atom chars d ih =>
      have same := opening_eq hd he hr hm h
      cases e with
      | atom others e =>
          obtain ⟨-, tokens, apartD, wfD⟩ := wellFormed_atom.mp hd
          obtain ⟨-, tokensE, apartE, wfE⟩ := wellFormed_atom.mp he
          rw [render, render, List.append_assoc, List.append_assoc] at h
          obtain ⟨rfl, behind⟩ := Text.eq_of_isToken tokens tokensE
            (not_token_of_startsWithAtom wfD apartD hr)
            (not_token_of_startsWithAtom wfE apartE hm) h
          obtain ⟨rfl, ends⟩ := ih wfD wfE hr hm behind
          exact ⟨rfl, ends⟩
      | nil | blank | string | list => cases same
  | string body d ih =>
      have same := opening_eq hd he hr hm h
      cases e with
      | string other e =>
          obtain ⟨isBody, wfD⟩ := wellFormed_string.mp hd
          obtain ⟨isOther, wfE⟩ := wellFormed_string.mp he
          simp only [render, List.cons_append, List.append_assoc] at h
          obtain ⟨rfl, behind⟩ := Text.eq_of_isStringBody isBody isOther (List.cons.inj h).2
          obtain ⟨rfl, ends⟩ := ih wfD wfE hr hm behind
          exact ⟨rfl, ends⟩
      | nil | blank | atom | list => cases same
  | list kind inside d ihInside ih =>
      have same := opening_eq hd he hr hm h
      cases e with
      | list other inner e =>
          obtain ⟨wfInside, wfD⟩ := wellFormed_list.mp hd
          obtain ⟨wfInner, wfE⟩ := wellFormed_list.mp he
          simp only [render, List.cons_append, List.append_assoc] at h
          obtain ⟨kinds, within⟩ := List.cons.inj h
          obtain rfl := Delimiter.opener_inj.mp kinds
          have closed : ∀ t : Text, Text.EndsLevel (kind.closer :: t) :=
            fun t => .inr ⟨kind, t, rfl⟩
          obtain ⟨rfl, behind⟩ := ihInside wfInside wfInner (closed _) (closed _) within
          have behind := (List.cons.inj behind).2
          obtain ⟨rfl, ends⟩ := ih wfD wfE hr hm behind
          exact ⟨rfl, ends⟩
      | nil | blank | atom | string => cases same

/-- The text of a well-formed document is that of no other one. -/
theorem parsesAs_render {d : Document} (wf : d.isWellFormed = true) : d.render.ParsesAs d := by
  refine ⟨wf, rfl, ?_⟩
  intro e wfE same
  have whole : e.render ++ [] = d.render ++ [] := by rw [same]
  exact (eq_of_render_append wfE wf (.inl rfl) (.inl rfl) whole).1

theorem parsesAs_of_render_eq {d : Document} (wf : d.isWellFormed = true) {t : Text}
    (same : d.render = t) : t.ParsesAs d :=
  same ▸ parsesAs_render wf

/-! ## Where two documents meet -/

theorem startsWithToken_render {d : Document} (wf : d.isWellFormed = true) :
    d.render.startsWithToken = d.startsWithAtom := by
  cases d with
  | nil => rfl
  | blank c d =>
      have blank := (wellFormed_blank.mp wf).1
      simp [Text.startsWithToken, render, isToken_of_isBlank blank, startsWithAtom]
  | atom chars d =>
      obtain ⟨nonempty, tokens, -, -⟩ := wellFormed_atom.mp wf
      obtain ⟨c, chars, rfl⟩ := List.exists_cons_of_ne_nil nonempty
      simp [Text.startsWithToken, render, tokens c List.mem_cons_self, startsWithAtom]
  | string body d => rfl
  | list kind inside d => simp [Text.startsWithToken, render, startsWithAtom]

theorem exists_atom_of_startsWithAtom {d : Document} (h : d.startsWithAtom = true) :
    ∃ (chars : List Char) (rest : Document), d = atom chars rest := by
  cases d with
  | nil | blank | string | list => cases h
  | atom chars rest => exact ⟨chars, rest, rfl⟩

end Document

namespace Text

theorem startsWithToken_append {t : Text} (u : Text) (h : t ≠ []) :
    (t ++ u).startsWithToken = t.startsWithToken := by
  obtain ⟨c, t, rfl⟩ := List.exists_cons_of_ne_nil h
  rfl

theorem startsWithToken_of_append {t : Text} (u : Text) (h : t.startsWithToken = true) :
    (t ++ u).startsWithToken = true := by
  rw [startsWithToken_append u, h]
  rintro rfl
  cases h

theorem endsInToken_append {t u : Text} (h : u ≠ []) :
    (t ++ u).endsInToken = u.endsInToken := by
  rw [endsInToken, List.getLast?_append, List.getLast?_eq_some_getLast h, Option.some_or,
    endsInToken, List.getLast?_eq_some_getLast h]

private theorem endsInToken_of_append (t : Text) {u : Text} (h : u.endsInToken = true) :
    (t ++ u).endsInToken = true := by
  rw [endsInToken_append, h]
  rintro rfl
  cases h

theorem endsInToken_concat (t : Text) (c : Char) : (t ++ [c]).endsInToken = isToken c := by
  simp [endsInToken]

end Text

namespace Document

private theorem endsInToken_of_piece (piece : Text) {c : Char} (noToken : isToken c = false)
    {rest : Text} (h : Text.endsInToken ((piece ++ [c]) ++ rest) = true) :
    rest.endsInToken = true := by
  by_cases last : rest = []
  · rw [last, List.append_nil, Text.endsInToken_concat, noToken] at h
    cases h
  · rwa [Text.endsInToken_append last] at h

theorem exists_atom_of_endsInToken {d : Document} (wf : d.isWellFormed = true)
    (h : d.render.endsInToken = true) :
    ∃ (front : Document) (chars : List Char), d = front.append (atom chars nil) := by
  induction d with
  | nil => cases h
  | blank c d ih =>
      obtain ⟨blank, wfD⟩ := wellFormed_blank.mp wf
      have later := endsInToken_of_piece [] (isToken_of_isBlank blank) h
      obtain ⟨front, chars, rfl⟩ := ih wfD later
      exact ⟨.blank c front, chars, rfl⟩
  | atom more d ih =>
      have wfD := (wellFormed_atom.mp wf).2.2.2
      by_cases last : d.render = []
      · rw [eq_nil_of_render_eq_nil wfD last]
        exact ⟨nil, more, rfl⟩
      · rw [render, Text.endsInToken_append last] at h
        obtain ⟨front, chars, rfl⟩ := ih wfD h
        exact ⟨.atom more front, chars, rfl⟩
  | string body d ih =>
      rw [render_string] at h
      obtain ⟨front, chars, rfl⟩ := ih (wellFormed_string.mp wf).2
        (endsInToken_of_piece _ isToken_quote h)
      exact ⟨.string body front, chars, rfl⟩
  | list kind inside d _ ih =>
      rw [render_list] at h
      obtain ⟨front, chars, rfl⟩ := ih (wellFormed_list.mp wf).2
        (endsInToken_of_piece _ kind.isToken_closer h)
      exact ⟨.list kind inside front, chars, rfl⟩

theorem join_eq_append_of_apart {d e : Document} (hd : d.isWellFormed = true)
    (he : e.isWellFormed = true)
    (apart : ¬ (d.render.endsInToken = true ∧ e.render.startsWithToken = true)) :
    d.join e = d.append e := by
  fun_induction join d e with
  | case1 e => rfl
  | case2 c d e ih =>
      rw [append, ih (wellFormed_blank.mp hd).2 he]
      rintro ⟨last, first⟩
      exact apart ⟨Text.endsInToken_of_append [c] last, first⟩
  | case3 chars more rest =>
      obtain ⟨nonempty, tokens, -, -⟩ := wellFormed_atom.mp hd
      refine absurd ⟨?_, startsWithToken_render he⟩ apart
      rw [render, render, List.append_nil, Text.endsInToken,
        List.getLast?_eq_some_getLast nonempty]
      exact tokens _ (List.getLast_mem nonempty)
  | case4 chars d e _ ih =>
      rw [append, ih (wellFormed_atom.mp hd).2.2.2 he]
      rintro ⟨last, first⟩
      exact apart ⟨Text.endsInToken_of_append chars last, first⟩
  | case5 body d e ih =>
      rw [append, ih (wellFormed_string.mp hd).2 he]
      rintro ⟨last, first⟩
      rw [render_string] at apart
      exact apart ⟨Text.endsInToken_of_append _ last, first⟩
  | case6 kind inside d e ih =>
      rw [append, ih (wellFormed_list.mp hd).2 he]
      rintro ⟨last, first⟩
      rw [render_list] at apart
      exact apart ⟨Text.endsInToken_of_append _ last, first⟩

theorem wellFormed_append_of_apart {d e : Document} (hd : d.isWellFormed = true)
    (he : e.isWellFormed = true)
    (apart : ¬ (d.render.endsInToken = true ∧ e.render.startsWithToken = true)) :
    (d.append e).isWellFormed = true := by
  rw [← join_eq_append_of_apart hd he apart]
  exact wellFormed_join hd he

theorem join_atoms (front : Document) (chars more : List Char) (rest : Document) :
    (front.append (atom chars nil)).join (atom more rest) =
      front.append (atom (chars ++ more) rest) := by
  induction front with
  | nil => rfl
  | blank c d ih => simp only [append, join, ih]
  | atom others d ih =>
      have some : d.append (atom chars nil) ≠ nil := by cases d <;> simp [append]
      rw [append, join, ih, append]
      intro _ _ _ last
      exact some last
  | string body d ih => simp only [append, join, ih]
  | list kind inside d _ ih => simp only [append, join, ih]

end Document

end LispEditor
