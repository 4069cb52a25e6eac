import LispEditor.Proofs.Extents
import LispEditor.Proofs.Reading

set_option autoImplicit false
set_option relaxedAutoImplicit false

/-!
# How the scans agree

In any text, well nested or not, the scan for the list around an offset and the reader of the next
form see the same lists. A list that is around some offset is what the reader finds at its opener,
and a list that the reader finds is the one around the offset right behind its opener. A form is
found again at its own start.
-/

namespace LispEditor

namespace Text

variable {t : Text} {offset start : Nat} {k : Delimiter} {f : Form}

private theorem drop_eq_cons {c : Char} (here : t[start]? = some c) :
    t.drop start = c :: t.drop (start + 1) := by
  obtain ⟨inside, rfl⟩ := List.getElem?_eq_some_iff.mp here
  exact List.drop_eq_getElem_cons inside

private theorem formAt?_of_nextForm? (h : t.nextForm? offset = some f) :
    ∃ c, t.FirstSolid offset f.span.start ∧ t[f.span.start]? = some c ∧ isBlank c = false ∧
      formAt? f.span.start c (t.drop (f.span.start + 1)) = some f := by
  obtain ⟨start, found, h⟩ := Option.bind_eq_some_iff.mp h
  have first := firstSolid_of_solidFrom? found
  obtain ⟨c, here, solid⟩ := first.solid
  rw [drop_eq_cons here] at h
  have begins : f.span.start = start := (formAt?_span h).1
  rw [begins]
  exact ⟨c, first, here, solid, h⟩

theorem nextForm?_of_solid {c : Char} (here : t[start]? = some c) (solid : isBlank c = false) :
    t.nextForm? start = formAt? start c (t.drop (start + 1)) :=
  nextForm?_of_drop_eq_solid (drop_eq_cons here) solid

private theorem nextForm?_start (h : t.nextForm? offset = some f) :
    t.nextForm? f.span.start = some f := by
  obtain ⟨c, -, here, solid, found⟩ := formAt?_of_nextForm? h
  rw [nextForm?_of_solid here solid, found]

private theorem nextForm?_of_opener (here : t[start]? = some k.opener) :
    t.nextForm? start = (t.matchForward? start k).map fun stop => .list k ⟨start, stop⟩ := by
  rw [nextForm?_of_solid here k.isBlank_opener, formAt?, Delimiter.ofOpener?_opener, matchForward?]

private theorem nextForm?_eq_enclosing? (here : t[start]? = some k.opener) :
    t.nextForm? start = (t.enclosing? (start + 1)).map fun e => .list e.delimiter e.span := by
  rw [nextForm?_of_opener here, enclosing?_behind_opener here, Option.map_map]
  rfl

private theorem nextForm?_of_enclosing? {list : Span} (h : t.enclosing? offset = some ⟨list, k⟩) :
    t.nextForm? list.start = some (.list k list) := by
  obtain ⟨-, opens, found, -⟩ := enclosing?_eq_some_iff.mp h
  rw [nextForm?_of_opener opens, found]
  rfl

private theorem opener_of_formAt?_list {c : Char} {rest : Text} {list : Span}
    (h : formAt? start c rest = some (.list k list)) : c = k.opener := by
  unfold formAt? at h
  split at h
  · rename_i l opens
    obtain ⟨stop, -, same⟩ := Option.map_eq_some_iff.mp h
    cases same
    exact Delimiter.ofOpener?_eq_some.mp opens
  · split_ifs at h with quote closes
    · obtain ⟨stop, -, same⟩ := Option.map_eq_some_iff.mp h
      cases same
    · cases h

private theorem eq_list_iff_of_nextForm? (h : t.nextForm? offset = some f) (k : Delimiter) :
    f = .list k f.span ↔ t[f.span.start]? = some k.opener := by
  constructor
  · intro isList
    obtain ⟨c, -, here, -, found⟩ := formAt?_of_nextForm? h
    rw [here, opener_of_formAt?_list (found.trans (congrArg some isList))]
  · intro opens
    have again := nextForm?_start h
    rw [nextForm?_of_opener opens] at again
    obtain ⟨stop, -, same⟩ := Option.map_eq_some_iff.mp again
    rw [← same, Form.span]

private theorem matchForward?_of_nextForm? (h : t.nextForm? offset = some f)
    (opens : t[f.span.start]? = some k.opener) :
    t.matchForward? f.span.start k = some f.span.stop := by
  have again := nextForm?_start h
  rw [nextForm?_of_opener opens] at again
  obtain ⟨stop, found, same⟩ := Option.map_eq_some_iff.mp again
  rw [found, ← same, Form.span]

/-- In any text and for any offset: the list around the offset has it behind its opener and not
behind its end, stands between brackets of its kind, and is the form at its opener. The next form is
not empty and lies in the text, from the first character that is no blank on; it is found again at
its start, and it is a list exactly if an opener is there, up to the closer that the forward scan
finds. To read a list from an opener and to look for the list around the offset behind the opener is
the same. -/
theorem scans_cohere (t : Text) (offset : Nat) :
    (∀ (list : Span) (k : Delimiter), t.enclosing? offset = some ⟨list, k⟩ →
      list.start < min offset t.length ∧ min offset t.length ≤ list.stop ∧
        list.stop ≤ t.length ∧ t[list.start]? = some k.opener ∧
        t[list.stop - 1]? = some k.closer ∧ t.nextForm? list.start = some (.list k list)) ∧
    (∀ f, t.nextForm? offset = some f →
      f.span.start < f.span.stop ∧ t.FirstSolid offset f.span.start ∧ f.span.stop ≤ t.length ∧
        t.nextForm? f.span.start = some f ∧
        ∀ k, (f = .list k f.span ↔ t[f.span.start]? = some k.opener) ∧
          (f = .list k f.span → t.matchForward? f.span.start k = some f.span.stop)) ∧
    ∀ (start : Nat) (k : Delimiter), t[start]? = some k.opener →
      t.nextForm? start = (t.enclosing? (start + 1)).map fun e => .list e.delimiter e.span := by
  refine ⟨?_, ?_, fun start k here => nextForm?_eq_enclosing? here⟩
  · intro list k around
    obtain ⟨-, -, -, behind⟩ := enclosing?_eq_some_iff.mp around
    obtain ⟨delimits, inside⟩ := delimits_of_enclosing? around
    have proper := delimits.proper
    have short := (List.getElem?_eq_some_iff.mp delimits.closes).1
    exact ⟨inside, behind, by omega, delimits.opens, delimits.closes,
      nextForm?_of_enclosing? around⟩
  · intro f next
    obtain ⟨-, nonempty, short⟩ := bounds_of_nextForm? next
    obtain ⟨-, first, -, -, -⟩ := formAt?_of_nextForm? next
    refine ⟨nonempty, first, short, nextForm?_start next, ?_⟩
    intro k
    have isList := eq_list_iff_of_nextForm? next k
    exact ⟨isList, fun same => matchForward?_of_nextForm? next (isList.mp same)⟩

/-- Brackets that cross and one that closes nothing. -/
theorem scans_cohere_of_crossing :
    let t : Text := "] ([a) b]".toList
    (t.enclosing? 6 = some ⟨⟨2, 6⟩, .paren⟩ ∧ t.nextForm? 2 = some (.list .paren ⟨2, 6⟩)) ∧
    (t.nextForm? 1 = some (.list .paren ⟨2, 6⟩) ∧ t.FirstSolid 1 2 ∧
      t.matchForward? 2 .paren = some 6) ∧
    t[3]? = some Delimiter.bracket.opener ∧
    t.nextForm? 3 = (t.enclosing? 4).map fun e => .list e.delimiter e.span := by
  intro t
  have around : t.enclosing? 6 = some ⟨⟨2, 6⟩, .paren⟩ := by decide
  have next : t.nextForm? 1 = some (.list .paren ⟨2, 6⟩) := by decide
  have opens : t[3]? = some Delimiter.bracket.opener := by decide
  obtain ⟨ofAround, -, ofOpener⟩ := scans_cohere t 6
  obtain ⟨-, ofNext, -⟩ := scans_cohere t 1
  obtain ⟨-, -, -, -, -, found⟩ := ofAround _ _ around
  obtain ⟨-, first, -, -, isList⟩ := ofNext _ next
  exact ⟨⟨around, found⟩, ⟨next, first, (isList .paren).2 rfl⟩, opens, ofOpener 3 .bracket opens⟩

end Text

end LispEditor
