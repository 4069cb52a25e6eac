import LispEditor.Proofs.Traps

set_option autoImplicit false
set_option relaxedAutoImplicit false

/-!
# Scans from a given start

The walk over the children of a list takes any span, whether a list is there or not: it may be
empty, end in front of its start or reach past the text. The offset of the walk grows from round to
round and stays in front of the end of the span, so the walk comes to its end, and what it finds
lies inside the span. On machine words only the sum in front of the walk can fail. Nothing is behind
the greatest word, and for a span that starts there the sum overflows.
-/

namespace LispEditor

namespace Checked

variable {t : Text}

/-- A round of the walk either ends it with the form that it has, or takes it past the next form, to
an offset that is greater and still in front of the end of the span. -/
theorem childLoop_cases (short : t.length < 2 ^ 63) (list : Span) (rounds here : Nat)
    (last : Option Form) :
    childLoop t list (list.stop - 1) (rounds + 1) here last = .ok last ∨
      ∃ f, here < f.span.stop ∧ f.span.stop < list.stop ∧
        childLoop t list (list.stop - 1) (rounds + 1) here last =
          childLoop t list (list.stop - 1) rounds f.span.stop (some f) := by
  rw [childLoop]
  split_ifs with inside
  · rw [nextForm?_eq short, ok_bind]
    cases next : t.nextForm? here with
    | none => exact .inl rfl
    | some f =>
        obtain ⟨first, proper, -⟩ := Text.bounds_of_nextForm? next
        dsimp only
        split_ifs with ends
        · exact .inl rfl
        · exact .inr ⟨f, by omega, by omega, rfl⟩
  · exact .inl rfl

private theorem lastChild?_of_overflow {list : Span} (great : 2 ^ 64 ≤ list.start + 1) (t : Text) :
    lastChild? t list = .error .overflow := by
  have sum : add list.start 1 = .error .overflow := if_neg (Nat.not_lt.mpr great)
  rw [lastChild?, sum]
  rfl

/-- For any span, and any text that a memory holds, which is less than 2 ^ 63 characters: each round
of the walk over the children moves it on, in front of the end of the span, or ends it. The walk
gives its answer exactly if the start of the span is not the greatest word; if it is, the sum in
front of the walk overflows. A form that it gives is not empty and lies inside the span, at neither
end of it, and in the text. -/
theorem lastChild?_stays_inside {t : Text} (short : t.length < 2 ^ 63) (list : Span) :
    (∀ (rounds here : Nat) (last : Option Form),
      childLoop t list (list.stop - 1) (rounds + 1) here last = .ok last ∨
        ∃ f, here < f.span.stop ∧ f.span.stop < list.stop ∧
          childLoop t list (list.stop - 1) (rounds + 1) here last =
            childLoop t list (list.stop - 1) rounds f.span.stop (some f)) ∧
    (lastChild? t list = .ok (t.lastChild? list) ↔ list.start < 2 ^ 64 - 1) ∧
    (lastChild? t list = .error .overflow ↔ 2 ^ 64 - 1 ≤ list.start) ∧
    ∀ f, lastChild? t list = .ok (some f) →
      list.start < f.span.start ∧ f.span.start < f.span.stop ∧ f.span.stop < list.stop ∧
        f.span.stop ≤ t.length := by
  refine ⟨childLoop_cases short list, ?_⟩
  rcases Nat.lt_or_ge (list.start + 1) (2 ^ 64) with fits | great
  · rw [lastChild?_eq short fits]
    refine ⟨⟨fun _ => by omega, fun _ => rfl⟩, ⟨?_, fun _ => by omega⟩, ?_⟩
    · intro trapped
      cases trapped
    · intro f found
      exact Text.bounds_of_lastChild? (Except.ok.inj found)
  · rw [lastChild?_of_overflow great]
    refine ⟨⟨?_, fun _ => by omega⟩, ⟨fun _ => by omega, fun _ => rfl⟩, ?_⟩
    · intro done
      cases done
    · intro f found
      cases found

/-- A span that ends in the middle of a list, and one that starts as far behind the text as a span
can whose walk begins. -/
theorem lastChild?_stays_inside_of_crossing :
    let t : Text := "(a [b c) d] e)".toList
    t.length < 2 ^ 63 ∧
    (lastChild? t ⟨0, 8⟩ = .ok (some (.atom ⟨1, 2⟩)) ∧ 0 < 1 ∧ 1 < 2 ∧ 2 < 8 ∧ 2 ≤ t.length) ∧
    lastChild? t ⟨2 ^ 64 - 2, 2 ^ 64 - 1⟩ = .ok (t.lastChild? ⟨2 ^ 64 - 2, 2 ^ 64 - 1⟩) := by
  intro t
  have short : t.length < 2 ^ 63 := by decide
  have found : lastChild? t ⟨0, 8⟩ = .ok (some (.atom ⟨1, 2⟩)) := by decide
  obtain ⟨-, -, -, inside⟩ := lastChild?_stays_inside short ⟨0, 8⟩
  obtain ⟨-, ends, -⟩ := lastChild?_stays_inside short ⟨2 ^ 64 - 2, 2 ^ 64 - 1⟩
  exact ⟨short, ⟨found, inside _ found⟩, ends.mpr (by decide)⟩

/-- The sum in front of the walk overflows for a span that starts at the greatest word. -/
theorem lastChild?_overflows :
    ¬ ∀ (t : Text) (list : Span), t.length < 2 ^ 63 → list.start < 2 ^ 64 → list.stop < 2 ^ 64 →
      ∃ child?, lastChild? t list = .ok child? := by
  intro ends
  have trapped : lastChild? "a b".toList ⟨2 ^ 64 - 1, 3⟩ = .error .overflow := by decide
  obtain ⟨child?, done⟩ :=
    ends "a b".toList ⟨2 ^ 64 - 1, 3⟩ (by decide) (by decide) (by decide)
  rw [trapped] at done
  cases done

end Checked

end LispEditor
