import LispEditor.Config.Bindings
import Mathlib.Data.List.Nodup
import Mathlib.Tactic.SplitIfs

set_option autoImplicit false
set_option relaxedAutoImplicit false

/-!
# Sorted bindings

Binding a key keeps the bindings sorted, and sorted bindings are determined by the actions of their
keys. So bindings that have all keys of others come out unchanged when they are put over them.
-/

namespace LispEditor

namespace Bindings

/-- The keys ascend, so that each stands there once. -/
def Sorted (bindings : Bindings) : Prop :=
  bindings.Pairwise (·.1 < ·.1)

def Binds (bindings : Bindings) (key : String) : Prop :=
  (bindings.lookup key).isSome

instance (bindings : Bindings) : Decidable bindings.Sorted :=
  inferInstanceAs (Decidable (bindings.Pairwise (·.1 < ·.1)))

instance (bindings : Bindings) (key : String) : Decidable (bindings.Binds key) :=
  inferInstanceAs (Decidable ((bindings.lookup key).isSome = true))

theorem lookup_cons_eq (k key : String) (action : Action) (bindings : Bindings) :
    List.lookup k ((key, action) :: bindings) =
      if k = key then some action else bindings.lookup k := by
  rw [List.lookup_cons]
  split_ifs with same
  · rw [beq_iff_eq.mpr same]
  · rw [beq_eq_false_iff_ne.mpr same]

theorem lookup_insert (bindings : Bindings) (key : String) (action : Action) (k : String) :
    (bindings.insert key action).lookup k =
      if k = key then some action else bindings.lookup k := by
  induction bindings with
  | nil => exact lookup_cons_eq k key action []
  | cons binding bindings ih =>
      obtain ⟨first, a⟩ := binding
      by_cases less : key < first
      · rw [insert, if_pos less, lookup_cons_eq]
      · by_cases equal : key = first
        · subst equal
          rw [insert, if_neg less, if_pos rfl, lookup_cons_eq, lookup_cons_eq]
          split_ifs <;> rfl
        · rw [insert, if_neg less, if_neg equal, lookup_cons_eq, lookup_cons_eq, ih]
          split_ifs with here there
          · exact absurd (there.symm.trans here) equal
          · rfl
          · rfl
          · rfl

private theorem mem_insert {bindings : Bindings} {key : String} {action : Action}
    {binding : String × Action} (h : binding ∈ bindings.insert key action) :
    binding = (key, action) ∨ binding ∈ bindings := by
  induction bindings with
  | nil => exact .inl (List.mem_singleton.mp h)
  | cons first bindings ih =>
      rw [insert] at h
      split_ifs at h with less equal
      · exact List.mem_cons.mp h
      · obtain same | later := List.mem_cons.mp h
        · exact .inl same
        · exact .inr (List.mem_cons_of_mem _ later)
      · obtain same | later := List.mem_cons.mp h
        · exact .inr (List.mem_cons.mpr (.inl same))
        · exact (ih later).imp id (List.mem_cons_of_mem _)

private theorem sorted_insert {bindings : Bindings} (sorted : bindings.Sorted) (key : String)
    (action : Action) : (bindings.insert key action).Sorted := by
  induction bindings with
  | nil => exact List.pairwise_singleton _ _
  | cons binding bindings ih =>
      obtain ⟨first, a⟩ := binding
      obtain ⟨below, later⟩ := List.pairwise_cons.mp sorted
      rw [insert]
      split_ifs with less equal
      · refine List.pairwise_cons.mpr ⟨?_, sorted⟩
        intro other there
        obtain rfl | there := List.mem_cons.mp there
        · exact less
        · exact String.lt_trans less (below other there)
      · subst equal
        exact List.pairwise_cons.mpr ⟨below, later⟩
      · refine List.pairwise_cons.mpr ⟨?_, ih later⟩
        intro other there
        obtain rfl | there := mem_insert there
        · have upward : first ≤ key := String.not_lt.mp less
          exact Std.lt_of_le_of_ne upward (Ne.symm equal)
        · exact below other there

theorem lookup_eq_some_iff {bindings : Bindings} (sorted : bindings.Sorted) (key : String)
    (action : Action) : bindings.lookup key = some action ↔ (key, action) ∈ bindings := by
  induction bindings with
  | nil => simp
  | cons binding bindings ih =>
      obtain ⟨first, a⟩ := binding
      obtain ⟨below, sorted⟩ := List.pairwise_cons.mp sorted
      rw [lookup_cons_eq, List.mem_cons, Prod.mk.injEq]
      split_ifs with same
      · subst same
        have once : (key, action) ∉ bindings := fun there =>
          String.lt_irrefl key (below _ there)
        simp [once, eq_comm]
      · simp [same, ih sorted]

private theorem Sorted.ext {b c : Bindings} (hb : b.Sorted) (hc : c.Sorted)
    (same : ∀ key, b.lookup key = c.lookup key) : b = c := by
  have once {d : Bindings} (hd : d.Sorted) : d.Nodup :=
    hd.imp fun less => by
      rintro rfl
      exact String.lt_irrefl _ less
  have perm : b.Perm c := by
    rw [List.perm_ext_iff_of_nodup (once hb) (once hc)]
    rintro ⟨key, action⟩
    rw [← lookup_eq_some_iff hb, ← lookup_eq_some_iff hc, same key]
  refine perm.eq_of_pairwise ?_ hb hc
  intro p q _ _ less more
  exact absurd more (String.lt_asymm less)

/-! ## Binding several keys -/

theorem insertAll_cons (bindings : Bindings) (pair : String × Action)
    (pairs : List (String × Action)) :
    bindings.insertAll (pair :: pairs) = (bindings.insert pair.1 pair.2).insertAll pairs :=
  rfl

theorem sorted_insertAll {bindings : Bindings} (sorted : bindings.Sorted)
    (pairs : List (String × Action)) : (bindings.insertAll pairs).Sorted := by
  induction pairs generalizing bindings with
  | nil => exact sorted
  | cons pair pairs ih => exact ih (sorted_insert sorted pair.1 pair.2)

theorem mem_insertAll {bindings : Bindings} {pairs : List (String × Action)}
    {binding : String × Action} (h : binding ∈ bindings.insertAll pairs) :
    binding ∈ pairs ∨ binding ∈ bindings := by
  induction pairs generalizing bindings with
  | nil => exact .inr h
  | cons pair pairs ih =>
      obtain later | there := ih h
      · exact .inl (List.mem_cons_of_mem _ later)
      · exact (mem_insert there).imp (fun same => List.mem_cons.mpr (.inl same)) id

theorem binds_insertAll {bindings : Bindings} {key : String} (bound : bindings.Binds key)
    (pairs : List (String × Action)) : (bindings.insertAll pairs).Binds key := by
  induction pairs generalizing bindings with
  | nil => exact bound
  | cons pair pairs ih =>
      apply ih
      rw [Binds, lookup_insert]
      split_ifs
      · rfl
      · exact bound

private theorem lookup_insertAll (bindings : Bindings) {pairs : Bindings} (sorted : pairs.Sorted)
    (key : String) :
    (bindings.insertAll pairs).lookup key = (pairs.lookup key).or (bindings.lookup key) := by
  induction pairs generalizing bindings with
  | nil => rfl
  | cons pair pairs ih =>
      obtain ⟨first, a⟩ := pair
      obtain ⟨below, later⟩ := List.pairwise_cons.mp sorted
      rw [insertAll_cons, ih _ later, lookup_insert, lookup_cons_eq]
      split_ifs with same
      · subst same
        have once : pairs.lookup key = none := by
          rw [Option.eq_none_iff_forall_not_mem]
          intro action there
          have member := (lookup_eq_some_iff later key action).mp there
          exact String.lt_irrefl key (below _ member)
        rw [once]
        rfl
      · rfl

theorem insertAll_eq_of_binds {bindings pairs : Bindings} (before : bindings.Sorted)
    (sorted : pairs.Sorted) (all : ∀ key, bindings.Binds key → pairs.Binds key) :
    bindings.insertAll pairs = pairs := by
  refine (sorted_insertAll before pairs).ext sorted fun key => ?_
  rw [lookup_insertAll bindings sorted]
  cases there : pairs.lookup key with
  | some action => rfl
  | none =>
      have absent : bindings.lookup key = none := by
        rw [← Option.not_isSome_iff_eq_none]
        intro bound
        have := all key bound
        rw [Binds, there] at this
        cases this
      rw [absent]
      rfl

theorem sorted_default : Bindings.default.Sorted :=
  sorted_insertAll List.Pairwise.nil _

end Bindings

end LispEditor
