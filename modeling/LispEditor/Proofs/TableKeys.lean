import LispEditor.Toml.Reader
import Mathlib.Data.List.Nodup
import Mathlib.Tactic.SplitIfs

set_option autoImplicit false
set_option relaxedAutoImplicit false

/-!
# The keys of tables

The lines of a document change the tables read so far only by putting entries into them, each under
a key of its own. So in every table that is read, however deep, each key stands once.
-/

namespace LispEditor

namespace Toml

/-- In each table that the value holds, each key stands once. -/
inductive Value.Distinct : Value → Prop
  | string (s : String) : Distinct (.string s)
  | integer (n : Int) : Distinct (.integer n)
  | float (x : Binary64) : Distinct (.float x)
  | boolean (b : Bool) : Distinct (.boolean b)
  | dateTime (d : DateTime) : Distinct (.dateTime d)
  | array {items : List Value} : (∀ v ∈ items, v.Distinct) → Distinct (.array items)
  | table (origin : Origin) {entries : Entries} :
      (entries.map Prod.fst).Nodup → (∀ entry ∈ entries, entry.2.Distinct) →
        Distinct (.table origin entries)
  | tables {newest : Entries} {older : List Entries} :
      (newest.map Prod.fst).Nodup → (∀ entry ∈ newest, entry.2.Distinct) →
        (∀ entries ∈ older, (entries.map Prod.fst).Nodup) →
        (∀ entries ∈ older, ∀ entry ∈ entries, entry.2.Distinct) →
        Distinct (.tables newest older)

/-- Each key stands once, also in the tables inside. -/
structure Entries.Distinct (entries : Entries) : Prop where
  once : (entries.map Prod.fst).Nodup
  values : ∀ entry ∈ entries, entry.2.Distinct

theorem Value.distinct_table_iff {origin : Origin} {entries : Entries} :
    (Value.table origin entries).Distinct ↔ entries.Distinct := by
  constructor
  · intro distinct
    cases distinct with
    | table _ once values => exact ⟨once, values⟩
  · rintro ⟨once, values⟩
    exact .table origin once values

private theorem Value.distinct_tables_iff {newest : Entries} {older : List Entries} :
    (Value.tables newest older).Distinct ↔
      newest.Distinct ∧ ∀ entries ∈ older, entries.Distinct := by
  constructor
  · intro distinct
    cases distinct with
    | tables once values olderOnce olderValues =>
        refine ⟨⟨once, values⟩, ?_⟩
        intro entries there
        exact ⟨olderOnce entries there, olderValues entries there⟩
  · rintro ⟨⟨once, values⟩, others⟩
    exact .tables once values (fun entries there => (others entries there).once)
      (fun entries there => (others entries there).values)

namespace Entries

variable {entries : Entries} {key : String} {v : Value}

private theorem distinct_nil : Distinct [] :=
  ⟨List.nodup_nil, fun _ absent => absurd absent List.not_mem_nil⟩

theorem Distinct.value (distinct : entries.Distinct) (found : entries.lookup key = some v) :
    v.Distinct := by
  obtain ⟨front, back, rfl, -⟩ := List.lookup_eq_some_iff.mp found
  exact distinct.values (key, v) (by simp)

private theorem mem_put {entry : String × Value} (there : entry ∈ entries.put key v) :
    entry = (key, v) ∨ entry ∈ entries := by
  induction entries with
  | nil => exact .inl (List.mem_singleton.mp there)
  | cons first entries ih =>
      obtain ⟨k, w⟩ := first
      rw [put] at there
      split_ifs at there with same
      · subst same
        obtain rfl | later := List.mem_cons.mp there
        · exact .inl rfl
        · exact .inr (List.mem_cons_of_mem _ later)
      · obtain rfl | later := List.mem_cons.mp there
        · exact .inr List.mem_cons_self
        · exact (ih later).imp id (List.mem_cons_of_mem _)

private theorem nodup_put (once : (entries.map Prod.fst).Nodup) (key : String) (v : Value) :
    ((entries.put key v).map Prod.fst).Nodup := by
  induction entries with
  | nil => exact List.nodup_singleton key
  | cons first entries ih =>
      obtain ⟨k, w⟩ := first
      obtain ⟨absent, once⟩ := List.nodup_cons.mp once
      rw [put]
      split_ifs with same
      · exact List.nodup_cons.mpr ⟨absent, once⟩
      · refine List.nodup_cons.mpr ⟨?_, ih once⟩
        intro there
        obtain ⟨entry, there, first⟩ := List.mem_map.mp there
        obtain rfl | there := mem_put there
        · exact same first.symm
        · exact absent (List.mem_map.mpr ⟨entry, there, first⟩)

private theorem Distinct.put (distinct : entries.Distinct) (key : String) (value : v.Distinct) :
    (entries.put key v).Distinct := by
  refine ⟨nodup_put distinct.once key v, ?_⟩
  intro entry there
  obtain rfl | there := mem_put there
  · exact value
  · exact distinct.values entry there

/-! ## Changes of tables -/

def Keeps (change : Entries → Option Entries) : Prop :=
  ∀ {before after : Entries}, before.Distinct → change before = some after → after.Distinct

private theorem keeps_setNew (key : String) (value : v.Distinct) : Keeps (·.setNew key v) := by
  intro before after distinct done
  simp only [setNew] at done
  split at done
  · cases done
    exact distinct.put key value
  · cases done

private theorem keeps_openTable (key : String) : Keeps (·.openTable key) := by
  intro before after distinct done
  simp only [openTable] at done
  split at done
  · cases done
    exact distinct.put key (Value.distinct_table_iff.mpr distinct_nil)
  · rename_i sub found
    cases done
    have sub := Value.distinct_table_iff.mp (distinct.value found)
    exact distinct.put key (Value.distinct_table_iff.mpr sub)
  · cases done

private theorem keeps_openNext (key : String) : Keeps (·.openNext key) := by
  intro before after distinct done
  simp only [openNext] at done
  split at done
  · cases done
    exact distinct.put key (Value.distinct_tables_iff.mpr ⟨distinct_nil, by simp⟩)
  · rename_i newest older found
    cases done
    obtain ⟨newest, older⟩ := Value.distinct_tables_iff.mp (distinct.value found)
    refine distinct.put key (Value.distinct_tables_iff.mpr ⟨distinct_nil, ?_⟩)
    exact List.forall_mem_cons.mpr ⟨newest, older⟩
  · cases done

section inside

variable {change : Entries → Option Entries} {before after : Entries}

private theorem Distinct.changeNew (distinct : before.Distinct) (keeps : Keeps change)
    {origin : Origin}
    (done : (change []).map (fun sub => before.put key (.table origin sub)) = some after) :
    after.Distinct := by
  obtain ⟨sub, changed, rfl⟩ := Option.map_eq_some_iff.mp done
  exact distinct.put key (Value.distinct_table_iff.mpr (keeps distinct_nil changed))

private theorem Distinct.changeTable (distinct : before.Distinct) (keeps : Keeps change)
    {origin : Origin} {sub : Entries} (found : before.lookup key = some (.table origin sub))
    (done : (change sub).map (fun sub => before.put key (.table origin sub)) = some after) :
    after.Distinct := by
  obtain ⟨changed, run, rfl⟩ := Option.map_eq_some_iff.mp done
  have inner := Value.distinct_table_iff.mp (distinct.value found)
  exact distinct.put key (Value.distinct_table_iff.mpr (keeps inner run))

private theorem Distinct.changeNewest (distinct : before.Distinct) (keeps : Keeps change)
    {newest : Entries} {older : List Entries}
    (found : before.lookup key = some (.tables newest older))
    (done : (change newest).map (fun sub => before.put key (.tables sub older)) = some after) :
    after.Distinct := by
  obtain ⟨changed, run, rfl⟩ := Option.map_eq_some_iff.mp done
  obtain ⟨inner, others⟩ := Value.distinct_tables_iff.mp (distinct.value found)
  exact distinct.put key (Value.distinct_tables_iff.mpr ⟨keeps inner run, others⟩)

end inside

private theorem keeps_alongHeader {change : Entries → Option Entries} (keeps : Keeps change)
    (keys : List String) : Keeps (alongHeader change keys) := by
  induction keys with
  | nil => exact keeps
  | cons key keys ih =>
      intro before after distinct done
      rw [alongHeader] at done
      split at done
      · exact distinct.changeNew ih done
      · cases done
      · rename_i found
        exact distinct.changeTable ih found done
      · rename_i found
        exact distinct.changeNewest ih found done
      · cases done

private theorem keeps_alongDotted {change : Entries → Option Entries} (keeps : Keeps change)
    (keys : List String) : Keeps (alongDotted change keys) := by
  induction keys with
  | nil => exact keeps
  | cons key keys ih =>
      intro before after distinct done
      rw [alongDotted] at done
      split at done
      · exact distinct.changeNew ih done
      · rename_i found
        exact distinct.changeTable ih found done
      · rename_i found
        split_ifs at done
        exact distinct.changeTable ih found done
      · rename_i found
        split_ifs at done
        exact distinct.changeNewest ih found done
      · cases done

private theorem keeps_assign (key : DottedKey) (value : v.Distinct) : Keeps (·.assign key v) :=
  keeps_alongDotted (keeps_setNew key.last value) key.front

end Entries

/-! ## Values and documents -/

private theorem eq_integer_of_inRange? {n : Int} {v : Value} (read : inRange? n = some v) :
    v = .integer n := by
  unfold inRange? at read
  split_ifs at read
  cases read
  rfl

private theorem distinct_of_integer? {word : List Char} {v : Value}
    (read : integer? word = some v) :
    v.Distinct := by
  have last : ∃ n, inRange? n = some v := by
    unfold integer? at read
    split at read <;>
    · obtain ⟨n, -, read⟩ := Option.bind_eq_some_iff.mp read
      exact ⟨_, read⟩
  obtain ⟨n, read⟩ := last
  rw [eq_integer_of_inRange? read]
  exact .integer n

private theorem distinct_of_float? {word : List Char} {v : Value} (read : float? word = some v) :
    v.Distinct := by
  unfold float? at read
  dsimp only at read
  split at read
  · cases read
    exact .float _
  split at read
  · cases read
    exact .float _
  · simp only [Option.bind_eq_bind, Option.bind_eq_some_iff] at read
    obtain ⟨exponent, -, n, -, read⟩ := read
    split at read
    · split_ifs at read
      · rw [Option.bind_some] at read
        split at read
        · cases read
        · cases read
          exact .float _
      · cases read
    · obtain ⟨_, -, read⟩ := Option.bind_eq_some_iff.mp read
      rw [Option.bind_some] at read
      split at read
      · cases read
      · cases read
        exact .float _

private theorem distinct_of_scalar {cs rest : List Char} {v : Value}
    (read : scalar cs = some (v, rest)) : v.Distinct := by
  obtain ⟨w, found, same⟩ := Option.map_eq_some_iff.mp read
  cases same
  unfold scalar? at found
  split_ifs at found
  · cases found
    exact .boolean true
  · cases found
    exact .boolean false
  · rw [Option.or_eq_some_iff, Option.or_eq_some_iff] at found
    obtain (whole | ⟨-, decimal⟩) | ⟨-, date⟩ := found
    · exact distinct_of_integer? whole
    · exact distinct_of_float? decimal
    · obtain ⟨d, -, rfl⟩ := Option.map_eq_some_iff.mp date
      exact .dateTime d

/-- What the readers of nested values read with some fuel has each key once. -/
structure ReadDistinct (fuel : Nat) : Prop where
  value {depth : Nat} {cs rest : List Char} {v : Value} :
    value fuel depth cs = some (v, rest) → v.Distinct
  items {depth : Nat} {cs rest : List Char} {vs : List Value} :
    items fuel depth cs = some (vs, rest) → ∀ v ∈ vs, v.Distinct
  pairs {depth : Nat} {before after : Entries} {cs rest : List Char} :
    before.Distinct → pairs fuel depth before cs = some (after, rest) → after.Distinct

private theorem readDistinct_zero : ReadDistinct 0 where
  value read := by cases read
  items read := by cases read
  pairs _ read := by cases read

variable {fuel : Nat}

private theorem distinct_of_value_succ (ih : ReadDistinct fuel) {depth : Nat} {cs rest : List Char}
    {v : Value} (read : value (fuel + 1) depth cs = some (v, rest)) : v.Distinct := by
  unfold value at read
  split at read
  · split_ifs at read
    obtain ⟨⟨vs, rest⟩, inside, same⟩ := Option.map_eq_some_iff.mp read
    cases same
    exact .array (ih.items inside)
  · split_ifs at read
    obtain ⟨⟨entries, rest⟩, inside, same⟩ := Option.map_eq_some_iff.mp read
    cases same
    exact Value.distinct_table_iff.mpr (ih.pairs Entries.distinct_nil inside)
  · obtain ⟨_, -, same⟩ := Option.map_eq_some_iff.mp read
    cases same
    exact .string _
  · obtain ⟨_, -, same⟩ := Option.map_eq_some_iff.mp read
    cases same
    exact .string _
  · exact distinct_of_scalar read

private theorem distinct_of_items_succ (ih : ReadDistinct fuel) {depth : Nat} {cs rest : List Char}
    {vs : List Value} (read : items (fuel + 1) depth cs = some (vs, rest)) :
    ∀ v ∈ vs, v.Distinct := by
  rw [items] at read
  obtain ⟨cs, -, read⟩ := Option.bind_eq_some_iff.mp read
  split at read
  · cases read
    simp
  · obtain ⟨⟨v, rest⟩, first, read⟩ := Option.bind_eq_some_iff.mp read
    obtain ⟨cs, -, read⟩ := Option.bind_eq_some_iff.mp read
    split at read
    · cases read
      simpa using ih.value first
    · obtain ⟨⟨vs, rest⟩, later, read⟩ := Option.bind_eq_some_iff.mp read
      cases read
      exact List.forall_mem_cons.mpr ⟨ih.value first, ih.items later⟩
    · cases read

private theorem distinct_of_pairs_succ (ih : ReadDistinct fuel) {depth : Nat}
    {before after : Entries} {cs rest : List Char} (distinct : before.Distinct)
    (read : pairs (fuel + 1) depth before cs = some (after, rest)) : after.Distinct := by
  rw [pairs] at read
  obtain ⟨cs, -, read⟩ := Option.bind_eq_some_iff.mp read
  split at read
  · cases read
    exact distinct
  · obtain ⟨⟨key, rest⟩, -, read⟩ := Option.bind_eq_some_iff.mp read
    obtain ⟨cs, -, read⟩ := Option.bind_eq_some_iff.mp read
    split at read
    · obtain ⟨cs, -, read⟩ := Option.bind_eq_some_iff.mp read
      obtain ⟨⟨v, rest⟩, here, read⟩ := Option.bind_eq_some_iff.mp read
      obtain ⟨entries, set, read⟩ := Option.bind_eq_some_iff.mp read
      have entries := Entries.keeps_assign key (ih.value here) distinct set
      obtain ⟨cs, -, read⟩ := Option.bind_eq_some_iff.mp read
      split at read
      · cases read
        exact entries
      · exact ih.pairs entries read
      · cases read
    · cases read

private theorem readDistinct (fuel : Nat) : ReadDistinct fuel := by
  induction fuel with
  | zero => exact readDistinct_zero
  | succ fuel ih =>
      exact ⟨distinct_of_value_succ ih, distinct_of_items_succ ih, distinct_of_pairs_succ ih⟩

private theorem distinct_of_expression {draft next : Draft} {cs rest : List Char}
    (distinct : draft.root.Distinct) (read : expression draft cs = some (next, rest)) :
    next.root.Distinct := by
  unfold expression at read
  split at read
  · obtain ⟨⟨key, rest⟩, -, read⟩ := Option.bind_eq_some_iff.mp read
    dsimp only at read
    split at read
    · obtain ⟨root, changed, read⟩ := Option.bind_eq_some_iff.mp read
      cases read
      exact Entries.keeps_alongHeader (Entries.keeps_openNext key.last) key.front distinct changed
    · cases read
  · obtain ⟨⟨key, rest⟩, -, read⟩ := Option.bind_eq_some_iff.mp read
    dsimp only at read
    split at read
    · obtain ⟨root, changed, read⟩ := Option.bind_eq_some_iff.mp read
      cases read
      exact Entries.keeps_alongHeader (Entries.keeps_openTable key.last) key.front distinct changed
    · cases read
  · obtain ⟨⟨key, rest⟩, -, read⟩ := Option.bind_eq_some_iff.mp read
    dsimp only at read
    split at read
    · obtain ⟨⟨v, rest⟩, here, read⟩ := Option.bind_eq_some_iff.mp read
      obtain ⟨root, changed, read⟩ := Option.bind_eq_some_iff.mp read
      cases read
      have value := (readDistinct _).value here
      exact Entries.keeps_alongHeader (Entries.keeps_assign key value) draft.header distinct changed
    · cases read

private theorem distinct_of_document {fuel : Nat} {draft : Draft} {cs : List Char}
    {entries : Entries} (distinct : draft.root.Distinct)
    (read : document fuel draft cs = some entries) :
    entries.Distinct := by
  induction fuel generalizing draft cs with
  | zero => cases read
  | succ fuel ih =>
      rw [document] at read
      split at read
      · cases read
        exact distinct
      · split at read
        · exact ih distinct read
        · obtain ⟨⟨next, rest⟩, line, read⟩ := Option.bind_eq_some_iff.mp read
          obtain ⟨rest, -, read⟩ := Option.bind_eq_some_iff.mp read
          exact ih (distinct_of_expression distinct line) read

theorem distinct_of_read {text : String} {entries : Entries}
    (read : Toml.read text = some entries) : entries.Distinct :=
  distinct_of_document Entries.distinct_nil read

end Toml

end LispEditor
