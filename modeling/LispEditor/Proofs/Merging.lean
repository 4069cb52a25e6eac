import LispEditor.Proofs.Saving
import LispEditor.Proofs.TableKeys

set_option autoImplicit false
set_option relaxedAutoImplicit false

/-!
# Merged bindings

The bindings of a user are put over the default ones in the order of their keys, in small letters.
Several of the user's keys can be the same in small letters: then the last one in the order of code
points decides, wherever it stands in the document.
-/

namespace LispEditor

namespace Bindings

private theorem lookup_insertAll_eq_last (bindings : Bindings) (pairs : List (String × Action))
    (key : String) :
    (bindings.insertAll pairs).lookup key =
      (pairs.reverse.lookup key).or (bindings.lookup key) := by
  induction pairs generalizing bindings with
  | nil => rfl
  | cons pair pairs ih =>
      have first : (bindings.insert pair.1 pair.2).lookup key =
          (List.lookup key [pair]).or (bindings.lookup key) := by
        rw [lookup_insert, lookup_cons_eq]
        split_ifs
        · rfl
        · rfl
      rw [insertAll_cons, ih, first, List.reverse_cons, List.lookup_append, Option.or_assoc]

end Bindings

namespace Config

open Toml (Value Entries)

variable {config : Config} {entries : Entries} {user : Bindings}

/-! ## The bindings of a user -/

/-- The table of bindings that a document holds, with no entries if there is none. -/
def userTable (entries : Entries) : Entries :=
  match entries.lookup "keybindings" with
  | some (.table _ user) => user
  | _ => []

private theorem map_eq_of_mapM {ε α β : Type} {f : α → Except ε β} {as : List α} {bs : List β}
    (done : as.mapM f = .ok bs) : as.map f = bs.map .ok := by
  induction as generalizing bs with
  | nil =>
      cases done
      rfl
  | cons a as ih =>
      rw [List.mapM_cons] at done
      obtain ⟨b, first, done⟩ := exists_ok_of_bind done
      obtain ⟨bs, later, done⟩ := exists_ok_of_bind done
      cases done
      rw [List.map_cons, List.map_cons, first, ih later]

private theorem perm_sortEntries (entries : Entries) : (sortEntries entries).Perm entries :=
  List.mergeSort_perm _ _

private theorem pairwise_sortEntries (distinct : entries.Distinct) :
    ((sortEntries entries).map Prod.fst).Pairwise (· < ·) := by
  have ascend : (sortEntries entries).Pairwise fun a b => decide (a.1 ≤ b.1) = true := by
    apply List.pairwise_mergeSort
    · intro a b c le le'
      rw [decide_eq_true_eq] at le le' ⊢
      exact String.le_trans le le'
    · intro a b
      rw [Bool.or_eq_true, decide_eq_true_eq, decide_eq_true_eq]
      exact String.le_total a.1 b.1
  have once : ((sortEntries entries).map Prod.fst).Nodup :=
    ((perm_sortEntries entries).map Prod.fst).nodup_iff.mpr distinct.once
  rw [List.Nodup, List.pairwise_map] at once
  rw [List.pairwise_map]
  refine (ascend.and once).imp ?_
  rintro a b ⟨le, other⟩
  exact Std.lt_of_le_of_ne (of_decide_eq_true le) other

/-- What reading a table of bindings gives: a binding of each key to the action of its value, in the
order of the keys. -/
structure ReadsTable (table : Entries) (user : Bindings) : Prop where
  sorted : user.Sorted
  action : ∀ binding ∈ user, ∃ v, (binding.1, v) ∈ table ∧ readAction v = .ok binding.2
  bound : ∀ entry ∈ table, ∃ a, (entry.1, a) ∈ user

private theorem action_of_readBinding {key : String} {v : Value} {binding : String × Action}
    (read : (do return (key, ← (readAction v).mapError (Fault.under key))) =
      Except.ok binding) : key = binding.1 ∧ readAction v = .ok binding.2 := by
  obtain ⟨a, inner, read⟩ := exists_ok_of_bind read
  cases read
  exact ⟨rfl, mapError_eq_ok_iff.mp inner⟩

private theorem readsTable_of_readBindings {origin : Toml.Origin} {table : Entries}
    (distinct : table.Distinct) (read : readBindings (.table origin table) = .ok user) :
    ReadsTable table user := by
  have same := map_eq_of_mapM read
  refine ⟨?_, ?_, ?_⟩
  · have ascend := List.pairwise_map.mp (pairwise_sortEntries distinct)
    have results : (user.map Except.ok).Pairwise
        fun (x y : Except Fault (String × Action)) =>
          ∀ b c, x = .ok b → y = .ok c → b.1 < c.1 := by
      rw [← same, List.pairwise_map]
      refine ascend.imp ?_
      intro entry entry' less b c read read'
      rw [← (action_of_readBinding read).1, ← (action_of_readBinding read').1]
      exact less
    exact (List.pairwise_map.mp results).imp fun less => less _ _ rfl rfl
  · intro binding there
    have result : (.ok binding : Except Fault (String × Action)) ∈ user.map .ok :=
      List.mem_map_of_mem there
    rw [← same] at result
    obtain ⟨entry, listed, read⟩ := List.mem_map.mp result
    obtain ⟨key, action⟩ := action_of_readBinding read
    rw [← key]
    exact ⟨entry.2, (perm_sortEntries table).mem_iff.mp listed, action⟩
  · intro entry there
    have listed := (perm_sortEntries table).mem_iff.mpr there
    obtain ⟨binding, listed, read⟩ := List.mem_map.mp (same ▸ List.mem_map_of_mem listed)
    refine ⟨binding.2, ?_⟩
    rw [(action_of_readBinding read.symm).1]
    exact listed

private theorem readsTable_of_readEntry (distinct : entries.Distinct) {chosen : Option Bindings}
    (read : readEntry entries "keybindings" readBindings = .ok chosen) :
    ReadsTable (userTable entries) (chosen.getD []) := by
  obtain ⟨absent, rfl⟩ | ⟨v, user, found, read, rfl⟩ := cases_of_readEntry read
  · rw [userTable, absent]
    exact ⟨.nil, by simp, by simp⟩
  · rw [userTable, found]
    cases v with
    | table origin table =>
        have inner := Toml.Value.distinct_table_iff.mp (distinct.value found)
        exact readsTable_of_readBindings inner read
    | string _ | integer _ | float _ | boolean _ | dateTime _ | array _ | tables _ _ => cases read

/-! ## Keys that are the same in small letters -/

/-- The bindings with their keys in small letters, the last one first. -/
def lastLowered (user : Bindings) : List (String × Action) :=
  (user.map fun binding => (lowerCase binding.1, binding.2)).reverse

private theorem lookup_mergeBindings (user : Bindings) (key : String) :
    (mergeBindings user).lookup key =
      ((lastLowered user).lookup key).or (Bindings.default.lookup key) :=
  Bindings.lookup_insertAll_eq_last Bindings.default _ key

private theorem mem_lastLowered_iff {pair : String × Action} :
    pair ∈ lastLowered user ↔ ∃ binding ∈ user, (lowerCase binding.1, binding.2) = pair := by
  rw [lastLowered, List.mem_reverse, List.mem_map]

private theorem lookup_lastLowered_eq_none_iff {key : String} :
    (lastLowered user).lookup key = none ↔ ∀ binding ∈ user, lowerCase binding.1 ≠ key := by
  rw [List.lookup_eq_none_iff]
  constructor
  · intro absent binding there same
    have other := absent _ (mem_lastLowered_iff.mpr ⟨binding, there, rfl⟩)
    rw [same] at other
    simp at other
  · intro others pair there
    obtain ⟨binding, listed, rfl⟩ := mem_lastLowered_iff.mp there
    exact bne_iff_ne.mpr (others binding listed).symm

/-- The action that is found last is that of the greatest key. -/
theorem exists_greatest_of_lookup (sorted : user.Sorted) {key : String} {a : Action}
    (found : (lastLowered user).lookup key = some a) :
    ∃ g, (g, a) ∈ user ∧ lowerCase g = key ∧
      ∀ binding ∈ user, lowerCase binding.1 = key → binding.1 ≤ g := by
  obtain ⟨later, earlier, split, others⟩ := List.lookup_eq_some_iff.mp found
  rw [lastLowered, List.reverse_eq_append_iff, List.reverse_cons, List.append_assoc,
    List.singleton_append, List.map_eq_append_iff] at split
  obtain ⟨front, back, rfl, -, split⟩ := split
  obtain ⟨⟨g, b⟩, behind, rfl, same, rest⟩ := List.map_eq_cons_iff.mp split
  obtain ⟨rfl, rfl⟩ := Prod.mk.inj same
  obtain ⟨-, -, below⟩ := List.pairwise_append.mp sorted
  refine ⟨g, by simp, rfl, ?_⟩
  intro binding there equal
  obtain there | there := List.mem_append.mp there
  · exact Std.le_of_lt (below binding there (g, b) List.mem_cons_self)
  · obtain rfl | there := List.mem_cons.mp there
    · exact String.le_refl g
    · -- No pair behind that of `g` has its key in small letters.
      have passed : (lowerCase binding.1, binding.2) ∈ later := by
        rw [← List.mem_reverse, ← rest]
        exact List.mem_map.mpr ⟨binding, there, rfl⟩
      have other := others _ passed
      rw [equal] at other
      simp at other

namespace ReadsTable

variable {table : Entries} {key : String}

private theorem lookup_of_absent (reads : ReadsTable table user)
    (others : ∀ entry ∈ table, lowerCase entry.1 ≠ key) :
    (mergeBindings user).lookup key = Bindings.default.lookup key := by
  have none : (lastLowered user).lookup key = none := by
    rw [lookup_lastLowered_eq_none_iff]
    intro binding there
    obtain ⟨v, listed, -⟩ := reads.action binding there
    exact others (binding.1, v) listed
  rw [lookup_mergeBindings, none, Option.none_or]

theorem exists_greatest (reads : ReadsTable table user)
    (one : ∃ entry ∈ table, lowerCase entry.1 = key) :
    ∃ g v a, (g, v) ∈ table ∧ lowerCase g = key ∧
      (∀ entry ∈ table, lowerCase entry.1 = key → entry.1 ≤ g) ∧
      readAction v = .ok a ∧ (mergeBindings user).lookup key = some a := by
  obtain ⟨entry, there, same⟩ := one
  obtain ⟨a, bound⟩ := reads.bound entry there
  have some : (lastLowered user).lookup key ≠ none := by
    intro none
    exact lookup_lastLowered_eq_none_iff.mp none _ bound same
  obtain ⟨a, found⟩ := Option.ne_none_iff_exists'.mp some
  obtain ⟨g, chosen, equal, greatest⟩ := exists_greatest_of_lookup reads.sorted found
  obtain ⟨v, listed, action⟩ := reads.action (g, a) chosen
  refine ⟨g, v, a, listed, equal, ?_, action, ?_⟩
  · intro entry there same
    obtain ⟨b, bound⟩ := reads.bound entry there
    exact greatest _ bound same
  · rw [lookup_mergeBindings, found, Option.some_or]

end ReadsTable

/-! ## Configurations that were read -/

theorem nodup_userTable (distinct : entries.Distinct) :
    ((userTable entries).map Prod.fst).Nodup := by
  unfold userTable
  split
  · rename_i found
    exact (Toml.Value.distinct_table_iff.mp (distinct.value found)).once
  · exact List.nodup_nil

theorem exists_user_of_ofToml {env : Environment} {text : String}
    (loaded : ofToml env text = .ok config) :
    ∃ entries user, Toml.read text = some entries ∧ ReadsTable (userTable entries) user ∧
      config.bindings = mergeBindings user := by
  obtain ⟨entries, document, given⟩ := exists_entries_of_ofToml loaded
  obtain ⟨flash, -, given⟩ := exists_ok_of_bind given
  obtain ⟨chosen, read, given⟩ := exists_ok_of_bind given
  obtain ⟨path, -, given⟩ := exists_ok_of_bind given
  cases given
  exact ⟨entries, chosen.getD [], document,
    readsTable_of_readEntry (Toml.distinct_of_read document) read, rfl⟩

/-- In a configuration that was read, a key does what the greatest of the user's keys does that are
the same in small letters, or else what it does by default. So it does not matter in which letters
it is written, and a default holds unless one of the user's keys takes its place. -/
theorem actionFor?_of_ofToml {env : Environment} {text : String}
    (loaded : ofToml env text = .ok config) :
    ∃ entries, Toml.read text = some entries ∧ ((userTable entries).map Prod.fst).Nodup ∧
      (∀ key,
        ((∃ entry ∈ userTable entries, lowerCase entry.1 = lowerCase key) →
          ∃ g v a, (g, v) ∈ userTable entries ∧ lowerCase g = lowerCase key ∧
            (∀ entry ∈ userTable entries, lowerCase entry.1 = lowerCase key → entry.1 ≤ g) ∧
            readAction v = .ok a ∧ config.actionFor? key = some a) ∧
        ((∀ entry ∈ userTable entries, lowerCase entry.1 ≠ lowerCase key) →
          config.actionFor? key = Bindings.default.lookup (lowerCase key))) ∧
      (∀ key other, lowerCase key = lowerCase other →
        config.actionFor? key = config.actionFor? other) ∧
      ∀ binding ∈ Bindings.default,
        (∀ entry ∈ userTable entries, lowerCase entry.1 ≠ binding.1) →
          binding ∈ config.bindings ∧ config.actionFor? binding.1 = some binding.2 := by
  obtain ⟨entries, user, document, reads, merged⟩ := exists_user_of_ofToml loaded
  simp only [actionFor?, merged]
  refine ⟨entries, document, nodup_userTable (Toml.distinct_of_read document), ?_, ?_, ?_⟩
  · intro key
    exact ⟨reads.exists_greatest, reads.lookup_of_absent⟩
  · intro key other same
    rw [same]
  · intro binding there others
    have default : Bindings.default.lookup binding.1 = some binding.2 :=
      (Bindings.lookup_eq_some_iff Bindings.sorted_default _ _).mpr there
    have sorted : (mergeBindings user).Sorted :=
      Bindings.sorted_insertAll Bindings.sorted_default _
    have found := (reads.lookup_of_absent others).trans default
    rw [lowerCase_of_mem_default binding there]
    exact ⟨(Bindings.lookup_eq_some_iff sorted _ _).mp found, found⟩

theorem ofToml_of_table {text : String} {origin : Toml.Origin} {table : Entries}
    (env : Environment) (document : Toml.read text = some [("keybindings", .table origin table)])
    (read : readBindings (.table origin table) = .ok user) :
    ofToml env text = .ok { default with bindings := mergeBindings user } := by
  rw [ofToml, document]
  dsimp only
  have flash : readEntry [("keybindings", .table origin table)] "flash_ms" readFlash =
      .ok none := rfl
  have path : readEntry [("keybindings", .table origin table)] "scratch_path" readPath =
      .ok none := rfl
  have chosen : readEntry [("keybindings", .table origin table)] "keybindings" readBindings =
      .ok (some user) := by
    rw [readEntry, List.lookup_cons_self]
    dsimp only
    rw [read]
    rfl
  rw [ofEntries, flash, chosen, path]
  rfl

theorem actionFor?_of_two_spellings :
    let text := "[keybindings]\n\"ctrl+e\" = \"quit\"\n\"CTRL+E\" = \"save\"\n"
    ∃ config, ofToml [] text = .ok config ∧ config.actionFor? "Ctrl+E" = some .quit ∧
      ("ctrl+q", .quit) ∈ config.bindings := by
  intro text
  let table : Entries := [("ctrl+e", .string "quit"), ("CTRL+E", .string "save")]
  let entries : Entries := [("keybindings", .table .header table)]
  have lines : text = String.ofList ("[keybindings]\n".toList ++
      bindingLines [("ctrl+e", .quit), ("CTRL+E", .save)]) := by decide +kernel
  have document : Toml.read text = some entries := by
    rw [lines]
    exact read_bindingLines (by decide)
  have order : ¬ "ctrl+e" ≤ "CTRL+E" := by decide
  have sorted : sortEntries table = [("CTRL+E", .string "save"), ("ctrl+e", .string "quit")] := by
    simp [table, sortEntries, List.mergeSort, List.MergeSort.Internal.splitInTwo, order]
  have user : readBindings (.table .header table) =
      .ok [("CTRL+E", .save), ("ctrl+e", .quit)] := by
    rw [readBindings, sorted]
    rfl
  have loaded := ofToml_of_table [] document user
  obtain ⟨_, same, -, merged, -, kept⟩ := actionFor?_of_ofToml loaded
  obtain rfl := Option.some.inj (document.symm.trans same)
  have equal : lowerCase "ctrl+e" = lowerCase "Ctrl+E" := by decide +kernel
  refine ⟨_, loaded, ?_, ?_⟩
  · obtain ⟨g, v, a, listed, -, greatest, action, found⟩ :=
      (merged "Ctrl+E").1 ⟨("ctrl+e", .string "quit"), List.mem_cons_self, equal⟩
    have upper := greatest ("ctrl+e", .string "quit") List.mem_cons_self equal
    change (g, v) ∈ table at listed
    simp only [table, List.mem_cons, List.not_mem_nil, or_false, Prod.mk.injEq] at listed
    obtain ⟨rfl, rfl⟩ | ⟨rfl, rfl⟩ := listed
    · cases action
      exact found
    · exact absurd upper (by decide)
  · refine (kept ("ctrl+q", .quit) (by decide +kernel) ?_).1
    change ∀ entry ∈ table, _
    simp only [table, List.forall_mem_cons]
    exact ⟨by decide +kernel, by decide +kernel, by simp⟩

end Config

end LispEditor
