import LispEditor.Config.Storage
import LispEditor.Proofs.Bindings
import LispEditor.Proofs.DocumentLines
import LispEditor.Proofs.LowerCase
import LispEditor.Proofs.Writing

set_option autoImplicit false
set_option relaxedAutoImplicit false

/-!
# Saved configurations

The text of a configuration is read back line by line into the entries that it was written from, and
these give the configuration again, except that the path is expanded. What a configuration needs for
this, every configuration that was read has.
-/

namespace LispEditor

open Toml (Value Entries ReadsAs document readsAs_toDigits readsAs_writeString document_feed
  document_header document_pair)

namespace Environment

/-- A path that expansion leaves as it is, whatever the variables are: it has no dollar sign and
does not begin with a tilde that stands for the home directory. -/
structure IsPlain (path : String) : Prop where
  dollar : '$' ∉ path.toList
  tilde : path ≠ "~"
  home : ¬ ['~', '/'] <+: path.toList

private theorem expandVariables_eq_self (env : Environment) {cs : List Char} (dollar : '$' ∉ cs)
    (fuel : Nat) : env.expandVariables fuel cs = some cs := by
  induction fuel generalizing cs with
  | zero => rfl
  | succ fuel ih =>
      cases cs with
      | nil => rfl
      | cons c cs =>
          rw [List.mem_cons, not_or] at dollar
          obtain ⟨first, later⟩ := dollar
          rw [expandVariables, ih later, Option.map_some]
          all_goals grind

private theorem expandTilde_eq_self (env : Environment) {cs : List Char} (tilde : cs ≠ ['~'])
    (home : ¬ ['~', '/'] <+: cs) : env.expandTilde cs = cs := by
  rw [expandTilde]
  · exact tilde
  · rintro rest rfl
    exact home ⟨rest, rfl⟩

private theorem expand_eq_self (env : Environment) {path : String} (plain : IsPlain path) :
    env.expand path = path := by
  have tilde : path.toList ≠ ['~'] := by
    intro same
    apply plain.tilde
    rw [← String.ofList_toList (s := path), same]
  unfold expand
  dsimp only
  rw [expandVariables_eq_self env plain.dollar]
  dsimp only
  rw [expandTilde_eq_self env tilde plain.home, String.ofList_toList, ite_self]

end Environment

namespace Bindings

def entries (bindings : Bindings) : Entries :=
  bindings.map fun binding => (binding.1, .string binding.2.name)

private theorem entries_concat (bindings : Bindings) (key : String) (action : Action) :
    bindings.entries ++ [(key, .string action.name)] =
      Bindings.entries (bindings ++ [(key, action)]) := by
  simp [entries]

private theorem lookup_entries_eq_none {front back : Bindings} {key : String} {action : Action}
    (distinct : ((front ++ (key, action) :: back).map Prod.fst).Nodup) :
    front.entries.lookup key = none := by
  rw [List.map_append] at distinct
  rw [List.lookup_eq_none_iff]
  intro entry there
  obtain ⟨binding, inFront, rfl⟩ := List.mem_map.mp there
  rw [bne_iff_ne]
  rintro rfl
  exact List.disjoint_of_nodup_append distinct (List.mem_map_of_mem inFront) List.mem_cons_self

private theorem Sorted.nodup_keys {bindings : Bindings} (sorted : bindings.Sorted) :
    (bindings.map Prod.fst).Nodup := by
  refine List.pairwise_map.mpr (sorted.imp ?_)
  intro a b less same
  rw [same] at less
  exact String.lt_irrefl _ less

end Bindings

namespace Config

open Environment (IsPlain)

variable {config : Config}

/-! ## From the text to the entries -/

/-- The entries that a configuration is written as. -/
def entries (config : Config) : Entries :=
  ("flash_ms", .integer config.flashMs) ::
    (config.scratchPath.toList.map fun path => ("scratch_path", .string path)) ++
    [("keybindings", .table .header config.bindings.entries)]

private theorem writePair_append (key value : String) (rest : List Char) :
    writePair key value ++ rest =
      Toml.writeKey key.toList ++
        ' ' :: '=' :: ' ' :: (Toml.writeString value.toList ++ '\n' :: rest) := by
  simp [writePair]

private theorem readsAs_string (s : String) : ReadsAs (Toml.writeString s.toList) (.string s) := by
  have reads := readsAs_writeString s.toList
  rw [String.ofList_toList] at reads
  exact reads

def bindingLines (bindings : Bindings) : List Char :=
  bindings.flatMap fun (key, action) => writePair key action.name

private theorem bindingLines_cons (key : String) (action : Action) (bindings : Bindings) :
    bindingLines ((key, action) :: bindings) =
      writePair key action.name ++ bindingLines bindings :=
  List.flatMap_cons

private theorem length_le_length_bindingLines (bindings : Bindings) :
    bindings.length ≤ (bindingLines bindings).length := by
  induction bindings with
  | nil => exact Nat.le_refl 0
  | cons binding bindings ih =>
      obtain ⟨key, action⟩ := binding
      have line : 0 < (writePair key action.name).length := by simp [writePair]
      rw [bindingLines_cons, List.length_append, List.length_cons]
      omega

private theorem document_bindingLines {top : Entries} (outer : top.lookup "keybindings" = none)
    (front : Bindings) {back : Bindings} (distinct : ((front ++ back).map Prod.fst).Nodup)
    {fuel : Nat} (enough : back.length < fuel) :
    document fuel ⟨top ++ [("keybindings", .table .header front.entries)], ["keybindings"]⟩
        (bindingLines back) =
      some (top ++ [("keybindings", .table .header (Bindings.entries (front ++ back)))]) := by
  obtain ⟨fuel, rfl⟩ : ∃ n, fuel = n + 1 := ⟨fuel - 1, by omega⟩
  -- The induction is on the lines that are left, and `front` collects what was read.
  induction back generalizing front fuel with
  | nil =>
      rw [List.append_nil]
      rfl
  | cons binding back ih =>
      obtain ⟨key, action⟩ := binding
      obtain ⟨fuel, rfl⟩ : ∃ n, fuel = n + 1 := by
        rw [List.length_cons] at enough
        exact ⟨fuel - 1, by omega⟩
      have new := Bindings.lookup_entries_eq_none distinct
      have set := Entries.alongHeader_last outer new (.string action.name)
      have moved : front ++ (key, action) :: back = (front ++ [(key, action)]) ++ back := by simp
      rw [moved] at distinct
      rw [bindingLines_cons, writePair_append, document_pair (readsAs_string action.name) set,
        Bindings.entries_concat, moved]
      exact ih _ distinct fuel (Nat.lt_of_succ_lt_succ enough)

private theorem document_table {top : Entries} (outer : top.lookup "keybindings" = none)
    {bindings : Bindings} (distinct : (bindings.map Prod.fst).Nodup) {fuel : Nat}
    (enough : bindings.length + 1 < fuel) :
    document fuel ⟨top, []⟩ ("[keybindings]\n".toList ++ bindingLines bindings) =
      some (top ++ [("keybindings", .table .header bindings.entries)]) := by
  obtain ⟨fuel, rfl⟩ : ∃ n, fuel = n + 1 := ⟨fuel - 1, by omega⟩
  have text : "[keybindings]\n".toList ++ bindingLines bindings = '[' ::
      (Toml.writeKey "keybindings".toList ++ ']' :: '\n' :: bindingLines bindings) :=
    rfl
  rw [text, document_header (Entries.openTable_eq outer)]
  exact document_bindingLines outer [] distinct (by omega)

private theorem document_feed_table {top : Entries} (outer : top.lookup "keybindings" = none)
    {bindings : Bindings} (distinct : (bindings.map Prod.fst).Nodup) {fuel : Nat}
    (enough : bindings.length + 2 < fuel) :
    document fuel ⟨top, []⟩ ("\n[keybindings]\n".toList ++ bindingLines bindings) =
      some (top ++ [("keybindings", .table .header bindings.entries)]) := by
  obtain ⟨fuel, rfl⟩ : ∃ n, fuel = n + 1 := ⟨fuel - 1, by omega⟩
  have text : "\n[keybindings]\n".toList ++ bindingLines bindings =
      '\n' :: ("[keybindings]\n".toList ++ bindingLines bindings) :=
    rfl
  rw [text, document_feed]
  exact document_table outer distinct (by omega)

theorem read_bindingLines {bindings : Bindings} (distinct : (bindings.map Prod.fst).Nodup) :
    Toml.read (String.ofList ("[keybindings]\n".toList ++ bindingLines bindings)) =
      some [("keybindings", .table .header bindings.entries)] := by
  have unmarked : Toml.dropMark ("[keybindings]\n".toList ++ bindingLines bindings) =
      "[keybindings]\n".toList ++ bindingLines bindings := rfl
  have room : bindings.length + 1 <
      ("[keybindings]\n".toList ++ bindingLines bindings).length + 1 := by
    have lines := length_le_length_bindingLines bindings
    have header : "[keybindings]\n".toList.length = 14 := rfl
    rw [List.length_append]
    omega
  unfold Toml.read
  rw [String.toList_ofList]
  dsimp only
  rw [unmarked]
  exact document_table rfl distinct room

def pathLine : Option String → List Char
  | some path => writePair "scratch_path" path
  | none => []

private theorem read_writePair (path : String) :
    Toml.read (String.ofList (writePair "scratch_path" path)) =
      some [("scratch_path", .string path)] := by
  have set : Entries.alongHeader (·.assign ⟨[], "scratch_path"⟩ (.string path)) [] [] =
      some [("scratch_path", .string path)] := rfl
  have unmarked : Toml.dropMark (writePair "scratch_path" path) = writePair "scratch_path" path :=
    rfl
  have line := writePair_append "scratch_path" path []
  rw [List.append_nil] at line
  obtain ⟨fuel, room⟩ : ∃ fuel, (writePair "scratch_path" path).length = fuel + 1 :=
    ⟨_, rfl⟩
  unfold Toml.read
  dsimp only
  rw [String.toList_ofList, unmarked, room, line, document_pair (readsAs_string path) set]
  rfl

private theorem toToml_eq (config : Config) : config.toToml = String.ofList ("flash_ms = ".toList ++
    (toString config.flashMs).toList ++ ['\n'] ++ pathLine config.scratchPath ++
    "\n[keybindings]\n".toList ++ bindingLines config.bindings) := by
  unfold toToml pathLine bindingLines
  rfl

private theorem toList_toToml (config : Config) : config.toToml.toList =
    Toml.writeKey "flash_ms".toList ++ ' ' :: '=' :: ' ' :: (Nat.toDigits 10 config.flashMs ++
      '\n' :: (pathLine config.scratchPath ++
        ("\n[keybindings]\n".toList ++ bindingLines config.bindings))) := by
  have key (rest : List Char) : "flash_ms = ".toList ++ rest =
      Toml.writeKey "flash_ms".toList ++ ' ' :: '=' :: ' ' :: rest := rfl
  rw [toToml_eq, String.toList_ofList, Nat.toString_eq_repr, Nat.toList_repr]
  rw [List.append_assoc, List.append_assoc, List.append_assoc, List.append_assoc, key]
  rfl

private theorem read_toToml (flash : config.flashMs < UInt64.size)
    (sorted : config.bindings.Sorted) :
    Toml.read config.toToml = some config.entries := by
  have number : ReadsAs (Nat.toDigits 10 config.flashMs) (.integer config.flashMs) :=
    readsAs_toDigits (Nat.lt_trans flash (by decide))
  have unmarked : Toml.dropMark config.toToml.toList = config.toToml.toList := by
    rw [toList_toToml]
    rfl
  obtain ⟨fuel, room, enough⟩ : ∃ fuel, config.toToml.toList.length + 1 = fuel + 1 + 1 ∧
      config.bindings.length + 2 < fuel := by
    have lines := length_le_length_bindingLines config.bindings
    have header : "\n[keybindings]\n".toList.length = 15 := rfl
    refine ⟨config.toToml.toList.length - 1, ?_, ?_⟩
    all_goals
      rw [toList_toToml]
      simp only [List.length_append, List.length_cons]
      omega
  have first : Entries.alongHeader (·.assign ⟨[], "flash_ms"⟩ (.integer config.flashMs)) [] [] =
      some [("flash_ms", .integer config.flashMs)] := rfl
  unfold Toml.read
  dsimp only
  rw [unmarked, room, toList_toToml, document_pair number first, entries]
  cases config.scratchPath with
  | none => exact document_feed_table rfl sorted.nodup_keys (by omega)
  | some path =>
      have second : Entries.alongHeader (·.assign ⟨[], "scratch_path"⟩ (.string path)) []
          [("flash_ms", .integer config.flashMs)] =
            some [("flash_ms", .integer config.flashMs), ("scratch_path", .string path)] := rfl
      rw [pathLine, writePair_append, document_pair (readsAs_string path) second]
      exact document_feed_table rfl sorted.nodup_keys enough

/-! ## From entries to configurations -/

private theorem readAction_name (action : Action) :
    readAction (.string action.name) = .ok action := by
  cases action <;> rfl

private theorem sortEntries_entries {bindings : Bindings} (sorted : bindings.Sorted) :
    sortEntries bindings.entries = bindings.entries := by
  apply List.mergeSort_of_pairwise
  rw [Bindings.entries, List.pairwise_map]
  refine sorted.imp fun less => ?_
  rw [decide_eq_true_eq]
  exact Std.le_of_lt less

private theorem readBindings_entries {bindings : Bindings} (sorted : bindings.Sorted) :
    readBindings (.table .header bindings.entries) = .ok bindings := by
  rw [readBindings, sortEntries_entries sorted]
  clear sorted
  induction bindings with
  | nil => rfl
  | cons binding bindings ih =>
      rw [Bindings.entries, List.map_cons, ← Bindings.entries, List.mapM_cons, ih]
      dsimp only
      rw [readAction_name]
      rfl

private theorem mergeBindings_eq {bindings : Bindings} (sorted : bindings.Sorted)
    (all : ∀ key, Bindings.default.Binds key → bindings.Binds key)
    (small : ∀ binding ∈ bindings, lowerCase binding.1 = binding.1) :
    mergeBindings bindings = bindings := by
  have same : (bindings.map fun (key, action) => (lowerCase key, action)) = bindings.map id :=
    List.map_congr_left fun binding there => Prod.ext (small binding there) rfl
  rw [mergeBindings, same, List.map_id]
  exact Bindings.insertAll_eq_of_binds Bindings.sorted_default sorted all

/-- What a configuration has to be like to be read back: the time fits into 64 bits, and the
bindings are sorted, bind all keys that are bound by default and only keys in small letters. -/
structure Storable (config : Config) : Prop where
  flash : config.flashMs < UInt64.size
  sorted : config.bindings.Sorted
  all : ∀ key, Bindings.default.Binds key → config.bindings.Binds key
  small : ∀ binding ∈ config.bindings, lowerCase binding.1 = binding.1

/-- A configuration is read back but for its path, which is expanded. -/
theorem ofToml_toToml (storable : config.Storable) (env : Environment) :
    ofToml env config.toToml =
      .ok { config with scratchPath := config.scratchPath.map env.expand } := by
  have flash : readEntry config.entries "flash_ms" readFlash = .ok (some config.flashMs) := by
    have number : readFlash (.integer config.flashMs) = .ok config.flashMs := if_pos storable.flash
    have found : config.entries.lookup "flash_ms" = some (.integer config.flashMs) := rfl
    rw [readEntry, found]
    dsimp only
    rw [number]
    rfl
  have bindings : readEntry config.entries "keybindings" readBindings =
      .ok (some config.bindings) := by
    have found : config.entries.lookup "keybindings" =
        some (.table .header config.bindings.entries) := by
      rw [entries]
      cases config.scratchPath <;> rfl
    rw [readEntry, found]
    dsimp only
    rw [readBindings_entries storable.sorted]
    rfl
  have path : readEntry config.entries "scratch_path" readPath = .ok config.scratchPath := by
    rw [readEntry, entries]
    cases config.scratchPath <;> rfl
  have merged := mergeBindings_eq storable.sorted storable.all storable.small
  have read : ofEntries env config.entries =
      .ok { config with scratchPath := config.scratchPath.map env.expand } := by
    rw [ofEntries, flash, bindings, path]
    change Except.ok (Config.mk _ _ (mergeBindings config.bindings)) = _
    rw [merged]
    rfl
  rw [ofToml, read_toToml storable.flash storable.sorted]
  dsimp only
  rw [read]

/-! ## Configurations that were read -/

theorem mapError_eq_ok_iff {ε δ α : Type} {x : Except ε α} {f : ε → δ} {a : α} :
    x.mapError f = .ok a ↔ x = .ok a := by
  cases x with
  | error _ => simp [Except.mapError]
  | ok _ => simp [Except.mapError]

theorem cases_of_readEntry {α : Type} {entries : Entries} {key : String}
    {read : Value → Except Fault α} {chosen : Option α}
    (h : readEntry entries key read = .ok chosen) :
    (entries.lookup key = none ∧ chosen = none) ∨
      ∃ v a, entries.lookup key = some v ∧ read v = .ok a ∧ chosen = some a := by
  unfold readEntry at h
  split at h
  · rename_i absent
    cases h
    exact .inl ⟨absent, rfl⟩
  · rename_i v found
    rw [mapError_eq_ok_iff] at h
    cases result : read v with
    | error e =>
        rw [result] at h
        cases h
    | ok a =>
        rw [result] at h
        cases h
        exact .inr ⟨v, a, found, result, rfl⟩

private theorem lt_of_readFlash {v : Value} {n : Nat} (h : readFlash v = .ok n) :
    n < UInt64.size := by
  unfold readFlash at h
  split at h
  · split_ifs at h with small
    cases h
    exact small
  · cases h
  · cases h

theorem lowerCase_of_mem_default :
    ∀ binding ∈ Bindings.default, lowerCase binding.1 = binding.1 := by
  decide +kernel

private theorem lowerCase_of_mem_mergeBindings {user : List (String × Action)}
    {binding : String × Action} (there : binding ∈ mergeBindings user) :
    lowerCase binding.1 = binding.1 := by
  obtain chosen | kept := Bindings.mem_insertAll there
  · obtain ⟨pair, -, rfl⟩ := List.mem_map.mp chosen
    exact lowerCase_lowerCase pair.1
  · exact lowerCase_of_mem_default binding kept

theorem exists_entries_of_ofToml {env : Environment} {text : String}
    (loaded : ofToml env text = .ok config) :
    ∃ entries, Toml.read text = some entries ∧ ofEntries env entries = .ok config := by
  unfold ofToml at loaded
  split at loaded
  · cases loaded
  · rename_i entries document
    split at loaded
    · rename_i given
      cases loaded
      exact ⟨entries, document, given⟩
    · cases loaded

private theorem storable_of_ofToml {env : Environment} {text : String}
    (loaded : ofToml env text = .ok config) : config.Storable := by
  obtain ⟨entries, -, given⟩ := exists_entries_of_ofToml loaded
  obtain ⟨flash, flashRead, given⟩ := exists_ok_of_bind given
  obtain ⟨user, -, given⟩ := exists_ok_of_bind given
  obtain ⟨path, -, given⟩ := exists_ok_of_bind given
  cases given
  refine ⟨?_, ?_, ?_, ?_⟩
  · obtain ⟨-, rfl⟩ | ⟨v, n, -, number, rfl⟩ := cases_of_readEntry flashRead
    · change default.flashMs < UInt64.size
      decide
    · exact lt_of_readFlash number
  · exact Bindings.sorted_insertAll Bindings.sorted_default _
  · exact fun key bound => Bindings.binds_insertAll bound _
  · exact fun binding there => lowerCase_of_mem_mergeBindings there

/-! ## Saving and loading -/

private theorem map_expand_eq_self_iff (env : Environment) :
    config.scratchPath.map env.expand = config.scratchPath ↔
      ∀ path ∈ config.scratchPath, env.expand path = path := by
  cases config.scratchPath with
  | none => simp
  | some path => simp

private theorem load_of_save {env : Environment} {files : FileTree} {path : String}
    (saved : (config.save files path).error? = none)
    (read : ofToml env config.toToml = .ok config) :
    load env (config.save files path).files path = .ok (some config) := by
  unfold save at saved ⊢
  dsimp only at saved ⊢
  split at saved
  · rename_i failed
    rw [failed] at saved
    cases saved
  · split at saved
    · rename_i written done
      rw [load, if_pos (FileTree.hasPath_of_write done), FileTree.read_of_write done]
      dsimp only
      rw [read]
    · cases saved

private theorem ofToml_of_path {text path : String}
    (read : Toml.read text = some [("scratch_path", .string path)]) (env : Environment) :
    ofToml env text = .ok { default with scratchPath := some (env.expand path) } := by
  -- The default bindings stay folded: nothing has to compare their keys.
  have merged : mergeBindings [] = Bindings.default := by
    rw [mergeBindings, List.map_nil]
    exact List.foldl_nil
  have config : ofEntries env [("scratch_path", .string path)] =
      .ok ⟨default.flashMs, some (env.expand path), mergeBindings []⟩ := by
    have flash : readEntry [("scratch_path", .string path)] "flash_ms" readFlash = .ok none := rfl
    have user : readEntry [("scratch_path", .string path)] "keybindings" readBindings =
        .ok none := rfl
    have chosen : readEntry [("scratch_path", .string path)] "scratch_path" readPath =
        .ok (some path) := rfl
    rw [ofEntries, flash, user, chosen]
    rfl
  rw [ofToml, read]
  dsimp only
  rw [config, merged]
  rfl

/-- A configuration that can be stored is read back from its text, and from the file that it was
saved to. -/
theorem storable_reads_back (storable : config.Storable)
    (plain : ∀ path ∈ config.scratchPath, IsPlain path) (env : Environment) :
    ofToml env config.toToml = .ok config ∧
      ∀ (files : FileTree) (path : String), (config.save files path).error? = none →
        load env (config.save files path).files path = .ok (some config) := by
  have same : config.scratchPath.map env.expand = config.scratchPath :=
    (map_expand_eq_self_iff env).mpr fun path chosen => env.expand_eq_self (plain path chosen)
  have read : ofToml env config.toToml = .ok config := by
    rw [ofToml_toToml storable, same]
  exact ⟨read, fun files path saved => load_of_save saved read⟩

theorem odd_texts_read_back :
    let config : Config := ⟨UInt64.size - 1, some "~'''\"\"\"\n\\\t\x7f",
      Bindings.default.insertAll [("", .save), ("é \"'\r", .quit)]⟩
    let env : Environment := [("HOME", "/h")]
    (config.Storable ∧ (∀ path ∈ config.scratchPath, IsPlain path) ∧
      (config.save .empty "c.toml").error? = none) ∧
    ofToml env config.toToml = .ok config ∧
    load env (config.save .empty "c.toml").files "c.toml" = .ok (some config) := by
  intro config env
  have storable : config.Storable := by
    refine ⟨by decide, Bindings.sorted_insertAll Bindings.sorted_default _,
      fun key bound => Bindings.binds_insertAll bound _, fun binding there => ?_⟩
    obtain chosen | kept := Bindings.mem_insertAll there
    · revert binding
      decide +kernel
    · exact lowerCase_of_mem_default binding kept
  have plain : ∀ path ∈ config.scratchPath, IsPlain path := by
    intro path chosen
    cases chosen
    exact ⟨by decide, by decide, by decide⟩
  have saved : (config.save .empty "c.toml").error? = none := by
    have parents : FileTree.empty.makeParents "c.toml" = ⟨.empty, none⟩ := rfl
    obtain ⟨files, written⟩ : ∃ files, FileTree.empty.write "c.toml" config.toToml = .ok files :=
      ⟨_, rfl⟩
    rw [save, parents]
    dsimp only
    rw [written]
  obtain ⟨read, loads⟩ := storable_reads_back storable plain env
  exact ⟨⟨storable, plain, saved⟩, read, loads .empty "c.toml" saved⟩

/-- A configuration that was read is saved and read back but for its path, which is expanded a
second time. -/
theorem reload_expands_path {env : Environment} {text : String}
    (loaded : ofToml env text = .ok config) :
    ofToml env config.toToml =
        .ok { config with scratchPath := config.scratchPath.map env.expand } ∧
      (ofToml env config.toToml = .ok config ↔
        ∀ path ∈ config.scratchPath, env.expand path = path) ∧
      ((∀ path ∈ config.scratchPath, IsPlain path) → ofToml env config.toToml = .ok config) := by
  have read := ofToml_toToml (storable_of_ofToml loaded) env
  have stable : ofToml env config.toToml = .ok config ↔
      ∀ path ∈ config.scratchPath, env.expand path = path := by
    rw [read, ← map_expand_eq_self_iff]
    constructor
    · intro same
      exact congrArg Config.scratchPath (Except.ok.inj same)
    · intro same
      rw [same]
  refine ⟨read, stable, fun plain => stable.mpr ?_⟩
  exact fun path chosen => env.expand_eq_self (plain path chosen)

theorem tilde_of_variable_is_expanded_on_reload :
    let env : Environment := [("A", "~/b"), ("HOME", "/h")]
    ofToml env "scratch_path = \"$A\"\n" = .ok { default with scratchPath := some "~/b" } ∧
    ofToml env (toToml { default with scratchPath := some "~/b" }) =
      .ok { default with scratchPath := some "/h/b" } := by
  intro env
  have line : "scratch_path = \"$A\"\n" = String.ofList (writePair "scratch_path" "$A") := by decide
  have read := line ▸ read_writePair "$A"
  have first : env.expand "$A" = "~/b" := by decide
  have second : env.expand "~/b" = "/h/b" := by decide
  have loaded := ofToml_of_path read env
  rw [first] at loaded
  obtain ⟨reloaded, -⟩ := reload_expands_path loaded
  rw [Option.map_some, second] at reloaded
  exact ⟨loaded, reloaded⟩

/-- Two dollar signs stand for one, which names a variable when it is read a second time. -/
theorem escaped_dollar_is_expanded_on_reload :
    let env : Environment := [("HOME", "/home/oracle")]
    let config : Config := { default with scratchPath := some "$HOME" }
    ofToml env "scratch_path = \"$$HOME\"\n" = .ok config ∧
      ofToml env config.toToml ≠ .ok config := by
  intro env config
  have line : "scratch_path = \"$$HOME\"\n" =
      String.ofList (writePair "scratch_path" "$$HOME") := by decide
  have read := line ▸ read_writePair "$$HOME"
  have first : env.expand "$$HOME" = "$HOME" := by decide
  have second : env.expand "$HOME" = "/home/oracle" := by decide
  have loaded : ofToml env "scratch_path = \"$$HOME\"\n" = .ok config := by
    rw [ofToml_of_path read env, first]
  refine ⟨loaded, ?_⟩
  rw [ofToml_toToml (storable_of_ofToml loaded)]
  intro same
  have paths : some (env.expand "$HOME") = some "$HOME" :=
    congrArg Config.scratchPath (Except.ok.inj same)
  rw [second] at paths
  revert paths
  decide

end Config

end LispEditor
