import LispEditor.Editor.Turn
import LispEditor.Proofs.Merging

set_option autoImplicit false
set_option relaxedAutoImplicit false

/-!
# Spellings of keys

A key press is named with its character in small letters by itself, and a user's key is put in small
letters as a whole text. The two agree, whatever the character is: only a capital sigma looks at its
neighbours, and the plus sign that ends the modifiers is neither a letter nor passed over. So a
binding that is written with the character of a key, and its modifiers in any letters, is found when
the key is pressed.
-/

namespace LispEditor

/-! ## Lower-casing character by character -/

private theorem toNat_toLower {c : Char} (letter : 65 ≤ c.toNat ∧ c.toNat ≤ 90) :
    c.toLower.toNat = c.toNat + 32 := by
  have capital : c.val ≥ 'A'.val ∧ c.val ≤ 'Z'.val := letter
  have small : c.val.toNat + 32 < 2 ^ 32 := by
    have : c.val.toNat ≤ 90 := letter.2
    omega
  have lowered : c.toLower.val = c.val + 32 := congrArg Char.val (dif_pos capital)
  rw [← Char.toNat_val, lowered, ← Char.toNat_val]
  exact (UInt32.toNat_add _ _).trans (Nat.mod_eq_of_lt small)

private theorem toLower_eq_self {c : Char} (other : ¬ (65 ≤ c.toNat ∧ c.toNat ≤ 90)) :
    c.toLower = c :=
  dif_neg other

private theorem find?_capitalRuns_of_lt {n : Nat} (ascii : n < 128) :
    capitalRuns.find? (·.contains n) =
      if 65 ≤ n ∧ n ≤ 90 then some ⟨0x41, 0x5A, 1, 0x61⟩ else none := by
  have behind : capitalRuns.tail.all (fun r => Nat.ble 128 r.first) = true := by decide +kernel
  have others : capitalRuns.tail.find? (·.contains n) = none := by
    rw [List.find?_eq_none]
    intro r listed capital
    have first := Nat.le_of_ble_eq_true (List.all_eq_true.mp behind r listed)
    have := (CapitalRun.contains_iff.mp capital).1.1
    omega
  have whole : capitalRuns = ⟨0x41, 0x5A, 1, 0x61⟩ :: capitalRuns.tail := rfl
  rw [whole, List.find?_cons, others]
  split_ifs with letter
  · rw [CapitalRun.contains_iff.mpr ⟨letter, Nat.mod_one _⟩]
  · have outside : CapitalRun.contains ⟨0x41, 0x5A, 1, 0x61⟩ n = false := by
      rw [Bool.eq_false_iff]
      exact fun capital => letter (CapitalRun.contains_iff.mp capital).1
    rw [outside]

private theorem lowerChar_of_lt {c : Char} (ascii : c.toNat < 128) : lowerChar c = [c.toLower] := by
  have dotted : c ≠ 'İ' := by
    rintro rfl
    exact absurd ascii (by decide)
  rw [lowerChar, if_neg dotted, find?_capitalRuns_of_lt ascii]
  split_ifs with letter
  · have shifted : 0x61 + (c.toNat - 0x41) = c.toNat + 32 := by omega
    rw [← Char.ofNat_toNat c.toLower, toNat_toLower letter, ← shifted]
  · rw [toLower_eq_self letter]

private theorem toNat_lt_of_toLower {c : Char} (ascii : c.toLower.toNat < 128) : c.toNat < 128 := by
  by_cases letter : 65 ≤ c.toNat ∧ c.toNat ≤ 90
  · omega
  · rw [toLower_eq_self letter] at ascii
    exact ascii

private theorem eq_plus_of_toLower {c : Char} (plus : c.toLower = '+') : c = '+' := by
  by_cases letter : 65 ≤ c.toNat ∧ c.toNat ≤ 90
  · have shifted := toNat_toLower letter
    rw [plus] at shifted
    have code : '+'.toNat = 43 := rfl
    omega
  · rw [← plus, toLower_eq_self letter]

private theorem lowerFrom_append_of_ascii {cs : List Char} (ascii : ∀ c ∈ cs, c.toNat < 128)
    (before rest : List Char) :
    lowerFrom before (cs ++ rest) =
      cs.map Char.toLower ++ lowerFrom (cs.reverse ++ before) rest := by
  induction cs generalizing before with
  | nil => rfl
  | cons c cs ih =>
      obtain ⟨first, others⟩ := List.forall_mem_cons.mp ascii
      have sigma : c ≠ 'Σ' := by
        rintro rfl
        exact absurd first (by decide)
      rw [List.cons_append, lowerFrom, lowerBetween, if_neg sigma, lowerChar_of_lt first,
        ih others, List.reverse_cons, List.append_assoc]
      rfl

private theorem meetsCased_of_plus {before : List Char} (plus : ∀ c ∈ before.head?, c = '+') :
    meetsCased before = false := by
  cases before with
  | nil => rfl
  | cons c before =>
      obtain rfl := plus c rfl
      have noted : isCaseIgnorable '+' = false := by decide +kernel
      have uncased : isCased '+' = false := by decide +kernel
      rw [meetsCased, List.dropWhile_cons_of_neg (Bool.not_eq_true _ ▸ noted)]
      exact uncased

private theorem lowerFrom_singleton {before : List Char} (apart : meetsCased before = false)
    (c : Char) :
    lowerFrom before [c] = lowerChar c := by
  rw [lowerFrom, lowerFrom, List.append_nil, lowerBetween]
  by_cases sigma : c = 'Σ'
  · rw [if_pos sigma, apart, Bool.false_and, if_neg Bool.false_ne_true, sigma]
    decide +kernel
  · rw [if_neg sigma]

/-! ## Names of keys -/

namespace Key

/-- The names of ctrl and alt in front of the name of a key, if they are held down. -/
def modifiers (ctrl alt : Bool) : String :=
  (if ctrl then "ctrl+" else "") ++ (if alt then "alt+" else "")

/-- Whether the text, in small letters, is the name of the key press. -/
def SpelledAs (key : Key) (text : String) : Prop :=
  key.name? = some (lowerCase text)

instance (key : Key) (text : String) : Decidable (key.SpelledAs text) :=
  inferInstanceAs (Decidable (_ = _))

variable {ctrl alt : Bool}

private theorem name?_char (c : Char) (ctrl alt shift : Bool) :
    name? { code := .char c, ctrl, alt, shift } =
      some (modifiers ctrl alt ++ String.ofList (lowerChar c)) := by
  simp [name?, KeyCode.name?, KeyCode.isChar, modifiers]

private theorem toNat_lt_of_mem_modifiers {c : Char} (there : c ∈ (modifiers ctrl alt).toList) :
    c.toNat < 128 := by
  have all : ∀ ctrl alt, ((modifiers ctrl alt).toList.all (·.toNat < 128)) = true := by decide
  exact of_decide_eq_true (List.all_eq_true.mp (all ctrl alt) c there)

private theorem eq_plus_of_getLast?_modifiers {c : Char}
    (last : (modifiers ctrl alt).toList.getLast? = some c) : c = '+' := by
  have all : ∀ ctrl alt, ((modifiers ctrl alt).toList.getLast?.all (· = '+')) = true := by decide
  have plus := all ctrl alt
  rw [last] at plus
  exact of_decide_eq_true plus

private theorem toLower_modifiers : (modifiers ctrl alt).toLower = modifiers ctrl alt := by
  revert ctrl alt
  decide +kernel

private theorem lowerCase_modifiers_append {front : String}
    (same : front.toLower = modifiers ctrl alt) (c : Char) :
    lowerCase (front ++ String.singleton c) =
      modifiers ctrl alt ++ String.ofList (lowerChar c) := by
  have letters : front.toList.map Char.toLower = (modifiers ctrl alt).toList := by
    rw [← same]
    exact String.toList_map.symm
  have ascii : ∀ d ∈ front.toList, d.toNat < 128 := by
    intro d there
    apply toNat_lt_of_toLower
    apply toNat_lt_of_mem_modifiers
    rw [← letters]
    exact List.mem_map_of_mem there
  have plus : ∀ d ∈ front.toList.reverse.head?, d = '+' := by
    intro d last
    rw [List.head?_reverse] at last
    apply eq_plus_of_toLower
    apply eq_plus_of_getLast?_modifiers
    rw [← letters, List.getLast?_map, last]
    rfl
  have apart : meetsCased (front.toList.reverse ++ []) = false := by
    rw [List.append_nil]
    exact meetsCased_of_plus plus
  rw [lowerCase, String.toList_append, String.toList_singleton, lowerFrom_append_of_ascii ascii,
    lowerFrom_singleton apart, letters, String.ofList_append, String.ofList_toList]

private theorem spelledAs_append {front : String} (same : front.toLower = modifiers ctrl alt)
    (c : Char) (shift : Bool) :
    SpelledAs { code := .char c, ctrl, alt, shift } (front ++ String.singleton c) := by
  rw [SpelledAs, name?_char, lowerCase_modifiers_append same]

private theorem SpelledAs.lowerCase_eq {key : Key} {text name : String}
    (spelled : key.SpelledAs text) (named : key.name? = some name) : lowerCase name = name := by
  rw [spelled, Option.some.injEq] at named
  rw [← named, lowerCase_lowerCase]

private theorem SpelledAs.iff_lowerCase_eq {key : Key} {text other : String}
    (spelled : key.SpelledAs text) :
    key.SpelledAs other ↔ lowerCase other = lowerCase text := by
  rw [SpelledAs, spelled, Option.some.injEq, eq_comm]

end Key

/-! ## Bindings of keys -/

namespace Config

open Toml (Entries)

private theorem lookup_of_only_spelling {table : Entries} {user : Bindings} {g : String}
    {v : Toml.Value} {a : Action} (reads : ReadsTable table user)
    (distinct : (table.map Prod.fst).Nodup) (there : (g, v) ∈ table) (action : readAction v = .ok a)
    (only : ∀ entry ∈ table, lowerCase entry.1 = lowerCase g → entry.1 = g) :
    (mergeBindings user).lookup (lowerCase g) = some a := by
  obtain ⟨g', v', a', there', same, -, action', found⟩ :=
    reads.exists_greatest ⟨(g, v), there, rfl⟩
  have equal : (g', v') = (g, v) :=
    List.inj_on_of_nodup_map distinct there' there (only _ there' same)
  cases equal
  cases action.symm.trans action'
  exact found

end Config

namespace Editor

private theorem press_of_spelledAs {e : Editor} {key : Key} {text : String} {a : Action}
    (spelled : key.SpelledAs text) (bound : e.config.bindings.lookup (lowerCase text) = some a)
    (files : FileTree) (now : Nat) : e.press files now key = e.run files now a := by
  have found : key.name?.bind e.config.actionFor? = some a := by
    rw [spelled, Option.bind_some, Config.actionFor?, lowerCase_lowerCase, bound]
  rw [press, found]

open Config (ofToml userTable readAction) in
/-- The names of the modifiers, in any letters, and then any character are together, in small
letters, the name of the key press of that character. This name is not changed by putting it in
small letters again. So if exactly one of the keys that a configuration was read with spells the key
press, pressing the key runs the action of that one. -/
theorem press_runs_only_spelling (c : Char) (ctrl alt shift : Bool) :
    let key : Key := { code := .char c, ctrl, alt, shift }
    (∀ front : String, front.toLower = Key.modifiers ctrl alt →
      key.name? = some (lowerCase (front ++ String.singleton c))) ∧
    (∀ name, key.name? = some name → lowerCase name = name) ∧
    ∀ {env : Environment} {text : String} {config : Config}, ofToml env text = .ok config →
      ∃ entries, Toml.read text = some entries ∧
        ∀ g v a, (g, v) ∈ userTable entries → readAction v = .ok a → key.SpelledAs g →
          (∀ entry ∈ userTable entries, key.SpelledAs entry.1 → entry.1 = g) →
          ∀ (e : Editor) (files : FileTree) (now : Nat), e.config = config →
            e.press files now key = e.run files now a := by
  intro key
  have spelled : ∀ front : String, front.toLower = Key.modifiers ctrl alt →
      key.SpelledAs (front ++ String.singleton c) :=
    fun front same => Key.spelledAs_append same c shift
  refine ⟨spelled, ?_, ?_⟩
  · intro name named
    exact (spelled _ Key.toLower_modifiers).lowerCase_eq named
  · intro env text config loaded
    obtain ⟨entries, user, document, reads, merged⟩ := Config.exists_user_of_ofToml loaded
    have distinct := Config.nodup_userTable (Toml.distinct_of_read document)
    refine ⟨entries, document, ?_⟩
    intro g v a there action spelled only e files now chosen
    have found := Config.lookup_of_only_spelling reads distinct there action
      fun entry listed same => only entry listed (spelled.iff_lowerCase_eq.mpr same)
    rw [← merged, ← chosen] at found
    exact press_of_spelledAs spelled found files now

open Config (ofToml readBindings sortEntries bindingLines) in
/-- A capital sigma behind a modifier, beside a letter that has two small characters. -/
theorem press_runs_binding_of_sigma :
    let text := "[keybindings]\n\"aLt+İ\" = \"save\"\n\"CTRL+Σ\" = \"slurp-forward\"\n"
    let key : Key := { code := .char 'Σ', ctrl := true, shift := true }
    "CTRL+".toLower = Key.modifiers true false ∧ key.name? = some "ctrl+σ" ∧
    ∃ config, ofToml [] text = .ok config ∧
      let e : Editor := ⟨"s.clj", config, "(a) b".toList, 1, "", none, false⟩
      let slurped : Editor := ⟨"s.clj", config, "(a b)".toList, 1, "Slurp Forward", none, true⟩
      e.press .empty 5 key = ⟨slurped, .empty, [], .proceed⟩ := by
  intro text key
  let table : Toml.Entries := [("aLt+İ", .string "save"), ("CTRL+Σ", .string "slurp-forward")]
  let entries : Toml.Entries := [("keybindings", .table .header table)]
  have lines : text = String.ofList ("[keybindings]\n".toList ++
      bindingLines [("aLt+İ", .save), ("CTRL+Σ", .slurpForward)]) := by decide +kernel
  have document : Toml.read text = some entries := by
    rw [lines]
    exact Config.read_bindingLines (by decide)
  have order : ¬ "aLt+İ" ≤ "CTRL+Σ" := by decide
  have sorted : sortEntries table =
      [("CTRL+Σ", .string "slurp-forward"), ("aLt+İ", .string "save")] := by
    simp [table, sortEntries, List.mergeSort, List.MergeSort.Internal.splitInTwo, order]
  have user : readBindings (.table .header table) =
      .ok [("CTRL+Σ", .slurpForward), ("aLt+İ", .save)] := by
    rw [readBindings, sorted]
    rfl
  have loaded := Config.ofToml_of_table [] document user
  have capitals : "CTRL+".toLower = Key.modifiers true false := by decide +kernel
  have spelling : lowerCase "CTRL+Σ" = "ctrl+σ" := by decide +kernel
  obtain ⟨named, -, runs⟩ := press_runs_only_spelling 'Σ' true false true
  have spelled : key.name? = some (lowerCase "CTRL+Σ") := named "CTRL+" capitals
  obtain ⟨_, same, runs⟩ := runs loaded
  obtain rfl := Option.some.inj (document.symm.trans same)
  refine ⟨capitals, spelling ▸ spelled, _, loaded, ?_⟩
  refine (runs "CTRL+Σ" (.string "slurp-forward") .slurpForward ?_ rfl spelled ?_ _ _ _ rfl).trans
    rfl
  · exact List.mem_cons_of_mem _ List.mem_cons_self
  · change ∀ entry ∈ table, key.SpelledAs entry.1 → entry.1 = "CTRL+Σ"
    simp only [table, List.forall_mem_cons]
    exact ⟨by decide +kernel, fun _ => trivial, by simp⟩

end Editor

end LispEditor
