import ChatDispatch.Proofs.CommandLine.Words
import ChatDispatch.Proofs.Nested.Lens
import ChatDispatch.Proofs.Settings.Persistence

/-!
# Overriding other spellings

A setting is looked for under several spellings, but files are merged by the spellings that they
have.  So a setting of a higher file does not take the place of the same setting of a lower one
that is spelled otherwise: both are in the merged settings, and the spelling that is looked for
first is read.
-/

namespace ChatDispatch

namespace Table

variable {κ β : Type} [BEq κ]

theorem lookup_reverse [EquivBEq κ] {table : List (κ × β)} (distinct : Distinct table) (key : κ) :
    lookup key table.reverse = lookup key table := by
  induction table with
  | nil => rfl
  | cons entry rest induction =>
      obtain ⟨different, distinctRest⟩ := List.pairwise_cons.mp distinct
      rw [List.reverse_cons, lookup_append, induction distinctRest]
      cases same : entry.1 == key with
      | false => simp [lookup, same]
      | true =>
          have absent : lookup key rest = none := by
            refine lookup_eq_none_iff.mpr fun later member => ?_
            rw [← BEq.congr_right same, BEq.comm]
            exact different later member
          simp [lookup, same, absent]

end Table

namespace Nested

variable {key own : String} {value : Value} {lower upper entries : Entries}

/-- What a map has under a spelling, with the spelling. -/
def spelled? (entries : Entries) (spelling : String) : Option (String × Value) :=
  (Table.lookup (Key.text spelling) entries).map fun value => (spelling, value)

/-- The spellings of a key that are looked for before one of them. -/
def before (own key : String) : List String :=
  (spellings key).takeWhile (· != own)

/-- A lower map has something else than an upper one under a spelling that is looked for before
that of the upper one. -/
def Forestalled (key : String) (lower upper : Entries) : Prop :=
  ∃ own value other content, find? key upper = some (own, value) ∧
    find? key lower = some (other, content) ∧ other ∈ before own key ∧ content ≠ value

/-- The entry of the upper map is found, unless the lower one has an earlier spelling. -/
theorem find?_update (distinct : Table.Distinct upper)
    (found : find? key upper = some (own, value)) (lower : Entries) :
    find? key (Table.update lower upper) =
      ((before own key).findSome? (spelled? lower)).or (some (own, value)) := by
  obtain ⟨earlier, spelling, later, parts, gives, silent⟩ := List.findSome?_eq_some_iff.mp found
  obtain ⟨looked, present, same⟩ := Option.map_eq_some_iff.mp gives
  obtain ⟨rfl, rfl⟩ := Prod.mk.inj same
  have absent : ∀ other ∈ earlier, Table.lookup (Key.text other) upper = none :=
    fun other member => Option.map_eq_none_iff.mp (silent other member)
  have first : before spelling key = earlier := by
    have others : ∀ other ∈ earlier, (other != spelling) = true := by
      intro other member
      refine bne_iff_ne.mpr ?_
      rintro rfl
      cases (absent other member).symm.trans present
    rw [before, parts, List.takeWhile_append_of_pos others, List.takeWhile_cons_of_neg (by simp),
      List.append_nil]
  have merged (other : String) : Table.lookup (Key.text other) (Table.update lower upper) =
      (Table.lookup (Key.text other) upper).or (Table.lookup (Key.text other) lower) := by
    rw [Table.lookup_update, Table.lookup_reverse distinct]
  rw [first, find?, parts, List.findSome?_append, List.findSome?_cons, merged, present]
  congr 1
  refine findSome?_congr fun other member => ?_
  rw [merged, absent other member, spelled?, Option.none_or]

/-- What is found before some spelling is what is found at all, if it has an earlier spelling. -/
theorem findSome?_before_eq_some_iff {other : String} {content : Value} :
    (before own key).findSome? (spelled? entries) = some (other, content) ↔
      find? key entries = some (other, content) ∧ other ∈ before own key := by
  have parts : spellings key = before own key ++ (spellings key).dropWhile (· != own) :=
    (List.takeWhile_append_dropWhile).symm
  have all : find? key entries = ((before own key).findSome? (spelled? entries)).or
      (((spellings key).dropWhile (· != own)).findSome? (spelled? entries)) := by
    rw [← List.findSome?_append, ← parts]
    rfl
  constructor
  · intro found
    refine ⟨by rw [all, found]; rfl, ?_⟩
    obtain ⟨spelling, member, gives⟩ := List.exists_of_findSome?_eq_some found
    obtain ⟨looked, -, same⟩ := Option.map_eq_some_iff.mp gives
    obtain ⟨rfl, -⟩ := Prod.mk.inj same
    exact member
  · rintro ⟨found, member⟩
    cases first : (before own key).findSome? (spelled? entries) with
    | some entry =>
        rw [all, first] at found
        exact found
    | none =>
        have absent := Option.map_eq_none_iff.mp (List.findSome?_eq_none_iff.mp first other member)
        cases absent.symm.trans (of_find? found).2

/-- The value of the upper map is found exactly if the lower one does not forestall it. -/
theorem exists_find?_update_iff (distinct : Table.Distinct upper)
    (found : find? key upper = some (own, value)) :
    (∃ spelling, find? key (Table.update lower upper) = some (spelling, value)) ↔
      ¬ Forestalled key lower upper := by
  rw [find?_update distinct found]
  cases first : (before own key).findSome? (spelled? lower) with
  | none =>
      refine iff_of_true ⟨own, rfl⟩ ?_
      rintro ⟨spelling, content, other, another, here, below, earlier, -⟩
      obtain ⟨rfl, rfl⟩ := Prod.mk.inj (Option.some.inj (found.symm.trans here))
      rw [findSome?_before_eq_some_iff.mpr ⟨below, earlier⟩] at first
      cases first
  | some entry =>
      obtain ⟨other, content⟩ := entry
      obtain ⟨below, earlier⟩ := findSome?_before_eq_some_iff.mp first
      rw [Option.some_or]
      constructor
      · rintro ⟨spelling, same⟩ ⟨own', value', other', content', here, beneath, -, differ⟩
        obtain ⟨rfl, rfl⟩ := Prod.mk.inj (Option.some.inj (found.symm.trans here))
        obtain ⟨rfl, rfl⟩ := Prod.mk.inj (Option.some.inj (below.symm.trans beneath))
        exact differ (congrArg Prod.snd (Option.some.inj same))
      · intro free
        refine ⟨other, congrArg (fun own => some (other, own)) ?_⟩
        by_contra differ
        exact free ⟨own, value, other, content, found, below, earlier, differ⟩

theorem before_self (key : String) : before key key = [] := by
  rw [before, spellings, List.append_assoc, List.singleton_append, List.takeWhile_cons_of_neg]
  simp

theorem segments_of_single (single : '.' ∉ key.toList) : segments key = [key] := by
  rw [segments, Text.pieces, CommandLine.split_of_not_mem single, List.map_singleton,
    String.ofList_toList]

theorem read_single_iff (single : '.' ∉ key.toList) (present : value ≠ .null) :
    read (.map entries) [key] .null = .ok value ↔
      ∃ spelling, find? key entries = some (spelling, value) := by
  have parts := segments_of_single single
  constructor
  · intro read
    have followed := follow_of_read present read
    rw [parts] at followed
    obtain ⟨spelling, found, here, same⟩ := exists_find?_of_follow followed
    obtain rfl := Option.some.inj (Except.ok.inj same)
    exact ⟨spelling, here⟩
  · rintro ⟨spelling, here⟩
    refine read_of_follow present ?_ .null
    rw [parts]
    exact follow_of_find? here []

end Nested

namespace Settings

open Nested (Forestalled)

variable {tree : FileTree} {project explicit : Option String} {candidates : List Location}
  {lower upper : Entries}

theorem data_foldl_absorb (tree : FileTree) (locations : List Location) (settings : Settings) :
    (locations.foldl (absorb tree) settings).data =
      (locations.filterMap (mapping? tree)).foldl Table.update settings.data := by
  induction locations generalizing settings with
  | nil => rfl
  | cons location rest induction =>
      rw [List.foldl_cons, induction, absorb, List.filterMap_cons]
      cases mapping? tree location <;> rfl

theorem Loads.exists_of_two {given : Option FilePath}
    (loads : Loads tree project explicit given candidates)
    (read : (distinct candidates).filterMap (mapping? tree) = [lower, upper])
    (mapping : Table.Distinct lower) :
    ∃ settings, load tree project explicit = .ok settings ∧
      settings.data = Table.update lower upper := by
  refine ⟨_, loads.load_eq, ?_⟩
  have first : Table.update [] lower = [] ++ lower := Table.update_of_distinct mapping
  rw [data_addressed, data_foldl_absorb, read, List.foldl_cons, List.foldl_cons, first]
  rfl

/-- A setting of the higher one of two files is read exactly if the lower one does not forestall
it.  So it is if the higher file spells it as it is read, or the lower one does not have it. -/
theorem overrides_iff_not_forestalled {given : Option FilePath}
    (loads : Loads tree project explicit given candidates)
    (read : (distinct candidates).filterMap (mapping? tree) = [lower, upper])
    (lowerMapping : Table.Distinct lower) (upperMapping : Table.Distinct upper)
    {key : String} (single : '.' ∉ key.toList) {value : Value} (present : value ≠ .null)
    (gives : Nested.read (.map upper) [key] .null = .ok value) :
    ∃ settings, load tree project explicit = .ok settings ∧
      (settings.get [key] .null = .ok value ↔ ¬ Forestalled key lower upper) ∧
      (Table.holds (Key.text key) upper = true ∨ Nested.find? key lower = none →
        settings.get [key] .null = .ok value) := by
  obtain ⟨settings, loaded, data⟩ := loads.exists_of_two read lowerMapping
  obtain ⟨own, found⟩ := (Nested.read_single_iff single present).mp gives
  have reads : settings.get [key] .null = .ok value ↔ ¬ Forestalled key lower upper := by
    rw [get, data, Nested.read_single_iff single present,
      Nested.exists_find?_update_iff upperMapping found]
  refine ⟨settings, loaded, reads, fun easy => reads.mpr ?_⟩
  rintro ⟨spelling, content, other, another, here, below, earlier, -⟩
  rcases easy with literal | missing
  · rw [Table.holds_eq_isSome_lookup, Option.isSome_iff_exists] at literal
    obtain ⟨first, looked⟩ := literal
    rw [Nested.find?_of_lookup looked] at here
    obtain ⟨rfl, -⟩ := Prod.mk.inj (Option.some.inj here)
    rw [Nested.before_self] at earlier
    cases earlier
  · cases missing.symm.trans below

/-- Settings at home and in the current directory that spell a key differently. -/
def sampleSpellings (home work : String) : FileTree :=
  { nodes :=
      [(Location.home ++ [fileName], .document (.map [(.text home, .text "old")])),
        (Location.work ++ [fileName], .document (.map [(.text work, .text "new")]))]
    accounts := [] }

/-- Underscores at home do not forestall dashes in the current directory. -/
theorem overrides_underscores :
    let tree := sampleSpellings "plugin_paths" "plugin-paths"
    let lower : Entries := [(.text "plugin_paths", .text "old")]
    let upper : Entries := [(.text "plugin-paths", .text "new")]
    ∃ candidates, Loads tree none none none candidates ∧
      (distinct candidates).filterMap (mapping? tree) = [lower, upper] ∧
      Table.Distinct lower ∧ Table.Distinct upper ∧ '.' ∉ "plugin-paths".toList ∧
      Value.text "new" ≠ .null ∧
      Nested.read (.map upper) ["plugin-paths"] .null = .ok (.text "new") ∧
      ∃ settings, load tree none none = .ok settings ∧
        settings.get ["plugin-paths"] .null = .ok (.text "new") := by
  intro tree lower upper
  let candidates := [Location.home ++ [fileName], Location.work ++ [fileName]]
  have merges : mergeAll tree ⟨[], none⟩ (distinct candidates) = .ok _ := rfl
  have loads : Loads tree none none none candidates := ⟨rfl, rfl, canLook_of_mergeAll merges⟩
  have read : (distinct candidates).filterMap (mapping? tree) = [lower, upper] := rfl
  have mapping (entry : Key × Value) : Table.Distinct [entry] := List.pairwise_singleton _ _
  have single : '.' ∉ "plugin-paths".toList := by decide
  have present : Value.text "new" ≠ .null := nofun
  have gives : Nested.read (.map upper) ["plugin-paths"] .null = .ok (.text "new") := by
    decide +kernel
  obtain ⟨settings, loaded, -, easy⟩ :=
    overrides_iff_not_forestalled loads read (mapping _) (mapping _) single present gives
  exact ⟨candidates, loads, read, mapping _, mapping _, single, present, gives, settings, loaded,
    easy (.inl rfl)⟩

/-- Dashes at home forestall underscores in the current directory. -/
theorem not_overridden_by_underscores :
    ∃ settings, load (sampleSpellings "plugin-paths" "plugin_paths") none none = .ok settings ∧
      Nested.read (.map [(.text "plugin_paths", .text "new")]) ["plugin-paths"] .null =
        .ok (.text "new") ∧
      settings.get ["plugin-paths"] .null = .ok (.text "old") := by
  refine ⟨_, rfl, ?_, ?_⟩
  · decide +kernel
  · decide +kernel

end Settings

end ChatDispatch
