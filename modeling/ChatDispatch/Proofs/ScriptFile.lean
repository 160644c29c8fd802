import Mathlib.Data.String.Basic
import ChatDispatch.Proofs.FileTree
import ChatDispatch.Proofs.PluginModule

/-!
# Scripts under paths

`Lists` says which scripts a path leads to, by what is there and not by how it is searched: the
scripts of a directory in the order of their names, or the script itself.  A path leads nowhere if
it cannot be expanded or looked up, and then there is no list at all.

The content of a script is that of the cached module, or what a run of the file gives.  Scripts
that are loaded do not change what the others contain, nor what they contain themselves when they
come up again (`content?_load`).
-/

namespace ChatDispatch

open ModuleCache

namespace ScriptFile

def Searchable (files : FileTree) (text : String) : Prop :=
  ∃ path found, FilePath.ofHomeText files.accounts text = .ok path ∧ files.look path = .ok found

/-- The places of the scripts that a path leads to. -/
inductive Lists (files : FileTree) (text : String) : List Location → Prop where
  | folder {path : FilePath} {place : Location} {names : List String}
      (expands : FilePath.ofHomeText files.accounts text = .ok path)
      (found : files.look path = .ok (some (place, .directory)))
      (ordered : names.Pairwise (· < ·))
      (all : ∀ name, name ∈ names ↔
        isScriptName name = true ∧ (files.node? (place ++ [name])).isSome = true) :
      Lists files text (names.map fun name => place ++ [name])
  | script {path : FilePath} {place : Location} {node : FileNode}
      (expands : FilePath.ofHomeText files.accounts text = .ok path)
      (found : files.look path = .ok (some (place, node))) (isFile : node ≠ .directory)
      (suffix : (stemAndSuffix path.lastName).2 = scriptEnding) : Lists files text [place]
  | other {path : FilePath} {place : Location} {node : FileNode}
      (expands : FilePath.ofHomeText files.accounts text = .ok path)
      (found : files.look path = .ok (some (place, node))) (isFile : node ≠ .directory)
      (suffix : (stemAndSuffix path.lastName).2 ≠ scriptEnding) : Lists files text []
  | missing {path : FilePath} (expands : FilePath.ofHomeText files.accounts text = .ok path)
      (found : files.look path = .ok none) : Lists files text []

/-- The places of the scripts that paths lead to, one path after the other. -/
inductive ListsAll (files : FileTree) : List String → List Location → Prop where
  | nil : ListsAll files [] []
  | cons {text : String} {texts : List String} {places others : List Location}
      (first : Lists files text places) (rest : ListsAll files texts others) :
      ListsAll files (text :: texts) (places ++ others)

/-- A script is cached under the place where it is, and by its name it can be run. -/
structure IsProper (script : ScriptFile) : Prop where
  located : script.location = script.place
  runnable : hasEnding scriptEnding script.source = true

end ScriptFile

theorem stemAndSuffix_suffix {name : String} (suffixed : (stemAndSuffix name).2 ≠ "") :
    (stemAndSuffix name).2.toList <:+ name.toList := by
  unfold stemAndSuffix at suffixed ⊢
  dsimp only at suffixed ⊢
  split at suffixed
  · exact absurd rfl suffixed
  · rename_i dotted
    rw [if_neg dotted, String.toList_ofList]
    simp only [Bool.or_eq_true, not_or, decide_eq_true_eq, List.length_reverse] at dotted
    have parts := List.takeWhile_append_dropWhile (p := (· != '.')) (l := name.toList.reverse)
    cases before : name.toList.reverse.dropWhile (· != '.') with
    | nil =>
        rw [before, List.append_nil] at parts
        exact absurd (by rw [parts, List.length_reverse]) dotted.1.1
    | cons dot rest =>
        have isDot : dot = '.' := by
          have stops := List.head?_dropWhile_not (· != '.') name.toList.reverse
          rw [before] at stops
          simpa using stops
        rw [before, isDot] at parts
        have whole := congrArg List.reverse parts
        rw [List.reverse_reverse, List.reverse_append, List.reverse_cons, List.append_assoc]
          at whole
        exact ⟨rest.reverse, whole⟩

namespace ModuleCache

theorem hasEnding_of_suffix {source : String} (suffix : scriptEnding.toList <:+ source.toList) :
    hasEnding scriptEnding source = true := by
  rw [hasEnding, List.isSuffixOf_iff_suffix]
  unfold FilePath.fullText
  split
  · exact suffix
  · have kept : FilePath.withoutSlashes source = source := by
      obtain ⟨stem, parts⟩ := suffix
      rw [FilePath.withoutSlashes, ← parts]
      simp only [List.reverse_append]
      apply String.toList_inj.mp
      rw [String.toList_ofList, ← parts]
      have stops : (scriptEnding.toList.reverse ++ stem.reverse).dropWhile (· == '/') =
          scriptEnding.toList.reverse ++ stem.reverse := rfl
      rw [stops]
      simp
    rw [kept]
    refine suffix.trans ⟨(Location.rootText ++ "/" ++ Location.work.text ++ "/").toList, ?_⟩
    rw [← String.toList_append]
    rfl

end ModuleCache

namespace FileTree

variable {files : FileTree} {place : Location} {name : String}

theorem mem_children : name ∈ files.children place ↔
    ∃ entry ∈ files.nodes, (place ++ [name]).isPrefixOf entry.1 = true := by
  unfold children
  dsimp only
  rw [List.mem_mergeSort, List.mem_eraseDups, List.mem_filterMap]
  constructor
  · rintro ⟨entry, member, found⟩
    refine ⟨entry, member, ?_⟩
    split at found
    · rename_i below
      obtain ⟨rest, parts⟩ := List.isPrefixOf_iff_prefix.mp below
      rw [← parts, List.getElem?_append_right (Nat.le_refl _), Nat.sub_self,
        ← List.head?_eq_getElem?] at found
      obtain ⟨others, same⟩ := List.head?_eq_some_iff.mp found
      rw [List.isPrefixOf_iff_prefix, ← parts, same]
      exact ⟨others, by simp⟩
    · cases found
  · rintro ⟨entry, member, below⟩
    obtain ⟨rest, parts⟩ := List.isPrefixOf_iff_prefix.mp below
    refine ⟨entry, member, ?_⟩
    have within : place.isPrefixOf entry.1 = true :=
      List.isPrefixOf_iff_prefix.mpr ⟨[name] ++ rest, by rw [← parts, List.append_assoc]⟩
    rw [within, if_pos rfl, ← parts]
    simp

theorem pairwise_children (files : FileTree) (place : Location) :
    (files.children place).Pairwise (· < ·) := by
  rw [children]
  exact Table.pairwise_mergeSort_eraseDups _

theorem exists_last_of_isScriptName (isScript : ScriptFile.isScriptName name = true) :
    scriptEnding.toList <:+ name.toList := by
  rw [ScriptFile.isScriptName, Bool.and_eq_true, List.isSuffixOf_iff_suffix] at isScript
  exact isScript.1

/-- A script by its name lies in a directory if anything is there. -/
theorem mem_children_iff_of_isScriptName (isScript : ScriptFile.isScriptName name = true) :
    name ∈ files.children place ↔ (files.node? (place ++ [name])).isSome = true := by
  rw [mem_children]
  obtain ⟨stem, parts⟩ := exists_last_of_isScriptName isScript
  have other {word : String} (unlike : word.toList.getLast? ≠ some 'y') : name ≠ word := by
    rintro rfl
    apply unlike
    rw [← parts]
    simp [scriptEnding]
  have notAbove : Location.isAbove (place ++ [name]) = false := by
    rw [Location.isAbove, List.all_append, List.all_cons, List.all_nil, Bool.and_true,
      Bool.and_eq_false_iff]
    right
    have up : name ≠ Location.upward := other (by decide)
    have top : name ≠ "" := other (by decide)
    simp [up, top]
  have apart {word : String} (unlike : word.toList.getLast? ≠ some 'y') :
      place ++ [name] ≠ [word] := by
    intro same
    have last := congrArg List.getLast? same
    simp only [List.getLast?_append_cons, List.getLast?_singleton, Option.some.injEq] at last
    exact other unlike last
  have notHome : place ++ [name] ≠ Location.home := apart (by decide)
  have notWork : place ++ [name] ≠ Location.work := apart (by decide)
  unfold node?
  cases stored : Table.lookup (place ++ [name]) files.nodes with
  | some node =>
      obtain ⟨entry, member, same, -⟩ := Table.exists_mem_of_lookup stored
      have key : entry.1 = place ++ [name] := beq_iff_eq.mp same
      simp only [Option.isSome_some, iff_true]
      exact ⟨entry, member, by rw [key]; exact List.isPrefixOf_iff_prefix.mpr List.prefix_rfl⟩
  | none =>
      simp only [notAbove, notHome, notWork, decide_false, Bool.or_false, Bool.false_or]
      rw [← List.any_eq_true]
      split
      · rename_i below
        simp [below]
      · rename_i none
        simp [none]

end FileTree

namespace ScriptFile

variable {files : FileTree} {text : String} {scripts : List ScriptFile}

theorem lists_of_under (found : under files text = .ok scripts) :
    Lists files text (scripts.map (·.place)) ∧ ∀ script ∈ scripts, script.IsProper := by
  unfold under at found
  cases expands : FilePath.ofHomeText files.accounts text with
  | error fault =>
      rw [expands] at found
      cases found
  | ok path =>
      rw [expands] at found
      simp only [Except.bind, within] at found
      rcases looks : files.look path with fault | - | ⟨place, node⟩
      · rw [looks] at found
        cases found
      · rw [looks] at found
        obtain rfl := Except.ok.inj found
        exact ⟨.missing expands looks, nofun⟩
      · rw [looks] at found
        have located : path.location = place := (FileTree.eq_location_of_look looks).symm
        by_cases folder : node = .directory
        · subst folder
          obtain rfl := Except.ok.inj found
          refine ⟨?_, ?_⟩
          · rw [List.map_map]
            refine .folder expands looks ((files.pairwise_children place).filter _) fun name => ?_
            rw [List.mem_filter, and_comm, and_congr_right_iff]
            exact fun isScript => FileTree.mem_children_iff_of_isScriptName isScript
          · intro script member
            obtain ⟨name, listed, rfl⟩ := List.mem_map.mp member
            refine ⟨by rw [located], hasEnding_of_suffix ?_⟩
            exact FileTree.exists_last_of_isScriptName (List.mem_filter.mp listed).2
        · have alone : scripts =
              if (stemAndSuffix path.lastName).2 = scriptEnding then
                [⟨path.location, place, path.lastName⟩] else [] := by
            cases node with
            | directory => exact absurd rfl folder
            | _ => exact (Except.ok.inj found).symm
          by_cases suffix : (stemAndSuffix path.lastName).2 = scriptEnding
          · rw [alone, if_pos suffix]
            refine ⟨.script expands looks folder suffix, fun script member => ?_⟩
            rw [List.mem_singleton.mp member]
            refine ⟨located, hasEnding_of_suffix ?_⟩
            rw [← suffix]
            exact stemAndSuffix_suffix (by rw [suffix]; decide)
          · rw [alone, if_neg suffix]
            exact ⟨.other expands looks folder suffix, nofun⟩

theorem under_of_folder {path : FilePath} {place : Location}
    (expands : FilePath.ofHomeText files.accounts text = .ok path)
    (found : files.look path = .ok (some (place, .directory))) :
    under files text =
      .ok (((files.children place).filter isScriptName).map fun name =>
        ⟨path.location ++ [name], place ++ [name], name⟩) := by
  rw [under, expands, Except.bind, within, found]
  rfl

theorem exists_under_iff :
    (∃ scripts, under files text = .ok scripts) ↔ Searchable files text := by
  unfold under Searchable
  cases FilePath.ofHomeText files.accounts text with
  | error fault =>
      constructor
      · rintro ⟨_, found⟩
        cases found
      · rintro ⟨_, _, expands, -⟩
        cases expands
  | ok path =>
      simp only [Except.bind, within]
      cases looks : files.look path with
      | error fault =>
          refine ⟨nofun, ?_⟩
          rintro ⟨other, found, same, looked⟩
          cases Except.ok.inj same
          cases looks.symm.trans looked
      | ok found => exact ⟨fun _ => ⟨path, found, rfl, looks⟩, fun _ => ⟨_, rfl⟩⟩

/-- What is found under some paths is found under the first one, which is a text, and under the
others. -/
theorem exists_of_underAll_cons {item : Value} {rest : List Value}
    (found : underAll files (item :: rest) = .ok scripts) :
    ∃ text first others, item = .text text ∧ under files text = .ok first ∧
      underAll files rest = .ok others ∧ scripts = first ++ others := by
  cases item with
  | text text =>
      rw [underAll] at found
      cases here : under files text with
      | error fault =>
          rw [here] at found
          cases found
      | ok first =>
          rw [here] at found
          cases later : underAll files rest with
          | error fault =>
              rw [later] at found
              cases found
          | ok others =>
              rw [later] at found
              exact ⟨text, first, others, rfl, here, rfl, (Except.ok.inj found).symm⟩
  | _ => cases found

theorem exists_texts_of_underAll {items : List Value} (found : underAll files items = .ok scripts) :
    ∃ texts : List String, items = texts.map .text := by
  induction items generalizing scripts with
  | nil => exact ⟨[], rfl⟩
  | cons item rest induction =>
      obtain ⟨text, first, others, rfl, -, later, -⟩ := exists_of_underAll_cons found
      obtain ⟨texts, rfl⟩ := induction later
      exact ⟨text :: texts, rfl⟩

theorem listsAll_of_underAll {texts : List String}
    (found : underAll files (texts.map .text) = .ok scripts) :
    ListsAll files texts (scripts.map (·.place)) ∧ ∀ script ∈ scripts, script.IsProper := by
  induction texts generalizing scripts with
  | nil =>
      obtain rfl := Except.ok.inj found
      exact ⟨.nil, nofun⟩
  | cons text rest induction =>
      obtain ⟨_, first, others, same, here, later, rfl⟩ := exists_of_underAll_cons found
      obtain rfl := Value.text.inj same
      obtain ⟨lists, proper⟩ := lists_of_under here
      obtain ⟨listsRest, properRest⟩ := induction later
      refine ⟨?_, List.forall_mem_append.mpr ⟨proper, properRest⟩⟩
      rw [List.map_append]
      exact .cons lists listsRest

theorem exists_underAll_iff {texts : List String} :
    (∃ scripts, underAll files (texts.map .text) = .ok scripts) ↔
      ∀ text ∈ texts, Searchable files text := by
  induction texts with
  | nil => exact ⟨fun _ => nofun, fun _ => ⟨[], rfl⟩⟩
  | cons text rest induction =>
      rw [List.forall_mem_cons, ← induction, ← exists_under_iff, List.map_cons, underAll]
      cases under files text with
      | error fault => exact ⟨nofun, fun ⟨⟨_, found⟩, _⟩ => nomatch found⟩
      | ok first =>
          cases underAll files (rest.map .text) with
          | error fault => exact ⟨nofun, fun ⟨_, _, found⟩ => nomatch found⟩
          | ok others => exact ⟨fun _ => ⟨⟨first, rfl⟩, others, rfl⟩, fun _ => ⟨_, rfl⟩⟩

end ScriptFile

namespace ModuleCache

/-- What a run of a file gives, if it does not fail. -/
def runs? (node : FileNode) : Option Script :=
  (run "" node).toOption

/-- The content of the script at a place: that of the cached module, unless there is none or
scripts are run again. -/
def content? (cache : ModuleCache) (files : FileTree) (reload : Bool) (place : Location) :
    Option Script :=
  match if reload then none else Table.lookup place cache.modules with
  | some cached => some cached.content
  | none => (files.node? place).bind runs?

variable {cache : ModuleCache} {files : FileTree} {reload : Bool} {script : ScriptFile}

theorem toOption_run (source : String) (node : FileNode) :
    (run source node).toOption = runs? node := by
  unfold runs? run
  cases node with
  | script content =>
      cases content with
      | factory blueprint width importFailure factoryFailure => cases importFailure <;> rfl
      | notCallable => rfl
      | empty => rfl
  | document content => cases content <;> rfl
  | malformed => rfl
  | directory => rfl

theorem toOption_bind_run (files : FileTree) (script : ScriptFile) (source : String) :
    ((script.node files).bind (run source)).toOption =
      (files.node? script.place).bind runs? := by
  unfold ScriptFile.node
  cases files.node? script.place with
  | none => rfl
  | some node => exact toOption_run source node

/-- A proper script gives its content, and afterwards all scripts still have the contents that
they had before. -/
theorem content?_load (cache : ModuleCache) (files : FileTree) (reload : Bool)
    (proper : script.IsProper) :
    let loaded := cache.load script.location script.source none reload (script.node files)
    loaded.2.toOption.map (·.content) = cache.content? files reload script.place ∧
      ∀ place, loaded.1.content? files reload place = cache.content? files reload place := by
  have executed (name : ModuleName)
      (uncached : (if reload then none else Table.lookup script.place cache.modules) = none) :
      let ran := cache.execute script.location script.source name (script.node files)
      ran.2.toOption.map (·.content) = cache.content? files reload script.place ∧
        ∀ place, ran.1.content? files reload place = cache.content? files reload place := by
    have own : cache.content? files reload script.place =
        (files.node? script.place).bind runs? := by
      rw [content?, uncached]
    rw [own, ← toOption_bind_run files script script.source, execute, proper.runnable,
      Bool.not_true, if_neg Bool.false_ne_true]
    cases ran : (script.node files).bind (run script.source) with
    | error fault => exact ⟨rfl, fun _ => rfl⟩
    | ok content =>
        refine ⟨rfl, fun place => ?_⟩
        rw [proper.located]
        cases reload with
        | true => rfl
        | false =>
            by_cases same : script.place = place
            · subst same
              rw [own, ← toOption_bind_run files script script.source, ran, content?]
              simp [Table.lookup_store_self, Except.toOption]
            · have apart : (script.place == place) = false := beq_false_of_ne same
              simp only [content?, Table.lookup_store_of_ne apart]
  unfold load
  dsimp only
  rw [proper.located]
  rw [proper.located] at executed
  cases cached : Table.lookup script.place cache.modules with
  | none => exact executed _ (by simp [cached])
  | some module =>
      cases reload with
      | true => exact executed _ rfl
      | false => exact ⟨by simp [content?, cached, Except.toOption], fun _ => rfl⟩

end ModuleCache

end ChatDispatch
