import ChatDispatch.Model.ListFile
import ChatDispatch.Proofs.Redefining
import Mathlib.Data.List.Forall2

/-!
# Merged model lists

Every file of a merge is read as the models that it defines: those of its list, or none if it is
missing or blank.  A merge succeeds exactly if all of its files can be read.  What it leaves are
the models that were not defined again, in their order, and behind them the last definition of
each name, in the order of these last definitions.
-/

namespace ChatDispatch.Model

open Redefining

/-- The models that a file defines in its order: none if there is no such file or it is blank,
and else those that its entries describe. -/
inductive Reads (tree : FileTree) : Value → List Model → Prop where
  | missing {path : String} : tree.existing? path = none → Reads tree (.text path) []
  | closed {value : Value} : isOpenFile value = .ok false → Reads tree value []
  | blank {path : String} {node : FileNode} :
      tree.existing? path = some node → node.content? = some .null → Reads tree (.text path) []
  | listed {path : String} {node : FileNode} {content : Value} {entries : List Value}
      {defined : List Model} :
      tree.existing? path = some node → node.content? = some content → content ≠ .null →
      Declaration.itemsOf content = .ok entries →
      List.Forall₂ (fun entry model => ofValue entry = .ok model) entries defined →
      Reads tree (.text path) defined

/-- The text of a path under which there is something that is not blank. -/
def filled? (tree : FileTree) : Value → Option String
  | .text path =>
      (tree.existing? path).bind fun node =>
        if node.content? = some .null then none else some path
  | _ => none

variable {tree : FileTree} {models defined : List Model}

theorem replace_eq_define : replace = define Model.name := rfl

theorem mergeEntries_of_described {entries : List Value}
    (described : List.Forall₂ (fun entry model => ofValue entry = .ok model) entries defined)
    (models : List Model) : mergeEntries models entries = (defined.foldl replace models, none) := by
  induction described generalizing models with
  | nil => rfl
  | cons here _ induction =>
      rw [mergeEntries, here]
      exact induction _

theorem exists_described {entries : List Value} {merged : List Model}
    (done : mergeEntries models entries = (merged, none)) :
    ∃ defined, List.Forall₂ (fun entry model => ofValue entry = .ok model) entries defined := by
  induction entries generalizing models with
  | nil => exact ⟨[], .nil⟩
  | cons entry rest induction =>
      rw [mergeEntries] at done
      split at done
      · cases done
      · rename_i model here
        obtain ⟨defined, described⟩ := induction done
        exact ⟨model :: defined, .cons here described⟩

/-- The outcome of a document tells whether the file was merged. -/
def ofDocument : List Model × Option Fault → List Model × Except Fault Bool
  | (merged, some fault) => (merged, .error fault)
  | (merged, none) => (merged, .ok true)

theorem mergeFile_of_content {path : String} {node : FileNode} {content : Value}
    (present : tree.existing? path = some node) (has : node.content? = some content)
    (models : List Model) :
    mergeFile tree models path =
      if content = .null then (models, .ok false)
      else ofDocument (mergeDocument path models content) := by
  have file : node ≠ .directory := by
    rintro rfl
    cases has
  rw [mergeFile, present]
  cases node with
  | directory => exact absurd rfl file
  | _ =>
      simp only [has]
      cases content <;> rfl

theorem mergeFile_of_reads {path : String} (reads : Reads tree (.text path) defined)
    (models : List Model) :
    mergeFile tree models path =
      (defined.foldl replace models, .ok (filled? tree (.text path)).isSome) := by
  cases reads with
  | missing absent => rw [mergeFile, filled?, absent]; rfl
  | closed isOpen => cases isOpen
  | blank present blank =>
      rw [mergeFile_of_content present blank, filled?, present, if_pos rfl, Option.bind_some,
        if_pos blank]
      rfl
  | listed present has filled items described =>
      rw [mergeFile_of_content present has, filled?, present, if_neg filled, Option.bind_some, has,
        if_neg fun blank => filled (Option.some.inj blank), mergeDocument, items]
      dsimp only
      rw [mergeEntries_of_described described]
      rfl

theorem exists_reads_of_mergeFile {path : String} {merged : List Model} {used : Bool}
    (done : mergeFile tree models path = (merged, .ok used)) :
    ∃ defined, Reads tree (.text path) defined := by
  cases present : tree.existing? path with
  | none => exact ⟨[], .missing present⟩
  | some node =>
      cases has : node.content? with
      | none =>
          rw [mergeFile, present] at done
          cases node with
          | directory => cases done
          | _ =>
              simp only [has] at done
              cases done
      | some content =>
          rw [mergeFile_of_content present has] at done
          split_ifs at done with blank
          · exact ⟨[], .blank present (blank ▸ has)⟩
          · rw [mergeDocument] at done
            cases items : Declaration.itemsOf content with
            | error fault =>
                rw [items] at done
                cases done
            | ok entries =>
                rw [items] at done
                dsimp only at done
                rcases outcome : mergeEntries models entries with ⟨own, _ | fault⟩
                · obtain ⟨defined, described⟩ := exists_described outcome
                  exact ⟨defined, .listed present has blank items described⟩
                · rw [outcome] at done
                  cases done

theorem filled?_text_cases (tree : FileTree) (path : String) :
    filled? tree (.text path) = none ∨ filled? tree (.text path) = some path := by
  rw [filled?]
  cases tree.existing? path with
  | none => exact .inl rfl
  | some node =>
      rw [Option.bind_some]
      split_ifs
      · exact .inl rfl
      · exact .inr rfl

theorem mergeFiles_of_reads {paths : List Value} {lists : List (List Model)}
    (reads : List.Forall₂ (Reads tree) paths lists) (models : List Model) :
    mergeFiles tree models paths =
      ⟨lists.flatten.foldl replace models, .ok (paths.filterMap (filled? tree))⟩ := by
  induction reads generalizing models with
  | nil => rfl
  | @cons path defined paths lists here _ induction =>
      cases path with
      | text path =>
          rw [mergeFiles, mergeFile_of_reads here]
          dsimp only
          rw [induction, List.flatten_cons, List.foldl_append, List.filterMap_cons]
          rcases filled?_text_cases tree path with skipped | merged
          · rw [skipped]
            rfl
          · rw [merged]
            rfl
      | _ =>
          cases here with
          | closed isOpen =>
              rw [mergeFiles, isOpen]
              exact induction models
              nofun

theorem exists_reads_of_mergeFiles {paths : List Value} {loaded : List String}
    (done : (mergeFiles tree models paths).outcome = .ok loaded) :
    ∃ lists, List.Forall₂ (Reads tree) paths lists := by
  induction paths generalizing models loaded with
  | nil => exact ⟨[], .nil⟩
  | cons path rest induction =>
      cases path with
      | text path =>
          rw [mergeFiles] at done
          rcases here : mergeFile tree models path with ⟨merged, fault | used⟩
          · rw [here] at done
            cases done
          · rw [here] at done
            dsimp only at done
            obtain ⟨defined, reads⟩ := exists_reads_of_mergeFile here
            cases later : (mergeFiles tree merged rest).outcome with
            | error fault =>
                rw [later] at done
                cases done
            | ok others =>
                obtain ⟨lists, all⟩ := induction later
                exact ⟨defined :: lists, .cons reads all⟩
      | _ =>
          rw [mergeFiles] at done
          · split at done
            · cases done
            · cases done
            · rename_i isOpen
              obtain ⟨lists, all⟩ := induction done
              exact ⟨[] :: lists, .cons (.closed isOpen) all⟩
          · nofun

/-- A merge succeeds exactly if all files can be read.  Then each name has one model, the one that
was defined last, and what was defined stands in the order of the last definitions behind what was
not defined again. -/
theorem merge_keeps_last (tree : FileTree) {models : List Model}
    (apart : NamesApart Model.name models) (paths : List Value) :
    ((∃ loaded, (mergeFiles tree models paths).outcome = .ok loaded) ↔
        ∃ lists, List.Forall₂ (Reads tree) paths lists) ∧
      ∀ lists, List.Forall₂ (Reads tree) paths lists →
        let merged := (mergeFiles tree models paths).models
        let defined := lists.flatten
        (mergeFiles tree models paths).outcome = .ok (paths.filterMap (filled? tree)) ∧
          NamesApart Model.name merged ∧
          merged = without Model.name defined models ++ lastOfEach Model.name defined ∧
          ∀ name, find? merged name = (last? Model.name name defined).or (find? models name) := by
  constructor
  · constructor
    · rintro ⟨loaded, done⟩
      exact exists_reads_of_mergeFiles done
    · rintro ⟨lists, reads⟩
      exact ⟨_, congrArg Merge.outcome (mergeFiles_of_reads reads models)⟩
  · intro lists reads
    rw [mergeFiles_of_reads reads, replace_eq_define]
    exact ⟨rfl, namesApart_foldl_define apart _, foldl_define _ _,
      fun name => find?_foldl_define name _ _⟩

/-- Lists that define a name twice, and a file that is blank. -/
def sampleLists : FileTree :=
  let entry (name description : String) : Value :=
    .map [(.text "name", .text name), (.text "description", .text description)]
  { nodes :=
      [(Location.work ++ ["first.yml"], .document (.list [entry "b" "old", entry "c" "new"])),
        (Location.work ++ ["blank.yml"], .document .null),
        (Location.work ++ ["second.yml"],
          .document (.list [entry "d" "new", entry "b" "older", entry "b" "new"]))]
    accounts := [] }

def sampleModel (name description : String) : Model :=
  ⟨.text name, .null, .text description⟩

/-- A name that is defined three times stands where it was defined last. -/
theorem merge_keeps_last_sampleLists :
    let models := [sampleModel "a" "", sampleModel "b" "", sampleModel "c" ""]
    let paths := ["first.yml", "missing.yml", "blank.yml", "second.yml"].map Value.text
    let lists :=
      [[sampleModel "b" "old", sampleModel "c" "new"], [], [],
        [sampleModel "d" "new", sampleModel "b" "older", sampleModel "b" "new"]]
    let merge := mergeFiles sampleLists models paths
    NamesApart Model.name models ∧ List.Forall₂ (Reads sampleLists) paths lists ∧
      merge.outcome = .ok ["first.yml", "second.yml"] ∧
      merge.models =
        [sampleModel "a" "", sampleModel "c" "new", sampleModel "d" "new", sampleModel "b" "new"] ∧
      find? merge.models (.text "b") = some (sampleModel "b" "new") := by
  intro models paths lists merge
  have apart : NamesApart Model.name models := by
    simp [models, NamesApart, sampleModel, Value.beq_def]
  have reads : List.Forall₂ (Reads sampleLists) paths lists :=
    .cons (.listed rfl rfl nofun rfl (.cons rfl (.cons rfl .nil))) <|
      .cons (.missing rfl) <| .cons (.blank rfl rfl) <|
        .cons (.listed rfl rfl nofun rfl (.cons rfl (.cons rfl (.cons rfl .nil)))) .nil
  obtain ⟨-, result⟩ := merge_keeps_last sampleLists apart paths
  obtain ⟨outcome, -, merged, found⟩ := result lists reads
  refine ⟨apart, reads, outcome.trans ?_, merged.trans ?_, (found (.text "b")).trans ?_⟩
  · rfl
  · decide +kernel
  · decide +kernel

end ChatDispatch.Model
