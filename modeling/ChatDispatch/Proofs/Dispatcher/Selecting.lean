import ChatDispatch.Dispatcher.Execute
import ChatDispatch.Dispatcher.Setup
import ChatDispatch.Proofs.CommandLine.Grammar
import ChatDispatch.Proofs.CommandLine.Verbatim
import ChatDispatch.Proofs.Dispatcher.Seeding
import ChatDispatch.Proofs.ModelStore

/-!
# Selecting a model

The name of a model reaches the command that selects it as an argument, which is a value, and
the command selects the text of this value.  So the name is selected as it was typed when it is
verbatim, and only then.
-/

namespace ChatDispatch

namespace CommandLine

/-- A word that is typed behind a command and is no flag. -/
structure Typed (word : List Char) : Prop where
  filled : word ≠ []
  bare : Bare word
  unsigned : word.head? ≠ some '-'

theorem Typed.role_eq {word : List Char} (typed : Typed word) : role word = .plain := by
  obtain ⟨first, rest, rfl⟩ := List.exists_cons_of_ne_nil typed.filled
  exact role_of_ne (fun minus => typed.unsigned (congrArg some minus)) rest

theorem parse?_core_word {text : String} {name word : List Char} (filled : name ≠ [])
    (bare : Bare name) (noColon : ':' ∉ name) (typed : Typed word)
    (line : text.toList = '/' :: (name ++ ' ' :: word)) :
    parse? text =
      some {
        sigil := .slash
        kind := .slash
        agent := coreAgent
        command := String.ofList name
        arguments := [argument word]
        flags := []
        source := text } := by
  have visible : ∃ seen ∈ word, Text.isBlank seen = false := by
    obtain ⟨first, rest, rfl⟩ := List.exists_cons_of_ne_nil typed.filled
    exact ⟨first, List.mem_cons_self, not_isBlank_of_isBare (bare_cons.mp typed.bare).1⟩
  obtain ⟨seen, member, isSeen⟩ := visible
  have kept : trimEnd (name ++ ' ' :: word) = name ++ ' ' :: word := by
    rw [← List.singleton_append, ← List.append_assoc, trimEnd_append member isSeen,
      trimEnd_of_bare typed.bare]
  have trimmed : Text.trim text.toList = '/' :: (name ++ ' ' :: word) := by
    rw [line, trim_of_visible (by decide), kept]
  have read : tokens (name ++ ' ' :: word) = [name, word] := by
    rw [tokens_append_blank (scans_of_bare bare).isClosed (by decide),
      (scans_of_bare bare).tokens filled, (scans_of_bare typed.bare).tokens typed.filled]
    rfl
  have written := Writes.line trimmed .slash read (.core rfl noColon)
  have arguments : argumentsAndFlags [] [word] = ([argument word], []) := by
    rw [argumentsAndFlags, typed.role_eq]
    rfl
  rw [arguments, ← line, String.ofList_toList, String.ofList_toList] at written
  exact parse?_eq_some_iff_writes.mpr written

end CommandLine

namespace Dispatcher

open CommandLine CommandTables

variable {state : Dispatcher}

def activeModel? (state : Dispatcher) : Option Value :=
  state.models.map (·.active)

def selectLine (name : String) : String :=
  Sigil.slash.text ++ Builtin.model.key ++ " " ++ name

/-- What the line selects: the text of what the name is read as. -/
def selection (name : String) : Value :=
  .text (argument name.toList).asText

/-- A dispatcher that selects models and has no file to note them in. -/
structure Selects (state : Dispatcher) : Prop where
  handler : state.tables.handler? (.text coreAgent) (.text Builtin.model.key) =
    some (.builtin .model)
  stocked : state.models.isSome = true
  unsaved : state.settings.file = none

theorem parse?_selectLine {name : String} (typed : Typed name.toList) :
    parse? (selectLine name) =
      some {
        sigil := .slash
        kind := .slash
        agent := coreAgent
        command := Builtin.model.key
        arguments := [argument name.toList]
        flags := []
        source := selectLine name } := by
  have line : (selectLine name).toList =
      '/' :: (Builtin.model.key.toList ++ ' ' :: name.toList) := by
    simp [selectLine, Sigil.text]
  have parsed := parse?_core_word (by decide) (by decide) (by decide) typed line
  rwa [String.ofList_toList] at parsed

theorem run_selectLine (selects : state.Selects) {name : String} (typed : Typed name.toList) :
    ∃ store : ModelStore,
      (state.run (selectLine name)).1 =
        { state with
          models := some { store with active := selection name, isEntry := true }
          settings := state.settings.set ModelStore.activeSetting (selection name) } := by
  obtain ⟨store, stocked⟩ := Option.isSome_iff_exists.mp selects.stocked
  refine ⟨store, ?_⟩
  have holds : (selection name).holds = true :=
    bne_iff_ne.mpr (asText_argument_ne_empty typed.filled)
  have written : (state.settings.set ModelStore.activeSetting (selection name)).save state.files =
      .ok (state.files, false) := by
    rw [Settings.save, Settings.set, selects.unsaved]
  have executed : (state.run (selectLine name)).1 =
      (state.runTables (.text coreAgent) (.text Builtin.model.key)
        [argument name.toList] []).1 := by
    rw [run, parse?_selectLine typed]
    rfl
  have handled : state.runTables (.text coreAgent) (.text Builtin.model.key)
      [argument name.toList] [] = state.runModel [argument name.toList] [] := by
    rw [runTables, findHandler_of_isKey state.tables rfl rfl, selects.handler]
    rfl
  have modelled : (state.runModel [argument name.toList] []).1 =
      (state.setActiveModel store (selection name) true).1 := by
    unfold runModel
    rw [stocked]
    rfl
  rw [executed, handled, modelled, setActiveModel, ModelStore.switch_of_save holds written]

theorem selects_setUp {origin : Dispatcher} (unused : origin.Unused)
    (stocked : origin.models.isSome = true) (unsaved : origin.settings.file = none) :
    (origin.setUp .direct true).Selects := by
  have ignores : Ignores fun state =>
      state.models.isSome = true ∧ state.settings.file = none :=
    { tables := fun _ before => before
      announce := fun {before} topic payload kept => by
        rw [(unmoved_announce topic payload before).frame]
        exact kept }
  have connected : origin.models.isSome = true ∧ origin.settings.file = none :=
    ⟨stocked, unsaved⟩
  have kept := ignores.setUp .direct true connected connected
  exact ⟨(rooted_setUp unused .direct true).seeded .model, kept.1, kept.2⟩

theorem selects_setUpFrontEnd (origin : Dispatcher) (unused : origin.Unused)
    (unsaved : origin.settings.file = none) (ready : origin.setUpFrontEnd = .ok state) :
    state.Selects := by
  unfold setUpFrontEnd at ready
  dsimp only at ready
  split at ready
  · cases ready
  · rename_i store _
    cases noted : Notices.ofSettings (some origin.settings) with
    | error fault =>
        rw [noted] at ready
        cases ready
    | ok notices =>
        rw [noted] at ready
        have unused' : Unused { origin with models := some store, notices } :=
          ⟨unused.tables, unused.subscriptions, unused.scheduler⟩
        rw [← Except.ok.inj ready]
        exact selects_setUp unused' rfl unsaved

/-- A model is selected by its name exactly if the name is verbatim.  What is selected in any
case is the text of what the name is read as. -/
theorem selects_iff_verbatim (selects : state.Selects) {name : String}
    (typed : Typed name.toList) (default : Value) :
    let after := (state.run (selectLine name)).1
    after.activeModel? = some (.text name) ∧
        after.settings.get [ModelStore.activeSetting] default = .ok (.text name) ↔
      Verbatim name.toList := by
  obtain ⟨store, ran⟩ := run_selectLine selects typed
  rw [ran]
  dsimp only
  have noted : (state.settings.set ModelStore.activeSetting (selection name)).get
      [ModelStore.activeSetting] default = .ok (selection name) := by
    refine ModelStore.get_activeSetting (fun null => by cases null) ?_ default
    rw [ModelStore.set_activeSetting]
    exact Table.lookup_store_self _ _ _
  rw [noted, activeModel?, Option.map_some, ← asText_argument_iff_verbatim typed.unsigned]
  constructor
  · rintro ⟨same, -⟩
    exact congrArg String.toList (Value.text.inj (Option.some.inj same))
  · intro same
    have shown : selection name = .text name := congrArg Value.text (String.toList_inj.mp same)
    rw [shown]
    exact ⟨rfl, rfl⟩

/-- A name with letters is selected as it was typed. -/
theorem selects_lettered :
    ∃ state : Dispatcher, blank.setUpFrontEnd = .ok state ∧ state.Selects ∧
      Typed "llama-3.1".toList ∧ Verbatim "llama-3.1".toList ∧
      let after := (state.run (selectLine "llama-3.1")).1
      after.activeModel? = some (.text "llama-3.1") ∧
        after.settings.get [ModelStore.activeSetting] .null = .ok (.text "llama-3.1") := by
  refine ⟨_, rfl, ?_⟩
  have selects := selects_setUpFrontEnd blank ⟨rfl, rfl, rfl⟩ rfl rfl
  have typed : Typed "llama-3.1".toList := ⟨by decide, by decide, by decide⟩
  have verbatim : Verbatim "llama-3.1".toList :=
    .plain (by decide) (by decide) fun brackets => absurd brackets (by decide)
  exact ⟨selects, typed, verbatim, (selects_iff_verbatim selects typed .null).mpr verbatim⟩

/-- A number is selected without the zeros in front of it. -/
theorem selects_number_without_zeros :
    ∃ state : Dispatcher, blank.setUpFrontEnd = .ok state ∧ state.Selects ∧
      Typed "007".toList ∧
      let after := (state.run (selectLine "007")).1
      after.activeModel? = some (.text "7") ∧ after.activeModel? ≠ some (.text "007") ∧
        after.settings.get [ModelStore.activeSetting] .null = .ok (.text "7") := by
  refine ⟨_, rfl, ?_, ⟨by decide, by decide, by decide⟩, ?_⟩
  · exact selects_setUpFrontEnd blank ⟨rfl, rfl, rfl⟩ rfl rfl
  · decide +kernel

end Dispatcher

end ChatDispatch
