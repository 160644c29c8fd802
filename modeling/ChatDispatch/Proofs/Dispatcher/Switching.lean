import ChatDispatch.Dispatcher.Builtins
import ChatDispatch.Proofs.ModelStore
import ChatDispatch.Proofs.Table

/-!
# Switches that fail

A switch to a model with an empty name is refused before anything is done.  Any other one notes
the model, in the store and in the settings, before it saves the settings.  Where these cannot be
saved, the files are left alone, but the model stays noted: nothing is taken back.

So a failed switch changes nothing exactly if there was nothing to change, that is if the name
was refused, or if it was the active model of the store and the settings before.
-/

namespace ChatDispatch

namespace Settings

/-- The file of the settings cannot be written: it is out of reach, or a directory. -/
def Blocked (settings : Settings) (files : FileTree) : Prop :=
  ∃ path, settings.file = some path ∧
    ((∃ fault, files.reach path = .error fault) ∨
      ∃ place, files.reach path = .ok place ∧ files.isDirectory place = true)

/-- Settings are not saved exactly if their file cannot be written. -/
theorem exists_fault_of_save_iff {settings : Settings} {files : FileTree} :
    (∃ fault, settings.save files = .error fault) ↔ settings.Blocked files := by
  unfold save Blocked
  cases settings.file with
  | none =>
      refine iff_of_false ?_ ?_
      · rintro ⟨fault, failed⟩
        cases failed
      · rintro ⟨path, filed, -⟩
        cases filed
  | some path =>
      simp only [Option.some.injEq, exists_eq_left', FileTree.save]
      cases reached : files.reach path with
      | error fault => simp [Except.map]
      | ok place =>
          cases directory : files.isDirectory place <;> simp [Except.map, directory]

end Settings

namespace ModelStore

variable {store : ModelStore} {settings : Settings} {files : FileTree} {name : Value}
  {persist : Bool}

/-- What comes of a switch to a model. -/
structure Settles (store : ModelStore) (settings : Settings) (files : FileTree) (name : Value)
    (persist : Bool) (after : Switch) : Prop where
  /-- It fails for an empty name, and if the settings are to be saved and cannot be. -/
  fails_iff : (∃ fault, after.outcome = .error fault) ↔
    name.holds = false ∨ persist = true ∧ settings.Blocked files
  /-- A failed one leaves the files alone. -/
  files_of_failed : ∀ fault, after.outcome = .error fault → after.files = files
  /-- A failed one leaves the rest alone if the name is refused or was the active one. -/
  unchanged_iff : ∀ fault, after.outcome = .error fault →
    (after.store.active = store.active ∧ after.settings = settings ↔
      name.holds = false ∨ store.active = name ∧
        Table.lookup (Key.text activeSetting) settings.data = some name)
  /-- A successful one has made the model the active one. -/
  active_of_done : ∀ answer, after.outcome = .ok answer →
    answer = name ∧ after.store.active = name ∧
      ∀ default, after.settings.get [activeSetting] default = .ok name

theorem switch_of_empty (empty : name.holds = false) :
    store.switch settings files name persist = ⟨store, settings, files, .error .emptyModelId⟩ := by
  rw [switch, empty]
  rfl

theorem switch_of_not_persist (holds : name.holds = true) :
    store.switch settings files name false =
      ⟨{ store with active := name, isEntry := true }, settings.set activeSetting name, files,
        .ok name⟩ := by
  rw [switch, holds]
  rfl

theorem switch_of_fault (holds : name.holds = true) {fault : Fault}
    (failed : (settings.set activeSetting name).save files = .error fault) :
    store.switch settings files name true =
      ⟨{ store with active := name, isEntry := true }, settings.set activeSetting name, files,
        .error fault⟩ := by
  unfold switch
  rw [holds]
  dsimp only
  rw [failed]
  rfl

theorem get_set_activeSetting (holds : name.holds = true) (settings : Settings)
    (default : Value) :
    (settings.set activeSetting name).get [activeSetting] default = .ok name := by
  refine get_activeSetting ?_ ?_ default
  · rintro rfl
    cases holds
  · rw [set_activeSetting]
    exact Table.lookup_store_self _ _ _

/-- Settings change with a switch unless they note the model already. -/
theorem set_activeSetting_eq_iff :
    settings.set activeSetting name = settings ↔
      Table.lookup (Key.text activeSetting) settings.data = some name := by
  rw [set_activeSetting]
  constructor
  · intro same
    have data := congrArg Settings.data same
    rw [← data]
    exact Table.lookup_store_self _ _ _
  · intro noted
    rw [Table.store_of_lookup noted]

theorem switch_settles (store : ModelStore) (settings : Settings) (files : FileTree)
    (name : Value) (persist : Bool) :
    Settles store settings files name persist (store.switch settings files name persist) := by
  cases holds : name.holds with
  | false =>
      rw [switch_of_empty holds]
      exact {
        fails_iff := iff_of_true ⟨_, rfl⟩ (.inl holds)
        files_of_failed := fun _ _ => rfl
        unchanged_iff := fun _ _ => iff_of_true ⟨rfl, rfl⟩ (.inl holds)
        active_of_done := nofun }
  | true =>
      have refused : name.holds ≠ false := by
        rw [holds]
        decide
      have done : ∀ answer, Except.ok name = (.ok answer : Except Fault Value) →
          answer = name ∧ name = name ∧
            ∀ default, (settings.set activeSetting name).get [activeSetting] default = .ok name :=
        fun answer same => ⟨(Except.ok.inj same).symm, rfl, get_set_activeSetting holds settings⟩
      cases persist with
      | false =>
          rw [switch_of_not_persist holds]
          exact {
            fails_iff := iff_of_false nofun fun either => either.elim refused nofun
            files_of_failed := nofun
            unchanged_iff := nofun
            active_of_done := done }
      | true =>
          have blocked : (settings.set activeSetting name).Blocked files ↔
              settings.Blocked files := Iff.rfl
          cases saved : (settings.set activeSetting name).save files with
          | error fault =>
              rw [switch_of_fault holds saved]
              exact {
                fails_iff := iff_of_true ⟨_, rfl⟩
                  (.inr ⟨rfl, blocked.mp (Settings.exists_fault_of_save_iff.mp ⟨_, saved⟩)⟩)
                files_of_failed := fun _ _ => rfl
                unchanged_iff := fun _ _ => by
                  rw [set_activeSetting_eq_iff, or_iff_right refused, eq_comm]
                active_of_done := nofun }
          | ok left =>
              rw [switch_of_save holds saved]
              refine {
                fails_iff := iff_of_false nofun fun either => either.elim refused fun both => ?_
                files_of_failed := nofun
                unchanged_iff := nofun
                active_of_done := done }
              obtain ⟨fault, failed⟩ := Settings.exists_fault_of_save_iff.mpr (blocked.mpr both.2)
              rw [saved] at failed
              cases failed

end ModelStore

namespace Dispatcher

/-- Every switch settles as it should, by itself or by the command for it: to the text of the
first argument, and saved unless a flag says otherwise.  Without models or arguments the command
does nothing. -/
theorem switches_settle (state : Dispatcher) (store : ModelStore) (settings : Settings)
    (files : FileTree) (name : Value) (persist : Bool) (arguments : List Value)
    (flags : Entries) :
    store.Settles settings files name persist (store.switch settings files name persist) ∧
      match state.models, arguments with
      | some own, first :: _ =>
          ∃ after, own.Settles state.settings state.files (.text first.asText)
              (!(fieldOr flags noSaveFlag (.bool false)).holds) after ∧
            state.runBuiltin .model arguments flags =
              ({ state with
                  models := some after.store
                  settings := after.settings
                  files := after.files },
                after.outcome.map fun _ => .text (own.switchReport first.asText))
      | _, _ => ∃ answer, state.runBuiltin .model arguments flags = (state, .ok answer) := by
  refine ⟨store.switch_settles settings files name persist, ?_⟩
  unfold runBuiltin runModel
  cases stocked : state.models with
  | none => exact ⟨_, rfl⟩
  | some own =>
      cases arguments with
      | nil => exact ⟨_, rfl⟩
      | cons first rest => exact ⟨_, own.switch_settles state.settings state.files _ _, rfl⟩

/-- A store whose active model is noted in settings with a file in a missing directory. -/
def strandedStore : ModelStore :=
  { models := [], active := .text "a", isEntry := true }

def strandedSettings : Settings :=
  { data := [(.text ModelStore.activeSetting, .text "a")]
    file := some (.ofText "missing/own.yml") }

theorem blocked_strandedSettings : strandedSettings.Blocked ⟨[], []⟩ :=
  ⟨_, rfl, .inl ⟨.fileNotFound, by decide⟩⟩

/-- A dispatcher with this store and these settings. -/
def stranded : Dispatcher :=
  { blank with settings := strandedSettings, models := some strandedStore }

/-- There a switch to the active model fails and changes nothing. -/
theorem switches_settle_stranded :
    let after := (stranded.runBuiltin .model [.text "a"] []).1
    (∃ fault, (stranded.runBuiltin .model [.text "a"] []).2 = .error fault) ∧
      after.files = stranded.files ∧ after.settings = stranded.settings ∧
      after.models.map (·.active) = stranded.models.map (·.active) := by
  obtain ⟨-, after, settles, same⟩ :=
    switches_settle stranded strandedStore strandedSettings ⟨[], []⟩ (.text "a") true [.text "a"] []
  obtain ⟨fault, failed⟩ := settles.fails_iff.mpr (.inr ⟨rfl, blocked_strandedSettings⟩)
  obtain ⟨active, noted⟩ := (settles.unchanged_iff fault failed).mpr (.inr ⟨rfl, rfl⟩)
  rw [same, failed]
  exact ⟨⟨fault, rfl⟩, settles.files_of_failed fault failed, noted, congrArg some active⟩

/-- There a switch to another model fails, and yet it is the active one from then on. -/
theorem not_undone_stranded :
    let after := strandedStore.switch strandedSettings ⟨[], []⟩ (.text "b") true
    after.outcome = .error .fileNotFound ∧ strandedStore.active = .text "a" ∧
      after.store.active = .text "b" ∧
      strandedSettings.get [ModelStore.activeSetting] .null = .ok (.text "a") ∧
      after.settings.get [ModelStore.activeSetting] .null = .ok (.text "b") :=
  ⟨rfl, rfl, rfl, rfl, rfl⟩

end Dispatcher

end ChatDispatch
