import ChatDispatch.Model.Store

/-!
# The active model in the settings

A store of models notes the active one under a top-level key of the settings.  What a switch
writes there is what is read there, and what a new store over these settings begins with.
-/

namespace ChatDispatch.ModelStore

theorem find?_activeSetting (entries : Entries) :
    Nested.find? activeSetting entries =
      (Table.lookup (Key.text activeSetting) entries).map fun value => (activeSetting, value) := by
  have alone : Nested.spellings activeSetting = [activeSetting] := by decide
  rw [Nested.find?, alone, List.findSome?_cons, List.findSome?_nil]
  cases Table.lookup (Key.text activeSetting) entries <;> rfl

theorem segments_activeSetting : Nested.segments activeSetting = [activeSetting] := by decide

theorem set_activeSetting (settings : Settings) (name : Value) :
    settings.set activeSetting name =
      { settings with data := Table.store (Key.text activeSetting) name settings.data } := by
  rw [Settings.set, Nested.write, segments_activeSetting, Nested.writeAt, find?_activeSetting]
  cases Table.lookup (Key.text activeSetting) settings.data <;> rfl

theorem get_activeSetting {settings : Settings} {name : Value} (present : name ≠ .null)
    (noted : Table.lookup (Key.text activeSetting) settings.data = some name)
    (default : Value) : settings.get [activeSetting] default = .ok name := by
  have followed : Nested.follow [activeSetting] (.map settings.data) = .ok (some name) := by
    rw [Nested.follow, Nested.select, find?_activeSetting, noted]
    rfl
  have first : Nested.readFirst (.map settings.data) [activeSetting] = .ok (some name) := by
    rw [Nested.readFirst, segments_activeSetting, followed]
    cases name with
    | null => exact absurd rfl present
    | _ => rfl
  have read : settings.get [activeSetting] default =
      (Nested.readFirst (.map settings.data) [activeSetting]).map fun found =>
        found.getD default := rfl
  rw [read, first]
  rfl

/-- A store over settings that note an active model begins with it, whatever its models. -/
theorem ofModels_of_noted {settings : Settings} {name : Value} (holds : name.holds = true)
    (noted : Table.lookup (Key.text activeSetting) settings.data = some name)
    (models : List Model) :
    ofModels settings models = .ok { models, active := name, isEntry := true } := by
  have present : name ≠ .null := by
    rintro rfl
    cases holds
  rw [ofModels, get_activeSetting present noted, Except.map, holds, if_pos rfl, Bool.true_or]

variable {store : ModelStore} {settings : Settings} {files left : FileTree} {name : Value}

theorem switch_of_save (holds : name.holds = true) {saved : Bool}
    (written : (settings.set activeSetting name).save files = .ok (left, saved)) :
    store.switch settings files name true =
      ⟨{ store with active := name, isEntry := true }, settings.set activeSetting name, left,
        .ok name⟩ := by
  unfold switch
  rw [holds]
  dsimp only
  rw [written]
  rfl

/-- A switch that succeeds is one to a model with a name, and has saved the settings. -/
theorem exists_save_of_switch {answer : Value}
    (done : (store.switch settings files name true).outcome = .ok answer) :
    name.holds = true ∧ ∃ left saved,
      (settings.set activeSetting name).save files = .ok (left, saved) := by
  unfold switch at done
  split at done
  · cases done
  · rename_i named
    refine ⟨by simpa using named, ?_⟩
    rcases written : (settings.set activeSetting name).save files with fault | ⟨left, saved⟩
    · dsimp only at done
      rw [written] at done
      cases done
    · exact ⟨left, saved, rfl⟩

end ChatDispatch.ModelStore
