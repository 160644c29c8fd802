import ChatDispatch.Model.ListFile
import ChatDispatch.Model.Search
import ChatDispatch.Settings

/-!
# The model store

The selectable models and the active one, which is noted in the settings.  Switching the
active model can save the settings.

What is noted there need not be a text.  A map can be written into, and then the active model
changes with the entry of the settings that it is.
-/

namespace ChatDispatch

/-- The selectable models and the active one. -/
structure ModelStore where
  models : List Model
  active : Value
  /-- Whether the active model is the entry of the settings itself, not only equal to it. -/
  isEntry : Bool

namespace ModelStore

/-- The setting that names the active model. -/
def activeSetting : String := "model"

/-- The setting that lists files with further models. -/
def filesSetting : String := "model-settings-files"

/-- A store of models; the active one is named by the settings, or else the first. -/
def ofModels (settings : Settings) (models : List Model) : Except Fault ModelStore :=
  (settings.get [activeSetting] .null).map fun active =>
    { models
      active :=
        if active.holds then active else (models.head?.map (·.name)).getD active
      isEntry := active.holds || models.isEmpty }

/-- A store of the bundled models and those in the files that the settings list. -/
def ofSettings (tree : FileTree) (settings : Settings) : Except Fault ModelStore :=
  match settings.get [filesSetting] (.list []) with
  | .error fault => .error fault
  | .ok files =>
      match Model.withListed tree files with
      | .error fault => .error fault
      | .ok models => ofModels settings models

def find? (store : ModelStore) (name : Value) : Option Model :=
  Model.find? store.models name

/-- What a switch leaves behind: the store, the settings and the files, and the name of
the active model or what went wrong. -/
structure Switch where
  store : ModelStore
  settings : Settings
  files : FileTree
  outcome : Except Fault Value

/-- Switches the active model and notes it in the settings, which are saved on demand. -/
def switch (store : ModelStore) (settings : Settings) (files : FileTree) (name : Value)
    (persist : Bool) : Switch :=
  if !name.holds then
    ⟨store, settings, files, .error .emptyModelId⟩
  else
    let store := { store with active := name, isEntry := true }
    let settings := settings.set activeSetting name
    if persist then
      match settings.save files with
      | .error fault => ⟨store, settings, files, .error fault⟩
      | .ok (saved, _) => ⟨store, settings, saved, .ok name⟩
    else
      ⟨store, settings, files, .ok name⟩

/-- The store after a change of the settings at a path.  What is written inside the entry of
the active model changes the active model too; a new entry in place of it does not. -/
def afterWrite (store : ModelStore) (settings : Settings) (path : String) : ModelStore :=
  match store.isEntry, store.active, Nested.segments path with
  | true, .map _, first :: inside =>
      if first ≠ activeSetting then
        store
      else if inside.isEmpty then
        { store with isEntry := false }
      else
        { store with active := fieldOr settings.data activeSetting store.active }
  | _, _, _ => store

def mark (store : ModelStore) (name : Value) : String :=
  if name == store.active then " (active)" else ""

def entry (store : ModelStore) (model : Model) : String :=
  "- " ++ model.displayName.asText ++
  (if model.provider.holds then " (" ++ model.provider.asText ++ ")" else "") ++
  store.mark model.name ++ "\n  ID: " ++ model.name.asText ++ "\n\n"

def overview (store : ModelStore) : String :=
  "Available LLM models:\n\n" ++ String.join (store.models.map store.entry) ++
    "Use /model <model-id> to switch models."

def searchReport (store : ModelStore) (term : String) (found : List String) : String :=
  if found.isEmpty then
    "No models match \"" ++ term ++ "\"."
  else
    String.intercalate "\n"
      (("Models which match \"" ++ term ++ "\":") ::
        found.map fun name => "- " ++ name ++ store.mark (.text name))

/-- How to switch models, with the active one. -/
def switchHint (store : ModelStore) : String :=
  "Usage: /model <model-id> (current model: " ++
    (store.active.orElse (.text "(none)")).asText ++ ")"

def switchReport (store : ModelStore) (name : String) : String :=
  "Model switched to '" ++ name ++ "'." ++
    if (store.find? (.text name)).isSome then ""
    else " It is not in the model list; check the id if requests fail."

end ModelStore

end ChatDispatch
