import ChatDispatch.Record
import ChatDispatch.Value.Shown

/-!
# Language models

A model is known by its name; a list of models has one entry per name, the one that was
defined last.
-/

namespace ChatDispatch

/-- A selectable model. -/
structure Model where
  name : Value
  provider : Value
  description : Value
deriving DecidableEq

namespace Model

def shape : RecordShape :=
  { maker := "ModelSettings.__init__"
    fields := ["name", "provider", "description"]
    required := 1 }

def displayName (model : Model) : Value :=
  model.description.orElse model.name

def ofFields (fields : Entries) : Except Fault Model :=
  match shape.check fields with
  | .error fault => .error fault
  | .ok () =>
      .ok {
        name := fieldOr fields "name" .null
        provider := fieldOr fields "provider" .null
        description := fieldOr fields "description" (.text "") }

/-- The model that an entry of a model list describes. -/
def ofValue : Value → Except Fault Model
  | .map fields => ofFields fields
  | content => .error (.fieldsNotMapping "axiom.models.ModelSettings" content.kind)

def ofFieldsList : List (Entries) → Except Fault (List Model)
  | [] => .ok []
  | fields :: rest =>
      match ofFields fields with
      | .error fault => .error fault
      | .ok model => (ofFieldsList rest).map (model :: ·)

/-- Adds a model at the end in place of those of the same name. -/
def replace (models : List Model) (model : Model) : List Model :=
  models.filter (fun present => !(present.name == model.name)) ++ [model]

def find? (models : List Model) (name : Value) : Option Model :=
  models.find? fun model => model.name == name

def bundled : List Model :=
  [ ⟨.text "gpt-3.5-turbo", .text "OpenAI", .text "GPT-3.5 Turbo"⟩,
    ⟨.text "gpt-4", .text "OpenAI", .text "GPT-4"⟩,
    ⟨.text "gpt-4o", .text "OpenAI", .text "GPT-4o"⟩,
    ⟨.text "claude-2", .text "Anthropic", .text "Claude 2"⟩,
    ⟨.text "claude-instant", .text "Anthropic", .text "Claude Instant"⟩,
    ⟨.text "claude-3-5-sonnet-20241022", .text "Anthropic", .text "Claude 3.5 Sonnet"⟩,
    ⟨.text "ollama/llama3", .text "Ollama", .text "Llama 3 served by a local Ollama"⟩ ]

end Model

end ChatDispatch
