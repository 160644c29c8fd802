import ChatDispatch.Model
import ChatDispatch.Similarity
import ChatDispatch.Text.LowerCase
import ChatDispatch.Value.Order

/-!
# Finding models

Models are found by a part of their name in any case, or else by a similar spelling.  A
catalogue adds the chat models of further providers, under their own name and under the
name with the provider in front.

Names need not be texts; one that is none is at fault where it is looked into, or compared
with a name of another kind.
-/

namespace ChatDispatch.Model

def occursIn (part : List Char) : List Char → Bool
  | [] => part.isEmpty
  | character :: rest => part.isPrefixOf (character :: rest) || occursIn part rest

/-- Texts in increasing order without repetitions. -/
def sortedSet (texts : List String) : List String :=
  (texts.eraseDups).mergeSort fun left right => decide (left ≤ right)

/-- How similar a model's name has to be to what is looked for. -/
def threshold : Similarity.Ratio := ⟨4, 5⟩

/-- The candidates in which a term occurs, or else the most similar ones. -/
def matching (term : String) (candidates : List String) : List String :=
  let term := Text.lower term
  match candidates.filter fun name => occursIn term.toList (Text.lower name).toList with
  | [] => sortedSet (Similarity.closest threshold (Similarity.spelling term) candidates)
  | found => sortedSet found

/-- The name with a provider in front, unless it is there already or there is none. -/
def providerName? (provider : String) (name : Key) : Except Fault (Option String) :=
  if provider = "" then
    .ok none
  else
    match name with
    | .text name =>
        let own := (provider ++ "/").toList
        if own.isPrefixOf (Text.lower name).toList then
          .ok none
        else
          .ok (some (provider ++ "/" ++ name))
    | other => .error (.noAttribute other.value.kind "lower")

/-- The names under which an entry of the catalogue is a chat model. -/
def chatNames (name : Key) (traits : Value) : Except Fault (List Value) :=
  match traits with
  | .map traits =>
      if !(fieldOr traits "mode" .null == .text "chat") then
        .ok []
      else
        match (fieldOr traits "litellm_provider" .null).orElse (.text "") with
        | .text provider =>
            (providerName? (Text.lower provider) name).map fun full =>
              (full.map Value.text).toList ++ [name.value]
        | other => .error (.noAttribute other.kind "lower")
  | other => .error (.noAttribute other.kind "get")

/-- The names of all entries of the catalogue, in its order. -/
def catalogueNames : Entries → Except Fault (List Value)
  | [] => .ok []
  | (name, traits) :: rest =>
      match chatNames name traits with
      | .error fault => .error fault
      | .ok names => (catalogueNames rest).map (names ++ ·)

/-- The chat models of a catalogue in increasing order. -/
def chatModels (catalogue : Entries) : Except Fault (List Value) :=
  (catalogueNames catalogue).bind Value.sortedSet

/-- Names as texts; the first one that is none is a fault. -/
def textNames : List Value → Except Fault (List String)
  | [] => .ok []
  | .text name :: rest => (textNames rest).map (name :: ·)
  | name :: _ => .error (.noAttribute name.kind "lower")

/-- The names to search in: those of the models, and on demand of the catalogue. -/
def candidates (models : List Model) (catalogue : Entries) (all : Bool) :
    Except Fault (List Value) :=
  let names := models.map (·.name)
  if all then
    match names.find? fun name => !name.isKey with
    | some name => .error (.notAKey name.kind)
    | none => (chatModels catalogue).bind fun further => Value.sortedSet (names ++ further)
  else
    .ok names

/-- The names of the models that match a term. -/
def search (models : List Model) (catalogue : Entries) (term : String)
    (all : Bool) : Except Fault (List String) :=
  ((candidates models catalogue all).bind textNames).map (matching term)

end ChatDispatch.Model
