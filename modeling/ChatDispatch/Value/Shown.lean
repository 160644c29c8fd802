import ChatDispatch.Binary64.Layout
import ChatDispatch.Text.Quoted
import ChatDispatch.Value

/-!
# The text of a value

`shown` is the literal form of a value, with quoted texts and the items of a
collection between brackets; `text` is the form used inside messages, which
differs only in leaving a bare text unquoted.
-/

namespace ChatDispatch

/-- The spellings and brackets of the literal form. -/
structure Value.Spelling where
  absent : String
  yes : String
  no : String
  separator : String
  pair : String

def Value.literal : Value.Spelling :=
  { absent := "None", yes := "True", no := "False", separator := ", ", pair := ": " }

def Key.shown : Key → String
  | .null => Value.literal.absent
  | .bool truth => if truth then Value.literal.yes else Value.literal.no
  | .int number => toString number
  | .float number => number.text
  | .text content => Text.quoted content
  | .callable content => content.shown

def Key.asText : Key → String
  | .text content => content
  | key => key.shown

namespace Value

mutual

def shown : Value → String
  | .null => literal.absent
  | .bool truth => if truth then literal.yes else literal.no
  | .int number => toString number
  | .float number => number.text
  | .text content => Text.quoted content
  | .list items => "[" ++ String.intercalate literal.separator (shownItems items) ++ "]"
  | .map entries =>
      "\x7b" ++ String.intercalate literal.separator (shownEntries entries) ++ "\x7d"
  | .callable content _ => content.shown
termination_by structural value => value

/-- The literal forms of the items of a list. -/
def shownItems : List Value → List String
  | [] => []
  | item :: items => shown item :: shownItems items
termination_by structural items => items

/-- The literal forms of the entries of a map. -/
def shownEntries : Entries → List String
  | [] => []
  | (key, value) :: entries =>
      (key.shown ++ literal.pair ++ shown value) :: shownEntries entries
termination_by structural entries => entries

end

def asText : Value → String
  | .text content => content
  | value => value.shown

@[simp]
theorem asText_text (content : String) : (Value.text content).asText = content := rfl

end Value

end ChatDispatch
