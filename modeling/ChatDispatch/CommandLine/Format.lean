import ChatDispatch.CommandLine.Sigil
import ChatDispatch.Value.Shown

/-!
# Writing command lines

A command line is written from an id, a kind, arguments and flags.  An argument with
a space is put between double quotes.
-/

namespace ChatDispatch.CommandLine

/-- An id after the sigil of its kind; nothing for an empty id. -/
def writeId (id : String) (kind : CommandKind) : String :=
  if id = "" then "" else kind.sigil.text ++ id

/-- Puts a backslash before every double quote. -/
def escapeQuotes : List Char → List Char
  | [] => []
  | character :: rest =>
      if character = '"' then
        '\\' :: '"' :: escapeQuotes rest
      else
        character :: escapeQuotes rest

def writeArgument (argument : Value) : String :=
  let text := argument.asText
  if text.toList.contains ' ' then
    String.ofList ('"' :: (escapeQuotes text.toList ++ ['"']))
  else
    text

/-- A flag: only its name when it is `true`, otherwise its name and its value. -/
def writeFlag : Key × Value → String
  | (name, .bool true) => "--" ++ name.asText
  | (name, value) => "--" ++ name.asText ++ "=" ++ value.asText

def words (id : String) (kind : CommandKind) (arguments : List Value) (flags : Entries) :
    List String :=
  writeId id kind :: (arguments.map writeArgument ++ flags.map writeFlag)

def write (id : String) (kind : CommandKind) (arguments : List Value) (flags : Entries) :
    String :=
  String.intercalate " " (words id kind arguments flags)

end ChatDispatch.CommandLine
