import ChatDispatch.Usage

/-!
# Command classes

A built-in command is described by a class: a name that says so, a key, a description,
and optionally a form, examples and an agent.  What a class does not define it takes
from its parent, except that it must say itself what it executes.
-/

namespace ChatDispatch

/-- A class with its own attributes in front of those it takes from its parents. -/
structure CommandClass where
  name : String
  attributes : Entries
  definesExecute : Bool

namespace CommandClass

/-- The attributes that every class has in the end. -/
def base : Entries :=
  [("AGENT_ID", .text coreAgent), ("NORM_NAME", .null), ("DESCRIPTION", .null),
   ("SYNTAX", .null), ("EXAMPLES", .list [])]

/-- The name of the class that all others derive from. -/
def baseName : String := "BaseCommand"

def trait (cls : CommandClass) (name : String) : Value :=
  fieldOr (cls.attributes ++ base) name .null

/-- The first fault of a class, for which it is refused; the base class has none. -/
def fault? (cls : CommandClass) : Option Fault :=
  if cls.name.toList.contains '\x00' then
    some .nullInClassName
  else if cls.name = baseName then
    none
  else if !"Command".toList.isSuffixOf cls.name.toList then
    some (.badClassName cls.name)
  else if cls.trait "NORM_NAME" = .null then
    some (.classLacks "NORM_NAME")
  else if cls.trait "DESCRIPTION" = .null then
    some (.classLacks "DESCRIPTION")
  else if !cls.definesExecute then
    some .classLacksExecute
  else
    none

/-- The usage of a class; its form is by default its key after a slash. -/
def usage (cls : CommandClass) : Except Fault Usage :=
  match Declaration.itemsOf (cls.trait "EXAMPLES") with
  | .error fault => .error fault
  | .ok examples =>
      .ok {
        agent := cls.trait "AGENT_ID"
        command := cls.trait "NORM_NAME"
        description := cls.trait "DESCRIPTION"
        form := (cls.trait "SYNTAX").orElse
          (.text ("/" ++ (cls.trait "NORM_NAME").asText))
        examples := .list examples }

/-- The examples of a usage as lines of a help text. -/
def exampleLines : List Value → String
  | [] => ""
  | sample :: rest => "  " ++ sample.asText ++ "\n" ++ exampleLines rest

def helpOf (usage : Usage) : String :=
  "Command: " ++ usage.form.asText ++ "\n" ++
  "Description: " ++ usage.description.asText ++ "\n" ++
  match usage.examples with
  | .list (first :: rest) => "\nExamples:\n" ++ exampleLines (first :: rest)
  | _ => ""

def help (cls : CommandClass) : Except Fault String :=
  cls.usage.map helpOf

end CommandClass

end ChatDispatch
