import ChatDispatch.Fault
import ChatDispatch.Table
import ChatDispatch.Value.Shown

/-!
# Command declarations

Plugins declare their commands in several forms: as records of their own type, as
mappings or objects with fields, or as anything else by mistake.  `normalize` turns
every acceptable form into a `PluginCommand`.  What a command runs should be a callable.
-/

namespace ChatDispatch

/-- How a command runs something: on the list of arguments, or on each of them.  That it
cannot be called only shows when the command is run. -/
inductive Runner where
  | onList (target : Value)
  | onEach (target : Value)
deriving DecidableEq

/-- A command of a plugin: its name, its help metadata and what it runs.  The usage form
may be missing. -/
structure PluginCommand where
  name : Value
  description : Value
  form : Value
  examples : Value
  runner : Option Runner
deriving DecidableEq

/-- A command declaration as a plugin gives it.  Of an object its literal form is known, besides
its fields. -/
inductive Declaration where
  | normal (content : PluginCommand)
  | mapping (fields : Entries)
  | object (shown : String) (fields : Entries)
  | other (content : Value)

/-- What a command runs, `null` if there is nothing. -/
def PluginCommand.target (command : PluginCommand) : Value :=
  match command.runner with
  | none => .null
  | some (.onList target) => target
  | some (.onEach target) => target

def PluginCommand.shown (command : PluginCommand) : String :=
  "PluginCommand(name=" ++ command.name.shown ++
    ", description=" ++ command.description.shown ++ ", syntax=" ++ command.form.shown ++
    ", examples=" ++ command.examples.shown ++ ", run=" ++ command.target.shown ++ ")"

namespace Declaration

def ofValue : Value → Declaration
  | .map entries => .mapping entries
  | content => .other content

/-- The literal form of a declaration in messages. -/
def shown : Declaration → String
  | .normal command => command.shown
  | .mapping fields => (Value.map fields).shown
  | .object shown _ => shown
  | .other content => content.shown

/-- The fields that a declaration shows under their names; those of a callable are its
attributes. -/
def field? (declaration : Declaration) (name : String) : Option Value :=
  match declaration with
  | .normal command =>
      if name = "name" then some command.name
      else if name = "description" then some command.description
      else if name = "syntax" then some command.form
      else if name = "examples" then some command.examples
      else none
  | .mapping fields => Table.lookup (Key.text name) fields
  | .object _ fields => Table.lookup (Key.text name) fields
  | .other (.callable _ attributes) => Table.lookup (Key.text name) attributes
  | .other _ => none

/-- The value in a field, `null` if there is none. -/
def value (declaration : Declaration) (name : String) : Value :=
  (declaration.field? name).getD .null

def callable? (declaration : Declaration) (name : String) : Option Callable :=
  match declaration.field? name with
  | some (.callable content _) => some content
  | _ => none

/-- The items of a collection: the characters of a text, the keys of a map. -/
def itemsOf : Value → Except Fault (List Value)
  | .list items => .ok items
  | .text content => .ok (content.toList.map fun character => .text (String.ofList [character]))
  | .map entries => .ok (entries.map fun entry => entry.1.value)
  | content => .error (.notIterable content.kind)

/-- A declaration as a command.  Its name is the field `name`, or else the field `id`;
an `execute` callable takes the list of arguments, and only in its absence a `handler`
takes them one by one. -/
def normalize (declaration : Declaration) : Except Fault PluginCommand :=
  match declaration with
  | .normal command => .ok command
  | declaration =>
      let name := (declaration.value "name").orElse (declaration.value "id")
      if !name.holds then
        .error (.namelessDeclaration declaration.shown)
      else
        let examples := (declaration.value "examples").orElse (.list [])
        match itemsOf examples with
        | .error fault => .error fault
        | .ok items =>
            .ok {
              name := .text name.asText
              description := (declaration.value "description").orElse (.text "")
              form := declaration.value "syntax"
              examples := .list items
              runner :=
                if (declaration.value "execute").isCallable then
                  some (.onList (declaration.value "execute"))
                else if (declaration.value "handler").isCallable then
                  some (.onEach (declaration.value "handler"))
                else
                  none }

end Declaration

end ChatDispatch
