import ChatDispatch.CommandClass
import ChatDispatch.Similarity

/-!
# Command tables

Handlers and usages are kept in two tables of the same shape, from agents to commands.
The first handler of a command wins; usages are replaced in place.
-/

namespace ChatDispatch

/-- The commands that are always there. -/
inductive Builtin where
  | help
  | slashHelp
  | model
  | models
deriving DecidableEq, Repr

/-- What answers a command of the tables. -/
inductive Handler where
  /-- A built-in command. -/
  | builtin (command : Builtin)
  /-- A command of the plugin with the given handle. -/
  | plugin (handle : Nat) (command : Value)
  /-- A declared command; the flags are ignored. -/
  | declared (command : PluginCommand)
  /-- A callable that takes arguments and flags, and may give something to wait for. -/
  | flexible (callable : Callable)
  /-- A callable that takes arguments and flags, and must give something to wait for. -/
  | direct (callable : Callable)
deriving DecidableEq

/-- The two tables. -/
structure CommandTables where
  handlers : List (Value × List (Value × Handler))
  usages : List (Value × List (Value × Usage))
deriving DecidableEq

/-- Why a handler is not stored. -/
inductive Refusal where
  | invalid
  | duplicate
deriving DecidableEq, Repr

def Refusal.message : Refusal → String
  | .invalid => "invalid registration"
  | .duplicate => "already registered"

namespace CommandTables

def empty : CommandTables := ⟨[], []⟩

/-- The commands of an agent, none if the agent is unknown. -/
def row {β : Type} (agent : Value) (table : List (Value × List (Value × β))) :
    List (Value × β) :=
  (Table.lookup agent table).getD []

def openRow {β : Type} (agent : Value) (table : List (Value × List (Value × β))) :
    List (Value × List (Value × β)) :=
  if Table.holds agent table then table else Table.store agent [] table

/-- Replaces the row of an agent; an empty one disappears. -/
def setRow {β : Type} (agent : Value) (commands : List (Value × β))
    (table : List (Value × List (Value × β))) : List (Value × List (Value × β)) :=
  if commands.isEmpty then Table.remove agent table else Table.store agent commands table

def handler? (tables : CommandTables) (agent command : Value) : Option Handler :=
  Table.lookup command (row agent tables.handlers)

def usage? (tables : CommandTables) (agent command : Value) : Option Usage :=
  Table.lookup command (row agent tables.usages)

/-- The handler of a command, whose agent and name have to be keys.  The name is not looked
at when the agent has no command. -/
def findHandler (tables : CommandTables) (agent command : Value) :
    Except Fault (Option Handler) :=
  if !agent.isKey then
    .error (.notAKey agent.kind)
  else if !(row agent tables.handlers).isEmpty && !command.isKey then
    .error (.notAKey command.kind)
  else
    .ok (tables.handler? agent command)

/-- The usage of a command, whose agent and name have to be keys. -/
def findUsage (tables : CommandTables) (agent command : Value) :
    Except Fault (Option Usage) :=
  if !agent.isKey then
    .error (.notAKey agent.kind)
  else if !command.isKey then
    .error (.notAKey command.kind)
  else
    .ok (tables.usage? agent command)

def agentUsages (tables : CommandTables) (agent : Value) : List Usage :=
  (row agent tables.usages).map (·.2)

/-- The usages of an agent, which has to be a key. -/
def findAgentUsages (tables : CommandTables) (agent : Value) : Except Fault (List Usage) :=
  if agent.isKey then .ok (tables.agentUsages agent) else .error (.notAKey agent.kind)

def allUsages (tables : CommandTables) : List Usage :=
  tables.usages.flatMap fun entry => entry.2.map (·.2)

/-- Stores a handler unless it is refused.  A key that is a collection is a fault, in the
case of the command after the row of the agent has been opened. -/
def addHandler (tables : CommandTables) (agent command : Value) (handler : Option Handler) :
    CommandTables × Except Fault (Option Refusal) :=
  match handler with
  | none => (tables, .ok (some .invalid))
  | some handler =>
      if !agent.holds || !command.holds then
        (tables, .ok (some .invalid))
      else if !agent.isKey then
        (tables, .error (.notAKey agent.kind))
      else if !command.isKey then
        ({ tables with handlers := openRow agent tables.handlers },
          .error (.notAKey command.kind))
      else if Table.holds command (row agent tables.handlers) then
        (tables, .ok (some .duplicate))
      else
        ({ tables with
            handlers :=
              Table.store agent (Table.store command handler (row agent tables.handlers))
                tables.handlers },
          .ok none)

/-- Stores a usage, replacing the one before; the flag tells whether it was accepted. -/
def addUsage (tables : CommandTables) (usage : Usage) : CommandTables × Except Fault Bool :=
  if !usage.agent.holds || !usage.command.holds then
    (tables, .ok false)
  else if !usage.agent.isKey then
    (tables, .error (.notAKey usage.agent.kind))
  else if !usage.command.isKey then
    ({ tables with usages := openRow usage.agent tables.usages },
      .error (.notAKey usage.command.kind))
  else
    ({ tables with
        usages :=
          Table.store usage.agent
            (Table.store usage.command usage (row usage.agent tables.usages)) tables.usages },
      .ok true)

/-- Removes a command from both tables; the flag tells whether it had a handler. -/
def remove (tables : CommandTables) (agent command : Value) :
    CommandTables × Except Fault Bool :=
  if !agent.isKey then
    (tables, .error (.notAKey agent.kind))
  else
    let commands := row agent tables.handlers
    if commands.isEmpty then
      (tables, .ok false)
    else if !command.isKey then
      (tables, .error (.notAKey command.kind))
    else if !Table.holds command commands then
      (tables, .ok false)
    else
      ({ handlers := setRow agent (Table.remove command commands) tables.handlers
         usages :=
           if Table.holds agent tables.usages then
             setRow agent (Table.remove command (row agent tables.usages)) tables.usages
           else
             tables.usages },
        .ok true)

/-- A command of the tables whose usage has a certain sigil. -/
structure Listing where
  agent : Value
  command : Value
  usage : Usage
  handler : Handler

def Listing.id (listing : Listing) : String :=
  listing.agent.asText ++ ":" ++ listing.command.asText

/-- The handlers with their usages, where they have one. -/
def described (tables : CommandTables) : List Listing :=
  tables.handlers.flatMap fun agentRow => agentRow.2.filterMap fun entry =>
    (tables.usage? agentRow.1 entry.1).map fun usage => ⟨agentRow.1, entry.1, usage, entry.2⟩

def ofSigil (sigil : Sigil) : List Listing → Except Fault (List Listing)
  | [] => .ok []
  | listing :: listings =>
      match listing.usage.sigil with
      | .error fault => .error fault
      | .ok own =>
          (ofSigil sigil listings).map fun others =>
            if own = sigil then listing :: others else others

/-- The commands of a sigil, in the order of the handler table. -/
def bySigil (tables : CommandTables) (sigil : Sigil) : Except Fault (List Listing) :=
  ofSigil sigil tables.described

/-- The forms that start with a text, in alphabetical order. -/
def completions (tables : CommandTables) (start : String) : Except Fault (List String) :=
  (Usage.formsStarting start tables.allUsages).map Usage.sorted

/-- The forms of all commands, or of those of one sigil, in increasing order. -/
def forms (tables : CommandTables) (sigil : Option Sigil) : Except Fault (List Value) :=
  let usages :=
    match sigil with
    | some sigil => Usage.ofSigil sigil tables.allUsages
    | none => .ok tables.allUsages
  usages.bind Usage.sortedForms

/-- How similar a suggested command has to be to the one that was not found. -/
def threshold : Similarity.Ratio := ⟨3, 5⟩

/-- Keys as texts; one without a length is a fault. -/
def textKeys : List Value → Except Fault (List String)
  | [] => .ok []
  | .text key :: rest => (textKeys rest).map (key :: ·)
  | key :: _ => .error (.noLength key.kind)

/-- An item of a collection as a letter: only a text of one character is one. -/
def letter : Value → Similarity.Letter
  | .text content =>
      match content.toList with
      | [character] => some character
      | _ => none
  | _ => none

/-- How a command is spelled: by its items, each of which has to be able to be a key. -/
def spelling (command : Value) : Except Fault (List Similarity.Letter) :=
  match Declaration.itemsOf command with
  | .error fault => .error fault
  | .ok items =>
      match items.find? fun item => !item.isKey with
      | some item => .error (.notAKey item.kind)
      | none => .ok (items.map letter)

/-- The commands of an agent that are spelled like the given one. -/
def suggestions (tables : CommandTables) (agent command : Value) :
    Except Fault (List String) :=
  if !agent.isKey then
    .error (.notAKey agent.kind)
  else
    match spelling command with
    | .error fault => .error fault
    | .ok word =>
        (textKeys ((row agent tables.handlers).map (·.1))).map
          (Similarity.closest threshold word)

end CommandTables

namespace Builtin

/-- The built-in commands in the order in which they are stored. -/
def all : List Builtin := [.help, .slashHelp, .model, .models]

def key : Builtin → String
  | .help => "help"
  | .slashHelp => "/help"
  | .model => "model"
  | .models => "models"

def usage : Builtin → Usage
  | .help =>
      { agent := .text coreAgent, command := .text "help"
        description := .text "List the @ commands of every agent"
        form := .text "/help", examples := .list [.text "/help"] }
  | .slashHelp =>
      { agent := .text coreAgent, command := .text "/help"
        description := .text "List the / commands"
        form := .text "//help", examples := .list [] }
  | .model =>
      { agent := .text coreAgent, command := .text "model"
        description := .text "Switch the active LLM model"
        form := .text "/model <model-id>"
        examples := .list
          [.text "/model gpt-4o", .text "/model claude-3-5-sonnet-20241022 --no-save"] }
  | .models =>
      { agent := .text coreAgent, command := .text "models"
        description := .text "List available models, or search them"
        form := .text "/models [search] [--all]"
        examples := .list
          [.text "/models", .text "/models claude", .text "/models sonnet --all"] }

end Builtin

end ChatDispatch
