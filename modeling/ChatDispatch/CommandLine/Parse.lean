import ChatDispatch.CommandLine.Argument
import ChatDispatch.CommandLine.Sigil
import ChatDispatch.CommandLine.Token
import ChatDispatch.Text.Split

/-!
# Parsing command lines

`@agent:command` and `/agent:command` name their target in the first token, and
`/command` alone names a core command.  The other tokens are arguments and flags:
`--name=value`, `--name`, `-n value` and `-n`.  Anything else is ordinary chat text.
-/

namespace ChatDispatch

/-- A parsed command. -/
structure Command where
  sigil : Sigil
  kind : CommandKind
  agent : String
  command : String
  arguments : List Value
  flags : Entries
  source : String

def Command.qualifiedName (parsed : Command) : String :=
  parsed.sigil.text ++ parsed.agent ++ ":" ++ parsed.command

namespace CommandLine

/-- The agent and the command that the first token names.  The first colon separates
them; a token without a colon names a core command, but only after a slash. -/
def target? (sigil : Sigil) (token : List Char) : Option (List Char × List Char) :=
  match Text.cut ':' token with
  | (agent, some command) =>
      let agent := Text.trim agent
      let command := Text.trim command
      if agent.isEmpty || command.isEmpty then none else some (agent, command)
  | (_, none) =>
      match sigil with
      | .slash => some (coreAgent.toList, token)
      | _ => none

/-- The role of a token after the first one. -/
inductive Role where
  | long (name : List Char) (content : Option (List Char))
  | short (name : Char)
  | plain
deriving DecidableEq

/-- Two dashes start a long flag, a dash and one character make a short one. -/
def role : List Char → Role
  | '-' :: '-' :: rest => .long (Text.cut '=' rest).1 (Text.cut '=' rest).2
  | ['-', name] => .short name
  | _ => .plain

/-- A token that can be the value of the short flag before it. -/
def canBeTaken : List Char → Bool
  | '-' :: _ => false
  | _ => true

/-- The value of a flag with or without a text after it. -/
def flagValue : Option (List Char) → Value
  | some content => argument content
  | none => .bool true

/-- Arguments and flags of the tokens after the first, added to the flags so far. -/
def argumentsAndFlags (flags : Entries) :
    List (List Char) → List Value × Entries
  | [] => ([], flags)
  | token :: rest =>
      match role token with
      | .long name content =>
          argumentsAndFlags (Table.store (String.ofList name) (flagValue content) flags) rest
      | .short name =>
          match rest with
          | next :: following =>
              if canBeTaken next then
                argumentsAndFlags (Table.store (String.ofList [name]) (argument next) flags)
                  following
              else
                argumentsAndFlags (Table.store (String.ofList [name]) (.bool true) flags)
                  (next :: following)
          | [] => ([], Table.store (String.ofList [name]) (.bool true) flags)
      | .plain =>
          let (arguments, flags) := argumentsAndFlags flags rest
          (argument token :: arguments, flags)

def parseTrimmed? : List Char → Option Command
  | [] => none
  | first :: rest => do
      let sigil ← Sigil.ofChar? first
      match tokens rest with
      | [] => none
      | head :: tail =>
          let (agent, command) ← target? sigil head
          let (arguments, flags) := argumentsAndFlags [] tail
          return {
            sigil
            kind := .ofSigil sigil
            agent := String.ofList agent
            command := String.ofList command
            arguments
            flags
            source := String.ofList (first :: rest) }

/-- The command that a text writes, if it is not ordinary chat text. -/
def parse? (text : String) : Option Command :=
  parseTrimmed? (Text.trim text.toList)

end CommandLine

/-- Agent and command of an id; a bare name belongs to the core namespace. -/
def splitId (id : String) : String × String :=
  match Text.cut ':' id.toList with
  | (agent, some command) => (String.ofList agent, String.ofList command)
  | (_, none) => (coreAgent, id)

end ChatDispatch
