import ChatDispatch.Declaration
import ChatDispatch.Nested
import ChatDispatch.Outcome
import ChatDispatch.Record
import ChatDispatch.Value.Shift

/-!
# Plugins

A managed plugin keeps a list of normalized commands with distinct names.  A foreign
plugin declares its commands in any form, may fail at any of its duties, and answers
every command itself.  Plugins are built from blueprints.
-/

namespace ChatDispatch

/-- What a foreign plugin does at its duties: how listing its commands and starting it fail, if they
do, and what it answers to a command with its arguments, which need not be given. -/
structure ForeignConduct where
  listing : Option Fault
  starting : Option Fault
  answer : Value → Option (List Value) → Outcome

/-- The two kinds of plugins with their commands. -/
inductive PluginBody where
  | managed (commands : List PluginCommand)
  | foreign (declared : List Declaration) (conduct : ForeignConduct)

/-- A plugin. -/
structure Plugin where
  id : Value
  name : Value
  description : Value
  enabled : Value
  ready : Value
  requiresReady : Value
  notice : Option Value
  body : PluginBody

namespace Plugin

def isEnabled (plugin : Plugin) : Bool :=
  plugin.enabled.holds

def isReady (plugin : Plugin) : Bool :=
  plugin.ready.holds

def declarations (plugin : Plugin) : Except Fault (List Declaration) :=
  match plugin.body with
  | .managed commands => .ok (commands.map .normal)
  | .foreign declared conduct =>
      match conduct.listing with
      | some fault => .error fault
      | none => .ok declared

/-- The command of a managed plugin with a name. -/
def find? (plugin : Plugin) (name : Value) : Option PluginCommand :=
  match plugin.body with
  | .managed commands => commands.find? fun command => command.name.equals name
  | .foreign _ _ => none

/-- Adds a command at the end in place of any command of an equal name. -/
def replaceCommand (commands : List PluginCommand) (command : PluginCommand) :
    List PluginCommand :=
  commands.filter (fun present => !present.name.equals command.name) ++ [command]

/-- Adds a declared command to a managed plugin; a declaration without a name is refused. -/
def register (plugin : Plugin) (declaration : Declaration) : Except Fault (Plugin × Bool) :=
  match declaration.normalize with
  | .error (.namelessDeclaration _) => .ok (plugin, false)
  | .error fault => .error fault
  | .ok command =>
      match plugin.body with
      | .managed commands =>
          .ok ({ plugin with body := .managed (replaceCommand commands command) }, true)
      | .foreign _ _ => .ok (plugin, false)

/-- Adds declared commands one after the other, until one is at fault; the flag tells
whether none was refused. -/
def registerAll (plugin : Plugin) : List Declaration → Plugin × Except Fault Bool
  | [] => (plugin, .ok true)
  | declaration :: rest =>
      match plugin.register declaration with
      | .error fault => (plugin, .error fault)
      | .ok (next, accepted) =>
          let (last, outcome) := registerAll next rest
          (last, outcome.map fun others => accepted && others)

def setEnabled (plugin : Plugin) (enabled : Value) : Plugin :=
  { plugin with enabled }

def start (plugin : Plugin) : Except Fault Plugin :=
  match plugin.body with
  | .managed _ => .ok { plugin with ready := .bool true }
  | .foreign _ conduct =>
      match conduct.starting with
      | some fault => .error fault
      | none => .ok { plugin with ready := .bool true }

end Plugin

def PluginCommand.shape : RecordShape :=
  { maker := "PluginCommand.__init__"
    fields := ["name", "description", "syntax", "examples", "run"]
    required := 1 }

/-- The fields of a command made for a plugin. -/
def PluginCommand.creation : RecordShape :=
  { maker := "BasePlugin.create_command"
    fields := ["name", "handler", "description", "syntax", "examples"]
    required := 2 }

/-- A command as a blueprint offers it: a declaration, a command record, or a command
made for the plugin it belongs to.  The callables are given beside the other fields. -/
inductive Offer where
  | declared (declaration : Declaration)
  | record (fields : Entries) (callables : List (String × Value))
  | created (fields : Entries) (callables : List (String × Value))

/-- What the command of a record runs: its field `run`, unless that is `null`. -/
def Runner.ofRecord? (fields : Entries) : Option Runner :=
  match Table.lookup (Key.text "run") fields with
  | none => none
  | some .null => none
  | some target => some (.onList target)

/-- The command of a record with the given fields. -/
def PluginCommand.ofRecord (fields : Entries) : PluginCommand :=
  { name := fieldOr fields "name" .null
    description := fieldOr fields "description" (.text "")
    form := fieldOr fields "syntax" .null
    examples := fieldOr fields "examples" (.list [])
    runner := Runner.ofRecord? fields }

/-- The command made for the plugin with the given id; it runs its field `handler`. -/
def PluginCommand.create (pluginId : Value) (fields : Entries) : PluginCommand :=
  let name := fieldOr fields "name" .null
  { name
    description := fieldOr fields "description" (.text "")
    form := (fieldOr fields "syntax" .null).orElse
      (.text ("@" ++ pluginId.asText ++ ":" ++ name.asText))
    examples := (fieldOr fields "examples" .null).orElse (.list [])
    runner := (Table.lookup (Key.text "handler") fields).map .onEach }

/-- The declaration that an offer makes for the plugin with the given id. -/
def Offer.declaration (pluginId : Value) : Offer → Except Fault Declaration
  | .declared declaration => .ok declaration
  | .record fields callables =>
      (joinFields "axiom.plugins.base.PluginCommand" fields callables).bind fun fields =>
        (PluginCommand.shape.check fields).map fun _ => .normal (PluginCommand.ofRecord fields)
  | .created fields callables =>
      (joinFields "axiom.plugins.base.BasePlugin.create_command" fields callables).bind
        fun fields => (PluginCommand.creation.check fields).map fun _ =>
          .normal (PluginCommand.create pluginId fields)

/-- What both kinds of blueprints tell about a plugin. -/
structure PluginTraits where
  id : Value
  name : Value
  description : Value
  requiresReady : Value
  notice : Option Value
  offers : List Offer

/-- A description from which plugins are built.  Instead of a plugin there may be some other value,
which can do nothing that a plugin has to. -/
inductive Blueprint where
  | managed (className : String) (config : Value) (traits : PluginTraits)
  | foreign (enabled ready : Value) (conduct : ForeignConduct) (traits : PluginTraits)
  | other (content : Value)

namespace Blueprint

/-- Registers the offered commands one after the other. -/
def registerOffers : List Offer → Plugin → Except Fault Plugin
  | [], plugin => .ok plugin
  | offer :: offers, plugin =>
      match offer.declaration plugin.id with
      | .error fault => .error fault
      | .ok declaration =>
          match plugin.register declaration with
          | .error fault => .error fault
          | .ok (plugin, _) => registerOffers offers plugin

/-- Whether the configuration of a plugin leaves it switched on: only an explicit
`false` does not. -/
def enabledBy (config : Value) : Except Fault Bool :=
  (Nested.read (config.orElse (.map [])) ["enabled"] (.bool true)).map fun setting =>
    decide (setting ≠ .bool false)

def declarations (pluginId : Value) : List Offer → Except Fault (List Declaration)
  | [] => .ok []
  | offer :: offers =>
      match offer.declaration pluginId with
      | .error fault => .error fault
      | .ok declaration => (declarations pluginId offers).map (declaration :: ·)

/-- What a value that is no plugin does in place of one. -/
def impostor (content : Value) : Plugin :=
  { id := .null
    name := .null
    description := .null
    enabled := .null
    ready := .null
    requiresReady := .null
    notice := none
    body := .foreign [] {
      listing := some (.noAttribute content.kind "get_commands")
      starting := some (.noAttribute content.kind "initialize")
      answer := fun _ _ => .error (.noAttribute content.kind "execute_command") } }

/-- Builds a plugin.  A managed one needs an id, is named after it by default, and is
ready from the beginning unless it requires to be started. -/
def build : Blueprint → Except Fault Plugin
  | .managed className config traits =>
      if !traits.id.holds then
        .error (.pluginWithoutId className)
      else
        match enabledBy config with
        | .error fault => .error fault
        | .ok enabled =>
            registerOffers traits.offers {
              id := traits.id
              name := if traits.name = .null then traits.id else traits.name
              description := traits.description
              enabled := .bool enabled
              ready := .bool (!traits.requiresReady.holds)
              requiresReady := traits.requiresReady
              notice := traits.notice
              body := .managed [] }
  | .foreign enabled ready conduct traits =>
      match declarations traits.id traits.offers with
      | .error fault => .error fault
      | .ok declared =>
          .ok {
            id := traits.id
            name := traits.name
            description := traits.description
            enabled
            ready
            requiresReady := traits.requiresReady
            notice := traits.notice
            body := .foreign declared conduct }
  | .other content => .ok (impostor content)

end Blueprint

/-- Shifts the number of the callable that a command runs. -/
def Runner.shift (offset : Nat) : Runner → Runner
  | .onList target => .onList (target.shift offset)
  | .onEach target => .onEach (target.shift offset)

/-- Shifts the numbers of the callables in the fields of a command. -/
def PluginCommand.shift (offset : Nat) (command : PluginCommand) : PluginCommand where
  name := command.name.shift offset
  description := command.description.shift offset
  form := command.form.shift offset
  examples := command.examples.shift offset
  runner := command.runner.map (·.shift offset)

/-- Shifts the numbers of the callables in a declaration. -/
def Declaration.shift (offset : Nat) : Declaration → Declaration
  | .normal command => .normal (command.shift offset)
  | .mapping fields => .mapping (Value.shiftEntries offset fields)
  | .object shown fields => .object shown (Value.shiftEntries offset fields)
  | .other content => .other (content.shift offset)

/-- Shifts the numbers of the callables in an offer. -/
def Offer.shift (offset : Nat) : Offer → Offer
  | .declared declaration => .declared (declaration.shift offset)
  | .record fields callables =>
      .record (Value.shiftEntries offset fields)
        (callables.map fun field => (field.1, field.2.shift offset))
  | .created fields callables =>
      .created (Value.shiftEntries offset fields)
        (callables.map fun field => (field.1, field.2.shift offset))

/-- Shifts the numbers of the callables in the offers of a blueprint. -/
def PluginTraits.shift (offset : Nat) (traits : PluginTraits) : PluginTraits :=
  { traits with offers := traits.offers.map (·.shift offset) }

/-- Shifts the numbers of the callables in a blueprint, which makes new ones every time that it is
built. -/
def Blueprint.shift (offset : Nat) : Blueprint → Blueprint
  | .managed className config traits => .managed className config (traits.shift offset)
  | .foreign enabled ready conduct traits =>
      .foreign enabled ready conduct (traits.shift offset)
  | .other content => .other (content.shift offset)

end ChatDispatch
