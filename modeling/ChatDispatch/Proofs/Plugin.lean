import ChatDispatch.CommandTables
import ChatDispatch.Plugin
import ChatDispatch.Proofs.Redefining

/-!
# Regular plugins

A managed plugin declares commands of different names, whatever is offered to it: it
`IsConsistent`.  With an id that fits into the text of a command it is `IsRegular`.  A foreign
plugin that declares its commands likewise is regular, too, though it may fail to start.
-/

namespace ChatDispatch

/-- The name of a command, as plugins compare it with others. -/
structure CommandName where
  value : Value

instance : BEq CommandName := ⟨fun left right => left.value.equals right.value⟩

instance : PartialEquivBEq CommandName where
  symm := Value.equals_symm
  trans := Value.equals_trans

def PluginCommand.title (command : PluginCommand) : CommandName := ⟨command.name⟩

def NamesDiffer (commands : List PluginCommand) : Prop :=
  Redefining.NamesApart PluginCommand.title commands

namespace Plugin

/-- The commands among the declarations of a plugin. -/
def commands (plugin : Plugin) : List PluginCommand :=
  match plugin.declarations with
  | .error _ => []
  | .ok declarations => declarations.filterMap fun declaration =>
      match declaration with
      | .normal command => some command
      | _ => none

/-- An id that fits in front of a colon and is not that of the built-in commands. -/
def HasPlainId (plugin : Plugin) : Prop :=
  ∃ id, plugin.id = .text id ∧ id ≠ "" ∧ ':' ∉ id.toList ∧ id ≠ coreAgent

/-- A plugin of a plain id that declares nothing but commands of different names. -/
structure IsRegular (plugin : Plugin) : Prop where
  plain : plugin.HasPlainId
  declared : plugin.declarations = .ok (plugin.commands.map .normal)
  named : ∀ command ∈ plugin.commands, command.name.isNaN = false
  distinct : NamesDiffer plugin.commands

variable {plugin : Plugin}

theorem filterMap_normal (commands : List PluginCommand) :
    ((commands.map Declaration.normal).filterMap fun declaration =>
      match declaration with
      | .normal command => some command
      | _ => none) = commands := by
  induction commands with
  | nil => rfl
  | cons command rest induction => rw [List.map_cons, List.filterMap_cons, induction]

theorem commands_of_managed {commands : List PluginCommand}
    (managed : plugin.body = .managed commands) : plugin.commands = commands := by
  simp only [Plugin.commands, declarations, managed, filterMap_normal]

/-- The commands of a managed plugin have different names. -/
def IsConsistent (plugin : Plugin) : Prop :=
  ∀ commands, plugin.body = .managed commands → NamesDiffer commands

theorem IsRegular.keysDiffer (regular : plugin.IsRegular) :
    plugin.commands.Pairwise fun left right => (left.name == right.name) = false := by
  refine regular.distinct.imp_of_mem fun {left right} member _ different => ?_
  have proper := regular.named left member
  change (left.name.alike right.name && !left.name.isNaN) = false at different
  rwa [proper, Bool.not_false, Bool.and_true, ← Value.beq_def] at different

theorem namesDiffer_replaceCommand {commands : List PluginCommand}
    (distinct : NamesDiffer commands) (command : PluginCommand) :
    NamesDiffer (replaceCommand commands command) :=
  Redefining.namesApart_define distinct command

theorem isConsistent_register (consistent : plugin.IsConsistent) {declaration : Declaration}
    {next : Plugin} {flag : Bool}
    (registered : plugin.register declaration = .ok (next, flag)) : next.IsConsistent := by
  unfold register at registered
  split at registered
  · cases registered
    exact consistent
  · cases registered
  · rename_i command _
    split at registered
    · rename_i commands body
      cases registered
      intro own managed
      cases managed
      exact namesDiffer_replaceCommand (consistent commands body) command
    · cases registered
      exact consistent

end Plugin

namespace Blueprint

theorem isConsistent_registerOffers {plugin last : Plugin} {offers : List Offer}
    (consistent : plugin.IsConsistent) (registered : registerOffers offers plugin = .ok last) :
    last.IsConsistent := by
  induction offers generalizing plugin with
  | nil =>
      cases registered
      exact consistent
  | cons offer rest induction =>
      unfold registerOffers at registered
      split at registered
      · cases registered
      · split at registered
        · cases registered
        · rename_i next flag accepted
          exact induction (Plugin.isConsistent_register consistent accepted) registered

/-- Whatever is offered, the plugin that is built is consistent. -/
theorem isConsistent_of_build {blueprint : Blueprint} {plugin : Plugin}
    (built : blueprint.build = .ok plugin) : plugin.IsConsistent := by
  cases blueprint with
  | managed className config traits =>
      simp only [build] at built
      split at built
      · cases built
      · split at built
        · cases built
        · refine isConsistent_registerOffers ?_ built
          intro commands managed
          cases managed
          exact List.Pairwise.nil
  | foreign enabled ready conduct traits =>
      simp only [build] at built
      split at built
      · cases built
      · cases built
        intro commands managed
        cases managed
  | other content =>
      cases built
      intro commands managed
      cases managed

end Blueprint

end ChatDispatch
