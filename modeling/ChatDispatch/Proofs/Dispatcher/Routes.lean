import ChatDispatch.Proofs.Dispatcher.Delivering
import ChatDispatch.Proofs.Dispatcher.Runnable

/-!
# Routes to the command of a plugin

The command of a plugin is reached on three routes.  After an at sign the gates are asked; after
a slash the handler is run that the last rebuild has stored; and the plugin tables look the name
up among the declarations.  All three end in the same plugin, which looks the name up once more.
So what counts is what the plugin declares by then, and not what the rebuild has read.

Only the handler depends on the past.  It is that of the plugin if nothing else was stored in
its place: if the plugin `OffersAlone`, the rebuild came to its end, and nobody claimed or withdrew
the command.  `routes_part` shows what happens otherwise.
-/

namespace ChatDispatch.Dispatcher

open CommandTables

variable {state past now : Dispatcher} {agent command id name : Value} {handle : Nat}

theorem readingsOf_managed {plugin : Plugin} (present : state.plugin? handle = some plugin)
    {commands : List PluginCommand} (managed : plugin.body = .managed commands) :
    readingsOf state.plugins handle =
      commands.map fun command => .declared handle plugin.id (.normal command) := by
  have found : state.plugins[handle]? = some plugin := present
  simp only [readingsOf, found, Plugin.declarations, managed, List.map_map]
  rfl

/-- No other plugin among some handles has the id of the plugin of a handle. -/
def Alone (state : Dispatcher) (handles : List Nat) (handle : Nat) : Prop :=
  ∀ other ∈ handles, other ≠ handle → state.IdsDiffer handle other

/-- An enabled managed plugin declares a command, and no other enabled plugin has its id. -/
structure OffersAlone (state : Dispatcher) (handle : Nat) (id name : Value) : Prop where
  enabled : handle ∈ state.enabledHandles
  alone : state.Alone state.enabledHandles handle
  declares : ∃ plugin commands, state.plugin? handle = some plugin ∧ plugin.id = id ∧
    plugin.body = .managed commands ∧ NamesDiffer commands ∧
      ∃ command ∈ commands, command.name = name

namespace OffersAlone

theorem exists_reading (offers : past.OffersAlone handle id name) :
    ∃ command : PluginCommand, command.name = name ∧
      .declared handle id (.normal command) ∈ past.readings := by
  obtain ⟨plugin, commands, present, rfl, managed, -, command, member, named⟩ := offers.declares
  refine ⟨command, named, List.mem_flatMap.mpr ⟨handle, offers.enabled, ?_⟩⟩
  rw [readingsOf_managed present managed]
  exact List.mem_map.mpr ⟨command, member, rfl⟩

/-- If nothing that a rebuild reads is at fault, then the command can be stored. -/
theorem storable (offers : past.OffersAlone handle id name)
    (sound : ∀ reading ∈ past.readings, reading.isSound = true) (holds : id.holds = true)
    (named : name.holds = true) : Storable id name := by
  obtain ⟨command, rfl, member⟩ := offers.exists_reading
  rcases Reading.isSound_declared_iff.mp (sound _ member) with ⟨_, nameless⟩ | ⟨own, same, keys⟩
  · cases nameless
  · cases same
    obtain ⟨idKey, nameKey⟩ := Bool.and_eq_true_iff.mp (keys (by rw [holds, named]; rfl))
    exact ⟨holds, named, idKey, nameKey⟩

end OffersAlone

variable {plugin : Plugin} {declared : PluginCommand}

/-- A registered plugin that is switched on and started, and shares its id with no other. -/
structure Serves (state : Dispatcher) (handle : Nat) (plugin : Plugin) : Prop where
  present : state.plugin? handle = some plugin
  registered : handle ∈ state.pluginHandles
  alone : state.Alone state.pluginHandles handle
  enabled : plugin.isEnabled = true
  ready : plugin.isReady = true

namespace Serves

theorem eq_of_alike (serves : now.Serves handle plugin) (keyed : now.Keyed) {sort : PluginSort}
    {entry : Value × Nat} (member : entry ∈ now.registered.ofSort sort)
    (alike : (entry.1 == plugin.id) = true) : entry.2 = handle := by
  obtain ⟨own, found, same⟩ := keyed.owned sort entry member
  by_contra other
  have apart := serves.alone entry.2 (mem_pluginHandles.mpr ⟨sort, entry, member, rfl⟩) other
    plugin own serves.present found
  rw [← BEq.congr_left alike, same] at apart
  cases apart

/-- The plugin answers for its id, as whatever it is registered. -/
theorem find?_id (serves : now.Serves handle plugin) (keyed : now.Keyed) :
    now.registered.find? plugin.id = some handle := by
  obtain ⟨sort, entry, member, rfl⟩ := mem_pluginHandles.mp serves.registered
  obtain ⟨own, found, same⟩ := keyed.owned sort entry member
  obtain rfl : own = plugin := Option.some.inj (found.symm.trans serves.present)
  cases sort with
  | internal => exact find?_of_internal keyed member same
  | external =>
      cases shadow : Table.lookup own.id now.registered.internal with
      | none => exact find?_of_external keyed member same shadow
      | some other =>
          obtain ⟨internal, listed, alike, rfl⟩ := Table.exists_mem_of_lookup shadow
          have member : internal ∈ now.registered.ofSort .internal := listed
          rw [← serves.eq_of_alike keyed member alike]
          exact find?_of_internal keyed listed alike

end Serves

/-- A managed plugin runs what it has declared under a name. -/
theorem runPlugin_of_find? (present : now.plugin? handle = some plugin)
    (found : plugin.find? name = some declared) (arguments : Option (List Value)) :
    now.runPlugin handle name arguments =
      (now.noteCall (.plugin handle name arguments)).runDeclared declared arguments := by
  cases body : plugin.body with
  | managed commands => simp only [runPlugin, present, body, found]
  | foreign declarations conduct => simp [Plugin.find?, body] at found

theorem runPlugin_fst (present : now.plugin? handle = some plugin)
    (found : plugin.find? name = some declared) (arguments : List Value) :
    (now.runPlugin handle name (some arguments)).1 =
      { now with
        calls := now.calls ++ .plugin handle name (some arguments) ::
          callsOf plugin declared arguments } := by
  cases body : plugin.body with
  | foreign _ _ => simp [Plugin.find?, body] at found
  | managed commands =>
      rw [runPlugin_of_find? present found, runDeclared_frame body, noteCall]
      simp

end ChatDispatch.Dispatcher
