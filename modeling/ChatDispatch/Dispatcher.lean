import ChatDispatch.Event
import ChatDispatch.Model.Store
import ChatDispatch.Notices
import ChatDispatch.PluginModule
import ChatDispatch.Scheduler

/-!
# The dispatcher

The state of a running dispatcher: command tables, plugins, settings and models, the
subscriptions, and the refreshes that are under way.  Plugins are known by handles, which
are their positions in the order of their creation.
-/

namespace ChatDispatch

/-- The two sorts of registered plugins; internal ones shadow external ones. -/
inductive PluginSort where
  | internal
  | external
deriving DecidableEq, Repr

/-- The plugin sort of a word: anything but `internal` means external. -/
def PluginSort.ofText (text : String) : PluginSort :=
  if text = "internal" then .internal else .external

/-- The plugin sort that a value means; what is no text means external. -/
def PluginSort.ofValue : Value → PluginSort
  | .text word => ofText word
  | _ => .external

def PluginSort.text : PluginSort → String
  | .internal => "internal"
  | .external => "external"

/-- Registered plugins: handles by plugin id. -/
structure PluginTables where
  internal : List (Value × Nat)
  external : List (Value × Nat)
deriving DecidableEq

namespace PluginTables

def ofSort (tables : PluginTables) : PluginSort → List (Value × Nat)
  | .internal => tables.internal
  | .external => tables.external

def setSort (tables : PluginTables) (handles : List (Value × Nat)) : PluginSort → PluginTables
  | .internal => { tables with internal := handles }
  | .external => { tables with external := handles }

/-- The handle of an id; internal plugins shadow external ones. -/
def find? (tables : PluginTables) (id : Value) : Option Nat :=
  (Table.lookup id tables.internal).or (Table.lookup id tables.external)

end PluginTables

/-- A command that a refresh could not store; it may have no id or name. -/
structure Failure where
  agent : Value
  command : Value
  reason : String
deriving DecidableEq

/-- Where a refresh reads the enabled plugins: nowhere, from the plugin tables at once, or
from them after a suspension. -/
inductive Source where
  | absent
  | direct
  | suspending
deriving DecidableEq, Repr

/-- A call of a callable or of a plugin's command, as it was made.  A plugin can be called
without a list of arguments. -/
inductive Call where
  | callable (number : Nat) (arguments : List Value)
  | plugin (handle : Nat) (command : Value) (arguments : Option (List Value))
deriving DecidableEq

/-- The state of a dispatcher.  The last two fields are up to the surroundings: how much deeper than
there are subscriptions announcements can nest, and what the code of a callable gives, by the number
of earlier calls of the callable and by the arguments. -/
structure Dispatcher where
  files : FileTree
  settings : Settings
  catalogue : Entries
  models : Option ModelStore
  plugins : List Plugin
  registered : PluginTables
  tables : CommandTables
  failures : List Failure
  needsRefresh : Bool
  source : Source
  sourceFailure : Option String
  notices : Notices
  subscriptions : List (Topic × Subscriber)
  deliveries : List Delivery
  calls : List Call
  modules : ModuleCache
  hasLoop : Bool
  scheduler : Scheduler
  nextCallable : Nat
  nesting : Nat
  answers : String → Nat → List Value → Outcome

namespace Dispatcher

/-- A dispatcher without commands, plugins and subscriptions, where callables give back their code
and their arguments. -/
def blank : Dispatcher :=
  { files := ⟨[], []⟩, settings := ⟨[], none⟩, catalogue := [], models := none, plugins := []
    registered := ⟨[], []⟩, tables := CommandTables.empty, failures := []
    needsRefresh := false, source := .absent, sourceFailure := none
    notices := Notices.default, subscriptions := [], deliveries := [], calls := []
    modules := ModuleCache.empty, hasLoop := true, scheduler := Scheduler.idle
    nextCallable := 0, nesting := 0
    answers := fun code _ arguments => .ok (.list [.text code, .list arguments]) }

def reschedule (state : Dispatcher) (change : Scheduler → Scheduler) : Dispatcher :=
  { state with scheduler := change state.scheduler }

/-- Adds a plugin; its handle is the number of plugins before it. -/
def addPlugin (state : Dispatcher) (plugin : Plugin) : Dispatcher × Nat :=
  ({ state with plugins := state.plugins ++ [plugin] }, state.plugins.length)

def setPlugin (state : Dispatcher) (handle : Nat) (plugin : Plugin) : Dispatcher :=
  { state with plugins := state.plugins.set handle plugin }

def plugin? (state : Dispatcher) (handle : Nat) : Option Plugin :=
  state.plugins[handle]?

/-- Builds a plugin from a blueprint of the given width, with callables of its own. -/
def build (state : Dispatcher) (blueprint : Blueprint) (width : Nat) :
    Dispatcher × Except Fault Nat :=
  let fresh := { state with nextCallable := state.nextCallable + width }
  match (blueprint.shift state.nextCallable).build with
  | .error fault => (fresh, .error fault)
  | .ok plugin =>
      let (grown, handle) := fresh.addPlugin plugin
      (grown, .ok handle)

end Dispatcher

end ChatDispatch
