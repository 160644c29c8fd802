import ChatDispatch.Proofs.Dispatcher.Loading
import ChatDispatch.Proofs.Dispatcher.Waiting

/-!
# Chat front ends

A chat front end reads plugins at once.  It is set up with some plugins, which may have
listeners already, and from then on anything can be done with it that a client can do, in any
order.  `Composed` is what every front end is like between two calls of the client: its queue
is punctual, nobody waits, plugins are registered under their ids, which can be keys, and the
commands of a managed plugin have different names.
-/

namespace ChatDispatch.Dispatcher

def IdsAreKeys (state : Dispatcher) : Prop :=
  ∀ sort, ∀ entry ∈ state.registered.ofSort sort, entry.1.isKey = true

/-- What a front end is like between two calls of the client. -/
structure Composed (state : Dispatcher) : Prop where
  poised : state.Poised
  keyed : state.Keyed
  keys : state.IdsAreKeys
  consistent : ∀ plugin ∈ state.plugins, plugin.IsConsistent

/-- What a front end is set up with: some registered plugins and their listeners, but no
refresh yet. -/
structure Fresh (state : Dispatcher) : Prop where
  follows : state.FollowsPlugins
  idle : state.scheduler = Scheduler.idle
  keyed : state.Keyed
  keys : state.IdsAreKeys
  consistent : ∀ plugin ∈ state.plugins, plugin.IsConsistent

/-- An operation that brings consistent plugins only, and does not take the id of a plugin. -/
def Respects (state : Dispatcher) : Operation → Prop
  | .addPlugin plugin => plugin.IsConsistent
  | .setPlugin handle new =>
      new.IsConsistent ∧ ∀ old, state.plugin? handle = some old → new.id = old.id
  | _ => True

/-- What can happen to a front end between two calls of the client, and what a call can do. -/
inductive FrontStep : Dispatcher → Dispatcher → Prop where
  | operate (state : Dispatcher) (operation : Operation) (respects : state.Respects operation) :
      FrontStep state (state.operate operation).1
  | startOne (state : Dispatcher) (handle : Nat) : FrontStep state (state.startPlugin handle).1
  | startAll (state : Dispatcher) : FrontStep state state.startAll
  | wait (state : Dispatcher) : FrontStep state state.waitForRefresh.1
  | gather (state : Dispatcher) (count : Nat) : FrontStep state (state.gatherRefresh count).1
  | loadExternal (state : Dispatcher) (paths : Value) (reload : Bool) :
      FrontStep state (state.loadExternal paths reload).1
  | loadPlugins (state : Dispatcher) (paths : Value) (reload : Bool) :
      FrontStep state (state.loadPlugins paths reload).1
  /-- Commands are run, files and settings are written, the loop stops or goes on: anything that
  concerns neither plugins nor listeners nor the schedule. -/
  | elsewhere {before after : Dispatcher} (plugins : after.plugins = before.plugins)
      (registered : after.registered = before.registered)
      (source : after.source = before.source)
      (subscriptions : after.subscriptions = before.subscriptions)
      (scheduler : after.scheduler = before.scheduler) : FrontStep before after

/-- A chat front end, whatever has been done with it. -/
inductive FrontEnd : Dispatcher → Prop where
  | setUp {before after : Dispatcher} (fresh : before.Fresh)
      (done : before.setUpFrontEnd = .ok after) : FrontEnd after
  | step {before after : Dispatcher} (earlier : FrontEnd before)
      (step : FrontStep before after) : FrontEnd after

variable {state before after : Dispatcher}

theorem idsAreKeys_setSort (keys : state.IdsAreKeys) (sort : PluginSort)
    {handles : List (Value × Nat)} (own : ∀ entry ∈ handles, entry.1.isKey = true) :
    IdsAreKeys { state with registered := state.registered.setSort handles sort } := by
  intro other
  rw [ofSort_setSort]
  split
  · exact own
  · exact keys other

theorem idsAreKeys_announce (keys : state.IdsAreKeys) (topic : Topic) (payload : List Value) :
    (announce topic payload state).IdsAreKeys := by
  rw [IdsAreKeys, (unmoved_announce _ _ _).registered]
  exact keys

theorem idsAreKeys_registerPlugin (keys : state.IdsAreKeys) (handle : Option Nat)
    (sort : PluginSort) : (state.registerPlugin handle sort).1.IdsAreKeys := by
  rcases registerPlugin_cases state handle sort with
    ⟨outcome, refused, -⟩ | ⟨own, plugin, -, keyed, accepted⟩
  · rw [refused]
    exact keys
  · rw [accepted]
    refine idsAreKeys_announce (idsAreKeys_setSort keys sort fun entry member => ?_) _ _
    have key : entry.1 ∈ (Table.store plugin.id own (state.registered.ofSort sort)).map (·.1) :=
      List.mem_map.mpr ⟨entry, member, rfl⟩
    rw [Table.keys_store] at key
    rcases List.mem_append.mp key with earlier | new
    · obtain ⟨old, present, same⟩ := List.mem_map.mp earlier
      rw [← same]
      exact keys sort old present
    · split at new
      · cases new
      · rw [List.mem_singleton.mp new]
        exact keyed

theorem idsAreKeys_unregisterPlugin (keys : state.IdsAreKeys) (id : Value) (sort : PluginSort) :
    (state.unregisterPlugin id sort).1.IdsAreKeys := by
  rcases unregisterPlugin_cases state id sort with ⟨outcome, refused, -⟩ | accepted
  · rw [refused]
    exact keys
  · rw [accepted]
    refine idsAreKeys_announce (idsAreKeys_setSort keys sort fun entry member => ?_) _ _
    exact keys sort entry ((Table.remove_sublist id _).subset member)

namespace Composed

theorem of_same (composed : before.Composed) (poised : after.Poised)
    (plugins : after.plugins = before.plugins)
    (registered : after.registered = before.registered) : after.Composed where
  poised := poised
  keyed := composed.keyed.of_same plugins registered
  keys := by
    rw [IdsAreKeys, registered]
    exact composed.keys
  consistent := by
    rw [plugins]
    exact composed.consistent

theorem of_closes (composed : before.Composed) (closes : Closes before after)
    (poised : after.Poised) : after.Composed :=
  composed.of_same poised closes.plugins closes.registered

theorem setPlugin (composed : state.Composed) {handle : Nat} {new : Plugin}
    (consistent : new.IsConsistent)
    (same : ∀ old, state.plugin? handle = some old → new.id = old.id) :
    (state.setPlugin handle new).Composed := by
  cases found : state.plugin? handle with
  | none =>
      have absent : state.plugins.length ≤ handle := List.getElem?_eq_none_iff.mp found
      have unchanged : state.setPlugin handle new = state := by
        rw [Dispatcher.setPlugin, List.set_eq_of_length_le absent]
      rw [unchanged]
      exact composed
  | some old =>
      exact {
        poised := composed.poised.of_same rfl rfl rfl
        keyed := keyed_setPlugin composed.keyed found (same old found)
        keys := composed.keys
        consistent := by
          intro plugin member
          rcases List.mem_or_eq_of_mem_set member with earlier | rfl
          · exact composed.consistent plugin earlier
          · exact consistent }

theorem addPlugin (composed : state.Composed) {plugin : Plugin}
    (consistent : plugin.IsConsistent) : (state.addPlugin plugin).1.Composed where
  poised := composed.poised.of_same rfl rfl rfl
  keyed := keyed_addPlugin composed.keyed plugin
  keys := composed.keys
  consistent := by
    intro other member
    rcases List.mem_append.mp member with earlier | new
    · exact composed.consistent other earlier
    · cases List.mem_singleton.mp new
      exact consistent

theorem announce (composed : state.Composed) (topic : Topic) (payload : List Value) :
    (Dispatcher.announce topic payload state).Composed := by
  have unmoved := unmoved_announce topic payload state
  exact composed.of_same (poised_announce composed.poised topic payload) unmoved.plugins
    unmoved.registered

theorem startPlugin (composed : state.Composed) (handle : Nat) :
    (state.startPlugin handle).1.Composed := by
  rcases startPlugin_cases state handle with same | ⟨plugin, present, started⟩
  · rw [same]
    exact composed
  · rw [started]
    have consistent := composed.consistent plugin (List.mem_of_getElem? present)
    refine composed.setPlugin consistent fun old found => ?_
    cases present.symm.trans found
    rfl

theorem startAll (composed : state.Composed) : state.startAll.Composed := by
  have started :
      (state.enabledHandles.foldl (fun state handle => (state.startPlugin handle).1)
        state).Composed :=
    List.foldlRecOn _ _ composed fun _ composed handle _ => composed.startPlugin handle
  exact started.announce .pluginsStarted []

theorem refresh (composed : state.Composed) : state.refresh.1.Composed :=
  composed.of_same (poised_refresh composed.poised)
    (plugins_refresh composed.poised.attached) (registered_refresh composed.poised.attached)

theorem waitForRefresh (composed : state.Composed) : state.waitForRefresh.1.Composed :=
  composed.of_closes (closes_waitForRefresh composed.poised.follows)
    (waitForRefresh_of_poised composed.poised).1

theorem registerPlugin (composed : state.Composed) (handle : Option Nat) (sort : PluginSort) :
    (state.registerPlugin handle sort).1.Composed where
  poised := overlooks_poised.registerPlugin handle sort composed.poised
  keyed := keyed_registerPlugin composed.keyed handle sort
  keys := idsAreKeys_registerPlugin composed.keys handle sort
  consistent := by
    rw [plugins_registerPlugin]
    exact composed.consistent

theorem unregisterPlugin (composed : state.Composed) (id : Value) (sort : PluginSort) :
    (state.unregisterPlugin id sort).1.Composed where
  poised := overlooks_poised.unregisterPlugin id sort composed.poised
  keyed := keyed_unregisterPlugin composed.keyed id sort
  keys := idsAreKeys_unregisterPlugin composed.keys id sort
  consistent := by
    rw [plugins_unregisterPlugin]
    exact composed.consistent

end Composed

theorem ignores_composed : Ignores Composed where
  tables := fun _ composed => composed.of_same (composed.poised.of_same rfl rfl rfl) rfl rfl
  announce := fun topic payload composed => composed.announce topic payload

theorem Composed.operate (composed : state.Composed) {operation : Operation}
    (respects : state.Respects operation) : (state.operate operation).1.Composed := by
  have poised := composed.poised
  cases operation with
  | request request => exact ignores_composed.perform request composed
  | declare declaration => exact ignores_composed.registerCommand declaration composed
  | refresh => exact composed.refresh
  | subscribe topic listener =>
      refine composed.of_same ⟨poised.direct, ?_, poised.punctual, poised.resting⟩ rfl rfl
      exact followsPlugins_listener poised.follows topic listener
  | unsubscribe topic listener =>
      refine composed.of_same ⟨poised.direct, ?_, poised.punctual, poised.resting⟩ rfl rfl
      exact fun entry member => poised.follows entry (List.mem_of_mem_erase member)
  | attach =>
      have connected : FollowsPlugins { state with source := .direct } := poised.follows
      exact composed.of_same
        ⟨rfl, followsPlugins_follow connected, poised.punctual, poised.resting⟩ rfl rfl
  | registerPlugin handle sort => exact composed.registerPlugin handle sort
  | unregisterPlugin id sort => exact composed.unregisterPlugin id sort
  | addPlugin plugin => exact composed.addPlugin respects
  | setPlugin handle plugin => exact composed.setPlugin respects.1 respects.2
  | wakeFirst =>
      have closes := ((endures_closes state).wakeFirst ⟨poised.follows, Closes.refl state⟩).2
      exact composed.of_closes closes (poised_wakeFirst poised)

theorem admits_composed : Admits Composed where
  register := fun handle sort composed => composed.registerPlugin handle sort
  unregister := fun id sort composed => composed.unregisterPlugin id sort
  grown := fun _ created composed =>
    { poised := composed.poised.of_same rfl rfl rfl
      keyed := composed.keyed.of_appended rfl rfl
      keys := composed.keys
      consistent := by
        intro plugin member
        rcases List.mem_append.mp member with earlier | new
        · exact composed.consistent plugin earlier
        · exact created plugin new }

theorem Composed.loadPlugins (composed : state.Composed) (paths : Value) (reload : Bool) :
    (state.loadPlugins paths reload).1.Composed := by
  unfold Dispatcher.loadPlugins
  split
  · exact composed
  · rename_i chosen _
    have loaded := admits_composed.loadExternal chosen reload composed
    split
    · rename_i failed
      rw [failed] at loaded
      exact loaded
    · rename_i next count came
      rw [came] at loaded
      have waited := loaded.startAll.waitForRefresh
      split
      · rename_i failed
        rw [failed] at waited
        exact waited
      · rename_i ended
        rw [ended] at waited
        exact waited.refresh

theorem Composed.step (composed : before.Composed) (step : FrontStep before after) :
    after.Composed := by
  cases step with
  | operate operation respects => exact composed.operate respects
  | startOne handle => exact composed.startPlugin handle
  | startAll => exact composed.startAll
  | wait => exact composed.waitForRefresh
  | gather count =>
      have closes :=
        ((endures_closes before).gatherRefresh count
          ⟨composed.poised.follows, Closes.refl before⟩).2
      exact composed.of_closes closes (poised_gatherRefresh composed.poised count)
  | loadExternal paths reload => exact admits_composed.loadExternal paths reload composed
  | loadPlugins paths reload => exact composed.loadPlugins paths reload
  | elsewhere plugins registered source subscriptions scheduler =>
      exact composed.of_same (composed.poised.of_same source scheduler subscriptions) plugins
        registered

theorem Fresh.setUp (fresh : state.Fresh) : (state.setUp .direct true).Composed := by
  have connected : Composed { state with source := .direct } :=
    { poised := ⟨rfl, fresh.follows, fresh.idle ▸ Scheduler.punctual_idle, fresh.idle ▸ rfl⟩
      keyed := fresh.keyed.of_same rfl rfl
      keys := fresh.keys
      consistent := fresh.consistent }
  have poised := connected.poised
  have followed : Poised (follow { state with source := .direct }) :=
    ⟨rfl, followsPlugins_follow poised.follows, poised.punctual, poised.resting⟩
  exact ignores_composed.setUp .direct true connected (connected.of_same followed rfl rfl)

theorem composed_setUpFrontEnd (fresh : before.Fresh)
    (done : before.setUpFrontEnd = .ok after) : after.Composed := by
  unfold setUpFrontEnd at done
  dsimp only at done
  split at done
  · cases done
  · rename_i store _
    cases noted : Notices.ofSettings (some before.settings) with
    | error fault =>
        rw [noted] at done
        cases done
    | ok notices =>
        rw [noted] at done
        rw [← Except.ok.inj done]
        have still : Fresh { before with models := some store, notices } :=
          ⟨fresh.follows, fresh.idle, fresh.keyed.of_same rfl rfl, fresh.keys, fresh.consistent⟩
        exact still.setUp

/-- Every front end is composed, whatever has been done with it. -/
theorem FrontEnd.composed (frontEnd : state.FrontEnd) : state.Composed := by
  induction frontEnd with
  | setUp fresh done => exact composed_setUpFrontEnd fresh done
  | step _ step induction => exact induction.step step

end ChatDispatch.Dispatcher
