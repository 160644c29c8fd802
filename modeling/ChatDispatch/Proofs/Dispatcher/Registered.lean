import ChatDispatch.Dispatcher.Plugins
import ChatDispatch.Proofs.Dispatcher.Announcing

/-!
# The plugin tables

A plugin is registered under its own id, and no two plugins of a sort are registered under
ids that agree.  Registering and removing plugins, starting them and building new ones keep
this.
-/

namespace ChatDispatch.Dispatcher

/-- Every plugin is registered under its own id, and once for each sort. -/
structure Keyed (state : Dispatcher) : Prop where
  distinct : ∀ sort, Table.Distinct (state.registered.ofSort sort)
  owned : ∀ sort, ∀ entry ∈ state.registered.ofSort sort,
    ∃ plugin, state.plugin? entry.2 = some plugin ∧ (entry.1 == plugin.id) = true

variable {state : Dispatcher}

theorem Keyed.of_same {before after : Dispatcher} (keyed : before.Keyed)
    (plugins : after.plugins = before.plugins)
    (registered : after.registered = before.registered) : after.Keyed where
  distinct := by
    rw [registered]
    exact keyed.distinct
  owned := by
    simp only [registered, plugin?, plugins]
    exact keyed.owned

theorem Keyed.of_unmoved {before after : Dispatcher} (keyed : before.Keyed)
    (unmoved : Unmoved before after) : after.Keyed :=
  keyed.of_same unmoved.plugins unmoved.registered

theorem ofSort_setSort (tables : PluginTables) (handles : List (Value × Nat))
    (sort other : PluginSort) :
    (tables.setSort handles sort).ofSort other =
      if other = sort then handles else tables.ofSort other := by
  cases sort <;> cases other <;> rfl

theorem mem_pluginHandles {handle : Nat} :
    handle ∈ state.pluginHandles ↔
      ∃ sort, ∃ entry ∈ state.registered.ofSort sort, entry.2 = handle := by
  simp only [pluginHandles, List.mem_map, List.mem_append]
  constructor
  · rintro ⟨entry, internal | external, same⟩
    · exact ⟨.internal, entry, internal, same⟩
    · exact ⟨.external, entry, external, same⟩
  · rintro ⟨sort, entry, member, same⟩
    cases sort with
    | internal => exact ⟨entry, .inl member, same⟩
    | external => exact ⟨entry, .inr member, same⟩

theorem keyed_setSort (keyed : state.Keyed) (sort : PluginSort) {handles : List (Value × Nat)}
    (distinct : Table.Distinct handles)
    (owned : ∀ entry ∈ handles,
      ∃ plugin, state.plugin? entry.2 = some plugin ∧ (entry.1 == plugin.id) = true) :
    Keyed { state with registered := state.registered.setSort handles sort } where
  distinct := by
    intro other
    rw [ofSort_setSort]
    split
    · exact distinct
    · exact keyed.distinct other
  owned := by
    intro other
    rw [ofSort_setSort]
    split
    · exact owned
    · exact keyed.owned other

/-- A plugin is refused, and nothing changes, or it is stored under its id, which is announced. -/
theorem registerPlugin_cases (state : Dispatcher) (handle : Option Nat) (sort : PluginSort) :
    (∃ outcome, state.registerPlugin handle sort = (state, outcome) ∧ outcome ≠ .ok true) ∨
      ∃ own plugin, state.plugin? own = some plugin ∧ plugin.id.isKey = true ∧
        state.registerPlugin handle sort =
          (announce .pluginRegistered (pluginPayload plugin.id sort)
            { state with
              registered := state.registered.setSort
                (Table.store plugin.id own (state.registered.ofSort sort)) sort },
            .ok true) := by
  unfold registerPlugin
  dsimp only
  split
  · exact .inl ⟨_, rfl, by simp⟩
  · rename_i own id found
    split
    · exact .inl ⟨_, rfl, by simp⟩
    · split
      · exact .inl ⟨_, rfl, by simp⟩
      · rename_i keyed
        split
        · exact .inl ⟨_, rfl, by simp⟩
        · obtain ⟨asked, -, built⟩ := Option.bind_eq_some_iff.mp found
          obtain ⟨plugin, present, same⟩ := Option.map_eq_some_iff.mp built
          cases same
          exact .inr ⟨own, plugin, present, by simpa using keyed, rfl⟩

theorem unregisterPlugin_cases (state : Dispatcher) (id : Value) (sort : PluginSort) :
    (∃ outcome, state.unregisterPlugin id sort = (state, outcome) ∧ outcome ≠ .ok true) ∨
      state.unregisterPlugin id sort =
        (announce .pluginUnregistered (pluginPayload id sort)
          { state with
            registered := state.registered.setSort
              (Table.remove id (state.registered.ofSort sort)) sort },
          .ok true) := by
  unfold unregisterPlugin
  dsimp only
  split
  · exact .inl ⟨_, rfl, by simp⟩
  · split
    · exact .inl ⟨_, rfl, by simp⟩
    · exact .inr rfl

theorem plugins_registerPlugin (state : Dispatcher) (handle : Option Nat) (sort : PluginSort) :
    (state.registerPlugin handle sort).1.plugins = state.plugins := by
  rcases registerPlugin_cases state handle sort with
    ⟨outcome, refused, -⟩ | ⟨own, plugin, -, -, accepted⟩
  · rw [refused]
  · rw [accepted, (unmoved_announce _ _ _).plugins]

theorem plugins_unregisterPlugin (state : Dispatcher) (id : Value) (sort : PluginSort) :
    (state.unregisterPlugin id sort).1.plugins = state.plugins := by
  rcases unregisterPlugin_cases state id sort with ⟨outcome, refused, -⟩ | accepted
  · rw [refused]
  · rw [accepted, (unmoved_announce _ _ _).plugins]

theorem keyed_registerPlugin (keyed : state.Keyed) (handle : Option Nat) (sort : PluginSort) :
    (state.registerPlugin handle sort).1.Keyed := by
  rcases registerPlugin_cases state handle sort with
    ⟨outcome, refused, -⟩ | ⟨own, plugin, present, -, accepted⟩
  · rw [refused]
    exact keyed
  · rw [accepted]
    refine Keyed.of_unmoved ?_ (unmoved_announce _ _ _)
    refine keyed_setSort keyed sort (Table.distinct_store (keyed.distinct sort) _ _) ?_
    intro entry member
    rcases Table.mem_store member with earlier | ⟨sameHandle, sameKey⟩
    · exact keyed.owned sort entry earlier
    · refine ⟨plugin, by rw [sameHandle]; exact present, ?_⟩
      rcases sameKey with alike | equal
      · exact alike
      · rw [equal]
        exact beq_self_eq_true _

theorem keyed_unregisterPlugin (keyed : state.Keyed) (id : Value) (sort : PluginSort) :
    (state.unregisterPlugin id sort).1.Keyed := by
  rcases unregisterPlugin_cases state id sort with ⟨outcome, refused, -⟩ | accepted
  · rw [refused]
    exact keyed
  · rw [accepted]
    have kept := Table.remove_sublist id (state.registered.ofSort sort)
    refine Keyed.of_unmoved ?_ (unmoved_announce _ _ _)
    exact keyed_setSort keyed sort ((keyed.distinct sort).sublist kept)
      fun entry member => keyed.owned sort entry (kept.subset member)

/-- Plugins that nobody registered yet can be added at the end. -/
theorem Keyed.of_appended {before after : Dispatcher} (keyed : before.Keyed)
    {added : List Plugin} (plugins : after.plugins = before.plugins ++ added)
    (registered : after.registered = before.registered) : after.Keyed where
  distinct := by
    rw [registered]
    exact keyed.distinct
  owned := by
    intro sort entry member
    rw [registered] at member
    obtain ⟨own, present, same⟩ := keyed.owned sort entry member
    have earlier : entry.2 < before.plugins.length := (List.getElem?_eq_some_iff.mp present).1
    refine ⟨own, ?_, same⟩
    rw [plugin?, plugins, List.getElem?_append_left earlier]
    exact present

theorem keyed_addPlugin (keyed : state.Keyed) (plugin : Plugin) :
    (state.addPlugin plugin).1.Keyed :=
  keyed.of_appended rfl rfl

theorem keyed_setPlugin (keyed : state.Keyed) {handle : Nat} {old new : Plugin}
    (present : state.plugin? handle = some old) (same : new.id = old.id) :
    (state.setPlugin handle new).Keyed where
  distinct := keyed.distinct
  owned := by
    intro sort entry member
    obtain ⟨own, found, alike⟩ := keyed.owned sort entry member
    by_cases replaced : handle = entry.2
    · subst replaced
      have bound : entry.2 < state.plugins.length := (List.getElem?_eq_some_iff.mp found).1
      have sameOwner : own = old := Option.some.inj (found.symm.trans present)
      refine ⟨new, List.getElem?_set_self bound, ?_⟩
      rw [same, ← sameOwner]
      exact alike
    · refine ⟨own, ?_, alike⟩
      exact (List.getElem?_set_ne replaced).trans found

/-- The plugin that answers for an id is the internal one of the id, if there is one. -/
theorem find?_of_internal (keyed : state.Keyed) {entry : Value × Nat}
    (member : entry ∈ state.registered.internal) {id : Value} (same : (entry.1 == id) = true) :
    state.registered.find? id = some entry.2 := by
  have found : Table.lookup entry.1 state.registered.internal = some entry.2 :=
    Table.lookup_of_mem (keyed.distinct .internal) member
  simp only [PluginTables.find?]
  rw [← Table.lookup_congr same, found]
  rfl

theorem find?_of_external (keyed : state.Keyed) {entry : Value × Nat}
    (member : entry ∈ state.registered.external) {id : Value} (same : (entry.1 == id) = true)
    (unshadowed : Table.lookup id state.registered.internal = none) :
    state.registered.find? id = some entry.2 := by
  have found : Table.lookup entry.1 state.registered.external = some entry.2 :=
    Table.lookup_of_mem (keyed.distinct .external) member
  simp only [PluginTables.find?]
  rw [unshadowed, ← Table.lookup_congr same, found]
  rfl

end ChatDispatch.Dispatcher
