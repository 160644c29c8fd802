import ChatDispatch.Proofs.Dispatcher.Qualifying
import ChatDispatch.Proofs.Plugin

/-!
# Loading plugins

What a load creates depends on the files, on the modules that are cached and on how many
callables there have been, and not on the rest of the dispatcher.  `Loading` is this part of
it, with the plugins created so far; a load appends them to the plugins of the dispatcher.
-/

namespace ChatDispatch

/-- How far a load has got: the cached modules, the number of callables so far and the plugins
that have been created. -/
structure Loading where
  modules : ModuleCache
  nextCallable : Nat
  created : List Plugin

namespace Loading

/-- Goes on with a script.  A plugin is created if the script can be imported and has a factory
that succeeds. -/
def script (reload : Bool) (files : FileTree) (loading : Loading) (script : ScriptFile) :
    Loading :=
  let (modules, outcome) :=
    loading.modules.load script.location script.source none reload (script.node files)
  match outcome with
  | .error _ => { loading with modules }
  | .ok module =>
      match module.content with
      | .factory blueprint width _ none =>
          { modules
            nextCallable := loading.nextCallable + width
            created := loading.created ++
              (blueprint.shift loading.nextCallable).build.toOption.toList }
      | _ => { loading with modules }

def scripts (reload : Bool) (files : FileTree) (loading : Loading) (scripts : List ScriptFile) :
    Loading :=
  scripts.foldl (script reload files) loading

end Loading

namespace Dispatcher

def loading (state : Dispatcher) : Loading :=
  ⟨state.modules, state.nextCallable, []⟩

/-- A dispatcher that a load has got so far with. -/
def grown (state : Dispatcher) (loading : Loading) : Dispatcher :=
  { state with
    modules := loading.modules
    nextCallable := loading.nextCallable
    plugins := state.plugins ++ loading.created }

variable {state : Dispatcher} {loading : Loading} {reload : Bool}

theorem grown_loading (state : Dispatcher) : state.grown state.loading = state := by
  simp only [grown, Dispatcher.loading, List.append_nil]

/-- The handles of new plugins are the numbers that come next. -/
def newHandles (state : Dispatcher) (loading : Loading) (more : List Plugin) : List Nat :=
  List.range' (state.plugins.length + loading.created.length) more.length

theorem loadScript_grown (reload : Bool) (state : Dispatcher) (loading : Loading)
    (script : ScriptFile) :
    ∃ more handle,
      (loading.script reload state.files script).created = loading.created ++ more ∧
        handle.toList = state.newHandles loading more ∧
        loadScript reload (state.grown loading) script =
          (state.grown (loading.script reload state.files script), handle) := by
  unfold loadScript Loading.script
  rcases loaded : loading.modules.load script.location script.source none reload
    (script.node state.files) with ⟨modules, fault | module⟩
  · exact ⟨[], none, by simp [grown, loaded, newHandles]⟩
  · cases content : module.content with
    | empty => exact ⟨[], none, by simp [grown, loaded, content, newHandles]⟩
    | notCallable => exact ⟨[], none, by simp [grown, loaded, content, newHandles]⟩
    | factory blueprint width importFailure factoryFailure =>
        cases factoryFailure with
        | some failure => exact ⟨[], none, by simp [grown, loaded, content, newHandles]⟩
        | none =>
            cases built : (blueprint.shift loading.nextCallable).build with
            | error fault =>
                refine ⟨[], none, ?_⟩
                simp [grown, loaded, content, newHandles, Dispatcher.build, built, Except.toOption]
            | ok plugin =>
                refine ⟨[plugin], some (state.plugins.length + loading.created.length), ?_⟩
                simp [grown, loaded, content, newHandles, Dispatcher.build, built, addPlugin,
                  Except.toOption, List.append_assoc]

theorem loadScripts_grown (reload : Bool) (state : Dispatcher) (loading : Loading)
    (scripts : List ScriptFile) :
    ∃ more,
      (loading.scripts reload state.files scripts).created = loading.created ++ more ∧
        loadScripts reload (state.grown loading) scripts =
          (state.grown (loading.scripts reload state.files scripts),
            state.newHandles loading more) := by
  induction scripts generalizing loading with
  | nil => exact ⟨[], (List.append_nil _).symm, rfl⟩
  | cons script rest induction =>
      obtain ⟨first, handle, created, handles, loaded⟩ :=
        loadScript_grown reload state loading script
      obtain ⟨others, createdRest, loadedRest⟩ :=
        induction (loading.script reload state.files script)
      refine ⟨first ++ others, ?_, ?_⟩
      · rw [Loading.scripts, List.foldl_cons]
        exact createdRest.trans (by rw [created, List.append_assoc])
      · rw [loadScripts, loaded]
        simp only [loadedRest]
        rw [handles]
        refine Prod.ext rfl ?_
        simp only [newHandles, created, List.length_append, ← List.range'_append_1, Nat.add_assoc]

theorem scripts_append (files : FileTree) (loading : Loading) (first second : List ScriptFile) :
    loading.scripts reload files (first ++ second) =
      (loading.scripts reload files first).scripts reload files second :=
  List.foldl_append

/-- A load under paths goes on with scripts.  It comes to its end if all scripts under the paths
can be found, and has gone on with these scripts then. -/
theorem loadUnder_grown (reload : Bool) (state : Dispatcher) (loading : Loading)
    (paths : List Value) :
    ∃ scripts more,
      (loading.scripts reload state.files scripts).created = loading.created ++ more ∧
        loadUnder reload (state.grown loading) paths =
          (state.grown (loading.scripts reload state.files scripts),
            (ScriptFile.underAll state.files paths).map fun _ => state.newHandles loading more) ∧
        ∀ all, ScriptFile.underAll state.files paths = .ok all → all = scripts := by
  induction paths generalizing loading with
  | nil =>
      refine ⟨[], [], (List.append_nil _).symm, rfl, fun all same => ?_⟩
      cases same
      rfl
  | cons path rest induction =>
      cases path with
      | text text =>
          cases under : ScriptFile.under state.files text with
          | error fault =>
              have found : ScriptFile.under (state.grown loading).files text = .error fault := under
              refine ⟨[], [], (List.append_nil _).symm, ?_, ?_⟩
              · simp only [loadUnder, found, ScriptFile.underAll, under]
                rfl
              · intro all same
                rw [ScriptFile.underAll, under] at same
                cases same
          | ok scripts =>
              have found : ScriptFile.under (state.grown loading).files text = .ok scripts := under
              obtain ⟨first, created, loaded⟩ :=
                loadScripts_grown reload state loading scripts
              obtain ⟨later, more, createdRest, loadedRest, listed⟩ :=
                induction (loading.scripts reload state.files scripts)
              refine ⟨scripts ++ later, first ++ more, ?_, ?_, ?_⟩
              · rw [scripts_append, createdRest, created, List.append_assoc]
              · rw [scripts_append]
                simp only [loadUnder, found, loaded, loadedRest, ScriptFile.underAll, under]
                refine Prod.ext rfl ?_
                cases ScriptFile.underAll state.files rest with
                | error fault => rfl
                | ok others =>
                    simp only [Except.map, newHandles, created, List.length_append,
                      ← List.range'_append_1, Nat.add_assoc]
              · intro all same
                rw [ScriptFile.underAll, under] at same
                cases others : ScriptFile.underAll state.files rest with
                | error fault =>
                    rw [others] at same
                    cases same
                | ok found =>
                    rw [others] at same
                    rw [← Except.ok.inj same, listed found others]
      | _ => exact ⟨[], [], (List.append_nil _).symm, rfl, fun _ same => by cases same⟩

theorem loadUnder_cases (reload : Bool) (state : Dispatcher) (paths : List Value) :
    ∃ scripts,
      let reached := state.loading.scripts reload state.files scripts
      loadUnder reload state paths =
          (state.grown reached,
            (ScriptFile.underAll state.files paths).map fun _ =>
              List.range' state.plugins.length reached.created.length) ∧
        ∀ all, ScriptFile.underAll state.files paths = .ok all → all = scripts := by
  obtain ⟨scripts, more, created, loaded, listed⟩ :=
    loadUnder_grown reload state state.loading paths
  rw [grown_loading] at loaded
  refine ⟨scripts, ?_, listed⟩
  rw [loaded, created]
  rfl

theorem isConsistent_created (reload : Bool) (files : FileTree) {loading : Loading}
    (consistent : ∀ plugin ∈ loading.created, plugin.IsConsistent) (scripts : List ScriptFile) :
    ∀ plugin ∈ (loading.scripts reload files scripts).created, plugin.IsConsistent := by
  induction scripts generalizing loading with
  | nil => exact consistent
  | cons script rest induction =>
      refine induction ?_
      unfold Loading.script
      dsimp only
      split
      · exact consistent
      · split
        · intro plugin member
          rcases List.mem_append.mp member with earlier | new
          · exact consistent plugin earlier
          · rename_i blueprint _ _ _
            cases built : (blueprint.shift loading.nextCallable).build with
            | error fault =>
                rw [built] at new
                cases new
            | ok made =>
                rw [built] at new
                cases List.mem_singleton.mp new
                exact Blueprint.isConsistent_of_build built
        · exact consistent

/-- All external plugins are removed, if their ids can be keys. -/
theorem unmoved_unregisterExternals
    (keys : ∀ entry ∈ state.registered.external, entry.1.isKey = true) :
    Unmoved (state.withExternals []) state.unregisterExternals := by
  suffices removed : ∀ (ids : List Value) (state : Dispatcher),
      (∀ entry ∈ state.registered.external, ∃ id ∈ ids, (entry.1 == id) = true) →
      (∀ id ∈ ids, id.isKey = true) →
        Unmoved (state.withExternals [])
          (ids.foldl (fun state id => (state.unregisterPlugin id .external).1) state) by
    refine removed _ state (fun entry member => ?_) (List.forall_mem_map.mpr keys)
    exact ⟨entry.1, List.mem_map_of_mem member, BEq.rfl⟩
  intro ids
  induction ids with
  | nil =>
      intro state covered _
      have empty : state.registered.external = [] := by
        rw [List.eq_nil_iff_forall_not_mem]
        intro entry member
        obtain ⟨_, absurdity, -⟩ := covered entry member
        cases absurdity
      have unchanged : state.withExternals [] = state := by
        rw [withExternals, ← empty]
        rfl
      rw [unchanged]
      exact .refl state
  | cons id rest induction =>
      intro state covered keys
      obtain ⟨keyed, keysRest⟩ := List.forall_mem_cons.mp keys
      have first : Unmoved (state.withExternals (Table.remove id state.registered.external))
          (state.unregisterPlugin id .external).1 := by
        have table : state.registered.ofSort .external = state.registered.external := rfl
        cases holds : Table.holds id state.registered.external with
        | false =>
            rw [Table.remove_of_not_holds holds]
            simp only [unregisterPlugin, table, keyed, holds, Bool.not_true, Bool.not_false,
              Bool.false_eq_true, if_false, if_true]
            exact .refl state
        | true =>
            simp only [unregisterPlugin, table, keyed, holds, Bool.not_true,
              Bool.false_eq_true, if_false]
            exact unmoved_announce .pluginUnregistered (pluginPayload id .external) _
      have external : (state.unregisterPlugin id .external).1.registered.external =
          Table.remove id state.registered.external := by
        rw [first.registered]
        rfl
      have left : ∀ entry ∈ (state.unregisterPlugin id .external).1.registered.external,
          ∃ other ∈ rest, (entry.1 == other) = true := by
        intro entry member
        rw [external, Table.remove_eq_filter, List.mem_filter] at member
        obtain ⟨other, listed, same⟩ := covered entry member.1
        rcases List.mem_cons.mp listed with rfl | later
        · rw [same] at member
          cases member.2
        · exact ⟨other, later, same⟩
      rw [List.foldl_cons]
      exact (unmoved_withExternals first []).trans (induction _ left keysRest)

def scriptsUnder (state : Dispatcher) (paths : Value) : Except Fault (List ScriptFile) :=
  (Declaration.itemsOf (paths.orElse (.list []))).bind (ScriptFile.underAll state.files)

/-- The plugins that the scripts under some paths create. -/
def creations (state : Dispatcher) (paths : Value) (reload : Bool) : List Plugin :=
  match state.scriptsUnder paths with
  | .error _ => []
  | .ok scripts =>
      (state.unregisterExternals.loading.scripts reload state.files scripts).created

/-- A property that external plugins may come and go with. -/
structure AdmitsExternals (holds : Dispatcher → Prop) : Prop where
  register : ∀ {state : Dispatcher} (handle : Option Nat),
    holds state → holds (state.registerPlugin handle .external).1
  unregister : ∀ {state : Dispatcher} (id : Value),
    holds state → holds (state.unregisterPlugin id .external).1
  grown : ∀ {state : Dispatcher} (loading : Loading),
    (∀ plugin ∈ loading.created, plugin.IsConsistent) → holds state → holds (state.grown loading)

namespace AdmitsExternals

variable {holds : Dispatcher → Prop}

theorem unregisterExternals (admits : AdmitsExternals holds) (before : holds state) :
    holds state.unregisterExternals :=
  List.foldlRecOn _ _ before fun _ before id _ => admits.unregister id before

theorem loadUnder (admits : AdmitsExternals holds) (reload : Bool) (paths : List Value)
    (before : holds state) : holds (Dispatcher.loadUnder reload state paths).1 := by
  obtain ⟨scripts, loaded, -⟩ := loadUnder_cases reload state paths
  rw [loaded]
  exact admits.grown _ (isConsistent_created reload _ (fun _ member => by cases member) scripts)
    before

theorem registerLoaded (admits : AdmitsExternals holds) (handles : List Nat)
    (before : holds state) : holds (state.registerLoaded handles).1 := by
  induction handles generalizing state with
  | nil => exact before
  | cons handle rest induction =>
      have registered := admits.register (some handle) before
      rw [Dispatcher.registerLoaded]
      split
      · exact before
      · exact induction before
      · split
        · rename_i stopped fault failed
          rw [failed] at registered
          exact registered
        · rename_i next flag accepted
          rw [accepted] at registered
          exact induction registered

theorem loadExternal (admits : AdmitsExternals holds) (paths : Value) (reload : Bool)
    (before : holds state) : holds (state.loadExternal paths reload).1 := by
  have cleared := admits.unregisterExternals before
  unfold Dispatcher.loadExternal
  dsimp only
  split
  · exact cleared
  · rename_i items _
    have loaded := admits.loadUnder reload items cleared
    split
    · rename_i failed
      rw [failed] at loaded
      exact loaded
    · rename_i next handles came
      rw [came] at loaded
      have registered := admits.registerLoaded handles loaded
      split
      · rename_i failed
        rw [failed] at registered
        exact registered
      · rename_i ended
        rw [ended] at registered
        exact registered

end AdmitsExternals

/-- A property that plugins may come and go with. -/
structure Admits (holds : Dispatcher → Prop) : Prop where
  register : ∀ {state : Dispatcher} (handle : Option Nat) (sort : PluginSort),
    holds state → holds (state.registerPlugin handle sort).1
  unregister : ∀ {state : Dispatcher} (id : Value) (sort : PluginSort),
    holds state → holds (state.unregisterPlugin id sort).1
  grown : ∀ {state : Dispatcher} (loading : Loading),
    (∀ plugin ∈ loading.created, plugin.IsConsistent) → holds state → holds (state.grown loading)

theorem Admits.loadExternal {holds : Dispatcher → Prop} (admits : Admits holds) (paths : Value)
    (reload : Bool) (before : holds state) : holds (state.loadExternal paths reload).1 := by
  have externals : AdmitsExternals holds :=
    ⟨fun handle => admits.register handle .external, fun id => admits.unregister id .external,
      admits.grown⟩
  exact externals.loadExternal paths reload before

/-- How new plugins are registered: under their ids, with the handles that come next. -/
def registrations (first : Nat) (created : List Plugin) : List (Value × Nat) :=
  created.mapIdx fun index plugin => (plugin.id, first + index)

/-- A load removes the external plugins.  Unless its paths are at fault, it appends what their
scripts create to the plugins, and registers the plugins before the first one at fault. -/
theorem loadExternal_ends (keys : ∀ entry ∈ state.registered.external, entry.1.isKey = true)
    (paths : Value) (reload : Bool) :
    (∃ fault after, state.scriptsUnder paths = .error fault ∧
      state.loadExternal paths reload = (after, .error fault) ∧
        after.registered = ⟨state.registered.internal, []⟩) ∨
    ∃ scripts after, state.scriptsUnder paths = .ok scripts ∧
      state.loadExternal paths reload =
        (after,
          match (state.creations paths reload).findSome? Plugin.fault? with
          | none => .ok after.registered.external.length
          | some fault => .error fault) ∧
      after.plugins = state.plugins ++ state.creations paths reload ∧
      after.registered =
        ⟨state.registered.internal,
          Table.firstOfEach
            (candidates state.plugins.length (beforeFault (state.creations paths reload)))⟩ := by
  have cleared := unmoved_unregisterExternals keys
  have files : state.unregisterExternals.files = state.files := by
    rw [cleared.frame]
    rfl
  have plugins : state.unregisterExternals.plugins = state.plugins := cleared.plugins
  have registered : state.unregisterExternals.registered = ⟨state.registered.internal, []⟩ := by
    rw [cleared.registered]
    rfl
  unfold loadExternal creations scriptsUnder
  dsimp only
  cases Declaration.itemsOf (paths.orElse (.list [])) with
  | error fault => exact .inl ⟨fault, _, rfl, rfl, registered⟩
  | ok items =>
      obtain ⟨scripts, came, listed⟩ := loadUnder_cases reload state.unregisterExternals items
      rw [files, plugins] at came
      rw [files] at listed
      dsimp only [Except.bind]
      rw [came]
      cases found : ScriptFile.underAll state.files items with
      | error fault => exact .inl ⟨fault, _, rfl, rfl, registered⟩
      | ok all =>
          obtain rfl := listed all found
          let reached := state.unregisterExternals.loading.scripts reload state.files all
          have appended : (state.unregisterExternals.grown reached).plugins =
              state.plugins ++ reached.created := by
            rw [grown, plugins]
          have external : (state.unregisterExternals.grown reached).registered.external = [] := by
            rw [grown, registered]
          obtain ⟨after, ended, unmoved⟩ := registerLoaded_ends appended
          rw [external, Table.extend_nil_left] at unmoved
          refine .inr ⟨all, after, rfl, ?_, unmoved.plugins.trans appended, ?_⟩
          · simp only [Except.map]
            rw [ended]
            cases reached.created.findSome? Plugin.fault? <;> rfl
          · rw [unmoved.registered, withExternals, grown, registered]
            rfl

end Dispatcher

end ChatDispatch
