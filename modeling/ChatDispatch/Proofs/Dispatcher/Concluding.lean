import ChatDispatch.Dispatcher.Plugins
import ChatDispatch.Proofs.Dispatcher.FirstWins

/-!
# Rebuilding from what was read before

A source that suspends may have read the plugins some time before the tables are rebuilt from
them.  So the end of a refresh is told here for any plugins, as long as each of them is known:
it has been built, and its id can be a key.  Starting plugins and building new ones does not
change what the known ones offer.
-/

namespace ChatDispatch

open CommandTables

/-- Every declaration either has no name, or is a command whose name can be a key. -/
def Plugin.IsNormalizable (plugin : Plugin) : Prop :=
  ∀ declarations, plugin.declarations = .ok declarations →
    ∀ declaration ∈ declarations,
      (∃ shown, declaration.normalize = .error (.namelessDeclaration shown)) ∨
        ∃ command, declaration.normalize = .ok command ∧ command.name.isKey = true

namespace Dispatcher

/-- A handle of a plugin whose id can be a key. -/
def Known (plugins : List Plugin) (handle : Nat) : Prop :=
  ∃ plugin, plugins[handle]? = some plugin ∧ plugin.id.isKey = true

/-- Plugins are added, and none changes what it offers or whether it is switched on. -/
def KeepsOffers (before after : List Plugin) : Prop :=
  ∀ (handle : Nat) (plugin : Plugin), before[handle]? = some plugin →
    ∃ same : Plugin, after[handle]? = some same ∧ same.id = plugin.id ∧
      same.isEnabled = plugin.isEnabled ∧ same.declarations = plugin.declarations

def tablesOf (plugins : List Plugin) (handles : List Nat) : CommandTables :=
  ofEntries (Ledger.ofReadings (handles.flatMap (readingsOf plugins))).entries

variable {state : Dispatcher}

theorem isSound_of_known {plugins : List Plugin}
    (normalizable : ∀ plugin ∈ plugins, plugin.IsNormalizable) {handle : Nat}
    (known : Known plugins handle) :
    ∀ reading ∈ readingsOf plugins handle, reading.isSound = true := by
  obtain ⟨plugin, present, keyed⟩ := known
  have member : plugin ∈ plugins := List.mem_of_getElem? present
  intro reading read
  simp only [readingsOf, present] at read
  cases listed : plugin.declarations with
  | error fault =>
      simp only [listed, List.mem_singleton] at read
      rw [read]
      rfl
  | ok declarations =>
      simp only [listed, List.mem_map] at read
      obtain ⟨declaration, declared, rfl⟩ := read
      apply Reading.isSound_declared_iff.mpr
      rcases normalizable plugin member declarations listed declaration declared with
        nameless | ⟨command, normal, nameKeyed⟩
      · exact .inl nameless
      · refine .inr ⟨command, normal, fun _ => ?_⟩
        rw [keyed, nameKeyed]
        rfl

theorem isSound_of_forall_known {plugins : List Plugin}
    (normalizable : ∀ plugin ∈ plugins, plugin.IsNormalizable) {handles : List Nat}
    (known : ∀ handle ∈ handles, Known plugins handle) :
    ∀ reading ∈ handles.flatMap (readingsOf plugins), reading.isSound = true := by
  intro reading member
  obtain ⟨handle, listed, read⟩ := List.mem_flatMap.mp member
  exact isSound_of_known normalizable (known handle listed) reading read

namespace KeepsOffers

variable {before after : List Plugin} {handle : Nat}

theorem refl (plugins : List Plugin) : KeepsOffers plugins plugins :=
  fun _ plugin present => ⟨plugin, present, rfl, rfl, rfl⟩

theorem known (keeps : KeepsOffers before after) (known : Known before handle) :
    Known after handle := by
  obtain ⟨plugin, present, keyed⟩ := known
  obtain ⟨same, kept, sameId, -, -⟩ := keeps handle plugin present
  exact ⟨same, kept, sameId ▸ keyed⟩

theorem readingsOf_eq (keeps : KeepsOffers before after) (known : Known before handle) :
    readingsOf after handle = readingsOf before handle := by
  obtain ⟨plugin, present, -⟩ := known
  obtain ⟨same, kept, sameId, -, sameDeclarations⟩ := keeps handle plugin present
  simp only [readingsOf, present, kept, sameId, sameDeclarations]

theorem tablesOf_eq (keeps : KeepsOffers before after) {handles : List Nat}
    (known : ∀ handle ∈ handles, Known before handle) :
    tablesOf after handles = tablesOf before handles := by
  have same : handles.flatMap (readingsOf after) = handles.flatMap (readingsOf before) := by
    rw [List.flatMap_def, List.flatMap_def]
    exact congrArg List.flatten
      (List.map_congr_left fun handle member => keeps.readingsOf_eq (known handle member))
  simp only [tablesOf, same]

end KeepsOffers

theorem enabledHandles_of_keepsOffers {before after : Dispatcher}
    (keeps : KeepsOffers before.plugins after.plugins)
    (registered : after.registered = before.registered)
    (known : ∀ handle ∈ before.pluginHandles, Known before.plugins handle) :
    after.enabledHandles = before.enabledHandles := by
  have sameHandles : after.pluginHandles = before.pluginHandles := by
    simp only [pluginHandles, registered]
  rw [enabledHandles, sameHandles, enabledHandles]
  apply List.filter_congr
  intro handle member
  obtain ⟨plugin, present, -⟩ := known handle member
  obtain ⟨same, kept, -, sameEnabled, -⟩ := keeps handle plugin present
  simp only [isEnabled, plugin?, present, kept, Option.any_some, sameEnabled]

theorem keepsOffers_addPlugin (state : Dispatcher) (plugin : Plugin) :
    KeepsOffers state.plugins (state.addPlugin plugin).1.plugins := by
  intro handle own present
  have earlier : handle < state.plugins.length := (List.getElem?_eq_some_iff.mp present).1
  exact ⟨own, (List.getElem?_append_left earlier).trans present, rfl, rfl, rfl⟩

theorem started_of_start {plugin started : Plugin} (start : plugin.start = .ok started) :
    started = { plugin with ready := .bool true } := by
  unfold Plugin.start at start
  split at start
  · cases start
    rfl
  · split at start
    · cases start
    · cases start
      rfl

theorem startPlugin_cases (state : Dispatcher) (handle : Nat) :
    (state.startPlugin handle).1 = state ∨
      ∃ plugin, state.plugin? handle = some plugin ∧
        (state.startPlugin handle).1 =
          state.setPlugin handle { plugin with ready := .bool true } := by
  unfold startPlugin
  split
  · exact .inl rfl
  · rename_i plugin present
    split
    · exact .inl rfl
    · rename_i started start
      exact .inr ⟨plugin, present, by rw [started_of_start start]⟩

theorem keepsOffers_startPlugin (state : Dispatcher) (handle : Nat) :
    KeepsOffers state.plugins (state.startPlugin handle).1.plugins := by
  rcases startPlugin_cases state handle with same | ⟨plugin, present, started⟩
  · rw [same]
    exact .refl _
  · rw [started]
    intro other own found
    by_cases replaced : handle = other
    · subst replaced
      have bound : handle < state.plugins.length := (List.getElem?_eq_some_iff.mp found).1
      obtain rfl : plugin = own := Option.some.inj (present.symm.trans found)
      exact ⟨_, List.getElem?_set_self bound, rfl, rfl, rfl⟩
    · exact ⟨own, (List.getElem?_set_ne replaced).trans found, rfl, rfl, rfl⟩

theorem isNormalizable_startPlugin
    (normalizable : ∀ plugin ∈ state.plugins, plugin.IsNormalizable) (handle : Nat) :
    ∀ plugin ∈ (state.startPlugin handle).1.plugins, plugin.IsNormalizable := by
  rcases startPlugin_cases state handle with same | ⟨own, present, started⟩
  · rw [same]
    exact normalizable
  · rw [started]
    intro plugin member
    rcases List.mem_or_eq_of_mem_set member with earlier | rfl
    · exact normalizable plugin earlier
    · exact normalizable own (List.mem_of_getElem? present)

/-- Rebuilds the tables from the given plugins, releases the lock and tells the outcome. -/
def concludeFrom (handles : List Nat) (party : Party) (state : Dispatcher) : Dispatcher :=
  match state.rebuild handles with
  | (stopped, .error fault) => tell party (.error fault) stopped.release
  | (rebuilt, .ok count) => tell party (.ok count) (announce .commandsChanged [] rebuilt.release)

theorem conclude_eq_concludeFrom (party : Party) (state : Dispatcher) :
    conclude party state = concludeFrom state.enabledHandles party state :=
  rfl

theorem answer_eq_concludeFrom (party : Party) (answers : state.sourceFailure = none) :
    answer party state = concludeFrom state.enabledHandles party state := by
  rw [answer, answers]
  exact conclude_eq_concludeFrom party state

/-- A rebuild from plugins that read without a fault comes to its end, with their first-wins
tables unless listeners add commands. -/
theorem rebuild_makes_tablesOf (follows : state.FollowsPlugins) {handles : List Nat}
    (sound : ∀ reading ∈ handles.flatMap (readingsOf state.plugins), reading.isSound = true) :
    ∃ done : Rebuild,
      state.rebuild handles = (done.result, .ok done.count) ∧
        Grows state.cleared done.state ∧
        (state.Quiet → done.state.tables = tablesOf state.plugins handles) := by
  obtain ⟨done, steps, rebuilt⟩ := rebuild_of_sound follows sound
  have start : Grows state.cleared (Rebuild.start state).state := grows_start follows
  refine ⟨done, rebuilt, ?_, fun quiet => ?_⟩
  · exact start.trans (Rebuild.grows_of_steps steps (start.followsPlugins follows))
  · exact (mirrors_of_steps (mirrors_start follows quiet) steps).tables

/-- A refresh from the given plugins has come to its end. -/
structure Concluded (handles : List Nat) (party : Party) (before after : Dispatcher) : Prop where
  frame :
    after =
      { before with
        tables := after.tables
        failures := after.failures
        needsRefresh := false
        subscriptions := after.subscriptions
        deliveries := after.deliveries
        scheduler := after.scheduler
        nextCallable := after.nextCallable }
  tables : before.Quiet → after.tables = tablesOf before.plugins handles
  scheduler : ∃ outcome, after.scheduler = before.scheduler.release.tell party outcome
  leaves : Leaves before.subscriptions after.subscriptions

theorem concluded_concludeFrom (follows : state.FollowsPlugins) {handles : List Nat}
    (sound : ∀ reading ∈ handles.flatMap (readingsOf state.plugins), reading.isSound = true)
    (party : Party) : Concluded handles party state (concludeFrom handles party state) := by
  obtain ⟨done, rebuilt, grows, tables⟩ := rebuild_makes_tablesOf follows sound
  let released := done.result.release
  have told : Told released (announce .commandsChanged [] released) :=
    told_announce (by decide) [] (grows.followsPlugins follows)
  have concluded : concludeFrom handles party state =
      tell party (.ok done.count) (announce .commandsChanged [] released) := by
    rw [concludeFrom, rebuilt]
  rw [concluded]
  exact {
    frame := by
      rw [tell, reschedule, told.frame]
      simp only [released, release, reschedule, Rebuild.result]
      rw [grows.frame]
      rfl
    tables := by
      intro quiet
      have silent : released.Quiet := grows.quiet quiet
      exact (tables_announce_of_quiet (by decide) [] silent).trans (tables quiet)
    scheduler := by
      refine ⟨.ok done.count, ?_⟩
      rw [tell, reschedule, told.scheduler]
      simp only [released, release, reschedule, Rebuild.result, grows.scheduler]
      rfl
    leaves := grows.leaves.trans told.leaves }

namespace Concluded

variable {handles : List Nat} {party : Party} {before after : Dispatcher}

theorem plugins (concluded : Concluded handles party before after) :
    after.plugins = before.plugins := by
  rw [concluded.frame]

theorem registered (concluded : Concluded handles party before after) :
    after.registered = before.registered := by
  rw [concluded.frame]

theorem source (concluded : Concluded handles party before after) :
    after.source = before.source := by
  rw [concluded.frame]

theorem sourceFailure (concluded : Concluded handles party before after) :
    after.sourceFailure = before.sourceFailure := by
  rw [concluded.frame]

theorem hasLoop (concluded : Concluded handles party before after) :
    after.hasLoop = before.hasLoop := by
  rw [concluded.frame]

end Concluded

end Dispatcher

end ChatDispatch
