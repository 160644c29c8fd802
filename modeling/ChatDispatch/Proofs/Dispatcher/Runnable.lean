import ChatDispatch.Dispatcher.Execute
import ChatDispatch.Proofs.CommandLine.Parsed
import ChatDispatch.Proofs.Dispatcher.FirstWins
import ChatDispatch.Proofs.Dispatcher.FrontEnd
import ChatDispatch.Proofs.Dispatcher.Offering

/-!
# Loaded plugins can be run

Plugins are loaded in stages: the old external plugins go, scripts are run, new plugins are
registered and started, scheduled refreshes end and the tables are refreshed once more.  Each
stage leaves alone what the others have done, so that in the end every command of an enabled
plugin is in the tables and can be run.
-/

namespace ChatDispatch

/-- A plugin that has been started, if it could be. -/
def Plugin.started (plugin : Plugin) : Plugin :=
  match plugin.start with
  | .ok started => started
  | .error _ => plugin

namespace Dispatcher

variable {state before after : Dispatcher}

/-- A text after an at sign goes to the plugin of the agent in front of its colon. -/
theorem executeText_at (state : Dispatcher) {id : String} (plain : ':' ∉ id.toList)
    (name : String) (arguments : List Value) (flags : Entries) :
    state.executeText ("@" ++ id ++ ":" ++ name) arguments flags =
      state.runAgent (.text id) (.text name) arguments := by
  have letters : ("@" ++ id ++ ":" ++ name).toList =
      '@' :: (id.toList ++ ':' :: name.toList) := by
    simp [String.toList_append]
  have split : splitId (String.ofList (id.toList ++ ':' :: name.toList)) = (id, name) := by
    simp only [splitId, String.toList_ofList, CommandLine.cut_append plain, String.ofList_toList]
  simp only [executeText, letters, List.drop_succ_cons, List.drop_zero, split, leadOf, execute]
  rfl

theorem runAgent_of_ready {agent : Value} {handle : Nat} {plugin : Plugin}
    (key : agent.isKey = true) (answers : state.registered.find? agent = some handle)
    (present : state.plugin? handle = some plugin) (enabled : plugin.isEnabled = true)
    (ready : plugin.isReady = true) (command : Value) (arguments : List Value) :
    state.runAgent agent command arguments = state.runPlugin handle command (some arguments) := by
  have opens : state.passage agent = .open handle := by
    simp only [passage, key, agentPlugin?, answers, present, readyPassage, enabled, ready,
      Option.bind_some, Option.map_some, Bool.not_true, Bool.false_eq_true, if_false, if_true]
  rw [runAgent, opens]

/-- The calls that a managed plugin makes when it runs a command with arguments. -/
def callsOf (plugin : Plugin) (command : PluginCommand) (arguments : List Value) : List Call :=
  match plugin.body, command.runner with
  | .managed _, some (.onList (.callable callable _)) =>
      [.callable callable.number [.list arguments]]
  | .managed _, some (.onEach (.callable callable _)) => [.callable callable.number arguments]
  | _, _ => []

/-- What a managed plugin has declared is run once, and nothing else becomes of the state. -/
theorem runDeclared_frame {plugin : Plugin} {commands : List PluginCommand}
    (managed : plugin.body = .managed commands) (command : PluginCommand)
    (arguments : List Value) :
    (state.runDeclared command (some arguments)).1 =
      { state with calls := state.calls ++ callsOf plugin command arguments } := by
  simp only [runDeclared, callsOf, managed]
  rcases command.runner with - | ⟨target⟩ | ⟨target⟩
  · simp
  all_goals cases target <;> simp [callValue, call, noteCall, argumentValue]

theorem find?_of_namesDiffer {commands : List PluginCommand} (differ : NamesDiffer commands)
    {command : PluginCommand} (member : command ∈ commands)
    (proper : command.name.isNaN = false) :
    commands.find? (fun other => other.name.equals command.name) = some command := by
  induction commands with
  | nil => cases member
  | cons first rest induction =>
      obtain ⟨apart, differRest⟩ := List.pairwise_cons.mp differ
      rcases List.mem_cons.mp member with rfl | later
      · exact List.find?_cons_of_pos (Value.equals_self proper)
      · have different : first.name.equals command.name = false := apart command later
        rw [List.find?_cons_of_neg (by simp [different])]
        exact induction differRest later

/-- A regular plugin that runs one of its commands is called once, and calls what the command
runs once. -/
theorem calls_runPlugin {handle : Nat} {plugin : Plugin} (regular : plugin.IsRegular)
    (present : state.plugin? handle = some plugin) {command : PluginCommand}
    (declared : command ∈ plugin.commands) (arguments : List Value) :
    (state.runPlugin handle command.name (some arguments)).1.calls =
      state.calls ++ .plugin handle command.name (some arguments) ::
        callsOf plugin command arguments := by
  cases body : plugin.body with
  | managed commands =>
      have own := Plugin.commands_of_managed body
      have found : plugin.find? command.name = some command := by
        simp only [Plugin.find?, body]
        rw [← own]
        exact find?_of_namesDiffer regular.distinct declared (regular.named command declared)
      simp only [runPlugin, present, body, found, runDeclared_frame body, noteCall,
        List.append_assoc, List.singleton_append]
  | foreign declarations conduct =>
      simp only [runPlugin, present, body, callsOf, noteCall]

/-- No internal plugin has the id of an external one. -/
def Unshadowed (state : Dispatcher) : Prop :=
  ∀ internal ∈ state.registered.internal, ∀ external ∈ state.registered.external,
    (internal.1 == external.1) = false

theorem pairwise_idsDiffer (keyed : state.Keyed) (unshadowed : state.Unshadowed) :
    state.enabledHandles.Pairwise state.IdsDiffer := by
  have keys : (state.registered.internal ++ state.registered.external).Pairwise
      fun left right => (left.1 == right.1) = false :=
    List.pairwise_append.mpr ⟨keyed.distinct .internal, keyed.distinct .external, unshadowed⟩
  have owned : ∀ entry ∈ state.registered.internal ++ state.registered.external,
      ∃ plugin, state.plugin? entry.2 = some plugin ∧ (entry.1 == plugin.id) = true := by
    intro entry member
    rcases List.mem_append.mp member with internal | external
    · exact keyed.owned .internal entry internal
    · exact keyed.owned .external entry external
  refine List.Pairwise.sublist List.filter_sublist (List.pairwise_map.mpr ?_)
  refine keys.imp_of_mem ?_
  intro left right leftMember rightMember apart plugin other found rival
  obtain ⟨own, present, same⟩ := owned left leftMember
  obtain ⟨otherOwn, otherPresent, otherSame⟩ := owned right rightMember
  obtain rfl : own = plugin := Option.some.inj (present.symm.trans found)
  obtain rfl : otherOwn = other := Option.some.inj (otherPresent.symm.trans rival)
  rw [← BEq.congr_left same, ← BEq.congr_right otherSame]
  exact apart

theorem find?_id (keyed : state.Keyed) (unshadowed : state.Unshadowed) {handle : Nat}
    (registered : handle ∈ state.pluginHandles) {plugin : Plugin}
    (present : state.plugin? handle = some plugin) :
    state.registered.find? plugin.id = some handle := by
  obtain ⟨sort, entry, member, rfl⟩ := mem_pluginHandles.mp registered
  obtain ⟨own, found, same⟩ := keyed.owned sort entry member
  obtain rfl : own = plugin := Option.some.inj (found.symm.trans present)
  cases sort with
  | internal => exact find?_of_internal keyed member same
  | external =>
      refine find?_of_external keyed member same (Table.lookup_eq_none_iff.mpr ?_)
      intro internal listed
      rw [← BEq.congr_right same]
      exact unshadowed internal listed entry member

/-- The text that names a command of a plugin runs it: the plugin is called once with it and
with the arguments, and calls what the command runs. -/
def RunsCommand (state : Dispatcher) (handle : Nat) (plugin : Plugin) (command : PluginCommand) :
    Prop :=
  ∀ id name, plugin.id = .text id → command.name = .text name → ∀ arguments flags,
    let ran := state.executeText ("@" ++ id ++ ":" ++ name) arguments flags
    ran = state.runPlugin handle command.name (some arguments) ∧
      ran.1.calls = state.calls ++ .plugin handle command.name (some arguments) ::
        callsOf plugin command arguments

/-- What a load that has created plugins leaves behind. -/
structure Loaded (before : Dispatcher) (created : List Plugin) (after : Dispatcher)
    (count : Nat) : Prop where
  /-- The external plugins are those that have been created. -/
  registered : after.registered =
    ⟨before.registered.internal, registrations before.plugins.length created⟩
  kept : ∀ index plugin, created[index]? = some plugin →
    after.plugin? (before.plugins.length + index) =
      some (if plugin.isEnabled then plugin.started else plugin)
  pending : after.scheduler.pending = 0
  current : after.needsRefresh = false
  stored : ∀ entry ∈ after.offers, Unclaimed before.subscriptions entry.agent entry.command →
    Unwithdrawn before.subscriptions entry.agent entry.command →
      Stores after.tables entry ∧
        (Undescribed before.subscriptions entry.agent entry.command →
          after.tables.usage? entry.agent entry.command = some entry.usage)
  counted : (∀ entry ∈ after.offers, Unclaimed before.subscriptions entry.agent entry.command) →
    count = after.offers.length
  runs : ∀ handle ∈ after.enabledHandles, ∀ plugin, after.plugin? handle = some plugin →
    (∃ started, plugin.start = .ok started) → ∀ command ∈ plugin.commands,
      after.RunsCommand handle plugin command

theorem needsRefresh_refresh (attached : state.Attached) {count : Nat}
    (refreshed : state.refresh.2 = .ok count) : state.refresh.1.needsRefresh = false := by
  rcases refresh_cases attached with
    ⟨done, steps, same⟩ | ⟨_, _, fault, _, _, -, -, same, -⟩
  · rw [same]
    exact (told_of_steps_start attached steps).needsRefresh
  · rw [same] at refreshed
    cases refreshed

theorem runsCommand_of_ready (keyed : state.Keyed) (unshadowed : state.Unshadowed)
    {handle : Nat} (enabled : handle ∈ state.enabledHandles) {plugin : Plugin}
    (present : state.plugin? handle = some plugin) (regular : plugin.IsRegular)
    (ready : plugin.isReady = true) {command : PluginCommand}
    (declared : command ∈ plugin.commands) : state.RunsCommand handle plugin command := by
  intro id name sameId sameName arguments flags
  obtain ⟨registered, on⟩ := List.mem_filter.mp enabled
  have enabled : plugin.isEnabled = true := by
    simpa only [isEnabled, present, Option.any_some] using on
  have plain : ':' ∉ id.toList := by
    obtain ⟨own, same, -, absent, -⟩ := regular.plain
    cases sameId.symm.trans same
    exact absent
  have answers := find?_id keyed unshadowed registered present
  rw [sameId] at answers
  have ran : state.executeText ("@" ++ id ++ ":" ++ name) arguments flags =
      state.runPlugin handle command.name (some arguments) := by
    rw [executeText_at state plain, sameName]
    exact runAgent_of_ready rfl answers present enabled ready _ _
  exact ⟨ran, ran ▸ calls_runPlugin regular present declared arguments⟩

/-- A refresh stores what regular plugins of different ids offer, and counts it. -/
theorem stores_refresh_of_regular (attached : state.Attached)
    (regular : ∀ handle ∈ state.enabledHandles, state.HasRegular handle)
    (differ : state.enabledHandles.Pairwise state.IdsDiffer) {count : Nat}
    (refreshed : state.refresh.2 = .ok count) :
    (∀ entry ∈ state.offers, Unclaimed state.subscriptions entry.agent entry.command →
      Unwithdrawn state.subscriptions entry.agent entry.command →
        Stores state.refresh.1.tables entry ∧
          (Undescribed state.subscriptions entry.agent entry.command →
            state.refresh.1.tables.usage? entry.agent entry.command = some entry.usage)) ∧
    ((∀ entry ∈ state.offers, Unclaimed state.subscriptions entry.agent entry.command) →
      count = state.offers.length) := by
  have rivalless := rivalless_offers regular differ
  rw [← offersOf_readings attached regular refreshed] at rivalless ⊢
  exact stores_refresh attached rivalless refreshed

theorem offers_congr (plugins : after.plugins = before.plugins)
    (registered : after.registered = before.registered) : after.offers = before.offers := by
  rw [offers, offers, enabledHandles_congr plugins registered]
  refine congrArg List.flatten (List.map_congr_left fun handle _ => ?_)
  simp only [offersOfPlugin, plugin?, plugins]

/-- What a load leaves for its last refresh. -/
structure Prepared (before : Dispatcher) (created : List Plugin) (after : Dispatcher) : Prop where
  composed : after.Composed
  leaves : after.subscriptions ⊆ before.subscriptions
  settled : after.scheduler.scheduled = []
  registered : after.registered =
    ⟨before.registered.internal, registrations before.plugins.length created⟩
  kept : ∀ index plugin, created[index]? = some plugin →
    after.plugin? (before.plugins.length + index) =
      some (if plugin.isEnabled then plugin.started else plugin)
  regular : ∀ handle ∈ after.pluginHandles, after.HasRegular handle
  ready : ∀ handle ∈ after.enabledHandles, ∀ plugin, after.plugin? handle = some plugin →
    ∀ started, plugin.start = .ok started → plugin.isReady = true

/-- The last refresh of a load stores the commands of all enabled plugins. -/
theorem Prepared.refresh {created : List Plugin} (prepared : Prepared before created state)
    (unshadowed : state.Unshadowed) {count : Nat}
    (refreshed : state.refresh = (after, .ok count)) : Loaded before created after count := by
  have attached := prepared.composed.poised.attached
  have good : state.refresh.2 = .ok count := by rw [refreshed]
  have plugins := plugins_refresh attached
  have registered := registered_refresh attached
  have scheduler := scheduler_refresh attached
  have keyed := prepared.composed.refresh.keyed
  have current := needsRefresh_refresh attached good
  rw [refreshed] at plugins registered scheduler keyed current
  have enabled := enabledHandles_congr plugins registered
  have differ := pairwise_idsDiffer prepared.composed.keyed unshadowed
  have regular : ∀ handle ∈ state.enabledHandles, state.HasRegular handle :=
    fun handle member => prepared.regular handle (List.mem_of_mem_filter member)
  obtain ⟨stored, counted⟩ := stores_refresh_of_regular attached regular differ good
  rw [refreshed] at stored
  have found (handle : Nat) : after.plugin? handle = state.plugin? handle := by
    rw [plugin?, plugins, plugin?]
  exact {
    registered := registered.trans prepared.registered
    kept := fun index plugin member =>
      (found _).trans (prepared.kept index plugin member)
    pending := by
      rw [scheduler, Scheduler.pending, Scheduler.setClient, prepared.settled]
      rfl
    current := current
    stored := by
      intro entry member unclaimed unwithdrawn
      rw [offers_congr plugins registered] at member
      obtain ⟨stores, described⟩ := stored entry member (unclaimed.leave prepared.leaves)
        (unwithdrawn.leave prepared.leaves)
      exact ⟨stores, fun undescribed => described (undescribed.leave prepared.leaves)⟩
    counted := by
      intro unclaimed
      rw [offers_congr plugins registered] at unclaimed ⊢
      exact counted fun entry member => (unclaimed entry member).leave prepared.leaves
    runs := by
      intro handle member plugin present starts command declared
      obtain ⟨started, start⟩ := starts
      have earlier := (found handle).symm.trans present
      rw [enabled] at member
      obtain ⟨own, ownPresent, ownRegular⟩ := regular handle member
      obtain rfl : own = plugin := Option.some.inj (ownPresent.symm.trans earlier)
      refine runsCommand_of_ready keyed ?_ ?_ present ownRegular
        (prepared.ready handle member own earlier started start) declared
      · rw [Unshadowed, registered]
        exact unshadowed
      · rw [enabled]
        exact member }

end Dispatcher

end ChatDispatch
