import ChatDispatch.Dispatcher.Setup
import ChatDispatch.Proofs.Dispatcher.Readings

/-!
# The course of a refresh

When plugins are read at once, the lock is only held while nothing else runs.  So a refresh
gets it, rebuilds and releases it without a suspension: it ends as its rebuild ends.
-/

namespace ChatDispatch.Dispatcher

open CommandTables

/-- Plugins are read at once, and nobody holds the lock or waits for it. -/
structure Attached (state : Dispatcher) : Prop where
  direct : state.source = .direct
  free : state.scheduler.isFree = true
  follows : state.FollowsPlugins

theorem Attached.of_grows {before after : Dispatcher} (attached : before.Attached)
    (grows : Grows before after) : after.Attached where
  direct := grows.source.trans attached.direct
  free := by
    rw [grows.scheduler]
    exact attached.free
  follows := grows.followsPlugins attached.follows

/-- The state in which a refresh of the client rebuilds the tables. -/
def locked (state : Dispatcher) : Dispatcher :=
  (state.setClient .refreshing).reschedule Scheduler.hold

theorem Attached.locked {state : Dispatcher} (attached : state.Attached) :
    state.locked.FollowsPlugins :=
  attached.follows

/-- The end of a rebuild: its failures are kept, and nothing is left to refresh. -/
def Rebuild.result (done : Rebuild) : Dispatcher :=
  { done.state with failures := done.failures, needsRefresh := false }

def unlocked (state : Dispatcher) : Dispatcher :=
  state.setClient .running

theorem driveWithin_of_told (fuel : Nat) {state : Dispatcher} {outcome : Except Fault Nat}
    (told : state.scheduler.client = .refreshed outcome) : driveWithin fuel state = state := by
  have awake : state.scheduler.isSuspended = false := by simp [Scheduler.isSuspended, told]
  cases fuel with
  | zero => rfl
  | succ fuel => rw [driveWithin, awake, if_neg Bool.false_ne_true]

theorem drive_of_told (state : Dispatcher) {outcome : Except Fault Nat}
    (told : state.scheduler.client = .refreshed outcome) : state.drive = state :=
  driveWithin_of_told _ told

theorem refresh_of_attached {state : Dispatcher} (attached : state.Attached) :
    state.refresh =
      match state.locked.rebuild state.enabledHandles with
      | (stopped, .error fault) => (stopped.release.unlocked, .error fault)
      | (rebuilt, .ok count) =>
          ((announce .commandsChanged [] rebuilt.release).unlocked, .ok count) := by
  have entered :
      enter .client (state.setClient .refreshing) = conclude .client state.locked := by
    have free : (state.setClient .refreshing).scheduler.isFree = true := attached.free
    have direct : state.locked.source = .direct := attached.direct
    simp only [enter, free, if_true]
    rw [show (state.setClient .refreshing).reschedule Scheduler.hold = state.locked from rfl,
      proceed, direct]
  have handles : state.locked.enabledHandles = state.enabledHandles := rfl
  unfold refresh
  rw [entered, conclude, handles]
  rcases state.locked.rebuild state.enabledHandles with ⟨rebuilt, fault | count⟩
  · have driven := drive_of_told (tell .client (.error fault) rebuilt.release) rfl
    simp only [driven]
    rfl
  · have driven := drive_of_told
      (tell .client (.ok count) (announce .commandsChanged [] rebuilt.release)) rfl
    simp only [driven]
    rfl

theorem followsPlugins_start {state : Dispatcher} (attached : state.Attached) :
    (Rebuild.start state.locked).state.FollowsPlugins :=
  (grows_start attached.locked).followsPlugins attached.follows

theorem rebuild_eq_readAll {state : Dispatcher} (follows : state.FollowsPlugins)
    (handles : List Nat) :
    state.rebuild handles =
      match (Rebuild.start state).readAll (handles.flatMap (readingsOf state.plugins)) with
      | (stopped, some fault) => (stopped.state, .error fault)
      | (done, none) => (done.result, .ok done.count) := by
  have grows := grows_start follows
  have same : (Rebuild.start state).state.plugins = state.plugins := grows.plugins
  rw [rebuild, Rebuild.storePlugins_eq_readAll _ _ (grows.followsPlugins follows), same]
  rfl

theorem rebuild_of_sound {state : Dispatcher} (follows : state.FollowsPlugins)
    {handles : List Nat}
    (sound : ∀ reading ∈ handles.flatMap (readingsOf state.plugins), reading.isSound = true) :
    ∃ done : Rebuild,
      Rebuild.Steps (Rebuild.start state) (handles.flatMap (readingsOf state.plugins)) done ∧
      state.rebuild handles = (done.result, .ok done.count) := by
  obtain ⟨done, read, steps⟩ := Rebuild.readAll_of_isSound (Rebuild.start state) sound
  refine ⟨done, steps, ?_⟩
  rw [rebuild_eq_readAll follows, read]

theorem rebuild_of_isSound {state : Dispatcher} (attached : state.Attached)
    (sound : ∀ reading ∈ state.readings, reading.isSound = true) :
    ∃ done : Rebuild,
      Rebuild.Steps (Rebuild.start state.locked) state.readings done ∧
      state.locked.rebuild state.enabledHandles = (done.result, .ok done.count) :=
  rebuild_of_sound attached.locked sound

theorem rebuild_of_faulty {state : Dispatcher} (attached : state.Attached)
    {passed rest : List Reading} {reading : Reading} {fault : Fault}
    (split : state.readings = passed ++ reading :: rest)
    (sound : ∀ earlier ∈ passed, earlier.isSound = true)
    (faulty : reading.verdict = .faulty fault) :
    ∃ (middle : Rebuild) (handlers : List (Value × List (Value × Handler))),
      Rebuild.Steps (Rebuild.start state.locked) passed middle ∧
      state.locked.rebuild state.enabledHandles =
        (middle.state.withHandlers handlers, .error fault) ∧
      ∀ agent command,
        find? agent command handlers = find? agent command middle.state.tables.handlers := by
  obtain ⟨middle, handlers, steps, stopped, same⟩ :=
    Rebuild.readAll_of_faulty (Rebuild.start state.locked) rest sound faulty
  refine ⟨middle, handlers, steps, ?_, same⟩
  have read : state.enabledHandles.flatMap (readingsOf state.locked.plugins) = state.readings := rfl
  rw [rebuild_eq_readAll attached.locked, read, split, stopped]

theorem refresh_of_rebuilt {state rebuilt : Dispatcher} {count : Nat}
    (attached : state.Attached)
    (done : state.locked.rebuild state.enabledHandles = (rebuilt, .ok count)) :
    state.refresh = ((announce .commandsChanged [] rebuilt.release).unlocked, .ok count) := by
  rw [refresh_of_attached attached, done]

theorem refresh_of_stopped {state stopped : Dispatcher} {fault : Fault}
    (attached : state.Attached)
    (failed : state.locked.rebuild state.enabledHandles = (stopped, .error fault)) :
    state.refresh = (stopped.release.unlocked, .error fault) := by
  rw [refresh_of_attached attached, failed]

/-- A refresh ends with the last reading, or with the first one at fault. -/
theorem refresh_cases {state : Dispatcher} (attached : state.Attached) :
    (∃ done : Rebuild,
      Rebuild.Steps (Rebuild.start state.locked) state.readings done ∧
      state.refresh =
        ((announce .commandsChanged [] done.result.release).unlocked, .ok done.count)) ∨
    ∃ (passed rest : List Reading) (fault : Fault) (middle : Rebuild)
      (handlers : List (Value × List (Value × Handler))),
      state.readings = passed ++ rest ∧
      Rebuild.Steps (Rebuild.start state.locked) passed middle ∧
      state.refresh = ((middle.state.withHandlers handlers).release.unlocked, .error fault) ∧
      ∀ agent command,
        find? agent command handlers = find? agent command middle.state.tables.handlers := by
  by_cases sound : ∀ reading ∈ state.readings, reading.isSound = true
  · obtain ⟨done, steps, rebuilt⟩ := rebuild_of_isSound attached sound
    exact .inl ⟨done, steps, refresh_of_rebuilt attached rebuilt⟩
  · obtain ⟨passed, reading, rest, fault, split, passedSound, faulty⟩ :=
      Reading.exists_first_faulty sound
    obtain ⟨middle, handlers, steps, stopped, same⟩ :=
      rebuild_of_faulty attached split passedSound faulty
    exact .inr ⟨passed, reading :: rest, fault, middle, handlers, split, steps,
      refresh_of_stopped attached stopped, same⟩

theorem grows_of_steps_start {state : Dispatcher} (attached : state.Attached)
    {passed : List Reading} {next : Rebuild}
    (steps : Rebuild.Steps (Rebuild.start state.locked) passed next) :
    Grows state.locked.cleared next.state :=
  (grows_start attached.locked).trans
    (Rebuild.grows_of_steps steps (followsPlugins_start attached))

theorem told_of_steps_start {state : Dispatcher} (attached : state.Attached) {done : Rebuild}
    (steps : Rebuild.Steps (Rebuild.start state.locked) state.readings done) :
    Told done.result.release (announce .commandsChanged [] done.result.release) := by
  have follows : done.state.FollowsPlugins :=
    (grows_of_steps_start attached steps).followsPlugins attached.follows
  exact told_announce (by decide) [] follows

theorem registered_refresh {state : Dispatcher} (attached : state.Attached) :
    state.refresh.1.registered = state.registered := by
  rcases refresh_cases attached with
    ⟨done, steps, refreshed⟩ | ⟨_, _, _, middle, _, -, steps, refreshed, -⟩
  · rw [refreshed]
    exact (told_of_steps_start attached steps).registered.trans
      (grows_of_steps_start attached steps).registered
  · rw [refreshed]
    exact (grows_of_steps_start attached steps).registered

theorem plugins_refresh {state : Dispatcher} (attached : state.Attached) :
    state.refresh.1.plugins = state.plugins := by
  rcases refresh_cases attached with
    ⟨done, steps, refreshed⟩ | ⟨_, _, _, middle, _, -, steps, refreshed, -⟩
  · rw [refreshed]
    exact (told_of_steps_start attached steps).plugins.trans
      (grows_of_steps_start attached steps).plugins
  · rw [refreshed]
    exact (grows_of_steps_start attached steps).plugins

/-- The handler of a plugin that is found after a refresh was stored when some of the
readings had been gone through. -/
theorem plugin_of_refresh {state : Dispatcher} (attached : state.Attached)
    {agent command name : Value} {handle : Nat}
    (found : state.refresh.1.tables.handler? agent command = some (.plugin handle name)) :
    ∃ passed rest next,
      state.readings = passed ++ rest ∧
      Rebuild.Steps (Rebuild.start state.locked) passed next ∧
      next.state.tables.handler? agent command = some (.plugin handle name) := by
  rcases refresh_cases attached with
    ⟨done, steps, refreshed⟩ | ⟨passed, rest, _, middle, _, split, steps, refreshed, same⟩
  · rw [refreshed] at found
    refine ⟨state.readings, [], done, (List.append_nil _).symm, steps, ?_⟩
    rcases (told_of_steps_start attached steps).adds found with before | ⟨callable, same⟩
    · exact before
    · cases same
  · rw [refreshed] at found
    exact ⟨passed, rest, middle, split, steps, (same _ _).symm.trans found⟩

/-- After a refresh, the tables have handlers of plugins that are switched on, and of no
others. -/
theorem isEnabled_of_refresh {state : Dispatcher} (attached : state.Attached)
    {agent command name : Value} {handle : Nat}
    (found : state.refresh.1.tables.handler? agent command = some (.plugin handle name)) :
    state.isEnabled handle = true := by
  obtain ⟨passed, rest, next, split, steps, stored⟩ := plugin_of_refresh attached found
  rcases Rebuild.plugin_of_steps steps (followsPlugins_start attached) stored with
    before | ⟨gone, reading, left, _, _, _, parts, -, offered, -⟩
  · exact absurd before (start_not_plugin attached.locked _ _ _ _)
  · have member : reading ∈ state.readings := by
      rw [split, parts]
      exact List.mem_append_left _ (List.mem_append_right _ List.mem_cons_self)
    obtain ⟨own, listed, read⟩ := List.mem_flatMap.mp member
    obtain ⟨rfl, -⟩ := of_mem_readingsOf read offered
    exact (List.mem_filter.mp listed).2

theorem isFree_release {scheduler : Scheduler} (nobody : scheduler.waiting = []) :
    scheduler.release.isFree = true := by
  simp [Scheduler.release, Scheduler.isFree, nobody]

theorem attached_refresh {state : Dispatcher} (attached : state.Attached) :
    state.refresh.1.Attached := by
  have nobody : state.locked.cleared.scheduler.waiting = [] := by
    have free := attached.free
    rw [Scheduler.isFree, Bool.and_eq_true] at free
    exact List.isEmpty_iff.mp free.2
  rcases refresh_cases attached with
    ⟨done, steps, refreshed⟩ | ⟨_, _, _, middle, _, -, steps, refreshed, -⟩
  · have grows := grows_of_steps_start attached steps
    have told := told_of_steps_start attached steps
    have idle : done.state.scheduler.waiting = [] := by rw [grows.scheduler, nobody]
    have free : (announce .commandsChanged [] done.result.release).scheduler.isFree = true := by
      rw [told.scheduler]
      exact isFree_release idle
    rw [refreshed]
    exact {
      direct := told.source.trans (grows.source.trans attached.direct)
      free := free
      follows := told.followsPlugins (grows.followsPlugins attached.follows) }
  · have grows := grows_of_steps_start attached steps
    have idle : middle.state.scheduler.waiting = [] := by rw [grows.scheduler, nobody]
    rw [refreshed]
    exact {
      direct := grows.source.trans attached.direct
      free := isFree_release idle
      follows := grows.followsPlugins attached.follows }

theorem followsPlugins_subscribe {state : Dispatcher} (follows : state.FollowsPlugins)
    {topic : Topic} (ofPlugins : topic ∈ Topic.ofPlugins) :
    (state.subscribe topic .refresher).FollowsPlugins := by
  intro entry member isRefresher
  rcases List.mem_append.mp member with earlier | new
  · exact follows entry earlier isRefresher
  · cases List.mem_singleton.mp new
    exact ofPlugins

theorem followsPlugins_follow {state : Dispatcher} (follows : state.FollowsPlugins) :
    state.follow.FollowsPlugins := by
  have first :=
    followsPlugins_subscribe follows (by decide : Topic.pluginRegistered ∈ Topic.ofPlugins)
  have second :=
    followsPlugins_subscribe first (by decide : Topic.pluginUnregistered ∈ Topic.ofPlugins)
  exact followsPlugins_subscribe second (by decide : Topic.pluginsStarted ∈ Topic.ofPlugins)

/-- A dispatcher that is set up to read plugins at once is attached. -/
theorem attached_setUp {state : Dispatcher} (free : state.scheduler.isFree = true)
    (follows : state.FollowsPlugins) (following : Bool) :
    (state.setUp .direct following).Attached := by
  have connected : Attached { state with source := .direct } := ⟨rfl, free, follows⟩
  have followed : Attached (follow { state with source := .direct }) :=
    ⟨rfl, free, followsPlugins_follow connected.follows⟩
  simp only [setUp, addBuiltins]
  split
  · exact followed.of_grows (grows_foldl_addBuiltin false _ followed.follows)
  · exact connected.of_grows (grows_foldl_addBuiltin false _ connected.follows)

/-- A foreign plugin that is switched on, with its declarations.  It answers every command with the
name of it. -/
def samplePlugin (id : String) (declared : List Declaration) : Plugin where
  id := .text id
  name := .text id
  description := .text ""
  enabled := .bool true
  ready := .bool true
  requiresReady := .bool false
  notice := none
  body := .foreign declared ⟨none, none, fun name _ => .ok name⟩

end ChatDispatch.Dispatcher
