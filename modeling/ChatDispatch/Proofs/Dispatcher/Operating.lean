import ChatDispatch.Proofs.Dispatcher.Concluding
import ChatDispatch.Proofs.Dispatcher.Registered
import ChatDispatch.Proofs.Dispatcher.Registering

/-!
# Operating a dispatcher

Commands are registered and removed, plugins come and go, listeners subscribe, and the tables
are refreshed: any number of operations, in any order.  Between two of them a wakeup can
happen, which begins a refresh or goes on with one.

What holds after every wakeup need not be proved for each of them.  Apart from the schedule, a
wakeup changes the state only when it concludes a refresh, and so does a refresh of the client,
which lets wakeups happen until it has been told its outcome.
-/

namespace ChatDispatch.Dispatcher

/-- What is done with a dispatcher, or happens to it. -/
inductive Operation where
  | request (request : Request)
  | declare (declaration : Declaration)
  | refresh
  | subscribe (topic : Topic) (listener : Listener)
  | unsubscribe (topic : Topic) (listener : Listener)
  | attach
  | registerPlugin (handle : Option Nat) (sort : PluginSort)
  | unregisterPlugin (id : Value) (sort : PluginSort)
  | addPlugin (plugin : Plugin)
  | setPlugin (handle : Nat) (plugin : Plugin)
  | wakeFirst

/-- What an operation answers. -/
inductive Answer where
  | accepted (outcome : Except Fault Bool)
  | counted (outcome : Except Fault Nat)

/-- Does an operation; some of them answer nothing. -/
def operate (state : Dispatcher) : Operation → Dispatcher × Option Answer
  | .request request =>
      let (after, outcome) := state.perform request
      (after, some (.accepted outcome))
  | .declare declaration =>
      let (after, outcome) := state.registerCommand declaration
      (after, some (.accepted outcome))
  | .refresh =>
      let (after, outcome) := state.refresh
      (after, some (.counted outcome))
  | .subscribe topic listener => (state.subscribe topic (.listener listener), none)
  | .unsubscribe topic listener => (state.unsubscribe topic (.listener listener), none)
  | .attach => (state.attach, none)
  | .registerPlugin handle sort =>
      let (after, outcome) := state.registerPlugin handle sort
      (after, some (.accepted outcome))
  | .unregisterPlugin id sort =>
      let (after, outcome) := state.unregisterPlugin id sort
      (after, some (.accepted outcome))
  | .addPlugin plugin => ((state.addPlugin plugin).1, none)
  | .setPlugin handle plugin => (state.setPlugin handle plugin, none)
  | .wakeFirst => (state.wakeFirst, none)

/-- Does operations one after the other; gives what they answer. -/
def operateAll (state : Dispatcher) : List Operation → Dispatcher × List Answer
  | [] => (state, [])
  | operation :: rest =>
      let (next, answer) := state.operate operation
      let (last, answers) := next.operateAll rest
      (last, answer.toList ++ answers)

/-- A dispatcher that has yet to be set up: there are no commands, listeners and refreshes. -/
structure Unused (state : Dispatcher) : Prop where
  tables : state.tables = CommandTables.empty
  subscriptions : state.subscriptions = []
  scheduler : state.scheduler = Scheduler.idle

variable {state : Dispatcher}

theorem Unused.nobody (unused : state.Unused) (entry : Topic × Subscriber) :
    entry ∉ state.subscriptions := by
  rw [unused.subscriptions]
  exact List.not_mem_nil

theorem operateAll_keeps {holds : Dispatcher → Prop} {allowed : Operation → Prop}
    (keeps : ∀ {state : Dispatcher} {operation : Operation}, allowed operation → holds state →
      holds (state.operate operation).1)
    {operations : List Operation} (all : ∀ operation ∈ operations, allowed operation)
    (begun : holds state) : holds (state.operateAll operations).1 := by
  induction operations generalizing state with
  | nil => exact begun
  | cons operation rest induction =>
      obtain ⟨here, later⟩ := List.forall_mem_cons.mp all
      exact induction later (keeps here begun)

/-- What holds of everybody who has subscribed, and of whoever subscribes next. -/
theorem forall_mem_subscribe {allowed : Topic × Subscriber → Prop}
    (before : ∀ entry ∈ state.subscriptions, allowed entry) {topic : Topic}
    {subscriber : Subscriber} (new : allowed (topic, subscriber)) :
    ∀ entry ∈ (state.subscribe topic subscriber).subscriptions, allowed entry := by
  intro entry member
  rcases List.mem_append.mp member with earlier | last
  · exact before entry earlier
  · rw [List.mem_singleton.mp last]
    exact new

/-- Only the refreshing of the tables begins to follow the events about plugins. -/
theorem forall_mem_follow {allowed : Topic × Subscriber → Prop}
    (before : ∀ entry ∈ state.subscriptions, allowed entry)
    (refreshing : ∀ topic : Topic, allowed (topic, .refresher)) :
    ∀ entry ∈ state.follow.subscriptions, allowed entry := by
  suffices all : ∀ (topics : List Topic) (state : Dispatcher),
      (∀ entry ∈ state.subscriptions, allowed entry) →
        ∀ entry ∈ (state.subscribeAll topics .refresher).subscriptions, allowed entry from
    all Topic.ofPlugins state before
  intro topics
  induction topics with
  | nil => exact fun _ before => before
  | cons topic rest induction =>
      exact fun state before => induction _ (forall_mem_subscribe before (refreshing topic))

theorem followsPlugins_listener (follows : state.FollowsPlugins) (topic : Topic)
    (listener : Listener) : (state.subscribe topic (.listener listener)).FollowsPlugins :=
  forall_mem_subscribe follows fun isRefresher => by cases isRefresher

/-- A property that neither the registered plugins nor announcements matter to. -/
structure Overlooks (holds : Dispatcher → Prop) : Prop where
  registered : ∀ {state : Dispatcher} (registered : PluginTables),
    holds state → holds { state with registered }
  announce : ∀ {state : Dispatcher} (topic : Topic) (payload : List Value),
    holds state → holds (Dispatcher.announce topic payload state)

namespace Overlooks

variable {holds : Dispatcher → Prop}

theorem registerPlugin (overlooks : Overlooks holds) (handle : Option Nat) (sort : PluginSort)
    (before : holds state) : holds (state.registerPlugin handle sort).1 := by
  rcases registerPlugin_cases state handle sort with
    ⟨outcome, refused, -⟩ | ⟨own, plugin, -, -, accepted⟩
  · rw [refused]
    exact before
  · rw [accepted]
    exact overlooks.announce .pluginRegistered _ (overlooks.registered _ before)

theorem unregisterPlugin (overlooks : Overlooks holds) (id : Value) (sort : PluginSort)
    (before : holds state) : holds (state.unregisterPlugin id sort).1 := by
  rcases unregisterPlugin_cases state id sort with ⟨outcome, refused, -⟩ | accepted
  · rw [refused]
    exact before
  · rw [accepted]
    exact overlooks.announce .pluginUnregistered _ (overlooks.registered _ before)

end Overlooks

theorem storable_of_register {agent command : Value} {handler : Option Handler}
    (accepted : (state.register agent command handler).2 = .ok true) :
    CommandTables.Storable agent command := by
  have outcome : (state.register agent command handler).2 =
      (state.tables.addHandler agent command handler).2.map Option.isNone :=
    congrArg (Except.map Option.isNone) (outcome_addHandlerWith _ _ _ _ _ _)
  rw [outcome] at accepted
  cases handler with
  | none => cases accepted
  | some handler =>
      rcases state.tables.addHandler_cases agent command handler with
        ⟨storable, -, -⟩ | ⟨handlers, refused, added, notStored, -⟩
      · exact storable
      · rw [added] at accepted
        rcases refused with fault | ⟨- | refusal⟩
        · cases accepted
        · exact absurd rfl notStored
        · cases accepted

/-- A declared command is registered, and its usage once it has a handler; or nothing
happens. -/
theorem registerCommand_cases (state : Dispatcher) (declaration : Declaration) :
    (∃ outcome, state.registerCommand declaration = (state, outcome) ∧ outcome ≠ .ok true) ∨
      ∃ command id, declaration.normalize = .ok command ∧ command.name = .text id ∧
        let pair := splitId id
        let handled :=
          state.register (.text pair.1) (.text pair.2) (some (handlerOf declaration command))
        let usage := usageOf declaration command pair.1 pair.2
        (handled.2 ≠ .ok true ∧ state.registerCommand declaration = handled) ∨
          handled.2 = .ok true ∧
            state.registerCommand declaration =
              ((handled.1.registerUsage (some usage)).1, .ok true) := by
  unfold registerCommand
  cases normal : declaration.normalize with
  | error fault =>
      left
      cases fault <;> exact ⟨_, rfl, by simp⟩
  | ok command =>
      cases named : command.name with
      | text id =>
          right
          refine ⟨command, id, rfl, named, ?_⟩
          simp only [named]
          rcases outcome : state.register (.text (splitId id).1) (.text (splitId id).2)
            (some (handlerOf declaration command)) with ⟨after, fault | ⟨- | -⟩⟩
          · exact .inl ⟨by simp, rfl⟩
          · exact .inl ⟨by simp, rfl⟩
          · right
            let usage := usageOf declaration command (splitId id).1 (splitId id).2
            have storable : CommandTables.Storable usage.agent usage.command :=
              storable_of_register (congrArg Prod.snd outcome)
            have described := CommandTables.addUsage_of_storable storable after.tables
            refine ⟨rfl, ?_⟩
            simp only [registerUsage, usage, described]
            rfl
      | _ =>
          left
          simp only [named]
          exact ⟨_, rfl, by simp⟩

/-- However a rebuild ends, it began with the built-in commands. -/
theorem rebuild_cases (follows : state.FollowsPlugins) (handles : List Nat) :
    ∃ ended : Rebuild,
      ended = ((Rebuild.start state).readAll (handles.flatMap (readingsOf state.plugins))).1 ∧
      Grows (Rebuild.start state).state ended.state ∧
      ((∃ fault, state.rebuild handles = (ended.state, .error fault)) ∨
        state.rebuild handles = (ended.result, .ok ended.count)) := by
  have grows := Rebuild.grows_of_readAll (Rebuild.start state)
    (handles.flatMap (readingsOf state.plugins)) ((grows_start follows).followsPlugins follows)
  rw [rebuild_eq_readAll follows]
  rcases read : (Rebuild.start state).readAll (handles.flatMap (readingsOf state.plugins)) with
    ⟨ended, - | fault⟩
  · rw [read] at grows
    exact ⟨ended, rfl, grows, .inr rfl⟩
  · rw [read] at grows
    exact ⟨ended, rfl, grows, .inl ⟨fault, rfl⟩⟩

/-- The end of a refresh changes the tables, what is noted about them and the schedule. -/
structure Closes (before after : Dispatcher) : Prop where
  frame :
    after =
      { before with
        tables := after.tables
        failures := after.failures
        needsRefresh := after.needsRefresh
        subscriptions := after.subscriptions
        deliveries := after.deliveries
        scheduler := after.scheduler
        nextCallable := after.nextCallable }
  leaves : Leaves before.subscriptions after.subscriptions

namespace Closes

variable {before after : Dispatcher}

theorem source (closes : Closes before after) : after.source = before.source := by
  rw [closes.frame]

theorem plugins (closes : Closes before after) : after.plugins = before.plugins := by
  rw [closes.frame]

end Closes

/-- A rebuild that comes to its end is announced, any other one is not. -/
theorem conclude_cases (follows : state.FollowsPlugins) (party : Party) :
    ∃ ended : Rebuild,
      ended =
          ((Rebuild.start state).readAll
            (state.enabledHandles.flatMap (readingsOf state.plugins))).1 ∧
        Grows (Rebuild.start state).state ended.state ∧
        ((∃ fault,
          state.rebuild state.enabledHandles = (ended.state, .error fault) ∧
            conclude party state = tell party (.error fault) ended.state.release) ∨
          state.rebuild state.enabledHandles = (ended.result, .ok ended.count) ∧
            Told ended.result.release (announce .commandsChanged [] ended.result.release) ∧
            conclude party state =
              tell party (.ok ended.count)
                (announce .commandsChanged [] ended.result.release)) := by
  obtain ⟨ended, read, grows, ⟨fault, stopped⟩ | rebuilt⟩ :=
    rebuild_cases follows state.enabledHandles
  · exact ⟨ended, read, grows, .inl ⟨fault, stopped, by rw [conclude, stopped]⟩⟩
  · have started := (grows_start follows).followsPlugins follows
    have attentive : ended.result.release.FollowsPlugins := grows.followsPlugins started
    exact ⟨ended, read, grows,
      .inr ⟨rebuilt, told_announce (by decide) [] attentive, by rw [conclude, rebuilt]⟩⟩

theorem closes_conclude (follows : state.FollowsPlugins) (party : Party) :
    Closes state (conclude party state) := by
  have start : Grows state.cleared (Rebuild.start state).state := grows_start follows
  obtain ⟨ended, -, grows, ⟨fault, -, concluded⟩ | ⟨-, told, concluded⟩⟩ :=
    conclude_cases follows party
  · have whole := start.trans grows
    rw [concluded]
    refine ⟨?_, whole.leaves⟩
    simp only [tell, release, reschedule]
    rw [whole.frame]
    rfl
  · have whole := start.trans grows
    rw [concluded]
    refine ⟨?_, whole.leaves.trans told.leaves⟩
    rw [tell, reschedule, told.frame]
    simp only [release, reschedule, Rebuild.result]
    rw [whole.frame]
    rfl

/-- Who has refreshed the tables releases the lock and is told the outcome. -/
theorem scheduler_conclude (follows : state.FollowsPlugins) (party : Party) :
    (conclude party state).scheduler =
      state.scheduler.release.tell party (state.rebuild state.enabledHandles).2 := by
  have start : Grows state.cleared (Rebuild.start state).state := grows_start follows
  obtain ⟨ended, -, grows, ⟨fault, stopped, concluded⟩ | ⟨rebuilt, told, concluded⟩⟩ :=
    conclude_cases follows party
  · have same : ended.state.scheduler = state.scheduler := (start.trans grows).scheduler
    rw [concluded, stopped]
    simp only [tell, release, reschedule, same]
  · have same : ended.state.scheduler = state.scheduler := (start.trans grows).scheduler
    rw [concluded, rebuilt]
    simp only [tell, reschedule, told.scheduler]
    simp only [release, reschedule, Rebuild.result, same]

/-- A property that no schedule matters to, and that the end of a refresh keeps. -/
structure Endures (holds : Dispatcher → Prop) : Prop where
  reschedule : ∀ {state : Dispatcher} (change : Scheduler → Scheduler),
    holds state → holds (state.reschedule change)
  conclude : ∀ {state : Dispatcher} (party : Party),
    holds state → holds (Dispatcher.conclude party state)

namespace Endures

variable {holds : Dispatcher → Prop}

theorem proceed (endures : Endures holds) (party : Party) (before : holds state) :
    holds (Dispatcher.proceed party state) := by
  unfold Dispatcher.proceed
  split
  · exact endures.reschedule _ (endures.reschedule _ before)
  · exact endures.conclude party before
  · exact endures.reschedule _ before

theorem enter (endures : Endures holds) (party : Party) (before : holds state) :
    holds (Dispatcher.enter party state) := by
  unfold Dispatcher.enter
  split
  · exact endures.proceed party (endures.reschedule _ before)
  · exact endures.reschedule _ before

theorem answer (endures : Endures holds) (party : Party) (before : holds state) :
    holds (Dispatcher.answer party state) := by
  unfold Dispatcher.answer
  split
  · exact endures.reschedule _ (endures.reschedule _ before)
  · exact endures.conclude party before

theorem wake (endures : Endures holds) (wakeup : Wakeup) (before : holds state) :
    holds (state.wake wakeup) := by
  cases wakeup with
  | begin job => exact endures.enter (.job job) before
  | granted party => exact endures.proceed party (endures.reschedule _ before)
  | answered party => exact endures.answer party before
  | settled job => exact endures.reschedule (fun scheduler => scheduler.settle job) before
  | noticed job watch =>
      exact endures.reschedule (fun scheduler => scheduler.notice job watch) before
  | released watch => exact endures.reschedule (fun scheduler => scheduler.letGo watch) before

theorem wakeFirst (endures : Endures holds) (before : holds state) : holds state.wakeFirst := by
  unfold Dispatcher.wakeFirst
  split
  · exact before
  · exact endures.wake _ (endures.reschedule _ before)

theorem driveWithin (endures : Endures holds) (fuel : Nat) (before : holds state) :
    holds (Dispatcher.driveWithin fuel state) := by
  induction fuel generalizing state with
  | zero => exact before
  | succ fuel induction =>
      rw [Dispatcher.driveWithin]
      split
      · exact induction (endures.wakeFirst before)
      · exact before

theorem setClient (endures : Endures holds) (client : ClientState) (before : holds state) :
    holds (state.setClient client) :=
  endures.reschedule (fun scheduler => scheduler.setClient client) before

theorem refresh (endures : Endures holds) (before : holds state) : holds state.refresh.1 := by
  have begun := endures.enter .client (endures.setClient .refreshing before)
  have driven : holds (Dispatcher.enter .client (state.setClient .refreshing)).drive :=
    endures.driveWithin _ begun
  unfold Dispatcher.refresh
  dsimp only
  split
  · exact endures.setClient .running driven
  · exact driven

end Endures

/-- A property that neither tables nor announcements matter to. -/
structure Ignores (holds : Dispatcher → Prop) : Prop where
  tables : ∀ {state : Dispatcher} (tables : CommandTables),
    holds state → holds { state with tables }
  announce : ∀ {state : Dispatcher} (topic : Topic) (payload : List Value),
    holds state → holds (Dispatcher.announce topic payload state)

namespace Ignores

variable {holds : Dispatcher → Prop}

theorem addHandler (ignores : Ignores holds) (quiet : Bool) (agent command : Value)
    (handler : Option Handler) (before : holds state) :
    holds (state.addHandler quiet agent command handler).1 := by
  have stored := ignores.tables (state.tables.addHandler agent command handler).1 before
  have announced := ignores.announce .commandRegistered (commandPayload agent command) stored
  unfold Dispatcher.addHandler addHandlerWith
  dsimp only
  split
  · split
    · exact announced
    · exact ignores.announce .commandsChanged [] announced
  · exact stored

theorem register (ignores : Ignores holds) (agent command : Value) (handler : Option Handler)
    (before : holds state) : holds (state.register agent command handler).1 :=
  ignores.addHandler false agent command handler before

theorem unregister (ignores : Ignores holds) (agent command : Value) (before : holds state) :
    holds (state.unregister agent command).1 := by
  have removed := ignores.tables (state.tables.remove agent command).1 before
  unfold Dispatcher.unregister removeHandlerWith
  dsimp only
  split
  · exact ignores.announce .commandsChanged [] (ignores.announce .commandUnregistered _ removed)
  · exact removed

theorem registerUsage (ignores : Ignores holds) (usage : Option Usage) (before : holds state) :
    holds (state.registerUsage usage).1 := by
  cases usage with
  | none => exact before
  | some usage => exact ignores.tables _ before

theorem perform (ignores : Ignores holds) (request : Request) (before : holds state) :
    holds (state.perform request).1 := by
  cases request with
  | register agent command handler => exact ignores.register agent command handler before
  | registerUsage usage => exact ignores.registerUsage usage before
  | unregister agent command => exact ignores.unregister agent command before

theorem registerCommand (ignores : Ignores holds) (declaration : Declaration)
    (before : holds state) : holds (state.registerCommand declaration).1 := by
  rcases registerCommand_cases state declaration with
    ⟨outcome, same, -⟩ | ⟨command, id, -, -, ⟨-, same⟩ | ⟨-, same⟩⟩
  · rw [same]
    exact before
  · rw [same]
    exact ignores.register _ _ _ before
  · rw [same]
    exact ignores.registerUsage _ (ignores.register _ _ _ before)

theorem addBuiltin (ignores : Ignores holds) (quiet : Bool) (builtin : Builtin)
    (before : holds state) : holds (Dispatcher.addBuiltin quiet state builtin) := by
  have handled := ignores.addHandler quiet (.text coreAgent) (.text builtin.key)
    (some (.builtin builtin)) before
  unfold Dispatcher.addBuiltin
  dsimp only
  split
  · exact ignores.registerUsage _ handled
  · exact handled

theorem foldl_addBuiltin (ignores : Ignores holds) (quiet : Bool) (builtins : List Builtin)
    (before : holds state) : holds (builtins.foldl (Dispatcher.addBuiltin quiet) state) := by
  induction builtins generalizing state with
  | nil => exact before
  | cons builtin rest induction => exact induction (ignores.addBuiltin quiet builtin before)

theorem setUp (ignores : Ignores holds) (source : Source) (following : Bool)
    (connected : holds { state with source })
    (followed : holds (Dispatcher.follow { state with source })) :
    holds (state.setUp source following) := by
  unfold Dispatcher.setUp addBuiltins
  dsimp only
  split
  · exact ignores.foldl_addBuiltin false Builtin.all followed
  · exact ignores.foldl_addBuiltin false Builtin.all connected

theorem start (ignores : Ignores holds) (before : holds state) :
    holds (Rebuild.start state).state := by
  have cleared : holds state.cleared := ignores.tables CommandTables.empty before
  rw [start_state]
  exact ignores.foldl_addBuiltin true Builtin.all cleared

variable {rebuild : Rebuild}

theorem storeCommand (ignores : Ignores holds) (handle : Nat) (agent : Value)
    (command : PluginCommand) (before : holds rebuild.state) :
    holds (rebuild.storeCommand handle agent command).1.state := by
  have handled := ignores.addHandler true agent command.name
    (some (.plugin handle command.name)) before
  rcases added : rebuild.state.addHandler true agent command.name
    (some (.plugin handle command.name)) with ⟨after, fault | ⟨- | refusal⟩⟩
  · rw [added] at handled
    simp only [Rebuild.storeCommand, added]
    exact handled
  · rw [added] at handled
    simp only [Rebuild.storeCommand, added]
    exact ignores.registerUsage _ handled
  · rw [added] at handled
    simp only [Rebuild.storeCommand, added]
    exact handled

theorem read (ignores : Ignores holds) (reading : Reading) (before : holds rebuild.state) :
    holds (rebuild.read reading).1.state := by
  cases reading with
  | unlisted agent fault => exact before
  | declared handle agent declaration =>
      unfold Rebuild.read Rebuild.storeDeclaration
      dsimp only
      split
      · exact before
      · exact before
      · exact ignores.storeCommand handle agent _ before

theorem readAll (ignores : Ignores holds) (readings : List Reading)
    (before : holds rebuild.state) : holds (rebuild.readAll readings).1.state := by
  induction readings generalizing rebuild with
  | nil => exact before
  | cons reading rest induction =>
      have next := ignores.read reading before
      rw [Rebuild.readAll]
      split
      · rename_i stopped fault read
        rw [read] at next
        exact next
      · rename_i middle read
        rw [read] at next
        exact induction next

end Ignores

end ChatDispatch.Dispatcher
