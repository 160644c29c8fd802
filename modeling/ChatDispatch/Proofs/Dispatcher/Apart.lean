import ChatDispatch.Proofs.Dispatcher.Operating

/-!
# Dispatchers that nobody listens to

A subscriber is inert if it only notes the events about commands, whether or not it fails
afterwards.  Telling inert subscribers adds their notes to the state and changes nothing else.
So whatever is done with a dispatcher answers the same, and leads to the same state apart from
the notes, as if nobody listened.
-/

namespace ChatDispatch

/-- Something that the subscribers of its topic are told. -/
structure Event where
  topic : Topic
  payload : List Value
deriving DecidableEq

/-- What a subscriber notes of an event, and under which name.  A listener notes the topic that
it first subscribed to. -/
def Subscriber.note? (event : Event) : Subscriber → Option (String × Event)
  | .recorder => some (recorderName, event)
  | .refresher => none
  | .listener ⟨name, first, _⟩ => some (name, ⟨first, event.payload⟩)

def Delivery.note (delivery : Delivery) : String × Event :=
  (delivery.listener, ⟨delivery.topic, delivery.payload⟩)

namespace Dispatcher

def notes (state : Dispatcher) : List (String × Event) :=
  state.deliveries.map Delivery.note

/-- What is noted of an event: once for every subscription to its topic, in their order. -/
def heard (subscriptions : List (Topic × Subscriber)) (event : Event) : List (String × Event) :=
  (subscriptions.filter fun entry => entry.1 = event.topic).filterMap (·.2.note? event)

def noting (state : Dispatcher) (added : List (String × Event)) : Dispatcher :=
  { state with
    deliveries := state.deliveries ++
      added.map fun note => ⟨note.1, note.2.topic, note.2.payload, state.tables⟩ }

/-- The dispatcher that nobody listens to and that nothing has been noted of. -/
def apart (state : Dispatcher) : Dispatcher :=
  { state with subscriptions := [], deliveries := [] }

/-- Nobody who is told about a command registers another one or leaves. -/
structure Inert (state : Dispatcher) : Prop where
  follows : state.FollowsPlugins
  silent : state.Silent
  staying : ∀ entry ∈ state.subscriptions, entry.2.stays = true

variable {state : Dispatcher}

theorem Inert.of_same {before after : Dispatcher} (inert : before.Inert)
    (subscriptions : after.subscriptions = before.subscriptions) : after.Inert where
  follows := fun entry member => inert.follows entry (subscriptions ▸ member)
  silent := fun entry member => inert.silent entry (subscriptions ▸ member)
  staying := fun entry member => inert.staying entry (subscriptions ▸ member)

theorem notes_noting (state : Dispatcher) (added : List (String × Event)) :
    (state.noting added).notes = state.notes ++ added := by
  have kept : (Delivery.note ∘ fun note : String × Event =>
      (⟨note.1, note.2.topic, note.2.payload, state.tables⟩ : Delivery)) = id := rfl
  rw [notes, noting, List.map_append, List.map_map, kept, List.map_id]
  rfl

theorem noting_noting (state : Dispatcher) (first second : List (String × Event)) :
    (state.noting first).noting second = state.noting (first ++ second) := by
  simp only [noting, List.map_append, List.append_assoc]

theorem deliver_of_inert (announce : Announcement) (topic : Topic) (payload : List Value)
    (state : Dispatcher) {subscriber : Subscriber} (silent : subscriber.alters = false)
    (stays : subscriber.stays = true) (other : subscriber ≠ .refresher) :
    deliver announce topic payload state subscriber =
      state.noting (subscriber.note? ⟨topic, payload⟩).toList := by
  cases subscriber with
  | recorder => rfl
  | refresher => contradiction
  | listener listener =>
      obtain ⟨name, first, reaction⟩ := listener
      cases reaction with
      | none => rfl
      | fail => rfl
      | leave => cases stays
      | register agent command handler => cases silent
      | unregister agent command => cases silent
      | describe usage => cases silent

theorem foldl_deliver_of_inert (announce : Announcement) (topic : Topic) (payload : List Value)
    {subscribers : List Subscriber}
    (inert : ∀ subscriber ∈ subscribers, subscriber.alters = false ∧
      subscriber.stays = true ∧ subscriber ≠ .refresher) (state : Dispatcher) :
    subscribers.foldl (deliver announce topic payload) state =
      state.noting (subscribers.filterMap (·.note? ⟨topic, payload⟩)) := by
  induction subscribers generalizing state with
  | nil => simp [noting]
  | cons subscriber rest induction =>
      obtain ⟨⟨silent, stays, other⟩, later⟩ := List.forall_mem_cons.mp inert
      rw [List.foldl_cons, deliver_of_inert announce topic payload state silent stays other,
        induction later, noting_noting, List.filterMap_cons]
      cases subscriber.note? ⟨topic, payload⟩ <;> rfl

/-- Inert subscribers of a topic note its events, and nothing else happens. -/
theorem announce_of_inert (inert : state.Inert) {topic : Topic}
    (ofCommands : topic ∈ Topic.ofCommands) (payload : List Value) :
    announce topic payload state = state.noting (heard state.subscriptions ⟨topic, payload⟩) := by
  have each : ∀ subscriber ∈ state.subscribers topic, subscriber.alters = false ∧
      subscriber.stays = true ∧ subscriber ≠ .refresher := by
    intro subscriber member
    have other := ne_refresher_of_mem_subscribers inert.follows ofCommands member
    obtain ⟨entry, filtered, rfl⟩ := List.mem_map.mp member
    have subscribed := (List.mem_filter.mp filtered).1
    exact ⟨inert.silent entry subscribed, inert.staying entry subscribed, other⟩
  rw [announce, announceWithin, foldl_deliver_of_inert _ topic payload each, subscribers,
    List.filterMap_map]
  rfl

theorem announce_of_nobody (nobody : state.subscriptions = []) (topic : Topic)
    (payload : List Value) : announce topic payload state = state := by
  rw [announce, announceWithin, subscribers, nobody]
  rfl

/-- The second dispatcher is the first one without anybody who listens, and those who do are
inert. -/
structure Resembles (heeded alone : Dispatcher) : Prop where
  inert : heeded.Inert
  same : heeded.apart = alone

namespace Resembles

variable {heeded alone : Dispatcher}

theorem nobody (resembles : Resembles heeded alone) : alone.subscriptions = [] := by
  rw [← resembles.same]
  rfl

theorem follows (resembles : Resembles heeded alone) : alone.FollowsPlugins := by
  intro entry member
  rw [resembles.nobody] at member
  cases member

theorem commandTables (resembles : Resembles heeded alone) : alone.tables = heeded.tables := by
  rw [← resembles.same]
  rfl

theorem plugins (resembles : Resembles heeded alone) : alone.plugins = heeded.plugins := by
  rw [← resembles.same]
  rfl

theorem registered (resembles : Resembles heeded alone) :
    alone.registered = heeded.registered := by
  rw [← resembles.same]
  rfl

theorem source (resembles : Resembles heeded alone) : alone.source = heeded.source := by
  rw [← resembles.same]
  rfl

theorem sourceFailure (resembles : Resembles heeded alone) :
    alone.sourceFailure = heeded.sourceFailure := by
  rw [← resembles.same]
  rfl

theorem scheduler (resembles : Resembles heeded alone) : alone.scheduler = heeded.scheduler := by
  rw [← resembles.same]
  rfl

theorem enabledHandles (resembles : Resembles heeded alone) :
    alone.enabledHandles = heeded.enabledHandles := by
  rw [← resembles.same]
  rfl

theorem tables (resembles : Resembles heeded alone) (tables : CommandTables) :
    Resembles { heeded with tables } { alone with tables } := by
  obtain ⟨inert, rfl⟩ := resembles
  exact ⟨inert.of_same rfl, rfl⟩

theorem reschedule (resembles : Resembles heeded alone) (change : Scheduler → Scheduler) :
    Resembles (heeded.reschedule change) (alone.reschedule change) := by
  obtain ⟨inert, rfl⟩ := resembles
  exact ⟨inert.of_same rfl, rfl⟩

theorem announce (resembles : Resembles heeded alone) {topic : Topic}
    (ofCommands : topic ∈ Topic.ofCommands) (payload : List Value) :
    Resembles (Dispatcher.announce topic payload heeded)
      (Dispatcher.announce topic payload alone) := by
  rw [announce_of_inert resembles.inert ofCommands, announce_of_nobody resembles.nobody]
  exact ⟨resembles.inert.of_same rfl, resembles.same⟩

theorem addHandler (resembles : Resembles heeded alone) (quiet : Bool) (agent command : Value)
    (handler : Option Handler) :
    Resembles (heeded.addHandler quiet agent command handler).1
        (alone.addHandler quiet agent command handler).1 ∧
      (alone.addHandler quiet agent command handler).2 =
        (heeded.addHandler quiet agent command handler).2 := by
  rcases added : heeded.tables.addHandler agent command handler with
    ⟨tables, fault | ⟨- | refusal⟩⟩
  · simp only [Dispatcher.addHandler, addHandlerWith, resembles.commandTables, added]
    exact ⟨resembles.tables tables, trivial⟩
  · have registered := (resembles.tables tables).announce
      (by decide : Topic.commandRegistered ∈ Topic.ofCommands) (commandPayload agent command)
    simp only [Dispatcher.addHandler, addHandlerWith, resembles.commandTables, added]
    refine ⟨?_, trivial⟩
    cases quiet with
    | true => exact registered
    | false => exact registered.announce (by decide) []
  · simp only [Dispatcher.addHandler, addHandlerWith, resembles.commandTables, added]
    exact ⟨resembles.tables tables, trivial⟩

theorem registerUsage (resembles : Resembles heeded alone) (usage : Option Usage) :
    Resembles (heeded.registerUsage usage).1 (alone.registerUsage usage).1 ∧
      (alone.registerUsage usage).2 = (heeded.registerUsage usage).2 := by
  cases usage with
  | none => exact ⟨resembles, rfl⟩
  | some usage =>
      simp only [Dispatcher.registerUsage, resembles.commandTables]
      exact ⟨resembles.tables _, trivial⟩

theorem register (resembles : Resembles heeded alone) (agent command : Value)
    (handler : Option Handler) :
    Resembles (heeded.register agent command handler).1
        (alone.register agent command handler).1 ∧
      (alone.register agent command handler).2 = (heeded.register agent command handler).2 := by
  obtain ⟨after, outcome⟩ := resembles.addHandler false agent command handler
  exact ⟨after, congrArg (Except.map Option.isNone) outcome⟩

theorem unregister (resembles : Resembles heeded alone) (agent command : Value) :
    Resembles (heeded.unregister agent command).1 (alone.unregister agent command).1 ∧
      (alone.unregister agent command).2 = (heeded.unregister agent command).2 := by
  have removed := resembles.tables (heeded.tables.remove agent command).1
  have announced := (removed.announce (by decide : Topic.commandUnregistered ∈ Topic.ofCommands)
    (commandPayload agent command)).announce
      (by decide : Topic.commandsChanged ∈ Topic.ofCommands) []
  simp only [Dispatcher.unregister, removeHandlerWith, resembles.commandTables]
  split
  · exact ⟨announced, rfl⟩
  · exact ⟨removed, rfl⟩

theorem perform (resembles : Resembles heeded alone) (request : Request) :
    Resembles (heeded.perform request).1 (alone.perform request).1 ∧
      (alone.perform request).2 = (heeded.perform request).2 := by
  cases request with
  | register agent command handler => exact resembles.register agent command handler
  | registerUsage usage => exact resembles.registerUsage usage
  | unregister agent command => exact resembles.unregister agent command

theorem registerCommand (resembles : Resembles heeded alone) (declaration : Declaration) :
    Resembles (heeded.registerCommand declaration).1 (alone.registerCommand declaration).1 ∧
      (alone.registerCommand declaration).2 = (heeded.registerCommand declaration).2 := by
  unfold Dispatcher.registerCommand
  cases declaration.normalize with
  | error fault => cases fault <;> exact ⟨resembles, rfl⟩
  | ok command =>
      cases named : command.name with
      | text id =>
          obtain ⟨after, outcome⟩ := resembles.register (.text (splitId id).1)
            (.text (splitId id).2) (some (handlerOf declaration command))
          obtain ⟨described, described'⟩ := after.registerUsage
            (some (usageOf declaration command (splitId id).1 (splitId id).2))
          simp only [named, outcome]
          split
          · exact ⟨described, congrArg (Except.map fun _ => true) described'⟩
          · exact ⟨after, rfl⟩
      | _ =>
          simp only [named]
          exact ⟨resembles, trivial⟩

theorem addBuiltin (resembles : Resembles heeded alone) (quiet : Bool) (builtin : Builtin) :
    Resembles (Dispatcher.addBuiltin quiet heeded builtin)
      (Dispatcher.addBuiltin quiet alone builtin) := by
  obtain ⟨after, outcome⟩ := resembles.addHandler quiet (.text coreAgent) (.text builtin.key)
    (some (.builtin builtin))
  simp only [Dispatcher.addBuiltin, outcome]
  split
  · exact (after.registerUsage (some builtin.usage)).1
  · exact after

theorem foldl_addBuiltin (resembles : Resembles heeded alone) (quiet : Bool)
    (builtins : List Builtin) :
    Resembles (builtins.foldl (Dispatcher.addBuiltin quiet) heeded)
      (builtins.foldl (Dispatcher.addBuiltin quiet) alone) := by
  induction builtins generalizing heeded alone with
  | nil => exact resembles
  | cons builtin rest induction => exact induction (resembles.addBuiltin quiet builtin)

end Resembles

/-- Two rebuilds of which only the first is listened to. -/
structure Rebuild.Resembles (heeded alone : Rebuild) : Prop where
  state : Dispatcher.Resembles heeded.state alone.state
  failures : alone.failures = heeded.failures
  count : alone.count = heeded.count

namespace Rebuild.Resembles

variable {heeded alone : Rebuild}

theorem skip (resembles : Rebuild.Resembles heeded alone) (agent command : Value)
    (reason : String) :
    Rebuild.Resembles (heeded.skip agent command reason) (alone.skip agent command reason) :=
  ⟨resembles.state, congrArg (· ++ _) resembles.failures, resembles.count⟩

theorem storeCommand (resembles : Rebuild.Resembles heeded alone) (handle : Nat) (agent : Value)
    (command : PluginCommand) :
    Rebuild.Resembles (heeded.storeCommand handle agent command).1
        (alone.storeCommand handle agent command).1 ∧
      (alone.storeCommand handle agent command).2 =
        (heeded.storeCommand handle agent command).2 := by
  obtain ⟨after, outcome⟩ := resembles.state.addHandler true agent command.name
    (some (.plugin handle command.name))
  simp only [Rebuild.storeCommand, outcome]
  split
  · exact ⟨⟨after, resembles.failures, resembles.count⟩, rfl⟩
  · exact ⟨⟨after, congrArg (· ++ _) resembles.failures, resembles.count⟩, rfl⟩
  · exact ⟨⟨(after.registerUsage _).1, resembles.failures, congrArg (· + 1) resembles.count⟩, rfl⟩

theorem read (resembles : Rebuild.Resembles heeded alone) (reading : Reading) :
    Rebuild.Resembles (heeded.read reading).1 (alone.read reading).1 ∧
      (alone.read reading).2 = (heeded.read reading).2 := by
  cases reading with
  | unlisted agent fault => exact ⟨resembles.skip agent _ _, rfl⟩
  | declared handle agent declaration =>
      unfold Rebuild.read Rebuild.storeDeclaration
      dsimp only
      split
      · exact ⟨resembles.skip agent _ _, rfl⟩
      · exact ⟨resembles, rfl⟩
      · exact resembles.storeCommand handle agent _

theorem readAll (resembles : Rebuild.Resembles heeded alone) (readings : List Reading) :
    Rebuild.Resembles (heeded.readAll readings).1 (alone.readAll readings).1 ∧
      (alone.readAll readings).2 = (heeded.readAll readings).2 := by
  induction readings generalizing heeded alone with
  | nil => exact ⟨resembles, rfl⟩
  | cons reading rest induction =>
      obtain ⟨next, outcome⟩ := resembles.read reading
      rcases read : heeded.read reading with ⟨middle, - | fault⟩
      all_goals rcases readAlone : alone.read reading with ⟨middleAlone, outcomeAlone⟩
      all_goals rw [read, readAlone] at next outcome
      all_goals cases outcome
      all_goals simp only [Rebuild.readAll, read, readAlone]
      · exact induction next
      · exact ⟨next, trivial⟩

theorem result (resembles : Rebuild.Resembles heeded alone) :
    Dispatcher.Resembles heeded.result alone.result := by
  obtain ⟨⟨inert, same⟩, failures, -⟩ := resembles
  refine ⟨inert.of_same rfl, ?_⟩
  unfold Rebuild.result
  rw [failures, ← same]
  rfl

end Rebuild.Resembles

namespace Resembles

variable {heeded alone : Dispatcher}

theorem start (resembles : Resembles heeded alone) :
    Rebuild.Resembles (Rebuild.start heeded) (Rebuild.start alone) where
  state := by
    rw [start_state, start_state]
    exact (resembles.tables CommandTables.empty).foldl_addBuiltin true Builtin.all
  failures := rfl
  count := rfl

theorem rebuild (resembles : Resembles heeded alone) (handles : List Nat) :
    Resembles (heeded.rebuild handles).1 (alone.rebuild handles).1 ∧
      (alone.rebuild handles).2 = (heeded.rebuild handles).2 := by
  obtain ⟨built, outcome⟩ := resembles.start.readAll
    (handles.flatMap (readingsOf heeded.plugins))
  rw [rebuild_eq_readAll resembles.inert.follows, rebuild_eq_readAll resembles.follows,
    resembles.plugins]
  rcases read : (Rebuild.start heeded).readAll (handles.flatMap (readingsOf heeded.plugins))
    with ⟨ended, - | fault⟩
  all_goals
    rcases readAlone :
      (Rebuild.start alone).readAll (handles.flatMap (readingsOf heeded.plugins))
      with ⟨endedAlone, outcomeAlone⟩
  all_goals rw [read, readAlone] at built outcome
  all_goals cases outcome
  · exact ⟨built.result, congrArg Except.ok built.count⟩
  · exact ⟨built.state, rfl⟩

theorem conclude (resembles : Resembles heeded alone) (party : Party) :
    Resembles (Dispatcher.conclude party heeded) (Dispatcher.conclude party alone) := by
  obtain ⟨rebuilt, outcome⟩ := resembles.rebuild heeded.enabledHandles
  rw [Dispatcher.conclude, Dispatcher.conclude, resembles.enabledHandles]
  rcases ended : heeded.rebuild heeded.enabledHandles with ⟨after, fault | count⟩
  all_goals
    rcases endedAlone : alone.rebuild heeded.enabledHandles with ⟨afterAlone, outcomeAlone⟩
  all_goals rw [ended, endedAlone] at rebuilt outcome
  all_goals cases outcome
  · exact (rebuilt.reschedule Scheduler.release).reschedule _
  · exact ((rebuilt.reschedule Scheduler.release).announce (by decide) []).reschedule _

theorem proceed (resembles : Resembles heeded alone) (party : Party) :
    Resembles (Dispatcher.proceed party heeded) (Dispatcher.proceed party alone) := by
  simp only [Dispatcher.proceed, resembles.source]
  split
  · exact (resembles.reschedule Scheduler.release).reschedule _
  · exact resembles.conclude party
  · exact resembles.reschedule _

theorem enter (resembles : Resembles heeded alone) (party : Party) :
    Resembles (Dispatcher.enter party heeded) (Dispatcher.enter party alone) := by
  simp only [Dispatcher.enter, resembles.scheduler]
  split
  · exact (resembles.reschedule Scheduler.hold).proceed party
  · exact resembles.reschedule _

theorem answer (resembles : Resembles heeded alone) (party : Party) :
    Resembles (Dispatcher.answer party heeded) (Dispatcher.answer party alone) := by
  simp only [Dispatcher.answer, resembles.sourceFailure]
  split
  · exact (resembles.reschedule Scheduler.release).reschedule _
  · exact resembles.conclude party

theorem wake (resembles : Resembles heeded alone) (wakeup : Wakeup) :
    Resembles (heeded.wake wakeup) (alone.wake wakeup) := by
  cases wakeup with
  | begin job => exact resembles.enter (.job job)
  | granted party => exact (resembles.reschedule _).proceed party
  | answered party => exact resembles.answer party
  | settled job => exact resembles.reschedule fun scheduler => scheduler.settle job
  | noticed job watch => exact resembles.reschedule fun scheduler => scheduler.notice job watch
  | released watch => exact resembles.reschedule fun scheduler => scheduler.letGo watch

theorem wakeFirst (resembles : Resembles heeded alone) :
    Resembles heeded.wakeFirst alone.wakeFirst := by
  simp only [Dispatcher.wakeFirst, resembles.scheduler]
  split
  · exact resembles
  · exact (resembles.reschedule _).wake _

theorem driveWithin (resembles : Resembles heeded alone) (fuel : Nat) :
    Resembles (Dispatcher.driveWithin fuel heeded) (Dispatcher.driveWithin fuel alone) := by
  induction fuel generalizing heeded alone with
  | zero => exact resembles
  | succ fuel induction =>
      simp only [Dispatcher.driveWithin, resembles.scheduler]
      split
      · exact induction resembles.wakeFirst
      · exact resembles

theorem setClient (resembles : Resembles heeded alone) (client : ClientState) :
    Resembles (heeded.setClient client) (alone.setClient client) :=
  resembles.reschedule fun scheduler => scheduler.setClient client

theorem refresh (resembles : Resembles heeded alone) :
    Resembles heeded.refresh.1 alone.refresh.1 ∧ alone.refresh.2 = heeded.refresh.2 := by
  have begun := (resembles.setClient .refreshing).enter .client
  have driven : Resembles (Dispatcher.enter .client (heeded.setClient .refreshing)).drive
      (Dispatcher.enter .client (alone.setClient .refreshing)).drive := by
    rw [drive, drive, begun.scheduler]
    exact begun.driveWithin _
  simp only [Dispatcher.refresh, driven.scheduler]
  split
  · exact ⟨driven.setClient .running, rfl⟩
  · exact ⟨driven, rfl⟩

end Resembles

end Dispatcher

end ChatDispatch
