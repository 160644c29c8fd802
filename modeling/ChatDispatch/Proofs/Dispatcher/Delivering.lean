import Mathlib.Data.List.TakeWhile
import ChatDispatch.Proofs.Dispatcher.Apart
import ChatDispatch.Proofs.Dispatcher.FirstWins
import ChatDispatch.Proofs.Scheduler

/-!
# Who is told what

Every handler that is stored is told once, and so is every command that is removed.  At the end
of an operation that has changed the commands this is told as well.  An operation that is
refused, or that only concerns a usage, is not told at all.

A refresh stores the handlers of the ledger of what it reads, up to the first reading at fault.
-/

namespace ChatDispatch

open CommandTables

namespace Event

def stored (agent command : Value) : Event :=
  ⟨.commandRegistered, Dispatcher.commandPayload agent command⟩

def removed (agent command : Value) : Event :=
  ⟨.commandUnregistered, Dispatcher.commandPayload agent command⟩

def changed : Event :=
  ⟨.commandsChanged, []⟩

/-- What is told when commands are stored one after the other. -/
def ofEntries (entries : List Entry) : List Event :=
  entries.map fun entry => stored entry.agent entry.command

/-- What is told when the tables are rebuilt from readings. -/
def ofReadings (readings : List Reading) : List Event :=
  ofEntries (Ledger.ofReadings (readings.takeWhile Reading.isSound)).entries ++
    if readings.all Reading.isSound then [changed] else []

/-- What is told when a declared command has been registered. -/
def ofDeclaration (declaration : Declaration) : List Event :=
  match declaration.normalize with
  | .ok command =>
      match command.name with
      | .text id => [stored (.text (splitId id).1) (.text (splitId id).2), changed]
      | _ => []
  | .error _ => []

/-- What is told if a request has been accepted. -/
def ifAccepted (outcome : Except Fault Bool) (events : List Event) : List Event :=
  match outcome with
  | .ok true => events
  | _ => []

theorem ifAccepted_of_ne {outcome : Except Fault Bool} (refused : outcome ≠ .ok true)
    (events : List Event) : ifAccepted outcome events = [] := by
  unfold ifAccepted
  split
  · contradiction
  · rfl

theorem ofEntries_append (first second : List Entry) :
    ofEntries (first ++ second) = ofEntries first ++ ofEntries second :=
  List.map_append

end Event

namespace Dispatcher

variable {state : Dispatcher}

/-- Whether a refresh gets to read the plugins. -/
def reads (state : Dispatcher) : Bool :=
  match state.source with
  | .absent => false
  | .direct => true
  | .suspending => state.sourceFailure.isNone

/-- What is told in the course of an operation. -/
def events (state : Dispatcher) : Operation → List Event
  | .request (.register agent command handler) =>
      Event.ifAccepted (state.register agent command handler).2
        [.stored agent command, .changed]
  | .request (.unregister agent command) =>
      Event.ifAccepted (state.unregister agent command).2 [.removed agent command, .changed]
  | .declare declaration =>
      Event.ifAccepted (state.registerCommand declaration).2 (Event.ofDeclaration declaration)
  | .refresh => if state.reads then Event.ofReadings state.readings else []
  | _ => []

/-- Everybody who listens has noted the events. -/
structure Noted (before after : Dispatcher) (events : List Event) : Prop where
  subscriptions : after.subscriptions = before.subscriptions
  notes : after.notes = before.notes ++ events.flatMap (heard before.subscriptions)

namespace Noted

variable {before middle after : Dispatcher}

theorem of_same (subscriptions : after.subscriptions = before.subscriptions)
    (deliveries : after.deliveries = before.deliveries) : Noted before after [] where
  subscriptions := subscriptions
  notes := by
    have same : after.notes = before.notes := congrArg (List.map Delivery.note) deliveries
    rw [same, List.flatMap_nil, List.append_nil]

theorem trans {first second : List Event} (start : Noted before middle first)
    (rest : Noted middle after second) : Noted before after (first ++ second) where
  subscriptions := rest.subscriptions.trans start.subscriptions
  notes := by
    rw [rest.notes, start.notes, start.subscriptions, List.flatMap_append, List.append_assoc]

theorem inert {events : List Event} (noted : Noted before after events)
    (inert : before.Inert) : after.Inert :=
  inert.of_same noted.subscriptions

theorem announce (inert : state.Inert) {topic : Topic} (ofCommands : topic ∈ Topic.ofCommands)
    (payload : List Value) :
    Noted state (Dispatcher.announce topic payload state) [⟨topic, payload⟩] := by
  rw [announce_of_inert inert ofCommands]
  refine ⟨rfl, ?_⟩
  rw [notes_noting, List.flatMap_singleton]

end Noted

theorem noted_register (inert : state.Inert) (agent command : Value)
    (handler : Option Handler) :
    Noted state (state.register agent command handler).1
      (Event.ifAccepted (state.register agent command handler).2
        [.stored agent command, .changed]) := by
  rcases added : state.tables.addHandler agent command handler with
    ⟨tables, fault | ⟨- | refusal⟩⟩
  · simp only [register, addHandler, addHandlerWith, added]
    exact .of_same rfl rfl
  · have placed : Noted state { state with tables } [] := .of_same rfl rfl
    have told := placed.trans (.announce (placed.inert inert)
      (by decide : Topic.commandRegistered ∈ Topic.ofCommands) (commandPayload agent command))
    simp only [register, addHandler, addHandlerWith, added]
    exact told.trans (.announce (told.inert inert) (by decide) [])
  · simp only [register, addHandler, addHandlerWith, added]
    exact .of_same rfl rfl

theorem noted_unregister (inert : state.Inert) (agent command : Value) :
    Noted state (state.unregister agent command).1
      (Event.ifAccepted (state.unregister agent command).2
        [.removed agent command, .changed]) := by
  have taken : Noted state { state with tables := (state.tables.remove agent command).1 } [] :=
    .of_same rfl rfl
  have told := taken.trans (.announce (taken.inert inert)
    (by decide : Topic.commandUnregistered ∈ Topic.ofCommands) (commandPayload agent command))
  unfold unregister removeHandlerWith
  dsimp only
  split
  · exact told.trans (.announce (told.inert inert) (by decide) [])
  · rename_i refused
    rw [Event.ifAccepted_of_ne refused]
    exact taken

theorem noted_registerUsage (state : Dispatcher) (usage : Option Usage) :
    Noted state (state.registerUsage usage).1 [] := by
  cases usage <;> exact .of_same rfl rfl

theorem noted_registerCommand (inert : state.Inert) (declaration : Declaration) :
    Noted state (state.registerCommand declaration).1
      (Event.ifAccepted (state.registerCommand declaration).2
        (Event.ofDeclaration declaration)) := by
  rcases registerCommand_cases state declaration with
    ⟨outcome, same, refused⟩ | ⟨command, id, normal, named, ⟨refused, same⟩ | ⟨accepted, same⟩⟩
  · rw [same, Event.ifAccepted_of_ne refused]
    exact .of_same rfl rfl
  · have told := noted_register inert (.text (splitId id).1) (.text (splitId id).2)
      (some (handlerOf declaration command))
    rw [Event.ifAccepted_of_ne refused] at told
    rw [same, Event.ifAccepted_of_ne refused]
    exact told
  · have told := noted_register inert (.text (splitId id).1) (.text (splitId id).2)
      (some (handlerOf declaration command))
    rw [accepted] at told
    have ofDeclaration : Event.ofDeclaration declaration =
        [.stored (.text (splitId id).1) (.text (splitId id).2), .changed] := by
      simp only [Event.ofDeclaration, normal, named]
    rw [same, ofDeclaration]
    exact told.trans (noted_registerUsage _ _)

theorem noted_install (inert : state.Inert) (entry : Entry) :
    Noted state (state.install entry) [.stored entry.agent entry.command] := by
  have placed : Noted state (state.placeHandler entry.agent entry.command entry.handler) [] :=
    .of_same rfl rfl
  have told := placed.trans (.announce (placed.inert inert)
    (by decide : Topic.commandRegistered ∈ Topic.ofCommands)
    (commandPayload entry.agent entry.command))
  have described : Noted (state.tellStored entry) (state.install entry) [] := .of_same rfl rfl
  exact told.trans described

theorem noted_foldl_addBuiltin (builtins : List Builtin) {entries : List Entry}
    (distinct :
      (entries ++ builtins.map Builtin.entry).Pairwise fun earlier later =>
        earlier.isOf later.agent later.command = false)
    (inert : state.Inert) (kept : state.tables = ofEntries entries) :
    Noted state (builtins.foldl (addBuiltin true) state)
      (Event.ofEntries (builtins.map Builtin.entry)) := by
  induction builtins generalizing state entries with
  | nil => exact .of_same rfl rfl
  | cons builtin rest induction =>
      have absent :
          (state.tables.handler? builtin.entry.agent builtin.entry.command).isSome = false :=
        kept ▸ isSome_handler?_of_distinct distinct
      have told := noted_install inert builtin.entry
      have stored : (state.install builtin.entry).tables =
          ofEntries (entries ++ [builtin.entry]) :=
        tables_install_of_quiet builtin.entry inert.silent.quiet kept
      rw [List.foldl_cons, addBuiltin_of_absent absent]
      exact told.trans (induction (by simpa using distinct) (told.inert inert) stored)

theorem noted_start (inert : state.Inert) :
    Noted state (Rebuild.start state).state
      (Event.ofEntries (Builtin.all.map Builtin.entry)) := by
  have distinct :
      ([] ++ Builtin.all.map Builtin.entry).Pairwise fun earlier later : Entry =>
        earlier.isOf later.agent later.command = false := by
    decide +kernel
  have emptied : Noted state state.cleared [] := .of_same rfl rfl
  rw [start_state]
  exact emptied.trans
    (noted_foldl_addBuiltin Builtin.all distinct (emptied.inert inert) rfl)

theorem noted_step {rebuild next : Rebuild} {ledger : Ledger} {reading : Reading}
    (mirrors : Mirrors rebuild ledger) (inert : rebuild.state.Inert)
    (step : Rebuild.Step rebuild reading next) :
    ∃ newer, (ledger.enter reading).kept = ledger.kept ++ newer ∧
      Noted rebuild.state next.state (Event.ofEntries newer) := by
  cases step with
  | @failed failure verdict =>
      refine ⟨[], ?_, .of_same rfl rfl⟩
      simp only [Ledger.enter, verdict, Ledger.fail, List.append_nil]
  | @duplicate handle agent command verdict present =>
      rw [mirrors.tables, isSome_handler?_ofEntries] at present
      refine ⟨[], ?_, .of_same rfl rfl⟩
      simp only [Ledger.enter, verdict, present, if_true, Ledger.fail, List.append_nil]
  | @stored handle agent command verdict absent =>
      rw [mirrors.tables, isSome_handler?_ofEntries] at absent
      refine ⟨[pluginEntry handle agent command], ?_, noted_install inert _⟩
      simp only [Ledger.enter, verdict, absent, Bool.false_eq_true, if_false]

theorem noted_steps {rebuild next : Rebuild} {ledger : Ledger} {readings : List Reading}
    (mirrors : Mirrors rebuild ledger) (inert : rebuild.state.Inert)
    (steps : Rebuild.Steps rebuild readings next) :
    ∃ newer, (readings.foldl Ledger.enter ledger).kept = ledger.kept ++ newer ∧
      Noted rebuild.state next.state (Event.ofEntries newer) := by
  induction steps generalizing ledger with
  | nil => exact ⟨[], (List.append_nil _).symm, .of_same rfl rfl⟩
  | cons step _ induction =>
      obtain ⟨first, kept, told⟩ := noted_step mirrors inert step
      obtain ⟨second, keptLater, toldLater⟩ :=
        induction (mirrors_of_step mirrors step) (told.inert inert)
      refine ⟨first ++ second, ?_, ?_⟩
      · rw [List.foldl_cons, keptLater, kept, List.append_assoc]
      · rw [Event.ofEntries_append]
        exact told.trans toldLater

/-- Up to the first reading at fault, all commands of the ledger are stored and told. -/
theorem noted_of_steps_start (inert : state.Inert) {readings : List Reading} {done : Rebuild}
    (steps : Rebuild.Steps (Rebuild.start state) readings done) :
    Noted state done.state (Event.ofEntries (Ledger.ofReadings readings).entries) := by
  have started := noted_start inert
  obtain ⟨newer, kept, told⟩ := noted_steps (mirrors_start inert.follows inert.silent.quiet)
    (started.inert inert) steps
  have same : (Ledger.ofReadings readings).entries =
      Builtin.all.map Builtin.entry ++ newer := by
    rw [Ledger.entries, Ledger.ofReadings, kept]
    rfl
  rw [same, Event.ofEntries_append]
  exact started.trans told

/-- A rebuild goes through what it reads up to the first reading at fault. -/
theorem rebuild_takes (follows : state.FollowsPlugins) (handles : List Nat) :
    let readings := handles.flatMap (readingsOf state.plugins)
    ∃ done : Rebuild,
      Rebuild.Steps (Rebuild.start state) (readings.takeWhile Reading.isSound) done ∧
        (readings.all Reading.isSound = true ∧
            state.rebuild handles = (done.result, .ok done.count) ∨
          readings.all Reading.isSound = false ∧
            ∃ handlers fault,
              state.rebuild handles = (done.state.withHandlers handlers, .error fault) ∧
              ∀ agent command,
                find? agent command handlers =
                  find? agent command done.state.tables.handlers) := by
  intro readings
  by_cases sound : ∀ reading ∈ readings, reading.isSound = true
  · obtain ⟨done, steps, rebuilt⟩ := rebuild_of_sound follows sound
    refine ⟨done, ?_, .inl ⟨List.all_eq_true.mpr sound, rebuilt⟩⟩
    rw [List.takeWhile_eq_self_iff.mpr sound]
    exact steps
  · obtain ⟨passed, reading, rest, fault, split, passedSound, faulty⟩ :=
      Reading.exists_first_faulty sound
    obtain ⟨middle, handlers, steps, stopped, same⟩ :=
      Rebuild.readAll_of_faulty (Rebuild.start state) rest passedSound faulty
    have unsound : ¬reading.isSound = true := by simp [Reading.isSound, faulty]
    refine ⟨middle, ?_, .inr ⟨?_, handlers, fault, ?_, same⟩⟩
    · rw [split, List.takeWhile_append_of_pos passedSound, List.takeWhile_cons_of_neg unsound,
        List.append_nil]
      exact steps
    · rw [← Bool.not_eq_true, List.all_eq_true]
      exact sound
    · have read : handles.flatMap (readingsOf state.plugins) = passed ++ reading :: rest := split
      rw [rebuild_eq_readAll follows, read, stopped]

theorem noted_conclude (inert : state.Inert) (party : Party) :
    Noted state (conclude party state) (Event.ofReadings state.readings) := by
  obtain ⟨done, steps, ⟨sound, rebuilt⟩ | ⟨unsound, handlers, fault, stopped, -⟩⟩ :=
    rebuild_takes inert.follows state.enabledHandles
  all_goals have told := noted_of_steps_start inert steps
  · have released : Noted done.state done.result.release [] := .of_same rfl rfl
    have before := told.trans released
    have changed : Noted done.result.release
        (announce .commandsChanged [] done.result.release) [.changed] :=
      .announce (before.inert inert) (by decide) []
    have after : Noted (announce .commandsChanged [] done.result.release)
        (tell party (.ok done.count) (announce .commandsChanged [] done.result.release)) [] :=
      .of_same rfl rfl
    have whole := (before.trans changed).trans after
    rw [conclude, rebuilt, Event.ofReadings, readings, if_pos sound]
    simpa using whole
  · have after : Noted done.state
        (tell party (.error fault) (done.state.withHandlers handlers).release) [] :=
      .of_same rfl rfl
    have whole := told.trans after
    rw [conclude, stopped, Event.ofReadings, readings, unsound]
    simpa using whole

/-- A refresh of the client gets the lock, and nothing else is ready to go on in the meantime. -/
structure Settled (state : Dispatcher) : Prop where
  free : state.scheduler.isFree = true
  idle : state.source = .suspending → state.scheduler.ready = []

theorem drive_of_asked (idle : state.scheduler.ready = [])
    (waits : state.scheduler.client = .refreshing) {outcome : Except Fault Nat}
    (told : (answer .client state).scheduler.client = .refreshed outcome) :
    (state.reschedule fun scheduler => scheduler.push (.answered .client)).drive =
      answer .client state := by
  let asking := state.reschedule fun scheduler => scheduler.push (.answered .client)
  have suspended : asking.scheduler.isSuspended = true := by
    have same : asking.scheduler.client = .refreshing := waits
    rw [Scheduler.isSuspended, same]
  have ready : asking.scheduler.ready = [.answered .client] := by
    simp [asking, reschedule, Scheduler.push, idle]
  have emptied : (asking.reschedule fun scheduler => { scheduler with ready := [] }) = state := by
    simp only [asking, reschedule, Scheduler.push, ← idle]
  have woken : asking.wakeFirst = answer .client state := by
    rw [wakeFirst, ready]
    dsimp only
    rw [emptied, wake]
  have fuel : 8 * (asking.scheduler.jobs + 1) + asking.scheduler.ready.length =
      8 * asking.scheduler.jobs + 7 + asking.scheduler.ready.length + 1 := by
    omega
  show asking.drive = answer .client state
  rw [drive, fuel, driveWithin, if_pos suspended, woken, driveWithin_of_told _ told]

theorem refresh_of_driven {driven : Dispatcher} {outcome : Except Fault Nat}
    (same : (enter .client (state.setClient .refreshing)).drive = driven)
    (told : driven.scheduler.client = .refreshed outcome) :
    state.refresh = (driven.unlocked, outcome) := by
  unfold refresh
  rw [same]
  dsimp only
  rw [told]
  rfl

theorem client_conclude (follows : state.FollowsPlugins) :
    (conclude .client state).scheduler.client =
      .refreshed (state.rebuild state.enabledHandles).2 := by
  rw [scheduler_conclude follows]
  rfl

theorem enter_of_settled (settled : state.Settled) :
    enter .client (state.setClient .refreshing) = proceed .client state.locked := by
  have free : (state.setClient .refreshing).scheduler.isFree = true := settled.free
  rw [enter, if_pos free]
  rfl

theorem refresh_of_absent (settled : state.Settled) (source : state.source = .absent) :
    state.refresh = (state.locked.release.unlocked, .ok 0) := by
  have absent : state.locked.source = .absent := source
  have told : (tell .client (.ok 0) state.locked.release).scheduler.client =
      .refreshed (.ok 0) := rfl
  have same : (enter .client (state.setClient .refreshing)).drive =
      tell .client (.ok 0) state.locked.release := by
    rw [enter_of_settled settled, proceed, absent]
    exact drive_of_told _ told
  have ended := refresh_of_driven same told
  exact ended

theorem refresh_of_direct (follows : state.FollowsPlugins) (settled : state.Settled)
    (source : state.source = .direct) :
    state.refresh = ((conclude .client state.locked).unlocked,
      (state.locked.rebuild state.enabledHandles).2) := by
  have direct : state.locked.source = .direct := source
  have lockedFollows : state.locked.FollowsPlugins := follows
  have told := client_conclude lockedFollows
  have same : (enter .client (state.setClient .refreshing)).drive =
      conclude .client state.locked := by
    rw [enter_of_settled settled, proceed, direct]
    exact drive_of_told _ told
  exact refresh_of_driven same told

/-- A source that suspends answers with the plugins, or fails. -/
theorem refresh_of_suspending (settled : state.Settled) (source : state.source = .suspending)
    {outcome : Except Fault Nat}
    (told : (answer .client state.locked).scheduler.client = .refreshed outcome) :
    state.refresh = ((answer .client state.locked).unlocked, outcome) := by
  have suspending : state.locked.source = .suspending := source
  have ready : state.locked.scheduler.ready = [] := settled.idle source
  have same : (enter .client (state.setClient .refreshing)).drive =
      answer .client state.locked := by
    rw [enter_of_settled settled, proceed, suspending]
    exact drive_of_asked ready rfl told
  exact refresh_of_driven same told

/-- A refresh concludes, or it has nothing to read and ends at once. -/
theorem refresh_of_settled (follows : state.FollowsPlugins) (settled : state.Settled) :
    state.reads = false ∧
        (∃ outcome, state.refresh = (state.locked.release.unlocked, outcome)) ∨
      state.reads = true ∧
        state.refresh = ((conclude .client state.locked).unlocked,
          (state.locked.rebuild state.enabledHandles).2) := by
  cases source : state.source with
  | absent =>
      rw [reads, source]
      exact .inl ⟨rfl, .ok 0, refresh_of_absent settled source⟩
  | direct =>
      rw [reads, source]
      exact .inr ⟨rfl, refresh_of_direct follows settled source⟩
  | suspending =>
      rw [reads, source]
      cases failure : state.sourceFailure with
      | none =>
          have sound : state.locked.sourceFailure = none := failure
          have answered : answer .client state.locked = conclude .client state.locked := by
            rw [answer, sound]
          have lockedFollows : state.locked.FollowsPlugins := follows
          have told := client_conclude lockedFollows
          rw [← answered] at told
          have ended := refresh_of_suspending settled source told
          rw [answered] at ended
          exact .inr ⟨rfl, ended⟩
      | some message =>
          have failing : state.locked.sourceFailure = some message := failure
          let fault : Fault := .raised .runtime message
          have answered : answer .client state.locked =
              tell .client (.error fault) state.locked.release := by
            rw [answer, failing]
          have told : (answer .client state.locked).scheduler.client =
              .refreshed (.error fault) := by
            rw [answered]
            rfl
          have ended := refresh_of_suspending settled source told
          rw [answered] at ended
          exact .inl ⟨rfl, .error fault, ended⟩

theorem noted_refresh (inert : state.Inert) (settled : state.Settled) :
    Noted state state.refresh.1 (state.events .refresh) := by
  have locking : Noted state state.locked [] := .of_same rfl rfl
  rcases refresh_of_settled inert.follows settled with
    ⟨nothing, outcome, ended⟩ | ⟨something, ended⟩
  · rw [ended, events, nothing, if_neg Bool.false_ne_true]
    exact .of_same rfl rfl
  · have same : state.locked.readings = state.readings := rfl
    have concluded := locking.trans (noted_conclude (locking.inert inert) .client)
    have unlocking : Noted (conclude .client state.locked)
        (conclude .client state.locked).unlocked [] := .of_same rfl rfl
    have whole := concluded.trans unlocking
    rw [ended, events, if_pos something, ← same]
    simpa using whole

/-- The handlers after a refresh are those that it has told. -/
theorem isSome_handler?_refresh (inert : state.Inert) (settled : state.Settled)
    (something : state.reads = true) (agent command : Value) :
    (state.refresh.1.tables.handler? agent command).isSome =
      (Ledger.ofReadings (state.readings.takeWhile Reading.isSound)).entries.any
        (Entry.isOf agent command) := by
  have lockedFollows : state.locked.FollowsPlugins := inert.follows
  have lockedSilent : state.locked.Silent := inert.silent
  rcases refresh_of_settled inert.follows settled with ⟨nothing, -⟩ | ⟨-, ended⟩
  · cases nothing.symm.trans something
  · obtain ⟨done, steps, ⟨-, rebuilt⟩ | ⟨-, handlers, fault, stopped, same⟩⟩ :=
      rebuild_takes lockedFollows state.locked.enabledHandles
    all_goals
      have mirrors := mirrors_of_steps (mirrors_start lockedFollows lockedSilent.quiet) steps
    all_goals
      have kept : (find? agent command done.state.tables.handlers).isSome =
          (Ledger.ofReadings (state.readings.takeWhile Reading.isSound)).entries.any
            (Entry.isOf agent command) := by
        rw [mirrors.tables]
        exact isSome_handler?_ofEntries _ agent command
    · have untouched : (conclude .client state.locked).tables = done.state.tables := by
        rw [conclude, rebuilt]
        exact tables_announce_of_quiet (by decide) [] mirrors.quiet
      rw [ended]
      exact (congrArg (fun tables => (CommandTables.handler? tables agent command).isSome)
        untouched).trans kept
    · have left : (conclude .client state.locked).tables.handlers = handlers := by
        rw [conclude, stopped]
        rfl
      rw [ended, handler?_eq]
      rw [show (conclude .client state.locked).unlocked.tables.handlers = handlers from left,
        same]
      exact kept

theorem settled_of_same {before after : Dispatcher} (settled : before.Settled)
    (source : after.source = before.source) (free : after.scheduler.isFree = true)
    (ready : after.scheduler.ready = before.scheduler.ready) : after.Settled where
  free := free
  idle := fun suspending => ready.trans (settled.idle (source ▸ suspending))

theorem settled_refresh (follows : state.FollowsPlugins) (settled : state.Settled) :
    state.refresh.1.Settled := by
  have nobody : state.locked.scheduler.waiting = [] := (Scheduler.isFree_iff.mp settled.free).2
  have ready : state.locked.scheduler.release.ready = state.scheduler.ready := by
    simp only [Scheduler.release, nobody]
    rfl
  have lockedFollows : state.locked.FollowsPlugins := follows
  rcases refresh_of_settled follows settled with ⟨-, outcome, ended⟩ | ⟨-, ended⟩
  · rw [ended]
    exact settled_of_same settled rfl (isFree_release nobody) ready
  · have scheduler := scheduler_conclude lockedFollows .client
    have source : (conclude .client state.locked).source = state.source :=
      (closes_conclude lockedFollows .client).source
    rw [ended]
    refine settled_of_same settled source ?_ ?_
    · rw [unlocked, setClient, reschedule, scheduler]
      exact isFree_release nobody
    · rw [unlocked, setClient, reschedule, scheduler]
      exact ready

/-- Whether an operation is a call that concerns commands; listeners that subscribe are to be
inert. -/
def Operation.isCall : Operation → Bool
  | .request _ => true
  | .declare _ => true
  | .refresh => true
  | .subscribe _ listener =>
      !(Subscriber.listener listener).alters && (Subscriber.listener listener).stays
  | .unsubscribe _ _ => true
  | _ => false

/-- Whether an operation only changes who listens. -/
def Operation.isSubscribing : Operation → Bool
  | .subscribe _ _ => true
  | .unsubscribe _ _ => true
  | _ => false

def resubscribe (subscriptions : List (Topic × Subscriber)) :
    Operation → List (Topic × Subscriber)
  | .subscribe topic listener => subscriptions ++ [(topic, .listener listener)]
  | .unsubscribe topic listener => subscriptions.erase (topic, .listener listener)
  | _ => subscriptions

/-- What is to be noted in the course of operations: every event that they would lead to if
nobody listened, by those who listen at the time. -/
def expectedNotes (subscriptions : List (Topic × Subscriber)) (alone : Dispatcher) :
    List Operation → List (String × Event)
  | [] => []
  | operation :: rest =>
      (alone.events operation).flatMap (heard subscriptions) ++
        expectedNotes (resubscribe subscriptions operation)
          (if operation.isSubscribing then alone else (alone.operate operation).1) rest

/-- When nobody listens, nothing that concerns commands begins a refresh. -/
theorem ignores_settled_alone :
    Ignores fun state => state.subscriptions = [] ∧ state.Settled where
  tables := fun _ both => ⟨both.1, both.2.free, both.2.idle⟩
  announce := fun topic payload both => by
    rw [announce_of_nobody both.1]
    exact both

variable {alone : Dispatcher}

namespace Resembles

theorem events (resembles : Resembles state alone) (operation : Operation) :
    alone.events operation = state.events operation := by
  cases operation with
  | request request =>
      cases request with
      | register agent command handler =>
          rw [Dispatcher.events, (resembles.register agent command handler).2]
          rfl
      | registerUsage usage => rfl
      | unregister agent command =>
          rw [Dispatcher.events, (resembles.unregister agent command).2]
          rfl
  | declare declaration =>
      rw [Dispatcher.events, (resembles.registerCommand declaration).2]
      rfl
  | refresh =>
      have sameReadings : alone.readings = state.readings :=
        readings_congr resembles.plugins resembles.registered
      have sameReads : alone.reads = state.reads := by
        rw [reads, reads, resembles.source, resembles.sourceFailure]
      rw [Dispatcher.events, Dispatcher.events, sameReadings, sameReads]
  | _ => rfl

theorem settled (resembles : Resembles state alone) (settled : alone.Settled) :
    state.Settled where
  free := resembles.scheduler ▸ settled.free
  idle := fun suspending =>
    resembles.scheduler ▸ settled.idle (resembles.source.trans suspending)

/-- A call that concerns commands answers as if nobody listened, and is told as it should. -/
theorem operate (resembles : Resembles state alone) {operation : Operation}
    (call : operation.isCall = true) (other : operation.isSubscribing = false) :
    Resembles (state.operate operation).1 (alone.operate operation).1 ∧
      (alone.operate operation).2 = (state.operate operation).2 ∧
      (alone.Settled → (alone.operate operation).1.Settled ∧
        Noted state (state.operate operation).1 (alone.events operation)) := by
  cases operation with
  | request request =>
      obtain ⟨after, outcome⟩ := resembles.perform request
      have told : Noted state (state.perform request).1 (state.events (.request request)) := by
        cases request with
        | register agent command handler => exact noted_register resembles.inert _ _ _
        | registerUsage usage => exact noted_registerUsage _ _
        | unregister agent command => exact noted_unregister resembles.inert _ _
      refine ⟨after, congrArg (some ∘ Answer.accepted) outcome, fun settled => ?_⟩
      rw [resembles.events]
      exact ⟨(ignores_settled_alone.perform request ⟨resembles.nobody, settled⟩).2, told⟩
  | declare declaration =>
      obtain ⟨after, outcome⟩ := resembles.registerCommand declaration
      refine ⟨after, congrArg (some ∘ Answer.accepted) outcome, fun settled => ?_⟩
      rw [resembles.events]
      exact ⟨(ignores_settled_alone.registerCommand declaration
        ⟨resembles.nobody, settled⟩).2, noted_registerCommand resembles.inert declaration⟩
  | refresh =>
      obtain ⟨after, outcome⟩ := resembles.refresh
      refine ⟨after, congrArg (some ∘ Answer.counted) outcome, fun settled => ?_⟩
      rw [resembles.events]
      exact ⟨settled_refresh resembles.follows settled,
        noted_refresh resembles.inert (resembles.settled settled)⟩
  | subscribe topic listener => cases other
  | unsubscribe topic listener => cases other
  | attach => cases call
  | registerPlugin handle sort => cases call
  | unregisterPlugin id sort => cases call
  | addPlugin plugin => cases call
  | setPlugin handle plugin => cases call
  | wakeFirst => cases call

/-- Whoever subscribes or leaves, the dispatcher without anybody who listens stays the same. -/
theorem resubscribe (resembles : Resembles state alone) {operation : Operation}
    (call : operation.isCall = true) (subscribing : operation.isSubscribing = true) :
    Resembles (state.operate operation).1 alone ∧ (state.operate operation).2 = none ∧
      (state.operate operation).1.subscriptions =
        Dispatcher.resubscribe state.subscriptions operation ∧
      (state.operate operation).1.notes = state.notes := by
  obtain ⟨⟨follows, silent, staying⟩, same⟩ := resembles
  cases operation with
  | subscribe topic listener =>
      obtain ⟨quiet, stays⟩ := Bool.and_eq_true_iff.mp call
      have quietly : (Subscriber.listener listener).alters = false := by simpa using quiet
      exact ⟨⟨⟨followsPlugins_listener follows topic listener,
        forall_mem_subscribe silent quietly, forall_mem_subscribe staying stays⟩, same⟩,
        rfl, rfl, rfl⟩
  | unsubscribe topic listener =>
      refine ⟨⟨⟨?_, ?_, ?_⟩, same⟩, rfl, rfl, rfl⟩
      · exact fun entry member => follows entry (List.mem_of_mem_erase member)
      · exact fun entry member => silent entry (List.mem_of_mem_erase member)
      · exact fun entry member => staying entry (List.mem_of_mem_erase member)
  | request request => cases subscribing
  | declare declaration => cases subscribing
  | refresh => cases subscribing
  | attach => cases subscribing
  | registerPlugin handle sort => cases subscribing
  | unregisterPlugin id sort => cases subscribing
  | addPlugin plugin => cases subscribing
  | setPlugin handle plugin => cases subscribing
  | wakeFirst => cases subscribing

theorem operateAll (resembles : Resembles state alone) {operations : List Operation}
    (calls : ∀ operation ∈ operations, operation.isCall = true) :
    let unheeded := operations.filter fun operation => !operation.isSubscribing
    Resembles (state.operateAll operations).1 (alone.operateAll unheeded).1 ∧
      (alone.operateAll unheeded).2 = (state.operateAll operations).2 ∧
      (alone.Settled →
        (state.operateAll operations).1.notes =
          state.notes ++ expectedNotes state.subscriptions alone operations) := by
  induction operations generalizing state alone with
  | nil => exact ⟨resembles, rfl, fun _ => (List.append_nil _).symm⟩
  | cons operation rest induction =>
      obtain ⟨call, later⟩ := List.forall_mem_cons.mp calls
      cases subscribing : operation.isSubscribing with
      | true =>
          obtain ⟨next, silent, subscriptions, notes⟩ := resembles.resubscribe call subscribing
          obtain ⟨last, answers, noted⟩ := induction next later
          have nothing : alone.events operation = [] := by
            cases operation <;> first | rfl | cases subscribing
          rw [List.filter_cons_of_neg (by simp [subscribing])]
          refine ⟨last, ?_, fun settled => ?_⟩
          · rw [answers, Dispatcher.operateAll]
            simp only [silent, Option.toList_none, List.nil_append]
          · rw [Dispatcher.operateAll, expectedNotes, nothing, if_pos subscribing,
              List.flatMap_nil, List.nil_append, ← subscriptions, ← notes]
            exact noted settled
      | false =>
          obtain ⟨next, answer, delivers⟩ := resembles.operate call subscribing
          obtain ⟨last, answers, noted⟩ := induction next later
          have same : Dispatcher.resubscribe state.subscriptions operation =
              state.subscriptions := by
            cases operation <;> first | rfl | cases subscribing
          rw [List.filter_cons_of_pos (by simp [subscribing])]
          refine ⟨last, ?_, fun settled => ?_⟩
          · rw [Dispatcher.operateAll, Dispatcher.operateAll]
            simp only [answers, answer]
          · obtain ⟨nextSettled, told⟩ := delivers settled
            rw [Dispatcher.operateAll, expectedNotes, if_neg (by simp [subscribing]), same,
              ← List.append_assoc, ← told.notes, ← told.subscriptions]
            exact noted nextSettled

end Resembles

/-- Whatever plugins there are to read, a dispatcher that has been set up is ready for calls. -/
theorem ready_setUp (unused : state.Unused) (source : Source) (following : Bool) :
    (state.setUp source following).Inert ∧ (state.setUp source following).Settled := by
  have stored {connected : Dispatcher} (inert : connected.Inert) (settled : connected.Settled) :
      (connected.addBuiltins false).Inert ∧ (connected.addBuiltins false).Settled := by
    have resembles : Resembles connected connected.apart := ⟨inert, rfl⟩
    have after := resembles.foldl_addBuiltin false Builtin.all
    have unheeded := ignores_settled_alone.foldl_addBuiltin false Builtin.all
      ⟨resembles.nobody, ⟨settled.free, settled.idle⟩⟩
    exact ⟨after.inert, after.settled unheeded.2⟩
  have settled : Settled { state with source } := by
    refine ⟨?_, fun _ => ?_⟩
    · exact unused.scheduler ▸ rfl
    · exact unused.scheduler ▸ rfl
  have connected : Inert { state with source } :=
    ⟨fun entry member => absurd member (unused.nobody entry),
      fun entry member => absurd member (unused.nobody entry),
      fun entry member => absurd member (unused.nobody entry)⟩
  unfold setUp
  dsimp only
  split
  · refine stored ?_ ⟨settled.free, settled.idle⟩
    exact ⟨followsPlugins_follow connected.follows,
      forall_mem_follow connected.silent fun _ => rfl,
      forall_mem_follow connected.staying fun _ => rfl⟩
  · exact stored connected settled

/-- Calls that concern commands answer, and change the state, as if nobody listened, though any
listener may fail.  Unless other refreshes get in between, those who listen note every handler
that is stored, every command that is removed and that the commands have changed, once for each
of their subscriptions at that time and in the order of the subscriptions, and nothing else. -/
theorem delivery_is_exact (inert : state.Inert) {operations : List Operation}
    (calls : ∀ operation ∈ operations, operation.isCall = true) :
    let heeded := state.operateAll operations
    let alone := state.apart.operateAll (operations.filter fun operation =>
      !operation.isSubscribing)
    heeded.2 = alone.2 ∧ heeded.1.tables = alone.1.tables ∧ heeded.1.apart = alone.1 ∧
      (state.Settled →
        heeded.1.notes =
          state.notes ++ expectedNotes state.subscriptions state.apart operations) := by
  intro heeded alone
  have resembles : Resembles state state.apart := ⟨inert, rfl⟩
  obtain ⟨last, answers, noted⟩ := resembles.operateAll calls
  refine ⟨answers.symm, last.commandTables.symm, last.same, fun settled => ?_⟩
  exact noted ⟨settled.free, settled.idle⟩

/-- A listener that fails is told about a stored handler as often as it has subscribed, and is
told nothing of a duplicate and of a usage. -/
theorem delivery_is_exact_despite_failure :
    let failing : Listener := ⟨"failing", .commandRegistered, .fail⟩
    let registering :=
      Request.register (.text "a") (.text "b") (some (.direct (.function 0 "" true)))
    let operations : List Operation :=
      [.subscribe .commandRegistered failing, .subscribe .commandRegistered failing,
        .subscribe .commandsChanged failing, .request registering, .request registering,
        .unsubscribe .commandRegistered failing,
        .request (.registerUsage (some Builtin.help.usage)), .refresh]
    let state := blank.setUp .direct true
    let changed : String × Event := ("failing", ⟨.commandRegistered, []⟩)
    (state.operateAll operations).1.notes =
      [("failing", .stored (.text "a") (.text "b")), ("failing", .stored (.text "a") (.text "b")),
        changed] ++
      Builtin.all.map
        (fun builtin => ("failing", .stored builtin.entry.agent builtin.entry.command)) ++
      [changed] := by
  intro failing registering operations state changed
  have unused : blank.Unused := ⟨rfl, rfl, rfl⟩
  obtain ⟨inert, settled⟩ := ready_setUp unused .direct true
  have calls : ∀ operation ∈ operations, operation.isCall = true := by decide
  obtain ⟨-, -, -, noted⟩ := delivery_is_exact inert calls
  rw [noted settled]
  decide +kernel

end Dispatcher

end ChatDispatch
