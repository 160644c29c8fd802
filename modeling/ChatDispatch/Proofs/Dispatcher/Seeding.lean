import ChatDispatch.Proofs.Dispatcher.Ending

/-!
# The built-in commands stay

A rebuild empties the tables and stores the built-in commands before anything else, and the
first handler of a command wins.  So nobody gets their keys: neither a plugin, whatever its id,
nor a request, unless it removes them.  A rebuild that fails has stored them as well.

Only a listener could be faster, as it is told about the first built-in command before the
others are stored, or could take a built-in command away.
-/

namespace ChatDispatch

open CommandTables

/-- Whether a built-in command has these keys. -/
def Builtin.owns (agent command : Value) : Bool :=
  Builtin.all.any fun builtin => builtin.entry.isOf agent command

/-- Whether a subscriber leaves the keys of the built-in commands to them. -/
def Subscriber.spares : Subscriber → Bool
  | .listener ⟨_, _, .register agent command _⟩ => !Builtin.owns agent command
  | .listener ⟨_, _, .unregister agent command⟩ => !Builtin.owns agent command
  | .listener ⟨_, _, .describe usage⟩ => !Builtin.owns usage.agent usage.command
  | _ => true

/-- Whether a request removes no built-in command. -/
def Request.spares : Request → Bool
  | .unregister agent command => !Builtin.owns agent command
  | _ => true

/-- Whether a request is about a command that is not built-in. -/
def Request.isForeign : Request → Bool
  | .register agent command _ => !Builtin.owns agent command
  | .unregister agent command => !Builtin.owns agent command
  | .registerUsage none => true
  | .registerUsage (some usage) => !Builtin.owns usage.agent usage.command

theorem Builtin.mem_all (builtin : Builtin) : builtin ∈ Builtin.all := by
  cases builtin <;> decide

theorem Builtin.apart_of_not_owns {agent command : Value}
    (foreign : Builtin.owns agent command = false) (builtin : Builtin) :
    (agent == builtin.entry.agent && command == builtin.entry.command) = false := by
  have apart := List.any_eq_false.mp foreign builtin builtin.mem_all
  rw [Bool.not_eq_true] at apart
  rw [BEq.comm, @BEq.comm _ _ _ command]
  exact apart

theorem Builtin.apart_of_ne {builtin other : Builtin} (different : builtin ≠ other) :
    (builtin.entry.agent == other.entry.agent &&
      builtin.entry.command == other.entry.command) = false := by
  cases builtin <;> cases other <;> first | exact absurd rfl different | rfl

namespace CommandTables

/-- The built-in commands have their handlers. -/
def Seeded (tables : CommandTables) : Prop :=
  ∀ builtin : Builtin,
    tables.handler? builtin.entry.agent builtin.entry.command = some (.builtin builtin)

/-- The built-in commands have their handlers and their usages. -/
structure Furnished (tables : CommandTables) : Prop where
  seeded : tables.Seeded
  usages : ∀ builtin : Builtin,
    tables.usage? builtin.entry.agent builtin.entry.command = some builtin.usage

/-- The handlers and the usages of the built-in commands are the same. -/
structure Alike (before after : CommandTables) : Prop where
  handlers : ∀ builtin : Builtin,
    after.handler? builtin.entry.agent builtin.entry.command =
      before.handler? builtin.entry.agent builtin.entry.command
  usages : ∀ builtin : Builtin,
    after.usage? builtin.entry.agent builtin.entry.command =
      before.usage? builtin.entry.agent builtin.entry.command

theorem Alike.furnished {before after : CommandTables} (alike : Alike before after)
    (furnished : before.Furnished) : after.Furnished where
  seeded := fun builtin => (alike.handlers builtin).trans (furnished.seeded builtin)
  usages := fun builtin => (alike.usages builtin).trans (furnished.usages builtin)

theorem seeded_perform {tables : CommandTables} (seeded : tables.Seeded) {request : Request}
    (spares : request.spares = true) : (tables.perform request).1.Seeded := by
  intro builtin
  have found := seeded builtin
  cases request with
  | register agent command handler =>
      cases handler with
      | none => exact found
      | some handler =>
          rw [perform]
          rcases tables.addHandler_cases agent command handler with
            ⟨-, absent, stored⟩ | ⟨handlers, outcome, refused, -, same⟩
          · rw [stored]
            exact find?_place_of_absent absent handler found
          · rw [refused]
            exact (same _ _).trans found
  | registerUsage usage =>
      cases usage with
      | none => exact found
      | some usage =>
          rw [perform, handler?_eq, handlers_addUsage]
          exact found
  | unregister agent command =>
      have foreign : Builtin.owns agent command = false := by
        simpa [Request.spares] using spares
      exact (handler?_remove (Builtin.apart_of_not_owns foreign builtin) tables).trans found

theorem seeded_performAll {tables : CommandTables} (seeded : tables.Seeded)
    {requests : List Request} (spare : ∀ request ∈ requests, request.spares = true) :
    (tables.performAll requests).Seeded := by
  induction requests generalizing tables with
  | nil => exact seeded
  | cons request rest induction =>
      obtain ⟨here, later⟩ := List.forall_mem_cons.mp spare
      exact induction (seeded_perform seeded here) later

theorem alike_perform (tables : CommandTables) {request : Request}
    (foreign : request.isForeign = true) : Alike tables (tables.perform request).1 := by
  cases request with
  | registerUsage usage =>
      cases usage with
      | none => exact ⟨fun _ => rfl, fun _ => rfl⟩
      | some usage =>
          have apart : Builtin.owns usage.agent usage.command = false := by
            simpa [Request.isForeign] using foreign
          exact ⟨fun _ => handler?_addUsage tables usage _ _,
            fun builtin => usage?_addUsage (Builtin.apart_of_not_owns apart builtin) tables⟩
  | unregister agent command =>
      have apart : Builtin.owns agent command = false := by
        simpa [Request.isForeign] using foreign
      exact ⟨fun builtin => handler?_remove (Builtin.apart_of_not_owns apart builtin) tables,
        fun builtin => usage?_remove (Builtin.apart_of_not_owns apart builtin) tables⟩
  | register agent command handler =>
      have apart : Builtin.owns agent command = false := by
        simpa [Request.isForeign] using foreign
      have usages := usages_addHandler tables agent command handler
      refine ⟨fun builtin => ?_, fun _ => congrArg (find? _ _) usages⟩
      cases handler with
      | none => rfl
      | some handler =>
          rw [perform]
          rcases tables.addHandler_cases agent command handler with
            ⟨-, -, stored⟩ | ⟨handlers, outcome, refused, -, same⟩
          · rw [stored, handler?_eq, find?_place_of_apart (Builtin.apart_of_not_owns apart builtin)]
            rfl
          · rw [refused]
            exact same _ _

theorem alike_performAll (tables : CommandTables) {requests : List Request}
    (foreign : ∀ request ∈ requests, request.isForeign = true) :
    Alike tables (tables.performAll requests) := by
  induction requests generalizing tables with
  | nil => exact ⟨fun _ => rfl, fun _ => rfl⟩
  | cons request rest induction =>
      obtain ⟨here, later⟩ := List.forall_mem_cons.mp foreign
      have first := alike_perform tables here
      have tail := induction (tables.perform request).1 later
      exact ⟨fun builtin => (tail.handlers builtin).trans (first.handlers builtin),
        fun builtin => (tail.usages builtin).trans (first.usages builtin)⟩

end CommandTables

namespace Dispatcher

variable {state : Dispatcher}

/-- No listener is after the keys of a built-in command. -/
def Spares (state : Dispatcher) : Prop :=
  ∀ entry ∈ state.subscriptions, entry.2.spares = true

theorem Spares.of_subset {before after : Dispatcher} (spares : before.Spares)
    (subset : after.subscriptions ⊆ before.subscriptions) : after.Spares :=
  fun entry member => spares entry (subset member)

theorem isForeign_of_requested (spares : state.Spares) {request : Request}
    (requested : Requested state.subscriptions request) : request.isForeign = true := by
  obtain ⟨entry, member, ⟨name, topic, reaction⟩, listens, makes⟩ := requested
  have spared := spares entry member
  rw [listens] at spared
  cases reaction with
  | none => cases makes
  | fail => cases makes
  | leave => cases makes
  | register agent command handler =>
      obtain ⟨callable, rfl⟩ := makes
      exact spared
  | unregister agent command =>
      cases makes
      exact spared
  | describe usage =>
      cases makes
      exact spared

theorem spares_of_isForeign {request : Request} (foreign : request.isForeign = true) :
    request.spares = true := by
  cases request with
  | register agent command handler => rfl
  | registerUsage usage => rfl
  | unregister agent command => exact foreign

/-- Whatever is announced, nothing changes for the built-in commands. -/
theorem alike_announce (spares : state.Spares) (topic : Topic) (payload : List Value) :
    Alike state.tables (announce topic payload state).tables := by
  obtain ⟨requests, responds⟩ := responds_announce (List.Subset.refl _) topic payload
  rw [responds.tables]
  exact alike_performAll _ fun request member =>
    isForeign_of_requested spares (responds.requested request member)

theorem addBuiltin_of_stored {quiet : Bool} {builtin : Builtin}
    (stored :
      (state.addHandler quiet builtin.entry.agent builtin.entry.command
        (some (.builtin builtin))).2 = .ok none) :
    addBuiltin quiet state builtin =
      (state.addHandler quiet builtin.entry.agent builtin.entry.command
        (some (.builtin builtin))).1.placeUsage builtin.entry.agent builtin.entry.command
          builtin.usage := by
  have sameKeys : builtin.usage.agent = builtin.entry.agent ∧
      builtin.usage.command = builtin.entry.command := by
    cases builtin <;> exact ⟨rfl, rfl⟩
  have describable : Storable builtin.usage.agent builtin.usage.command := by
    rw [sameKeys.1, sameKeys.2]
    exact storable_builtin builtin
  rcases handled : state.addHandler quiet builtin.entry.agent builtin.entry.command
    (some (.builtin builtin)) with ⟨after, outcome⟩
  rw [handled] at stored
  simp only [Builtin.entry] at handled stored
  simp only [addBuiltin, handled, stored, registerUsage, addUsage_of_storable describable,
    sameKeys.1, sameKeys.2]
  rfl

/-- The handler of a built-in command that has none yet is stored.  Listeners that are told may
change the tables in turn, but not what is built in. -/
theorem addHandler_alike (spares : state.Spares) (quiet : Bool) {builtin : Builtin}
    (absent : (state.tables.handler? builtin.entry.agent builtin.entry.command).isSome = false) :
    let handled :=
      state.addHandler quiet builtin.entry.agent builtin.entry.command (some (.builtin builtin))
    handled.2 = .ok none ∧ handled.1.subscriptions ⊆ state.subscriptions ∧
      Alike
        { state.tables with
          handlers := place builtin.entry.agent builtin.entry.command (.builtin builtin)
            state.tables.handlers }
        handled.1.tables := by
  intro handled
  have fresh := addHandler_of_fresh (storable_builtin builtin) absent (.builtin builtin)
  have responding := responding_announce (closed_requested state.subscriptions)
  obtain ⟨requests, responds⟩ :=
    responds_addHandlerWith responding (fun _ _ => trivial) quiet builtin.entry.agent
      builtin.entry.command (some (.builtin builtin)) (List.Subset.refl state.subscriptions)
  refine ⟨?_, responds.leaves, ?_⟩
  · exact (outcome_addHandlerWith announce quiet builtin.entry.agent builtin.entry.command
      (some (.builtin builtin)) state).trans (congrArg Prod.snd fresh)
  · have told := responds.tables
    simp only [CommandTables.perform, fresh] at told
    have tables : handled.1.tables = _ := told
    rw [tables]
    exact alike_performAll _ fun request member =>
      isForeign_of_requested spares (responds.requested request member)

/-- A built-in command that has no handler yet gets its handler and its usage, and nothing
changes for the others. -/
theorem addBuiltin_furnishes (spares : state.Spares) (quiet : Bool) {builtin : Builtin}
    (absent : (state.tables.handler? builtin.entry.agent builtin.entry.command).isSome = false) :
    let tables := (addBuiltin quiet state builtin).tables
    (addBuiltin quiet state builtin).subscriptions ⊆ state.subscriptions ∧
      tables.handler? builtin.entry.agent builtin.entry.command = some (.builtin builtin) ∧
      tables.usage? builtin.entry.agent builtin.entry.command = some builtin.usage ∧
      ∀ other : Builtin, builtin ≠ other →
        tables.handler? other.entry.agent other.entry.command =
            state.tables.handler? other.entry.agent other.entry.command ∧
          tables.usage? other.entry.agent other.entry.command =
            state.tables.usage? other.entry.agent other.entry.command := by
  obtain ⟨stored, leaves, alike⟩ := addHandler_alike spares quiet absent
  intro tables
  simp only [tables, addBuiltin_of_stored stored]
  refine ⟨leaves, ?_, find?_place_self _ _ _ _, fun other different => ⟨?_, ?_⟩⟩
  · exact (alike.handlers builtin).trans (find?_place_self _ _ _ _)
  · exact (alike.handlers other).trans
      (find?_place_of_apart (Builtin.apart_of_ne different) _ _)
  · refine (find?_place_of_apart (Builtin.apart_of_ne different) _ _).trans ?_
    exact alike.usages other

/-- Built-in commands that have no handlers yet get their handlers and their usages. -/
theorem foldl_addBuiltin_furnishes (spares : state.Spares) (quiet : Bool)
    {builtins : List Builtin} (different : builtins.Nodup)
    (absent : ∀ builtin ∈ builtins,
      (state.tables.handler? builtin.entry.agent builtin.entry.command).isSome = false) :
    let after := builtins.foldl (addBuiltin quiet) state
    after.subscriptions ⊆ state.subscriptions ∧
      (∀ builtin ∈ builtins,
        after.tables.handler? builtin.entry.agent builtin.entry.command =
            some (.builtin builtin) ∧
          after.tables.usage? builtin.entry.agent builtin.entry.command =
            some builtin.usage) ∧
      ∀ other : Builtin, other ∉ builtins →
        after.tables.handler? other.entry.agent other.entry.command =
            state.tables.handler? other.entry.agent other.entry.command ∧
          after.tables.usage? other.entry.agent other.entry.command =
            state.tables.usage? other.entry.agent other.entry.command := by
  induction builtins generalizing state with
  | nil => exact ⟨List.Subset.refl _, by simp, fun _ _ => ⟨rfl, rfl⟩⟩
  | cons builtin rest induction =>
      obtain ⟨notAgain, differentRest⟩ := List.nodup_cons.mp different
      obtain ⟨absentHere, absentRest⟩ := List.forall_mem_cons.mp absent
      obtain ⟨subset, handler, usage, others⟩ := addBuiltin_furnishes spares quiet absentHere
      have stillAbsent : ∀ other ∈ rest,
          ((addBuiltin quiet state builtin).tables.handler? other.entry.agent
            other.entry.command).isSome = false := by
        intro other member
        have apart : builtin ≠ other := by
          rintro rfl
          exact notAgain member
        rw [(others other apart).1]
        exact absentRest other member
      obtain ⟨subsetRest, furnished, same⟩ :=
        induction (spares.of_subset subset) differentRest stillAbsent
      refine ⟨List.Subset.trans subsetRest subset, ?_, ?_⟩
      · intro other member
        rcases List.mem_cons.mp member with rfl | later
        · obtain ⟨sameHandler, sameUsage⟩ := same other notAgain
          exact ⟨sameHandler.trans handler, sameUsage.trans usage⟩
        · exact furnished other later
      · intro other absentOther
        obtain ⟨apart, notLater⟩ := not_or.mp (mt List.mem_cons.mpr absentOther)
        obtain ⟨sameHandler, sameUsage⟩ := same other notLater
        obtain ⟨firstHandler, firstUsage⟩ := others other (Ne.symm apart)
        exact ⟨sameHandler.trans firstHandler, sameUsage.trans firstUsage⟩

theorem furnished_foldl_addBuiltin (spares : state.Spares) (quiet : Bool)
    (empty : state.tables = CommandTables.empty) :
    (Builtin.all.foldl (addBuiltin quiet) state).tables.Furnished := by
  have absent : ∀ builtin ∈ Builtin.all,
      (state.tables.handler? builtin.entry.agent builtin.entry.command).isSome = false := by
    intro builtin _
    rw [empty]
    rfl
  obtain ⟨-, furnished, -⟩ := foldl_addBuiltin_furnishes spares quiet (by decide) absent
  exact ⟨fun builtin => (furnished builtin builtin.mem_all).1,
    fun builtin => (furnished builtin builtin.mem_all).2⟩

/-- The command of a plugin is stored under keys that are not those of a built-in one. -/
theorem furnished_install (spares : state.Spares) (furnished : state.tables.Furnished)
    {entry : Entry}
    (absent : (state.tables.handler? entry.agent entry.command).isSome = false) :
    (state.install entry).tables.Furnished := by
  have placed : (state.placeHandler entry.agent entry.command entry.handler).tables.Furnished :=
    ⟨fun builtin => find?_place_of_absent absent entry.handler (furnished.seeded builtin),
      furnished.usages⟩
  have placedSpares : (state.placeHandler entry.agent entry.command entry.handler).Spares := spares
  have told : (state.tellStored entry).tables.Furnished :=
    (alike_announce placedSpares .commandRegistered _).furnished placed
  refine ⟨told.seeded, fun builtin => ?_⟩
  have apart : (entry.agent == builtin.entry.agent &&
      entry.command == builtin.entry.command) = false := by
    rw [Bool.eq_false_iff]
    intro agree
    obtain ⟨sameAgent, sameCommand⟩ := Bool.and_eq_true_iff.mp agree
    have found := furnished.seeded builtin
    rw [handler?_eq, find?_congr sameAgent sameCommand, ← handler?_eq, found] at absent
    cases absent
  exact (find?_place_of_apart apart entry.usage _).trans (told.usages builtin)

theorem furnished_readAll {rebuild : Rebuild} (follows : rebuild.state.FollowsPlugins)
    (spares : rebuild.state.Spares) (furnished : rebuild.state.tables.Furnished)
    (readings : List Reading) :
    (rebuild.readAll readings).1.state.tables.Furnished := by
  induction readings generalizing rebuild with
  | nil => exact furnished
  | cons reading rest induction =>
      cases verdict : reading.verdict with
      | failed failure =>
          simp only [Rebuild.readAll, Rebuild.read_of_failed rebuild verdict]
          have skipped : (rebuild.skip failure.agent failure.command
              failure.reason).state.FollowsPlugins := follows
          exact induction skipped spares furnished
      | faulty fault =>
          obtain ⟨handlers, read, same⟩ := Rebuild.read_of_faulty rebuild verdict
          simp only [Rebuild.readAll, read]
          exact ⟨fun builtin => (same _ _).trans (furnished.seeded builtin), furnished.usages⟩
      | offered handle agent command =>
          cases present : (rebuild.state.tables.handler? agent command.name).isSome with
          | true =>
              simp only [Rebuild.readAll, Rebuild.read_of_duplicate verdict present]
              have skipped : (rebuild.skip agent command.name
                  Refusal.duplicate.message).state.FollowsPlugins := follows
              exact induction skipped spares furnished
          | false =>
              have absent : (rebuild.state.tables.handler?
                  (pluginEntry handle agent command).agent
                  (pluginEntry handle agent command).command).isSome = false := present
              simp only [Rebuild.readAll, Rebuild.read_of_fresh verdict present]
              have grows := grows_install absent follows
              exact induction (grows.followsPlugins follows)
                (spares.of_subset grows.leaves.sublist.subset)
                (furnished_install spares furnished absent)

/-- However a rebuild ends, the built-in commands have their handlers and usages. -/
theorem furnished_conclude (follows : state.FollowsPlugins) (spares : state.Spares)
    (party : Party) : (conclude party state).tables.Furnished := by
  have clearedSpares : state.cleared.Spares := spares
  have started : (Rebuild.start state).state.tables.Furnished := by
    rw [start_state]
    exact furnished_foldl_addBuiltin clearedSpares true rfl
  have startGrows := grows_start follows
  have startFollows := startGrows.followsPlugins follows
  have startSpares : (Rebuild.start state).state.Spares :=
    clearedSpares.of_subset startGrows.leaves.sublist.subset
  obtain ⟨ended, read, grows, ⟨fault, -, concluded⟩ | ⟨-, -, concluded⟩⟩ :=
    conclude_cases follows party
  · have furnished : ended.state.tables.Furnished := by
      rw [read]
      exact furnished_readAll startFollows startSpares started _
    rw [concluded]
    exact furnished
  · have furnished : ended.result.release.tables.Furnished := by
      rw [read]
      exact furnished_readAll startFollows startSpares started _
    have spares : ended.result.release.Spares :=
      startSpares.of_subset grows.leaves.sublist.subset
    rw [concluded]
    exact (alike_announce spares .commandsChanged []).furnished furnished

/-- The built-in commands have their handlers, and no listener is after their keys. -/
structure Rooted (state : Dispatcher) : Prop where
  follows : state.FollowsPlugins
  spares : state.Spares
  seeded : state.tables.Seeded

theorem Rooted.of_subset {before after : Dispatcher} (rooted : before.Rooted)
    (subset : after.subscriptions ⊆ before.subscriptions) (seeded : after.tables.Seeded) :
    after.Rooted where
  follows := fun entry member => rooted.follows entry (subset member)
  spares := rooted.spares.of_subset subset
  seeded := seeded

theorem Rooted.of_responds {before after : Dispatcher} (rooted : before.Rooted)
    {requests : List Request}
    (responds : Responds (Requested before.subscriptions) before after requests) :
    after.Rooted := by
  refine rooted.of_subset responds.leaves ?_
  rw [responds.tables]
  exact seeded_performAll rooted.seeded fun request member =>
    spares_of_isForeign (isForeign_of_requested rooted.spares (responds.requested request member))

theorem overlooks_rooted : Overlooks Rooted where
  registered := fun _ rooted => ⟨rooted.follows, rooted.spares, rooted.seeded⟩
  announce := fun topic payload rooted => by
    obtain ⟨requests, responds⟩ := responds_announce (List.Subset.refl _) topic payload
    exact rooted.of_responds responds

theorem endures_rooted : Endures Rooted where
  reschedule := fun _ rooted => ⟨rooted.follows, rooted.spares, rooted.seeded⟩
  conclude := fun party rooted =>
    rooted.of_subset (closes_conclude rooted.follows party).leaves.sublist.subset
      (furnished_conclude rooted.follows rooted.spares party).seeded

theorem rooted_perform (rooted : state.Rooted) {request : Request}
    (spares : request.spares = true) : (state.perform request).1.Rooted := by
  obtain ⟨-, told, responds⟩ := responds_perform (List.Subset.refl state.subscriptions) request
  let performed : Dispatcher :=
    { state with tables := (state.tables.perform request).1 }
  have done : performed.Rooted :=
    ⟨rooted.follows, rooted.spares, seeded_perform rooted.seeded spares⟩
  have answered : Responds (Requested performed.subscriptions) performed
      (state.perform request).1 told := responds
  exact done.of_responds answered

theorem rooted_registerCommand (rooted : state.Rooted) (declaration : Declaration) :
    (state.registerCommand declaration).1.Rooted := by
  have registered (agent command : Value) (handler : Option Handler) :
      (state.register agent command handler).1.Rooted :=
    rooted_perform rooted
      (show (Request.register agent command handler).spares = true from rfl)
  rcases registerCommand_cases state declaration with
    ⟨outcome, same, -⟩ | ⟨command, id, -, -, ⟨-, same⟩ | ⟨-, same⟩⟩
  · rw [same]
    exact rooted
  · rw [same]
    exact registered _ _ _
  · rw [same]
    exact rooted_perform (registered _ _ _)
      (show (Request.registerUsage (some _)).spares = true from rfl)

theorem spares_follow (spares : state.Spares) : state.follow.Spares :=
  forall_mem_follow spares fun _ => rfl

/-- Whether an operation removes no built-in command and subscribes nobody who is after its
keys. -/
def Operation.spares : Operation → Bool
  | .request asked => asked.spares
  | .subscribe _ listener => (Subscriber.listener listener).spares
  | _ => true

theorem rooted_operate (rooted : state.Rooted) {operation : Operation}
    (spares : operation.spares = true) : (state.operate operation).1.Rooted := by
  cases operation with
  | request request => exact rooted_perform rooted spares
  | declare declaration => exact rooted_registerCommand rooted declaration
  | refresh => exact endures_rooted.refresh rooted
  | subscribe topic listener =>
      exact ⟨followsPlugins_listener rooted.follows topic listener,
        forall_mem_subscribe rooted.spares spares, rooted.seeded⟩
  | unsubscribe topic listener => exact rooted.of_subset List.erase_subset rooted.seeded
  | attach =>
      have connected : FollowsPlugins { state with source := .direct } := rooted.follows
      refine ⟨followsPlugins_follow connected, ?_, rooted.seeded⟩
      exact spares_follow (show Spares { state with source := .direct } from rooted.spares)
  | registerPlugin handle sort => exact overlooks_rooted.registerPlugin handle sort rooted
  | unregisterPlugin id sort => exact overlooks_rooted.unregisterPlugin id sort rooted
  | addPlugin plugin => exact ⟨rooted.follows, rooted.spares, rooted.seeded⟩
  | setPlugin handle plugin => exact ⟨rooted.follows, rooted.spares, rooted.seeded⟩
  | wakeFirst => exact endures_rooted.wakeFirst rooted

theorem rooted_operateAll (rooted : state.Rooted) {operations : List Operation}
    (spare : ∀ operation ∈ operations, operation.spares = true) :
    (state.operateAll operations).1.Rooted := by
  have keeps {state : Dispatcher} {operation : Operation} (spares : operation.spares = true)
      (before : state.Rooted) : (state.operate operation).1.Rooted :=
    rooted_operate before spares
  exact operateAll_keeps keeps spare rooted

theorem rooted_setUp (unused : state.Unused) (source : Source) (following : Bool) :
    (state.setUp source following).Rooted := by
  have awake : (state.setUp source following).Awake := awake_setUp unused source following
  have nobody : Spares { state with source } :=
    fun entry member => absurd member (unused.nobody entry)
  have noCommands : ({ state with source } : Dispatcher).tables = CommandTables.empty :=
    unused.tables
  have kept {connected : Dispatcher} (follows : connected.FollowsPlugins)
      (spares : connected.Spares) (empty : connected.tables = CommandTables.empty) :
      (connected.addBuiltins false).Spares ∧ (connected.addBuiltins false).tables.Seeded :=
    ⟨spares.of_subset (grows_foldl_addBuiltin false _ follows).leaves.sublist.subset,
      (furnished_foldl_addBuiltin spares false empty).seeded⟩
  have noFollower : FollowsPlugins { state with source } :=
    fun entry member => absurd member (unused.nobody entry)
  have both : (state.setUp source following).Spares ∧
      (state.setUp source following).tables.Seeded := by
    unfold setUp
    dsimp only
    split
    · exact kept (followsPlugins_follow noFollower) (spares_follow nobody) noCommands
    · exact kept noFollower nobody noCommands
  exact ⟨awake.follows, both.1, both.2⟩

/-- A refresh that completes and has plugins to read leaves the built-in commands with their
handlers and usages. -/
theorem furnished_refresh (awake : state.Awake) (rooted : state.Rooted)
    (present : state.source ≠ .absent) {count : Nat} (completed : state.refresh.2 = .ok count) :
    state.refresh.1.tables.Furnished := by
  have lasts := Lasts.of_endures endures_rooted Rooted.follows
  rcases refresh_ends lasts awake ⟨rooted, present⟩ with ⟨fault, failed⟩ | ⟨prior, both, ended⟩
  · cases failed.symm.trans completed
  · rw [ended]
    exact furnished_conclude both.1.follows both.1.spares .client

/-- Whatever is done with a dispatcher, short of removing a built-in command, the built-in
commands answer under their keys, and after a refresh that completes they have their own usages
again.  No plugin can get their keys, nor a listener that is after other commands only. -/
theorem builtins_stay {origin : Dispatcher} (unused : origin.Unused) (source : Source)
    (following : Bool) {operations : List Operation}
    (spare : ∀ operation ∈ operations, operation.spares = true)
    (reached : ((origin.setUp source following).operateAll operations).1 = state) :
    (∀ builtin : Builtin,
      state.tables.findHandler (.text coreAgent) (.text builtin.key) =
        .ok (some (.builtin builtin))) ∧
    ∀ count, state.source ≠ .absent → state.refresh.2 = .ok count →
      ∀ builtin : Builtin,
        state.refresh.1.tables.findHandler (.text coreAgent) (.text builtin.key) =
            .ok (some (.builtin builtin)) ∧
          state.refresh.1.tables.findUsage (.text coreAgent) (.text builtin.key) =
            .ok (some builtin.usage) := by
  have awake : state.Awake :=
    reached ▸ awake_operateAll (awake_setUp unused source following) operations
  have rooted : state.Rooted :=
    reached ▸ rooted_operateAll (rooted_setUp unused source following) spare
  have found {tables : CommandTables} (seeded : tables.Seeded) (builtin : Builtin) :
      tables.findHandler (.text coreAgent) (.text builtin.key) =
        .ok (some (.builtin builtin)) := by
    rw [findHandler_of_isKey tables rfl rfl]
    exact congrArg Except.ok (seeded builtin)
  refine ⟨found rooted.seeded, ?_⟩
  intro count present completed builtin
  have furnished := furnished_refresh awake rooted present completed
  exact ⟨found furnished.seeded builtin, congrArg Except.ok (furnished.usages builtin)⟩

/-- A plugin with the id of the built-in commands gets another command, but not theirs. -/
theorem builtins_stay_beside_impostor :
    let named (name : String) := Declaration.mapping [(.text "name", .text name)]
    let impostor := samplePlugin "core" [named "help", named "notes"]
    let usage : Usage := { Builtin.help.usage with description := .text "Something else" }
    let operations : List Operation :=
      [.addPlugin impostor, .registerPlugin (some 0) .internal, .wakeFirst,
        .request (.registerUsage (some usage)),
        .request (.unregister (.text "core") (.text "notes"))]
    let state := ((blank.setUp .direct true).operateAll operations).1
    let key := Value.text Builtin.help.key
    state.tables.findHandler (.text coreAgent) key = .ok (some (.builtin .help)) ∧
      state.refresh.2 = .ok 1 ∧
      state.refresh.1.tables.findUsage (.text coreAgent) key =
        .ok (some Builtin.help.usage) := by
  intro named impostor usage operations state key
  have unused : blank.Unused := ⟨rfl, rfl, rfl⟩
  have spare : ∀ operation ∈ operations, operation.spares = true := by decide
  have present : state.source ≠ .absent := by decide +kernel
  have counted : state.refresh.2 = .ok 1 := by decide +kernel
  have reached : ((blank.setUp .direct true).operateAll operations).1 = state := rfl
  obtain ⟨found, completed⟩ := builtins_stay unused .direct true spare reached
  exact ⟨found .help, counted, (completed 1 present counted .help).2⟩

end Dispatcher

end ChatDispatch
