import ChatDispatch.Proofs.CommandTables.Aligned
import ChatDispatch.Proofs.Dispatcher.Ending

/-!
# Every command has its usage

A declared command, a built-in one and one of a plugin are stored alike: the handler first, and
the usage unless the handler is refused.  So the tables stay aligned, whatever is declared,
removed or refreshed in between, as long as names can be keys, forms are texts, and no listener
registers a handler without a usage.
-/

namespace ChatDispatch

open CommandTables

/-- The name of a declared command can be a key, and its form, if there is one, is a text. -/
def Declaration.IsPlain (declaration : Declaration) : Prop :=
  ∀ command, declaration.normalize = .ok command →
    command.name.isKey = true ∧
      (command.form.holds = true → ∃ form, command.form = .text form)

/-- A mapping names its command with a text, so only its form matters. -/
theorem Declaration.isPlain_mapping {fields : Entries}
    (formed : ((Declaration.mapping fields).value "syntax").holds = true →
      ∃ form, (Declaration.mapping fields).value "syntax" = .text form) :
    (Declaration.mapping fields).IsPlain := by
  intro command normal
  unfold normalize at normal
  dsimp only at normal
  split at normal
  · cases normal
  · split at normal
    · cases normal
    · cases normal
      exact ⟨rfl, formed⟩

/-- All commands that a plugin declares are plain. -/
def Plugin.IsPlain (plugin : Plugin) : Prop :=
  ∀ declarations, plugin.declarations = .ok declarations →
    ∀ declaration ∈ declarations, declaration.IsPlain

/-- What is read is a plain command, or that a plugin cannot list any. -/
def Reading.IsPlain : Reading → Prop
  | .unlisted _ _ => True
  | .declared _ _ declaration => declaration.IsPlain

theorem Value.orElse_text {value : Value}
    (formed : value.holds = true → ∃ form, value = .text form) (default : String) :
    ∃ form, value.orElse (.text default) = .text form := by
  unfold Value.orElse
  split
  · rename_i holds
    exact formed holds
  · exact ⟨default, rfl⟩

namespace Dispatcher

variable {state : Dispatcher}

theorem plain_of_mem_readings {plugins : List Plugin}
    (plain : ∀ plugin ∈ plugins, plugin.IsPlain) {handles : List Nat} {reading : Reading}
    (member : reading ∈ handles.flatMap (readingsOf plugins)) : reading.IsPlain := by
  obtain ⟨handle, -, read⟩ := List.mem_flatMap.mp member
  unfold readingsOf at read
  split at read
  · cases read
  · rename_i plugin present
    split at read
    · cases List.mem_singleton.mp read
      trivial
    · rename_i declarations listed
      obtain ⟨declaration, declared, rfl⟩ := List.mem_map.mp read
      exact plain plugin (List.mem_of_getElem? present) declarations listed declaration declared

theorem ignores_silent : Ignores Silent where
  tables := fun _ silent => silent
  announce := fun {_} topic payload silent => by
    obtain ⟨requests, responds⟩ := responds_announce (List.Subset.refl _) topic payload
    exact fun entry member => silent entry (responds.leaves member)

theorem addHandler_of_silent (silent : state.Silent) (quiet : Bool) (agent command : Value)
    (handler : Option Handler) :
    state.tables.addHandler agent command handler =
      ((state.addHandler quiet agent command handler).1.tables,
        (state.addHandler quiet agent command handler).2) := by
  rcases added : state.tables.addHandler agent command handler with
    ⟨tables, fault | ⟨- | refusal⟩⟩
  · simp only [addHandler, addHandlerWith, added]
  · let stored : Dispatcher := { state with tables }
    have storedSilent : stored.Silent := silent
    let told := announce .commandRegistered (commandPayload agent command) stored
    have toldSilent : told.Silent := ignores_silent.announce _ _ storedSilent
    have same : told.tables = tables := tables_announce_of_silent storedSilent _ _
    have sameChanged : (announce .commandsChanged [] told).tables = tables :=
      (tables_announce_of_silent toldSilent _ _).trans same
    simp only [addHandler, addHandlerWith, added]
    cases quiet with
    | true => exact congrArg (·, Except.ok none) same.symm
    | false => exact congrArg (·, Except.ok none) sameChanged.symm
  · simp only [addHandler, addHandlerWith, added]

/-- A usage that is registered if a handler has been stored is offered together with it. -/
theorem offer_of_silent (silent : state.Silent) (quiet : Bool) (agent command : Value)
    (handler : Handler) (usage : Usage) :
    let handled := state.addHandler quiet agent command (some handler)
    (handled.2 = .ok none →
      (handled.1.registerUsage (some usage)).1.tables =
        state.tables.offer agent command handler usage) ∧
      (handled.2 ≠ .ok none →
        handled.1.tables = state.tables.offer agent command handler usage) := by
  intro handled
  have added := addHandler_of_silent silent quiet agent command (some handler)
  constructor
  · intro stored
    rw [offer, added, show (state.addHandler quiet agent command (some handler)).2 =
      .ok none from stored]
    rfl
  · intro notStored
    rw [offer, added]
    split
    · rename_i same
      exact absurd (congrArg Prod.snd same) notStored
    · rename_i tables outcome notAdded same
      exact congrArg Prod.fst same

theorem tables_addBuiltin (silent : state.Silent) (quiet : Bool) (builtin : Builtin) :
    (addBuiltin quiet state builtin).tables =
      state.tables.offer (.text coreAgent) (.text builtin.key) (.builtin builtin)
        builtin.usage := by
  obtain ⟨stored, refused⟩ :=
    offer_of_silent silent quiet (.text coreAgent) (.text builtin.key) (.builtin builtin)
      builtin.usage
  unfold addBuiltin
  dsimp only
  split
  · rename_i accepted
    exact stored accepted
  · rename_i notAccepted
    exact refused notAccepted

theorem tables_storeCommand {rebuild : Rebuild} (silent : rebuild.state.Silent) (handle : Nat)
    (agent : Value) (command : PluginCommand) :
    (rebuild.storeCommand handle agent command).1.state.tables =
      rebuild.state.tables.offer agent command.name (.plugin handle command.name)
        (Rebuild.usageOf agent command) := by
  obtain ⟨stored, refused⟩ :=
    offer_of_silent silent true agent command.name (.plugin handle command.name)
      (Rebuild.usageOf agent command)
  rcases handled : rebuild.state.addHandler true agent command.name
    (some (.plugin handle command.name)) with ⟨after, fault | ⟨- | refusal⟩⟩
  · rw [handled] at refused
    simp only [Rebuild.storeCommand, handled]
    exact refused (by simp)
  · rw [handled] at stored
    simp only [Rebuild.storeCommand, handled]
    exact stored rfl
  · rw [handled] at refused
    simp only [Rebuild.storeCommand, handled]
    exact refused (by simp)

theorem aligned_addBuiltin (silent : state.Silent) (aligned : state.tables.Aligned)
    (quiet : Bool) (builtin : Builtin) : (addBuiltin quiet state builtin).tables.Aligned := by
  rw [tables_addBuiltin silent]
  cases builtin <;> exact aligned_offer aligned rfl _ rfl rfl rfl

theorem aligned_foldl_addBuiltin (silent : state.Silent) (aligned : state.tables.Aligned)
    (quiet : Bool) (builtins : List Builtin) :
    (builtins.foldl (addBuiltin quiet) state).tables.Aligned := by
  induction builtins generalizing state with
  | nil => exact aligned
  | cons builtin rest induction =>
      exact induction (ignores_silent.addBuiltin quiet builtin silent)
        (aligned_addBuiltin silent aligned quiet builtin)

theorem aligned_read {rebuild : Rebuild} (silent : rebuild.state.Silent)
    (aligned : rebuild.state.tables.Aligned) {reading : Reading} (plain : reading.IsPlain) :
    (rebuild.read reading).1.state.tables.Aligned := by
  cases reading with
  | unlisted agent fault => exact aligned
  | declared handle agent declaration =>
      unfold Rebuild.read Rebuild.storeDeclaration
      dsimp only
      split
      · exact aligned
      · exact aligned
      · rename_i command normal
        obtain ⟨keyed, formed⟩ := plain command normal
        obtain ⟨form, same⟩ := Value.orElse_text formed
          (Sigil.at.text ++ agent.asText ++ ":" ++ command.name.asText)
        rw [tables_storeCommand silent]
        exact aligned_offer aligned keyed _ rfl rfl same

theorem aligned_readAll {rebuild : Rebuild} (silent : rebuild.state.Silent)
    (aligned : rebuild.state.tables.Aligned) {readings : List Reading}
    (plain : ∀ reading ∈ readings, reading.IsPlain) :
    (rebuild.readAll readings).1.state.tables.Aligned := by
  induction readings generalizing rebuild with
  | nil => exact aligned
  | cons reading rest induction =>
      obtain ⟨here, later⟩ := List.forall_mem_cons.mp plain
      have next := aligned_read silent aligned here
      have nextSilent := ignores_silent.read reading silent
      rw [Rebuild.readAll]
      split
      · rename_i stopped fault read
        rw [read] at next
        exact next
      · rename_i middle read
        rw [read] at next nextSilent
        exact induction nextSilent next later

theorem aligned_registerCommand (silent : state.Silent) (aligned : state.tables.Aligned)
    {declaration : Declaration} (plain : declaration.IsPlain) :
    (state.registerCommand declaration).1.tables.Aligned := by
  rcases registerCommand_cases state declaration with
    ⟨outcome, same, -⟩ | ⟨command, id, normal, -, accepted⟩
  · rw [same]
    exact aligned
  · obtain ⟨-, formed⟩ := plain command normal
    let pair := splitId id
    let usage := usageOf declaration command pair.1 pair.2
    obtain ⟨form, same⟩ := Value.orElse_text formed
      (((declaration.value "prefix").orElse (.text Sigil.slash.text)).asText ++
        command.name.asText)
    have offered : (state.tables.offer (.text pair.1) (.text pair.2)
        (handlerOf declaration command) usage).Aligned :=
      aligned_offer aligned rfl _ rfl rfl same
    obtain ⟨stored, refused⟩ :=
      offer_of_silent silent false (.text pair.1) (.text pair.2)
        (handlerOf declaration command) usage
    let handled := state.addHandler false (.text pair.1) (.text pair.2)
      (some (handlerOf declaration command))
    have outcome : (state.register (.text pair.1) (.text pair.2)
        (some (handlerOf declaration command))).2 = handled.2.map Option.isNone := rfl
    rcases accepted with ⟨notAccepted, same⟩ | ⟨accepted, same⟩
    · have notStored : handled.2 ≠ .ok none := by
        intro isStored
        rw [outcome, isStored] at notAccepted
        exact notAccepted rfl
      rw [same]
      exact (refused notStored).symm ▸ offered
    · have isStored : handled.2 = .ok none := by
        rw [outcome] at accepted
        cases kind : handled.2 with
        | error fault =>
            rw [kind] at accepted
            cases accepted
        | ok refusal =>
            cases refusal with
            | none => rfl
            | some refusal =>
                rw [kind] at accepted
                cases accepted
      rw [same]
      exact (stored isStored).symm ▸ offered

theorem aligned_unregister (silent : state.Silent) (aligned : state.tables.Aligned)
    (agent command : Value) : (state.unregister agent command).1.tables.Aligned := by
  have removed := aligned_remove aligned agent command
  let after : Dispatcher := { state with tables := (state.tables.remove agent command).1 }
  have afterSilent : after.Silent := silent
  have told := tables_announce_of_silent afterSilent .commandUnregistered
    (commandPayload agent command)
  have changed := tables_announce_of_silent
    (ignores_silent.announce .commandUnregistered (commandPayload agent command) afterSilent)
    .commandsChanged []
  unfold unregister removeHandlerWith
  dsimp only
  split
  · exact (changed.trans told).symm ▸ removed
  · exact removed

/-- No listener registers commands, and the plugins declare plain ones only. -/
structure Calm (state : Dispatcher) : Prop where
  follows : state.FollowsPlugins
  silent : state.Silent
  plain : ∀ plugin ∈ state.plugins, plugin.IsPlain

theorem Calm.of_subset {before after : Dispatcher} (calm : before.Calm)
    (subset : after.subscriptions ⊆ before.subscriptions)
    (samePlugins : after.plugins = before.plugins) : after.Calm where
  follows := fun entry member => calm.follows entry (subset member)
  silent := fun entry member => calm.silent entry (subset member)
  plain := by
    rw [samePlugins]
    exact calm.plain

theorem ignores_calm : Ignores Calm where
  tables := fun _ calm => ⟨calm.follows, calm.silent, calm.plain⟩
  announce := fun {state} topic payload calm => by
    obtain ⟨requests, responds⟩ := responds_announce (List.Subset.refl _) topic payload
    exact calm.of_subset responds.leaves (unmoved_announce topic payload state).plugins

theorem aligned_conclude (calm : state.Calm) (party : Party) :
    (conclude party state).tables.Aligned := by
  have clearedSilent : state.cleared.Silent := calm.silent
  have startSilent : (Rebuild.start state).state.Silent := ignores_silent.start calm.silent
  have started : (Rebuild.start state).state.tables.Aligned := by
    rw [start_state]
    exact aligned_foldl_addBuiltin clearedSilent aligned_empty true Builtin.all
  have plain : ∀ reading ∈ state.enabledHandles.flatMap (readingsOf state.plugins),
      reading.IsPlain := fun _ member => plain_of_mem_readings calm.plain member
  obtain ⟨ended, read, -, concluded⟩ := conclude_cases calm.follows party
  have aligned : ended.state.tables.Aligned := read ▸ aligned_readAll startSilent started plain
  rcases concluded with ⟨fault, -, same⟩ | ⟨-, -, same⟩
  · rw [same]
    exact aligned
  · have silent : ended.result.release.Silent :=
      read ▸ ignores_silent.readAll _ startSilent
    have untouched : (conclude party state).tables = ended.result.release.tables := by
      rw [same]
      exact tables_announce_of_silent silent .commandsChanged []
    rw [untouched]
    exact aligned

/-- Besides, the tables are aligned. -/
structure Described (state : Dispatcher) : Prop extends Calm state where
  aligned : state.tables.Aligned

theorem overlooks_described : Overlooks Described where
  registered := fun _ described =>
    ⟨⟨described.follows, described.silent, described.plain⟩, described.aligned⟩
  announce := fun topic payload described => by
    refine ⟨ignores_calm.announce topic payload described.toCalm, ?_⟩
    rw [tables_announce_of_silent described.silent]
    exact described.aligned

theorem endures_described : Endures Described where
  reschedule := fun _ described =>
    ⟨⟨described.follows, described.silent, described.plain⟩, described.aligned⟩
  conclude := fun party described => by
    have closes := closes_conclude described.follows party
    exact ⟨described.toCalm.of_subset closes.leaves.sublist.subset closes.plugins,
      aligned_conclude described.toCalm party⟩

/-- Whether all commands that an operation brings along get a usage with their handler. -/
def Operation.IsPlain : Operation → Prop
  | .request (.unregister _ _) => True
  | .request _ => False
  | .declare declaration => declaration.IsPlain
  | .subscribe _ listener => (Subscriber.listener listener).alters = false
  | .addPlugin plugin => plugin.IsPlain
  | .setPlugin _ plugin => plugin.IsPlain
  | _ => True

theorem silent_follow (silent : state.Silent) : state.follow.Silent :=
  forall_mem_follow silent fun _ => rfl

theorem described_operate (described : state.Described) {operation : Operation}
    (plain : operation.IsPlain) : (state.operate operation).1.Described := by
  obtain ⟨calm, aligned⟩ := described
  cases operation with
  | request request =>
      cases request with
      | register agent command handler => exact plain.elim
      | registerUsage usage => exact plain.elim
      | unregister agent command =>
          exact ⟨ignores_calm.unregister agent command calm,
            aligned_unregister calm.silent aligned agent command⟩
  | declare declaration =>
      exact ⟨ignores_calm.registerCommand declaration calm,
        aligned_registerCommand calm.silent aligned plain⟩
  | refresh => exact endures_described.refresh ⟨calm, aligned⟩
  | subscribe topic listener =>
      exact ⟨⟨followsPlugins_listener calm.follows topic listener,
        forall_mem_subscribe calm.silent plain, calm.plain⟩, aligned⟩
  | unsubscribe topic listener => exact ⟨calm.of_subset List.erase_subset rfl, aligned⟩
  | attach =>
      refine ⟨⟨?_, ?_, calm.plain⟩, aligned⟩
      · have connected : FollowsPlugins { state with source := .direct } := calm.follows
        exact followsPlugins_follow connected
      · have connected : Silent { state with source := .direct } := calm.silent
        exact silent_follow connected
  | registerPlugin handle sort =>
      exact overlooks_described.registerPlugin handle sort ⟨calm, aligned⟩
  | unregisterPlugin id sort =>
      exact overlooks_described.unregisterPlugin id sort ⟨calm, aligned⟩
  | addPlugin plugin =>
      refine ⟨⟨calm.follows, calm.silent, ?_⟩, aligned⟩
      intro other member
      rcases List.mem_append.mp member with earlier | new
      · exact calm.plain other earlier
      · cases List.mem_singleton.mp new
        exact plain
  | setPlugin handle plugin =>
      refine ⟨⟨calm.follows, calm.silent, ?_⟩, aligned⟩
      intro other member
      rcases List.mem_or_eq_of_mem_set member with earlier | rfl
      · exact calm.plain other earlier
      · exact plain
  | wakeFirst => exact endures_described.wakeFirst ⟨calm, aligned⟩

theorem described_setUp (unused : state.Unused)
    (plain : ∀ plugin ∈ state.plugins, plugin.IsPlain) (source : Source) (following : Bool) :
    (state.setUp source following).Described := by
  have stored {connected : Dispatcher} (calm : connected.Calm)
      (noCommands : connected.tables = CommandTables.empty) :
      (connected.addBuiltins false).Described := by
    refine ⟨ignores_calm.foldl_addBuiltin false Builtin.all calm, ?_⟩
    refine aligned_foldl_addBuiltin calm.silent ?_ false Builtin.all
    rw [noCommands]
    exact aligned_empty
  have connected : Calm { state with source } :=
    ⟨fun entry member => absurd member (unused.nobody entry),
      fun entry member => absurd member (unused.nobody entry), plain⟩
  have noCommands : ({ state with source } : Dispatcher).tables = CommandTables.empty :=
    unused.tables
  unfold setUp
  dsimp only
  split
  · refine stored ⟨followsPlugins_follow connected.follows, ?_, plain⟩ noCommands
    exact silent_follow connected.silent
  · exact stored connected noCommands

/-- Whatever is declared, removed and refreshed, the tables have the same agents and commands in
the same order, and the commands of each sigil are those whose usages have it. -/
theorem listings_agree {origin : Dispatcher} (unused : origin.Unused)
    (plainPlugins : ∀ plugin ∈ origin.plugins, plugin.IsPlain) (source : Source)
    (following : Bool) {operations : List Operation}
    (plain : ∀ operation ∈ operations, operation.IsPlain)
    (reached : ((origin.setUp source following).operateAll operations).1 = state) :
    outline state.tables.handlers = outline state.tables.usages ∧
      ∀ sigil : Sigil, ∃ listings,
        state.tables.bySigil sigil = .ok listings ∧
          Usage.ofSigil sigil state.tables.allUsages = .ok (listings.map (·.usage)) ∧
          ∀ listing ∈ listings,
            (listing.agent == listing.usage.agent) = true ∧
              (listing.command == listing.usage.command) = true ∧
              state.tables.handler? listing.agent listing.command = some listing.handler := by
  have keeps {state : Dispatcher} {operation : Operation} (plain : operation.IsPlain)
      (before : state.Described) : (state.operate operation).1.Described :=
    described_operate before plain
  have described : state.Described :=
    reached ▸ operateAll_keeps keeps plain (described_setUp unused plainPlugins source following)
  exact ⟨described.aligned.outline, bySigil_of_aligned described.aligned⟩

/-- A plugin and a declared command are after the same key, and another command is removed. -/
theorem listings_agree_for_rivals :
    let named (name : String) := Declaration.mapping [(.text "name", .text name)]
    let operations : List Operation :=
      [.addPlugin (samplePlugin "notes" [named "add", named "list"]),
        .registerPlugin (some 0) .internal, .declare (named "notes:add"), .refresh,
        .declare (named "notes:add"), .request (.unregister (.text "notes") (.text "list"))]
    let state := ((blank.setUp .direct true).operateAll operations).1
    outline state.tables.handlers = outline state.tables.usages ∧
      Table.lookup (.text "notes") (outline state.tables.usages) = some [.text "add"] := by
  intro named operations state
  have unused : blank.Unused := ⟨rfl, rfl, rfl⟩
  have plainPlugins : ∀ plugin ∈ blank.plugins, plugin.IsPlain := fun _ member => by cases member
  have plainNamed (name : String) : (named name).IsPlain :=
    Declaration.isPlain_mapping fun holds => by cases holds
  have plain : ∀ operation ∈ operations, operation.IsPlain := by
    have plainPlugin : (samplePlugin "notes" [named "add", named "list"]).IsPlain := by
      intro declarations listed declaration member
      cases listed
      rcases List.mem_cons.mp member with rfl | member
      · exact plainNamed "add"
      · cases List.mem_singleton.mp member
        exact plainNamed "list"
    simp only [operations, List.forall_mem_cons]
    exact ⟨plainPlugin, trivial, plainNamed _, trivial, plainNamed _, trivial, by simp⟩
  have reached : ((blank.setUp .direct true).operateAll operations).1 = state := rfl
  exact ⟨(listings_agree unused plainPlugins .direct true plain reached).1, by decide +kernel⟩

end Dispatcher

end ChatDispatch
