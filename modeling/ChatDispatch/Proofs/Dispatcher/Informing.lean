import ChatDispatch.Dispatcher.Execute
import ChatDispatch.Proofs.Dispatcher.Admitting
import ChatDispatch.Proofs.Dispatcher.FrontEnd
import ChatDispatch.Proofs.Dispatcher.Selecting
import ChatDispatch.Proofs.Notices
import Mathlib.Logic.Relation

/-!
# Notices of a front end

A front end is set up with the notices that its settings give, and keeps them whatever is done with
it: commands are run and registered, plugins come and go, settings are written.  So what it says
for an agent without a plugin can be told from the overrides in the settings that it was set up
with, at any later time and however the command is entered.  Another front end has the notices of
its own settings.
-/

namespace ChatDispatch

open CommandLine

namespace Notices

theorem default_ne_empty (cause : Cause) : ∀ entry ∈ default.ofCause cause, entry.2 ≠ "" := by
  cases cause <;> decide

theorem notice?_ne_empty {overrides : Entries} {cause : Cause} {agent : Key} {notice : String}
    (has : notice? overrides cause agent = some notice) : notice ≠ "" := by
  rcases Option.or_eq_some_iff.mp has with worded | ⟨-, listed⟩
  · unfold worded? at worded
    split at worded
    · obtain ⟨value, found, rfl⟩ := Option.map_eq_some_iff.mp worded
      exact asText_ne_empty fun empty => by cases empty ▸ List.find?_some found
    · cases worded
  · obtain ⟨entry, member, -, rfl⟩ := Table.exists_mem_of_lookup listed
    exact default_ne_empty cause entry member

end Notices

namespace CommandLine

/-- A word that is typed as an agent or as its command. -/
structure Plain (word : String) : Prop where
  filled : word ≠ ""
  bare : Bare word.toList

theorem Plain.isAllBlank {word : String} (plain : Plain word) :
    Text.isAllBlank word.toList = false := by
  have some : word.toList ≠ [] := fun none => plain.filled (String.toList_inj.mp none)
  rw [← isEmpty_trim, trim_of_bare plain.bare, List.isEmpty_eq_false_iff]
  exact some

/-- An agent and a command with a colon between them, after an at sign. -/
theorem parse?_at {agent command : String} (plain : Plain agent) (plainCommand : Plain command)
    (noColon : ':' ∉ agent.toList) :
    ∃ parsed, parse? ("@" ++ agent ++ ":" ++ command) = some parsed ∧ parsed.sigil = .at ∧
      parsed.agent = agent ∧ parsed.command = command := by
  have line : ("@" ++ agent ++ ":" ++ command).toList =
      '@' :: (agent.toList ++ ':' :: command.toList) := by
    simp [String.toList_append]
  have bare : Bare (agent.toList ++ ':' :: command.toList) :=
    bare_append.mpr ⟨plain.bare, bare_cons.mpr ⟨by decide, plainCommand.bare⟩⟩
  have trimmed : Text.trim ("@" ++ agent ++ ":" ++ command).toList =
      '@' :: (agent.toList ++ ':' :: command.toList) := by
    rw [line, trim_of_bare (bare_cons.mpr ⟨by decide, bare⟩)]
  have read : tokens (agent.toList ++ ':' :: command.toList) =
      [agent.toList ++ ':' :: command.toList] := by
    rw [tokens_bare bare]
    simp
  have target : Target .at _ _ _ :=
    .parted noColon plain.isAllBlank plainCommand.isAllBlank
  rw [trim_of_bare plain.bare, trim_of_bare plainCommand.bare] at target
  refine ⟨_, parse?_eq_some_iff_writes.mpr (Writes.line trimmed .at read target), rfl, ?_, ?_⟩
  · exact String.ofList_toList
  · exact String.ofList_toList

end CommandLine

namespace Dispatcher

variable {state before middle after : Dispatcher}

/-- Running a command changes the files, the settings and the models, and notes calls. -/
structure OnlyRuns (before after : Dispatcher) : Prop where
  frame :
    after =
      { before with
        files := after.files
        settings := after.settings
        models := after.models
        calls := after.calls }

namespace OnlyRuns

theorem refl (state : Dispatcher) : OnlyRuns state state :=
  ⟨rfl⟩

theorem trans (first : OnlyRuns before middle) (second : OnlyRuns middle after) :
    OnlyRuns before after := by
  refine ⟨?_⟩
  rw [second.frame, first.frame]

theorem runDeclared (state : Dispatcher) (command : PluginCommand)
    (arguments : Option (List Value)) : OnlyRuns state (state.runDeclared command arguments).1 := by
  have called (arguments : List Value) (field : Value) :
      OnlyRuns state (state.callValue arguments field).1 := by
    cases field <;> exact ⟨rfl⟩
  unfold Dispatcher.runDeclared
  split
  · exact refl state
  · exact called _ _
  · exact called _ _
  · exact refl state

theorem runPlugin (state : Dispatcher) (handle : Nat) (name : Value)
    (arguments : Option (List Value)) :
    OnlyRuns state (state.runPlugin handle name arguments).1 := by
  have noted : OnlyRuns state (state.noteCall (.plugin handle name arguments)) := ⟨rfl⟩
  unfold Dispatcher.runPlugin
  split
  · exact refl state
  · dsimp only
    split
    · split
      · exact noted.trans (runDeclared _ _ _)
      · exact noted
    · exact noted

theorem runBuiltin (state : Dispatcher) (builtin : Builtin) (arguments : List Value)
    (flags : Entries) : OnlyRuns state (state.runBuiltin builtin arguments flags).1 := by
  cases builtin with
  | help => exact refl state
  | slashHelp => exact refl state
  | models => exact refl state
  | model =>
      simp only [Dispatcher.runBuiltin, runModel]
      split <;> exact ⟨rfl⟩

theorem runTables (state : Dispatcher) (agent command : Value) (arguments : List Value)
    (flags : Entries) : OnlyRuns state (state.runTables agent command arguments flags).1 := by
  unfold Dispatcher.runTables
  split
  · exact refl state
  · rename_i handler _
    cases handler with
    | builtin builtin => exact runBuiltin state builtin arguments flags
    | plugin handle name => exact runPlugin state handle name _
    | declared command => exact runDeclared state command _
    | flexible callable => exact ⟨rfl⟩
    | direct callable => exact ⟨rfl⟩
  · split <;> exact refl state

theorem runAgent (state : Dispatcher) (agent command : Value) (arguments : List Value) :
    OnlyRuns state (state.runAgent agent command arguments).1 := by
  unfold Dispatcher.runAgent
  split
  · exact refl state
  · exact refl state
  · exact runPlugin state _ _ _

theorem execute (state : Dispatcher) (lead : Lead) (agent command : Value)
    (arguments : List Value) (flags : Entries) :
    OnlyRuns state (state.execute lead agent command arguments flags).1 := by
  unfold Dispatcher.execute
  split
  · exact runAgent state agent command arguments
  · exact runTables state agent command arguments flags
  · exact refl state

theorem run (state : Dispatcher) (text : String) : OnlyRuns state (state.run text).1 := by
  unfold Dispatcher.run
  split
  · exact refl state
  · exact execute state _ _ _ _ _

theorem runPluginCommand (state : Dispatcher) (id name : Value)
    (arguments : Option (List Value)) :
    OnlyRuns state (state.runPluginCommand id name arguments).1 := by
  unfold Dispatcher.runPluginCommand
  split
  · exact refl state
  · exact refl state
  · exact runPlugin state _ _ _

end OnlyRuns

/-- What can be done with a front end, and what can happen around it. -/
inductive Use : Dispatcher → Dispatcher → Prop where
  | operate (state : Dispatcher) (operation : Operation) : Use state (state.operate operation).1
  | startOne (state : Dispatcher) (handle : Nat) : Use state (state.startPlugin handle).1
  | startAll (state : Dispatcher) : Use state state.startAll
  | wait (state : Dispatcher) : Use state state.waitForRefresh.1
  | gather (state : Dispatcher) (count : Nat) : Use state (state.gatherRefresh count).1
  | loadExternal (state : Dispatcher) (paths : Value) (reload : Bool) :
      Use state (state.loadExternal paths reload).1
  | loadPlugins (state : Dispatcher) (paths : Value) (reload : Bool) :
      Use state (state.loadPlugins paths reload).1
  | execute (state : Dispatcher) (lead : Lead) (agent command : Value) (arguments : List Value)
      (flags : Entries) : Use state (state.execute lead agent command arguments flags).1
  | executeText (state : Dispatcher) (text : String) (arguments : List Value) (flags : Entries) :
      Use state (state.executeText text arguments flags).1
  | run (state : Dispatcher) (text : String) : Use state (state.run text).1
  | runById (state : Dispatcher) (id : String) (arguments : List Value) (flags : Entries) :
      Use state (state.runById id arguments flags).1
  | runPluginCommand (state : Dispatcher) (id name : Value) (arguments : Option (List Value)) :
      Use state (state.runPluginCommand id name arguments).1
  | switch (state : Dispatcher) (store : ModelStore) (name : Value) (persist : Bool) :
      Use state (state.setActiveModel store name persist).1
  | write (state : Dispatcher) (path : String) (value : Value) :
      Use state (state.writeSetting path value)
  | surroundings (state : Dispatcher) (files : FileTree) (catalogue : Entries)
      (sourceFailure : Option String) (hasLoop : Bool) :
      Use state { state with files, catalogue, sourceFailure, hasLoop }

/-- A dispatcher still has the notices that it was set up with. -/
structure Keeps (notices : Notices) (state : Dispatcher) : Prop where
  follows : state.FollowsPlugins
  same : state.notices = notices

variable {notices : Notices}

theorem Keeps.of_onlyRuns (keeps : Keeps notices before) (runs : OnlyRuns before after) :
    Keeps notices after := by
  rw [runs.frame]
  exact ⟨keeps.follows, keeps.same⟩

theorem Keeps.announce (keeps : Keeps notices state) (topic : Topic) (payload : List Value) :
    Keeps notices (Dispatcher.announce topic payload state) where
  follows := keeps.follows.of_leaves (alerted_announce keeps.follows topic payload).leaves
  same := by
    rw [(unmoved_announce topic payload state).frame]
    exact keeps.same

theorem ignores_keeps : Ignores (Keeps notices) where
  tables := fun _ keeps => ⟨keeps.follows, keeps.same⟩
  announce := fun topic payload keeps => keeps.announce topic payload

theorem overlooks_keeps : Overlooks (Keeps notices) where
  registered := fun _ keeps => ⟨keeps.follows, keeps.same⟩
  announce := fun topic payload keeps => keeps.announce topic payload

theorem endures_keeps : Endures (Keeps notices) where
  reschedule := fun _ keeps => ⟨keeps.follows, keeps.same⟩
  conclude := fun {state} party keeps => by
    have closes := closes_conclude keeps.follows party
    refine ⟨keeps.follows.of_leaves closes.leaves, ?_⟩
    rw [closes.frame]
    exact keeps.same

theorem admits_keeps : Admits (Keeps notices) where
  register := fun handle sort keeps => overlooks_keeps.registerPlugin handle sort keeps
  unregister := fun id sort keeps => overlooks_keeps.unregisterPlugin id sort keeps
  grown := fun _ _ keeps => ⟨keeps.follows, keeps.same⟩

namespace Keeps

theorem startPlugin (keeps : Keeps notices state) (handle : Nat) :
    Keeps notices (state.startPlugin handle).1 := by
  rcases startPlugin_cases state handle with same | ⟨plugin, -, started⟩
  · rw [same]
    exact keeps
  · rw [started]
    exact ⟨keeps.follows, keeps.same⟩

theorem startAll (keeps : Keeps notices state) : Keeps notices state.startAll := by
  have started : Keeps notices
      (state.enabledHandles.foldl (fun state handle => (state.startPlugin handle).1) state) :=
    List.foldlRecOn _ _ keeps fun _ keeps handle _ => keeps.startPlugin handle
  exact started.announce .pluginsStarted []

theorem operate (keeps : Keeps notices state) (operation : Operation) :
    Keeps notices (state.operate operation).1 := by
  cases operation with
  | request request => exact ignores_keeps.perform request keeps
  | declare declaration => exact ignores_keeps.registerCommand declaration keeps
  | refresh => exact endures_keeps.refresh keeps
  | subscribe topic listener =>
      exact ⟨followsPlugins_listener keeps.follows topic listener, keeps.same⟩
  | unsubscribe topic listener =>
      exact ⟨fun entry member => keeps.follows entry (List.mem_of_mem_erase member), keeps.same⟩
  | attach =>
      have connected : FollowsPlugins { state with source := .direct } := keeps.follows
      exact ⟨followsPlugins_follow connected, keeps.same⟩
  | registerPlugin handle sort => exact overlooks_keeps.registerPlugin handle sort keeps
  | unregisterPlugin id sort => exact overlooks_keeps.unregisterPlugin id sort keeps
  | addPlugin plugin => exact ⟨keeps.follows, keeps.same⟩
  | setPlugin handle plugin => exact ⟨keeps.follows, keeps.same⟩
  | wakeFirst => exact endures_keeps.wakeFirst keeps

theorem loadPlugins (keeps : Keeps notices state) (paths : Value) (reload : Bool) :
    Keeps notices (state.loadPlugins paths reload).1 := by
  unfold Dispatcher.loadPlugins
  split
  · exact keeps
  · rename_i chosen _
    have loaded := admits_keeps.loadExternal chosen reload keeps
    split
    · rename_i failed
      rw [failed] at loaded
      exact loaded
    · rename_i next count came
      rw [came] at loaded
      have waited : Keeps notices next.startAll.waitForRefresh.1 :=
        endures_keeps.waitWithin _ loaded.startAll
      split
      · rename_i failed
        rw [failed] at waited
        exact waited
      · rename_i ended
        rw [ended] at waited
        exact endures_keeps.refresh waited

/-- Nothing that is done with a front end changes its notices. -/
theorem use (keeps : Keeps notices before) (use : Use before after) : Keeps notices after := by
  cases use with
  | operate operation => exact keeps.operate operation
  | startOne handle => exact keeps.startPlugin handle
  | startAll => exact keeps.startAll
  | wait => exact endures_keeps.waitWithin _ keeps
  | gather count => exact endures_keeps.gatherRefresh count keeps
  | loadExternal paths reload => exact admits_keeps.loadExternal paths reload keeps
  | loadPlugins paths reload => exact keeps.loadPlugins paths reload
  | execute lead agent command arguments flags =>
      exact keeps.of_onlyRuns (.execute before lead agent command arguments flags)
  | executeText text arguments flags => exact keeps.of_onlyRuns (.execute before _ _ _ _ _)
  | run text => exact keeps.of_onlyRuns (.run before text)
  | runById id arguments flags => exact keeps.of_onlyRuns (.runTables before _ _ _ _)
  | runPluginCommand id name arguments =>
      exact keeps.of_onlyRuns (.runPluginCommand before id name arguments)
  | switch store name persist => exact keeps.of_onlyRuns ⟨rfl⟩
  | write path value => exact keeps.of_onlyRuns ⟨rfl⟩
  | surroundings => exact ⟨keeps.follows, keeps.same⟩

theorem used (keeps : Keeps notices before) (used : Relation.ReflTransGen Use before after) :
    Keeps notices after := by
  induction used with
  | refl => exact keeps
  | tail _ use induction => exact induction.use use

end Keeps

/-- A front end is set up with the notices of its settings, if there are models for it. -/
theorem setUpFrontEnd_of_notices {origin : Dispatcher}
    (noted : Notices.ofSettings (some origin.settings) = .ok notices) :
    (∃ fault, origin.setUpFrontEnd = .error fault ∧ origin.models = none ∧
      ModelStore.ofSettings origin.files origin.settings = .error fault) ∨
    ∃ store, origin.setUpFrontEnd =
      .ok ({ origin with models := some store, notices }.setUp .direct true) := by
  unfold setUpFrontEnd
  rw [noted]
  cases stocked : origin.models with
  | some store => exact .inr ⟨store, rfl⟩
  | none =>
      cases made : ModelStore.ofSettings origin.files origin.settings with
      | error fault => exact .inl ⟨fault, by simp, rfl, rfl⟩
      | ok store => exact .inr ⟨store, by simp [Except.map]⟩

theorem keeps_setUpFrontEnd {origin facade : Dispatcher} (follows : origin.FollowsPlugins)
    (noted : Notices.ofSettings (some origin.settings) = .ok notices)
    (ready : origin.setUpFrontEnd = .ok facade) : Keeps notices facade := by
  rcases setUpFrontEnd_of_notices noted with ⟨fault, failed, -⟩ | ⟨store, made⟩
  · cases failed.symm.trans ready
  · have outcome := Except.ok.inj (made.symm.trans ready)
    subst outcome
    have connected : Keeps notices
        { origin with models := some store, notices, source := .direct } := ⟨follows, rfl⟩
    exact ignores_keeps.setUp .direct true connected
      ⟨followsPlugins_follow connected.follows, rfl⟩

/-- What is answered for an agent without a plugin, under overrides of the notices. -/
def unattended (overrides : Entries) (agent : String) : Outcome :=
  match Notices.notice? overrides .missing (.text agent) with
  | some notice =>
      .ok (.map [("content", .text notice), ("error", .bool true),
        ("type", .text "plugin-not-found")])
  | none => .error (.agentNotFound agent)

/-- A dispatcher has the notices of overrides, and answers with them for every agent without a
plugin, whichever way the command is entered. -/
structure Informs (overrides : Entries) (state : Dispatcher) : Prop where
  tables : ∀ cause agent,
    Table.lookup agent (state.notices.ofCause cause) = Notices.notice? overrides cause agent
  execute : ∀ agent : String, state.agentPlugin? (.text agent) = none →
    ∀ (lead : Lead) (command : Value) (arguments : List Value) (flags : Entries),
      lead.sigil? = some .at →
        state.execute lead (.text agent) command arguments flags =
          (state, unattended overrides agent)
  executeText : ∀ agent : String, state.agentPlugin? (.text agent) = none →
    ∀ (command : String) (arguments : List Value) (flags : Entries), ':' ∉ agent.toList →
      state.executeText ("@" ++ agent ++ ":" ++ command) arguments flags =
        (state, unattended overrides agent)
  run : ∀ agent : String, state.agentPlugin? (.text agent) = none →
    ∀ text parsed, parse? text = some parsed → parsed.sigil = .at → parsed.agent = agent →
      state.run text = (state, (unattended overrides agent).map some)
  runWords : ∀ agent : String, state.agentPlugin? (.text agent) = none →
    ∀ command : String, Plain agent → Plain command → ':' ∉ agent.toList →
      state.run ("@" ++ agent ++ ":" ++ command) = (state, (unattended overrides agent).map some)

variable {overrides : Entries}

theorem runAgent_unattended
    (tables : ∀ agent,
      Table.lookup agent state.notices.missing = Notices.notice? overrides .missing agent)
    {agent : String} (absent : state.agentPlugin? (.text agent) = none) (command : Value)
    (arguments : List Value) :
    state.runAgent (.text agent) command arguments = (state, unattended overrides agent) := by
  have found := tables (.text agent)
  unfold unattended
  cases said : Notices.notice? overrides .missing (.text agent) with
  | some notice =>
      rw [said] at found
      have received : state.Received (.text agent) command arguments _ :=
        .notSetUp absent ⟨found, Notices.notice?_ne_empty said⟩
      exact received.eq_runAgent.symm
  | none =>
      rw [said] at found
      have silent : ∀ notice, ¬ HasNotice state.notices.missing (.text agent) notice := by
        rintro notice ⟨has, -⟩
        cases found.symm.trans has
      have received : state.Received (.text agent) command arguments _ := .unknown absent silent
      exact received.eq_runAgent.symm

theorem informs_of_same (distinct : Table.Distinct overrides)
    (same : state.notices = Notices.withOverrides overrides) : state.Informs overrides := by
  have tables (cause : Cause) (agent : Key) :
      Table.lookup agent (state.notices.ofCause cause) =
        Notices.notice? overrides cause agent := by
    rw [same]
    exact Notices.lookup_ofCause_withOverrides distinct cause agent
  have answers {agent : String} (absent : state.agentPlugin? (.text agent) = none)
      (command : Value) (arguments : List Value) :=
    runAgent_unattended (tables .missing) absent command arguments
  have parsed {agent : String} (absent : state.agentPlugin? (.text agent) = none) (text : String)
      (parsed : Command) (parses : parse? text = some parsed) (atSign : parsed.sigil = .at)
      (own : parsed.agent = agent) :
      state.run text = (state, (unattended overrides agent).map some) := by
    have executed : state.execute (.sigil parsed.sigil) (.text parsed.agent)
        (.text parsed.command) parsed.arguments parsed.flags =
          (state, unattended overrides agent) := by
      rw [atSign, own]
      exact answers absent _ _
    rw [Dispatcher.run, parses]
    simp only [executed]
  exact {
    tables
    execute := fun agent absent lead command arguments flags atSign => by
      rw [Dispatcher.execute, atSign]
      exact answers absent command arguments
    executeText := fun agent absent command arguments flags noColon => by
      rw [executeText_at state noColon]
      exact answers absent _ arguments
    run := fun agent absent => parsed absent
    runWords := fun agent absent command plain plainCommand noColon => by
      obtain ⟨line, parses, atSign, own, -⟩ := parse?_at plain plainCommand noColon
      exact parsed absent _ line parses atSign own }

/-- The overrides in the settings are what a front end says, from when it is set up and whatever is
done with it.  Setting it up fails only where the models do.  A front end that is set up later with
other settings says what those override: it agrees with the first one wherever both word a notice
alike.  No override matters to another agent or for another cause. -/
theorem informs_of_settings {origin : Dispatcher} (follows : origin.FollowsPlugins)
    (has : Notices.Overrides origin.settings.data overrides) :
    (∀ fault, origin.setUpFrontEnd = .error fault →
      origin.models = none ∧
        ModelStore.ofSettings origin.files origin.settings = .error fault) ∧
    (∀ facade, origin.setUpFrontEnd = .ok facade →
      ∀ state, Relation.ReflTransGen Use facade state →
        state.Informs overrides ∧
        ∀ settings models others second, Notices.Overrides settings.data others →
          { state with settings, models }.setUpFrontEnd = .ok second →
            second.Informs others ∧
            ∀ cause agent,
              Notices.worded? cause (Table.lookup agent others) =
                  Notices.worded? cause (Table.lookup agent overrides) →
                Table.lookup agent (second.notices.ofCause cause) =
                  Table.lookup agent (facade.notices.ofCause cause)) ∧
    (∀ cause (agent other : Key) entry, (other == agent) = false →
      Notices.notice? (Table.store other entry overrides) cause agent =
        Notices.notice? overrides cause agent) ∧
    ∀ (cause another : Cause) agent own key value, another ≠ cause → key ∈ another.keys →
      Notices.notice? (Table.store agent (.map (Table.store (Key.text key) value own)) overrides)
          cause agent =
        Notices.notice? (Table.store agent (.map own) overrides) cause agent := by
  have noted := Notices.ofSettings_of_overrides has
  refine ⟨?models, ?informs, ?agents, ?causes⟩
  case models =>
    intro fault failed
    rcases setUpFrontEnd_of_notices noted with ⟨other, came, none, models⟩ | ⟨store, made⟩
    · cases came.symm.trans failed
      exact ⟨none, models⟩
    · cases made.symm.trans failed
  case informs =>
    intro facade ready state used
    have fresh := keeps_setUpFrontEnd follows noted ready
    have kept := fresh.used used
    refine ⟨informs_of_same has.distinct kept.same, ?_⟩
    intro settings models others second hasOthers readySecond
    have unused : FollowsPlugins { state with settings, models } := kept.follows
    have notedSecond := Notices.ofSettings_of_overrides hasOthers
    have keepsSecond := keeps_setUpFrontEnd unused notedSecond readySecond
    have informsSecond := informs_of_same hasOthers.distinct keepsSecond.same
    refine ⟨informsSecond, fun cause agent alike => ?_⟩
    rw [informsSecond.tables, (informs_of_same has.distinct fresh.same).tables, Notices.notice?,
      Notices.notice?, alike]
  case agents =>
    intro cause agent other entry different
    exact Notices.notice?_store_of_ne different entry overrides cause
  case causes =>
    intro cause another agent own key value different ofAnother
    exact Notices.notice?_store_another different ofAnother value agent own overrides

/-- Overrides of two agents, and an entry that is none. -/
def sampleOverrides : Entries :=
  [ ("jira", .map [("auth-required", .text "# Add a Jira token"), ("not-configured", .text "")]),
    ("slack", .map [("not-configured", .int 0), ("not_configured", .text "# Connect Slack")]),
    ("bad", .text "not a mapping") ]

/-- A dispatcher with these overrides in its settings. -/
def sampleWorded : Dispatcher :=
  { blank with settings := ⟨[("soft_failures", .map sampleOverrides)], none⟩ }

/-- A notice is worded under one key of an agent, and comes from the defaults for the others. -/
theorem informs_of_sample :
    sampleWorded.FollowsPlugins ∧
      Notices.Overrides sampleWorded.settings.data sampleOverrides ∧
      ∃ facade, sampleWorded.setUpFrontEnd = .ok facade ∧
        facade.run "@slack:send" =
          (facade, .ok (some (.map [("content", .text "# Connect Slack"), ("error", .bool true),
            ("type", .text "plugin-not-found")]))) ∧
        facade.run "@bad:send" = (facade, .error (.agentNotFound "bad")) ∧
        Table.lookup (.text "jira") (facade.notices.ofCause .locked) =
          some "# Add a Jira token" ∧
        Table.lookup (.text "jira") (facade.notices.ofCause .missing) =
          Table.lookup (.text "jira") (Notices.default.ofCause .missing) := by
  have follows : sampleWorded.FollowsPlugins := fun _ member => (List.not_mem_nil member).elim
  have distinct : Table.Distinct sampleOverrides := by
    unfold Table.Distinct sampleOverrides
    decide
  have has : Notices.Overrides sampleWorded.settings.data sampleOverrides := .mapping rfl distinct
  refine ⟨follows, has, _, rfl, ?_⟩
  obtain ⟨informs, -⟩ := (informs_of_settings follows has).2.1 _ rfl _ .refl
  refine ⟨?_, ?_, ?_, ?_⟩
  · exact informs.runWords "slack" rfl "send" ⟨by decide, by decide⟩ ⟨by decide, by decide⟩
      (by decide)
  · exact informs.runWords "bad" rfl "send" ⟨by decide, by decide⟩ ⟨by decide, by decide⟩
      (by decide)
  · exact informs.tables .locked (.text "jira")
  · exact informs.tables .missing (.text "jira")

end Dispatcher

end ChatDispatch
