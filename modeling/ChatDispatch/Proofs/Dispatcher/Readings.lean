import ChatDispatch.Dispatcher.Refresh
import ChatDispatch.Proofs.Dispatcher.Storing

/-!
# What a rebuild reads

A rebuild goes through the enabled plugins, and for each through its declarations.  The two
loops are one loop over the `readings`: the declarations in order, and for a plugin that
cannot list its commands this fact.

The `verdict` on a reading is what comes of it as far as the tables have no say.  `Step` is
all that a reading without a fault can do to a rebuild, and `Steps` is a run of such readings.
-/

namespace ChatDispatch

open CommandTables

/-- What a rebuild reads: that a plugin cannot list its commands, or a declaration of the
plugin with a handle. -/
inductive Reading where
  | unlisted (agent : Value) (fault : Fault)
  | declared (handle : Nat) (agent : Value) (declaration : Declaration)

/-- What comes of a reading: a failure that is noted, a fault that ends the rebuild, or a
command that is stored unless there is one already. -/
inductive Verdict where
  | failed (failure : Failure)
  | faulty (fault : Fault)
  | offered (handle : Nat) (agent : Value) (command : PluginCommand)
deriving DecidableEq

namespace Reading

def verdict : Reading → Verdict
  | .unlisted agent fault =>
      .failed ⟨agent, .text "*", "get_commands failed: " ++ fault.message⟩
  | .declared handle agent declaration =>
      match declaration.normalize with
      | .error (.namelessDeclaration shown) =>
          .failed ⟨agent, .text "?", (Fault.namelessDeclaration shown).message⟩
      | .error fault => .faulty fault
      | .ok command =>
          if !(agent.holds && command.name.holds) then
            .failed ⟨agent, command.name, Refusal.invalid.message⟩
          else if !(agent.isKey && command.name.isKey) then
            .faulty (.notAKey (if agent.isKey then command.name else agent).kind)
          else
            .offered handle agent command

/-- Whether a reading lets the rebuild go on. -/
def isSound (reading : Reading) : Bool :=
  match reading.verdict with
  | .faulty _ => false
  | _ => true

theorem verdict_of_blank {handle : Nat} {agent : Value} {declaration : Declaration}
    {command : PluginCommand} (normal : declaration.normalize = .ok command)
    (blank : (agent.holds && command.name.holds) = false) :
    (declared handle agent declaration).verdict =
      .failed ⟨agent, command.name, Refusal.invalid.message⟩ := by
  simp only [verdict, normal, blank, Bool.not_false, if_true]

theorem verdict_of_unkeyed {handle : Nat} {agent : Value} {declaration : Declaration}
    {command : PluginCommand} (normal : declaration.normalize = .ok command)
    (holds : (agent.holds && command.name.holds) = true)
    (unkeyed : (agent.isKey && command.name.isKey) = false) :
    (declared handle agent declaration).verdict =
      .faulty (.notAKey (if agent.isKey then command.name else agent).kind) := by
  simp only [verdict, normal, holds, unkeyed, Bool.not_true, Bool.not_false, if_true,
    Bool.false_eq_true, if_false]

theorem verdict_of_storable {handle : Nat} {agent : Value} {declaration : Declaration}
    {command : PluginCommand} (normal : declaration.normalize = .ok command)
    (storable : Storable agent command.name) :
    (declared handle agent declaration).verdict = .offered handle agent command := by
  simp only [verdict, normal, storable.agent_holds, storable.command_holds,
    storable.agent_isKey, storable.command_isKey, Bool.and_self, Bool.not_true,
    Bool.false_eq_true, if_false]

theorem of_verdict_offered {reading : Reading} {handle : Nat} {agent : Value}
    {command : PluginCommand} (verdict : reading.verdict = .offered handle agent command) :
    Storable agent command.name ∧
      ∃ declaration,
        reading = .declared handle agent declaration ∧ declaration.normalize = .ok command := by
  cases reading with
  | unlisted => cases verdict
  | declared handle' agent' declaration =>
      simp only [Reading.verdict] at verdict
      split at verdict
      · cases verdict
      · cases verdict
      · rename_i normal
        split at verdict
        · cases verdict
        · rename_i holds
          split at verdict
          · cases verdict
          · rename_i keyed
            cases verdict
            simp only [Bool.not_eq_true', Bool.not_eq_false, Bool.and_eq_true] at holds keyed
            exact ⟨⟨holds.1, holds.2, keyed.1, keyed.2⟩, declaration, rfl, normal⟩

/-- A declaration lets the rebuild go on if it has no name, or if it is a command whose
keys, unless one of them is blank, are keys. -/
theorem isSound_declared_iff {handle : Nat} {agent : Value} {declaration : Declaration} :
    (declared handle agent declaration).isSound = true ↔
      (∃ shown, declaration.normalize = .error (.namelessDeclaration shown)) ∨
      ∃ command, declaration.normalize = .ok command ∧
        ((agent.holds && command.name.holds) = true →
          (agent.isKey && command.name.isKey) = true) := by
  cases normal : declaration.normalize with
  | error fault =>
      cases fault <;> simp [isSound, verdict, normal]
  | ok command =>
      cases holds : agent.holds && command.name.holds with
      | false => simp [-Bool.and_eq_true, isSound, verdict_of_blank normal holds, holds]
      | true =>
          cases keyed : agent.isKey && command.name.isKey with
          | false =>
              simp [-Bool.and_eq_true, isSound, verdict_of_unkeyed normal holds keyed, holds,
                keyed]
          | true =>
              have storable : Storable agent command.name := by
                rw [Bool.and_eq_true] at holds keyed
                exact ⟨holds.1, holds.2, keyed.1, keyed.2⟩
              simp [-Bool.and_eq_true, isSound, verdict_of_storable normal storable, keyed]

theorem exists_first_faulty {readings : List Reading}
    (unsound : ¬∀ reading ∈ readings, reading.isSound = true) :
    ∃ passed reading rest fault,
      readings = passed ++ reading :: rest ∧
        (∀ earlier ∈ passed, earlier.isSound = true) ∧ reading.verdict = .faulty fault := by
  induction readings with
  | nil => exact absurd (fun _ member => by cases member) unsound
  | cons first rest induction =>
      cases verdict : first.verdict with
      | faulty fault => exact ⟨[], first, rest, fault, rfl, by simp, verdict⟩
      | _ =>
          have sound : first.isSound = true := by simp [Reading.isSound, verdict]
          have restUnsound : ¬∀ reading ∈ rest, reading.isSound = true :=
            fun all => unsound (List.forall_mem_cons.mpr ⟨sound, all⟩)
          obtain ⟨passed, reading, later, fault, split, passedSound, faulty⟩ :=
            induction restUnsound
          refine ⟨first :: passed, reading, later, fault, ?_, ?_, faulty⟩
          · rw [split, List.cons_append]
          · exact List.forall_mem_cons.mpr ⟨sound, passedSound⟩

end Reading

namespace Dispatcher

/-- What a rebuild reads of the plugin of a handle. -/
def readingsOf (plugins : List Plugin) (handle : Nat) : List Reading :=
  match plugins[handle]? with
  | none => []
  | some plugin =>
      match plugin.declarations with
      | .error fault => [.unlisted plugin.id fault]
      | .ok declarations => declarations.map (.declared handle plugin.id)

/-- What a rebuild from the enabled plugins reads. -/
def readings (state : Dispatcher) : List Reading :=
  state.enabledHandles.flatMap (readingsOf state.plugins)

/-- An offered command is of the plugin whose handle it has. -/
theorem of_mem_readingsOf {plugins : List Plugin} {handle : Nat} {reading : Reading}
    (member : reading ∈ readingsOf plugins handle) {offering : Nat} {agent : Value}
    {command : PluginCommand} (offered : reading.verdict = .offered offering agent command) :
    offering = handle ∧ ∃ plugin, plugins[handle]? = some plugin ∧ plugin.id = agent := by
  unfold readingsOf at member
  split at member
  · cases member
  · rename_i plugin present
    split at member
    · cases List.mem_singleton.mp member
      cases offered
    · obtain ⟨declaration, -, rfl⟩ := List.mem_map.mp member
      obtain ⟨-, own, same, -⟩ := Reading.of_verdict_offered offered
      cases same
      exact ⟨rfl, plugin, present, rfl⟩

/-- A command of a plugin as the tables keep it. -/
def pluginEntry (handle : Nat) (agent : Value) (command : PluginCommand) : Entry where
  agent := agent
  command := command.name
  handler := .plugin handle command.name
  usage := Rebuild.usageOf agent command

namespace Rebuild

def keep (rebuild : Rebuild) (entry : Entry) : Rebuild where
  state := rebuild.state.install entry
  failures := rebuild.failures
  count := rebuild.count + 1

def read (rebuild : Rebuild) : Reading → Rebuild × Option Fault
  | .unlisted agent fault =>
      (rebuild.skip agent (.text "*") ("get_commands failed: " ++ fault.message), none)
  | .declared handle agent declaration => storeDeclaration handle agent rebuild declaration

/-- Goes on with readings until one is at fault. -/
def readAll (rebuild : Rebuild) : List Reading → Rebuild × Option Fault
  | [] => (rebuild, none)
  | reading :: rest =>
      match rebuild.read reading with
      | (stopped, some fault) => (stopped, some fault)
      | (next, none) => next.readAll rest

theorem read_of_failed (rebuild : Rebuild) {reading : Reading} {failure : Failure}
    (verdict : reading.verdict = .failed failure) :
    rebuild.read reading =
      (rebuild.skip failure.agent failure.command failure.reason, none) := by
  cases reading with
  | unlisted agent fault =>
      cases verdict
      rfl
  | declared handle agent declaration =>
      cases normal : declaration.normalize with
      | error fault =>
          simp only [Reading.verdict, normal] at verdict
          split at verdict
          · rename_i same
            cases same
            cases verdict
            simp only [read, storeDeclaration, normal]
          · cases verdict
          · contradiction
      | ok command =>
          cases holds : agent.holds && command.name.holds with
          | false =>
              rw [Reading.verdict_of_blank normal holds] at verdict
              cases verdict
              simp only [read, storeDeclaration, normal, storeCommand, addHandler,
                addHandlerWith, addHandler_of_blank holds]
          | true =>
              cases keyed : agent.isKey && command.name.isKey with
              | false =>
                  rw [Reading.verdict_of_unkeyed normal holds keyed] at verdict
                  cases verdict
              | true =>
                  rw [Bool.and_eq_true] at holds keyed
                  rw [Reading.verdict_of_storable normal
                    ⟨holds.1, holds.2, keyed.1, keyed.2⟩] at verdict
                  cases verdict

/-- A reading at fault stops the rebuild; no answer of the tables has changed. -/
theorem read_of_faulty (rebuild : Rebuild) {reading : Reading} {fault : Fault}
    (verdict : reading.verdict = .faulty fault) :
    ∃ handlers,
      rebuild.read reading =
        ({ rebuild with state := rebuild.state.withHandlers handlers }, some fault) ∧
      ∀ agent command,
        find? agent command handlers = find? agent command rebuild.state.tables.handlers := by
  cases reading with
  | unlisted => cases verdict
  | declared handle agent declaration =>
      cases normal : declaration.normalize with
      | error other =>
          refine ⟨rebuild.state.tables.handlers, ?_, fun _ _ => rfl⟩
          simp only [Reading.verdict, normal] at verdict
          split at verdict
          · cases verdict
          · rename_i named same
            cases same
            cases verdict
            simp only [read, storeDeclaration, normal]
            rfl
          · contradiction
      | ok command =>
          cases holds : agent.holds && command.name.holds with
          | false =>
              rw [Reading.verdict_of_blank normal holds] at verdict
              cases verdict
          | true =>
              cases keyed : agent.isKey && command.name.isKey with
              | false =>
                  rw [Reading.verdict_of_unkeyed normal holds keyed] at verdict
                  cases verdict
                  obtain ⟨handlers, stopped, same⟩ :=
                    addHandler_of_unkeyed holds keyed rebuild.state.tables
                      (.plugin handle command.name)
                  refine ⟨handlers, ?_, same⟩
                  simp only [read, storeDeclaration, normal, storeCommand, addHandler,
                    addHandlerWith, stopped]
                  rfl
              | true =>
                  rw [Bool.and_eq_true] at holds keyed
                  rw [Reading.verdict_of_storable normal
                    ⟨holds.1, holds.2, keyed.1, keyed.2⟩] at verdict
                  cases verdict

theorem read_of_duplicate {rebuild : Rebuild} {reading : Reading} {handle : Nat}
    {agent : Value} {command : PluginCommand}
    (verdict : reading.verdict = .offered handle agent command)
    (present : (rebuild.state.tables.handler? agent command.name).isSome = true) :
    rebuild.read reading =
      (rebuild.skip agent command.name Refusal.duplicate.message, none) := by
  obtain ⟨storable, declaration, rfl, normal⟩ := Reading.of_verdict_offered verdict
  simp only [read, storeDeclaration, normal, storeCommand, addHandler, addHandlerWith,
    addHandler_of_duplicate storable present]

theorem read_of_fresh {rebuild : Rebuild} {reading : Reading} {handle : Nat}
    {agent : Value} {command : PluginCommand}
    (verdict : reading.verdict = .offered handle agent command)
    (absent : (rebuild.state.tables.handler? agent command.name).isSome = false) :
    rebuild.read reading = (rebuild.keep (pluginEntry handle agent command), none) := by
  obtain ⟨storable, declaration, rfl, normal⟩ := Reading.of_verdict_offered verdict
  have describable :
      Storable (usageOf agent command).agent (usageOf agent command).command := storable
  simp only [read, storeDeclaration, normal, storeCommand, addHandler, addHandlerWith,
    addHandler_of_fresh storable absent, if_true, registerUsage,
    addUsage_of_storable describable]
  rfl

/-- All that a reading can do to a rebuild without stopping it. -/
inductive Step (rebuild : Rebuild) (reading : Reading) : Rebuild → Prop where
  | failed {failure : Failure} (verdict : reading.verdict = .failed failure) :
      Step rebuild reading (rebuild.skip failure.agent failure.command failure.reason)
  | duplicate {handle : Nat} {agent : Value} {command : PluginCommand}
      (verdict : reading.verdict = .offered handle agent command)
      (present : (rebuild.state.tables.handler? agent command.name).isSome = true) :
      Step rebuild reading (rebuild.skip agent command.name Refusal.duplicate.message)
  | stored {handle : Nat} {agent : Value} {command : PluginCommand}
      (verdict : reading.verdict = .offered handle agent command)
      (absent : (rebuild.state.tables.handler? agent command.name).isSome = false) :
      Step rebuild reading (rebuild.keep (pluginEntry handle agent command))

theorem read_of_isSound (rebuild : Rebuild) {reading : Reading}
    (sound : reading.isSound = true) :
    ∃ next, rebuild.read reading = (next, none) ∧ Step rebuild reading next := by
  cases verdict : reading.verdict with
  | failed failure => exact ⟨_, read_of_failed rebuild verdict, .failed verdict⟩
  | faulty fault => simp [Reading.isSound, verdict] at sound
  | offered handle agent command =>
      cases present : (rebuild.state.tables.handler? agent command.name).isSome with
      | true => exact ⟨_, read_of_duplicate verdict present, .duplicate verdict present⟩
      | false => exact ⟨_, read_of_fresh verdict present, .stored verdict present⟩

theorem grows_of_step {rebuild next : Rebuild} {reading : Reading}
    (step : Step rebuild reading next) (follows : rebuild.state.FollowsPlugins) :
    Grows rebuild.state next.state := by
  cases step with
  | failed => exact .refl _
  | duplicate => exact .refl _
  | stored verdict absent => exact grows_install absent follows

/-- An offered command has a handler afterwards, unless a listener takes it away. -/
theorem isSome_handler?_of_step {rebuild next : Rebuild} {reading : Reading}
    (step : Step rebuild reading next) (follows : rebuild.state.FollowsPlugins)
    (lasting : rebuild.state.Lasting) {handle : Nat} {agent : Value} {command : PluginCommand}
    (offered : reading.verdict = .offered handle agent command) :
    (next.state.tables.handler? agent command.name).isSome = true := by
  cases step with
  | failed verdict =>
      rw [verdict] at offered
      cases offered
  | duplicate verdict present =>
      rw [verdict] at offered
      cases offered
      exact present
  | stored verdict absent =>
      rw [verdict] at offered
      cases offered
      exact isSome_handler?_install (pluginEntry handle agent command) follows lasting

/-- The handler of a plugin that is found afterwards was there before, or the reading has
offered its command, which had none. -/
theorem plugin_of_step {rebuild next : Rebuild} {reading : Reading}
    (step : Step rebuild reading next) (follows : rebuild.state.FollowsPlugins)
    {agent name own : Value} {handle : Nat}
    (found : next.state.tables.handler? agent name = some (.plugin handle own)) :
    rebuild.state.tables.handler? agent name = some (.plugin handle own) ∨
      ∃ id command,
        reading.verdict = .offered handle id command ∧
        (id == agent) = true ∧ (command.name == name) = true ∧
        (rebuild.state.tables.handler? id command.name).isSome = false := by
  cases step with
  | failed => exact .inl found
  | duplicate => exact .inl found
  | @stored offering id command verdict absent =>
      rcases handler?_install follows found with
        ⟨isOf, same⟩ | earlier | ⟨callable, same⟩
      · cases same
        obtain ⟨sameAgent, sameName⟩ := Bool.and_eq_true_iff.mp isOf
        exact .inr ⟨id, command, verdict, sameAgent, sameName, absent⟩
      · exact .inl earlier
      · cases same

theorem length_failures_of_step {rebuild next : Rebuild} {reading : Reading}
    (step : Step rebuild reading next) :
    next.count + next.failures.length = rebuild.count + rebuild.failures.length + 1 := by
  cases step with
  | failed => simp [skip, Nat.add_assoc]
  | duplicate => simp [skip, Nat.add_assoc]
  | stored => simp [keep, Nat.add_right_comm]

theorem failures_prefix_of_step {rebuild next : Rebuild} {reading : Reading}
    (step : Step rebuild reading next) : rebuild.failures <+: next.failures := by
  cases step with
  | failed => exact List.prefix_append _ _
  | duplicate => exact List.prefix_append _ _
  | stored => exact List.prefix_rfl

/-- Readings without a fault, one after the other. -/
inductive Steps : Rebuild → List Reading → Rebuild → Prop where
  | nil (rebuild : Rebuild) : Steps rebuild [] rebuild
  | cons {rebuild middle next : Rebuild} {reading : Reading} {rest : List Reading} :
      Step rebuild reading middle → Steps middle rest next →
      Steps rebuild (reading :: rest) next

theorem grows_of_steps {rebuild next : Rebuild} {readings : List Reading}
    (steps : Steps rebuild readings next) (follows : rebuild.state.FollowsPlugins) :
    Grows rebuild.state next.state := by
  induction steps with
  | nil => exact .refl _
  | cons step _ induction =>
      have first := grows_of_step step follows
      exact first.trans (induction (first.followsPlugins follows))

theorem length_failures_of_steps {rebuild next : Rebuild} {readings : List Reading}
    (steps : Steps rebuild readings next) :
    next.count + next.failures.length =
      rebuild.count + rebuild.failures.length + readings.length := by
  induction steps with
  | nil => rfl
  | cons step _ induction =>
      rw [induction, length_failures_of_step step, List.length_cons]
      omega

theorem failures_prefix_of_steps {rebuild next : Rebuild} {readings : List Reading}
    (steps : Steps rebuild readings next) : rebuild.failures <+: next.failures := by
  induction steps with
  | nil => exact List.prefix_rfl
  | cons step _ induction => exact (failures_prefix_of_step step).trans induction

theorem isSome_handler?_of_steps {rebuild next : Rebuild} {readings : List Reading}
    (steps : Steps rebuild readings next) (follows : rebuild.state.FollowsPlugins)
    (lasting : rebuild.state.Lasting) {reading : Reading} (member : reading ∈ readings)
    {handle : Nat} {agent : Value} {command : PluginCommand}
    (offered : reading.verdict = .offered handle agent command) :
    (next.state.tables.handler? agent command.name).isSome = true := by
  induction steps with
  | nil => cases member
  | cons step rest induction =>
      have grows := grows_of_step step follows
      have grown := grows.followsPlugins follows
      have kept := grows.lasting lasting
      rcases List.mem_cons.mp member with rfl | later
      · exact (grows_of_steps rest grown).isSome_handler? kept
          (isSome_handler?_of_step step follows lasting offered)
      · exact induction grown kept later

theorem mem_failures_of_steps {rebuild next : Rebuild} {readings : List Reading}
    (steps : Steps rebuild readings next) {reading : Reading} (member : reading ∈ readings)
    {failure : Failure} (failed : reading.verdict = .failed failure) :
    failure ∈ next.failures := by
  induction steps with
  | nil => cases member
  | cons step rest induction =>
      rcases List.mem_cons.mp member with rfl | later
      · apply (failures_prefix_of_steps rest).subset
        cases step with
        | failed verdict =>
            rw [verdict] at failed
            cases failed
            exact List.mem_append_right _ List.mem_cons_self
        | duplicate verdict =>
            rw [verdict] at failed
            cases failed
        | stored verdict =>
            rw [verdict] at failed
            cases failed
      · exact induction later

/-- The handler of a plugin that is found afterwards was there before, or one of the readings
has offered its command, which had none until then. -/
theorem plugin_of_steps {rebuild next : Rebuild} {readings : List Reading}
    (steps : Steps rebuild readings next) (follows : rebuild.state.FollowsPlugins)
    {agent name own : Value} {handle : Nat}
    (found : next.state.tables.handler? agent name = some (.plugin handle own)) :
    rebuild.state.tables.handler? agent name = some (.plugin handle own) ∨
      ∃ passed reading rest middle id command,
        readings = passed ++ reading :: rest ∧ Steps rebuild passed middle ∧
        reading.verdict = .offered handle id command ∧
        (id == agent) = true ∧ (command.name == name) = true ∧
        (middle.state.tables.handler? id command.name).isSome = false := by
  induction steps with
  | nil => exact .inl found
  | @cons rebuild middle next reading rest step restSteps induction =>
      have grown := (grows_of_step step follows).followsPlugins follows
      rcases induction grown found with
        before | ⟨passed, later, tail, until', id, command, split, passedSteps, offer⟩
      · rcases plugin_of_step step follows before with
          earlier | ⟨id, command, offered, sameAgent, sameName, absent⟩
        · exact .inl earlier
        · exact .inr ⟨[], reading, rest, rebuild, id, command, rfl, .nil rebuild, offered,
            sameAgent, sameName, absent⟩
      · refine .inr ⟨reading :: passed, later, tail, until', id, command, ?_,
          .cons step passedSteps, offer⟩
        rw [split, List.cons_append]

theorem readAll_of_isSound (rebuild : Rebuild) {readings : List Reading}
    (sound : ∀ reading ∈ readings, reading.isSound = true) :
    ∃ next, rebuild.readAll readings = (next, none) ∧ Steps rebuild readings next := by
  induction readings generalizing rebuild with
  | nil => exact ⟨rebuild, rfl, .nil rebuild⟩
  | cons reading rest induction =>
      obtain ⟨middle, read, step⟩ := read_of_isSound rebuild (sound _ List.mem_cons_self)
      obtain ⟨next, readRest, steps⟩ :=
        induction middle fun later member => sound later (List.mem_cons_of_mem _ member)
      refine ⟨next, ?_, .cons step steps⟩
      simp only [readAll, read, readRest]

theorem readAll_of_faulty (rebuild : Rebuild) {passed : List Reading} {reading : Reading}
    {fault : Fault} (rest : List Reading)
    (sound : ∀ earlier ∈ passed, earlier.isSound = true)
    (faulty : reading.verdict = .faulty fault) :
    ∃ middle handlers,
      Steps rebuild passed middle ∧
      rebuild.readAll (passed ++ reading :: rest) =
        ({ middle with state := middle.state.withHandlers handlers }, some fault) ∧
      ∀ agent command,
        find? agent command handlers = find? agent command middle.state.tables.handlers := by
  induction passed generalizing rebuild with
  | nil =>
      obtain ⟨handlers, read, same⟩ := read_of_faulty rebuild faulty
      exact ⟨rebuild, handlers, .nil rebuild, by simp only [List.nil_append, readAll, read], same⟩
  | cons first passed induction =>
      obtain ⟨next, read, step⟩ := read_of_isSound rebuild (sound _ List.mem_cons_self)
      obtain ⟨middle, handlers, steps, stopped, same⟩ :=
        induction next fun earlier member => sound earlier (List.mem_cons_of_mem _ member)
      refine ⟨middle, handlers, .cons step steps, ?_, same⟩
      simp only [List.cons_append, readAll, read, stopped]

theorem readAll_append (rebuild : Rebuild) (first second : List Reading) :
    rebuild.readAll (first ++ second) =
      match rebuild.readAll first with
      | (stopped, some fault) => (stopped, some fault)
      | (next, none) => next.readAll second := by
  induction first generalizing rebuild with
  | nil => rfl
  | cons reading rest induction =>
      simp only [List.cons_append, readAll]
      split
      · rfl
      · exact induction _

theorem storeDeclarations_eq_readAll (handle : Nat) (agent : Value) (rebuild : Rebuild)
    (declarations : List Declaration) :
    storeDeclarations handle agent rebuild declarations =
      rebuild.readAll (declarations.map (.declared handle agent)) := by
  induction declarations generalizing rebuild with
  | nil => rfl
  | cons declaration rest induction =>
      rw [List.map_cons]
      rcases stored : storeDeclaration handle agent rebuild declaration with ⟨next, - | fault⟩
      · simp only [storeDeclarations, readAll, read, stored, induction]
      · simp only [storeDeclarations, readAll, read, stored]

theorem storePlugin_eq_readAll (rebuild : Rebuild) (handle : Nat) :
    rebuild.storePlugin handle =
      rebuild.readAll (readingsOf rebuild.state.plugins handle) := by
  unfold storePlugin readingsOf plugin?
  cases present : rebuild.state.plugins[handle]? with
  | none => rfl
  | some plugin =>
      cases listed : plugin.declarations with
      | error fault => simp only [listed, readAll, read]
      | ok declarations => simp only [listed, storeDeclarations_eq_readAll]

theorem grows_of_readAll (rebuild : Rebuild) (readings : List Reading)
    (follows : rebuild.state.FollowsPlugins) :
    Grows rebuild.state (rebuild.readAll readings).1.state := by
  induction readings generalizing rebuild with
  | nil => exact .refl _
  | cons reading rest induction =>
      cases verdict : reading.verdict with
      | faulty fault =>
          obtain ⟨handlers, read, same⟩ := read_of_faulty rebuild verdict
          simp only [readAll, read]
          exact grows_withHandlers same
      | failed failure =>
          simp only [readAll, read_of_failed rebuild verdict]
          exact induction (rebuild.skip _ _ _) follows
      | offered handle agent command =>
          have sound : reading.isSound = true := by simp [Reading.isSound, verdict]
          obtain ⟨next, read, step⟩ := read_of_isSound rebuild sound
          have first := grows_of_step step follows
          simp only [readAll, read]
          exact first.trans (induction next (first.followsPlugins follows))

theorem storePlugins_eq_readAll (rebuild : Rebuild) (handles : List Nat)
    (follows : rebuild.state.FollowsPlugins) :
    rebuild.storePlugins handles =
      rebuild.readAll (handles.flatMap (readingsOf rebuild.state.plugins)) := by
  induction handles generalizing rebuild with
  | nil => rfl
  | cons handle rest induction =>
      have grows :=
        grows_of_readAll rebuild (readingsOf rebuild.state.plugins handle) follows
      rw [List.flatMap_cons, readAll_append, storePlugins, storePlugin_eq_readAll]
      cases read : rebuild.readAll (readingsOf rebuild.state.plugins handle) with
      | mk next outcome =>
          rw [read] at grows
          cases outcome with
          | some fault => rfl
          | none =>
              have tail := induction next (grows.followsPlugins follows)
              rw [grows.plugins] at tail
              exact tail

end Rebuild

end Dispatcher

end ChatDispatch
