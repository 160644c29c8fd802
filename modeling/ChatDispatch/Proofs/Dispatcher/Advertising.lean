import ChatDispatch.Proofs.Dispatcher.Admitting
import ChatDispatch.Proofs.Dispatcher.Entering
import ChatDispatch.Proofs.Dispatcher.Operating
import ChatDispatch.Proofs.Dispatcher.Sparing

/-!
# What a declared command advertises

A command that is declared by its id and a sigil gets a usage, whose form is the id after the
sigil.  After a slash, this form runs what was declared.  After an at sign it does not: it goes to
the plugin of the agent, or it is ordinary chat text, as it was before the command was declared.
-/

namespace ChatDispatch

open CommandLine

/-- A command that is declared by an id, which may come with a sigil, but with neither a name nor
a form of its own. -/
structure Descriptor (declaration : Declaration) (id : String) (sigil : Sigil) : Prop where
  identified : declaration.field? "id" = some (.text id)
  unnamed : declaration.field? "name" = none
  formless : declaration.field? "syntax" = none
  bare : Bare id.toList
  led : sigil = .slash ∧ declaration.field? "prefix" = none ∨
    (sigil = .slash ∨ sigil = .at) ∧
      declaration.field? "prefix" = some (.text sigil.text)

namespace Declaration

/-- What a declared command calls, and with which arguments when it is given none. -/
def invocation? (declaration : Declaration) : Option (Callable × List Value) :=
  match declaration.callable? "handler" with
  | some callable => some (callable, [.list [], .map []])
  | none => (declaration.callable? "execute").map fun callable => (callable, [.list []])

theorem value_of_callable? {declaration : Declaration} {name : String} {callable : Callable}
    (found : declaration.callable? name = some callable) :
    ∃ attributes, declaration.value name = .callable callable attributes := by
  unfold callable? at found
  split at found
  · rename_i content attributes present
    cases found
    exact ⟨attributes, by rw [value, present, Option.getD_some]⟩
  · cases found

end Declaration

namespace Descriptor

variable {declaration : Declaration} {id : String} {sigil : Sigil} {command : PluginCommand}

theorem value_name (descriptor : Descriptor declaration id sigil) :
    declaration.value "name" = .null := by
  rw [Declaration.value, descriptor.unnamed, Option.getD_none]

theorem value_id (descriptor : Descriptor declaration id sigil) :
    declaration.value "id" = .text id := by
  rw [Declaration.value, descriptor.identified, Option.getD_some]

theorem value_syntax (descriptor : Descriptor declaration id sigil) :
    declaration.value "syntax" = .null := by
  rw [Declaration.value, descriptor.formless, Option.getD_none]

/-- Such a command has its id for a name, and what it runs is what it declares. -/
theorem of_normalize (descriptor : Descriptor declaration id sigil)
    (normal : declaration.normalize = .ok command) :
    command.name = .text id ∧ command.form = .null ∧
      ∀ callable, declaration.callable? "execute" = some callable →
        ∃ attributes, command.runner = some (.onList (.callable callable attributes)) := by
  unfold Declaration.normalize at normal
  split at normal
  · cases descriptor.unnamed
  · rw [descriptor.value_name, descriptor.value_id, descriptor.value_syntax] at normal
    have named : Value.null.orElse (.text id) = .text id := rfl
    dsimp only at normal
    rw [named] at normal
    split at normal
    · cases normal
    · split at normal
      · cases normal
      · rw [← Except.ok.inj normal]
        refine ⟨rfl, rfl, fun callable found => ?_⟩
        obtain ⟨attributes, executes⟩ := Declaration.value_of_callable? found
        exact ⟨attributes, by simp [executes, Value.isCallable]⟩

theorem form_usageOf (descriptor : Descriptor declaration id sigil)
    (normal : declaration.normalize = .ok command) (agent name : String) :
    (Dispatcher.usageOf declaration command agent name).form = .text (sigil.text ++ id) := by
  obtain ⟨named, formless, -⟩ := descriptor.of_normalize normal
  have written : ((declaration.value "prefix").orElse (.text Sigil.slash.text)).asText =
      sigil.text := by
    rcases descriptor.led with ⟨rfl, missing⟩ | ⟨rfl | rfl, given⟩
    · rw [Declaration.value, missing]
      rfl
    · rw [Declaration.value, given]
      rfl
    · rw [Declaration.value, given]
      rfl
  rw [Dispatcher.usageOf, formless, named]
  dsimp only
  rw [written]
  rfl

end Descriptor

namespace CommandLine

theorem isAllBlank_of_bare {text : List Char} (bare : Bare text) (filled : text ≠ []) :
    Text.isAllBlank text = false := by
  rw [← isEmpty_trim, trim_of_bare bare]
  exact List.isEmpty_eq_false_iff.mpr filled

/-- An id after a slash is the line of the command whose id it is. -/
theorem parse?_slash_bare {id : String} (bare : Bare id.toList) (agentFilled : (splitId id).1 ≠ "")
    (nameFilled : (splitId id).2 ≠ "") :
    parse? (Sigil.slash.text ++ id) =
      some {
        sigil := .slash
        kind := .slash
        agent := (splitId id).1
        command := (splitId id).2
        arguments := []
        flags := []
        source := Sigil.slash.text ++ id } := by
  have letters : (Sigil.slash.text ++ id).toList = '/' :: id.toList := by
    rw [String.toList_append]
    rfl
  have trimmed : Text.trim (Sigil.slash.text ++ id).toList = '/' :: id.toList := by
    rw [letters]
    exact trim_of_bare (bare_cons.mpr ⟨by decide, bare⟩)
  have filled : id.toList ≠ [] := by
    intro empty
    obtain rfl := String.toList_eq_nil_iff.mp empty
    exact nameFilled rfl
  have read : tokens id.toList = [id.toList] := by
    rw [tokens_bare bare]
    simp [filled]
  have target : Target .slash id.toList (splitId id).1.toList (splitId id).2.toList := by
    by_cases colon : ':' ∈ id.toList
    · obtain ⟨before, after, parts, absent⟩ := List.eq_append_cons_of_mem colon
      have split : splitId id = (String.ofList before, String.ofList after) := by
        rw [splitId, parts, cut_append absent]
      rw [split] at agentFilled nameFilled ⊢
      rw [parts] at bare ⊢
      obtain ⟨bareBefore, bareRest⟩ := bare_append.mp bare
      have bareAfter := (bare_cons.mp bareRest).2
      have parted : Target .slash _ (Text.trim before) (Text.trim after) := .parted absent
        (isAllBlank_of_bare bareBefore fun empty => agentFilled (by rw [empty]))
        (isAllBlank_of_bare bareAfter fun empty => nameFilled (by rw [empty]))
      rw [trim_of_bare bareBefore, trim_of_bare bareAfter] at parted
      rwa [String.toList_ofList, String.toList_ofList]
    · have split : splitId id = (coreAgent, id) := by
        rw [splitId, cut_of_not_mem colon]
      rw [split]
      exact .core rfl colon
  have written := Writes.line trimmed .slash read target
  rw [← letters, String.ofList_toList, String.ofList_toList, String.ofList_toList] at written
  exact parse?_eq_some_iff_writes.mpr written

end CommandLine

namespace Dispatcher

open CommandTables

variable {state before after : Dispatcher}

/-- A handler that is accepted is found, unless a listener withdraws it when it is told. -/
theorem handler?_register {agent command : Value} {handler : Handler}
    (accepted : (state.register agent command (some handler)).2 = .ok true)
    (unwithdrawn : Unwithdrawn state.subscriptions agent command) :
    (state.register agent command (some handler)).1.tables.handler? agent command =
      some handler := by
  obtain ⟨outcome, -⟩ := responds_perform (List.Subset.refl state.subscriptions)
    (.register agent command (some handler))
  have performed : (state.tables.perform (.register agent command (some handler))).2 = .ok true :=
    outcome.symm.trans accepted
  obtain ⟨told, responds⟩ := responds_addHandlerWith
    (responding_announce (closed_heard state.subscriptions Topic.ofStoring))
    (fun _ member => .first member) false agent command (some handler)
    (List.Subset.refl state.subscriptions)
  refine (congrArg (·.handler? agent command) responds.tables).trans ?_
  refine (upholds_handler unwithdrawn handler).performAll responds.requested ?_
  rcases state.tables.addHandler_cases agent command handler with
    ⟨-, -, stored⟩ | ⟨handlers, refusal, refused, notStored, -⟩
  · rw [CommandTables.perform, stored]
    exact find?_place_self agent command handler state.tables.handlers
  · rw [CommandTables.perform, refused] at performed
    rcases refusal with fault | ⟨- | refusal⟩
    · cases performed
    · exact absurd rfl notStored
    · cases performed

theorem unmoved_registerUsage (state : Dispatcher) (usage : Option Usage) :
    Unmoved state (state.registerUsage usage).1 := by
  cases usage with
  | none => exact .refl state
  | some usage => exact ⟨rfl⟩

/-- What a dispatcher has of a declared command that it has accepted; the handler stays unless a
listener withdraws it. -/
structure Advertises (before : Dispatcher) (declaration : Declaration) (command : PluginCommand)
    (agent name : String) (state : Dispatcher) : Prop where
  agentFilled : agent ≠ ""
  nameFilled : name ≠ ""
  handler : Unwithdrawn before.subscriptions (.text agent) (.text name) →
    state.tables.handler? (.text agent) (.text name) = some (handlerOf declaration command)
  usage : state.tables.usage? (.text agent) (.text name) =
    some (usageOf declaration command agent name)

theorem advertises_registerCommand {declaration : Declaration} {id : String} {sigil : Sigil}
    (descriptor : Descriptor declaration id sigil)
    (accepted : (state.registerCommand declaration).2 = .ok true) :
    Unmoved state (state.registerCommand declaration).1 ∧
      ∃ command, declaration.normalize = .ok command ∧
        state.Advertises declaration command (splitId id).1 (splitId id).2
          (state.registerCommand declaration).1 := by
  rcases registerCommand_cases state declaration with
    ⟨outcome, refused, notAccepted⟩ | ⟨command, own, normal, named, cases⟩
  · rw [refused] at accepted
    exact absurd accepted notAccepted
  · obtain rfl := Value.text.inj (named.symm.trans (descriptor.of_normalize normal).1)
    rcases cases with ⟨notAccepted, refused⟩ | ⟨handled, described⟩
    · rw [refused] at accepted
      exact absurd accepted notAccepted
    · have storable := storable_of_register handled
      have unmoved := unmoved_addHandlerWith (fun topic payload => unmoved_announce topic payload)
        false (.text (splitId own).1) (.text (splitId own).2)
        (some (handlerOf declaration command)) state
      rw [described]
      refine ⟨unmoved.trans (unmoved_registerUsage _ _), command, normal, ?_⟩
      let usage := usageOf declaration command (splitId own).1 (splitId own).2
      have fit : Storable usage.agent usage.command := storable
      have added := addUsage_of_storable fit
      refine ⟨bne_iff_ne.mp storable.agent_holds, bne_iff_ne.mp storable.command_holds, ?_, ?_⟩
      · rw [registerUsage, added]
        exact fun unwithdrawn => handler?_register handled unwithdrawn
      · rw [registerUsage, added]
        exact find?_place_self (Value.text (splitId own).1) (.text (splitId own).2) _ _

theorem runHandler_handlerOf {declaration : Declaration} {command : PluginCommand}
    (runner : ∀ callable, declaration.callable? "execute" = some callable →
      ∃ attributes, command.runner = some (.onList (.callable callable attributes)))
    {callable : Callable} {arguments : List Value}
    (runs : declaration.invocation? = some (callable, arguments)) (state : Dispatcher) :
    state.runHandler (handlerOf declaration command) [] [] = state.call callable arguments := by
  unfold Declaration.invocation? at runs
  unfold handlerOf
  cases handler : declaration.callable? "handler" with
  | some own =>
      rw [handler] at runs
      obtain ⟨rfl, rfl⟩ := Prod.mk.inj (Option.some.inj runs)
      rfl
  | none =>
      rw [handler] at runs
      obtain ⟨own, found, same⟩ := Option.map_eq_some_iff.mp runs
      obtain ⟨rfl, rfl⟩ := Prod.mk.inj same
      obtain ⟨attributes, executes⟩ := runner own found
      unfold runHandler runDeclared
      dsimp only
      rw [executes]
      rfl

/-- After a slash the advertised form runs what was declared. -/
theorem run_of_advertises {declaration : Declaration} {command : PluginCommand} {id : String}
    (advertises : before.Advertises declaration command (splitId id).1 (splitId id).2 state)
    (unwithdrawn : Unwithdrawn before.subscriptions (.text (splitId id).1) (.text (splitId id).2))
    (bare : Bare id.toList)
    (runner : ∀ callable, declaration.callable? "execute" = some callable →
      ∃ attributes, command.runner = some (.onList (.callable callable attributes)))
    {callable : Callable} {arguments : List Value}
    (runs : declaration.invocation? = some (callable, arguments)) :
    state.run (Sigil.slash.text ++ id) =
      ((state.call callable arguments).1, (state.call callable arguments).2.map some) := by
  have handled : state.runTables (.text (splitId id).1) (.text (splitId id).2) [] [] =
      state.call callable arguments := by
    rw [runTables, findHandler_of_isKey _ rfl rfl, advertises.handler unwithdrawn]
    exact runHandler_handlerOf runner runs state
  rw [run, parse?_slash_bare bare advertises.agentFilled advertises.nameFilled]
  dsimp only
  rw [← handled]
  rfl

/-- Two runs give the same, and the same calls are noted. -/
def Agrees {α : Type} (first second : Dispatcher × α) : Prop :=
  first.2 = second.2 ∧ first.1.calls = second.1.calls

namespace Unmoved

theorem calls (unmoved : Unmoved before after) : after.calls = before.calls := by
  rw [unmoved.frame]

theorem noteCall (unmoved : Unmoved before after) (call : Call) :
    Unmoved (before.noteCall call) (after.noteCall call) := by
  rw [unmoved.frame]
  exact ⟨rfl⟩

theorem callValue (unmoved : Unmoved before after) (arguments : List Value) (field : Value) :
    Agrees (after.callValue arguments field) (before.callValue arguments field) := by
  rw [unmoved.frame]
  cases field <;> exact ⟨rfl, rfl⟩

theorem runDeclared (unmoved : Unmoved before after) (command : PluginCommand)
    (arguments : Option (List Value)) :
    Agrees (after.runDeclared command arguments) (before.runDeclared command arguments) := by
  unfold Dispatcher.runDeclared
  split
  · exact ⟨rfl, unmoved.calls⟩
  · exact unmoved.callValue _ _
  · exact unmoved.callValue _ _
  · exact ⟨rfl, unmoved.calls⟩

theorem runPlugin (unmoved : Unmoved before after) (handle : Nat) (name : Value)
    (arguments : Option (List Value)) :
    Agrees (after.runPlugin handle name arguments) (before.runPlugin handle name arguments) := by
  have noted := unmoved.noteCall (.plugin handle name arguments)
  unfold Dispatcher.runPlugin plugin?
  rw [unmoved.plugins]
  split
  · exact ⟨rfl, unmoved.calls⟩
  · dsimp only
    split
    · split
      · exact noted.runDeclared _ _
      · exact ⟨rfl, noted.calls⟩
    · exact ⟨rfl, noted.calls⟩

theorem passage (unmoved : Unmoved before after) (agent : Value) :
    after.passage agent = before.passage agent := by
  rw [unmoved.frame]
  rfl

/-- Neither handlers nor usages matter to a command for an agent. -/
theorem runAgent (unmoved : Unmoved before after) (agent command : Value)
    (arguments : List Value) :
    Agrees (after.runAgent agent command arguments) (before.runAgent agent command arguments) := by
  unfold Dispatcher.runAgent
  rw [unmoved.passage]
  split
  · exact ⟨rfl, unmoved.calls⟩
  · exact ⟨rfl, unmoved.calls⟩
  · exact unmoved.runPlugin _ _ _

end Unmoved

theorem calls_ne_append (calls : List Call) (call : Call) : calls ≠ calls ++ [call] := by
  intro same
  have lengths := congrArg List.length same
  rw [List.length_append, List.length_singleton] at lengths
  omega

theorem calls_runAgent_ne (state : Dispatcher) (agent command : Value) (arguments : List Value)
    (number : Nat) (own : List Value) :
    (state.runAgent agent command arguments).1.calls ≠ state.calls ++ [.callable number own] := by
  have unchanged := calls_ne_append state.calls (.callable number own)
  unfold runAgent
  split
  · exact unchanged
  · exact unchanged
  · rename_i handle _
    cases present : state.plugin? handle with
    | none =>
        rw [runPlugin, present]
        exact unchanged
    | some plugin =>
        obtain ⟨made, -, ran⟩ := callsOnce_runPlugin present command arguments
        rw [ran]
        intro same
        cases List.append_cancel_left same

/-- A bare text after an at sign is chat text, or a command for an agent. -/
theorem run_at_cases {id : String} (bare : Bare id.toList) :
    (∀ state : Dispatcher, state.run (Sigil.at.text ++ id) = (state, .ok none)) ∨
      ∃ agent command arguments, ∀ state : Dispatcher,
        state.run (Sigil.at.text ++ id) =
          ((state.runAgent agent command arguments).1,
            (state.runAgent agent command arguments).2.map some) := by
  have letters : Sigil.at.text ++ id = String.ofList ('@' :: id.toList) := by
    apply String.toList_inj.mp
    rw [String.toList_append, String.toList_ofList]
    rfl
  cases parses : parse? (Sigil.at.text ++ id) with
  | none =>
      left
      intro state
      rw [run, parses]
  | some command =>
      right
      obtain ⟨isAt, -⟩ := splitId_of_parse? .at bare (letters ▸ parses)
      refine ⟨.text command.agent, .text command.command, command.arguments, fun state => ?_⟩
      rw [run, parses]
      dsimp only
      rw [isAt]
      rfl

/-- What a declared command advertises is run exactly if it is a line after a slash, unless a
listener withdraws the command at once.  A line after an at sign never runs it, and gives what it
gave before the command was registered. -/
theorem run_advertised_iff (state : Dispatcher) {declaration : Declaration} {id : String}
    {sigil : Sigil} (descriptor : Descriptor declaration id sigil) {callable : Callable}
    {arguments : List Value} (runs : declaration.invocation? = some (callable, arguments))
    (accepted : (state.registerCommand declaration).2 = .ok true) :
    let after := (state.registerCommand declaration).1
    let form := sigil.text ++ id
    let called := ((after.call callable arguments).1, (after.call callable arguments).2.map some)
    (∃ usage, after.tables.usage? (.text (splitId id).1) (.text (splitId id).2) = some usage ∧
      usage.form = .text form) ∧
    (Unwithdrawn state.subscriptions (.text (splitId id).1) (.text (splitId id).2) →
      (after.run form = called ↔ sigil = .slash)) ∧
    (sigil = .at → after.run form ≠ called ∧ Agrees (after.run form) (state.run form)) := by
  intro after form called
  obtain ⟨unmoved, command, normal, advertises⟩ := advertises_registerCommand descriptor accepted
  obtain ⟨-, -, runner⟩ := descriptor.of_normalize normal
  have noted : called.1.calls = after.calls ++ [.callable callable.number arguments] := rfl
  have differs (isAt : sigil = .at) : after.run form ≠ called := by
    have line : form = Sigil.at.text ++ id := by rw [← isAt]
    intro ran
    rw [← ran, line] at noted
    rcases run_at_cases descriptor.bare with chat | ⟨agent, command, own, goes⟩
    · rw [chat] at noted
      exact calls_ne_append after.calls _ noted
    · rw [goes] at noted
      exact calls_runAgent_ne _ _ _ _ _ _ noted
  refine ⟨⟨_, advertises.usage, descriptor.form_usageOf normal _ _⟩,
    fun unwithdrawn => ⟨?slash, ?runs⟩, fun isAt => ⟨differs isAt, ?agrees⟩⟩
  case slash =>
    intro ran
    have led : sigil = .slash ∨ sigil = .at := descriptor.led.elim (fun plain => .inl plain.1) (·.1)
    exact led.resolve_right fun isAt => differs isAt ran
  case runs =>
    intro isSlash
    have line : form = Sigil.slash.text ++ id := by rw [← isSlash]
    rw [line]
    exact run_of_advertises advertises unwithdrawn descriptor.bare runner runs
  case agrees =>
    have line : form = Sigil.at.text ++ id := by rw [← isAt]
    rw [line]
    rcases run_at_cases descriptor.bare with chat | ⟨agent, command, own, goes⟩
    · rw [chat, chat]
      exact ⟨rfl, unmoved.calls⟩
    · rw [goes, goes]
      obtain ⟨same, calls⟩ := unmoved.runAgent agent command own
      exact ⟨congrArg (Except.map some) same, calls⟩

/-- A command that is declared by its id and a sigil, with a handler. -/
def stash (sigil : Sigil) : Declaration :=
  .mapping
    [(.text "id", .text "git:stash"), (.text "prefix", .text sigil.text),
      (.text "handler", .callable (.function 0 "h" true) [])]

theorem descriptor_stash {sigil : Sigil} (led : sigil = .slash ∨ sigil = .at) :
    Descriptor (stash sigil) "git:stash" sigil where
  identified := rfl
  unnamed := rfl
  formless := rfl
  bare := by decide
  led := .inr ⟨led, rfl⟩

/-- After a slash its form calls the handler, without arguments and flags. -/
theorem run_advertised_stash :
    (blank.registerCommand (stash .slash)).2 = .ok true ∧
      ((blank.registerCommand (stash .slash)).1.run (Sigil.slash.text ++ "git:stash")).2 =
        .ok (some (.list [.text "h", .list [.list [], .map []]])) := by
  have accepted : (blank.registerCommand (stash .slash)).2 = .ok true := by decide +kernel
  obtain ⟨-, runs, -⟩ := run_advertised_iff blank (descriptor_stash (.inl rfl)) rfl accepted
  have unwithdrawn : Unwithdrawn blank.subscriptions (.text "git") (.text "stash") :=
    fun _ member => by cases member
  refine ⟨accepted, ?_⟩
  rw [(runs unwithdrawn).mpr rfl]
  rfl

/-- After an at sign its form finds no plugin, and calls nothing. -/
theorem not_run_advertised_stash :
    ∃ state, blank.setUpFrontEnd = .ok state ∧
      (state.registerCommand (stash .at)).2 = .ok true ∧
      let after := (state.registerCommand (stash .at)).1
      (after.tables.usage? (.text "git") (.text "stash")).map (·.form) =
          some (.text "@git:stash") ∧
        (after.run "@git:stash").2 = .error (.agentNotFound "git") ∧
        (after.run "@git:stash").1.calls = [] := by
  refine ⟨_, rfl, ?_⟩
  decide +kernel

end Dispatcher

end ChatDispatch
