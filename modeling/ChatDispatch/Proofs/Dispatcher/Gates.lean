import ChatDispatch.Dispatcher.Execute
import ChatDispatch.Proofs.Dispatcher.Refreshing

/-!
# The gates on both ways to a plugin

A command after an at sign asks the gates when it is run.  A command after a slash runs what
the last rebuild has stored, and no gate is asked any more.  So a plugin behind closed gates is
called exactly if the tables still hold a handler of it: a rebuild leaves none of a plugin that
is switched off, but one that is switched off later, or still waits to be started, keeps its
handlers.
-/

namespace ChatDispatch

open CommandTables

/-- Whether a call is one of the plugin of a handle. -/
def Call.isTo (handle : Nat) : Call → Bool
  | .plugin called _ _ => called == handle
  | .callable .. => false

namespace Dispatcher

/-- The plugin of a handle is switched off, or insists on being ready and is not. -/
def Shut (state : Dispatcher) (handle : Nat) : Prop :=
  ∃ plugin, state.plugin? handle = some plugin ∧
    (plugin.isEnabled = false ∨ plugin.isReady = false ∧ plugin.requiresReady = .bool true)

/-- Whether the plugin of a handle has been called since an earlier state. -/
def calledSince (before after : Dispatcher) (handle : Nat) : Bool :=
  (after.calls.drop before.calls.length).any (Call.isTo handle)

/-- Whether running a text calls the plugin of a handle. -/
def reaches (state : Dispatcher) (handle : Nat) (text : String) : Bool :=
  calledSince state (state.run text).1 handle

/-- Some calls have been made since an earlier state, none of them to a plugin. -/
def CallsNoPlugin (before after : Dispatcher) : Prop :=
  ∃ made, after.calls = before.calls ++ made ∧ ∀ call ∈ made, ∀ handle, call.isTo handle = false

namespace CallsNoPlugin

variable {before after : Dispatcher}

theorem of_same (calls : after.calls = before.calls) : CallsNoPlugin before after :=
  ⟨[], by rw [calls, List.append_nil], fun _ member => by cases member⟩

theorem not_calledSince (callsNone : CallsNoPlugin before after) (handle : Nat) :
    calledSince before after handle = false := by
  obtain ⟨made, calls, none⟩ := callsNone
  rw [calledSince, calls, List.drop_left, List.any_eq_false]
  intro call member
  rw [none call member handle]
  exact Bool.false_ne_true

end CallsNoPlugin

variable {state : Dispatcher}

theorem callsNoPlugin_call (state : Dispatcher) (callable : Callable) (arguments : List Value) :
    CallsNoPlugin state (state.call callable arguments).1 := by
  refine ⟨[.callable callable.number arguments], rfl, ?_⟩
  intro call member handle
  cases List.mem_singleton.mp member
  rfl

theorem callsNoPlugin_callValue (state : Dispatcher) (arguments : List Value) (target : Value) :
    CallsNoPlugin state (state.callValue arguments target).1 := by
  cases target with
  | callable callable attributes => exact callsNoPlugin_call state callable arguments
  | _ => exact .of_same rfl

theorem callsNoPlugin_runDeclared (state : Dispatcher) (command : PluginCommand)
    (arguments : Option (List Value)) :
    CallsNoPlugin state (state.runDeclared command arguments).1 := by
  unfold runDeclared
  split
  · exact .of_same rfl
  · exact callsNoPlugin_callValue state _ _
  · exact callsNoPlugin_callValue state _ _
  · exact .of_same rfl

/-- A plugin that is let run a command is called once; nothing that it runs calls a plugin. -/
theorem calledSince_runPlugin {own : Nat} {plugin : Plugin}
    (present : state.plugin? own = some plugin) (name : Value)
    (arguments : Option (List Value)) (handle : Nat) :
    calledSince state (state.runPlugin own name arguments).1 handle = (own == handle) := by
  let noted := state.noteCall (.plugin own name arguments)
  suffices ran : CallsNoPlugin noted (state.runPlugin own name arguments).1 by
    obtain ⟨made, calls, none⟩ := ran
    have spared : made.any (Call.isTo handle) = false :=
      List.any_eq_false.mpr fun call member => by simp [none call member handle]
    rw [calledSince, calls]
    simp only [noted, noteCall, List.append_assoc, List.drop_left, List.singleton_append,
      List.any_cons, spared, Bool.or_false, Call.isTo]
  simp only [runPlugin, present]
  split
  · split
    · exact callsNoPlugin_runDeclared noted _ _
    · exact .of_same rfl
  · exact .of_same rfl

theorem not_calledSince_runPlugin_of_absent {own : Nat} (absent : state.plugin? own = none)
    (name : Value) (arguments : Option (List Value)) (handle : Nat) :
    calledSince state (state.runPlugin own name arguments).1 handle = false := by
  apply CallsNoPlugin.not_calledSince
  simp only [runPlugin, absent]
  exact .of_same rfl

theorem callsNoPlugin_runBuiltin (state : Dispatcher) (builtin : Builtin)
    (arguments : List Value) (flags : Entries) :
    CallsNoPlugin state (state.runBuiltin builtin arguments flags).1 := by
  cases builtin with
  | help => exact .of_same rfl
  | slashHelp => exact .of_same rfl
  | models => exact .of_same rfl
  | model =>
      apply CallsNoPlugin.of_same
      simp only [runBuiltin, runModel, setActiveModel]
      split <;> rfl

/-- A handler calls a plugin that there is if it is a handler of it. -/
theorem calledSince_runHandler {handle : Nat} {plugin : Plugin}
    (present : state.plugin? handle = some plugin) (handler : Handler) (arguments : List Value)
    (flags : Entries) :
    calledSince state (state.runHandler handler arguments flags).1 handle = true ↔
      ∃ name, handler = .plugin handle name := by
  have otherwise (none : CallsNoPlugin state (state.runHandler handler arguments flags).1)
      (other : ¬∃ name, handler = .plugin handle name) :
      calledSince state (state.runHandler handler arguments flags).1 handle = true ↔
        ∃ name, handler = .plugin handle name := by
    simp only [none.not_calledSince, Bool.false_eq_true, other]
  cases handler with
  | builtin builtin =>
      exact otherwise (callsNoPlugin_runBuiltin state builtin arguments flags) (by simp)
  | declared command =>
      exact otherwise (callsNoPlugin_runDeclared state command (some arguments)) (by simp)
  | flexible callable => exact otherwise (callsNoPlugin_call state callable _) (by simp)
  | direct callable => exact otherwise (callsNoPlugin_call state callable _) (by simp)
  | plugin own name =>
      rw [runHandler]
      cases found : state.plugin? own with
      | some _ => simp [calledSince_runPlugin found]
      | none =>
          have other : own ≠ handle := by
            rintro rfl
            cases found.symm.trans present
          simp [not_calledSince_runPlugin_of_absent found, other]

theorem calledSince_runTables {handle : Nat} {plugin : Plugin}
    (present : state.plugin? handle = some plugin) (agent command : String)
    (arguments : List Value) (flags : Entries) :
    calledSince state (state.runTables (.text agent) (.text command) arguments flags).1 handle =
        true ↔
      ∃ name, state.tables.handler? (.text agent) (.text command) = some (.plugin handle name) := by
  rw [runTables, findHandler_of_isKey state.tables rfl rfl]
  cases found : state.tables.handler? (.text agent) (.text command) with
  | some handler => simpa using calledSince_runHandler present handler arguments flags
  | none =>
      dsimp only
      split <;> simp [(CallsNoPlugin.of_same (rfl : state.calls = state.calls)).not_calledSince]

theorem ne_of_passage_open {handle : Nat} (shut : state.Shut handle) {agent : Value} {own : Nat}
    (way : state.passage agent = .open own) : own ≠ handle := by
  rintro rfl
  obtain ⟨plugin, present, closed⟩ := shut
  unfold passage at way
  split at way
  · cases way
  · split at way
    · split at way <;> cases way
    · rename_i found answering answers
      obtain ⟨registered, -, built⟩ := Option.bind_eq_some_iff.mp answers
      obtain ⟨same, isPlugin, pair⟩ := Option.map_eq_some_iff.mp built
      cases pair
      split at way
      · rename_i enabled
        unfold readyPassage at way
        split at way
        · rename_i ready
          cases way
          cases isPlugin.symm.trans present
          rcases closed with off | ⟨waiting, -⟩
          · cases off.symm.trans enabled
          · cases waiting.symm.trans ready
        · split at way
          · cases way
          · split at way
            · cases way
            · rename_i insists
              cases way
              cases isPlugin.symm.trans present
              rcases closed with off | ⟨-, required⟩
              · cases off.symm.trans enabled
              · exact insists required
      · cases way

theorem not_calledSince_runAgent {handle : Nat} (shut : state.Shut handle) (agent command : Value)
    (arguments : List Value) :
    calledSince state (state.runAgent agent command arguments).1 handle = false := by
  unfold runAgent
  split
  · exact (CallsNoPlugin.of_same rfl).not_calledSince handle
  · exact (CallsNoPlugin.of_same rfl).not_calledSince handle
  · rename_i own way
    cases found : state.plugin? own with
    | none => exact not_calledSince_runPlugin_of_absent found command _ handle
    | some plugin =>
        rw [calledSince_runPlugin found]
        exact beq_eq_false_iff_ne.mpr (ne_of_passage_open shut way)

theorem reaches_iff_of_shut {handle : Nat} (shut : state.Shut handle) (text : String) :
    state.reaches handle text = true ↔
      ∃ command name,
        CommandLine.parse? text = some command ∧ command.sigil = .slash ∧
          state.tables.handler? (.text command.agent) (.text command.command) =
            some (.plugin handle name) := by
  have ⟨plugin, present, _⟩ := shut
  unfold reaches run
  cases parsed : CommandLine.parse? text with
  | none => simp [(CallsNoPlugin.of_same (rfl : state.calls = state.calls)).not_calledSince]
  | some command =>
      cases sigil : command.sigil with
      | none =>
          have same := (CallsNoPlugin.of_same (rfl : state.calls = state.calls)).not_calledSince
          simp [execute, Lead.sigil?, sigil, same]
      | «at» =>
          have spared := not_calledSince_runAgent shut (.text command.agent)
            (.text command.command) command.arguments
          simp [execute, Lead.sigil?, sigil, spared]
      | slash =>
          have tables := calledSince_runTables present command.agent command.command
            command.arguments command.flags
          simpa [execute, Lead.sigil?, sigil] using tables

/-- A plugin behind closed gates is only called by a command after a slash, and by one exactly
if the tables hold a handler of the plugin for it.  A plugin that is switched off when the
tables are rebuilt has none. -/
theorem reaches_shut_iff_stored {handle : Nat} (shut : state.Shut handle) :
    (∀ text, state.reaches handle text = true ↔
      ∃ command name,
        CommandLine.parse? text = some command ∧ command.sigil = .slash ∧
          state.tables.handler? (.text command.agent) (.text command.command) =
            some (.plugin handle name)) ∧
    (state.Attached → state.isEnabled handle = false →
      ∀ text, state.refresh.1.reaches handle text = false) := by
  refine ⟨reaches_iff_of_shut shut, ?_⟩
  intro attached off text
  have stillShut : state.refresh.1.Shut handle := by
    simp only [Shut, plugin?, plugins_refresh attached]
    exact shut
  rw [Bool.eq_false_iff]
  intro reached
  obtain ⟨command, name, -, -, stored⟩ := (reaches_iff_of_shut stillShut text).mp reached
  cases off.symm.trans (isEnabled_of_refresh attached stored)

def readyPlugin : Plugin :=
  samplePlugin "p" [.mapping [(.text "name", .text "c")]]

/-- A plugin that insists on being started, and has not been. -/
def waitingPlugin : Plugin :=
  { readyPlugin with ready := .bool false, requiresReady := .bool true }

/-- A front end to which a plugin is registered, with its tables rebuilt then. -/
def sampleFrontEnd (plugin : Plugin) : Except Fault Dispatcher :=
  blank.setUpFrontEnd.map fun state =>
    ((state.addPlugin plugin).1.registerPlugin (some state.plugins.length) .external).1.refresh.1

/-- The waiting plugin is reached through the tables, until it is switched off and they are
rebuilt. -/
theorem reaches_waiting_until_rebuilt :
    ∃ state, sampleFrontEnd waitingPlugin = .ok state ∧ state.Shut 0 ∧
      state.reaches 0 "/p:c now" = true ∧
      let off := state.setPlugin 0 (waitingPlugin.setEnabled (.bool false))
      off.Shut 0 ∧ off.Attached ∧ ∀ text, off.refresh.1.reaches 0 text = false := by
  refine ⟨_, rfl, ⟨waitingPlugin, rfl, .inr ⟨rfl, rfl⟩⟩, ?_, ?_⟩
  · apply ((reaches_shut_iff_stored ⟨waitingPlugin, rfl, .inr ⟨rfl, rfl⟩⟩).1 "/p:c now").mpr
    have read :
        (CommandLine.parse? "/p:c now").map (fun command => (command.sigil, command.agent,
          command.command)) = some (.slash, "p", "c") := by
      decide +kernel
    obtain ⟨command, parsed, same⟩ := Option.map_eq_some_iff.mp read
    obtain ⟨sigil, agent, name⟩ :
        command.sigil = .slash ∧ command.agent = "p" ∧ command.command = "c" := by
      simpa using same
    refine ⟨command, .text "c", parsed, sigil, ?_⟩
    rw [agent, name]
    decide +kernel
  · intro off
    have shut : off.Shut 0 :=
      ⟨waitingPlugin.setEnabled (.bool false), rfl, .inl rfl⟩
    have follows : ∀ entry ∈ off.subscriptions, entry.1 ∈ Topic.ofPlugins := by decide +kernel
    have attached : off.Attached := ⟨rfl, rfl, fun entry member _ => follows entry member⟩
    exact ⟨shut, attached, (reaches_shut_iff_stored shut).2 attached rfl⟩

/-- Through the tables a plugin is reached that is switched off, or that waits to be started. -/
theorem not_spared_by_stored_handler :
    (∃ state, sampleFrontEnd readyPlugin = .ok state ∧
      let off := state.setPlugin 0 (readyPlugin.setEnabled (.bool false))
      off.Shut 0 ∧ off.reaches 0 "@p:c" = false ∧ off.reaches 0 "/p:c" = true) ∧
    ∃ state, sampleFrontEnd waitingPlugin = .ok state ∧
      state.Shut 0 ∧ state.reaches 0 "@p:c" = false ∧ state.reaches 0 "/p:c" = true := by
  constructor
  · refine ⟨_, rfl, ?_, ?_⟩
    · exact ⟨readyPlugin.setEnabled (.bool false), rfl, .inl rfl⟩
    · decide +kernel
  · refine ⟨_, rfl, ?_, ?_⟩
    · exact ⟨waitingPlugin, rfl, .inr ⟨rfl, rfl⟩⟩
    · decide +kernel

end Dispatcher

end ChatDispatch
