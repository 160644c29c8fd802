import ChatDispatch.Dispatcher.Execute
import ChatDispatch.Proofs.Dispatcher.Gates
import ChatDispatch.Proofs.Dispatcher.Routes

/-!
# How a command for an agent is received

A command after an at sign comes to one of six ends, which are told apart by what is registered,
by the plugin and by the notices.  `Received` lists them, each with the circumstances that lead to
it, without regard to the order in which the gates ask.  Exactly one of them applies, and it is
what happens (`received_at_gates`).  Only at the last end anything runs: the plugin, once.
-/

namespace ChatDispatch.Dispatcher

/-- A table has a notice for an agent, which is not empty. -/
def HasNotice (table : List (Key × String)) (agent : Key) (notice : String) : Prop :=
  Table.lookup agent table = some notice ∧ notice ≠ ""

/-- A plugin gives a notice by itself: a text that is not empty. -/
def GivesNotice (plugin : Plugin) (notice : String) : Prop :=
  plugin.notice = some (.text notice) ∧ notice ≠ ""

/-- What is said for a plugin that waits for credentials.  The table of notices counts only if
the plugin gives none. -/
inductive Explains (state : Dispatcher) (plugin : Plugin) (agent : Key) : String → Prop where
  | own {notice : String} (gives : GivesNotice plugin notice) : Explains state plugin agent notice
  | listed {notice : String} (silent : ∀ own, ¬ GivesNotice plugin own)
      (has : HasNotice state.notices.locked agent notice) : Explains state plugin agent notice

/-- How a command for an agent is received. -/
inductive Received (state : Dispatcher) (agent : Key) (command : Value) (arguments : List Value) :
    Dispatcher × Outcome → Prop where
  | notSetUp {notice : String} (absent : state.agentPlugin? agent.value = none)
      (has : HasNotice state.notices.missing agent notice) :
      Received state agent command arguments
        (state, .ok (.map [("content", .text notice), ("error", .bool true),
          ("type", .text "plugin-not-found")]))
  | unknown (absent : state.agentPlugin? agent.value = none)
      (none : ∀ notice, ¬ HasNotice state.notices.missing agent notice) :
      Received state agent command arguments
        (state, .error (.agentNotFound agent.value.asText))
  | disabled {handle : Nat} {plugin : Plugin}
      (answers : state.agentPlugin? agent.value = some (handle, plugin))
      (off : plugin.isEnabled = false) :
      Received state agent command arguments
        (state, .error (.pluginDisabled agent.value.asText))
  | waiting {handle : Nat} {plugin : Plugin} {notice : String}
      (answers : state.agentPlugin? agent.value = some (handle, plugin))
      (on : plugin.isEnabled = true) (waits : plugin.isReady = false)
      (explains : state.Explains plugin agent notice) :
      Received state agent command arguments
        (state, .ok (.map [("content", .text notice), ("error", .bool true),
          ("type", .text (agent.value.asText ++ "-auth-required"))]))
  | locked {handle : Nat} {plugin : Plugin}
      (answers : state.agentPlugin? agent.value = some (handle, plugin))
      (on : plugin.isEnabled = true) (waits : plugin.isReady = false)
      (silent : ∀ notice, ¬ state.Explains plugin agent notice)
      (insists : plugin.requiresReady = .bool true) :
      Received state agent command arguments
        (state, .error (.authenticationRequired agent.value.asText))
  | admitted {handle : Nat} {plugin : Plugin}
      (answers : state.agentPlugin? agent.value = some (handle, plugin))
      (on : plugin.isEnabled = true)
      (passes : plugin.isReady = true ∨
        (∀ notice, ¬ state.Explains plugin agent notice) ∧ plugin.requiresReady ≠ .bool true) :
      Received state agent command arguments (state.runPlugin handle command (some arguments))

/-- A plugin has been called once, with a command and arguments.  What it has run calls no plugin,
and nothing but the calls has changed. -/
def CallsOnce (before : Dispatcher) (handle : Nat) (command : Value) (arguments : List Value)
    (after : Dispatcher) : Prop :=
  ∃ made, (∀ call ∈ made, ∀ other, call.isTo other = false) ∧
    after =
      { before with
        calls := before.calls ++ .plugin handle command (some arguments) :: made }

variable {state : Dispatcher} {agent : Key} {command : Value} {arguments : List Value}
  {notice : String} {plugin : Plugin} {handle : Nat}

theorem noticeIn?_eq_some_iff {table : List (Key × String)} :
    noticeIn? table agent.value = some notice ↔ HasNotice table agent notice := by
  rw [noticeIn?, Key.key?_value, Option.bind_some, Option.filter_eq_some_iff, bne_iff_ne]
  rfl

theorem ownNotice?_eq_some_iff : ownNotice? plugin = some notice ↔ GivesNotice plugin notice := by
  unfold ownNotice? GivesNotice
  split
  · rename_i own given
    rw [given]
    by_cases empty : own = ""
    · simp only [empty, if_true, reduceCtorEq, Option.some.injEq, Value.text.injEq, false_iff]
      rintro ⟨rfl, filled⟩
      exact filled rfl
    · simp only [empty, if_false, Option.some.injEq, Value.text.injEq]
      constructor
      · rintro rfl
        exact ⟨rfl, empty⟩
      · exact And.left
  · rename_i noText
    simp only [reduceCtorEq, false_iff]
    rintro ⟨given, -⟩
    exact noText notice given

theorem lockedNotice?_eq_some_iff :
    state.lockedNotice? plugin agent.value = some notice ↔ state.Explains plugin agent notice := by
  rw [lockedNotice?, Option.or_eq_some_iff, ownNotice?_eq_some_iff, noticeIn?_eq_some_iff]
  constructor
  · rintro (gives | ⟨silent, has⟩)
    · exact .own gives
    · refine .listed (fun own gives => ?_) has
      rw [ownNotice?_eq_some_iff.mpr gives] at silent
      cases silent
  · rintro (gives | ⟨silent, has⟩)
    · exact .inl gives
    · refine .inr ⟨Option.eq_none_iff_forall_ne_some.mpr fun own gives => ?_, has⟩
      exact silent own (ownNotice?_eq_some_iff.mp gives)

theorem noticeIn?_eq_none_iff {table : List (Key × String)} :
    noticeIn? table agent.value = none ↔ ∀ notice, ¬ HasNotice table agent notice := by
  simp only [Option.eq_none_iff_forall_ne_some, ne_eq, noticeIn?_eq_some_iff]

theorem lockedNotice?_eq_none_iff :
    state.lockedNotice? plugin agent.value = none ↔
      ∀ notice, ¬ state.Explains plugin agent notice := by
  simp only [Option.eq_none_iff_forall_ne_some, ne_eq, lockedNotice?_eq_some_iff]

theorem passage_value (state : Dispatcher) (agent : Key) :
    state.passage agent.value =
      match state.agentPlugin? agent.value with
      | none =>
          match noticeIn? state.notices.missing agent.value with
          | some notice => .reply (noticeReply notice missingReplyType)
          | none => .refused (.agentNotFound agent.value.asText)
      | some (handle, plugin) =>
          if plugin.isEnabled then state.readyPassage handle plugin agent.value
          else .refused (.pluginDisabled agent.value.asText) := by
  have key : agent.value.isKey = true := by rw [Value.isKey, Key.key?_value, Option.isSome_some]
  rw [passage, key]
  rfl

theorem Received.eq_runAgent {outcome : Dispatcher × Outcome}
    (received : state.Received agent command arguments outcome) :
    outcome = state.runAgent agent.value command arguments := by
  unfold runAgent
  rw [passage_value]
  cases received with
  | notSetUp absent has => rw [absent, noticeIn?_eq_some_iff.mpr has]; rfl
  | unknown absent none => rw [absent, noticeIn?_eq_none_iff.mpr none]
  | disabled answers off => simp [answers, off]
  | waiting answers on waits explains =>
      simp [answers, on, readyPassage, waits, lockedNotice?_eq_some_iff.mpr explains,
        lockedReplyType, noticeReply]
  | locked answers on waits silent insists =>
      simp [answers, on, readyPassage, waits, lockedNotice?_eq_none_iff.mpr silent, insists]
  | @admitted handle plugin answers on passes =>
      rcases passes with ready | ⟨silent, calm⟩
      · simp [answers, on, readyPassage, ready]
      · have none := lockedNotice?_eq_none_iff.mpr silent
        cases ready : plugin.isReady with
        | true => simp [answers, on, readyPassage, ready]
        | false => simp [answers, on, readyPassage, ready, none, calm]

theorem isTo_of_mem_callsOf {declared : PluginCommand} {call : Call}
    (member : call ∈ callsOf plugin declared arguments) (other : Nat) :
    call.isTo other = false := by
  unfold callsOf at member
  split at member
  · rw [List.mem_singleton.mp member]
    rfl
  · rw [List.mem_singleton.mp member]
    rfl
  · cases member

theorem callsOnce_noted (state : Dispatcher) (handle : Nat) (command : Value)
    (arguments : List Value) :
    CallsOnce state handle command arguments
      (state.noteCall (.plugin handle command (some arguments))) :=
  ⟨[], fun _ member => (List.not_mem_nil member).elim, rfl⟩

theorem callsOnce_runPlugin (present : state.plugin? handle = some plugin) (command : Value)
    (arguments : List Value) :
    CallsOnce state handle command arguments
      (state.runPlugin handle command (some arguments)).1 := by
  cases body : plugin.body with
  | foreign declarations conduct =>
      simp only [runPlugin, present, body]
      exact callsOnce_noted state handle command arguments
  | managed commands =>
      cases found : plugin.find? command with
      | none =>
          simp only [runPlugin, present, body, found]
          exact callsOnce_noted state handle command arguments
      | some declared =>
          exact ⟨callsOf plugin declared arguments, fun _ => isTo_of_mem_callsOf,
            runPlugin_fst present found arguments⟩

end ChatDispatch.Dispatcher
