import ChatDispatch.Dispatcher
import ChatDispatch.Outcome

/-!
# The way to a plugin

A command for a plugin passes several gates: there must be a plugin, it must be switched
on, and if it insists it must be ready.  Some closed gates answer with a notice instead
of a fault.
-/

namespace ChatDispatch

/-- Where the gates let a command: to the plugin of a handle, or back with a reply or a
fault. -/
inductive Passage where
  | reply (value : Value)
  | refused (fault : Fault)
  | open (handle : Nat)

namespace Dispatcher

/-- The type of the reply for an agent that is not set up. -/
def missingReplyType : String := "plugin-not-found"

/-- The type of the reply for a plugin that waits for credentials. -/
def lockedReplyType (agent : String) : String := agent ++ "-auth-required"

/-- The notice of an agent in a table; an empty one is none. -/
def noticeIn? (table : List (Key × String)) (agent : Value) : Option String :=
  (agent.key?.bind fun key => Table.lookup key table).filter (· != "")

/-- The notice that a plugin gives by itself; only a text that is not empty is one. -/
def ownNotice? (plugin : Plugin) : Option String :=
  match plugin.notice with
  | some (.text notice) => if notice = "" then none else some notice
  | _ => none

/-- The notice of a plugin that waits for credentials: its own one, or else that of its
agent. -/
def lockedNotice? (state : Dispatcher) (plugin : Plugin) (agent : Value) : Option String :=
  (ownNotice? plugin).or (noticeIn? state.notices.locked agent)

/-- The gate in front of a plugin that is switched on. -/
def readyPassage (state : Dispatcher) (handle : Nat) (plugin : Plugin) (agent : Value) :
    Passage :=
  if plugin.isReady then
    .open handle
  else
    match state.lockedNotice? plugin agent with
    | some notice => .reply (noticeReply notice (lockedReplyType agent.asText))
    | none =>
        if plugin.requiresReady = .bool true then
          .refused (.authenticationRequired agent.asText)
        else
          .open handle

/-- The plugin that answers for an agent, with its handle. -/
def agentPlugin? (state : Dispatcher) (agent : Value) : Option (Nat × Plugin) :=
  (state.registered.find? agent).bind fun handle =>
    (state.plugin? handle).map fun plugin => (handle, plugin)

/-- All gates in front of the plugin of an agent, which has to be a key. -/
def passage (state : Dispatcher) (agent : Value) : Passage :=
  if !agent.isKey then
    .refused (.notAKey agent.kind)
  else
    match state.agentPlugin? agent with
    | none =>
        match noticeIn? state.notices.missing agent with
        | some notice => .reply (noticeReply notice missingReplyType)
        | none => .refused (.agentNotFound agent.asText)
    | some (handle, plugin) =>
        if plugin.isEnabled then
          state.readyPassage handle plugin agent
        else
          .refused (.pluginDisabled agent.asText)

end Dispatcher

end ChatDispatch
