import ChatDispatch.CommandTables

/-!
# Events

Listeners subscribe to topics and are told in the order of their subscriptions.  What a
listener does when it is told can change the subscriptions and the tables in turn.
-/

namespace ChatDispatch

/-- The topics of events. -/
inductive Topic where
  | commandRegistered
  | commandUnregistered
  | commandsChanged
  | pluginRegistered
  | pluginUnregistered
  | pluginsStarted
  | custom (name : String)
deriving DecidableEq, Repr

def Topic.ofPlugins : List Topic :=
  [.pluginRegistered, .pluginUnregistered, .pluginsStarted]

def Topic.ofCommands : List Topic :=
  [.commandRegistered, .commandUnregistered, .commandsChanged]

/-- What a listener does after it has noted an event: nothing, it fails, it leaves, or it
changes the tables itself.  A callable that it registers is made anew each time. -/
inductive Reaction where
  | none
  | fail
  | leave
  | register (agent command : Value) (handler : Callable)
  | unregister (agent command : Value)
  | describe (usage : Usage)
deriving DecidableEq

/-- A listener, with the topic it first subscribed to. -/
structure Listener where
  name : String
  topic : Topic
  reaction : Reaction
deriving DecidableEq

/-- Who is told about an event: a recorder, the refreshing of the tables, or a listener. -/
inductive Subscriber where
  | recorder
  | refresher
  | listener (listener : Listener)
deriving DecidableEq

/-- An event as a listener noted it, with the tables as it could read them. -/
structure Delivery where
  listener : String
  topic : Topic
  payload : List Value
  tables : CommandTables

/-- The name under which the recorders note events. -/
def recorderName : String := "*"

end ChatDispatch
