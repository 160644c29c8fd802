import ChatDispatch.Dispatcher

/-!
# Announcing events

An event is delivered to the subscriptions of its topic as they were when it occurred.  A
listener that fails is ignored, one may leave, and one may register or remove a command or
store a usage itself, which announces further events in the middle of the delivery.

As long as listeners only register commands, announcements nest no deeper than there are
subscriptions, for a registration succeeds at most once per command.  Where they also remove
some, announcements can nest without end, until the surroundings stop them.  So the fuel of
`announce` is the number of subscriptions and what the surroundings allow beyond it.
-/

namespace ChatDispatch.Dispatcher

def subscribe (state : Dispatcher) (topic : Topic) (subscriber : Subscriber) : Dispatcher :=
  { state with subscriptions := state.subscriptions ++ [(topic, subscriber)] }

/-- Drops the first subscription of a subscriber to a topic. -/
def unsubscribe (state : Dispatcher) (topic : Topic) (subscriber : Subscriber) : Dispatcher :=
  { state with subscriptions := state.subscriptions.erase (topic, subscriber) }

def subscribers (state : Dispatcher) (topic : Topic) : List Subscriber :=
  (state.subscriptions.filter fun entry => entry.1 = topic).map (·.2)

/-- Adds a subscription to each of several topics. -/
def subscribeAll (state : Dispatcher) (topics : List Topic) (subscriber : Subscriber) :
    Dispatcher :=
  topics.foldl (fun state topic => state.subscribe topic subscriber) state

/-- Notes that a listener was told about an event. -/
def record (state : Dispatcher) (listener : String) (topic : Topic) (payload : List Value) :
    Dispatcher :=
  { state with deliveries := state.deliveries ++ [⟨listener, topic, payload, state.tables⟩] }

/-- Schedules a refresh as a job, or only notes that one is needed when nothing could run
it. -/
def scheduleRefresh (state : Dispatcher) : Dispatcher :=
  if state.hasLoop then state.reschedule Scheduler.schedule
  else { state with needsRefresh := true }

def commandPayload (agent command : Value) : List Value :=
  [.map [("agent_id", agent), ("command", command)]]

/-- An announcement: what an event does to the state. -/
abbrev Announcement := Topic → List Value → Dispatcher → Dispatcher

/-- Stores a handler and announces it, and unless it is quiet also that the commands have
changed. -/
def addHandlerWith (announce : Announcement) (quiet : Bool) (agent command : Value)
    (handler : Option Handler) (state : Dispatcher) :
    Dispatcher × Except Fault (Option Refusal) :=
  let (tables, outcome) := state.tables.addHandler agent command handler
  let stored := { state with tables }
  match outcome with
  | .ok none =>
      let announced := announce .commandRegistered (commandPayload agent command) stored
      (if quiet then announced else announce .commandsChanged [] announced, .ok none)
  | refused => (stored, refused)

/-- Removes a command with its usage, and announces it if there was a handler, as the flag
tells. -/
def removeHandlerWith (announce : Announcement) (agent command : Value) (state : Dispatcher) :
    Dispatcher × Except Fault Bool :=
  let (tables, outcome) := state.tables.remove agent command
  let removed := { state with tables }
  match outcome with
  | .ok true =>
      let announced := announce .commandUnregistered (commandPayload agent command) removed
      (announce .commandsChanged [] announced, .ok true)
  | other => (removed, other)

/-- What a listener does after it has noted an event. -/
def react (announce : Announcement) (listener : Listener) (state : Dispatcher) : Dispatcher :=
  match listener.reaction with
  | .none => state
  | .fail => state
  | .leave => state.unsubscribe listener.topic (.listener listener)
  | .register agent command handler =>
      let callable := { handler with number := state.nextCallable }
      (addHandlerWith announce false agent command (some (.direct callable))
        { state with nextCallable := state.nextCallable + 1 }).1
  | .unregister agent command => (removeHandlerWith announce agent command state).1
  | .describe usage => { state with tables := (state.tables.addUsage usage).1 }

def deliver (announce : Announcement) (topic : Topic) (payload : List Value)
    (state : Dispatcher) : Subscriber → Dispatcher
  | .recorder => state.record recorderName topic payload
  | .refresher => state.scheduleRefresh
  | .listener listener =>
      react announce listener (state.record listener.name listener.topic payload)

/-- Tells all subscribers of a topic about an event; announcements in the course of it
have one unit of fuel less. -/
def announceWithin : Nat → Announcement
  | 0, _, _, state => state
  | fuel + 1, topic, payload, state =>
      (state.subscribers topic).foldl (deliver (announceWithin fuel) topic payload) state

def announce : Announcement := fun topic payload state =>
  announceWithin (state.nesting + state.subscriptions.length + 1) topic payload state

end ChatDispatch.Dispatcher
