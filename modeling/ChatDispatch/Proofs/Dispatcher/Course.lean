import Mathlib.Logic.Relation
import ChatDispatch.Proofs.Dispatcher.Concluding
import ChatDispatch.Proofs.Scheduler

/-!
# The course of a dispatcher

Any number of refreshes can be under way while plugins are registered, removed and started.
Each goes on only when it is woken, and nothing says in which order.  `Step` is all that can
happen between two suspensions, and a run is any number of steps.

A course remembers what the state forgets: how many events about plugins there have been, what
the source has read for the refresh that holds the lock, and what the last complete rebuild was
made from.
-/

namespace ChatDispatch.Dispatcher

/-- What was read: the plugins that are switched on, and the number of events about plugins
until then. -/
structure Snapshot where
  handles : List Nat
  events : Nat

/-- A dispatcher with what has been read of its plugins: for the refresh that holds the lock,
if the source has done so, and for the last rebuild that came to its end. -/
structure Course where
  state : Dispatcher
  events : Nat
  read : Option Snapshot
  built : Snapshot

namespace Course

/-- The beginning of a course, with tables that are up to date. -/
def start (state : Dispatcher) : Course :=
  { state, events := 0, read := none, built := ⟨state.enabledHandles, 0⟩ }

def now (course : Course) : Snapshot :=
  ⟨course.state.enabledHandles, course.events⟩

def reschedule (course : Course) (change : Scheduler → Scheduler) : Course :=
  { course with state := course.state.reschedule change }

/-- Rebuilds the tables from what was read, and ends the refresh.  A rebuild counts if it comes
to its end. -/
def conclude (party : Party) (snapshot : Snapshot) (course : Course) : Course :=
  { course with
    state := concludeFrom snapshot.handles party course.state
    read := none
    built :=
      match (course.state.rebuild snapshot.handles).2 with
      | .ok _ => snapshot
      | .error _ => course.built }

/-- Goes on with the lock: the plugins are read at once, or the source is asked for them. -/
def proceed (party : Party) (course : Course) : Course :=
  if course.state.source = .direct then
    course.conclude party course.now
  else
    { course with state := Dispatcher.proceed party course.state, read := none }

def enter (party : Party) (course : Course) : Course :=
  if course.state.scheduler.isFree then
    (course.reschedule Scheduler.hold).proceed party
  else
    course.reschedule fun scheduler => scheduler.enqueue party

/-- Goes on after a request about plugins; an accepted one was an event. -/
def requested (course : Course) (answer : Dispatcher × Except Fault Bool) : Course :=
  { course with
    state := answer.1
    events := match answer.2 with
      | .ok true => course.events + 1
      | _ => course.events }

/-- What was read is up to date, or has yet to be read. -/
def IsCurrent (course : Course) : Prop :=
  ∀ snapshot, course.read = some snapshot → snapshot.events = course.events

theorem state_proceed (party : Party) (course : Course) :
    (course.proceed party).state = Dispatcher.proceed party course.state := by
  unfold proceed Dispatcher.proceed
  split
  · rename_i direct
    rw [direct]
    exact (conclude_eq_concludeFrom party course.state).symm
  · rfl

theorem state_enter (party : Party) (course : Course) :
    (course.enter party).state = Dispatcher.enter party course.state := by
  unfold enter Dispatcher.enter
  split
  · exact state_proceed party _
  · rfl

end Course

open Course

/-- What can happen between two suspensions.  `outside` allows for events while nothing could
run a job. -/
inductive Step (outside : Bool) : Course → Course → Prop where
  /-- Somebody refreshes the tables. -/
  | call (course : Course) (party : Party) : Step outside course (course.enter party)
  /-- A job is to refresh the tables. -/
  | spawn (course : Course) : Step outside course (course.reschedule Scheduler.beginJob)
  /-- A job begins its refresh. -/
  | begin {course : Course} {front back : List Wakeup} {job : Nat}
      (ready : course.state.scheduler.ready = front ++ .begin job :: back) :
      Step outside course
        ((course.reschedule fun scheduler => scheduler.take front back).enter (.job job))
  /-- Somebody who waited gets the lock. -/
  | grant {course : Course} {front back : List Wakeup} {party : Party}
      (ready : course.state.scheduler.ready = front ++ .granted party :: back) :
      Step outside course
        ((course.reschedule fun scheduler =>
          (scheduler.take front back).grant party).proceed party)
  /-- The source reads the plugins for the refresh that holds the lock. -/
  | read {course : Course} (held : course.state.scheduler.held = true) :
      Step outside course { course with read := some course.now }
  /-- The source answers with what it has read, and the tables are rebuilt. -/
  | answer {course : Course} {front back : List Wakeup} {party : Party} {snapshot : Snapshot}
      (ready : course.state.scheduler.ready = front ++ .answered party :: back)
      (read : course.read = some snapshot) :
      Step outside course
        ((course.reschedule fun scheduler => scheduler.take front back).conclude party snapshot)
  /-- Something else happens to the schedule. -/
  | tend {course : Course} {change : Scheduler → Scheduler}
      (tends : Scheduler.Tends course.state.scheduler (change course.state.scheduler)) :
      Step outside course (course.reschedule change)
  | register (course : Course) (handle : Option Nat) (sort : PluginSort) :
      Step outside course (course.requested (course.state.registerPlugin handle sort))
  | unregister (course : Course) (id : Value) (sort : PluginSort) :
      Step outside course (course.requested (course.state.unregisterPlugin id sort))
  /-- A plugin is started. -/
  | startOne (course : Course) (handle : Nat) :
      Step outside course { course with state := (course.state.startPlugin handle).1 }
  /-- The plugins have been started. -/
  | started (course : Course) :
      Step outside course
        (course.requested (announce .pluginsStarted [] course.state, .ok true))
  /-- A plugin is built. -/
  | build (course : Course) {plugin : Plugin} (normalizable : plugin.IsNormalizable) :
      Step outside course { course with state := (course.state.addPlugin plugin).1 }
  /-- From now on jobs can be run, or cannot. -/
  | runLoop (course : Course) (allowed : outside = true) (hasLoop : Bool) :
      Step outside course { course with state := { course.state with hasLoop } }

abbrev Runs (outside : Bool) : Course → Course → Prop :=
  Relation.ReflTransGen (Step outside)

end ChatDispatch.Dispatcher
