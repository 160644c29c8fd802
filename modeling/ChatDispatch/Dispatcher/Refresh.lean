import ChatDispatch.Dispatcher.Rebuild

/-!
# Refreshes

A refresh takes the lock, reads the enabled plugins, rebuilds the tables from them,
releases the lock and announces that the commands have changed.  Reading the plugins can
need a suspension.

`wake` says what each wakeup does; `drive` lets them happen in order until the client goes
on.  Whatever runs does so up to its next suspension, and a rebuild has none, so the
tables are never seen half-built.
-/

namespace ChatDispatch.Dispatcher

/-- The registered plugins, the internal ones first. -/
def pluginHandles (state : Dispatcher) : List Nat :=
  (state.registered.internal ++ state.registered.external).map (·.2)

/-- Whether the plugin of a handle is switched on. -/
def isEnabled (state : Dispatcher) (handle : Nat) : Bool :=
  (state.plugin? handle).any Plugin.isEnabled

/-- The registered plugins that are switched on. -/
def enabledHandles (state : Dispatcher) : List Nat :=
  state.pluginHandles.filter state.isEnabled

def release (state : Dispatcher) : Dispatcher :=
  state.reschedule Scheduler.release

/-- Tells a party the outcome of its refresh. -/
def tell (party : Party) (outcome : Except Fault Nat) (state : Dispatcher) : Dispatcher :=
  state.reschedule fun scheduler => scheduler.tell party outcome

/-- Rebuilds the tables from the enabled plugins.  Only a rebuild that came to its end is
announced. -/
def conclude (party : Party) (state : Dispatcher) : Dispatcher :=
  match state.rebuild state.enabledHandles with
  | (stopped, .error fault) => tell party (.error fault) stopped.release
  | (rebuilt, .ok count) => tell party (.ok count) (announce .commandsChanged [] rebuilt.release)

/-- Goes on with the lock: reads the plugins, at once or after a suspension.  Without a
source there is nothing to rebuild. -/
def proceed (party : Party) (state : Dispatcher) : Dispatcher :=
  match state.source with
  | .absent => tell party (.ok 0) state.release
  | .direct => conclude party state
  | .suspending => state.reschedule fun scheduler => scheduler.push (.answered party)

def enter (party : Party) (state : Dispatcher) : Dispatcher :=
  if state.scheduler.isFree then
    proceed party (state.reschedule Scheduler.hold)
  else
    state.reschedule fun scheduler => scheduler.enqueue party

/-- Goes on after the source has answered, or failed. -/
def answer (party : Party) (state : Dispatcher) : Dispatcher :=
  match state.sourceFailure with
  | some message => tell party (.error (.raised .runtime message)) state.release
  | none => conclude party state

def wake (state : Dispatcher) : Wakeup → Dispatcher
  | .begin job => enter (.job job) state
  | .granted party => proceed party (state.reschedule fun scheduler => scheduler.grant party)
  | .answered party => answer party state
  | .settled job => state.reschedule fun scheduler => scheduler.settle job
  | .noticed job watch => state.reschedule fun scheduler => scheduler.notice job watch
  | .released watch => state.reschedule fun scheduler => scheduler.letGo watch

def wakeFirst (state : Dispatcher) : Dispatcher :=
  match state.scheduler.ready with
  | [] => state
  | wakeup :: rest =>
      wake (state.reschedule fun scheduler => { scheduler with ready := rest }) wakeup

/-- Lets wakeups happen in order while the client waits, so many at most. -/
def driveWithin : Nat → Dispatcher → Dispatcher
  | 0, state => state
  | fuel + 1, state =>
      if state.scheduler.isSuspended then driveWithin fuel state.wakeFirst else state

/-- Lets wakeups happen until the client goes on.  Every job wakes up at most five times,
and the client three times, before all have finished. -/
def drive (state : Dispatcher) : Dispatcher :=
  driveWithin (8 * (state.scheduler.jobs + 1) + state.scheduler.ready.length) state

def setClient (state : Dispatcher) (client : ClientState) : Dispatcher :=
  state.reschedule fun scheduler => scheduler.setClient client

/-- Refreshes the tables; gives the number of the plugins' commands. -/
def refresh (state : Dispatcher) : Dispatcher × Except Fault Nat :=
  let driven := drive (enter .client (state.setClient .refreshing))
  match driven.scheduler.client with
  | .refreshed outcome => (driven.setClient .running, outcome)
  | _ => (driven, .ok 0)

/-- Watches jobs until one of them fails or all have finished. -/
def watch (state : Dispatcher) (jobs : List Nat) : Dispatcher × Except Fault Unit :=
  let driven := drive (state.reschedule fun scheduler => scheduler.beginWatch jobs)
  match driven.scheduler.client with
  | .watched outcome => (driven.setClient .running, outcome)
  | _ => (driven, .ok ())

/-- Waits for scheduled refreshes as long as there are any, so many times at most. -/
def waitWithin : Nat → Dispatcher → Dispatcher × Except Fault Unit
  | 0, state => (state, .ok ())
  | fuel + 1, state =>
      if state.scheduler.scheduled.isEmpty then
        (state, .ok ())
      else
        match state.watch state.scheduler.scheduled with
        | (failed, .error fault) => (failed, .error fault)
        | (waited, .ok ()) => waitWithin fuel waited

/-- Waits for the scheduled refreshes.  A watch over all of them that ends well leaves
none behind. -/
def waitForRefresh (state : Dispatcher) : Dispatcher × Except Fault Unit :=
  waitWithin (state.scheduler.jobs + 1) state

/-- Runs a number of refreshes at the same time; gives their counts. -/
def gatherRefresh (state : Dispatcher) (count : Nat) : Dispatcher × Except Fault (List Nat) :=
  match (List.range count).map (state.scheduler.jobs + ·) with
  | [] => (state, .ok [])
  | jobs =>
      let begun := state.reschedule fun scheduler => scheduler.beginJobs count
      let (watched, outcome) := begun.watch jobs
      (watched, outcome.map fun _ => jobs.filterMap fun job =>
        (watched.scheduler.result? job).bind Except.toOption)

end ChatDispatch.Dispatcher
