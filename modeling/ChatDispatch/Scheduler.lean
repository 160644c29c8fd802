import ChatDispatch.Fault
import ChatDispatch.Table

/-!
# Scheduling refreshes

Refreshes are run by the client itself or by jobs, and one at a time: who refreshes holds
a lock, which is handed on in the order in which the others asked for it.  Nothing runs
while something else does; what is ready to go on waits for its turn in a queue.

The client can suspend itself to wait for its own refresh, or to watch jobs until one of
them fails or all have finished.
-/

namespace ChatDispatch

/-- Who runs a refresh: the client itself, or a job. -/
inductive Party where
  | client
  | job (number : Nat)
deriving DecidableEq, Repr

/-- Something that is ready to go on. -/
inductive Wakeup where
  /-- A job begins its refresh. -/
  | begin (job : Nat)
  /-- The lock is handed to a party that waited for it. -/
  | granted (party : Party)
  /-- The source answers the party that holds the lock. -/
  | answered (party : Party)
  /-- A finished job is struck off the scheduled ones. -/
  | settled (job : Nat)
  /-- A watch is told that one of its jobs has finished. -/
  | noticed (job watch : Nat)
  /-- The client goes on after its watch. -/
  | released (watch : Nat)
deriving DecidableEq, Repr

/-- A watch of the client over some jobs: it ends with the first fault, or when all of
them have finished. -/
structure Watch where
  number : Nat
  jobs : List Nat
  remaining : List Nat
  outcome : Option (Except Fault Unit)

/-- What the client is doing: it runs, waits for its own refresh or has been told its
outcome, or watches jobs or has been told the outcome of the watch. -/
inductive ClientState where
  | running
  | refreshing
  | refreshed (outcome : Except Fault Nat)
  | watching (watch : Watch)
  | watched (outcome : Except Fault Unit)

/-- The refreshes under way: what is ready to go on, in order; who holds the lock and who
waits for it; the scheduled jobs that have not been struck off; the results of finished
jobs; what the client is doing; and how many jobs and watches there have been. -/
structure Scheduler where
  ready : List Wakeup
  held : Bool
  waiting : List Party
  scheduled : List Nat
  results : List (Nat × Except Fault Nat)
  client : ClientState
  jobs : Nat
  watches : Nat

namespace Scheduler

def idle : Scheduler :=
  { ready := [], held := false, waiting := [], scheduled := [], results := []
    client := .running, jobs := 0, watches := 0 }

def push (scheduler : Scheduler) (wakeup : Wakeup) : Scheduler :=
  { scheduler with ready := scheduler.ready ++ [wakeup] }

def setClient (scheduler : Scheduler) (client : ClientState) : Scheduler :=
  { scheduler with client }

def beginJob (scheduler : Scheduler) : Scheduler :=
  { scheduler with jobs := scheduler.jobs + 1 }.push (.begin scheduler.jobs)

/-- Begins a job that can be waited for as a scheduled one. -/
def schedule (scheduler : Scheduler) : Scheduler :=
  { scheduler with scheduled := scheduler.scheduled ++ [scheduler.jobs] }.beginJob

def beginJobs (scheduler : Scheduler) : Nat → Scheduler
  | 0 => scheduler
  | count + 1 => scheduler.beginJob.beginJobs count

def result? (scheduler : Scheduler) (job : Nat) : Option (Except Fault Nat) :=
  Table.lookup job scheduler.results

def settle (scheduler : Scheduler) (job : Nat) : Scheduler :=
  { scheduler with scheduled := scheduler.scheduled.erase job }

/-- The number of scheduled jobs that have not been struck off. -/
def pending (scheduler : Scheduler) : Nat :=
  scheduler.scheduled.length

/-- Whether a party that asks for the lock gets it at once: nobody holds it and nobody
waits for it. -/
def isFree (scheduler : Scheduler) : Bool :=
  !scheduler.held && scheduler.waiting.isEmpty

def hold (scheduler : Scheduler) : Scheduler :=
  { scheduler with held := true }

def enqueue (scheduler : Scheduler) (party : Party) : Scheduler :=
  { scheduler with waiting := scheduler.waiting ++ [party] }

/-- Gives the lock to a party that waited for it. -/
def grant (scheduler : Scheduler) (party : Party) : Scheduler :=
  { scheduler with waiting := scheduler.waiting.erase party }.hold

/-- Releases the lock, which is to be granted to the first of those who wait. -/
def release (scheduler : Scheduler) : Scheduler :=
  let freed := { scheduler with held := false }
  match scheduler.waiting with
  | [] => freed
  | party :: _ => freed.push (.granted party)

/-- The watch of the client, if it is over the given job. -/
def watchOver? (scheduler : Scheduler) (job : Nat) : Option Watch :=
  match scheduler.client with
  | .watching watch => if watch.jobs.contains job then some watch else none
  | _ => none

/-- Notes the result of a job, and wakes those who have to know. -/
def finish (scheduler : Scheduler) (job : Nat) (outcome : Except Fault Nat) : Scheduler :=
  let noted := { scheduler with results := scheduler.results ++ [(job, outcome)] }
  let settling := if scheduler.scheduled.contains job then noted.push (.settled job) else noted
  match scheduler.watchOver? job with
  | some watch => settling.push (.noticed job watch.number)
  | none => settling

/-- Tells a party the outcome of its refresh. -/
def tell (scheduler : Scheduler) (party : Party) (outcome : Except Fault Nat) : Scheduler :=
  match party with
  | .client => scheduler.setClient (.refreshed outcome)
  | .job job => scheduler.finish job outcome

/-- The watch of the client, if it has the given number. -/
def watchNumbered? (scheduler : Scheduler) (number : Nat) : Option Watch :=
  match scheduler.client with
  | .watching watch => if watch.number = number then some watch else none
  | _ => none

/-- Begins a watch over jobs; those that have finished already are noticed in turn. -/
def beginWatch (scheduler : Scheduler) (jobs : List Nat) : Scheduler :=
  let number := scheduler.watches
  let begun :=
    { scheduler with client := .watching ⟨number, jobs, jobs, none⟩, watches := number + 1 }
  let finished := jobs.filter fun job => (scheduler.result? job).isSome
  finished.foldl (fun scheduler job => scheduler.push (.noticed job number)) begun

/-- Ends a watch; the client is released in turn. -/
def endWatch (scheduler : Scheduler) (watch : Watch) (outcome : Except Fault Unit) :
    Scheduler :=
  (scheduler.setClient (.watching { watch with outcome := some outcome })).push
    (.released watch.number)

/-- Notes in a watch that one of its jobs has finished; nothing happens after its end. -/
def notice (scheduler : Scheduler) (job number : Nat) : Scheduler :=
  match scheduler.watchNumbered? number with
  | none => scheduler
  | some watch =>
      match watch.outcome, scheduler.result? job with
      | none, some (.error fault) => scheduler.endWatch watch (.error fault)
      | none, some (.ok _) =>
          let watch := { watch with remaining := watch.remaining.erase job }
          if watch.remaining.isEmpty then
            scheduler.endWatch watch (.ok ())
          else
            scheduler.setClient (.watching watch)
      | _, _ => scheduler

def letGo (scheduler : Scheduler) (number : Nat) : Scheduler :=
  match scheduler.watchNumbered? number with
  | none => scheduler
  | some watch => scheduler.setClient (.watched (watch.outcome.getD (.ok ())))

def isSuspended (scheduler : Scheduler) : Bool :=
  match scheduler.client with
  | .refreshing => true
  | .watching _ => true
  | _ => false

end Scheduler

end ChatDispatch
