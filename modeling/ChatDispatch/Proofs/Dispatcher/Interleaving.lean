import ChatDispatch.Proofs.Dispatcher.Driving

/-!
# Interleaved refreshes

However refreshes and changes of plugins follow each other, the tables are those of a rebuild
that came to its end.  When no refresh is left to go on, it was one that has read all changes,
unless a refresh is still noted as needed.
-/

namespace ChatDispatch.Dispatcher

open Course

/-- A dispatcher that follows the events about its plugins, and has rebuilt the tables from
them. -/
structure UpToDate (outside : Bool) (state : Dispatcher) : Prop where
  attentive : state.Attentive
  connected : state.Connected outside
  stocked : state.Stocked
  orderly : state.scheduler.Orderly
  free : state.scheduler.isFree = true
  rebuilt : state.tables = (state.rebuild state.enabledHandles).1.tables

variable {outside : Bool} {state : Dispatcher} {course : Course}

theorem rebuild_of_known (attentive : state.Attentive) (stocked : state.Stocked)
    {handles : List Nat} (known : ∀ handle ∈ handles, Known state.plugins handle) :
    ∃ rebuilt count,
      state.rebuild handles = (rebuilt, .ok count) ∧
        (state.Silent → rebuilt.tables = tablesOf state.plugins handles) := by
  have sound := isSound_of_forall_known stocked.normalizable known
  obtain ⟨done, rebuilt, -, tables⟩ := rebuild_makes_tablesOf attentive.follows sound
  exact ⟨_, _, rebuilt, fun silent => tables silent.quiet⟩

theorem steady_start (upToDate : state.UpToDate outside) : Steady outside (.start state) := by
  have fits : (Course.start state).now.Fits (.start state) := fits_now upToDate.stocked
  obtain ⟨rebuilt, count, complete, tables⟩ :=
    rebuild_of_known upToDate.attentive upToDate.stocked fits.known
  obtain ⟨unheld, -⟩ := Scheduler.isFree_iff.mp upToDate.free
  exact {
    attentive := upToDate.attentive
    connected := upToDate.connected
    stocked := upToDate.stocked
    guarded := ⟨upToDate.orderly, fun _ => upToDate.free⟩
    tables := by
      intro silent
      have kept : state.tables = (state.rebuild state.enabledHandles).1.tables := upToDate.rebuilt
      have same : state.rebuild state.enabledHandles = (rebuilt, .ok count) := complete
      exact kept.trans (same ▸ tables silent)
    built := fits
    read := fun _ found => by cases found
    upToDate := .inl rfl
    followed := fun held => by cases unheld.symm.trans held }

theorem current_of_idle (steady : Steady outside course)
    (idle : course.state.scheduler.Idle)
    (settled : outside = true → course.state.needsRefresh = false) :
    course.state.scheduler.isFree = true ∧ course.built.events = course.events := by
  have free := Scheduler.isFree_of_idle steady.guarded.orderly idle
  obtain ⟨unheld, nobody⟩ := Scheduler.isFree_iff.mp free
  refine ⟨free, ?_⟩
  rcases steady.upToDate with
    same | (⟨job, begins⟩ | others) | ⟨sometimes, needed⟩ | ⟨held, -⟩
  · exact same
  · cases idle _ begins
  · exact absurd nobody others
  · cases needed.symm.trans (settled sometimes)
  · cases unheld.symm.trans held

/-- Between two suspensions the tables are those of the last rebuild that came to its end.
When no refresh is left to go on, and none is noted as needed, that rebuild has read the
plugins after the last event about them, so its tables are those of the current plugins.
Listeners that register commands may add to the tables, but make no change get lost. -/
theorem tables_rebuilt_from_current (upToDate : state.UpToDate outside)
    (runs : Runs outside (.start state) course) :
    (∃ rebuilt count,
      course.state.rebuild course.built.handles = (rebuilt, .ok count) ∧
        (course.state.Silent → course.state.tables = rebuilt.tables)) ∧
    (course.state.scheduler.Idle → (outside = true → course.state.needsRefresh = false) →
      course.state.scheduler.isFree = true ∧ course.built.events = course.events ∧
        course.built.handles = course.state.enabledHandles ∧
        (course.state.Silent →
          course.state.tables = (course.state.rebuild course.state.enabledHandles).1.tables)) := by
  have steady := steady_of_runs (steady_start upToDate) runs
  obtain ⟨rebuilt, count, complete, tables⟩ :=
    rebuild_of_known steady.attentive steady.stocked steady.built.known
  have kept (silent : course.state.Silent) : course.state.tables = rebuilt.tables :=
    (steady.tables silent).trans (tables silent).symm
  refine ⟨⟨rebuilt, count, complete, kept⟩, ?_⟩
  intro idle settled
  obtain ⟨free, current⟩ := current_of_idle steady idle settled
  have handles := steady.built.same current
  refine ⟨free, current, handles, ?_⟩
  rw [← handles, complete]
  exact kept

/-- A new dispatcher with a source that suspends, and a plugin that is not registered. -/
def sampleUnregistered : Dispatcher :=
  { blank.setUp .suspending true with
    plugins := [samplePlugin "notes" [.mapping [(.text "name", .text "add")]]] }

theorem upToDate_sampleUnregistered : sampleUnregistered.UpToDate false where
  attentive := ⟨by decide +kernel, by decide +kernel⟩
  connected := {
    present := by decide +kernel
    answers := by decide +kernel
    inside := fun _ => by decide +kernel
    direct := fun sometimes => by cases sometimes }
  stocked := {
    normalizable := by
      intro plugin member
      cases List.mem_singleton.mp member
      intro declarations listed declaration declared
      cases listed
      cases List.mem_singleton.mp declared
      exact .inr ⟨_, rfl, rfl⟩
    known := by
      have nothing : sampleUnregistered.pluginHandles = [] := by decide +kernel
      rw [nothing]
      exact fun _ member => by cases member }
  orderly := ⟨by decide +kernel, by decide +kernel⟩
  free := by decide +kernel
  rebuilt := by decide +kernel

/-- A job has taken the lock and the source has read the plugins for it. -/
def sampleRead : Course :=
  let asked := (((Course.start sampleUnregistered).reschedule Scheduler.beginJob).reschedule
    fun scheduler => scheduler.take [] []).enter (.job 0)
  { asked with read := some asked.now }

/-- The plugin is registered before the source answers. -/
def sampleLate : Course :=
  sampleRead.requested (sampleRead.state.registerPlugin (some 0) .external)

/-- The tables are rebuilt from what was read before. -/
def sampleMissed : Course :=
  (sampleLate.reschedule fun scheduler => scheduler.take [] [.begin 1]).conclude (.job 0)
    sampleRead.now

theorem runs_sampleMissed : Runs false (.start sampleUnregistered) sampleMissed := by
  let spawned := (Course.start sampleUnregistered).reschedule Scheduler.beginJob
  let asked := (spawned.reschedule fun scheduler => scheduler.take [] []).enter (.job 0)
  have begins : spawned.state.scheduler.ready = [] ++ .begin 0 :: [] := by decide +kernel
  have answers :
      sampleLate.state.scheduler.ready = [] ++ .answered (.job 0) :: [.begin 1] := by
    decide +kernel
  have asking : Step false spawned asked := .begin begins
  have reading : Step false asked sampleRead := .read (by decide +kernel)
  have registering : Step false sampleRead sampleLate := .register sampleRead (some 0) .external
  have answering : Step false sampleLate sampleMissed := .answer answers rfl
  exact .tail (.tail (.tail (.tail (.single (.spawn _)) asking) reading) registering) answering

/-- A plugin that is registered after the source has read the plugins is missed by the rebuild
from them, but not by the refresh that its registration has asked for. -/
theorem late_plugin_is_built :
    sampleMissed.built.events < sampleMissed.events ∧
      sampleMissed.state.tables.handler? (.text "notes") (.text "add") = none ∧
      ∃ course, Runs false (.start sampleUnregistered) course ∧
        course.state = sampleMissed.state.waitForRefresh.1 ∧
        course.state.tables.handler? (.text "notes") (.text "add") =
          some (.plugin 0 (.text "add")) ∧
        course.built.events = course.events ∧
        course.state.tables =
          (course.state.rebuild course.state.enabledHandles).1.tables := by
  have upToDate := upToDate_sampleUnregistered
  have steady := steady_of_runs (steady_start upToDate) runs_sampleMissed
  obtain ⟨course, more, same⟩ := comesTo_waitForRefresh steady
  have all := runs_sampleMissed.trans more
  have idle : course.state.scheduler.Idle := by
    rw [same]
    decide +kernel
  have silent : course.state.Silent := by
    rw [same]
    decide +kernel
  obtain ⟨-, settled⟩ := tables_rebuilt_from_current upToDate all
  obtain ⟨-, current, -, tables⟩ := settled idle fun sometimes => by cases sometimes
  refine ⟨by decide +kernel, by decide +kernel, course, all, same, ?_, current, tables silent⟩
  rw [same]
  decide +kernel

end ChatDispatch.Dispatcher
