import ChatDispatch.Proofs.Dispatcher.Steady

/-!
# What a client does is a course

A client that refreshes, watches jobs or waits for scheduled refreshes lets wakeups happen in
their order.  Each of them is a step, or two for an answer of the source, which reads the plugins
just then.  So what holds along every run holds of all that a client can do.
-/

namespace ChatDispatch.Dispatcher

open Course

variable {outside : Bool} {course : Course}

def ComesTo (outside : Bool) (course : Course) (state : Dispatcher) : Prop :=
  ∃ next, Runs outside course next ∧ next.state = state

theorem comesTo_self (outside : Bool) (course : Course) : ComesTo outside course course.state :=
  ⟨course, .refl, rfl⟩

theorem comesTo_step {next : Course} (step : Step outside course next) :
    ComesTo outside course next.state :=
  ⟨next, .single step, rfl⟩

theorem ComesTo.then {state last : Dispatcher} (comes : ComesTo outside course state)
    (steady : Steady outside course)
    (later : ∀ next : Course, Steady outside next → next.state = state →
      ComesTo outside next last) :
    ComesTo outside course last := by
  obtain ⟨middle, runs, same⟩ := comes
  obtain ⟨next, more, last⟩ := later middle (steady_of_runs steady runs) same
  exact ⟨next, runs.trans more, last⟩

theorem comesTo_tend {change : Scheduler → Scheduler}
    (tends : Scheduler.Tends course.state.scheduler (change course.state.scheduler)) :
    ComesTo outside course (course.state.reschedule change) :=
  comesTo_step (.tend tends)

theorem comesTo_setClient (outside : Bool) (course : Course) (client : ClientState) :
    ComesTo outside course (course.state.setClient client) :=
  comesTo_tend (Scheduler.tends_setClient _ client)

theorem comesTo_tended {front back : List Wakeup} {wakeup : Wakeup}
    (ready : course.state.scheduler.ready = front ++ wakeup :: back)
    (other : wakeup.ofRefresh = false) {change : Scheduler → Scheduler}
    (tends : ∀ scheduler : Scheduler, scheduler.Tends (change scheduler)) :
    ComesTo outside course
      (course.state.reschedule fun scheduler => change (scheduler.take front back)) := by
  apply comesTo_tend
  exact (Scheduler.tends_take ready other).trans (tends _)

theorem comesTo_wake (steady : Steady outside course) {wakeup : Wakeup} {rest : List Wakeup}
    (ready : course.state.scheduler.ready = wakeup :: rest) :
    ComesTo outside course
      (wake (course.state.reschedule fun scheduler => { scheduler with ready := rest })
        wakeup) := by
  have taken : course.state.scheduler.ready = [] ++ wakeup :: rest := ready
  cases wakeup with
  | begin job =>
      refine ⟨_, .single (.begin taken), ?_⟩
      exact state_enter _ _
  | granted party =>
      refine ⟨_, .single (.grant taken), ?_⟩
      exact state_proceed _ _
  | answered party =>
      have answered : .answered party ∈ course.state.scheduler.ready := by simp [ready]
      have held := Scheduler.held_of_mem_answered steady.guarded.orderly answered
      let reading : Course := { course with read := some course.now }
      have readStep : Step outside course reading := .read held
      have takenReading : reading.state.scheduler.ready = [] ++ .answered party :: rest := taken
      let asked := course.state.reschedule fun scheduler => scheduler.take [] rest
      have answers : asked.sourceFailure = none := steady.connected.answers
      have concluded : concludeFrom course.state.enabledHandles party asked = answer party asked :=
        (answer_eq_concludeFrom party answers).symm
      exact ⟨_, .tail (.single readStep) (.answer takenReading rfl), concluded⟩
  | settled job => exact comesTo_tended taken rfl fun scheduler => scheduler.tends_settle job
  | noticed job watch =>
      exact comesTo_tended taken rfl fun scheduler => scheduler.tends_notice job watch
  | released watch => exact comesTo_tended taken rfl fun scheduler => scheduler.tends_letGo watch

theorem comesTo_wakeFirst (steady : Steady outside course) :
    ComesTo outside course course.state.wakeFirst := by
  unfold wakeFirst
  split
  · exact comesTo_self outside course
  · rename_i wakeup rest ready
    exact comesTo_wake steady ready

theorem comesTo_driveWithin (steady : Steady outside course) (fuel : Nat) :
    ComesTo outside course (driveWithin fuel course.state) := by
  induction fuel generalizing course with
  | zero => exact comesTo_self outside course
  | succ fuel induction =>
      rw [driveWithin]
      split
      · apply (comesTo_wakeFirst steady).then steady
        intro next nextSteady same
        rw [← same]
        exact induction nextSteady
      · exact comesTo_self outside course

theorem comesTo_refresh (steady : Steady outside course) :
    ComesTo outside course course.state.refresh.1 := by
  apply (comesTo_setClient outside course .refreshing).then steady
  intro refreshing refreshingSteady same
  have entered : ComesTo outside refreshing (Dispatcher.enter .client refreshing.state) := by
    rw [← state_enter]
    exact comesTo_step (.call refreshing .client)
  apply entered.then refreshingSteady
  intro begun begunSteady sameBegun
  apply (comesTo_driveWithin begunSteady _).then begunSteady
  intro driven drivenSteady sameDriven
  rw [refresh, ← same, ← sameBegun, drive, ← sameDriven]
  split
  · exact comesTo_setClient outside driven .running
  · exact comesTo_self outside driven

theorem comesTo_watch (steady : Steady outside course) (jobs : List Nat) :
    ComesTo outside course (course.state.watch jobs).1 := by
  have begin : ComesTo outside course
      (course.state.reschedule fun scheduler => scheduler.beginWatch jobs) :=
    comesTo_tend (Scheduler.tends_beginWatch _ jobs)
  apply begin.then steady
  intro begun begunSteady sameBegun
  apply (comesTo_driveWithin begunSteady _).then begunSteady
  intro driven drivenSteady sameDriven
  rw [watch, ← sameBegun, drive, ← sameDriven]
  split
  · exact comesTo_setClient outside driven .running
  · exact comesTo_self outside driven

theorem comesTo_waitWithin (steady : Steady outside course) (fuel : Nat) :
    ComesTo outside course (waitWithin fuel course.state).1 := by
  induction fuel generalizing course with
  | zero => exact comesTo_self outside course
  | succ fuel induction =>
      rw [waitWithin]
      split
      · exact comesTo_self outside course
      · apply (comesTo_watch steady course.state.scheduler.scheduled).then steady
        intro watched watchedSteady same
        split
        · rename_i failed fault ended
          obtain rfl : watched.state = failed := same.trans (congrArg Prod.fst ended)
          exact comesTo_self outside watched
        · rename_i waited ended
          obtain rfl : watched.state = waited := same.trans (congrArg Prod.fst ended)
          exact induction watchedSteady

theorem comesTo_waitForRefresh (steady : Steady outside course) :
    ComesTo outside course course.state.waitForRefresh.1 :=
  comesTo_waitWithin steady _

theorem comesTo_beginJobs (steady : Steady outside course) (count : Nat) :
    ComesTo outside course
      (course.state.reschedule fun scheduler => scheduler.beginJobs count) := by
  induction count generalizing course with
  | zero => exact comesTo_self outside course
  | succ count induction =>
      apply (comesTo_step (.spawn course)).then steady
      intro begun begunSteady same
      have later := induction begunSteady
      rw [same] at later
      exact later

theorem comesTo_gatherRefresh (steady : Steady outside course) (count : Nat) :
    ComesTo outside course (course.state.gatherRefresh count).1 := by
  unfold gatherRefresh
  split
  · exact comesTo_self outside course
  · rename_i jobs _
    apply (comesTo_beginJobs steady count).then steady
    intro begun begunSteady same
    rw [← same]
    exact comesTo_watch begunSteady _

/-- Plugins are started one after the other, which ends with an event. -/
theorem comesTo_startAll (steady : Steady outside course) :
    ComesTo outside course course.state.startAll := by
  suffices started : ∀ (handles : List Nat) (course : Course), Steady outside course →
      ComesTo outside course
        (handles.foldl (fun state handle => (state.startPlugin handle).1) course.state) by
    apply (started course.state.enabledHandles course steady).then steady
    intro last _ same
    rw [startAll, ← same]
    exact comesTo_step (.started last)
  intro handles
  induction handles with
  | nil => exact fun course _ => comesTo_self outside course
  | cons handle rest induction =>
      intro course steady
      apply (comesTo_step (.startOne course handle)).then steady
      intro next nextSteady same
      have later := induction next nextSteady
      rw [same] at later
      exact later

end ChatDispatch.Dispatcher
