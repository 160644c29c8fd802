import ChatDispatch.Proofs.Dispatcher.Ending
import ChatDispatch.Proofs.Scheduler.Watching

/-!
# Waiting for scheduled refreshes

Where plugins are read at once, a client that waits for the scheduled refreshes goes on when all
of them have finished, or when one has failed.  If it goes on well, no refresh is scheduled any
more.  Between two calls of the client the dispatcher is `Poised`, whatever it is told to do.
-/

namespace ChatDispatch

open Scheduler (Attends Watchable Watched weightsFor)

namespace Dispatcher

/-- Plugins are read at once, and nobody waits for a wakeup but those who are due to. -/
structure Poised (state : Dispatcher) : Prop where
  direct : state.source = .direct
  follows : state.FollowsPlugins
  punctual : state.scheduler.Punctual
  resting : state.scheduler.isSuspended = false

variable {state : Dispatcher}

theorem Poised.attached (poised : state.Poised) : state.Attached :=
  ⟨poised.direct, poised.punctual.free, poised.follows⟩

namespace Closes

variable {before middle after : Dispatcher}

theorem refl (state : Dispatcher) : Closes state state :=
  ⟨rfl, .refl _⟩

theorem trans (first : Closes before middle) (second : Closes middle after) :
    Closes before after where
  frame := by
    rw [second.frame, first.frame]
  leaves := first.leaves.trans second.leaves

theorem registered (closes : Closes before after) : after.registered = before.registered := by
  rw [closes.frame]

end Closes

/-- Wakeups leave as it is what the end of a refresh leaves. -/
theorem endures_closes (origin : Dispatcher) :
    Endures fun state => state.FollowsPlugins ∧ Closes origin state where
  reschedule := by
    rintro state change ⟨follows, closes⟩
    exact ⟨follows, closes.trans ⟨rfl, .refl _⟩⟩
  conclude := by
    rintro state party ⟨follows, closes⟩
    have ends := closes_conclude follows party
    exact ⟨follows.of_leaves ends.leaves, closes.trans ends⟩

namespace Endures

variable {holds : Dispatcher → Prop}

theorem watch (endures : Endures holds) (jobs : List Nat) (before : holds state) :
    holds (state.watch jobs).1 := by
  have begun := endures.reschedule (fun scheduler => scheduler.beginWatch jobs) before
  have driven : holds (state.reschedule fun scheduler => scheduler.beginWatch jobs).drive :=
    endures.driveWithin _ begun
  unfold Dispatcher.watch
  dsimp only
  split
  · exact endures.setClient .running driven
  · exact driven

theorem waitWithin (endures : Endures holds) (fuel : Nat) (before : holds state) :
    holds (state.waitWithin fuel).1 := by
  induction fuel generalizing state with
  | zero => exact before
  | succ fuel induction =>
      have watched := endures.watch state.scheduler.scheduled before
      rw [Dispatcher.waitWithin]
      split
      · exact before
      · split
        · rename_i failed fault ended
          rw [ended] at watched
          exact watched
        · rename_i waited ended
          rw [ended] at watched
          exact induction watched

theorem gatherRefresh (endures : Endures holds) (count : Nat) (before : holds state) :
    holds (state.gatherRefresh count).1 := by
  unfold Dispatcher.gatherRefresh
  split
  · exact before
  · exact endures.watch _ (endures.reschedule (fun scheduler => scheduler.beginJobs count) before)

end Endures

/-- Where plugins are read at once, a wakeup does to the schedule what it does without the
tables. -/
theorem scheduler_wakeFirst (direct : state.source = .direct) (follows : state.FollowsPlugins)
    (punctual : state.scheduler.Punctual) {wakeup : Wakeup} {rest : List Wakeup}
    (ready : state.scheduler.ready = wakeup :: rest) :
    ∃ outcome, state.wakeFirst.scheduler =
      (state.scheduler.behind rest).advance outcome wakeup := by
  let taken := state.reschedule fun scheduler => { scheduler with ready := rest }
  have woken : state.wakeFirst = taken.wake wakeup := by
    rw [wakeFirst, ready]
  rw [woken]
  cases wakeup with
  | begin job =>
      let holding := taken.reschedule Scheduler.hold
      have free : taken.scheduler.isFree = true := punctual.free
      have directly : holding.source = .direct := direct
      have attentive : holding.FollowsPlugins := follows
      have entered : taken.wake (.begin job) = conclude (.job job) holding := by
        rw [wake, enter, if_pos free, proceed, directly]
      have released : holding.scheduler.release = state.scheduler.behind rest :=
        Scheduler.release_hold_of_isFree free
      refine ⟨(holding.rebuild holding.enabledHandles).2, ?_⟩
      rw [entered, scheduler_conclude attentive, released]
      rfl
  | granted party =>
      obtain ⟨job, same⟩ := punctual.early (.granted party) (by simp [ready]) rfl
      cases same
  | answered party =>
      obtain ⟨job, same⟩ := punctual.early (.answered party) (by simp [ready]) rfl
      cases same
  | settled job => exact ⟨.ok 0, rfl⟩
  | noticed job watch => exact ⟨.ok 0, rfl⟩
  | released watch => exact ⟨.ok 0, rfl⟩

theorem punctual_wakeFirst (direct : state.source = .direct) (follows : state.FollowsPlugins)
    (punctual : state.scheduler.Punctual) : state.wakeFirst.scheduler.Punctual := by
  cases ready : state.scheduler.ready with
  | nil =>
      rw [wakeFirst, ready]
      exact punctual
  | cons wakeup rest =>
      obtain ⟨outcome, same⟩ := scheduler_wakeFirst direct follows punctual ready
      rw [same]
      exact Scheduler.punctual_advance punctual ready outcome

/-- The wakeups that happen while a client watches jobs lead to its being told the outcome. -/
theorem watched_driveWithin (direct : state.source = .direct) (follows : state.FollowsPlugins)
    (punctual : state.scheduler.Punctual) {jobs : List Nat} {number : Nat}
    (attends : Attends jobs number state.scheduler) {fuel : Nat}
    (enough : weightsFor number state.scheduler.ready ≤ fuel) :
    (driveWithin fuel state).scheduler.Punctual ∧
      Watched jobs (driveWithin fuel state).scheduler ∧
      (driveWithin fuel state).scheduler.scheduled ⊆ state.scheduler.scheduled := by
  induction fuel generalizing state with
  | zero =>
      cases suspended : state.scheduler.isSuspended with
      | false =>
          exact ⟨punctual, attends.watched_of_resting suspended, List.Subset.refl _⟩
      | true =>
          obtain ⟨wakeup, rest, ready⟩ :=
            List.exists_cons_of_ne_nil (attends.ready_ne_nil suspended)
          rw [ready, Scheduler.weightsFor_cons] at enough
          have some := Scheduler.weightFor_pos number wakeup
          omega
  | succ fuel induction =>
      rw [driveWithin]
      cases suspended : state.scheduler.isSuspended with
      | false =>
          rw [if_neg Bool.false_ne_true]
          exact ⟨punctual, attends.watched_of_resting suspended, List.Subset.refl _⟩
      | true =>
          rw [if_pos rfl]
          obtain ⟨wakeup, rest, ready⟩ :=
            List.exists_cons_of_ne_nil (attends.ready_ne_nil suspended)
          obtain ⟨outcome, woken⟩ := scheduler_wakeFirst direct follows punctual ready
          obtain ⟨further, lighter⟩ := attends.advance suspended punctual ready outcome
          have fewer := Scheduler.scheduled_advance_subset (state.scheduler.behind rest) outcome
            wakeup
          rw [← woken] at further lighter fewer
          obtain ⟨followed, closes⟩ :=
            (endures_closes state).wakeFirst ⟨follows, Closes.refl state⟩
          obtain ⟨ends, watched, less⟩ :=
            induction (closes.source.trans direct) followed
              (punctual_wakeFirst direct follows punctual) further (by omega)
          exact ⟨ends, watched, List.Subset.trans less fewer⟩

/-- A watch leaves none of its jobs scheduled if it ends well. -/
theorem watch_of_poised (poised : state.Poised) {jobs : List Nat}
    (watchable : Watchable jobs state.scheduler) :
    (state.watch jobs).1.Poised ∧
      (state.watch jobs).1.scheduler.scheduled ⊆ state.scheduler.scheduled ∧
      ((state.watch jobs).2 = .ok () →
        ∀ job ∈ jobs, job ∉ (state.watch jobs).1.scheduler.scheduled) := by
  let begun := state.reschedule fun scheduler => scheduler.beginWatch jobs
  have attends : Attends jobs state.scheduler.watches begun.scheduler :=
    .waits _ rfl (Scheduler.waits_beginWatch poised.punctual watchable)
  have enough : weightsFor state.scheduler.watches begun.scheduler.ready ≤
      8 * (begun.scheduler.jobs + 1) + begun.scheduler.ready.length :=
    Scheduler.weightsFor_beginWatch_le poised.punctual watchable
  have scheduled : begun.scheduler.scheduled = state.scheduler.scheduled := by
    simp only [begun, reschedule, Scheduler.beginWatch_eq]
  have direct : begun.source = .direct := poised.direct
  have follows : begun.FollowsPlugins := poised.follows
  obtain ⟨punctual, ⟨outcome, told, struck⟩, fewer⟩ :=
    watched_driveWithin direct follows
      (Scheduler.punctual_beginWatch poised.punctual jobs) attends enough
  obtain ⟨followed, closes⟩ :=
    (endures_closes begun).driveWithin
      (8 * (begun.scheduler.jobs + 1) + begun.scheduler.ready.length)
      ⟨follows, Closes.refl begun⟩
  have watched : state.watch jobs = (begun.drive.setClient .running, outcome) := by
    have client : begun.drive.scheduler.client = .watched outcome := told
    unfold watch
    simp only [begun] at client
    simp only [client]
    rfl
  rw [watched]
  refine ⟨⟨closes.source.trans direct, followed, ?_, rfl⟩, scheduled ▸ fewer, struck⟩
  exact punctual.setClient fun _ same => by cases same

theorem waitWithin_of_nil (fuel : Nat) (none : state.scheduler.scheduled = []) :
    state.waitWithin fuel = (state, .ok ()) := by
  cases fuel with
  | zero => rfl
  | succ fuel => rw [waitWithin, none, List.isEmpty_nil, if_pos rfl]

/-- A client that goes on well after it has waited leaves no refresh scheduled. -/
theorem waitForRefresh_of_poised (poised : state.Poised) :
    state.waitForRefresh.1.Poised ∧
      (state.waitForRefresh.2 = .ok () → state.waitForRefresh.1.scheduler.scheduled = []) := by
  unfold waitForRefresh
  cases scheduled : state.scheduler.scheduled with
  | nil =>
      rw [waitWithin_of_nil _ scheduled]
      exact ⟨poised, fun _ => scheduled⟩
  | cons job rest =>
      have some : state.scheduler.scheduled ≠ [] := by simp [scheduled]
      obtain ⟨still, fewer, struck⟩ :=
        watch_of_poised poised (Scheduler.watchable_scheduled poised.punctual some)
      rw [waitWithin, List.isEmpty_eq_false_iff.mpr some, if_neg Bool.false_ne_true]
      rcases watched : state.watch state.scheduler.scheduled with ⟨waited, fault | ⟨⟩⟩
      · rw [watched] at still
        exact ⟨still, fun good => by cases good⟩
      · rw [watched] at still fewer struck
        have none : waited.scheduler.scheduled = [] :=
          List.eq_nil_iff_forall_not_mem.mpr fun other listed =>
            struck rfl other (fewer listed) listed
        simp only [waitWithin_of_nil _ none]
        exact ⟨still, fun _ => none⟩

theorem closes_waitForRefresh (follows : state.FollowsPlugins) :
    Closes state state.waitForRefresh.1 :=
  ((endures_closes state).waitWithin _ ⟨follows, Closes.refl state⟩).2

theorem poised_gatherRefresh (poised : state.Poised) (count : Nat) :
    (state.gatherRefresh count).1.Poised := by
  let begun := state.reschedule fun scheduler => scheduler.beginJobs count
  have begins : begun.Poised := by
    refine ⟨poised.direct, poised.follows, Scheduler.punctual_beginJobs poised.punctual count, ?_⟩
    have resting := poised.resting
    rw [Scheduler.isSuspended] at resting ⊢
    simp only [begun, reschedule, Scheduler.client_beginJobs]
    exact resting
  by_cases none : count = 0
  · subst none
    exact poised
  · have watchable := Scheduler.watchable_beginJobs state.scheduler none
    have watched := (watch_of_poised begins watchable).1
    unfold gatherRefresh
    split
    · exact poised
    · exact watched

theorem Poised.of_same {before after : Dispatcher} (poised : before.Poised)
    (source : after.source = before.source) (scheduler : after.scheduler = before.scheduler)
    (subscriptions : after.subscriptions = before.subscriptions) : after.Poised where
  direct := source.trans poised.direct
  follows := by
    intro entry member
    rw [subscriptions] at member
    exact poised.follows entry member
  punctual := by
    rw [scheduler]
    exact poised.punctual
  resting := by
    rw [scheduler]
    exact poised.resting

theorem Poised.of_told {before after : Dispatcher} (poised : before.Poised)
    (told : Told before after) : after.Poised where
  direct := told.source.trans poised.direct
  follows := told.followsPlugins poised.follows
  punctual := by
    rw [told.scheduler]
    exact poised.punctual
  resting := by
    rw [told.scheduler]
    exact poised.resting

theorem poised_scheduleRefresh (poised : state.Poised) : state.scheduleRefresh.Poised := by
  rw [scheduleRefresh]
  split
  · exact {
      direct := poised.direct
      follows := poised.follows
      punctual := Scheduler.punctual_schedule poised.punctual
      resting := poised.resting }
  · exact poised.of_same rfl rfl rfl

/-- Events about plugins begin jobs, and other events do not change the schedule. -/
theorem poised_announce (poised : state.Poised) (topic : Topic) (payload : List Value) :
    (announce topic payload state).Poised :=
  announce_keeps Poised.follows (fun told poised => poised.of_told told) poised_scheduleRefresh
    topic payload poised

theorem overlooks_poised : Overlooks Poised where
  registered := fun _ poised => poised.of_same rfl rfl rfl
  announce := fun topic payload poised => poised_announce poised topic payload

theorem poised_wakeFirst (poised : state.Poised) : state.wakeFirst.Poised := by
  obtain ⟨follows, closes⟩ :=
    (endures_closes state).wakeFirst ⟨poised.follows, Closes.refl state⟩
  refine ⟨closes.source.trans poised.direct, follows,
    punctual_wakeFirst poised.direct poised.follows poised.punctual, ?_⟩
  cases ready : state.scheduler.ready with
  | nil =>
      rw [wakeFirst, ready]
      exact poised.resting
  | cons wakeup rest =>
      obtain ⟨outcome, woken⟩ :=
        scheduler_wakeFirst poised.direct poised.follows poised.punctual ready
      have same : state.wakeFirst.scheduler.client = state.scheduler.client := by
        rw [woken]
        have resting : (state.scheduler.behind rest).isSuspended = false := poised.resting
        exact Scheduler.client_advance resting outcome wakeup
      have resting := poised.resting
      rw [Scheduler.isSuspended] at resting ⊢
      rw [same]
      exact resting

theorem scheduler_refresh (attached : state.Attached) :
    state.refresh.1.scheduler = state.scheduler.setClient .running := by
  have released :
      state.locked.cleared.scheduler.release.setClient .running =
        state.scheduler.setClient .running := by
    have free : (state.scheduler.setClient .refreshing).isFree = true := attached.free
    have same : state.locked.cleared.scheduler.release = state.scheduler.setClient .refreshing :=
      Scheduler.release_hold_of_isFree free
    rw [same]
    rfl
  rcases refresh_cases attached with
    ⟨done, steps, refreshed⟩ | ⟨_, _, _, middle, _, -, steps, refreshed, -⟩
  · have grows := grows_of_steps_start attached steps
    have told := told_of_steps_start attached steps
    rw [refreshed, ← released, ← grows.scheduler]
    exact congrArg (fun scheduler => scheduler.setClient .running) told.scheduler
  · have grows := grows_of_steps_start attached steps
    rw [refreshed, ← released, ← grows.scheduler]
    rfl

theorem poised_refresh (poised : state.Poised) : state.refresh.1.Poised := by
  have attached := attached_refresh poised.attached
  have scheduler := scheduler_refresh poised.attached
  refine ⟨attached.direct, attached.follows, ?_, ?_⟩
  · rw [scheduler]
    exact poised.punctual.setClient fun _ same => by cases same
  · rw [scheduler]
    rfl

end Dispatcher

end ChatDispatch
