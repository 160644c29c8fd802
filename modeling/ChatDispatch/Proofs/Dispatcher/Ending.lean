import Mathlib.Logic.Relation
import ChatDispatch.Proofs.Dispatcher.Operating
import ChatDispatch.Proofs.Scheduler.Turns

/-!
# How a refresh of the client ends

A refresh of the client lets wakeups happen until the client has been told its outcome.  Each
wakeup takes a turn or two, so this comes to an end.  The outcome is a fault, or the refresh has
been concluded by a rebuild, after which nothing else has happened.
-/

namespace ChatDispatch.Dispatcher

open Scheduler (Turn)

variable {state : Dispatcher}

/-- Who has the lock asks the source, or is told the outcome at once. -/
theorem scheduler_proceed (follows : state.FollowsPlugins) (party : Party) :
    (proceed party state).scheduler = state.scheduler.push (.answered party) ∨
      ∃ outcome, (proceed party state).scheduler = state.scheduler.release.tell party outcome := by
  unfold proceed
  split
  · exact .inr ⟨.ok 0, rfl⟩
  · exact .inr ⟨_, scheduler_conclude follows party⟩
  · exact .inl rfl

theorem scheduler_answer (follows : state.FollowsPlugins) (party : Party) :
    ∃ outcome, (answer party state).scheduler = state.scheduler.release.tell party outcome := by
  unfold answer
  split
  · exact ⟨_, rfl⟩
  · exact ⟨_, scheduler_conclude follows party⟩

theorem turn_push_answered (scheduler : Scheduler) (party : Party) (outcome : Except Fault Nat) :
    Turn (scheduler.push (.answered party)) (scheduler.release.tell party outcome) := by
  have ready : (scheduler.push (.answered party)).ready =
      scheduler.ready ++ .answered party :: [] := rfl
  have taken : (scheduler.push (.answered party)).take scheduler.ready [] = scheduler := by
    simp [Scheduler.take, Scheduler.push]
  have turn := Turn.answers ready outcome
  rw [taken] at turn
  exact turn

/-- One turn or two. -/
abbrev Turns : Scheduler → Scheduler → Prop :=
  Relation.TransGen Turn

theorem turns_proceed (follows : state.FollowsPlugins) {before : Scheduler} {party : Party}
    (asks : Turn before (state.scheduler.push (.answered party))) :
    Turns before (proceed party state).scheduler := by
  rcases scheduler_proceed follows party with same | ⟨outcome, same⟩
  · rw [same]
    exact .single asks
  · rw [same]
    exact .tail (.single asks) (turn_push_answered state.scheduler party outcome)

theorem turns_wake (follows : state.FollowsPlugins) {before : Scheduler}
    (unwatched : before.Unwatched) {front back : List Wakeup} {wakeup : Wakeup}
    (ready : before.ready = front ++ wakeup :: back)
    (taken : state.scheduler = before.take front back) :
    Turns before (state.wake wakeup).scheduler := by
  have sameClient : state.scheduler.Unwatched := by
    rw [taken]
    exact unwatched
  cases wakeup with
  | begin job =>
      have sameFree : state.scheduler.isFree = before.isFree := by
        rw [taken]
        rfl
      rw [wake, enter, sameFree]
      split
      · rename_i free
        have attentive : (state.reschedule Scheduler.hold).FollowsPlugins := follows
        refine turns_proceed attentive ?_
        rw [reschedule, taken]
        exact .asks ready free
      · rename_i busy
        rw [reschedule, taken]
        exact .single (.waits ready (Bool.eq_false_iff.mpr busy))
  | granted party =>
      have attentive :
          (state.reschedule fun scheduler => scheduler.grant party).FollowsPlugins := follows
      refine turns_proceed attentive ?_
      rw [reschedule, taken]
      exact .grants ready
  | answered party =>
      obtain ⟨outcome, same⟩ := scheduler_answer follows party
      rw [wake, same, taken]
      exact .single (.answers ready outcome)
  | settled job =>
      rw [wake, reschedule, taken]
      exact .single (.passes ready rfl _)
  | noticed job watch =>
      rw [wake, reschedule, Scheduler.notice, Scheduler.watchNumbered?_of_unwatched sameClient,
        taken]
      exact .single (.passes ready rfl before.scheduled)
  | released watch =>
      rw [wake, reschedule, Scheduler.letGo, Scheduler.watchNumbered?_of_unwatched sameClient,
        taken]
      exact .single (.passes ready rfl before.scheduled)

theorem turns_wakeFirst (follows : state.FollowsPlugins)
    (unwatched : state.scheduler.Unwatched) (some : state.scheduler.ready ≠ []) :
    Turns state.scheduler state.wakeFirst.scheduler := by
  obtain ⟨wakeup, rest, ready⟩ := List.exists_cons_of_ne_nil some
  let taken := state.reschedule fun scheduler => { scheduler with ready := rest }
  have woken : state.wakeFirst = taken.wake wakeup := by
    rw [wakeFirst, ready]
  have attentive : taken.FollowsPlugins := follows
  have first : state.scheduler.ready = [] ++ wakeup :: rest := ready
  rw [woken]
  exact turns_wake attentive unwatched first rfl

/-- The client has been told the outcome of its refresh. -/
def IsTold (state : Dispatcher) : Prop :=
  ∃ outcome, state.scheduler.client = .refreshed outcome

theorem served_of_turns {before after : Scheduler} (served : before.Served)
    (unwatched : before.Unwatched) (turns : Turns before after) :
    after.Served ∧ after.Unwatched ∧ after.load < before.load := by
  induction turns with
  | single turn =>
      exact ⟨Scheduler.served_of_turn served turn, Scheduler.unwatched_of_turn unwatched turn,
        Scheduler.load_of_turn served unwatched turn⟩
  | tail _ turn induction =>
      obtain ⟨middleServed, middleUnwatched, less⟩ := induction
      exact ⟨Scheduler.served_of_turn middleServed turn,
        Scheduler.unwatched_of_turn middleUnwatched turn,
        Nat.lt_trans (Scheduler.load_of_turn middleServed middleUnwatched turn) less⟩

theorem client_of_turns {before after : Scheduler} (turns : Turns before after) :
    after.client = before.client ∨ ∃ outcome, after.client = .refreshed outcome := by
  induction turns with
  | single turn => exact Scheduler.client_of_turn turn
  | tail _ turn induction =>
      rcases Scheduler.client_of_turn turn with same | told
      · rw [same]
        exact induction
      · exact .inr told

/-- A client that waits goes on waiting until it has been told. -/
theorem awaits_of_turns {before after : Scheduler} (awaits : before.Awaits)
    (turns : Turns before after) :
    after.Awaits ∨ ∃ outcome, after.client = .refreshed outcome := by
  induction turns with
  | single turn => exact Scheduler.awaits_of_turn awaits turn
  | tail _ turn induction =>
      rcases induction with waits | ⟨outcome, told⟩
      · exact Scheduler.awaits_of_turn waits turn
      · rcases Scheduler.client_of_turn turn with same | later
        · exact .inr ⟨outcome, same.trans told⟩
        · exact .inr later

theorem unwatched_of_awaits {scheduler : Scheduler} (awaits : scheduler.Awaits) :
    scheduler.Unwatched := by
  intro watch watching
  cases awaits.refreshing.symm.trans watching

theorem isSuspended_of_isTold (told : state.IsTold) : state.scheduler.isSuspended = false := by
  obtain ⟨outcome, same⟩ := told
  rw [Scheduler.isSuspended, same]

theorem isSuspended_of_awaits {scheduler : Scheduler} (awaits : scheduler.Awaits) :
    scheduler.isSuspended = true := by
  rw [Scheduler.isSuspended, awaits.refreshing]

theorem endures_followsPlugins : Endures FollowsPlugins where
  reschedule := fun _ follows => follows
  conclude := fun party follows => follows.of_leaves (closes_conclude follows party).leaves

/-- Wakeups that happen while the client waits lead to its being told, as the load decreases. -/
theorem isTold_driveWithin (follows : state.FollowsPlugins) (served : state.scheduler.Served)
    (waits : state.scheduler.Awaits ∨ state.IsTold) {fuel : Nat}
    (enough : state.scheduler.load ≤ fuel) :
    (driveWithin fuel state).IsTold ∧ (driveWithin fuel state).scheduler.Served := by
  induction fuel generalizing state with
  | zero =>
      rcases waits with awaits | told
      · obtain ⟨wakeup, rest, ready⟩ :=
          List.exists_cons_of_ne_nil (Scheduler.ready_ne_nil_of_awaits served awaits)
        have some : 0 < wakeup.weight := by cases wakeup <;> exact Nat.succ_pos _
        have least : wakeup.weight ≤ state.scheduler.load := by
          simp only [Scheduler.load, ready, Wakeup.weights]
          omega
        omega
      · exact ⟨told, served⟩
  | succ fuel induction =>
      rw [driveWithin]
      rcases waits with awaits | told
      · rw [if_pos (isSuspended_of_awaits awaits)]
        have turns := turns_wakeFirst follows (unwatched_of_awaits awaits)
          (Scheduler.ready_ne_nil_of_awaits served awaits)
        obtain ⟨nextServed, -, less⟩ :=
          served_of_turns served (unwatched_of_awaits awaits) turns
        exact induction (endures_followsPlugins.wakeFirst follows) nextServed
          (awaits_of_turns awaits turns) (by omega)
      · rw [isSuspended_of_isTold told, if_neg Bool.false_ne_true]
        exact ⟨told, served⟩

/-- The client has nothing to wait for, and every refresh under way will get its turn. -/
structure Awake (state : Dispatcher) : Prop where
  follows : state.FollowsPlugins
  served : state.scheduler.Served
  resting : state.scheduler.isSuspended = false

theorem Awake.unfinished_le (awake : state.Awake) :
    state.scheduler.unfinished ≤ state.scheduler.jobs := by
  have nothing : state.scheduler.ofClient = 0 := by
    have resting := awake.resting
    cases client : state.scheduler.client <;>
      simp [Scheduler.isSuspended, client, Scheduler.ofClient] at resting ⊢
  have accounted := awake.served.accounted
  rw [nothing] at accounted
  exact accounted

/-- The refresh of the client gets the lock or waits for it. -/
theorem served_enter (awake : state.Awake) :
    let begun := enter .client (state.setClient .refreshing)
    begun.scheduler.Served ∧ (begun.scheduler.Awaits ∨ begun.IsTold) := by
  have fewer := awake.unfinished_le
  have orderly : (state.setClient .refreshing).scheduler.Orderly :=
    (Scheduler.tends_setClient _ _).orderly awake.served.orderly
  intro begun
  cases free : (state.setClient .refreshing).scheduler.isFree with
  | false =>
      have same : begun =
          (state.setClient .refreshing).reschedule fun scheduler => scheduler.enqueue .client := by
        simp only [begun, enter, free, Bool.false_eq_true, if_false]
      have accounted : state.scheduler.unfinished + 1 ≤ state.scheduler.jobs + 1 :=
        Nat.succ_le_succ fewer
      rw [same]
      refine ⟨⟨Scheduler.orderly_enqueue orderly free .client, ?_, ?_⟩, .inl ⟨rfl, ?_⟩⟩
      · exact fun party granted => List.mem_append_left _ (awake.served.granted party granted)
      · simp only [Scheduler.unfinished, reschedule, Scheduler.enqueue, setClient,
          Scheduler.setClient, Scheduler.ofClient, List.length_append, List.length_singleton]
          at accounted ⊢
        omega
      · exact .inl (List.mem_append_right _ List.mem_cons_self)
  | true =>
      let holding := (state.setClient .refreshing).reschedule Scheduler.hold
      have same : begun = proceed .client holding := by
        simp only [begun, enter, free, if_true, holding]
      have attentive : holding.FollowsPlugins := awake.follows
      have asking : (holding.scheduler.push (.answered .client)).Served := {
        orderly := Scheduler.orderly_ask orderly free .client
        granted := fun party granted => absurd granted
          (Scheduler.not_granted_of_held (Scheduler.orderly_ask orderly free .client) rfl)
        accounted := by
          rw [Scheduler.unfinished_push]
          exact Nat.succ_le_succ fewer }
      have awaiting : (holding.scheduler.push (.answered .client)).Awaits :=
        ⟨rfl, .inr (List.mem_append_right _ List.mem_cons_self)⟩
      rw [same]
      rcases scheduler_proceed attentive .client with asked | ⟨outcome, told⟩
      · rw [asked]
        exact ⟨asking, .inl awaiting⟩
      · refine ⟨?_, .inr ⟨outcome, congrArg Scheduler.client told⟩⟩
        rw [told]
        exact Scheduler.served_of_turn asking (turn_push_answered _ .client outcome)

theorem refresh_of_awake (awake : state.Awake) :
    ∃ driven outcome,
      driven = drive (enter .client (state.setClient .refreshing)) ∧
        driven.scheduler.client = .refreshed outcome ∧ driven.scheduler.Served ∧
        state.refresh = (driven.setClient .running, outcome) := by
  obtain ⟨served, waits⟩ := served_enter awake
  let begun := enter .client (state.setClient .refreshing)
  have attentive : begun.FollowsPlugins :=
    endures_followsPlugins.enter .client
      (endures_followsPlugins.setClient .refreshing awake.follows)
  have enough : begun.scheduler.load ≤
      8 * (begun.scheduler.jobs + 1) + begun.scheduler.ready.length := by
    have load := begun.scheduler.load_le
    have accounted : begun.scheduler.unfinished ≤
        begun.scheduler.jobs + begun.scheduler.ofClient := served.accounted
    have most : begun.scheduler.ofClient ≤ 1 := by
      unfold Scheduler.ofClient
      split <;> omega
    omega
  obtain ⟨⟨outcome, told⟩, ended⟩ := isTold_driveWithin attentive served waits enough
  refine ⟨begun.drive, outcome, rfl, told, ended, ?_⟩
  have same : begun.drive.scheduler.client = .refreshed outcome := told
  unfold refresh
  simp only [begun] at same
  simp only [same]
  rfl

theorem Awake.of_same {before after : Dispatcher} (awake : before.Awake)
    (scheduler : after.scheduler = before.scheduler)
    (subscriptions : after.subscriptions = before.subscriptions) : after.Awake where
  follows := by
    intro entry member
    rw [subscriptions] at member
    exact awake.follows entry member
  served := by
    rw [scheduler]
    exact awake.served
  resting := by
    rw [scheduler]
    exact awake.resting

theorem Awake.of_told {before after : Dispatcher} (awake : before.Awake)
    (told : Told before after) : after.Awake where
  follows := told.followsPlugins awake.follows
  served := by
    rw [told.scheduler]
    exact awake.served
  resting := by
    rw [told.scheduler]
    exact awake.resting

theorem Scheduler.served_schedule {scheduler : Scheduler} (served : scheduler.Served) :
    scheduler.schedule.Served where
  orderly := Scheduler.orderly_begins served.orderly rfl rfl
    (show scheduler.schedule.ready = scheduler.ready ++ [scheduler.jobs].map .begin from rfl)
  granted := by
    intro party granted
    rcases List.mem_append.mp granted with earlier | new
    · exact served.granted party earlier
    · cases List.mem_singleton.mp new
  accounted := by
    have accounted := served.accounted
    rw [Scheduler.schedule, Scheduler.beginJob, Scheduler.unfinished_push]
    simp only [Scheduler.unfinished, Scheduler.ofClient, Scheduler.push, Wakeup.isPending,
      Bool.toNat_true] at accounted ⊢
    omega

theorem awake_scheduleRefresh (awake : state.Awake) : state.scheduleRefresh.Awake := by
  rw [scheduleRefresh]
  split
  · exact {
      follows := awake.follows
      served := Scheduler.served_schedule awake.served
      resting := awake.resting }
  · exact awake.of_same rfl rfl

/-- Events about plugins begin jobs, and other events do not change the schedule. -/
theorem awake_announce (awake : state.Awake) (topic : Topic) (payload : List Value) :
    (announce topic payload state).Awake :=
  announce_keeps Awake.follows (fun told awake => awake.of_told told) awake_scheduleRefresh topic
    payload awake

theorem ignores_awake : Ignores Awake where
  tables := fun _ awake => awake.of_same rfl rfl
  announce := fun topic payload awake => awake_announce awake topic payload

theorem awake_wakeFirst (awake : state.Awake) : state.wakeFirst.Awake := by
  have unwatched : state.scheduler.Unwatched := by
    intro watch watching
    have resting := awake.resting
    rw [Scheduler.isSuspended, watching] at resting
    cases resting
  by_cases empty : state.scheduler.ready = []
  · rw [wakeFirst, empty]
    exact awake
  · have turns := turns_wakeFirst awake.follows unwatched empty
    refine ⟨endures_followsPlugins.wakeFirst awake.follows,
      (served_of_turns awake.served unwatched turns).1, ?_⟩
    rcases client_of_turns turns with same | told
    · have resting := awake.resting
      rw [Scheduler.isSuspended] at resting ⊢
      rw [same]
      exact resting
    · exact isSuspended_of_isTold told

theorem awake_refresh (awake : state.Awake) : state.refresh.1.Awake := by
  obtain ⟨driven, outcome, rfl, told, served, refreshed⟩ := refresh_of_awake awake
  have follows : state.refresh.1.FollowsPlugins :=
    endures_followsPlugins.refresh awake.follows
  refine ⟨follows, ?_, ?_⟩
  · rw [refreshed]
    have tends := Scheduler.tends_setClient
      (drive (enter .client (state.setClient .refreshing))).scheduler .running
    have accounted := served.accounted
    rw [Scheduler.ofClient, told] at accounted
    exact ⟨tends.orderly served.orderly, served.granted, accounted⟩
  · rw [refreshed]
    rfl

theorem overlooks_awake : Overlooks Awake where
  registered := fun _ awake => awake.of_same rfl rfl
  announce := fun topic payload awake => awake_announce awake topic payload

theorem awake_operate (awake : state.Awake) (operation : Operation) :
    (state.operate operation).1.Awake := by
  cases operation with
  | request request => exact ignores_awake.perform request awake
  | declare declaration => exact ignores_awake.registerCommand declaration awake
  | refresh => exact awake_refresh awake
  | subscribe topic listener =>
      exact ⟨followsPlugins_listener awake.follows topic listener, awake.served, awake.resting⟩
  | unsubscribe topic listener =>
      refine ⟨?_, awake.served, awake.resting⟩
      exact fun entry member => awake.follows entry (List.mem_of_mem_erase member)
  | attach =>
      have connected : FollowsPlugins { state with source := .direct } := awake.follows
      exact ⟨followsPlugins_follow connected, awake.served, awake.resting⟩
  | registerPlugin handle sort => exact overlooks_awake.registerPlugin handle sort awake
  | unregisterPlugin id sort => exact overlooks_awake.unregisterPlugin id sort awake
  | addPlugin plugin => exact awake.of_same rfl rfl
  | setPlugin handle plugin => exact awake.of_same rfl rfl
  | wakeFirst => exact awake_wakeFirst awake

theorem awake_operateAll (awake : state.Awake) (operations : List Operation) :
    (state.operateAll operations).1.Awake := by
  have keeps {state : Dispatcher} {operation : Operation} (_ : True) (before : state.Awake) :
      (state.operate operation).1.Awake := awake_operate before operation
  exact operateAll_keeps keeps (fun _ _ => trivial) awake

theorem awake_setUp (unused : state.Unused) (source : Source) (following : Bool) :
    (state.setUp source following).Awake := by
  have idle : Scheduler.idle.Served := by
    refine ⟨⟨rfl, rfl⟩, ?_, Nat.le_refl 0⟩
    intro party granted
    cases granted
  have follows : state.FollowsPlugins :=
    fun entry member => absurd member (unused.nobody entry)
  have connected : Awake { state with source } := by
    refine ⟨follows, ?_, ?_⟩
    · exact unused.scheduler ▸ idle
    · exact unused.scheduler ▸ rfl
  have followed : Awake (follow { state with source }) :=
    ⟨followsPlugins_follow connected.follows, connected.served, connected.resting⟩
  exact ignores_awake.setUp source following connected followed

/-- The client has been told of a fault, or by a rebuild of a state with a property. -/
inductive Ended (holds : Dispatcher → Prop) (state : Dispatcher) : Prop where
  | failed (fault : Fault) (told : state.scheduler.client = .refreshed (.error fault))
  | concluded (prior : Dispatcher) (before : holds prior) (same : state = conclude .client prior)

/-- The end of the refresh of a job does not concern the client. -/
theorem client_tell_release_job (scheduler : Scheduler) (job : Nat) (outcome : Except Fault Nat) :
    (scheduler.release.tell (.job job) outcome).client = scheduler.client := by
  rw [Scheduler.client_tell_job, Scheduler.client_release]

/-- A property that wakeups keep, of states in which a refresh has something to read. -/
structure Lasts (holds : Dispatcher → Prop) : Prop extends Endures holds where
  follows : ∀ {state : Dispatcher}, holds state → state.FollowsPlugins
  present : ∀ {state : Dispatcher}, holds state → state.source ≠ .absent

namespace Lasts

variable {holds : Dispatcher → Prop}

theorem of_endures (endures : Endures holds)
    (follows : ∀ {state : Dispatcher}, holds state → state.FollowsPlugins) :
    Lasts fun state => holds state ∧ state.source ≠ .absent where
  reschedule := fun change both => ⟨endures.reschedule change both.1, both.2⟩
  conclude := fun party both =>
    ⟨endures.conclude party both.1, (closes_conclude (follows both.1) party).source ▸ both.2⟩
  follows := fun both => follows both.1
  present := fun both => both.2

theorem ended_conclude (lasts : Lasts holds) (before : holds state) (party : Party) :
    (Dispatcher.conclude party state).scheduler.client = state.scheduler.client ∨
      Ended holds (Dispatcher.conclude party state) := by
  cases party with
  | client => exact .inr (.concluded state before rfl)
  | job job =>
      left
      rw [scheduler_conclude (lasts.follows before), client_tell_release_job]

theorem ended_proceed (lasts : Lasts holds) (before : holds state) (party : Party) :
    (Dispatcher.proceed party state).scheduler.client = state.scheduler.client ∨
      Ended holds (Dispatcher.proceed party state) := by
  unfold Dispatcher.proceed
  split
  · exact absurd ‹_› (lasts.present before)
  · exact lasts.ended_conclude before party
  · exact .inl rfl

theorem ended_enter (lasts : Lasts holds) (before : holds state) (party : Party) :
    (Dispatcher.enter party state).scheduler.client = state.scheduler.client ∨
      Ended holds (Dispatcher.enter party state) := by
  unfold Dispatcher.enter
  split
  · exact lasts.ended_proceed (lasts.reschedule Scheduler.hold before) party
  · exact .inl rfl

theorem ended_answer (lasts : Lasts holds) (before : holds state) (party : Party) :
    (Dispatcher.answer party state).scheduler.client = state.scheduler.client ∨
      Ended holds (Dispatcher.answer party state) := by
  unfold Dispatcher.answer
  split
  · cases party with
    | client => exact .inr (.failed _ rfl)
    | job job => exact .inl (client_tell_release_job _ _ _)
  · exact lasts.ended_conclude before party

theorem ended_wake (lasts : Lasts holds) (before : holds state)
    (unwatched : state.scheduler.Unwatched) (wakeup : Wakeup) :
    (state.wake wakeup).scheduler.client = state.scheduler.client ∨
      Ended holds (state.wake wakeup) := by
  cases wakeup with
  | begin job => exact lasts.ended_enter before (.job job)
  | granted party =>
      exact lasts.ended_proceed
        (lasts.reschedule (fun scheduler => scheduler.grant party) before) party
  | answered party => exact lasts.ended_answer before party
  | settled job => exact .inl rfl
  | noticed job watch =>
      left
      rw [wake, reschedule, Scheduler.notice, Scheduler.watchNumbered?_of_unwatched unwatched]
  | released watch =>
      left
      rw [wake, reschedule, Scheduler.letGo, Scheduler.watchNumbered?_of_unwatched unwatched]

theorem ended_wakeFirst (lasts : Lasts holds) (before : holds state)
    (unwatched : state.scheduler.Unwatched) :
    state.wakeFirst.scheduler.client = state.scheduler.client ∨
      Ended holds state.wakeFirst := by
  unfold Dispatcher.wakeFirst
  split
  · exact .inl rfl
  · rename_i wakeup rest _
    exact lasts.ended_wake
      (lasts.reschedule (fun scheduler => { scheduler with ready := rest }) before) unwatched
      wakeup

/-- While wakeups happen the client waits, until the refresh has ended. -/
theorem ended_driveWithin (lasts : Lasts holds) (before : holds state)
    (waits : state.scheduler.client = .refreshing ∨ Ended holds state) (fuel : Nat) :
    (Dispatcher.driveWithin fuel state).scheduler.client = .refreshing ∨
      Ended holds (Dispatcher.driveWithin fuel state) := by
  induction fuel generalizing state with
  | zero => exact waits
  | succ fuel induction =>
      rw [Dispatcher.driveWithin]
      rcases waits with refreshing | ended
      · have suspended : state.scheduler.isSuspended = true := by
          rw [Scheduler.isSuspended, refreshing]
        have unwatched : state.scheduler.Unwatched := by
          intro watch watching
          cases refreshing.symm.trans watching
        rw [if_pos suspended]
        refine induction (lasts.wakeFirst before) ?_
        exact (lasts.ended_wakeFirst before unwatched).imp_left fun same => same.trans refreshing
      · have told : state.IsTold := by
          cases ended with
          | failed fault told => exact ⟨_, told⟩
          | concluded prior earlier same =>
              refine ⟨(prior.rebuild prior.enabledHandles).2, ?_⟩
              rw [same, scheduler_conclude (lasts.follows earlier)]
              rfl
        rw [isSuspended_of_isTold told, if_neg Bool.false_ne_true]
        exact .inr ended

end Lasts

/-- A refresh of the client fails, or a rebuild has come to its end just before it ends. -/
theorem refresh_ends {holds : Dispatcher → Prop} (lasts : Lasts holds) (awake : state.Awake)
    (before : holds state) :
    (∃ fault, state.refresh.2 = .error fault) ∨
      ∃ prior, holds prior ∧
        state.refresh =
          ((conclude .client prior).setClient .running,
            (prior.rebuild prior.enabledHandles).2) := by
  obtain ⟨driven, outcome, same, told, -, refreshed⟩ := refresh_of_awake awake
  have begun := lasts.setClient .refreshing before
  have entered := lasts.ended_enter begun .client
  have ended : driven.scheduler.client = .refreshing ∨ Ended holds driven := by
    rw [same]
    exact lasts.ended_driveWithin (lasts.enter .client begun) entered _
  rw [refreshed]
  rcases ended with refreshing | ⟨fault, failed⟩ | ⟨prior, earlier, concluded⟩
  · cases refreshing.symm.trans told
  · left
    refine ⟨fault, ?_⟩
    cases told.symm.trans failed
    rfl
  · right
    refine ⟨prior, earlier, ?_⟩
    have outcomeTold : driven.scheduler.client =
        .refreshed (prior.rebuild prior.enabledHandles).2 := by
      rw [concluded, scheduler_conclude (lasts.follows earlier)]
      rfl
    cases told.symm.trans outcomeTold
    rw [concluded]

end ChatDispatch.Dispatcher
