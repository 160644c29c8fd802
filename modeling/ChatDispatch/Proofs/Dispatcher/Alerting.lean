import ChatDispatch.Proofs.Dispatcher.Announcing

/-!
# Alerting the refreshing of the tables

Telling about an event has little to do with refreshes: whatever listeners do, jobs are added
that are to refresh the tables, or it is noted that this is needed.  An event that the refreshing
of the tables is told about always leads to one of the two.
-/

namespace ChatDispatch.Dispatcher

/-- No listener changes the tables, whatever it is told about. -/
def Silent (state : Dispatcher) : Prop :=
  ∀ entry ∈ state.subscriptions, entry.2.alters = false

instance (state : Dispatcher) : Decidable state.Silent :=
  inferInstanceAs (Decidable (∀ entry ∈ state.subscriptions, entry.2.alters = false))

/-- A refresh has been asked for: a job is to begin it, or nothing could run a job. -/
def Asked (state : Dispatcher) : Prop :=
  (∃ job, .begin job ∈ state.scheduler.ready) ∨
    state.hasLoop = false ∧ state.needsRefresh = true

/-- What telling subscribers can change. -/
structure Alerted (before after : Dispatcher) : Prop where
  frame :
    after =
      { before with
        tables := after.tables
        needsRefresh := after.needsRefresh
        subscriptions := after.subscriptions
        deliveries := after.deliveries
        scheduler := after.scheduler
        nextCallable := after.nextCallable }
  leaves : Leaves before.subscriptions after.subscriptions
  held : after.scheduler.held = before.scheduler.held
  waiting : after.scheduler.waiting = before.scheduler.waiting
  begins : ∃ begun : List Nat, after.scheduler.ready = before.scheduler.ready ++ begun.map .begin
  needs : before.needsRefresh = true → after.needsRefresh = true

variable {before middle after state : Dispatcher} {announce : Announcement}

theorem Silent.quiet (silent : state.Silent) : state.Quiet :=
  fun entry member _ => silent entry member

theorem Leaves.silent (leaves : Leaves before.subscriptions after.subscriptions)
    (silent : after.Silent) : before.Silent := by
  intro entry member
  rw [Bool.eq_false_iff]
  intro alters
  have stays := leaves.stays entry member (stays_of_alters alters)
  cases alters.symm.trans (silent entry stays)

theorem FollowsPlugins.of_leaves (follows : before.FollowsPlugins)
    (leaves : Leaves before.subscriptions after.subscriptions) : after.FollowsPlugins :=
  fun entry member => follows entry (leaves.sublist.subset member)

namespace Alerted

theorem refl (state : Dispatcher) : Alerted state state where
  frame := rfl
  leaves := .refl _
  held := rfl
  waiting := rfl
  begins := ⟨[], (List.append_nil _).symm⟩
  needs := id

theorem trans (first : Alerted before middle) (second : Alerted middle after) :
    Alerted before after where
  frame := by
    rw [second.frame, first.frame]
  leaves := first.leaves.trans second.leaves
  held := second.held.trans first.held
  waiting := second.waiting.trans first.waiting
  begins := by
    obtain ⟨early, earlyReady⟩ := first.begins
    obtain ⟨late, lateReady⟩ := second.begins
    refine ⟨early ++ late, ?_⟩
    rw [lateReady, earlyReady, List.map_append, List.append_assoc]
  needs := fun needed => second.needs (first.needs needed)

theorem of_told (told : Told before after) : Alerted before after where
  frame := by
    rw [told.frame]
  leaves := told.leaves
  held := congrArg Scheduler.held told.scheduler
  waiting := congrArg Scheduler.waiting told.scheduler
  begins := ⟨[], by rw [told.scheduler, List.map_nil, List.append_nil]⟩
  needs := fun needed => told.needsRefresh.trans needed

theorem plugins (alerted : Alerted before after) : after.plugins = before.plugins := by
  rw [alerted.frame]

theorem registered (alerted : Alerted before after) : after.registered = before.registered := by
  rw [alerted.frame]

theorem source (alerted : Alerted before after) : after.source = before.source := by
  rw [alerted.frame]

theorem sourceFailure (alerted : Alerted before after) :
    after.sourceFailure = before.sourceFailure := by
  rw [alerted.frame]

theorem hasLoop (alerted : Alerted before after) : after.hasLoop = before.hasLoop := by
  rw [alerted.frame]

theorem asked (alerted : Alerted before after) (asked : before.Asked) : after.Asked := by
  rcases asked with ⟨job, member⟩ | ⟨noLoop, needed⟩
  · obtain ⟨begun, ready⟩ := alerted.begins
    refine .inl ⟨job, ?_⟩
    rw [ready]
    exact List.mem_append_left _ member
  · exact .inr ⟨alerted.hasLoop.trans noLoop, alerted.needs needed⟩

end Alerted

theorem alerted_scheduleRefresh (state : Dispatcher) : Alerted state state.scheduleRefresh := by
  by_cases loop : state.hasLoop = true
  · rw [scheduleRefresh, if_pos loop]
    exact {
      frame := rfl
      leaves := .refl _
      held := rfl
      waiting := rfl
      begins := ⟨[state.scheduler.jobs], rfl⟩
      needs := id }
  · rw [scheduleRefresh, if_neg loop]
    exact {
      frame := rfl
      leaves := .refl _
      held := rfl
      waiting := rfl
      begins := ⟨[], (List.append_nil _).symm⟩
      needs := fun _ => rfl }

theorem asked_scheduleRefresh (state : Dispatcher) : state.scheduleRefresh.Asked := by
  by_cases loop : state.hasLoop = true
  · rw [scheduleRefresh, if_pos loop]
    exact .inl ⟨state.scheduler.jobs, List.mem_append_right _ List.mem_cons_self⟩
  · rw [scheduleRefresh, if_neg loop]
    exact .inr ⟨Bool.eq_false_iff.mpr loop, rfl⟩

theorem alerted_deliver (tells : Tells announce) (topic : Topic) (payload : List Value)
    {subscriber : Subscriber} (lasts : state.Lasting → subscriber.overrides = false)
    (follows : state.FollowsPlugins) :
    Alerted state (deliver announce topic payload state subscriber) := by
  cases subscriber with
  | recorder => exact .of_told (told_record state _ _ _)
  | refresher => exact alerted_scheduleRefresh state
  | listener listener =>
      have other : Subscriber.listener listener ≠ .refresher := by
        intro same
        cases same
      exact .of_told (told_deliver tells topic payload other lasts follows)

theorem alerted_foldl_deliver (tells : Tells announce) (topic : Topic) (payload : List Value)
    (subscribers : List Subscriber)
    (lasts : state.Lasting → ∀ subscriber ∈ subscribers, subscriber.overrides = false)
    (follows : state.FollowsPlugins) :
    Alerted state (subscribers.foldl (deliver announce topic payload) state) := by
  induction subscribers generalizing state with
  | nil => exact .refl state
  | cons subscriber rest induction =>
      have first := alerted_deliver tells topic payload
        (fun lasting => lasts lasting subscriber List.mem_cons_self) follows
      exact first.trans
        (induction (lasts_of_leaves lasts first.leaves) (follows.of_leaves first.leaves))

/-- What telling about commands and asking for a refresh keep, telling any subscribers keeps. -/
theorem foldl_deliver_keeps (tells : Tells announce) {holds : Dispatcher → Prop}
    (follows : ∀ {state : Dispatcher}, holds state → state.FollowsPlugins)
    (told : ∀ {before after : Dispatcher}, Told before after → holds before → holds after)
    (scheduled : ∀ {state : Dispatcher}, holds state → holds state.scheduleRefresh)
    (topic : Topic) (payload : List Value) {subscribers : List Subscriber}
    (lasts : state.Lasting → ∀ subscriber ∈ subscribers, subscriber.overrides = false)
    (before : holds state) :
    holds (subscribers.foldl (deliver announce topic payload) state) := by
  induction subscribers generalizing state with
  | nil => exact before
  | cons subscriber rest induction =>
      have here (lasting : state.Lasting) := lasts lasting subscriber List.mem_cons_self
      have alerted := alerted_deliver tells topic payload here (follows before)
      refine induction (lasts_of_leaves lasts alerted.leaves) ?_
      by_cases refreshing : subscriber = .refresher
      · rw [refreshing]
        exact scheduled before
      · exact told (told_deliver tells topic payload refreshing here (follows before)) before

/-- What telling about commands and asking for a refresh keep, every announcement keeps. -/
theorem announce_keeps {holds : Dispatcher → Prop}
    (follows : ∀ {state : Dispatcher}, holds state → state.FollowsPlugins)
    (told : ∀ {before after : Dispatcher}, Told before after → holds before → holds after)
    (scheduled : ∀ {state : Dispatcher}, holds state → holds state.scheduleRefresh)
    (topic : Topic) (payload : List Value) (before : holds state) :
    holds (Dispatcher.announce topic payload state) :=
  foldl_deliver_keeps (tells_announceWithin _) follows told scheduled topic payload
    overrides_of_mem_subscribers before

/-- Among subscribers who are told, the refreshing of the tables asks for a refresh. -/
theorem asked_foldl_deliver (tells : Tells announce) (topic : Topic) (payload : List Value)
    {subscribers : List Subscriber} (told : Subscriber.refresher ∈ subscribers)
    (lasts : state.Lasting → ∀ subscriber ∈ subscribers, subscriber.overrides = false)
    (follows : state.FollowsPlugins) :
    (subscribers.foldl (deliver announce topic payload) state).Asked := by
  induction subscribers generalizing state with
  | nil => cases told
  | cons subscriber rest induction =>
      have first := alerted_deliver tells topic payload
        (fun lasting => lasts lasting subscriber List.mem_cons_self) follows
      have later := follows.of_leaves first.leaves
      have laterLasts := lasts_of_leaves lasts first.leaves
      rcases List.mem_cons.mp told with rfl | among
      · exact (alerted_foldl_deliver tells topic payload rest laterLasts later).asked
          (asked_scheduleRefresh state)
      · exact induction among laterLasts later

theorem alerted_announce (follows : state.FollowsPlugins) (topic : Topic)
    (payload : List Value) : Alerted state (Dispatcher.announce topic payload state) :=
  alerted_foldl_deliver (tells_announceWithin _) topic payload _ overrides_of_mem_subscribers
    follows

/-- An event that the refreshing of the tables is told about asks for a refresh. -/
theorem asked_announce (follows : state.FollowsPlugins) {topic : Topic}
    (heeded : (topic, Subscriber.refresher) ∈ state.subscriptions) (payload : List Value) :
    (Dispatcher.announce topic payload state).Asked := by
  have told : Subscriber.refresher ∈ state.subscribers topic := by
    refine List.mem_map.mpr ⟨_, List.mem_filter.mpr ⟨heeded, ?_⟩, rfl⟩
    exact decide_eq_true rfl
  exact asked_foldl_deliver (tells_announceWithin _) topic payload told
    overrides_of_mem_subscribers follows

theorem tables_deliver_of_not_alters (announce : Announcement) (topic : Topic)
    (payload : List Value) (state : Dispatcher) {subscriber : Subscriber}
    (silent : subscriber.alters = false) :
    (deliver announce topic payload state subscriber).tables = state.tables := by
  cases subscriber with
  | recorder => rfl
  | refresher =>
      simp only [deliver, scheduleRefresh, reschedule]
      split <;> rfl
  | listener listener =>
      obtain ⟨name, first, reaction⟩ := listener
      cases reaction with
      | none => rfl
      | fail => rfl
      | leave => rfl
      | register agent command handler => cases silent
      | unregister agent command => cases silent
      | describe usage => cases silent

theorem tables_foldl_deliver_of_not_alters (announce : Announcement) (topic : Topic)
    (payload : List Value) {subscribers : List Subscriber}
    (silent : ∀ subscriber ∈ subscribers, subscriber.alters = false) (state : Dispatcher) :
    (subscribers.foldl (deliver announce topic payload) state).tables = state.tables := by
  induction subscribers generalizing state with
  | nil => rfl
  | cons subscriber rest induction =>
      obtain ⟨here, later⟩ := List.forall_mem_cons.mp silent
      exact (induction later _).trans
        (tables_deliver_of_not_alters announce topic payload state here)

/-- Telling subscribers of a topic who do not change the tables leaves the tables as they are. -/
theorem tables_announce_of_not_alters {topic : Topic} (payload : List Value)
    (silent : ∀ entry ∈ state.subscriptions, entry.1 = topic → entry.2.alters = false) :
    (Dispatcher.announce topic payload state).tables = state.tables := by
  refine tables_foldl_deliver_of_not_alters _ topic payload ?_ state
  intro subscriber member
  obtain ⟨entry, filtered, rfl⟩ := List.mem_map.mp member
  obtain ⟨subscribed, ownTopic⟩ := List.mem_filter.mp filtered
  exact silent entry subscribed (of_decide_eq_true ownTopic)

theorem tables_announce_of_quiet {topic : Topic} (ofStoring : topic ∈ Topic.ofStoring)
    (payload : List Value) (quiet : state.Quiet) :
    (Dispatcher.announce topic payload state).tables = state.tables :=
  tables_announce_of_not_alters payload fun entry member ownTopic =>
    quiet entry member (ownTopic ▸ ofStoring)

theorem tables_announce_of_silent (silent : state.Silent) (topic : Topic)
    (payload : List Value) :
    (Dispatcher.announce topic payload state).tables = state.tables :=
  tables_announce_of_not_alters payload fun entry member _ => silent entry member

end ChatDispatch.Dispatcher
