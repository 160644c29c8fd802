import ChatDispatch.Proofs.Dispatcher.Course
import ChatDispatch.Proofs.Dispatcher.Registered

/-!
# What every step keeps

Between two suspensions the tables are those of the last complete rebuild, and what has been
read from the source may be out of date.  No change is lost nevertheless: the event that made
it so has asked for a refresh, which is to begin or waits for the lock.  So `Steady` is kept by
every step, whichever comes next.
-/

namespace ChatDispatch.Dispatcher

open Course

/-- The refreshing of the tables is told about all events about plugins, and no others. -/
structure Attentive (state : Dispatcher) : Prop where
  follows : state.FollowsPlugins
  heeds : ∀ topic ∈ Topic.ofPlugins, (topic, Subscriber.refresher) ∈ state.subscriptions

/-- There is a source that does not fail.  Jobs can be run, or else plugins are read at once. -/
structure Connected (outside : Bool) (state : Dispatcher) : Prop where
  present : state.source ≠ .absent
  answers : state.sourceFailure = none
  inside : outside = false → state.hasLoop = true
  direct : outside = true → state.source = .direct

/-- The registered plugins are known, and every declaration is normalizable. -/
structure Stocked (state : Dispatcher) : Prop where
  normalizable : ∀ plugin ∈ state.plugins, plugin.IsNormalizable
  known : ∀ handle ∈ state.pluginHandles, Known state.plugins handle

/-- The lock is in order.  A source that is read at once needs it no longer than that. -/
structure Guarded (state : Dispatcher) : Prop where
  orderly : state.scheduler.Orderly
  free : state.source = .direct → state.scheduler.isFree = true

/-- Plugins can be rebuilt from that were read earlier; if no event has occurred since, they are
still the ones that are switched on. -/
structure Snapshot.Fits (snapshot : Snapshot) (course : Course) : Prop where
  past : snapshot.events ≤ course.events
  same : snapshot.events = course.events → snapshot.handles = course.state.enabledHandles
  known : ∀ handle ∈ snapshot.handles, Known course.state.plugins handle

/-- The tables are those of the last complete rebuild, unless listeners add commands. -/
structure Kept (outside : Bool) (course : Course) : Prop where
  attentive : course.state.Attentive
  connected : course.state.Connected outside
  stocked : course.state.Stocked
  guarded : course.state.Guarded
  tables :
    course.state.Silent →
      course.state.tables = tablesOf course.state.plugins course.built.handles
  built : course.built.Fits course
  read : ∀ snapshot, course.read = some snapshot → snapshot.Fits course

/-- No change is lost: what was built or read is up to date, or a refresh is under way. -/
structure Steady (outside : Bool) (course : Course) : Prop extends Kept outside course where
  upToDate :
    course.built.events = course.events ∨
      course.state.scheduler.Underway ∨
      (outside = true ∧ course.state.needsRefresh = true) ∨
      (course.state.scheduler.held = true ∧ course.IsCurrent)
  followed :
    course.state.scheduler.held = true →
      course.IsCurrent ∨ course.state.scheduler.Underway

variable {outside : Bool} {before after : Dispatcher} {course next : Course}

theorem Attentive.of_leaves (attentive : before.Attentive)
    (leaves : Leaves before.subscriptions after.subscriptions) : after.Attentive where
  follows := attentive.follows.of_leaves leaves
  heeds := fun topic ofPlugins => leaves.stays _ (attentive.heeds topic ofPlugins) rfl

theorem Connected.of_same (connected : before.Connected outside)
    (source : after.source = before.source)
    (sourceFailure : after.sourceFailure = before.sourceFailure)
    (hasLoop : after.hasLoop = before.hasLoop) : after.Connected outside where
  present := source ▸ connected.present
  answers := sourceFailure.trans connected.answers
  inside := fun always => hasLoop.trans (connected.inside always)
  direct := fun sometimes => source.trans (connected.direct sometimes)

theorem Stocked.of_same (stocked : before.Stocked) (plugins : after.plugins = before.plugins)
    (registered : after.registered = before.registered) : after.Stocked where
  normalizable := by
    rw [plugins]
    exact stocked.normalizable
  known := by
    rw [plugins, pluginHandles, registered]
    exact stocked.known

theorem Snapshot.Fits.of_same {snapshot : Snapshot} (fits : snapshot.Fits course)
    (events : next.events = course.events) (plugins : next.state.plugins = course.state.plugins)
    (registered : next.state.registered = course.state.registered) : snapshot.Fits next where
  past := by
    rw [events]
    exact fits.past
  same := by
    rw [events, enabledHandles_congr plugins registered]
    exact fits.same
  known := by
    rw [plugins]
    exact fits.known

theorem fits_now (stocked : course.state.Stocked) : course.now.Fits course where
  past := Nat.le_refl _
  same := fun _ => rfl
  known := fun handle member => stocked.known handle (List.mem_filter.mp member).1

theorem Kept.reschedule (kept : Kept outside course) {change : Scheduler → Scheduler}
    (guarded : (course.state.reschedule change).Guarded) :
    Kept outside (course.reschedule change) where
  attentive := kept.attentive.of_leaves (.refl _)
  connected := kept.connected.of_same rfl rfl rfl
  stocked := kept.stocked.of_same rfl rfl
  guarded := guarded
  tables := kept.tables
  built := kept.built.of_same rfl rfl rfl
  read := fun snapshot found => (kept.read snapshot found).of_same rfl rfl rfl

theorem steady_conclude (attentive : course.state.Attentive)
    (connected : course.state.Connected outside) (stocked : course.state.Stocked)
    {snapshot : Snapshot} (fits : snapshot.Fits course)
    (orderly : course.state.scheduler.release.Orderly)
    (free : course.state.source = .direct → course.state.scheduler.waiting = [])
    (current : snapshot.events = course.events ∨ course.state.scheduler.Underway)
    (party : Party) : Steady outside (course.conclude party snapshot) := by
  let after := concludeFrom snapshot.handles party course.state
  have sound := isSound_of_forall_known stocked.normalizable fits.known
  have concluded : Concluded snapshot.handles party course.state after :=
    concluded_concludeFrom attentive.follows sound party
  have counted : (course.conclude party snapshot).built = snapshot := by
    obtain ⟨done, rebuilt, -, -⟩ := rebuild_makes_tablesOf attentive.follows sound
    simp only [Course.conclude, rebuilt]
  obtain ⟨outcome, told⟩ := concluded.scheduler
  have tends : Scheduler.Tends course.state.scheduler.release after.scheduler := by
    rw [told]
    exact Scheduler.tends_tell _ party outcome
  have unheld : after.scheduler.held = false := tends.held.trans (Scheduler.release_held _)
  have waiting : after.scheduler.waiting = course.state.scheduler.waiting :=
    tends.waiting.trans (Scheduler.release_waiting _)
  have tables (silent : after.Silent) :
      after.tables = tablesOf after.plugins snapshot.handles := by
    rw [concluded.plugins]
    exact concluded.tables (concluded.leaves.silent silent).quiet
  exact {
    attentive := attentive.of_leaves concluded.leaves
    connected := connected.of_same concluded.source concluded.sourceFailure concluded.hasLoop
    stocked := stocked.of_same concluded.plugins concluded.registered
    guarded := {
      orderly := tends.orderly orderly
      free := fun direct => Scheduler.isFree_iff.mpr
        ⟨unheld, waiting.trans (free (concluded.source.symm.trans direct))⟩ }
    tables := by
      rw [counted]
      exact tables
    built := by
      rw [counted]
      exact fits.of_same rfl concluded.plugins concluded.registered
    read := fun _ found => by cases found
    upToDate := by
      rw [counted]
      rcases current with same | ⟨job, member⟩ | others
      · exact .inl same
      · have kept := (tends.mem_ready rfl).mpr (Scheduler.mem_release_of_mem member)
        exact .inr (.inl (.inl ⟨job, kept⟩))
      · exact .inr (.inl (.inr (waiting ▸ others)))
    followed := fun held => by cases held.symm.trans unheld }

theorem suspending_of_not_direct (connected : course.state.Connected outside)
    (apart : course.state.source ≠ .direct) : course.state.source = .suspending := by
  cases source : course.state.source with
  | absent => exact absurd source connected.present
  | direct => exact absurd source apart
  | suspending => rfl

/-- Who gets the lock asks a source that suspends, which will read what is up to date. -/
theorem steady_ask (kept : Kept outside course) (apart : course.state.source ≠ .direct)
    {change : Scheduler → Scheduler} (held : (change course.state.scheduler).held = true)
    {party : Party} (orderly : ((change course.state.scheduler).push (.answered party)).Orderly) :
    Steady outside ((course.reschedule change).proceed party) := by
  have suspending : course.state.source = .suspending :=
    suspending_of_not_direct kept.connected apart
  have guarded :
      (course.state.reschedule fun scheduler =>
        (change scheduler).push (.answered party)).Guarded := {
    orderly := orderly
    free := fun direct => absurd direct apart }
  have asked := kept.reschedule guarded
  have proceeded : (course.reschedule change).proceed party =
      { course.reschedule fun scheduler => (change scheduler).push (.answered party) with
        read := none } := by
    have sameSource : (course.reschedule change).state.source = .suspending := suspending
    have sameApart : (course.reschedule change).state.source ≠ .direct := apart
    rw [Course.proceed, if_neg sameApart, Dispatcher.proceed, sameSource]
    rfl
  rw [proceeded]
  exact {
    attentive := asked.attentive
    connected := asked.connected
    stocked := asked.stocked
    guarded := asked.guarded
    tables := asked.tables
    built := asked.built.of_same rfl rfl rfl
    read := fun _ found => by cases found
    upToDate := .inr (.inr (.inr ⟨held, fun _ found => by cases found⟩))
    followed := fun _ => .inl fun _ found => by cases found }

/-- Somebody who begins a refresh gets the lock or waits for it. -/
theorem steady_enter (kept : Kept outside course) (party : Party) :
    Steady outside (course.enter party) := by
  unfold Course.enter
  cases free : course.state.scheduler.isFree with
  | false =>
      have guarded :
          (course.state.reschedule fun scheduler => scheduler.enqueue party).Guarded := {
        orderly := Scheduler.orderly_enqueue kept.guarded.orderly free party
        free := fun direct => by cases free.symm.trans (kept.guarded.free direct) }
      have underway : (course.state.scheduler.enqueue party).Underway :=
        .inr (List.append_ne_nil_of_right_ne_nil _ (List.cons_ne_nil _ _))
      exact ⟨kept.reschedule guarded, .inr (.inl underway), fun _ => .inr underway⟩
  | true =>
      rw [if_pos rfl]
      by_cases direct : course.state.source = .direct
      · let holding := course.reschedule Scheduler.hold
        have attentive : holding.state.Attentive := kept.attentive.of_leaves (.refl _)
        have connected : holding.state.Connected outside := kept.connected.of_same rfl rfl rfl
        have stocked : holding.state.Stocked := kept.stocked.of_same rfl rfl
        have orderly : holding.state.scheduler.release.Orderly := by
          have released : holding.state.scheduler.release = course.state.scheduler :=
            Scheduler.release_hold_of_isFree free
          rw [released]
          exact kept.guarded.orderly
        obtain ⟨-, nobody⟩ := Scheduler.isFree_iff.mp free
        have directly : holding.state.source = .direct := direct
        rw [Course.proceed, if_pos directly]
        exact steady_conclude attentive connected stocked (fits_now stocked) orderly
          (fun _ => nobody) (.inl rfl) party
      · exact steady_ask kept direct rfl (Scheduler.orderly_ask kept.guarded.orderly free party)

theorem steady_begin (kept : Kept outside course) {front back : List Wakeup} {job : Nat}
    (ready : course.state.scheduler.ready = front ++ .begin job :: back) :
    Steady outside
      ((course.reschedule fun scheduler => scheduler.take front back).enter (.job job)) := by
  apply steady_enter
  apply kept.reschedule
  exact {
    orderly := Scheduler.orderly_take_begin kept.guarded.orderly ready
    free := kept.guarded.free }

theorem steady_grant (kept : Kept outside course) {front back : List Wakeup} {party : Party}
    (ready : course.state.scheduler.ready = front ++ .granted party :: back) :
    Steady outside
      ((course.reschedule fun scheduler =>
        (scheduler.take front back).grant party).proceed party) := by
  have granted : .granted party ∈ course.state.scheduler.ready := by simp [ready]
  obtain ⟨-, waiting⟩ := Scheduler.of_mem_granted kept.guarded.orderly granted
  have apart : course.state.source ≠ .direct := by
    intro direct
    exact waiting (Scheduler.isFree_iff.mp (kept.guarded.free direct)).2
  exact steady_ask kept apart rfl (Scheduler.orderly_grant kept.guarded.orderly ready)

theorem steady_answer (steady : Steady outside course) {front back : List Wakeup}
    {party : Party} {snapshot : Snapshot}
    (ready : course.state.scheduler.ready = front ++ .answered party :: back)
    (read : course.read = some snapshot) :
    Steady outside
      ((course.reschedule fun scheduler => scheduler.take front back).conclude party
        snapshot) := by
  have answered : .answered party ∈ course.state.scheduler.ready := by simp [ready]
  have held := Scheduler.held_of_mem_answered steady.guarded.orderly answered
  refine steady_conclude ?_ ?_ ?_ ?_ ?_ ?_ ?_ party
  · exact steady.attentive.of_leaves (.refl _)
  · exact steady.connected.of_same rfl rfl rfl
  · exact steady.stocked.of_same rfl rfl
  · exact (steady.read snapshot read).of_same rfl rfl rfl
  · exact Scheduler.orderly_release steady.guarded.orderly ready
  · intro direct
    exact (Scheduler.isFree_iff.mp (steady.guarded.free direct)).2
  · rcases steady.followed held with current | ⟨job, member⟩ | others
    · exact .inl (current snapshot read)
    · have left : .begin job ∈ front ++ back := by
        rw [ready] at member
        simpa using member
      exact .inr (.inl ⟨job, left⟩)
    · exact .inr (.inr others)

theorem steady_read (steady : Steady outside course)
    (held : course.state.scheduler.held = true) :
    Steady outside { course with read := some course.now } := by
  have current : IsCurrent { course with read := some course.now } := by
    intro snapshot found
    cases found
    rfl
  exact {
    attentive := steady.attentive
    connected := steady.connected
    stocked := steady.stocked
    guarded := steady.guarded
    tables := steady.tables
    built := steady.built.of_same rfl rfl rfl
    read := by
      intro snapshot found
      cases found
      exact (fits_now steady.stocked).of_same rfl rfl rfl
    upToDate := .inr (.inr (.inr ⟨held, current⟩))
    followed := fun _ => .inl current }

/-- Jobs may be added, and the schedule may change where it concerns no refresh. -/
theorem steady_reschedule (steady : Steady outside course) {change : Scheduler → Scheduler}
    (orderly : (change course.state.scheduler).Orderly)
    (held : (change course.state.scheduler).held = course.state.scheduler.held)
    (waiting : (change course.state.scheduler).waiting = course.state.scheduler.waiting)
    (begins : ∀ job, .begin job ∈ course.state.scheduler.ready →
      .begin job ∈ (change course.state.scheduler).ready) :
    Steady outside (course.reschedule change) := by
  have guarded : (course.state.reschedule change).Guarded := {
    orderly := orderly
    free := by
      intro direct
      obtain ⟨unheld, nobody⟩ := Scheduler.isFree_iff.mp (steady.guarded.free direct)
      exact Scheduler.isFree_iff.mpr ⟨held.trans unheld, waiting.trans nobody⟩ }
  have underway : course.state.scheduler.Underway →
      (change course.state.scheduler).Underway := by
    rintro (⟨job, member⟩ | others)
    · exact .inl ⟨job, begins job member⟩
    · exact .inr (waiting ▸ others)
  refine ⟨steady.toKept.reschedule guarded, ?_, ?_⟩
  · rcases steady.upToDate with same | under | needed | ⟨isHeld, current⟩
    · exact .inl same
    · exact .inr (.inl (underway under))
    · exact .inr (.inr (.inl needed))
    · exact .inr (.inr (.inr ⟨held.trans isHeld, current⟩))
  · intro isHeld
    rcases steady.followed (held.symm.trans isHeld) with current | under
    · exact .inl current
    · exact .inr (underway under)

theorem steady_tend (steady : Steady outside course) {change : Scheduler → Scheduler}
    (tends : Scheduler.Tends course.state.scheduler (change course.state.scheduler)) :
    Steady outside (course.reschedule change) :=
  steady_reschedule steady (tends.orderly steady.guarded.orderly) tends.held tends.waiting
    fun _ => (tends.mem_ready rfl).mpr

theorem steady_spawn (steady : Steady outside course) :
    Steady outside (course.reschedule Scheduler.beginJob) := by
  have begun : course.state.scheduler.beginJob.ready =
      course.state.scheduler.ready ++ [course.state.scheduler.jobs].map .begin := rfl
  exact steady_reschedule steady
    (Scheduler.orderly_begins steady.guarded.orderly rfl rfl begun) rfl rfl
    fun _ => List.mem_append_left _

theorem Guarded.of_alerted (guarded : before.Guarded) (alerted : Alerted before after) :
    after.Guarded where
  orderly := by
    obtain ⟨begun, ready⟩ := alerted.begins
    exact Scheduler.orderly_begins guarded.orderly alerted.held alerted.waiting ready
  free := by
    intro direct
    have free := guarded.free (alerted.source.symm.trans direct)
    obtain ⟨unheld, nobody⟩ := Scheduler.isFree_iff.mp free
    exact Scheduler.isFree_iff.mpr ⟨alerted.held.trans unheld, alerted.waiting.trans nobody⟩

theorem Snapshot.Fits.of_event {snapshot : Snapshot} (fits : snapshot.Fits course)
    (plugins : after.plugins = course.state.plugins) :
    snapshot.Fits (course.requested (after, .ok true)) where
  past := Nat.le_succ_of_le fits.past
  same := fun same => absurd (same ▸ fits.past) (Nat.not_succ_le_self _)
  known := by
    intro handle member
    exact plugins.symm ▸ fits.known handle member

theorem steady_event (steady : Steady outside course) {registered : PluginTables}
    (stocked : Stocked { course.state with registered })
    {topic : Topic} (ofPlugins : topic ∈ Topic.ofPlugins) (payload : List Value) :
    Steady outside
      (course.requested (announce topic payload { course.state with registered }, .ok true)) := by
  let changed : Dispatcher := { course.state with registered }
  let after := announce topic payload changed
  have follows : changed.FollowsPlugins := steady.attentive.follows
  have heeded : (topic, Subscriber.refresher) ∈ changed.subscriptions :=
    steady.attentive.heeds topic ofPlugins
  have alerted : Alerted changed after := alerted_announce follows topic payload
  have asked : after.Asked := asked_announce follows heeded payload
  have guarded : changed.Guarded := ⟨steady.guarded.orderly, steady.guarded.free⟩
  have isOutside (noLoop : after.hasLoop = false) : outside = true := by
    rw [← Bool.not_eq_false]
    intro inside
    cases noLoop.symm.trans (alerted.hasLoop.trans (steady.connected.inside inside))
  have tables (silent : after.Silent) :
      after.tables = tablesOf after.plugins course.built.handles := by
    have silentBefore : changed.Silent := alerted.leaves.silent silent
    have unchanged : after.tables = changed.tables :=
      tables_announce_of_silent silentBefore topic payload
    rw [unchanged, alerted.plugins]
    exact steady.tables silentBefore
  exact {
    attentive := steady.attentive.of_leaves alerted.leaves
    connected :=
      steady.connected.of_same alerted.source alerted.sourceFailure alerted.hasLoop
    stocked := stocked.of_same alerted.plugins alerted.registered
    guarded := guarded.of_alerted alerted
    tables := tables
    built := steady.built.of_event alerted.plugins
    read := fun snapshot found => (steady.read snapshot found).of_event alerted.plugins
    upToDate := by
      rcases asked with job | ⟨noLoop, needed⟩
      · exact .inr (.inl (.inl job))
      · exact .inr (.inr (.inl ⟨isOutside noLoop, needed⟩))
    followed := by
      intro held
      rcases asked with job | ⟨noLoop, -⟩
      · exact .inr (.inl job)
      · have direct := steady.connected.direct (isOutside noLoop)
        have unheld := (Scheduler.isFree_iff.mp (steady.guarded.free direct)).1
        cases (alerted.held.trans unheld).symm.trans held }

theorem Stocked.known_entry (stocked : before.Stocked) {sort : PluginSort} {entry : Value × Nat}
    (member : entry ∈ before.registered.ofSort sort) : Known before.plugins entry.2 :=
  stocked.known _ (mem_pluginHandles.mpr ⟨sort, entry, member, rfl⟩)

theorem stocked_setSort (stocked : before.Stocked) (sort : PluginSort)
    {handles : List (Value × Nat)} (known : ∀ entry ∈ handles, Known before.plugins entry.2) :
    Stocked { before with registered := before.registered.setSort handles sort } where
  normalizable := stocked.normalizable
  known := by
    intro handle listed
    obtain ⟨other, entry, member, rfl⟩ := mem_pluginHandles.mp listed
    rw [ofSort_setSort] at member
    split at member
    · exact known entry member
    · exact stocked.known_entry member

theorem stocked_store (stocked : before.Stocked) (sort : PluginSort) {handle : Nat}
    {plugin : Plugin} (present : before.plugin? handle = some plugin)
    (keyed : plugin.id.isKey = true) :
    Stocked
      { before with
        registered := before.registered.setSort
          (Table.store plugin.id handle (before.registered.ofSort sort)) sort } := by
  apply stocked_setSort stocked
  intro entry member
  rcases Table.mem_store member with earlier | ⟨same, -⟩
  · exact stocked.known_entry earlier
  · exact same ▸ ⟨plugin, present, keyed⟩

theorem stocked_remove (stocked : before.Stocked) (id : Value) (sort : PluginSort) :
    Stocked
      { before with
        registered := before.registered.setSort
          (Table.remove id (before.registered.ofSort sort)) sort } := by
  apply stocked_setSort stocked
  intro entry member
  exact stocked.known_entry ((Table.remove_sublist id _).subset member)

theorem requested_of_refused {outcome : Except Fault Bool} (refused : outcome ≠ .ok true) :
    course.requested (course.state, outcome) = course := by
  rcases outcome with fault | ⟨- | -⟩
  · rfl
  · rfl
  · exact absurd rfl refused

theorem steady_register (steady : Steady outside course) (handle : Option Nat)
    (sort : PluginSort) :
    Steady outside (course.requested (course.state.registerPlugin handle sort)) := by
  rcases registerPlugin_cases course.state handle sort with
    ⟨outcome, same, refused⟩ | ⟨own, plugin, present, keyed, accepted⟩
  · rw [same, requested_of_refused refused]
    exact steady
  · rw [accepted]
    exact steady_event steady (stocked_store steady.stocked sort present keyed) (by decide) _

theorem steady_unregister (steady : Steady outside course) (id : Value) (sort : PluginSort) :
    Steady outside (course.requested (course.state.unregisterPlugin id sort)) := by
  rcases unregisterPlugin_cases course.state id sort with ⟨outcome, same, refused⟩ | accepted
  · rw [same, requested_of_refused refused]
    exact steady
  · rw [accepted]
    exact steady_event steady (stocked_remove steady.stocked id sort) (by decide) _

/-- The state may change its plugins as long as they offer the same. -/
theorem steady_of_keepsOffers (steady : Steady outside course)
    (same : after = { course.state with plugins := after.plugins })
    (normalizable : ∀ plugin ∈ after.plugins, plugin.IsNormalizable)
    (keeps : KeepsOffers course.state.plugins after.plugins) :
    Steady outside { course with state := after } := by
  have registered : after.registered = course.state.registered := by rw [same]
  have handles : after.pluginHandles = course.state.pluginHandles := by
    rw [pluginHandles, registered, pluginHandles]
  have enabled := enabledHandles_of_keepsOffers keeps registered steady.stocked.known
  have fits {snapshot : Snapshot} (old : snapshot.Fits course) :
      snapshot.Fits { course with state := after } := {
    past := old.past
    same := fun events => (old.same events).trans enabled.symm
    known := fun handle member => keeps.known (old.known handle member) }
  have scheduler : after.scheduler = course.state.scheduler := by rw [same]
  have source : after.source = course.state.source := by rw [same]
  have needs : after.needsRefresh = course.state.needsRefresh := by rw [same]
  have leaves : Leaves course.state.subscriptions after.subscriptions := by
    rw [same]
    exact .refl _
  have tables (silent : after.Silent) :
      after.tables = tablesOf after.plugins course.built.handles := by
    rw [keeps.tablesOf_eq steady.built.known, ← steady.tables (leaves.silent silent), same]
  exact {
    attentive := steady.attentive.of_leaves leaves
    connected := steady.connected.of_same source (by rw [same]) (by rw [same])
    stocked := {
      normalizable := normalizable
      known := by
        rw [handles]
        exact fun handle member => keeps.known (steady.stocked.known handle member) }
    guarded := {
      orderly := scheduler ▸ steady.guarded.orderly
      free := fun direct => scheduler ▸ steady.guarded.free (source.symm.trans direct) }
    tables := tables
    built := fits steady.built
    read := fun snapshot found => fits (steady.read snapshot found)
    upToDate := by
      simp only [scheduler, needs]
      exact steady.upToDate
    followed := by
      simp only [scheduler]
      exact steady.followed }

theorem steady_startPlugin (steady : Steady outside course) (handle : Nat) :
    Steady outside { course with state := (course.state.startPlugin handle).1 } := by
  refine steady_of_keepsOffers steady ?_
    (isNormalizable_startPlugin steady.stocked.normalizable handle)
    (keepsOffers_startPlugin course.state handle)
  rcases startPlugin_cases course.state handle with same | ⟨plugin, -, started⟩
  · rw [same]
  · rw [started]
    rfl

theorem steady_addPlugin (steady : Steady outside course) {plugin : Plugin}
    (normalizable : plugin.IsNormalizable) :
    Steady outside { course with state := (course.state.addPlugin plugin).1 } := by
  refine steady_of_keepsOffers steady rfl ?_ (keepsOffers_addPlugin course.state plugin)
  intro other member
  rcases List.mem_append.mp member with earlier | new
  · exact steady.stocked.normalizable other earlier
  · cases List.mem_singleton.mp new
    exact normalizable

theorem steady_runLoop (steady : Steady true course) (hasLoop : Bool) :
    Steady true { course with state := { course.state with hasLoop } } where
  attentive := steady.attentive.of_leaves (.refl _)
  connected := {
    present := steady.connected.present
    answers := steady.connected.answers
    inside := fun always => by cases always
    direct := steady.connected.direct }
  stocked := ⟨steady.stocked.normalizable, steady.stocked.known⟩
  guarded := ⟨steady.guarded.orderly, steady.guarded.free⟩
  tables := steady.tables
  built := steady.built.of_same rfl rfl rfl
  read := fun snapshot found => (steady.read snapshot found).of_same rfl rfl rfl
  upToDate := steady.upToDate
  followed := steady.followed

theorem steady_of_step (steady : Steady outside course) (step : Step outside course next) :
    Steady outside next := by
  cases step with
  | call party => exact steady_enter steady.toKept party
  | spawn => exact steady_spawn steady
  | begin ready => exact steady_begin steady.toKept ready
  | grant ready => exact steady_grant steady.toKept ready
  | read held => exact steady_read steady held
  | answer ready read => exact steady_answer steady ready read
  | tend tends => exact steady_tend steady tends
  | register handle sort => exact steady_register steady handle sort
  | unregister id sort => exact steady_unregister steady id sort
  | startOne handle => exact steady_startPlugin steady handle
  | started => exact steady_event steady steady.stocked (by decide) []
  | build normalizable => exact steady_addPlugin steady normalizable
  | runLoop allowed hasLoop =>
      subst allowed
      exact steady_runLoop steady hasLoop

theorem steady_of_runs (steady : Steady outside course) (runs : Runs outside course next) :
    Steady outside next := by
  induction runs with
  | refl => exact steady
  | tail _ step induction => exact steady_of_step induction step

end ChatDispatch.Dispatcher
