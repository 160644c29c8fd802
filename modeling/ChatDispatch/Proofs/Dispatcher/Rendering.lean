import ChatDispatch.Proofs.CommandTables.Aligned
import ChatDispatch.Proofs.Dispatcher.Ending

/-!
# What is shown when the commands have changed

A listener that shows the commands reads the tables when it is told that they have changed.
Other listeners may register commands in between, which is told in turn, so what was shown last
is up to date once an announcement has come to its end.  Announcements have to nest deep enough
for this.  They do, as every registration that succeeds leaves one listener fewer whose command
has no handler.

A declared command gets its usage only after it has been told that the commands have changed.
-/

namespace ChatDispatch

open CommandTables

/-- The name under which a subscriber notes events. -/
def Subscriber.noteName? : Subscriber → Option String
  | .recorder => some recorderName
  | .refresher => none
  | .listener ⟨name, _, _⟩ => some name

/-- Whether a subscriber changes the tables, if at all, by registering a command that can be a
key. -/
def Subscriber.isKeyed : Subscriber → Bool
  | .listener ⟨_, _, .register _ command _⟩ => command.isKey
  | subscriber => !subscriber.overrides

/-- Whether a subscriber is to register a command that has no handler. -/
def Subscriber.isUnserved (tables : CommandTables) : Subscriber → Bool
  | .listener ⟨_, _, .register agent command _⟩ => !(tables.handler? agent command).isSome
  | _ => false

theorem overrides_of_isKeyed {subscriber : Subscriber} (keyed : subscriber.isKeyed = true) :
    subscriber.overrides = false := by
  match subscriber with
  | .recorder => rfl
  | .refresher => rfl
  | .listener ⟨_, _, .none⟩ => rfl
  | .listener ⟨_, _, .fail⟩ => rfl
  | .listener ⟨_, _, .leave⟩ => rfl
  | .listener ⟨_, _, .register _ _ _⟩ => rfl
  | .listener ⟨_, _, .unregister _ _⟩ => cases keyed
  | .listener ⟨_, _, .describe _⟩ => cases keyed

/-- Whether it was noted under a name that the commands have changed: of all events about
commands, this one has no payload. -/
def Delivery.tellsChange (name : String) (note : Delivery) : Bool :=
  decide (note.listener = name) && note.payload.isEmpty

namespace Dispatcher

/-- The tables that could be read when it was last noted under a name, after so many other
notes, that the commands have changed. -/
def lastSeen (name : String) (earlier : Nat) (state : Dispatcher) : Option CommandTables :=
  ((state.deliveries.drop earlier).reverse.find? (·.tellsChange name)).map (·.tables)

/-- What could be read last are the tables as they are now. -/
def Shown (name : String) (earlier : Nat) (state : Dispatcher) : Prop :=
  state.lastSeen name earlier = some state.tables

instance (name : String) (earlier : Nat) (state : Dispatcher) :
    Decidable (state.Shown name earlier) :=
  inferInstanceAs (Decidable (_ = some state.tables))

variable {state : Dispatcher} {name : String} {earlier : Nat}

theorem lastSeen_record (enough : earlier ≤ state.deliveries.length) (listener : String)
    (topic : Topic) (payload : List Value) :
    (state.record listener topic payload).lastSeen name earlier =
      if decide (listener = name) && payload.isEmpty then some state.tables
      else state.lastSeen name earlier := by
  simp only [lastSeen, record, List.drop_append_of_le_length enough, List.reverse_append,
    List.reverse_singleton, List.singleton_append, List.find?_cons, Delivery.tellsChange]
  cases decide (listener = name) && payload.isEmpty <;> rfl

theorem shown_record (enough : earlier ≤ state.deliveries.length) {listener : String}
    {payload : List Value} (told : state.Shown name earlier ∨ listener = name ∧ payload = [])
    (topic : Topic) : (state.record listener topic payload).Shown name earlier := by
  rw [Shown, lastSeen_record enough]
  split
  · rfl
  · rename_i other
    rcases told with shown | ⟨rfl, rfl⟩
    · exact shown
    · simp at other

/-- A property that no step of an announcement matters to. -/
structure Abides (holds : Dispatcher → Prop) : Prop where
  tables : ∀ {state : Dispatcher} (tables : CommandTables),
    holds state → holds { state with tables }
  counted : ∀ {state : Dispatcher} (nextCallable : Nat),
    holds state → holds { state with nextCallable }
  record : ∀ {state : Dispatcher} (listener : String) (topic : Topic) (payload : List Value),
    holds state → holds (state.record listener topic payload)
  schedule : ∀ {state : Dispatcher}, holds state → holds state.scheduleRefresh
  leave : ∀ {state : Dispatcher} (topic : Topic) {subscriber : Subscriber},
    subscriber.stays = false → holds state → holds (state.unsubscribe topic subscriber)

namespace Abides

variable {holds : Dispatcher → Prop}

theorem addHandlerWith (abides : Abides holds) {announce : Announcement}
    (keeps : ∀ {state : Dispatcher} (topic : Topic) (payload : List Value),
      holds state → holds (announce topic payload state))
    (quiet : Bool) (agent command : Value) (handler : Option Handler) (before : holds state) :
    holds (Dispatcher.addHandlerWith announce quiet agent command handler state).1 := by
  have stored := abides.tables (state.tables.addHandler agent command handler).1 before
  have announced := keeps .commandRegistered (commandPayload agent command) stored
  unfold Dispatcher.addHandlerWith
  dsimp only
  split
  · split
    · exact announced
    · exact keeps .commandsChanged [] announced
  · exact stored

theorem removeHandlerWith (abides : Abides holds) {announce : Announcement}
    (keeps : ∀ {state : Dispatcher} (topic : Topic) (payload : List Value),
      holds state → holds (announce topic payload state))
    (agent command : Value) (before : holds state) :
    holds (Dispatcher.removeHandlerWith announce agent command state).1 := by
  have removed := abides.tables (state.tables.remove agent command).1 before
  unfold Dispatcher.removeHandlerWith
  dsimp only
  split
  · exact keeps .commandsChanged [] (keeps .commandUnregistered _ removed)
  · exact removed

theorem deliver (abides : Abides holds) {announce : Announcement}
    (keeps : ∀ {state : Dispatcher} (topic : Topic) (payload : List Value),
      holds state → holds (announce topic payload state))
    (topic : Topic) (payload : List Value) (subscriber : Subscriber) (before : holds state) :
    holds (Dispatcher.deliver announce topic payload state subscriber) := by
  cases subscriber with
  | recorder => exact abides.record recorderName topic payload before
  | refresher => exact abides.schedule before
  | listener listener =>
      obtain ⟨name, first, reaction⟩ := listener
      have recorded := abides.record name first payload before
      cases reaction with
      | none => exact recorded
      | fail => exact recorded
      | leave => exact abides.leave first rfl recorded
      | register agent command handler =>
          exact abides.addHandlerWith keeps false agent command _ (abides.counted _ recorded)
      | unregister agent command => exact abides.removeHandlerWith keeps agent command recorded
      | describe usage => exact abides.tables _ recorded

theorem announceWithin (abides : Abides holds) (fuel : Nat) (topic : Topic)
    (payload : List Value) (before : holds state) :
    holds (Dispatcher.announceWithin fuel topic payload state) := by
  induction fuel generalizing state topic payload with
  | zero => exact before
  | succ fuel induction =>
      suffices told : ∀ (subscribers : List Subscriber) (state : Dispatcher), holds state →
          holds (subscribers.foldl
            (Dispatcher.deliver (Dispatcher.announceWithin fuel) topic payload) state) from
        told _ state before
      intro subscribers
      induction subscribers with
      | nil => exact fun _ before => before
      | cons subscriber rest inner =>
          intro state before
          exact inner _ (abides.deliver (fun topic payload => induction topic payload) topic
            payload subscriber before)

theorem ignores (abides : Abides holds) : Ignores holds where
  tables := abides.tables
  announce := fun topic payload before => abides.announceWithin _ topic payload before

end Abides

/-- Somebody who stays notes under a name that the commands have changed, listeners change the
tables only by registering commands that can be keys, and there are so many notes at least. -/
structure Attended (name : String) (earlier : Nat) (state : Dispatcher) : Prop where
  follows : state.FollowsPlugins
  keyed : ∀ entry ∈ state.subscriptions, entry.2.isKeyed = true
  attending : ∃ subscriber : Subscriber, (.commandsChanged, subscriber) ∈ state.subscriptions ∧
    subscriber.stays = true ∧ subscriber.noteName? = some name
  enough : earlier ≤ state.deliveries.length

theorem Attended.lasting (attended : Attended name earlier state) : state.Lasting :=
  fun entry member => overrides_of_isKeyed (attended.keyed entry member)

theorem Attended.of_same {before after : Dispatcher} (attended : Attended name earlier before)
    (subscriptions : after.subscriptions = before.subscriptions)
    (enough : earlier ≤ after.deliveries.length) : Attended name earlier after where
  follows := fun entry member => attended.follows entry (subscriptions ▸ member)
  keyed := fun entry member => attended.keyed entry (subscriptions ▸ member)
  attending := subscriptions ▸ attended.attending
  enough := enough

theorem abides_attended : Abides (Attended name earlier) where
  tables := fun _ attended => attended.of_same rfl attended.enough
  counted := fun _ attended => attended.of_same rfl attended.enough
  record := fun {state} listener topic payload attended => by
    refine attended.of_same rfl (Nat.le_trans attended.enough ?_)
    rw [record, List.length_append]
    exact Nat.le_add_right _ _
  schedule := fun attended => by
    unfold scheduleRefresh
    split
    · exact attended.of_same rfl attended.enough
    · exact attended.of_same rfl attended.enough
  leave := fun {state} topic {subscriber} leaving attended => by
    have leaves := Leaves.erase state.subscriptions topic leaving
    obtain ⟨attendant, subscribed, stays, named⟩ := attended.attending
    exact {
      follows := attended.follows.of_leaves leaves
      keyed := fun entry member => attended.keyed entry (leaves.sublist.subset member)
      attending := ⟨attendant, leaves.stays _ subscribed stays, stays, named⟩
      enough := attended.enough }

/-- How many listeners are to register a command that has no handler. -/
def unserved (state : Dispatcher) : Nat :=
  state.subscriptions.countP fun entry => entry.2.isUnserved state.tables

theorem isUnserved_of_grows {before after : Dispatcher} (grows : Grows before after)
    (lasting : before.Lasting) {subscriber : Subscriber}
    (unserved : subscriber.isUnserved after.tables = true) :
    subscriber.isUnserved before.tables = true := by
  cases subscriber with
  | recorder => cases unserved
  | refresher => cases unserved
  | listener listener =>
      obtain ⟨name, topic, reaction⟩ := listener
      cases reaction with
      | none => cases unserved
      | fail => cases unserved
      | leave => cases unserved
      | register agent command handler =>
          rw [Subscriber.isUnserved, Bool.not_eq_true'] at unserved ⊢
          rw [Bool.eq_false_iff] at unserved ⊢
          exact fun present => unserved (grows.isSome_handler? lasting present)
      | unregister agent command => cases unserved
      | describe usage => cases unserved

theorem unserved_le_of_grows {before after : Dispatcher} (grows : Grows before after)
    (lasting : before.Lasting) : after.unserved ≤ before.unserved :=
  Nat.le_trans grows.leaves.sublist.countP_le
    (List.countP_mono_left fun _ _ unserved => isUnserved_of_grows grows lasting unserved)

/-- Of two tests, the one that fails more often has fewer successes. -/
theorem countP_lt_countP {α : Type} {fewer more : α → Bool} {items : List α} {item : α}
    (implies : ∀ item, fewer item = true → more item = true) (member : item ∈ items)
    (succeeds : more item = true) (fails : fewer item = false) :
    items.countP fewer < items.countP more := by
  obtain ⟨front, back, rfl⟩ := List.append_of_mem member
  have inFront : front.countP fewer ≤ front.countP more :=
    List.countP_mono_left fun item _ => implies item
  have inBack : back.countP fewer ≤ back.countP more :=
    List.countP_mono_left fun item _ => implies item
  simp only [List.countP_append, List.countP_cons, succeeds, fails, if_true,
    Bool.false_eq_true, if_false]
  omega

theorem unserved_placeHandler (lasting : state.Lasting) {topic first : Topic} {own : String}
    {agent command : Value}
    (subscribed :
      (topic, Subscriber.listener ⟨own, first, .register agent command handler⟩) ∈
        state.subscriptions)
    (absent : (state.tables.handler? agent command).isSome = false) (handler : Handler) :
    (state.placeHandler agent command handler).unserved < state.unserved := by
  have grows : Grows state (state.placeHandler agent command handler) :=
    grows_placeHandler absent
  refine countP_lt_countP (fun _ unserved => isUnserved_of_grows grows lasting unserved)
    subscribed ?_ ?_
  · rw [Subscriber.isUnserved, absent]
    rfl
  · rw [Subscriber.isUnserved, handler?_placeHandler]
    simp

/-- An announcement of so much fuel keeps up to date what is shown, if it suffices for the
listeners that are not served. -/
def KeepsShown (name : String) (earlier fuel : Nat) : Prop :=
  ∀ {state : Dispatcher}, Attended name earlier state → state.unserved < fuel →
    ∀ topic ∈ Topic.ofCommands, ∀ payload : List Value,
      state.Shown name earlier ∨ topic = .commandsChanged ∧ payload = [] →
        (announceWithin fuel topic payload state).Shown name earlier

variable {fuel : Nat}

/-- A listener's registration that changes the tables is told afterwards. -/
theorem shown_addHandlerWith (keeps : KeepsShown name earlier fuel)
    (attended : Attended name earlier state) (few : state.unserved ≤ fuel)
    {topic first : Topic} {own : String} {agent command : Value}
    (subscribed :
      (topic, Subscriber.listener ⟨own, first, .register agent command handler⟩) ∈
        state.subscriptions)
    (handler : Handler) :
    let after :=
      (addHandlerWith (announceWithin fuel) false agent command (some handler) state).1
    after = state ∨ after.Shown name earlier := by
  intro after
  have keyed : command.isKey = true := attended.keyed _ subscribed
  rcases state.tables.addHandler_cases_of_isKey agent keyed handler with
    ⟨-, absent, stored⟩ | ⟨outcome, notStored, refused⟩
  · right
    let placed := state.placeHandler agent command handler
    let told := announceWithin fuel .commandRegistered (commandPayload agent command) placed
    have same : after = announceWithin fuel .commandsChanged [] told := by
      simp only [after, addHandlerWith, stored]
      rfl
    have placedAttended : Attended name earlier placed := abides_attended.tables _ attended
    have toldAttended : Attended name earlier told :=
      abides_attended.announceWithin fuel _ _ placedAttended
    have grows : Grows placed told :=
      (tells_announceWithin fuel .commandRegistered (by decide) _ placed
        placedAttended.follows).toGrows
    -- The listener itself is served now, so less fuel suffices for the others.
    have fewer : told.unserved < fuel :=
      calc told.unserved ≤ placed.unserved := unserved_le_of_grows grows placedAttended.lasting
        _ < state.unserved := unserved_placeHandler attended.lasting subscribed absent handler
        _ ≤ fuel := few
    rw [same]
    exact keeps toldAttended fewer .commandsChanged (by decide) [] (.inr ⟨rfl, rfl⟩)
  · left
    simp only [after, addHandlerWith, refused]

/-- What is shown stays up to date when a subscriber is told, and becomes so when the subscriber
notes that the commands have changed. -/
theorem shown_deliver (keeps : KeepsShown name earlier fuel)
    (attended : Attended name earlier state) (few : state.unserved ≤ fuel) (topic : Topic)
    {payload : List Value} {subscriber : Subscriber}
    (subscribed : subscriber.alters = true → (topic, subscriber) ∈ state.subscriptions)
    (told : state.Shown name earlier ∨ subscriber.noteName? = some name ∧ payload = []) :
    (deliver (announceWithin fuel) topic payload state subscriber).Shown name earlier := by
  cases subscriber with
  | recorder =>
      exact shown_record attended.enough (told.imp_right (And.imp_left Option.some.inj)) topic
  | refresher =>
      have shown : state.Shown name earlier :=
        told.resolve_right fun noted => by cases noted.1
      rw [deliver, scheduleRefresh]
      split <;> exact shown
  | listener listener =>
      obtain ⟨own, first, reaction⟩ := listener
      let recorded := state.record own first payload
      have shown : recorded.Shown name earlier :=
        shown_record attended.enough (told.imp_right (And.imp_left Option.some.inj)) first
      cases reaction with
      | none => exact shown
      | fail => exact shown
      | leave => exact shown
      | register agent command handler =>
          let counted := { recorded with nextCallable := recorded.nextCallable + 1 }
          have countedAttended : Attended name earlier counted :=
            abides_attended.counted _ (abides_attended.record own first payload attended)
          have sameSubscription : (topic, Subscriber.listener ⟨own, first,
              .register agent command handler⟩) ∈ counted.subscriptions := subscribed rfl
          rcases shown_addHandlerWith keeps countedAttended few sameSubscription
            (.direct { handler with number := recorded.nextCallable }) with unchanged | shownAfter
          · have same : deliver (announceWithin fuel) topic payload state
                (.listener ⟨own, first, .register agent command handler⟩) = counted := unchanged
            rw [same]
            exact shown
          · exact shownAfter
      | unregister agent command => cases attended.keyed _ (subscribed rfl)
      | describe usage => cases attended.keyed _ (subscribed rfl)

/-- Once somebody has noted that the commands have changed, what is shown is up to date. -/
theorem shown_foldl_deliver (keeps : KeepsShown name earlier fuel)
    (attended : Attended name earlier state) (few : state.unserved ≤ fuel) (topic : Topic)
    {payload : List Value} {subscribers : List Subscriber}
    (others : ∀ subscriber ∈ subscribers, subscriber ≠ .refresher)
    (subscribed : ∀ subscriber ∈ subscribers, subscriber.alters = true →
      (topic, subscriber) ∈ state.subscriptions)
    (told : state.Shown name earlier ∨
      (∃ subscriber ∈ subscribers, subscriber.noteName? = some name) ∧ payload = []) :
    (subscribers.foldl (deliver (announceWithin fuel) topic payload) state).Shown
      name earlier := by
  induction subscribers generalizing state with
  | nil => exact told.resolve_right fun noted => by simp at noted
  | cons subscriber rest induction =>
      obtain ⟨other, laterOthers⟩ := List.forall_mem_cons.mp others
      obtain ⟨here, later⟩ := List.forall_mem_cons.mp subscribed
      have lasts (lasting : state.Lasting) : subscriber.overrides = false := by
        rw [Bool.eq_false_iff]
        intro overrides
        cases overrides.symm.trans (lasting _ (here (alters_of_overrides overrides)))
      have toldNext : Told state
          (deliver (announceWithin fuel) topic payload state subscriber) :=
        told_deliver (tells_announceWithin fuel) topic payload other lasts attended.follows
      have nextAttended : Attended name earlier
          (deliver (announceWithin fuel) topic payload state subscriber) :=
        abides_attended.deliver
          (fun topic payload => abides_attended.announceWithin fuel topic payload) topic payload
          subscriber attended
      refine induction nextAttended
        (Nat.le_trans (unserved_le_of_grows toldNext.toGrows attended.lasting) few)
        laterOthers ?_ ?_
      · intro subscriber member alters
        exact toldNext.leaves.stays _ (later subscriber member alters) (stays_of_alters alters)
      · rcases told with shown | ⟨⟨noting, member, named⟩, empty⟩
        · exact .inl (shown_deliver keeps attended few topic here (.inl shown))
        · rcases List.mem_cons.mp member with rfl | among
          · exact .inl (shown_deliver keeps attended few topic here (.inr ⟨named, empty⟩))
          · exact .inr ⟨⟨noting, among, named⟩, empty⟩

/-- By induction on how deep announcements nest: a registration leaves fewer unserved listeners
to the announcements that it makes. -/
theorem keepsShown (name : String) (earlier fuel : Nat) : KeepsShown name earlier fuel := by
  induction fuel with
  | zero => exact fun _ few => absurd few (Nat.not_lt_zero _)
  | succ fuel induction =>
      intro state attended few topic ofCommands payload told
      refine shown_foldl_deliver induction attended (Nat.lt_succ_iff.mp few) topic
        (fun _ => ne_refresher_of_mem_subscribers attended.follows ofCommands) ?_ ?_
      · intro subscriber member _
        obtain ⟨entry, filtered, rfl⟩ := List.mem_map.mp member
        obtain ⟨subscribed, ownTopic⟩ := List.mem_filter.mp filtered
        rw [← of_decide_eq_true ownTopic]
        exact subscribed
      · refine told.imp_right fun change => ⟨?_, change.2⟩
        obtain ⟨subscriber, subscribed, -, named⟩ := attended.attending
        rw [change.1]
        have heeding : subscriber ∈ state.subscribers .commandsChanged :=
          List.mem_map.mpr ⟨_, List.mem_filter.mpr ⟨subscribed, decide_eq_true rfl⟩, rfl⟩
        exact ⟨subscriber, heeding, named⟩

/-- When it has been announced that the commands have changed, what is shown is up to date. -/
theorem shown_announce (attended : Attended name earlier state) :
    (announce .commandsChanged [] state).Shown name earlier := by
  have few : state.unserved ≤ state.nesting + state.subscriptions.length :=
    Nat.le_add_left_of_le List.countP_le_length
  exact keepsShown name earlier _ attended (Nat.lt_succ_of_le few) .commandsChanged (by decide) []
    (.inr ⟨rfl, rfl⟩)

theorem shown_register (attended : Attended name earlier state) {agent command : Value}
    {handler : Option Handler}
    (accepted : (state.register agent command handler).2 = .ok true) :
    (state.register agent command handler).1.Shown name earlier := by
  rcases added : state.tables.addHandler agent command handler with
    ⟨tables, fault | ⟨- | refusal⟩⟩
  · simp only [register, addHandler, addHandlerWith, added] at accepted
    cases accepted
  · have stored : Attended name earlier { state with tables } :=
      abides_attended.tables tables attended
    have told := abides_attended.ignores.announce .commandRegistered
      (commandPayload agent command) stored
    simp only [register, addHandler, addHandlerWith, added]
    exact shown_announce told
  · simp only [register, addHandler, addHandlerWith, added] at accepted
    cases accepted

theorem shown_unregister (attended : Attended name earlier state) {agent command : Value}
    (accepted : (state.unregister agent command).2 = .ok true) :
    (state.unregister agent command).1.Shown name earlier := by
  have removed : Attended name earlier
      { state with tables := (state.tables.remove agent command).1 } :=
    abides_attended.tables _ attended
  have told := abides_attended.ignores.announce .commandUnregistered
    (commandPayload agent command) removed
  unfold unregister removeHandlerWith at accepted ⊢
  dsimp only at accepted ⊢
  split
  · exact shown_announce told
  · rename_i notRemoved
    split at accepted
    · exact absurd ‹_› notRemoved
    · exact absurd accepted notRemoved

theorem attended_result (attended : Attended name earlier state) :
    Attended name earlier
      ((Rebuild.start state).readAll
        (state.enabledHandles.flatMap (readingsOf state.plugins))).1.state :=
  abides_attended.ignores.readAll _ (abides_attended.ignores.start attended)

theorem endures_attended : Endures (Attended name earlier) where
  reschedule := fun _ attended => attended.of_same rfl attended.enough
  conclude := fun {state} party attended => by
    have built := attended_result attended
    obtain ⟨ended, read, -, ⟨fault, -, same⟩ | ⟨-, -, same⟩⟩ :=
      conclude_cases attended.follows party
    · rw [same]
      rw [← read] at built
      exact built.of_same rfl built.enough
    · rw [same]
      rw [← read] at built
      have released : Attended name earlier ended.result.release :=
        built.of_same rfl built.enough
      have told := abides_attended.ignores.announce .commandsChanged [] released
      exact told.of_same rfl told.enough

/-- A rebuild that comes to its end is told when all commands have been stored. -/
theorem shown_conclude (attended : Attended name earlier state) (party : Party) {count : Nat}
    (completed : (state.rebuild state.enabledHandles).2 = .ok count) :
    (conclude party state).Shown name earlier := by
  have built := attended_result attended
  obtain ⟨ended, read, -, ⟨fault, stopped, -⟩ | ⟨-, -, same⟩⟩ :=
    conclude_cases attended.follows party
  · rw [stopped] at completed
    cases completed
  · rw [← read] at built
    have released : Attended name earlier ended.result.release :=
      built.of_same rfl built.enough
    rw [same]
    exact shown_announce released

theorem shown_refresh (awake : state.Awake) (attended : Attended name earlier state)
    (present : state.source ≠ .absent) {count : Nat} (completed : state.refresh.2 = .ok count) :
    state.refresh.1.Shown name earlier := by
  have lasts : Lasts fun state => Attended name earlier state ∧ state.source ≠ .absent :=
    .of_endures endures_attended Attended.follows
  rcases refresh_ends lasts awake ⟨attended, present⟩ with
    ⟨fault, failed⟩ | ⟨prior, both, ended⟩
  · cases failed.symm.trans completed
  · rw [ended] at completed ⊢
    exact shown_conclude both.1 .client completed

theorem usages_register (follows : state.FollowsPlugins) (lasting : state.Lasting)
    (agent command : Value) (handler : Handler) :
    (state.register agent command (some handler)).1.tables.usages = state.tables.usages := by
  rcases state.tables.addHandler_cases agent command handler with
    ⟨-, -, stored⟩ | ⟨handlers, outcome, refused, notStored, -⟩
  · let placed := state.placeHandler agent command handler
    have placedFollows : placed.FollowsPlugins := follows
    have placedLasting : placed.Lasting := lasting
    have registered := told_announce (by decide : Topic.commandRegistered ∈ Topic.ofCommands)
      (commandPayload agent command) placedFollows
    have changed := told_announce (by decide : Topic.commandsChanged ∈ Topic.ofCommands) []
      (registered.followsPlugins placedFollows)
    simp only [register, addHandler, addHandlerWith, stored]
    exact (changed.usages (registered.lasting placedLasting)).trans
      (registered.usages placedLasting)
  · simp only [register, addHandler, addHandlerWith, refused]

/-- Only a usage that is in its place already can be placed without a change. -/
theorem place_eq_self_iff {β : Type} {agent command : Value} {value : β}
    {table : List (Value × List (Value × β))} :
    place agent command value table = table ↔ find? agent command table = some value := by
  constructor
  · intro same
    rw [← same]
    exact find?_place_self agent command value table
  · intro found
    cases known : Table.lookup agent table with
    | none =>
        rw [find?, row, known] at found
        cases found
    | some commands =>
        rw [find?, row, known] at found
        rw [place, row, known]
        exact Table.store_of_lookup (known.trans (congrArg some (Table.store_of_lookup found).symm))

/-- A declared command is told before it gets its usage, so what is shown is up to date only if
the usage was there before. -/
theorem shown_registerCommand_iff (attended : Attended name earlier state)
    {declaration : Declaration} {command : PluginCommand} {id : String}
    (normal : declaration.normalize = .ok command) (named : command.name = .text id)
    (accepted : (state.registerCommand declaration).2 = .ok true) :
    (state.registerCommand declaration).1.Shown name earlier ↔
      state.tables.usage? (.text (splitId id).1) (.text (splitId id).2) =
        some (usageOf declaration command (splitId id).1 (splitId id).2) := by
  let pair := splitId id
  let usage := usageOf declaration command pair.1 pair.2
  let handled :=
    state.register (.text pair.1) (.text pair.2) (some (handlerOf declaration command))
  have stored : handled.2 = .ok true ∧
      state.registerCommand declaration =
        ((handled.1.registerUsage (some usage)).1, .ok true) := by
    rcases registerCommand_cases state declaration with
      ⟨outcome, same, refused⟩ | ⟨other, otherId, otherNormal, otherNamed, cases⟩
    · exact absurd ((congrArg Prod.snd same).symm.trans accepted) refused
    · cases normal.symm.trans otherNormal
      cases named.symm.trans otherNamed
      rcases cases with ⟨notStored, same⟩ | both
      · exact absurd ((congrArg Prod.snd same).symm.trans accepted) notStored
      · exact both
  obtain ⟨isStored, same⟩ := stored
  have shown : handled.1.Shown name earlier := shown_register attended isStored
  have sameUsages : handled.1.tables.usages = state.tables.usages :=
    usages_register attended.follows attended.lasting _ _ _
  have described : (handled.1.registerUsage (some usage)).1.tables =
      { handled.1.tables with
        usages := place usage.agent usage.command usage handled.1.tables.usages } := by
    have placed := CommandTables.addUsage_of_storable
      (show Storable usage.agent usage.command from storable_of_register isStored)
      handled.1.tables
    simp only [registerUsage, placed]
  rw [same, Shown, described]
  have seen : (handled.1.registerUsage (some usage)).1.lastSeen name earlier =
      some handled.1.tables := shown
  rw [seen, Option.some.injEq, usage?, ← find?, ← sameUsages, ← place_eq_self_iff]
  constructor
  · exact fun unchanged => (congrArg CommandTables.usages unchanged).symm
  · exact fun unchanged => congrArg (CommandTables.mk handled.1.tables.handlers) unchanged.symm

/-- Whoever stays and is told when the commands change could read the tables as they are after
the operation, when told last: after a handler has been registered or removed and after a
refresh.  After a command has been declared this is so exactly if its usage was known before.
Listeners may register commands in between, of any names that can be keys, but take nothing
away. -/
theorem changes_are_shown (awake : state.Awake)
    (keyed : ∀ entry ∈ state.subscriptions, entry.2.isKeyed = true) {subscriber : Subscriber}
    (subscribed : (.commandsChanged, subscriber) ∈ state.subscriptions)
    (stays : subscriber.stays = true) (named : subscriber.noteName? = some name) :
    let earlier := state.deliveries.length
    (∀ agent command handler, (state.register agent command handler).2 = .ok true →
      (state.register agent command handler).1.Shown name earlier) ∧
    (∀ agent command, (state.unregister agent command).2 = .ok true →
      (state.unregister agent command).1.Shown name earlier) ∧
    (∀ count, state.source ≠ .absent → state.refresh.2 = .ok count →
      state.refresh.1.Shown name earlier) ∧
    ∀ declaration command id, declaration.normalize = .ok command → command.name = .text id →
      (state.registerCommand declaration).2 = .ok true →
        ((state.registerCommand declaration).1.Shown name earlier ↔
          state.tables.usage? (.text (splitId id).1) (.text (splitId id).2) =
            some (usageOf declaration command (splitId id).1 (splitId id).2)) := by
  intro earlier
  have attended : Attended name earlier state :=
    ⟨awake.follows, keyed, ⟨subscriber, subscribed, stays, named⟩, Nat.le_refl _⟩
  refine ⟨?_, ?_, ?_, ?_⟩
  · exact fun _ _ _ accepted => shown_register attended accepted
  · exact fun _ _ accepted => shown_unregister attended accepted
  · exact fun _ present completed => shown_refresh awake attended present completed
  · exact fun _ _ _ normal named accepted =>
      shown_registerCommand_iff attended normal named accepted

/-- A palette has seen the command that another listener registers when it is told. -/
theorem changes_are_shown_after_nested :
    let palette : Listener := ⟨"palette", .commandsChanged, .none⟩
    let eager : Listener :=
      ⟨"eager", .commandsChanged, .register (.text "x") (.text "y") (.function 0 "" true)⟩
    let state :=
      ((blank.setUp .absent false).subscribe .commandsChanged (.listener palette)).subscribe
        .commandsChanged (.listener eager)
    let after :=
      (state.register (.text "a") (.text "b") (some (.direct (.function 0 "" true)))).1
    after.Shown "palette" state.deliveries.length ∧
      (after.tables.handler? (.text "x") (.text "y")).isSome = true := by
  intro palette eager state after
  have unused : blank.Unused := ⟨rfl, rfl, rfl⟩
  have awake : state.Awake :=
    awake_operateAll (awake_setUp unused .absent false)
      [.subscribe .commandsChanged palette, .subscribe .commandsChanged eager]
  have keyed : ∀ entry ∈ state.subscriptions, entry.2.isKeyed = true := by decide +kernel
  have subscribed : (.commandsChanged, .listener palette) ∈ state.subscriptions := by
    decide +kernel
  have accepted : (state.register (.text "a") (.text "b")
      (some (.direct (.function 0 "" true)))).2 = .ok true := by decide +kernel
  have shown := changes_are_shown awake keyed subscribed rfl rfl
  exact ⟨shown.1 _ _ _ accepted, by decide +kernel⟩

/-- When it is told that a declared command is there, its usage is not.  Besides, a row that
another listener opens for a command that cannot be a key is never told. -/
theorem not_shown_when_declared :
    let eager : Listener :=
      ⟨"eager", .commandsChanged, .register (.text "x") (.list [.int 1]) (.function 0 "" true)⟩
    let state :=
      ((blank.setUp .absent false).subscribe .commandsChanged .recorder).subscribe
        .commandsChanged (.listener eager)
    let declaration := Declaration.mapping [(.text "name", .text "foo")]
    let declared := state.registerCommand declaration
    let seen := declared.1.lastSeen recorderName state.deliveries.length
    let described (tables : CommandTables) := (tables.usage? (.text "core") (.text "foo")).isSome
    let agents (tables : CommandTables) := tables.handlers.map (·.1)
    declared.2 = .ok true ∧ ¬declared.1.Shown recorderName state.deliveries.length ∧
      seen.map described = some false ∧ described declared.1.tables = true ∧
      seen.map agents = some [.text "core"] ∧
      agents declared.1.tables = [.text "core", .text "x"] := by
  decide +kernel

end Dispatcher

end ChatDispatch
