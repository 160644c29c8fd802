import ChatDispatch.Dispatcher.Commands
import ChatDispatch.Proofs.CommandTables

/-!
# What announcements leave as it is

A listener that is told about a command can leave, or change the tables, which announces
further events in the middle of the delivery.  However deep this goes, it comes to little:
handlers of listeners are added, listeners leave, deliveries are noted, and unless a listener
takes something away, the tables keep what they have.  `Told` says so, and every way of telling
somebody satisfies it.

The refreshing of the tables is a subscriber as well, but it only follows events about
plugins.
-/

namespace ChatDispatch

/-- The topics of the events that tell of a stored command. -/
def Topic.ofStoring : List Topic :=
  [.commandRegistered, .commandsChanged]

/-- The topics of the events that tell of a removed command. -/
def Topic.ofRemoving : List Topic :=
  [.commandUnregistered, .commandsChanged]

/-- Whether a subscriber changes the tables when it is told about an event. -/
def Subscriber.alters : Subscriber → Bool
  | .listener ⟨_, _, .register _ _ _⟩ => true
  | .listener ⟨_, _, .unregister _ _⟩ => true
  | .listener ⟨_, _, .describe _⟩ => true
  | _ => false

/-- Whether a subscriber takes something away from the tables when it is told about an event: it
removes a command, or stores a usage in place of another one. -/
def Subscriber.overrides : Subscriber → Bool
  | .listener ⟨_, _, .unregister _ _⟩ => true
  | .listener ⟨_, _, .describe _⟩ => true
  | _ => false

/-- The topics of the events that a subscriber announces when it is told about one. -/
def Subscriber.announces : Subscriber → List Topic
  | .listener ⟨_, _, .register _ _ _⟩ => Topic.ofStoring
  | .listener ⟨_, _, .unregister _ _⟩ => Topic.ofRemoving
  | _ => []

def Subscriber.stays : Subscriber → Bool
  | .listener ⟨_, _, .leave⟩ => false
  | _ => true

namespace Dispatcher

open CommandTables

/-- Only events about plugins make the tables refreshed. -/
def FollowsPlugins (state : Dispatcher) : Prop :=
  ∀ entry ∈ state.subscriptions, entry.2 = .refresher → entry.1 ∈ Topic.ofPlugins

instance (state : Dispatcher) : Decidable state.FollowsPlugins :=
  inferInstanceAs (Decidable (∀ entry ∈ state.subscriptions, _))

/-- No listener takes anything away from the tables. -/
def Lasting (state : Dispatcher) : Prop :=
  ∀ entry ∈ state.subscriptions, entry.2.overrides = false

instance (state : Dispatcher) : Decidable state.Lasting :=
  inferInstanceAs (Decidable (∀ entry ∈ state.subscriptions, entry.2.overrides = false))

/-- Some of those leave who do. -/
structure Leaves (before after : List (Topic × Subscriber)) : Prop where
  sublist : after.Sublist before
  stays : ∀ entry ∈ before, entry.2.stays = true → entry ∈ after

namespace Leaves

variable {before middle after : List (Topic × Subscriber)}

theorem refl (subscriptions : List (Topic × Subscriber)) : Leaves subscriptions subscriptions where
  sublist := List.Sublist.refl _
  stays := fun _ member _ => member

theorem trans (first : Leaves before middle) (second : Leaves middle after) :
    Leaves before after where
  sublist := second.sublist.trans first.sublist
  stays := fun entry member stays => second.stays entry (first.stays entry member stays) stays

theorem erase (subscriptions : List (Topic × Subscriber)) (topic : Topic)
    {subscriber : Subscriber} (leaving : subscriber.stays = false) :
    Leaves subscriptions (subscriptions.erase (topic, subscriber)) where
  sublist := List.erase_sublist
  stays := by
    intro entry member stays
    have apart : entry ≠ (topic, subscriber) := by
      rintro rfl
      cases stays.symm.trans leaving
    exact (List.mem_erase_of_ne apart).mpr member

end Leaves

theorem stays_of_alters {subscriber : Subscriber} (alters : subscriber.alters = true) :
    subscriber.stays = true := by
  match subscriber with
  | .recorder => rfl
  | .refresher => rfl
  | .listener ⟨_, _, .none⟩ => rfl
  | .listener ⟨_, _, .fail⟩ => rfl
  | .listener ⟨_, _, .leave⟩ => cases alters
  | .listener ⟨_, _, .register _ _ _⟩ => rfl
  | .listener ⟨_, _, .unregister _ _⟩ => rfl
  | .listener ⟨_, _, .describe _⟩ => rfl

theorem alters_of_overrides {subscriber : Subscriber} (overrides : subscriber.overrides = true) :
    subscriber.alters = true := by
  match subscriber with
  | .recorder => cases overrides
  | .refresher => cases overrides
  | .listener ⟨_, _, .none⟩ => cases overrides
  | .listener ⟨_, _, .fail⟩ => cases overrides
  | .listener ⟨_, _, .leave⟩ => cases overrides
  | .listener ⟨_, _, .register _ _ _⟩ => cases overrides
  | .listener ⟨_, _, .unregister _ _⟩ => rfl
  | .listener ⟨_, _, .describe _⟩ => rfl

theorem Leaves.lasting_of_after {before after : Dispatcher}
    (leaves : Leaves before.subscriptions after.subscriptions) (lasting : after.Lasting) :
    before.Lasting := by
  intro entry member
  rw [Bool.eq_false_iff]
  intro overrides
  have stays := leaves.stays entry member (stays_of_alters (alters_of_overrides overrides))
  cases overrides.symm.trans (lasting entry stays)

/-- The tables gain handlers, listeners leave, and the rest of the state stays.  Handlers that
are there stay unless a listener takes something away. -/
structure Grows (before after : Dispatcher) : Prop where
  frame :
    after =
      { before with
        tables := after.tables
        subscriptions := after.subscriptions
        deliveries := after.deliveries
        nextCallable := after.nextCallable }
  keeps : before.Lasting → ∀ {agent command : Value} {handler : Handler},
    before.tables.handler? agent command = some handler →
      after.tables.handler? agent command = some handler
  leaves : Leaves before.subscriptions after.subscriptions

namespace Grows

variable {before middle after : Dispatcher}

theorem refl (state : Dispatcher) : Grows state state where
  frame := rfl
  keeps := fun _ => id
  leaves := .refl _

theorem followsPlugins (grows : Grows before after) (follows : before.FollowsPlugins) :
    after.FollowsPlugins :=
  fun entry member => follows entry (grows.leaves.sublist.subset member)

theorem lasting (grows : Grows before after) (lasting : before.Lasting) : after.Lasting :=
  fun entry member => lasting entry (grows.leaves.sublist.subset member)

theorem trans (first : Grows before middle) (second : Grows middle after) :
    Grows before after where
  frame := by
    rw [second.frame, first.frame]
  keeps := fun lasting _ _ _ present =>
    second.keeps (first.lasting lasting) (first.keeps lasting present)
  leaves := first.leaves.trans second.leaves

theorem isSome_handler? (grows : Grows before after) (lasting : before.Lasting)
    {agent command : Value} (present : (before.tables.handler? agent command).isSome = true) :
    (after.tables.handler? agent command).isSome = true := by
  obtain ⟨handler, found⟩ := Option.isSome_iff_exists.mp present
  exact Option.isSome_iff_exists.mpr ⟨handler, grows.keeps lasting found⟩

theorem plugins (grows : Grows before after) : after.plugins = before.plugins := by
  rw [grows.frame]

theorem registered (grows : Grows before after) : after.registered = before.registered := by
  rw [grows.frame]

theorem failures (grows : Grows before after) : after.failures = before.failures := by
  rw [grows.frame]

theorem needsRefresh (grows : Grows before after) :
    after.needsRefresh = before.needsRefresh := by
  rw [grows.frame]

theorem source (grows : Grows before after) : after.source = before.source := by
  rw [grows.frame]

theorem scheduler (grows : Grows before after) : after.scheduler = before.scheduler := by
  rw [grows.frame]

end Grows

/-- What telling listeners about commands can change: the handlers that the tables gain are
those of listeners. -/
structure Told (before after : Dispatcher) : Prop extends Grows before after where
  usages : before.Lasting → after.tables.usages = before.tables.usages
  adds : ∀ {agent command : Value} {handler : Handler},
    after.tables.handler? agent command = some handler →
      before.tables.handler? agent command = some handler ∨
        ∃ callable, handler = .direct callable

namespace Told

variable {before middle after : Dispatcher}

theorem refl (state : Dispatcher) : Told state state where
  toGrows := .refl state
  usages := fun _ => rfl
  adds := Or.inl

theorem trans (first : Told before middle) (second : Told middle after) : Told before after where
  toGrows := first.toGrows.trans second.toGrows
  usages := fun lasting => (second.usages (first.lasting lasting)).trans (first.usages lasting)
  adds := by
    intro agent command handler present
    rcases second.adds present with earlier | own
    · exact first.adds earlier
    · exact .inr own

end Told

def withHandlers (state : Dispatcher) (handlers : List (Value × List (Value × Handler))) :
    Dispatcher :=
  { state with tables := { state.tables with handlers } }

def placeHandler (state : Dispatcher) (agent command : Value) (handler : Handler) : Dispatcher :=
  state.withHandlers (place agent command handler state.tables.handlers)

theorem grows_withHandlers {state : Dispatcher}
    {handlers : List (Value × List (Value × Handler))}
    (same : ∀ agent command,
      find? agent command handlers = find? agent command state.tables.handlers) :
    Grows state (state.withHandlers handlers) where
  frame := rfl
  keeps := fun _ _ _ _ present => (same _ _).trans present
  leaves := .refl _

theorem handler?_placeHandler (state : Dispatcher) (agent command : Value) (handler : Handler)
    (other otherCommand : Value) :
    (state.placeHandler agent command handler).tables.handler? other otherCommand =
      if agent == other && command == otherCommand then some handler
      else state.tables.handler? other otherCommand :=
  find?_place agent command handler state.tables.handlers other otherCommand

theorem grows_placeHandler {state : Dispatcher} {agent command : Value}
    (absent : (state.tables.handler? agent command).isSome = false) {handler : Handler} :
    Grows state (state.placeHandler agent command handler) where
  frame := rfl
  keeps := fun _ _ _ _ present => find?_place_of_absent absent handler present
  leaves := .refl _

theorem told_record (state : Dispatcher) (listener : String) (topic : Topic)
    (payload : List Value) : Told state (state.record listener topic payload) where
  frame := rfl
  usages := fun _ => rfl
  keeps := fun _ => id
  adds := Or.inl
  leaves := .refl _

theorem told_unsubscribe (state : Dispatcher) (topic : Topic) {subscriber : Subscriber}
    (leaving : subscriber.stays = false) :
    Told state (state.unsubscribe topic subscriber) where
  frame := rfl
  usages := fun _ => rfl
  keeps := fun _ => id
  adds := Or.inl
  leaves := .erase _ topic leaving

/-- An announcement that is told as events about commands should be. -/
def Tells (announce : Announcement) : Prop :=
  ∀ topic ∈ Topic.ofCommands, ∀ (payload : List Value) (state : Dispatcher),
    state.FollowsPlugins → Told state (announce topic payload state)

variable {announce : Announcement}

theorem told_addHandlerWith (tells : Tells announce) (quiet : Bool) (agent command : Value)
    (callable : Callable) {state : Dispatcher} (follows : state.FollowsPlugins) :
    Told state
      (addHandlerWith announce quiet agent command (some (.direct callable)) state).1 := by
  rcases addHandler_cases state.tables agent command (.direct callable) with
    ⟨-, absent, stored⟩ | ⟨handlers, outcome, refused, notStored, same⟩
  · have placed : Told state (state.placeHandler agent command (.direct callable)) := by
      refine ⟨grows_placeHandler absent, fun _ => rfl, ?_⟩
      intro other otherCommand handler present
      rw [handler?_placeHandler] at present
      split at present
      · exact .inr ⟨callable, (Option.some.inj present).symm⟩
      · exact .inl present
    have registered :=
      placed.trans (tells .commandRegistered (by decide) (commandPayload agent command) _
        (placed.followsPlugins follows))
    simp only [addHandlerWith, stored]
    split
    · exact registered
    · exact registered.trans (tells _ (by decide) _ _ (registered.followsPlugins follows))
  · have unchanged : Told state (state.withHandlers handlers) :=
      ⟨grows_withHandlers same, fun _ => rfl, fun present => .inl ((same _ _).symm.trans present)⟩
    simp only [addHandlerWith, refused]
    exact unchanged

theorem grows_addHandlerWith (tells : Tells announce) (quiet : Bool) (agent command : Value)
    (handler : Handler) {state : Dispatcher} (follows : state.FollowsPlugins) :
    Grows state (addHandlerWith announce quiet agent command (some handler) state).1 := by
  rcases addHandler_cases state.tables agent command handler with
    ⟨-, absent, stored⟩ | ⟨handlers, outcome, refused, notStored, same⟩
  · have placed : Grows state (state.placeHandler agent command handler) :=
      grows_placeHandler absent
    have registered :=
      placed.trans (tells .commandRegistered (by decide) (commandPayload agent command) _
        (placed.followsPlugins follows)).toGrows
    simp only [addHandlerWith, stored]
    split
    · exact registered
    · exact registered.trans
        (tells _ (by decide) _ _ (registered.followsPlugins follows)).toGrows
  · simp only [addHandlerWith, refused]
    exact grows_withHandlers same

/-- A change of the tables that takes something away is for a listener that does so. -/
theorem told_of_tables {state : Dispatcher} {tables : CommandTables}
    (overriding : ¬state.Lasting)
    (fewer : ∀ {agent command : Value} {handler : Handler},
      tables.handler? agent command = some handler →
        state.tables.handler? agent command = some handler) :
    Told state { state with tables } where
  frame := rfl
  usages := fun lasting => absurd lasting overriding
  keeps := fun lasting => absurd lasting overriding
  adds := fun present => .inl (fewer present)
  leaves := .refl _

theorem told_removeHandlerWith (tells : Tells announce) (agent command : Value)
    {state : Dispatcher} (overriding : ¬state.Lasting) (follows : state.FollowsPlugins) :
    Told state (removeHandlerWith announce agent command state).1 := by
  have removed : Told state { state with tables := (state.tables.remove agent command).1 } :=
    told_of_tables overriding fun present => handler?_of_remove present
  unfold removeHandlerWith
  rcases outcome : state.tables.remove agent command with ⟨tables, fault | (_ | _)⟩
  · rw [outcome] at removed
    exact removed
  · rw [outcome] at removed
    exact removed
  · rw [outcome] at removed
    have unregistered :=
      removed.trans (tells .commandUnregistered (by decide) (commandPayload agent command) _
        (removed.followsPlugins follows))
    exact unregistered.trans (tells _ (by decide) _ _ (unregistered.followsPlugins follows))

theorem told_react (tells : Tells announce) (listener : Listener) {state : Dispatcher}
    (lasts : state.Lasting → (Subscriber.listener listener).overrides = false)
    (follows : state.FollowsPlugins) : Told state (react announce listener state) := by
  obtain ⟨name, first, reaction⟩ := listener
  cases reaction with
  | none => exact .refl state
  | fail => exact .refl state
  | leave => exact told_unsubscribe state _ rfl
  | register agent command handler =>
      have counted : Told state { state with nextCallable := state.nextCallable + 1 } :=
        ⟨⟨rfl, fun _ => id, .refl _⟩, fun _ => rfl, Or.inl⟩
      exact counted.trans (told_addHandlerWith tells _ _ _ _ follows)
  | unregister agent command =>
      exact told_removeHandlerWith tells agent command (fun lasting => nomatch lasts lasting)
        follows
  | describe usage =>
      exact told_of_tables (fun lasting => nomatch lasts lasting) fun present =>
        (handler?_addUsage state.tables usage _ _).symm.trans present

theorem told_deliver (tells : Tells announce) (topic : Topic) (payload : List Value)
    {subscriber : Subscriber} (other : subscriber ≠ .refresher) {state : Dispatcher}
    (lasts : state.Lasting → subscriber.overrides = false) (follows : state.FollowsPlugins) :
    Told state (deliver announce topic payload state subscriber) := by
  cases subscriber with
  | recorder => exact told_record state _ _ _
  | refresher => contradiction
  | listener listener =>
      have recorded := told_record state listener.name listener.topic payload
      exact recorded.trans (told_react tells listener lasts (recorded.followsPlugins follows))

theorem lasts_of_leaves {before after : Dispatcher} {subscriber : Subscriber}
    {rest : List Subscriber}
    (lasts : before.Lasting → ∀ other ∈ subscriber :: rest, other.overrides = false)
    (leaves : Leaves before.subscriptions after.subscriptions) (lasting : after.Lasting) :
    ∀ other ∈ rest, other.overrides = false :=
  fun other member =>
    lasts (leaves.lasting_of_after lasting) other (List.mem_cons_of_mem _ member)

theorem told_foldl_deliver (tells : Tells announce) (topic : Topic) (payload : List Value)
    {subscribers : List Subscriber} (others : ∀ subscriber ∈ subscribers, subscriber ≠ .refresher)
    {state : Dispatcher}
    (lasts : state.Lasting → ∀ subscriber ∈ subscribers, subscriber.overrides = false)
    (follows : state.FollowsPlugins) :
    Told state (subscribers.foldl (deliver announce topic payload) state) := by
  induction subscribers generalizing state with
  | nil => exact .refl state
  | cons subscriber rest induction =>
      have first := told_deliver tells topic payload (others _ List.mem_cons_self)
        (fun lasting => lasts lasting _ List.mem_cons_self) follows
      exact first.trans
        (induction (fun other member => others other (List.mem_cons_of_mem _ member))
          (lasts_of_leaves lasts first.leaves) (first.followsPlugins follows))

theorem overrides_of_mem_subscribers {state : Dispatcher} {topic : Topic}
    (lasting : state.Lasting) :
    ∀ subscriber ∈ state.subscribers topic, subscriber.overrides = false := by
  intro subscriber member
  obtain ⟨entry, filtered, rfl⟩ := List.mem_map.mp member
  exact lasting entry (List.mem_filter.mp filtered).1

theorem ne_refresher_of_mem_subscribers {state : Dispatcher} (follows : state.FollowsPlugins)
    {topic : Topic} (ofCommands : topic ∈ Topic.ofCommands) {subscriber : Subscriber}
    (member : subscriber ∈ state.subscribers topic) : subscriber ≠ .refresher := by
  rintro rfl
  obtain ⟨entry, filtered, isRefresher⟩ := List.mem_map.mp member
  obtain ⟨subscribed, ownTopic⟩ := List.mem_filter.mp filtered
  have ofPlugins : entry.1 ∈ Topic.ofPlugins := follows entry subscribed isRefresher
  rw [of_decide_eq_true ownTopic] at ofPlugins
  simp only [Topic.ofCommands, List.mem_cons, List.not_mem_nil, or_false] at ofCommands
  rcases ofCommands with rfl | rfl | rfl <;> revert ofPlugins <;> decide

/-- Announcements keep to the frame, by induction on how deep they nest. -/
theorem tells_announceWithin (fuel : Nat) : Tells (announceWithin fuel) := by
  induction fuel with
  | zero => exact fun _ _ _ state _ => .refl state
  | succ fuel induction =>
      intro topic ofCommands payload state follows
      exact told_foldl_deliver induction topic payload
        (fun _ => ne_refresher_of_mem_subscribers follows ofCommands)
        overrides_of_mem_subscribers follows

theorem told_announce {topic : Topic} (ofCommands : topic ∈ Topic.ofCommands)
    (payload : List Value) {state : Dispatcher} (follows : state.FollowsPlugins) :
    Told state (Dispatcher.announce topic payload state) :=
  tells_announceWithin _ topic ofCommands payload state follows

theorem grows_addHandler (quiet : Bool) (agent command : Value) (handler : Handler)
    {state : Dispatcher} (follows : state.FollowsPlugins) :
    Grows state (state.addHandler quiet agent command (some handler)).1 :=
  grows_addHandlerWith (fun _ ofCommands payload _ => told_announce ofCommands payload) quiet
    agent command handler follows

/-- Nobody who is told that a command is stored changes the tables. -/
def Quiet (state : Dispatcher) : Prop :=
  ∀ entry ∈ state.subscriptions, entry.1 ∈ Topic.ofStoring → entry.2.alters = false

theorem Grows.quiet {before after : Dispatcher} (grows : Grows before after)
    (quiet : before.Quiet) : after.Quiet :=
  fun entry member => quiet entry (grows.leaves.sublist.subset member)

/-- What no announcement changes. -/
structure Unmoved (before after : Dispatcher) : Prop where
  frame :
    after =
      { before with
        tables := after.tables
        needsRefresh := after.needsRefresh
        subscriptions := after.subscriptions
        deliveries := after.deliveries
        scheduler := after.scheduler
        nextCallable := after.nextCallable }

namespace Unmoved

variable {before middle after : Dispatcher}

theorem refl (state : Dispatcher) : Unmoved state state :=
  ⟨rfl⟩

theorem trans (first : Unmoved before middle) (second : Unmoved middle after) :
    Unmoved before after := by
  refine ⟨?_⟩
  rw [second.frame, first.frame]

theorem plugins (unmoved : Unmoved before after) : after.plugins = before.plugins := by
  rw [unmoved.frame]

theorem registered (unmoved : Unmoved before after) :
    after.registered = before.registered := by
  rw [unmoved.frame]

end Unmoved

/-- An announcement that leaves the rest of the state as it is. -/
def Unmoving (announce : Announcement) : Prop :=
  ∀ (topic : Topic) (payload : List Value) (state : Dispatcher),
    Unmoved state (announce topic payload state)

theorem unmoved_addHandlerWith (unmoving : Unmoving announce) (quiet : Bool)
    (agent command : Value) (handler : Option Handler) (state : Dispatcher) :
    Unmoved state (addHandlerWith announce quiet agent command handler state).1 := by
  unfold addHandlerWith
  rcases state.tables.addHandler agent command handler with ⟨tables, fault | ⟨- | refusal⟩⟩
  · exact ⟨rfl⟩
  · have stored : Unmoved state { state with tables } := ⟨rfl⟩
    have registered := stored.trans
      (unmoving .commandRegistered (commandPayload agent command) { state with tables })
    cases quiet with
    | true => exact registered
    | false => exact registered.trans (unmoving .commandsChanged [] _)
  · exact ⟨rfl⟩

theorem unmoved_removeHandlerWith (unmoving : Unmoving announce) (agent command : Value)
    (state : Dispatcher) : Unmoved state (removeHandlerWith announce agent command state).1 := by
  unfold removeHandlerWith
  rcases state.tables.remove agent command with ⟨tables, fault | (_ | _)⟩
  · exact ⟨rfl⟩
  · exact ⟨rfl⟩
  · have removed : Unmoved state { state with tables } := ⟨rfl⟩
    exact (removed.trans (unmoving .commandUnregistered (commandPayload agent command) _)).trans
      (unmoving .commandsChanged [] _)

theorem unmoved_scheduleRefresh (state : Dispatcher) : Unmoved state state.scheduleRefresh := by
  by_cases loop : state.hasLoop = true
  · rw [scheduleRefresh, if_pos loop]
    exact ⟨rfl⟩
  · rw [scheduleRefresh, if_neg loop]
    exact ⟨rfl⟩

theorem unmoved_react (unmoving : Unmoving announce) (listener : Listener)
    (state : Dispatcher) : Unmoved state (react announce listener state) := by
  unfold react
  cases listener.reaction with
  | none => exact .refl state
  | fail => exact .refl state
  | leave => exact ⟨rfl⟩
  | register agent command handler =>
      exact Unmoved.trans ⟨rfl⟩ (unmoved_addHandlerWith unmoving _ _ _ _ _)
  | unregister agent command => exact unmoved_removeHandlerWith unmoving agent command state
  | describe usage => exact ⟨rfl⟩

theorem unmoved_deliver (unmoving : Unmoving announce) (topic : Topic) (payload : List Value)
    (state : Dispatcher) (subscriber : Subscriber) :
    Unmoved state (deliver announce topic payload state subscriber) := by
  cases subscriber with
  | recorder => exact ⟨rfl⟩
  | refresher => exact unmoved_scheduleRefresh state
  | listener listener => exact Unmoved.trans ⟨rfl⟩ (unmoved_react unmoving listener _)

theorem unmoving_announceWithin (fuel : Nat) : Unmoving (announceWithin fuel) := by
  induction fuel with
  | zero => exact fun _ _ state => .refl state
  | succ fuel induction =>
      intro topic payload state
      suffices told : ∀ subscribers state,
          Unmoved state
            (List.foldl (deliver (announceWithin fuel) topic payload) state subscribers) from
        told _ state
      intro subscribers
      induction subscribers with
      | nil => exact Unmoved.refl
      | cons subscriber rest inner =>
          intro state
          exact (unmoved_deliver induction topic payload state subscriber).trans (inner _)

theorem unmoved_announce (topic : Topic) (payload : List Value) (state : Dispatcher) :
    Unmoved state (Dispatcher.announce topic payload state) :=
  unmoving_announceWithin _ topic payload state

end Dispatcher

end ChatDispatch
