import ChatDispatch.Dispatcher.Setup
import ChatDispatch.Proofs.CommandTables.Flat
import ChatDispatch.Proofs.Dispatcher.Announcing

/-!
# Requests to a dispatcher

A dispatcher does to its tables what a request asks for, and tells its listeners.  Those that
change the tables make requests of their own then, which come right after the one that they
were told about.  `Responds` says that nothing else happens to the tables, and so a
dispatcher answers as flat tables do after all these requests.
-/

namespace ChatDispatch.Dispatcher

open CommandTables

/-- Does what a request asks for; the flag tells whether it was accepted. -/
def perform (state : Dispatcher) : Request → Dispatcher × Except Fault Bool
  | .register agent command handler => state.register agent command handler
  | .registerUsage usage => state.registerUsage usage
  | .unregister agent command => state.unregister agent command

/-- Does what some requests ask for, one after the other. -/
def performAll (state : Dispatcher) : List Request → Dispatcher × List (Except Fault Bool)
  | [] => (state, [])
  | request :: rest =>
      let (next, outcome) := state.perform request
      let (last, outcomes) := next.performAll rest
      (last, outcome :: outcomes)

/-- Whether a reaction makes a request.  The callable that a listener registers is made anew. -/
def Reaction.Makes : Reaction → Request → Prop
  | .register agent command handler, request =>
      ∃ number, request = .register agent command (some (.direct { handler with number }))
  | .unregister agent command, request => request = .unregister agent command
  | .describe usage, request => request = .registerUsage (some usage)
  | _, _ => False

/-- The requests of the listeners among some subscribers. -/
def Requested (subscriptions : List (Topic × Subscriber)) (request : Request) : Prop :=
  ∃ entry ∈ subscriptions, ∃ listener,
    entry.2 = .listener listener ∧ Reaction.Makes listener.reaction request

/-- All that happens to the tables are requests of some kind; nobody new subscribes. -/
structure Responds (asked : Request → Prop) (before after : Dispatcher)
    (requests : List Request) : Prop where
  tables : after.tables = before.tables.performAll requests
  requested : ∀ request ∈ requests, asked request
  leaves : after.subscriptions ⊆ before.subscriptions

namespace Responds

variable {asked : Request → Prop} {before middle after : Dispatcher}

theorem of_same (tables : after.tables = before.tables)
    (leaves : after.subscriptions ⊆ before.subscriptions) :
    Responds asked before after [] where
  tables := tables
  requested := fun _ member => by cases member
  leaves := leaves

theorem refl (state : Dispatcher) : Responds asked state state [] :=
  of_same rfl (List.Subset.refl _)

theorem trans {first second : List Request} (start : Responds asked before middle first)
    (next : Responds asked middle after second) :
    Responds asked before after (first ++ second) where
  tables := by
    rw [next.tables, start.tables, CommandTables.performAll, CommandTables.performAll,
      CommandTables.performAll, List.foldl_append]
  requested := by
    intro request member
    rcases List.mem_append.mp member with early | late
    · exact start.requested request early
    · exact next.requested request late
  leaves := List.Subset.trans next.leaves start.leaves

theorem within {subscriptions : List (Topic × Subscriber)}
    (responds : Responds asked before after requests)
    (among : before.subscriptions ⊆ subscriptions) : after.subscriptions ⊆ subscriptions :=
  List.Subset.trans responds.leaves among

/-- What a listener requests comes first, and others respond to it. -/
theorem requesting {requests : List Request} {request : Request} (own : asked request)
    (responds : Responds asked
      { before with tables := (before.tables.perform request).1 } after requests) :
    Responds asked before after (request :: requests) where
  tables := responds.tables
  requested := List.forall_mem_cons.mpr ⟨own, responds.requested⟩
  leaves := responds.leaves

end Responds

/-- Who is told about events of some topics announces no others, and requests nothing of another
kind. -/
structure Closed (subscriptions : List (Topic × Subscriber)) (topics : Topic → Prop)
    (asked : Request → Prop) : Prop where
  announces : ∀ entry ∈ subscriptions, topics entry.1 → ∀ topic ∈ entry.2.announces, topics topic
  asks : ∀ entry ∈ subscriptions, topics entry.1 → ∀ listener, entry.2 = .listener listener →
    ∀ request, Reaction.Makes listener.reaction request → asked request

/-- The topics of all events that are announced in the course of some. -/
inductive Heard (subscriptions : List (Topic × Subscriber)) (topics : List Topic) :
    Topic → Prop where
  | first {topic : Topic} : topic ∈ topics → Heard subscriptions topics topic
  | next {topic other : Topic} {subscriber : Subscriber} : Heard subscriptions topics topic →
      (topic, subscriber) ∈ subscriptions → other ∈ subscriber.announces →
        Heard subscriptions topics other

theorem Heard.mono {fewer subscriptions : List (Topic × Subscriber)} {start topics : List Topic}
    (among : fewer ⊆ subscriptions) (within : start ⊆ topics) {topic : Topic}
    (heard : Heard fewer start topic) : Heard subscriptions topics topic := by
  induction heard with
  | first member => exact .first (within member)
  | next _ subscribed announced induction => exact .next induction (among subscribed) announced

/-- The requests of listeners that are told in the course of events of some topics. -/
def RequestedOn (subscriptions : List (Topic × Subscriber)) (topics : List Topic)
    (request : Request) : Prop :=
  ∃ entry ∈ subscriptions, Heard subscriptions topics entry.1 ∧ ∃ listener,
    entry.2 = .listener listener ∧ Reaction.Makes listener.reaction request

theorem closed_requested (subscriptions : List (Topic × Subscriber)) :
    Closed subscriptions (fun _ => True) (Requested subscriptions) where
  announces := fun _ _ _ _ _ => trivial
  asks := fun entry member _ listener listens _ makes => ⟨entry, member, listener, listens, makes⟩

theorem closed_heard (subscriptions : List (Topic × Subscriber)) (topics : List Topic) :
    Closed subscriptions (Heard subscriptions topics) (RequestedOn subscriptions topics) where
  announces := fun _ member heard _ announced => .next heard member announced
  asks := fun entry member heard listener listens _ makes =>
    ⟨entry, member, heard, listener, listens, makes⟩

/-- An announcement of some topics that only makes listeners request something of some kind. -/
def Responding (subscriptions : List (Topic × Subscriber)) (topics : Topic → Prop)
    (asked : Request → Prop) (announce : Announcement) : Prop :=
  ∀ topic, topics topic → ∀ (payload : List Value) (state : Dispatcher),
    state.subscriptions ⊆ subscriptions →
      ∃ requests, Responds asked state (announce topic payload state) requests

variable {subscriptions : List (Topic × Subscriber)} {topics : Topic → Prop}
  {asked : Request → Prop} {announce : Announcement}

theorem outcome_addHandlerWith (announce : Announcement) (quiet : Bool) (agent command : Value)
    (handler : Option Handler) (state : Dispatcher) :
    (addHandlerWith announce quiet agent command handler state).2 =
      (state.tables.addHandler agent command handler).2 := by
  cases added : state.tables.addHandler agent command handler with
  | mk tables outcome =>
      simp only [addHandlerWith, added]
      rcases outcome with fault | ⟨- | refusal⟩ <;> rfl

theorem outcome_removeHandlerWith (announce : Announcement) (agent command : Value)
    (state : Dispatcher) :
    (removeHandlerWith announce agent command state).2 = (state.tables.remove agent command).2 := by
  cases removal : state.tables.remove agent command with
  | mk tables outcome =>
      simp only [removeHandlerWith, removal]
      rcases outcome with fault | ⟨- | -⟩ <;> rfl

theorem responds_addHandlerWith (responding : Responding subscriptions topics asked announce)
    (told : ∀ topic ∈ Topic.ofStoring, topics topic) (quiet : Bool) (agent command : Value)
    (handler : Option Handler) {state : Dispatcher} (within : state.subscriptions ⊆ subscriptions) :
    ∃ requests,
      Responds asked
        { state with tables := (state.tables.perform (.register agent command handler)).1 }
        (addHandlerWith announce quiet agent command handler state).1 requests := by
  cases added : state.tables.addHandler agent command handler with
  | mk tables outcome =>
      simp only [addHandlerWith, CommandTables.perform, added]
      rcases outcome with fault | ⟨- | refusal⟩
      · exact ⟨[], .refl _⟩
      · obtain ⟨first, registered⟩ := responding .commandRegistered (told _ (by decide))
          (commandPayload agent command) { state with tables } within
        cases quiet with
        | true => exact ⟨first, registered⟩
        | false =>
            obtain ⟨others, changed⟩ :=
              responding .commandsChanged (told _ (by decide)) [] _ (registered.within within)
            exact ⟨first ++ others, registered.trans changed⟩
      · exact ⟨[], .refl _⟩

theorem responds_removeHandlerWith (responding : Responding subscriptions topics asked announce)
    (told : ∀ topic ∈ Topic.ofRemoving, topics topic) (agent command : Value) {state : Dispatcher}
    (within : state.subscriptions ⊆ subscriptions) :
    ∃ requests,
      Responds asked
        { state with tables := (state.tables.perform (.unregister agent command)).1 }
        (removeHandlerWith announce agent command state).1 requests := by
  cases removal : state.tables.remove agent command with
  | mk tables outcome =>
      simp only [removeHandlerWith, CommandTables.perform, removal]
      rcases outcome with fault | ⟨- | -⟩
      · exact ⟨[], .refl _⟩
      · exact ⟨[], .refl _⟩
      · obtain ⟨first, removed⟩ := responding .commandUnregistered (told _ (by decide))
          (commandPayload agent command) { state with tables } within
        obtain ⟨others, changed⟩ :=
          responding .commandsChanged (told _ (by decide)) [] _ (removed.within within)
        exact ⟨first ++ others, removed.trans changed⟩

theorem responds_react (responding : Responding subscriptions topics asked announce)
    (closed : Closed subscriptions topics asked) {topic : Topic} (told : topics topic)
    {listener : Listener} (subscribed : (topic, Subscriber.listener listener) ∈ subscriptions)
    {state : Dispatcher} (within : state.subscriptions ⊆ subscriptions) :
    ∃ requests, Responds asked state (react announce listener state) requests := by
  have announces := closed.announces _ subscribed told
  have asks := closed.asks _ subscribed told listener rfl
  obtain ⟨name, first, reaction⟩ := listener
  cases reaction with
  | none => exact ⟨[], .refl state⟩
  | fail => exact ⟨[], .refl state⟩
  | leave => exact ⟨[], .of_same rfl List.erase_subset⟩
  | register agent command handler =>
      let counted := { state with nextCallable := state.nextCallable + 1 }
      let callable := { handler with number := state.nextCallable }
      obtain ⟨requests, responds⟩ :=
        responds_addHandlerWith responding announces false agent command (some (.direct callable))
          (show counted.subscriptions ⊆ subscriptions from within)
      have counting : Responds asked state counted [] := .of_same rfl (List.Subset.refl _)
      have requesting : Responds asked counted
          (react announce ⟨name, first, .register agent command handler⟩ state)
          (.register agent command (some (.direct callable)) :: requests) :=
        responds.requesting (asks _ ⟨state.nextCallable, rfl⟩)
      exact ⟨_, counting.trans requesting⟩
  | unregister agent command =>
      obtain ⟨requests, responds⟩ :=
        responds_removeHandlerWith responding announces agent command within
      exact ⟨_, responds.requesting (asks _ rfl)⟩
  | describe usage => exact ⟨_, (Responds.refl _).requesting (asks _ rfl)⟩

theorem responds_deliver (responding : Responding subscriptions topics asked announce)
    (closed : Closed subscriptions topics asked) {topic : Topic} (told : topics topic)
    (payload : List Value) {subscriber : Subscriber}
    (subscribed : (topic, subscriber) ∈ subscriptions) {state : Dispatcher}
    (within : state.subscriptions ⊆ subscriptions) :
    ∃ requests,
      Responds asked state (deliver announce topic payload state subscriber) requests := by
  cases subscriber with
  | recorder => exact ⟨[], .of_same rfl (List.Subset.refl _)⟩
  | refresher =>
      simp only [deliver, scheduleRefresh, reschedule]
      split <;> exact ⟨[], .of_same rfl (List.Subset.refl _)⟩
  | listener listener =>
      have recorded : Responds asked state (state.record listener.name listener.topic payload) [] :=
        .of_same rfl (List.Subset.refl _)
      obtain ⟨requests, responds⟩ :=
        responds_react responding closed told subscribed (recorded.within within)
      exact ⟨requests, recorded.trans responds⟩

theorem responds_foldl_deliver (responding : Responding subscriptions topics asked announce)
    (closed : Closed subscriptions topics asked) {topic : Topic} (told : topics topic)
    (payload : List Value) {subscribers : List Subscriber}
    (subscribed : ∀ subscriber ∈ subscribers, (topic, subscriber) ∈ subscriptions)
    {state : Dispatcher} (within : state.subscriptions ⊆ subscriptions) :
    ∃ requests,
      Responds asked state
        (subscribers.foldl (deliver announce topic payload) state) requests := by
  induction subscribers generalizing state with
  | nil => exact ⟨[], .refl state⟩
  | cons subscriber rest induction =>
      obtain ⟨here, later⟩ := List.forall_mem_cons.mp subscribed
      obtain ⟨first, responds⟩ := responds_deliver responding closed told payload here within
      obtain ⟨others, respondRest⟩ := induction later (responds.within within)
      exact ⟨first ++ others, responds.trans respondRest⟩

theorem exists_of_mem_subscribers {state : Dispatcher} {topic : Topic} {subscriber : Subscriber}
    (member : subscriber ∈ state.subscribers topic) :
    (topic, subscriber) ∈ state.subscriptions := by
  obtain ⟨⟨own, _⟩, filtered, rfl⟩ := List.mem_map.mp member
  obtain ⟨subscribed, ownTopic⟩ := List.mem_filter.mp filtered
  obtain rfl : own = topic := of_decide_eq_true ownTopic
  exact subscribed

/-- Announcements only make listeners request what they may, by induction on how deep they
nest. -/
theorem responding_announceWithin (closed : Closed subscriptions topics asked) (fuel : Nat) :
    Responding subscriptions topics asked (announceWithin fuel) := by
  induction fuel with
  | zero => exact fun _ _ _ state _ => ⟨[], .refl state⟩
  | succ fuel induction =>
      intro topic told payload state within
      exact responds_foldl_deliver induction closed told payload
        (fun _ member => within (exists_of_mem_subscribers member)) within

theorem responding_announce (closed : Closed subscriptions topics asked) :
    Responding subscriptions topics asked Dispatcher.announce :=
  fun topic told payload state within =>
    responding_announceWithin closed _ topic told payload state within

/-- An announcement makes listeners respond, whatever it is about. -/
theorem responds_announce {state : Dispatcher} (within : state.subscriptions ⊆ subscriptions)
    (topic : Topic) (payload : List Value) :
    ∃ requests,
      Responds (Requested subscriptions) state (Dispatcher.announce topic payload state) requests :=
  responding_announce (closed_requested subscriptions) topic trivial payload state within

/-- A request is done to the tables, and listeners respond to it. -/
theorem responds_perform {state : Dispatcher} (within : state.subscriptions ⊆ subscriptions)
    (request : Request) :
    (state.perform request).2 = (state.tables.perform request).2 ∧
      ∃ told, Responds (Requested subscriptions)
        { state with tables := (state.tables.perform request).1 } (state.perform request).1
        told := by
  have responding := responding_announce (closed_requested subscriptions)
  cases request with
  | register agent command handler =>
      refine ⟨?_, responds_addHandlerWith responding (fun _ _ => trivial) false agent command
        handler within⟩
      exact congrArg (Except.map Option.isNone) (outcome_addHandlerWith _ _ _ _ _ _)
  | registerUsage usage =>
      cases usage with
      | none => exact ⟨rfl, [], .refl _⟩
      | some usage => exact ⟨rfl, [], .refl _⟩
  | unregister agent command =>
      refine ⟨?_, responds_removeHandlerWith responding (fun _ _ => trivial) agent command within⟩
      exact outcome_removeHandlerWith _ agent command state

/-- A dispatcher does what flat tables do, each request followed by those of the listeners
that are told about it. -/
theorem performAll_refines {state : Dispatcher} {flat : Flat}
    (within : state.subscriptions ⊆ subscriptions) (refines : Refines state.tables flat)
    (requests : List Request) :
    ∃ turns : List (Request × List Request),
      turns.map (·.1) = requests ∧
      (∀ turn ∈ turns, ∀ told ∈ turn.2, Requested subscriptions told) ∧
      (state.performAll requests).2 = (flat.run turns).2 ∧
      Refines (state.performAll requests).1.tables (flat.run turns).1 ∧
      (state.tables.Filled →
        (∀ turn ∈ turns, turn.1.isKeyed = true ∧ ∀ told ∈ turn.2, told.isKeyed = true) →
        (state.performAll requests).1.tables.Filled) := by
  induction requests generalizing state flat with
  | nil => exact ⟨[], rfl, by simp, rfl, refines, fun filled _ => filled⟩
  | cons request rest induction =>
      obtain ⟨sameOutcome, told, responds⟩ := responds_perform within request
      obtain ⟨flatOutcome, performed⟩ := CommandTables.perform_refines refines request
      have nextRefines : Refines (state.perform request).1.tables
          ((flat.perform request).1.performAll told) := by
        rw [responds.tables]
        exact CommandTables.performAll_refines performed told
      obtain ⟨turns, sameRequests, requested, outcomes, last, filledLast⟩ :=
        induction (responds.within within) nextRefines
      refine ⟨(request, told) :: turns, ?_, ?_, ?_, last, ?_⟩
      · rw [List.map_cons, sameRequests]
      · exact List.forall_mem_cons.mpr ⟨responds.requested, requested⟩
      · simp only [performAll, Flat.run, outcomes, sameOutcome, flatOutcome]
      · intro filled keyed
        obtain ⟨⟨here, keyedTold⟩, later⟩ := List.forall_mem_cons.mp keyed
        refine filledLast ?_ later
        rw [responds.tables]
        exact filled_performAll (filled_perform filled here) keyedTold

theorem turns_eq_of_silent (silent : ∀ request, ¬Requested subscriptions request)
    {turns : List (Request × List Request)}
    (requested : ∀ turn ∈ turns, ∀ told ∈ turn.2, Requested subscriptions told) :
    turns = (turns.map (·.1)).map (·, []) := by
  rw [List.map_map]
  refine (List.map_id' turns).symm.trans (List.map_congr_left fun turn member => ?_)
  have none : turn.2 = [] :=
    List.eq_nil_iff_forall_not_mem.mpr fun told among =>
      silent told (requested turn member told among)
  exact Prod.ext rfl none

/-- The tables of a dispatcher answer as flat tables after the same requests, with those of
listeners among them.  If agents and commands can be keys, no row is ever empty, and a handler
that is stored under a new pair and removed again leaves no trace. -/
theorem performAll_answers_as_flat {state : Dispatcher} {flat : Flat}
    (refines : Refines state.tables flat) (requests : List Request) :
    ∃ turns : List (Request × List Request),
      turns.map (·.1) = requests ∧
      (∀ turn ∈ turns, ∀ told ∈ turn.2, Requested state.subscriptions told) ∧
      (state.performAll requests).2 = (flat.run turns).2 ∧
      Answers (state.performAll requests).1.tables (flat.run turns).1 ∧
      (state.tables.Filled →
        (∀ turn ∈ turns, turn.1.isKeyed = true ∧ ∀ told ∈ turn.2, told.isKeyed = true) →
        let tables := (state.performAll requests).1.tables
        tables.Filled ∧
          ∀ agent command handler, (agent.isKey && command.isKey) = true →
            (tables.handler? agent command).isSome = false →
            (tables.usage? agent command).isSome = false →
            ((tables.perform (.register agent command handler)).1.perform
              (.unregister agent command)).1 = tables) := by
  obtain ⟨turns, sameRequests, requested, outcomes, last, filledLast⟩ :=
    performAll_refines (List.Subset.refl _) refines requests
  refine ⟨turns, sameRequests, requested, outcomes, answers_of_refines last, ?_⟩
  intro filled keyed
  refine ⟨filledLast filled keyed, ?_⟩
  intro agent command handler pairKeyed noHandler noUsage
  exact unregister_register (filledLast filled keyed) pairKeyed noHandler noUsage handler

/-- In a new dispatcher a second handler is refused, a usage needs no handler, and what was
registered can be removed once. -/
theorem performAll_answers_notes :
    let state := blank.setUp .direct true
    let handler : Option Handler := some (.declared ⟨.text "add", .null, .null, .null, none⟩)
    let usage : Usage := ⟨.text "notes", .text "list", .null, .null, .null⟩
    let requests : List Request :=
      [.register (.text "notes") (.text "add") handler,
        .register (.text "notes") (.text "add") handler, .registerUsage (some usage),
        .unregister (.text "notes") (.text "add"), .unregister (.text "notes") (.text "add")]
    (state.performAll requests).2 = [.ok true, .ok false, .ok true, .ok true, .ok false] ∧
      (state.performAll requests).1.tables.Filled := by
  intro state handler usage requests
  let stored : List Request := Builtin.all.flatMap fun builtin =>
    [.register (.text coreAgent) (.text builtin.key) (some (.builtin builtin)),
      .registerUsage (some builtin.usage)]
  have tables : state.tables = CommandTables.empty.performAll stored := by decide +kernel
  have refines : Refines state.tables (Flat.empty.performAll stored) := by
    rw [tables]
    exact CommandTables.performAll_refines refines_empty stored
  have filled : state.tables.Filled := by
    rw [tables]
    exact filled_performAll filled_empty (by decide)
  have silent : ∀ request, ¬Requested state.subscriptions request := by
    rintro request ⟨entry, member, _, listens, -⟩
    have refreshers : ∀ entry ∈ state.subscriptions, entry.2 = .refresher := by decide
    rw [refreshers entry member] at listens
    cases listens
  obtain ⟨turns, sameRequests, requested, outcomes, -, kept⟩ :=
    performAll_answers_as_flat refines requests
  obtain rfl : turns = requests.map (·, []) := by
    rw [← sameRequests]
    exact turns_eq_of_silent silent requested
  exact ⟨outcomes.trans (by decide +kernel), (kept filled (by decide)).1⟩

end ChatDispatch.Dispatcher
