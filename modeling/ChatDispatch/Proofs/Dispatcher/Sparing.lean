import ChatDispatch.Proofs.Dispatcher.Registering

/-!
# Listeners that spare a command

A listener that is told about an event may be after a command: it may claim the command, by
registering a handler of its own, withdraw it, or describe it in other words.  What nobody does
who is told in the course of an announcement does not happen in the course of it.
-/

namespace ChatDispatch

/-- Whether a subscriber claims a command: registers it itself when it is told about an event. -/
def Subscriber.claims (agent command : Value) : Subscriber → Bool
  | .listener ⟨_, _, .register other otherCommand _⟩ => other == agent && otherCommand == command
  | _ => false

/-- Whether a subscriber withdraws a command when it is told about an event. -/
def Subscriber.withdraws (agent command : Value) : Subscriber → Bool
  | .listener ⟨_, _, .unregister other otherCommand⟩ => other == agent && otherCommand == command
  | _ => false

/-- Whether a subscriber stores a usage of a command when it is told about an event. -/
def Subscriber.describes (agent command : Value) : Subscriber → Bool
  | .listener ⟨_, _, .describe usage⟩ => usage.agent == agent && usage.command == command
  | _ => false

namespace Request

variable {agent command : Value}

/-- Whether a request is to register a command. -/
def registers (agent command : Value) : Request → Bool
  | .register other otherCommand _ => other == agent && otherCommand == command
  | _ => false

/-- Whether a request is to remove a command. -/
def unregisters (agent command : Value) : Request → Bool
  | .unregister other otherCommand => other == agent && otherCommand == command
  | _ => false

/-- Whether a request is to store a usage of a command. -/
def describes (agent command : Value) : Request → Bool
  | .registerUsage (some usage) => usage.agent == agent && usage.command == command
  | _ => false

end Request

namespace CommandTables

variable {tables : CommandTables} {agent command : Value} {request : Request}

theorem handler?_perform_of_absent (other : request.registers agent command = false)
    (absent : tables.handler? agent command = none) :
    (tables.perform request).1.handler? agent command = none := by
  cases request with
  | registerUsage usage =>
      cases usage with
      | none => exact absent
      | some usage => exact (handler?_addUsage tables usage agent command).trans absent
  | unregister own ownCommand =>
      refine Option.eq_none_iff_forall_not_mem.mpr fun handler present => ?_
      cases absent.symm.trans (handler?_of_remove present)
  | register own ownCommand handler =>
      cases handler with
      | none => exact absent
      | some handler =>
          rcases tables.addHandler_cases own ownCommand handler with
            ⟨-, -, stored⟩ | ⟨handlers, outcome, refused, -, same⟩
          · rw [perform, stored]
            exact (find?_place_of_apart other handler tables.handlers).trans absent
          · rw [perform, refused]
            exact (same agent command).trans absent

theorem handler?_perform_of_present (other : request.unregisters agent command = false)
    {present : Handler} (found : tables.handler? agent command = some present) :
    (tables.perform request).1.handler? agent command = some present := by
  cases request with
  | registerUsage usage =>
      cases usage with
      | none => exact found
      | some usage => exact (handler?_addUsage tables usage agent command).trans found
  | unregister own ownCommand => exact (handler?_remove other tables).trans found
  | register own ownCommand handler =>
      cases handler with
      | none => exact found
      | some handler =>
          rcases tables.addHandler_cases own ownCommand handler with
            ⟨-, absent, stored⟩ | ⟨handlers, outcome, refused, -, same⟩
          · rw [perform, stored]
            exact find?_place_of_absent absent handler found
          · rw [perform, refused]
            exact (same agent command).trans found

/-- A usage changes only when it is replaced or its command removed. -/
theorem usage?_perform (kept : request.unregisters agent command = false)
    (other : request.describes agent command = false) :
    (tables.perform request).1.usage? agent command = tables.usage? agent command := by
  cases request with
  | registerUsage usage =>
      cases usage with
      | none => rfl
      | some usage => exact usage?_addUsage other tables
  | unregister own ownCommand => exact usage?_remove kept tables
  | register own ownCommand handler =>
      rw [usage?, perform, usages_addHandler]
      rfl

theorem isSome_usage?_perform (kept : request.unregisters agent command = false)
    (present : (tables.usage? agent command).isSome = true) :
    ((tables.perform request).1.usage? agent command).isSome = true := by
  cases other : request.describes agent command with
  | false => rwa [usage?_perform kept other]
  | true =>
      match request with
      | .registerUsage (some usage) =>
          rcases addUsage_cases tables usage with stored | same
          · rw [perform, stored]
            exact congrArg Option.isSome ((find?_place ..).trans (if_pos other))
          · rw [perform, same]
            exact present

end CommandTables

namespace Dispatcher

variable {subscriptions : List (Topic × Subscriber)} {topics : List Topic}
  {agent command : Value} {request : Request}

/-- Nobody does something who is told in the course of events of some topics. -/
def NoneHeard (subscriptions : List (Topic × Subscriber)) (topics : List Topic)
    (does : Subscriber → Bool) : Prop :=
  ∀ entry ∈ subscriptions, Heard subscriptions topics entry.1 → does entry.2 = false

theorem NoneHeard.mono {does : Subscriber → Bool} (spares : NoneHeard subscriptions topics does)
    {fewer : List (Topic × Subscriber)} {start : List Topic} (leaves : fewer ⊆ subscriptions)
    (within : start ⊆ topics) : NoneHeard fewer start does :=
  fun entry member heard => spares entry (leaves member) (heard.mono leaves within)

/-- Nobody who is told in the course of a rebuild claims the command. -/
def Unclaimed (subscriptions : List (Topic × Subscriber)) (agent command : Value) : Prop :=
  NoneHeard subscriptions [.commandRegistered] (Subscriber.claims agent command)

/-- Nobody who is told that commands are stored withdraws the command. -/
def Unwithdrawn (subscriptions : List (Topic × Subscriber)) (agent command : Value) : Prop :=
  NoneHeard subscriptions Topic.ofStoring (Subscriber.withdraws agent command)

/-- Nobody who is told that commands are stored describes the command in other words. -/
def Undescribed (subscriptions : List (Topic × Subscriber)) (agent command : Value) : Prop :=
  NoneHeard subscriptions Topic.ofStoring (Subscriber.describes agent command)

/-- A listener is after a command exactly if what it requests is. -/
theorem after_of_makes {listener : Listener} (makes : Reaction.Makes listener.reaction request)
    (agent command : Value) :
    let subscriber := Subscriber.listener listener
    request.registers agent command = subscriber.claims agent command ∧
      request.unregisters agent command = subscriber.withdraws agent command ∧
      request.describes agent command = subscriber.describes agent command := by
  obtain ⟨name, topic, reaction⟩ := listener
  cases reaction with
  | none => cases makes
  | fail => cases makes
  | leave => cases makes
  | register own ownCommand =>
      obtain ⟨callable, rfl⟩ := makes
      exact ⟨rfl, rfl, rfl⟩
  | unregister own ownCommand =>
      cases makes
      exact ⟨rfl, rfl, rfl⟩
  | describe usage =>
      cases makes
      exact ⟨rfl, rfl, rfl⟩

theorem NoneHeard.of_requested {does : Subscriber → Bool} {asks : Request → Bool}
    (spares : NoneHeard subscriptions topics does)
    (same : ∀ listener, Reaction.Makes listener.reaction request →
      asks request = does (.listener listener))
    (requested : RequestedOn subscriptions topics request) : asks request = false := by
  obtain ⟨entry, member, heard, listener, listens, makes⟩ := requested
  rw [same listener makes, ← listens]
  exact spares entry member heard

theorem registers_of_noneHeard
    (unclaimed : NoneHeard subscriptions topics (Subscriber.claims agent command))
    (requested : RequestedOn subscriptions topics request) :
    request.registers agent command = false :=
  unclaimed.of_requested (fun _ makes => (after_of_makes makes agent command).1) requested

theorem unregisters_of_noneHeard
    (unwithdrawn : NoneHeard subscriptions topics (Subscriber.withdraws agent command))
    (requested : RequestedOn subscriptions topics request) :
    request.unregisters agent command = false :=
  unwithdrawn.of_requested (fun _ makes => (after_of_makes makes agent command).2.1) requested

theorem describes_of_noneHeard
    (undescribed : NoneHeard subscriptions topics (Subscriber.describes agent command))
    (requested : RequestedOn subscriptions topics request) :
    request.describes agent command = false :=
  undescribed.of_requested (fun _ makes => (after_of_makes makes agent command).2.2) requested

theorem NoneHeard.leave {does : Subscriber → Bool} (spares : NoneHeard subscriptions topics does)
    {fewer : List (Topic × Subscriber)} (leaves : fewer ⊆ subscriptions) :
    NoneHeard fewer topics does :=
  spares.mono leaves (List.Subset.refl topics)

/-- What the tables have of a command stays so, whatever is requested in the course of events of
some topics. -/
def Upholds (subscriptions : List (Topic × Subscriber)) (topics : List Topic)
    (agent command : Value)
    (has : Option Handler → Option Usage → Prop) : Prop :=
  ∀ request, RequestedOn subscriptions topics request → ∀ tables : CommandTables,
    has (tables.handler? agent command) (tables.usage? agent command) →
      has ((tables.perform request).1.handler? agent command)
        ((tables.perform request).1.usage? agent command)

/-- A command without a handler stays without one as long as nobody claims it. -/
theorem upholds_absent
    (unclaimed : NoneHeard subscriptions topics (Subscriber.claims agent command)) :
    Upholds subscriptions topics agent command fun handler _ => handler = none :=
  fun _ requested _ absent =>
    CommandTables.handler?_perform_of_absent (registers_of_noneHeard unclaimed requested) absent

/-- A command keeps its handler as long as nobody withdraws it. -/
theorem upholds_handler
    (unwithdrawn : NoneHeard subscriptions topics (Subscriber.withdraws agent command))
    (present : Handler) :
    Upholds subscriptions topics agent command fun handler _ => handler = some present :=
  fun _ requested _ found =>
    CommandTables.handler?_perform_of_present (unregisters_of_noneHeard unwithdrawn requested) found

/-- A command stays described as long as nobody withdraws it. -/
theorem upholds_described
    (unwithdrawn : NoneHeard subscriptions topics (Subscriber.withdraws agent command)) :
    Upholds subscriptions topics agent command fun _ usage => usage.isSome = true :=
  fun _ requested _ present =>
    CommandTables.isSome_usage?_perform (unregisters_of_noneHeard unwithdrawn requested) present

/-- A command keeps its usage as long as nobody withdraws it or describes it anew. -/
theorem upholds_usage
    (unwithdrawn : NoneHeard subscriptions topics (Subscriber.withdraws agent command))
    (undescribed : NoneHeard subscriptions topics (Subscriber.describes agent command))
    (own : Usage) : Upholds subscriptions topics agent command fun _ usage => usage = some own :=
  fun _ requested _ found =>
    (CommandTables.usage?_perform (unregisters_of_noneHeard unwithdrawn requested)
      (describes_of_noneHeard undescribed requested)).trans found

def Has (agent command : Value) (has : Option Handler → Option Usage → Prop) (state : Dispatcher) :
    Prop :=
  has (state.tables.handler? agent command) (state.tables.usage? agent command)

namespace Upholds

variable {has : Option Handler → Option Usage → Prop} {tables : CommandTables}
  {state : Dispatcher}

theorem and {other : Option Handler → Option Usage → Prop}
    (first : Upholds subscriptions topics agent command has)
    (second : Upholds subscriptions topics agent command other) :
    Upholds subscriptions topics agent command fun handler usage =>
      has handler usage ∧ other handler usage :=
  fun request requested tables both =>
    ⟨first request requested tables both.1, second request requested tables both.2⟩

theorem performAll (upholds : Upholds subscriptions topics agent command has)
    {requests : List Request}
    (requested : ∀ request ∈ requests, RequestedOn subscriptions topics request)
    (start : has (tables.handler? agent command) (tables.usage? agent command)) :
    has ((tables.performAll requests).handler? agent command)
      ((tables.performAll requests).usage? agent command) := by
  induction requests generalizing tables with
  | nil => exact start
  | cons request rest induction =>
      obtain ⟨here, later⟩ := List.forall_mem_cons.mp requested
      exact induction later (upholds request here tables start)

/-- An announcement keeps what every request keeps that it leads to. -/
theorem announce (upholds : Upholds subscriptions topics agent command has)
    (within : state.subscriptions ⊆ subscriptions) {topic : Topic} (told : topic ∈ topics)
    (payload : List Value) (start : state.Has agent command has) :
    (Dispatcher.announce topic payload state).Has agent command has := by
  obtain ⟨requests, responds⟩ :=
    responding_announce (closed_heard subscriptions topics) topic (.first told) payload state within
  rw [Has, responds.tables]
  exact upholds.performAll responds.requested start

end Upholds

end Dispatcher

end ChatDispatch
