import ChatDispatch.Proofs.CommandTables

/-!
# Flat tables

The tables of commands have rows, one for each agent that has commands.  A flat table has
none: it goes from pairs of an agent and a command to values, in the order in which the pairs
were first stored.  `Refines` ties the two together: the row of an agent is what a flat table
holds for the agent.

`perform` is what a request to store or remove a command does, on either side.  Requests keep
the refinement and have the same outcome.  That no row is empty, which they keep as well
unless a command is a collection, makes removing a command the inverse of storing it.
-/

namespace ChatDispatch

/-- A request to change the commands. -/
inductive Request where
  | register (agent command : Value) (handler : Option Handler)
  | registerUsage (usage : Option Usage)
  | unregister (agent command : Value)

/-- Whether agent and command of a request can be keys. -/
def Request.isKeyed : Request → Bool
  | .register agent command _ => agent.isKey && command.isKey
  | .registerUsage none => true
  | .registerUsage (some usage) => usage.agent.isKey && usage.command.isKey
  | .unregister agent command => agent.isKey && command.isKey

namespace CommandTables

/-- Does what a request asks for; the flag tells whether it was accepted. -/
def perform (tables : CommandTables) : Request → CommandTables × Except Fault Bool
  | .register agent command handler =>
      let (after, outcome) := tables.addHandler agent command handler
      (after, outcome.map Option.isNone)
  | .registerUsage none => (tables, .ok false)
  | .registerUsage (some usage) => tables.addUsage usage
  | .unregister agent command => tables.remove agent command

/-- Does what some requests ask for, one after the other. -/
def performAll (tables : CommandTables) (requests : List Request) : CommandTables :=
  requests.foldl (fun tables request => (tables.perform request).1) tables

end CommandTables

/-- A handler and a usage for some pairs of an agent and a command. -/
structure Flat where
  handlers : List ((Value × Value) × Handler)
  usages : List ((Value × Value) × Usage)

namespace Flat

def empty : Flat := ⟨[], []⟩

/-- Whether there is a handler for any command of an agent. -/
def knows (flat : Flat) (agent : Value) : Bool :=
  flat.handlers.any fun entry => entry.1.1 == agent

def usagesOf (flat : Flat) (agent : Value) : List Usage :=
  (flat.usages.filter fun entry => entry.1.1 == agent).map (·.2)

/-- Does what a request asks for; the flag tells whether it was accepted.  A handler is stored
once, a usage replaces the one before, and both are removed together.  Collections are no
keys; a command is not looked at when its agent has none. -/
def perform (flat : Flat) : Request → Flat × Except Fault Bool
  | .register _ _ none => (flat, .ok false)
  | .register agent command (some handler) =>
      if !(agent.holds && command.holds) then
        (flat, .ok false)
      else if !(agent.isKey && command.isKey) then
        (flat, .error (.notAKey (if agent.isKey then command else agent).kind))
      else if Table.holds (agent, command) flat.handlers then
        (flat, .ok false)
      else
        ({ flat with handlers := flat.handlers ++ [((agent, command), handler)] }, .ok true)
  | .registerUsage none => (flat, .ok false)
  | .registerUsage (some usage) =>
      if !(usage.agent.holds && usage.command.holds) then
        (flat, .ok false)
      else if !(usage.agent.isKey && usage.command.isKey) then
        (flat, .error (.notAKey (if usage.agent.isKey then usage.command else usage.agent).kind))
      else
        ({ flat with usages := Table.store (usage.agent, usage.command) usage flat.usages },
          .ok true)
  | .unregister agent command =>
      if !agent.isKey then
        (flat, .error (.notAKey agent.kind))
      else if !flat.knows agent then
        (flat, .ok false)
      else if !command.isKey then
        (flat, .error (.notAKey command.kind))
      else if !Table.holds (agent, command) flat.handlers then
        (flat, .ok false)
      else
        ({ handlers := Table.remove (agent, command) flat.handlers
           usages := Table.remove (agent, command) flat.usages },
          .ok true)

/-- Does what some requests ask for, one after the other. -/
def performAll (flat : Flat) (requests : List Request) : Flat :=
  requests.foldl (fun flat request => (flat.perform request).1) flat

/-- The outcomes of requests, each of which is followed by others whose outcome nobody asks
for. -/
def run (flat : Flat) : List (Request × List Request) → Flat × List (Except Fault Bool)
  | [] => (flat, [])
  | (request, others) :: rest =>
      let (next, outcome) := flat.perform request
      let (last, outcomes) := (next.performAll others).run rest
      (last, outcome :: outcomes)

end Flat

namespace CommandTables

variable {β : Type}

/-- The commands of an agent in a flat table. -/
def flatRow (agent : Value) (flat : List ((Value × Value) × β)) : List (Value × β) :=
  flat.filterMap fun entry => if entry.1.1 == agent then some (entry.1.2, entry.2) else none

theorem flatRow_cons (agent : Value) (entry : (Value × Value) × β)
    (flat : List ((Value × Value) × β)) :
    flatRow agent (entry :: flat) =
      if entry.1.1 == agent then (entry.1.2, entry.2) :: flatRow agent flat
      else flatRow agent flat := by
  cases same : entry.1.1 == agent <;> simp [flatRow, same]

theorem flatRow_congr {agent other : Value} (same : (agent == other) = true)
    (flat : List ((Value × Value) × β)) : flatRow agent flat = flatRow other flat := by
  simp only [flatRow, BEq.congr_right same]

theorem beq_pair (agent command other otherCommand : Value) :
    ((agent, command) == (other, otherCommand)) = (agent == other && command == otherCommand) :=
  rfl

theorem lookup_flatRow (agent command : Value) (flat : List ((Value × Value) × β)) :
    Table.lookup command (flatRow agent flat) = Table.lookup (agent, command) flat := by
  induction flat with
  | nil => rfl
  | cons entry rest induction =>
      obtain ⟨⟨own, ownCommand⟩, value⟩ := entry
      rw [flatRow_cons]
      cases sameAgent : own == agent with
      | true => simp [Table.lookup, beq_pair, sameAgent, induction]
      | false => simp [Table.lookup, beq_pair, sameAgent, induction]

theorem flatRow_store (agent command : Value) (value : β) (flat : List ((Value × Value) × β))
    (other : Value) :
    flatRow other (Table.store (agent, command) value flat) =
      if agent == other then Table.store command value (flatRow other flat)
      else flatRow other flat := by
  induction flat with
  | nil => rw [Table.store, flatRow_cons]; rfl
  | cons entry rest induction =>
      obtain ⟨⟨own, ownCommand⟩, present⟩ := entry
      cases sameAgent : own == agent with
      | true =>
          have sameOther : (own == other) = (agent == other) := BEq.congr_left sameAgent
          cases sameCommand : ownCommand == command with
          | true =>
              simp only [Table.store, beq_pair, sameAgent, sameCommand, Bool.and_self, if_true,
                flatRow_cons, sameOther]
              split <;> simp [Table.store, sameCommand]
          | false =>
              simp only [Table.store, beq_pair, sameAgent, sameCommand, Bool.and_false,
                Bool.false_eq_true, if_false, flatRow_cons, sameOther, induction]
              split <;> simp [Table.store, sameCommand]
      | false =>
          simp only [Table.store, beq_pair, sameAgent, Bool.false_and, Bool.false_eq_true,
            if_false, flatRow_cons, induction]
          cases sameOther : agent == other with
          | true =>
              rw [BEq.congr_right sameOther] at sameAgent
              simp [sameAgent]
          | false => simp

theorem flatRow_remove (agent command : Value) (flat : List ((Value × Value) × β))
    (other : Value) :
    flatRow other (Table.remove (agent, command) flat) =
      if agent == other then Table.remove command (flatRow other flat)
      else flatRow other flat := by
  induction flat with
  | nil =>
      rw [Table.remove]
      split <;> rfl
  | cons entry rest induction =>
      obtain ⟨⟨own, ownCommand⟩, present⟩ := entry
      cases sameAgent : own == agent with
      | true =>
          have sameOther : (own == other) = (agent == other) := BEq.congr_left sameAgent
          cases sameCommand : ownCommand == command with
          | true =>
              simp only [Table.remove, beq_pair, sameAgent, sameCommand, Bool.and_self, if_true,
                flatRow_cons, sameOther]
              rw [induction]
              split <;> simp [Table.remove, sameCommand]
          | false =>
              simp only [Table.remove, beq_pair, sameAgent, sameCommand, Bool.and_false,
                Bool.false_eq_true, if_false, flatRow_cons, sameOther, induction]
              split <;> simp [Table.remove, sameCommand]
      | false =>
          simp only [Table.remove, beq_pair, sameAgent, Bool.false_and, Bool.false_eq_true,
            if_false, flatRow_cons, induction]
          cases sameOther : agent == other with
          | true =>
              rw [BEq.congr_right sameOther] at sameAgent
              simp [sameAgent]
          | false => simp

theorem isEmpty_flatRow (agent : Value) (flat : List ((Value × Value) × β)) :
    (flatRow agent flat).isEmpty = !flat.any fun entry => entry.1.1 == agent := by
  induction flat with
  | nil => rfl
  | cons entry rest induction =>
      rw [flatRow_cons, List.any_cons]
      cases same : entry.1.1 == agent with
      | true => rfl
      | false => simpa using induction

theorem map_flatRow (agent : Value) (flat : List ((Value × Value) × β)) :
    (flatRow agent flat).map (·.2) = (flat.filter fun entry => entry.1.1 == agent).map (·.2) := by
  induction flat with
  | nil => rfl
  | cons entry rest induction =>
      rw [flatRow_cons, List.filter_cons]
      cases same : entry.1.1 == agent with
      | true => simp [induction]
      | false => simpa using induction

/-- The rows of a table are those of a flat table. -/
structure Rows (table : List (Value × List (Value × β))) (flat : List ((Value × Value) × β)) :
    Prop where
  row_eq : ∀ agent, row agent table = flatRow agent flat
  distinct : Table.Distinct table

/-- Both tables have the rows of flat tables. -/
structure Refines (tables : CommandTables) (flat : Flat) : Prop where
  handlers : Rows tables.handlers flat.handlers
  usages : Rows tables.usages flat.usages

theorem refines_empty : Refines CommandTables.empty Flat.empty where
  handlers := ⟨fun _ => rfl, Table.distinct_nil⟩
  usages := ⟨fun _ => rfl, Table.distinct_nil⟩

section Rows

variable {table : List (Value × List (Value × β))} {flat : List ((Value × Value) × β)}

theorem Rows.find? (rows : Rows table flat) (agent command : Value) :
    CommandTables.find? agent command table = Table.lookup (agent, command) flat := by
  rw [CommandTables.find?, rows.row_eq, lookup_flatRow]

theorem Rows.holds (rows : Rows table flat) (agent command : Value) :
    Table.holds (agent, command) flat = (CommandTables.find? agent command table).isSome := by
  rw [Table.holds_eq_isSome_lookup, rows.find?]

theorem rows_place (rows : Rows table flat) (agent command : Value) (value : β) :
    Rows (place agent command value table) (Table.store (agent, command) value flat) where
  row_eq := by
    intro other
    rw [row_place, flatRow_store, rows.row_eq]
  distinct := Table.distinct_store rows.distinct _ _

theorem rows_openRow (rows : Rows table flat) (agent : Value) :
    Rows (openRow agent table) flat where
  row_eq := by
    intro other
    rw [row_openRow, rows.row_eq]
  distinct := by
    unfold openRow
    split
    · exact rows.distinct
    · exact Table.distinct_store rows.distinct _ _

theorem rows_remove (rows : Rows table flat) (agent command : Value) :
    Rows (setRow agent (Table.remove command (row agent table)) table)
      (Table.remove (agent, command) flat) where
  row_eq := by
    intro other
    rw [row_setRow, flatRow_remove]
    split
    · rename_i same
      rw [rows.row_eq, flatRow_congr same]
    · exact rows.row_eq other
  distinct := by
    unfold setRow
    split
    · exact rows.distinct.sublist (Table.remove_sublist _ _)
    · exact Table.distinct_store rows.distinct _ _

theorem rows_remove_of_not_holds (rows : Rows table flat) {agent : Value}
    (absent : Table.holds agent table = false) (command : Value) :
    Rows table (Table.remove (agent, command) flat) := by
  have unheld : Table.holds (agent, command) flat = false := by
    have noRow := Table.holds_eq_isSome_lookup agent table
    rw [absent] at noRow
    have none : Table.lookup agent table = none := by simpa using noRow.symm
    rw [rows.holds, find?, row, none]
    rfl
  rw [Table.remove_of_not_holds unheld]
  exact rows

end Rows

theorem perform_registerUsage_refines {tables : CommandTables} {flat : Flat}
    (refines : Refines tables flat) (usage : Usage) :
    (tables.addUsage usage).2 = (flat.perform (.registerUsage (some usage))).2 ∧
      Refines (tables.addUsage usage).1 (flat.perform (.registerUsage (some usage))).1 := by
  cases agentHolds : usage.agent.holds with
  | false => simp [addUsage, Flat.perform, agentHolds, refines]
  | true =>
      cases commandHolds : usage.command.holds with
      | false => simp [addUsage, Flat.perform, commandHolds, refines]
      | true =>
          cases agentKey : usage.agent.isKey with
          | false => simp [addUsage, Flat.perform, agentHolds, commandHolds, agentKey, refines]
          | true =>
              cases commandKey : usage.command.isKey with
              | false =>
                  simp only [addUsage, Flat.perform, agentHolds, commandHolds, agentKey,
                    commandKey, Bool.not_true, Bool.not_false, Bool.or_self, Bool.and_self,
                    Bool.and_false, Bool.false_eq_true, if_false, if_true, true_and]
                  exact ⟨refines.handlers, rows_openRow refines.usages _⟩
              | true =>
                  rw [addUsage_of_storable ⟨agentHolds, commandHolds, agentKey, commandKey⟩]
                  simp only [Flat.perform, agentHolds, commandHolds, agentKey, commandKey,
                    Bool.and_self, Bool.not_true, Bool.false_eq_true, if_false, true_and]
                  exact ⟨refines.handlers, rows_place refines.usages _ _ _⟩

theorem perform_register_refines {tables : CommandTables} {flat : Flat}
    (refines : Refines tables flat) (agent command : Value) (handler : Handler) :
    (tables.perform (.register agent command (some handler))).2 =
        (flat.perform (.register agent command (some handler))).2 ∧
      Refines (tables.perform (.register agent command (some handler))).1
        (flat.perform (.register agent command (some handler))).1 := by
  cases holds : agent.holds && command.holds with
  | false =>
      simp only [perform, Flat.perform, addHandler_of_blank holds, holds, Bool.not_false, if_true]
      exact ⟨rfl, refines⟩
  | true =>
      obtain ⟨agentHolds, commandHolds⟩ := Bool.and_eq_true_iff.mp holds
      cases agentKey : agent.isKey with
      | false =>
          simp [perform, addHandler, Flat.perform, agentHolds, commandHolds, agentKey, refines,
            Except.map]
      | true =>
          cases commandKey : command.isKey with
          | false =>
              simp only [perform, addHandler, Flat.perform, agentHolds, commandHolds, agentKey,
                commandKey, Bool.not_true, Bool.not_false, Bool.or_self, Bool.and_self,
                Bool.and_false, Bool.false_eq_true, if_false, if_true]
              exact ⟨rfl, rows_openRow refines.handlers _, refines.usages⟩
          | true =>
              have storable : Storable agent command :=
                ⟨agentHolds, commandHolds, agentKey, commandKey⟩
              have held := refines.handlers.holds agent command
              rw [← handler?_eq] at held
              cases present : (tables.handler? agent command).isSome with
              | true =>
                  rw [present] at held
                  simp only [perform, addHandler_of_duplicate storable present, Flat.perform,
                    holds, agentKey, commandKey, held, Bool.and_self, Bool.not_true,
                    Bool.false_eq_true, if_false, if_true]
                  exact ⟨rfl, refines⟩
              | false =>
                  rw [present] at held
                  simp only [perform, addHandler_of_fresh storable present, Flat.perform,
                    holds, agentKey, commandKey, held, Bool.and_self, Bool.not_true,
                    Bool.false_eq_true, if_false]
                  rw [← Table.store_of_not_holds held]
                  exact ⟨rfl, rows_place refines.handlers _ _ _, refines.usages⟩

theorem perform_unregister_refines {tables : CommandTables} {flat : Flat}
    (refines : Refines tables flat) (agent command : Value) :
    (tables.remove agent command).2 = (flat.perform (.unregister agent command)).2 ∧
      Refines (tables.remove agent command).1 (flat.perform (.unregister agent command)).1 := by
  have emptiness : (row agent tables.handlers).isEmpty = !flat.knows agent := by
    rw [refines.handlers.row_eq, isEmpty_flatRow]
    rfl
  have held : Table.holds command (row agent tables.handlers) =
      Table.holds (agent, command) flat.handlers := by
    rw [holds_row, refines.handlers.holds]
  cases agentKey : agent.isKey with
  | false => simp [remove, Flat.perform, agentKey, refines]
  | true =>
      cases known : flat.knows agent with
      | false => simp [remove, Flat.perform, agentKey, emptiness, known, refines]
      | true =>
          cases commandKey : command.isKey with
          | false => simp [remove, Flat.perform, agentKey, emptiness, known, commandKey, refines]
          | true =>
              cases present : Table.holds (agent, command) flat.handlers with
              | false =>
                  simp [remove, Flat.perform, agentKey, emptiness, known, commandKey, held,
                    present, refines]
              | true =>
                  simp only [remove, Flat.perform, agentKey, emptiness, known, commandKey, held,
                    present, Bool.not_true, Bool.false_eq_true, if_false, true_and]
                  refine ⟨rows_remove refines.handlers agent command, ?_⟩
                  cases described : Table.holds agent tables.usages with
                  | true =>
                      simp only [if_true]
                      exact rows_remove refines.usages agent command
                  | false =>
                      simp only [Bool.false_eq_true, if_false]
                      exact rows_remove_of_not_holds refines.usages described command

/-- A request has the same outcome on both sides, and keeps the refinement. -/
theorem perform_refines {tables : CommandTables} {flat : Flat} (refines : Refines tables flat)
    (request : Request) :
    (tables.perform request).2 = (flat.perform request).2 ∧
      Refines (tables.perform request).1 (flat.perform request).1 := by
  cases request with
  | register agent command handler =>
      cases handler with
      | none => exact ⟨rfl, refines⟩
      | some handler => exact perform_register_refines refines agent command handler
  | registerUsage usage =>
      cases usage with
      | none => exact ⟨rfl, refines⟩
      | some usage => exact perform_registerUsage_refines refines usage
  | unregister agent command => exact perform_unregister_refines refines agent command

theorem performAll_refines {tables : CommandTables} {flat : Flat} (refines : Refines tables flat)
    (requests : List Request) :
    Refines (tables.performAll requests) (flat.performAll requests) := by
  induction requests generalizing tables flat with
  | nil => exact refines
  | cons request rest induction => exact induction (perform_refines refines request).2

/-- Handlers and usages are found as in flat tables.  All usages come agent by agent; the
order of the agents is left open. -/
structure Answers (tables : CommandTables) (flat : Flat) : Prop where
  handler : ∀ agent command : Key,
    tables.findHandler agent.value command.value =
      .ok (Table.lookup (agent.value, command.value) flat.handlers)
  usage : ∀ agent command : Key,
    tables.findUsage agent.value command.value =
      .ok (Table.lookup (agent.value, command.value) flat.usages)
  agentUsages : ∀ agent : Key, tables.findAgentUsages agent.value = .ok (flat.usagesOf agent.value)
  allUsages : ∃ agents : List Value,
    (agents.Pairwise fun left right => (left == right) = false) ∧
      (∀ entry ∈ flat.usages, ∃ agent ∈ agents, (entry.1.1 == agent) = true) ∧
      tables.allUsages = agents.flatMap flat.usagesOf

theorem isKey_value (key : Key) : key.value.isKey = true := by
  rw [Value.isKey, Key.key?_value]
  rfl

theorem agentUsages_eq {tables : CommandTables} {flat : Flat} (refines : Refines tables flat)
    (agent : Value) : tables.agentUsages agent = flat.usagesOf agent := by
  rw [agentUsages, refines.usages.row_eq, map_flatRow, Flat.usagesOf]

theorem answers_of_refines {tables : CommandTables} {flat : Flat}
    (refines : Refines tables flat) : Answers tables flat where
  handler := by
    intro agent command
    rw [← refines.handlers.find?, ← handler?_eq]
    exact findHandler_of_isKey tables (isKey_value agent) (isKey_value command)
  usage := by
    intro agent command
    rw [← refines.usages.find?]
    simp [findUsage, isKey_value, usage?, find?]
  agentUsages := by
    intro agent
    simp [findAgentUsages, isKey_value, agentUsages_eq refines]
  allUsages := by
    refine ⟨tables.usages.map (·.1), ?_, ?_, ?_⟩
    · exact List.pairwise_map.mpr refines.usages.distinct
    · intro entry member
      have filled : (flatRow entry.1.1 flat.usages).isEmpty = false := by
        rw [isEmpty_flatRow, Bool.not_eq_false', List.any_eq_true]
        exact ⟨entry, member, beq_self_eq_true _⟩
      rw [← refines.usages.row_eq] at filled
      cases found : Table.lookup entry.1.1 tables.usages with
      | none =>
          rw [row, found] at filled
          cases filled
      | some commands =>
          obtain ⟨listed, listedMember, same, -⟩ := Table.exists_mem_of_lookup found
          exact ⟨listed.1, List.mem_map_of_mem listedMember, BEq.symm same⟩
    · rw [List.flatMap_map, allUsages]
      rw [List.flatMap_def, List.flatMap_def]
      refine congrArg List.flatten (List.map_congr_left fun entry member => ?_)
      rw [← agentUsages_eq refines, agentUsages, row,
        Table.lookup_of_mem refines.usages.distinct member]
      rfl

/-- Every agent in the tables has a command there. -/
structure Filled (tables : CommandTables) : Prop where
  handlers : ∀ entry ∈ tables.handlers, entry.2 ≠ []
  usages : ∀ entry ∈ tables.usages, entry.2 ≠ []

theorem filled_empty : Filled CommandTables.empty where
  handlers := fun _ member => by cases member
  usages := fun _ member => by cases member

section Filled

variable {table : List (Value × List (Value × β))}

theorem filled_store (filled : ∀ entry ∈ table, entry.2 ≠ []) (agent : Value)
    {commands : List (Value × β)} (nonempty : commands ≠ []) :
    ∀ entry ∈ Table.store agent commands table, entry.2 ≠ [] := by
  intro entry member
  rcases Table.mem_store member with earlier | ⟨same, -⟩
  · exact filled entry earlier
  · rw [same]
    exact nonempty

theorem filled_place (filled : ∀ entry ∈ table, entry.2 ≠ []) (agent command : Value)
    (value : β) : ∀ entry ∈ place agent command value table, entry.2 ≠ [] :=
  filled_store filled agent (Table.store_ne_nil _ _ _)

theorem filled_setRow (filled : ∀ entry ∈ table, entry.2 ≠ []) (agent : Value)
    (commands : List (Value × β)) : ∀ entry ∈ setRow agent commands table, entry.2 ≠ [] := by
  unfold setRow
  split
  · exact fun entry member => filled entry ((Table.remove_sublist _ _).subset member)
  · rename_i nonempty
    rw [List.isEmpty_iff] at nonempty
    exact filled_store filled agent nonempty

theorem row_ne_nil (filled : ∀ entry ∈ table, entry.2 ≠ []) {agent : Value}
    (held : Table.holds agent table = true) : row agent table ≠ [] := by
  rw [Table.holds_eq_isSome_lookup] at held
  obtain ⟨commands, found⟩ := Option.isSome_iff_exists.mp held
  obtain ⟨entry, member, -, rfl⟩ := Table.exists_mem_of_lookup found
  rw [row, found]
  exact filled entry member

theorem setRow_row (filled : ∀ entry ∈ table, entry.2 ≠ []) {agent : Value}
    (held : Table.holds agent table = true) : setRow agent (row agent table) table = table := by
  have nonempty := row_ne_nil filled held
  rw [Table.holds_eq_isSome_lookup] at held
  obtain ⟨commands, found⟩ := Option.isSome_iff_exists.mp held
  rw [row, found] at nonempty ⊢
  rw [setRow, if_neg (by simpa using nonempty)]
  exact Table.store_of_lookup found

/-- Taking away what was placed under a new pair leaves the table as it was. -/
theorem remove_place (filled : ∀ entry ∈ table, entry.2 ≠ []) {agent command : Value}
    (absent : (find? agent command table).isSome = false) (value : β) :
    setRow agent (Table.remove command (row agent (place agent command value table)))
        (place agent command value table) = table := by
  rw [← holds_row] at absent
  rw [row_place, BEq.rfl, if_pos rfl, Table.remove_store_of_not_holds absent, setRow]
  cases held : Table.holds agent table with
  | true =>
      have same := setRow_row filled held
      have nonempty := row_ne_nil filled held
      rw [setRow, if_neg (by simpa using nonempty)] at same
      rw [if_neg (by simpa using nonempty), place, Table.store_store, same]
  | false =>
      have none : Table.lookup agent table = none := by
        have unheld := Table.holds_eq_isSome_lookup agent table
        rw [held] at unheld
        simpa using unheld.symm
      have empty : row agent table = [] := by rw [row, none]; rfl
      rw [empty, List.isEmpty_nil, if_pos rfl, place, Table.remove_store_of_not_holds held]

end Filled

/-- Requests whose agents and commands can be keys leave no row empty. -/
theorem filled_perform {tables : CommandTables} (filled : tables.Filled) {request : Request}
    (keyed : request.isKeyed = true) : (tables.perform request).1.Filled := by
  cases request with
  | register agent command handler =>
      obtain ⟨agentKey, commandKey⟩ := Bool.and_eq_true_iff.mp keyed
      cases handler with
      | none => exact filled
      | some handler =>
          unfold perform addHandler
          simp only [agentKey, commandKey, Bool.not_true, Bool.false_eq_true, if_false]
          split
          · exact filled
          · split
            · exact filled
            · exact ⟨filled_place filled.handlers _ _ _, filled.usages⟩
  | registerUsage usage =>
      cases usage with
      | none => exact filled
      | some usage =>
          obtain ⟨agentKey, commandKey⟩ := Bool.and_eq_true_iff.mp keyed
          unfold perform addUsage
          simp only [agentKey, commandKey, Bool.not_true, Bool.false_eq_true, if_false]
          split
          · exact filled
          · exact ⟨filled.handlers, filled_place filled.usages _ _ _⟩
  | unregister agent command =>
      unfold perform remove
      dsimp only
      split
      · exact filled
      · split
        · exact filled
        · split
          · exact filled
          · split
            · exact filled
            · refine ⟨filled_setRow filled.handlers _ _, ?_⟩
              dsimp only
              split
              · exact filled_setRow filled.usages _ _
              · exact filled.usages

theorem filled_performAll {tables : CommandTables} (filled : tables.Filled)
    {requests : List Request} (keyed : ∀ request ∈ requests, request.isKeyed = true) :
    (tables.performAll requests).Filled := by
  induction requests generalizing tables with
  | nil => exact filled
  | cons request rest induction =>
      obtain ⟨here, later⟩ := List.forall_mem_cons.mp keyed
      exact induction (filled_perform filled here) later

theorem remove_of_absent {tables : CommandTables} {agent command : Value}
    (absent : (tables.handler? agent command).isSome = false) :
    (tables.remove agent command).1 = tables := by
  have unheld : Table.holds command (row agent tables.handlers) = false := by
    rw [holds_row]
    exact absent
  unfold remove
  simp only [unheld, Bool.not_false, if_true]
  split
  · rfl
  · split
    · rfl
    · split <;> rfl

/-- A handler that is stored under a new pair and removed again leaves the tables as they
were. -/
theorem unregister_register {tables : CommandTables} (filled : tables.Filled)
    {agent command : Value} (keyed : (agent.isKey && command.isKey) = true)
    (noHandler : (tables.handler? agent command).isSome = false)
    (noUsage : (tables.usage? agent command).isSome = false) (handler : Option Handler) :
    ((tables.perform (.register agent command handler)).1.perform
      (.unregister agent command)).1 = tables := by
  obtain ⟨agentKey, commandKey⟩ := Bool.and_eq_true_iff.mp keyed
  cases handler with
  | none => exact remove_of_absent noHandler
  | some handler =>
      cases holds : agent.holds && command.holds with
      | false =>
          simp only [perform, addHandler_of_blank holds]
          exact remove_of_absent noHandler
      | true =>
          obtain ⟨agentHolds, commandHolds⟩ := Bool.and_eq_true_iff.mp holds
          simp only [perform, addHandler_of_fresh ⟨agentHolds, commandHolds, agentKey, commandKey⟩
            noHandler]
          have placed := remove_place filled.handlers noHandler handler
          have stored : row agent (place agent command handler tables.handlers) =
              Table.store command handler (row agent tables.handlers) := by
            rw [row_place, BEq.rfl, if_pos rfl]
          have nonempty :
              (row agent (place agent command handler tables.handlers)).isEmpty = false := by
            rw [stored, List.isEmpty_eq_false_iff]
            exact Table.store_ne_nil _ _ _
          have held :
              Table.holds command (row agent (place agent command handler tables.handlers)) =
                true := by
            rw [stored, Table.holds_eq_isSome_lookup, Table.lookup_store_self]
            rfl
          simp only [remove, agentKey, commandKey, nonempty, held, Bool.not_true,
            Bool.false_eq_true, if_false, placed]
          cases described : Table.holds agent tables.usages with
          | true =>
              have unheld : Table.holds command (row agent tables.usages) = false := by
                rw [Table.holds_eq_isSome_lookup]
                exact noUsage
              rw [if_pos rfl, Table.remove_of_not_holds unheld, setRow_row filled.usages described]
          | false => rfl

end CommandTables

end ChatDispatch
