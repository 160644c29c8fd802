import ChatDispatch.CommandTables
import ChatDispatch.Proofs.Table
import Mathlib.Data.List.Induction

/-!
# Laws of the command tables

A table of rows answers as a flat table from pairs of an agent and a command: storing under
one pair of keys is seen under that pair and under no other.  A handler is stored once: of
the pairs that agree, only the first one gets a place.
-/

namespace ChatDispatch.CommandTables

variable {β : Type}

def find? (agent command : Value) (table : List (Value × List (Value × β))) : Option β :=
  Table.lookup command (row agent table)

/-- Stores a value under an agent and a command. -/
def place (agent command : Value) (value : β) (table : List (Value × List (Value × β))) :
    List (Value × List (Value × β)) :=
  Table.store agent (Table.store command value (row agent table)) table

/-- The table of rows that results from storing values one after the other. -/
def nest (entries : List (Value × Value × β)) : List (Value × List (Value × β)) :=
  entries.foldl (fun table entry => place entry.1 entry.2.1 entry.2.2 table) []

theorem holds_row (agent command : Value) (table : List (Value × List (Value × β))) :
    Table.holds command (row agent table) = (find? agent command table).isSome :=
  Table.holds_eq_isSome_lookup command (row agent table)

theorem row_congr {agent other : Value} (same : (agent == other) = true)
    (table : List (Value × List (Value × β))) : row agent table = row other table := by
  simp only [row, Table.lookup_congr same]

theorem find?_congr {agent other command otherCommand : Value} (sameAgent : (agent == other) = true)
    (sameCommand : (command == otherCommand) = true) (table : List (Value × List (Value × β))) :
    find? agent command table = find? other otherCommand table := by
  rw [find?, find?, row_congr sameAgent, Table.lookup_congr sameCommand]

/-- Storing a value changes the row of its agent, and no other row. -/
theorem row_place (agent command : Value) (value : β) (table : List (Value × List (Value × β)))
    (other : Value) :
    row other (place agent command value table) =
      if agent == other then Table.store command value (row other table) else row other table := by
  cases sameAgent : agent == other with
  | true =>
      have stored : Table.lookup other (place agent command value table) =
          some (Table.store command value (row agent table)) := by
        rw [← Table.lookup_congr sameAgent, place, Table.lookup_store_self]
      rw [if_pos rfl, row, stored, row_congr sameAgent]
      rfl
  | false =>
      rw [if_neg Bool.false_ne_true, row, place, Table.lookup_store_of_ne sameAgent, row]

theorem row_setRow (agent : Value) (commands : List (Value × β))
    (table : List (Value × List (Value × β))) (other : Value) :
    row other (setRow agent commands table) =
      if agent == other then commands else row other table := by
  unfold setRow
  cases sameAgent : agent == other with
  | true =>
      rw [if_pos rfl, ← row_congr sameAgent]
      split
      · rename_i empty
        rw [row, Table.lookup_remove_self, List.isEmpty_iff.mp empty]
        rfl
      · rw [row, Table.lookup_store_self]
        rfl
  | false =>
      rw [if_neg Bool.false_ne_true]
      split
      · rw [row, Table.lookup_remove_of_ne sameAgent, row]
      · rw [row, Table.lookup_store_of_ne sameAgent, row]

/-- What is found after a command has been removed was found before. -/
theorem find?_of_setRow_remove {agent command other otherCommand : Value}
    {table : List (Value × List (Value × β))} {value : β}
    (found :
      find? other otherCommand
        (setRow agent (Table.remove command (row agent table)) table) = some value) :
    find? other otherCommand table = some value := by
  rw [find?, row_setRow] at found
  split at found
  · rename_i sameAgent
    cases sameCommand : command == otherCommand with
    | true =>
        rw [← Table.lookup_congr sameCommand, Table.lookup_remove_self] at found
        cases found
    | false =>
        rw [Table.lookup_remove_of_ne sameCommand, row_congr sameAgent] at found
        exact found
  · exact found

theorem find?_setRow_remove {agent command other otherCommand : Value}
    (apart : (agent == other && command == otherCommand) = false)
    (table : List (Value × List (Value × β))) :
    find? other otherCommand (setRow agent (Table.remove command (row agent table)) table) =
      find? other otherCommand table := by
  rw [find?, row_setRow]
  split
  · rename_i sameAgent
    have different : (command == otherCommand) = false := by simpa [sameAgent] using apart
    rw [Table.lookup_remove_of_ne different, row_congr sameAgent]
    rfl
  · rfl

/-- A stored value is found under its pair of keys, and nothing else changes. -/
theorem find?_place (agent command : Value) (value : β)
    (table : List (Value × List (Value × β))) (other otherCommand : Value) :
    find? other otherCommand (place agent command value table) =
      if agent == other && command == otherCommand then some value
      else find? other otherCommand table := by
  rw [find?, row_place]
  cases sameAgent : agent == other with
  | true =>
      rw [if_pos rfl]
      cases sameCommand : command == otherCommand with
      | true =>
          rw [← Table.lookup_congr sameCommand, Table.lookup_store_self]
          rfl
      | false =>
          rw [Table.lookup_store_of_ne sameCommand]
          rfl
  | false => rfl

theorem find?_place_self (agent command : Value) (value : β)
    (table : List (Value × List (Value × β))) :
    find? agent command (place agent command value table) = some value := by
  rw [find?_place, BEq.rfl, BEq.rfl, Bool.and_self, if_pos rfl]

theorem find?_place_of_apart {agent command other otherCommand : Value}
    (apart : (agent == other && command == otherCommand) = false) (value : β)
    (table : List (Value × List (Value × β))) :
    find? other otherCommand (place agent command value table) =
      find? other otherCommand table := by
  rw [find?_place, apart, if_neg Bool.false_ne_true]

theorem find?_place_of_absent {agent command : Value} {table : List (Value × List (Value × β))}
    (absent : (find? agent command table).isSome = false) (value : β)
    {other otherCommand : Value} {present : β}
    (found : find? other otherCommand table = some present) :
    find? other otherCommand (place agent command value table) = some present := by
  rw [find?_place]
  split
  · rename_i agree
    obtain ⟨sameAgent, sameCommand⟩ := Bool.and_eq_true_iff.mp agree
    rw [find?_congr sameAgent sameCommand, found] at absent
    cases absent
  · exact found

theorem row_openRow (agent other : Value) (table : List (Value × List (Value × β))) :
    row other (openRow agent table) = row other table := by
  unfold openRow
  cases present : Table.holds agent table with
  | true => rfl
  | false =>
      cases sameAgent : agent == other with
      | true =>
          have absent : Table.lookup other table = none := by
            have unheld := Table.holds_eq_isSome_lookup agent table
            rw [present, Table.lookup_congr sameAgent] at unheld
            simpa using unheld.symm
          have opened : Table.lookup other (Table.store agent [] table) = some [] := by
            rw [← Table.lookup_congr sameAgent, Table.lookup_store_self]
          simp [row, opened, absent]
      | false => simp [row, Table.lookup_store_of_ne sameAgent]

theorem find?_openRow (agent other command : Value) (table : List (Value × List (Value × β))) :
    find? other command (openRow agent table) = find? other command table := by
  rw [find?, find?, row_openRow]

theorem nest_append_singleton (entries : List (Value × Value × β)) (agent command : Value)
    (value : β) :
    nest (entries ++ [(agent, command, value)]) = place agent command value (nest entries) := by
  simp [nest]

/-- What is found in a table of rows was stored under a pair that agrees. -/
theorem exists_mem_of_find?_nest {entries : List (Value × Value × β)} {agent command : Value}
    {value : β} (found : find? agent command (nest entries) = some value) :
    ∃ entry ∈ entries,
      (entry.1 == agent) = true ∧ (entry.2.1 == command) = true ∧ entry.2.2 = value := by
  induction entries using List.reverseRecOn with
  | nil => cases found
  | append_singleton entries entry induction =>
      obtain ⟨ownAgent, ownCommand, own⟩ := entry
      rw [nest_append_singleton, find?_place] at found
      split at found
      · rename_i agree
        obtain ⟨sameAgent, sameCommand⟩ := Bool.and_eq_true_iff.mp agree
        exact ⟨_, List.mem_append_right _ List.mem_cons_self, sameAgent, sameCommand,
          Option.some.inj found⟩
      · obtain ⟨earlier, member, rest⟩ := induction found
        exact ⟨earlier, List.mem_append_left _ member, rest⟩

theorem isSome_find?_nest (entries : List (Value × Value × β)) (agent command : Value) :
    (find? agent command (nest entries)).isSome =
      entries.any fun entry => entry.1 == agent && entry.2.1 == command := by
  induction entries using List.reverseRecOn with
  | nil => rfl
  | append_singleton entries entry induction =>
      obtain ⟨ownAgent, ownCommand, own⟩ := entry
      rw [nest_append_singleton, find?_place, List.any_append, ← induction]
      cases agree : ownAgent == agent && ownCommand == command with
      | true => simp [agree]
      | false => simp [agree]

theorem handler?_eq (tables : CommandTables) (agent command : Value) :
    tables.handler? agent command = find? agent command tables.handlers :=
  rfl

theorem findHandler_of_isKey (tables : CommandTables) {agent command : Value}
    (agentKey : agent.isKey = true) (commandKey : command.isKey = true) :
    tables.findHandler agent command = .ok (tables.handler? agent command) := by
  simp [findHandler, agentKey, commandKey]

/-- A command with what the tables keep of it. -/
structure Entry where
  agent : Value
  command : Value
  handler : Handler
  usage : Usage
deriving DecidableEq

def Entry.isOf (agent command : Value) (entry : Entry) : Bool :=
  entry.agent == agent && entry.command == command

/-- The tables that keep some commands, one after the other. -/
def ofEntries (entries : List Entry) : CommandTables where
  handlers := nest (entries.map fun entry => (entry.agent, entry.command, entry.handler))
  usages := nest (entries.map fun entry => (entry.agent, entry.command, entry.usage))

theorem isSome_handler?_ofEntries (entries : List Entry) (agent command : Value) :
    ((ofEntries entries).handler? agent command).isSome =
      entries.any (Entry.isOf agent command) := by
  rw [handler?_eq, ofEntries, isSome_find?_nest, List.any_map]
  rfl

theorem exists_mem_of_handler?_ofEntries {entries : List Entry} {agent command : Value}
    {handler : Handler} (found : (ofEntries entries).handler? agent command = some handler) :
    ∃ entry ∈ entries, entry.isOf agent command = true ∧ entry.handler = handler := by
  obtain ⟨_, member, sameAgent, sameCommand, own⟩ := exists_mem_of_find?_nest found
  obtain ⟨entry, listed, rfl⟩ := List.mem_map.mp member
  exact ⟨entry, listed, Bool.and_eq_true_iff.mpr ⟨sameAgent, sameCommand⟩, own⟩

theorem ofEntries_append_singleton (entries : List Entry) (entry : Entry) :
    ofEntries (entries ++ [entry]) =
      { handlers := place entry.agent entry.command entry.handler (ofEntries entries).handlers
        usages := place entry.agent entry.command entry.usage (ofEntries entries).usages } := by
  simp only [ofEntries, List.map_append, List.map_cons, List.map_nil, nest_append_singleton]

/-- An agent and a command that a handler can be stored under. -/
structure Storable (agent command : Value) : Prop where
  agent_holds : agent.holds = true
  command_holds : command.holds = true
  agent_isKey : agent.isKey = true
  command_isKey : command.isKey = true

theorem addHandler_of_blank {agent command : Value}
    (blank : (agent.holds && command.holds) = false) (tables : CommandTables)
    (handler : Handler) :
    tables.addHandler agent command (some handler) = (tables, .ok (some .invalid)) := by
  have refused : (!agent.holds || !command.holds) = true := by
    rw [← Bool.not_and, blank]
    rfl
  simp [addHandler, refused]

theorem addHandler_of_duplicate {agent command : Value} (storable : Storable agent command)
    {tables : CommandTables} (present : (tables.handler? agent command).isSome = true)
    (handler : Handler) :
    tables.addHandler agent command (some handler) = (tables, .ok (some .duplicate)) := by
  have held : Table.holds command (row agent tables.handlers) = true := by
    rw [holds_row]
    exact present
  simp [addHandler, storable.agent_holds, storable.command_holds, storable.agent_isKey,
    storable.command_isKey, held]

theorem addHandler_of_fresh {agent command : Value} (storable : Storable agent command)
    {tables : CommandTables} (absent : (tables.handler? agent command).isSome = false)
    (handler : Handler) :
    tables.addHandler agent command (some handler) =
      ({ tables with handlers := place agent command handler tables.handlers }, .ok none) := by
  have unheld : Table.holds command (row agent tables.handlers) = false := by
    rw [holds_row]
    exact absent
  simp [addHandler, storable.agent_holds, storable.command_holds, storable.agent_isKey,
    storable.command_isKey, unheld, place]

/-- A key that is a collection is a fault, and no answer of the tables changes. -/
theorem addHandler_of_unkeyed {agent command : Value}
    (holds : (agent.holds && command.holds) = true)
    (unkeyed : (agent.isKey && command.isKey) = false) (tables : CommandTables)
    (handler : Handler) :
    ∃ handlers,
      tables.addHandler agent command (some handler) =
        ({ tables with handlers },
          .error (.notAKey (if agent.isKey then command else agent).kind)) ∧
      ∀ other otherCommand,
        find? other otherCommand handlers = find? other otherCommand tables.handlers := by
  obtain ⟨agentHolds, commandHolds⟩ := Bool.and_eq_true_iff.mp holds
  cases agentKey : agent.isKey with
  | false =>
      refine ⟨tables.handlers, ?_, fun _ _ => rfl⟩
      simp [addHandler, agentHolds, commandHolds, agentKey]
  | true =>
      have commandKey : command.isKey = false := by simpa [agentKey] using unkeyed
      refine ⟨openRow agent tables.handlers, ?_, fun _ _ => find?_openRow _ _ _ _⟩
      simp [addHandler, agentHolds, commandHolds, agentKey, commandKey]

/-- A handler is stored under a pair that has none, or no answer of the tables changes. -/
theorem addHandler_cases (tables : CommandTables) (agent command : Value) (handler : Handler) :
    (Storable agent command ∧ (tables.handler? agent command).isSome = false ∧
      tables.addHandler agent command (some handler) =
        ({ tables with handlers := place agent command handler tables.handlers }, .ok none)) ∨
    ∃ handlers outcome,
      tables.addHandler agent command (some handler) = ({ tables with handlers }, outcome) ∧
      outcome ≠ .ok none ∧
      ∀ other otherCommand,
        find? other otherCommand handlers = find? other otherCommand tables.handlers := by
  cases holds : agent.holds && command.holds with
  | false =>
      right
      exact ⟨tables.handlers, .ok (some .invalid), addHandler_of_blank holds tables handler,
        by simp, fun _ _ => rfl⟩
  | true =>
      cases keyed : agent.isKey && command.isKey with
      | false =>
          right
          obtain ⟨handlers, refused, same⟩ := addHandler_of_unkeyed holds keyed tables handler
          exact ⟨handlers, _, refused, by simp, same⟩
      | true =>
          obtain ⟨agentHolds, commandHolds⟩ := Bool.and_eq_true_iff.mp holds
          obtain ⟨agentKey, commandKey⟩ := Bool.and_eq_true_iff.mp keyed
          have storable : Storable agent command :=
            ⟨agentHolds, commandHolds, agentKey, commandKey⟩
          cases present : (tables.handler? agent command).isSome with
          | false =>
              left
              exact ⟨storable, rfl, addHandler_of_fresh storable present handler⟩
          | true =>
              right
              exact ⟨tables.handlers, .ok (some .duplicate),
                addHandler_of_duplicate storable present handler, by simp, fun _ _ => rfl⟩

theorem usages_addHandler (tables : CommandTables) (agent command : Value)
    (handler : Option Handler) :
    (tables.addHandler agent command handler).1.usages = tables.usages := by
  cases handler with
  | none => rfl
  | some handler =>
      rcases tables.addHandler_cases agent command handler with
        ⟨-, -, stored⟩ | ⟨handlers, outcome, refused, -, -⟩
      · rw [stored]
      · rw [refused]

/-- A command that is found after one has been removed was found before. -/
theorem handler?_of_remove {tables : CommandTables} {agent command other otherCommand : Value}
    {handler : Handler}
    (found : (tables.remove agent command).1.handler? other otherCommand = some handler) :
    tables.handler? other otherCommand = some handler := by
  unfold remove at found
  dsimp only at found
  split at found
  · exact found
  · split at found
    · exact found
    · split at found
      · exact found
      · split at found
        · exact found
        · exact find?_of_setRow_remove found

theorem handler?_remove {agent command other otherCommand : Value}
    (apart : (agent == other && command == otherCommand) = false) (tables : CommandTables) :
    (tables.remove agent command).1.handler? other otherCommand =
      tables.handler? other otherCommand := by
  unfold remove
  dsimp only
  split
  · rfl
  · split
    · rfl
    · split
      · rfl
      · split
        · rfl
        · exact find?_setRow_remove apart tables.handlers

theorem usage?_remove {agent command other otherCommand : Value}
    (apart : (agent == other && command == otherCommand) = false) (tables : CommandTables) :
    (tables.remove agent command).1.usage? other otherCommand =
      tables.usage? other otherCommand := by
  unfold remove
  dsimp only
  split
  · rfl
  · split
    · rfl
    · split
      · rfl
      · split
        · rfl
        · unfold usage?
          dsimp only
          split
          · exact find?_setRow_remove apart tables.usages
          · rfl

theorem handlers_addUsage (tables : CommandTables) (usage : Usage) :
    (tables.addUsage usage).1.handlers = tables.handlers := by
  unfold addUsage
  split
  · rfl
  · split
    · rfl
    · split <;> rfl

theorem handler?_addUsage (tables : CommandTables) (usage : Usage) (agent command : Value) :
    (tables.addUsage usage).1.handler? agent command = tables.handler? agent command := by
  rw [handler?_eq, handlers_addUsage]
  rfl

theorem addUsage_of_storable {usage : Usage} (storable : Storable usage.agent usage.command)
    (tables : CommandTables) :
    tables.addUsage usage =
      ({ tables with usages := place usage.agent usage.command usage tables.usages },
        .ok true) := by
  simp [addUsage, storable.agent_holds, storable.command_holds, storable.agent_isKey,
    storable.command_isKey, place]

/-- A usage is stored under its keys, or no answer of the tables changes. -/
theorem addUsage_cases (tables : CommandTables) (usage : Usage) :
    (tables.addUsage usage).1 =
        { tables with usages := place usage.agent usage.command usage tables.usages } ∨
      ∀ agent command,
        (tables.addUsage usage).1.usage? agent command = tables.usage? agent command := by
  unfold addUsage
  split
  · exact .inr fun _ _ => rfl
  · split
    · exact .inr fun _ _ => rfl
    · split
      · exact .inr fun _ _ => find?_openRow _ _ _ _
      · exact .inl rfl

theorem usage?_addUsage {usage : Usage} {agent command : Value}
    (apart : (usage.agent == agent && usage.command == command) = false)
    (tables : CommandTables) :
    (tables.addUsage usage).1.usage? agent command = tables.usage? agent command := by
  rcases addUsage_cases tables usage with stored | same
  · rw [stored]
    exact find?_place_of_apart apart usage tables.usages
  · exact same agent command

end ChatDispatch.CommandTables
