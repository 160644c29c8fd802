import Mathlib.Data.List.Basic
import ChatDispatch.Proofs.CommandTables

/-!
# Handlers and their usages

The help of a command is in a table of its own.  When a command gets its usage right after its
handler, and both are removed together, the two tables are aligned: the same agents in the same
order, and for each the same commands.  Then the commands of a sigil are those of the usages that
have it, no more and no less.
-/

namespace ChatDispatch

namespace Table

variable {κ β γ : Type} [BEq κ]

def mapValues (change : β → γ) (table : List (κ × β)) : List (κ × γ) :=
  table.map fun entry => (entry.1, change entry.2)

theorem lookup_mapValues (change : β → γ) (key : κ) (table : List (κ × β)) :
    lookup key (mapValues change table) = (lookup key table).map change := by
  induction table with
  | nil => rfl
  | cons entry rest induction =>
      cases present : entry.1 == key with
      | true => simp [mapValues, lookup, present]
      | false => simpa [mapValues, lookup, present] using induction

theorem mapValues_store (change : β → γ) (key : κ) (value : β) (table : List (κ × β)) :
    mapValues change (store key value table) =
      store key (change value) (mapValues change table) := by
  induction table with
  | nil => rfl
  | cons entry rest induction =>
      cases present : entry.1 == key with
      | true => simp [mapValues, store, present]
      | false => simpa [mapValues, store, present] using induction

theorem mapValues_remove (change : β → γ) (key : κ) (table : List (κ × β)) :
    mapValues change (remove key table) = remove key (mapValues change table) := by
  induction table with
  | nil => rfl
  | cons entry rest induction =>
      cases present : entry.1 == key with
      | true => simpa [mapValues, remove, present] using induction
      | false => simpa [mapValues, remove, present] using induction

theorem holds_eq_any_keys (key : κ) (table : List (κ × β)) :
    holds key table = (table.map (·.1)).any (· == key) := by
  rw [List.any_map]
  rfl

theorem filterMap_lookup_keys [EquivBEq κ] {table : List (κ × β)} (distinct : Distinct table) :
    (table.map (·.1)).filterMap (lookup · table) = table.map (·.2) := by
  have found : ∀ entry ∈ table, lookup entry.1 table = some entry.2 :=
    fun entry member => lookup_of_mem distinct member
  rw [List.filterMap_map, ← List.filterMap_eq_map]
  exact List.filterMap_congr found

end Table

namespace CommandTables

variable {β γ : Type}

/-- The agents of a table with their commands, in their order. -/
def outline (table : List (Value × List (Value × β))) : List (Value × List Value) :=
  Table.mapValues (List.map (·.1)) table

/-- No agent has two rows, and no command is twice in a row. -/
structure Wellkeyed (table : List (Value × List (Value × β))) : Prop where
  distinct : Table.Distinct table
  rows : ∀ entry ∈ table, Table.Distinct entry.2

variable {table : List (Value × List (Value × β))} {other : List (Value × List (Value × γ))}

theorem distinct_row (wellkeyed : Wellkeyed table) (agent : Value) :
    Table.Distinct (row agent table) := by
  rw [row]
  cases found : Table.lookup agent table with
  | none => exact Table.distinct_nil
  | some commands =>
      obtain ⟨entry, member, -, rfl⟩ := Table.exists_mem_of_lookup found
      exact wellkeyed.rows entry member

theorem wellkeyed_store (wellkeyed : Wellkeyed table) (agent : Value)
    {commands : List (Value × β)} (distinct : Table.Distinct commands) :
    Wellkeyed (Table.store agent commands table) where
  distinct := Table.distinct_store wellkeyed.distinct agent commands
  rows := by
    intro entry member
    rcases Table.mem_store member with earlier | ⟨same, -⟩
    · exact wellkeyed.rows entry earlier
    · rw [same]
      exact distinct

theorem wellkeyed_place (wellkeyed : Wellkeyed table) (agent command : Value) (value : β) :
    Wellkeyed (place agent command value table) :=
  wellkeyed_store wellkeyed agent (Table.distinct_store (distinct_row wellkeyed agent) _ _)

theorem wellkeyed_setRow_remove (wellkeyed : Wellkeyed table) (agent command : Value) :
    Wellkeyed (setRow agent (Table.remove command (row agent table)) table) := by
  have fewer := Table.remove_sublist command (row agent table)
  unfold setRow
  split
  · have left := Table.remove_sublist agent table
    exact ⟨wellkeyed.distinct.sublist left, fun entry member =>
      wellkeyed.rows entry (left.subset member)⟩
  · exact wellkeyed_store wellkeyed agent ((distinct_row wellkeyed agent).sublist fewer)

theorem keys_row (agent : Value) (table : List (Value × List (Value × β))) :
    (row agent table).map (·.1) = (Table.lookup agent (outline table)).getD [] := by
  rw [outline, Table.lookup_mapValues, row]
  cases Table.lookup agent table <;> rfl

theorem keys_row_congr (same : outline table = outline other) (agent : Value) :
    (row agent table).map (·.1) = (row agent other).map (·.1) := by
  rw [keys_row, keys_row, same]

theorem holds_row_congr (same : outline table = outline other) (agent command : Value) :
    Table.holds command (row agent table) = Table.holds command (row agent other) := by
  rw [Table.holds_eq_any_keys, Table.holds_eq_any_keys, keys_row_congr same]

/-- Storing under the same pair of keys leads to the same outlines. -/
theorem outline_place_congr (same : outline table = outline other) (agent command : Value)
    (value : β) (otherValue : γ) :
    outline (place agent command value table) =
      outline (place agent command otherValue other) := by
  rw [outline, place, Table.mapValues_store, outline, place, Table.mapValues_store]
  rw [Table.keys_store, Table.keys_store, keys_row_congr same, holds_row_congr same]
  exact congrArg (Table.store agent _) same

theorem outline_setRow_remove_congr (same : outline table = outline other)
    (agent command : Value) :
    outline (setRow agent (Table.remove command (row agent table)) table) =
      outline (setRow agent (Table.remove command (row agent other)) other) := by
  have sameKeys : (Table.remove command (row agent table)).map (·.1) =
      (Table.remove command (row agent other)).map (·.1) := by
    rw [Table.keys_remove, Table.keys_remove, keys_row_congr same]
  have sameEmpty : (Table.remove command (row agent table)).isEmpty =
      (Table.remove command (row agent other)).isEmpty := by
    rw [← List.isEmpty_map, sameKeys, List.isEmpty_map]
  unfold setRow
  rw [sameEmpty]
  split
  · rw [outline, outline, Table.mapValues_remove, Table.mapValues_remove]
    exact congrArg (Table.remove agent) same
  · rw [outline, outline, Table.mapValues_store, Table.mapValues_store, sameKeys]
    exact congrArg (Table.store agent _) same

/-- Every command that has a handler has a usage and the other way round, in the same order,
and every usage is that of its command and has a form. -/
structure Aligned (tables : CommandTables) : Prop where
  outline : outline tables.handlers = outline tables.usages
  handlers : Wellkeyed tables.handlers
  usages : Wellkeyed tables.usages
  own : ∀ {agent command : Value} {usage : Usage},
    tables.usage? agent command = some usage →
      (agent == usage.agent) = true ∧ (command == usage.command) = true ∧
        ∃ form, usage.form = .text form

theorem aligned_empty : Aligned CommandTables.empty where
  outline := rfl
  handlers := ⟨Table.distinct_nil, fun _ member => by cases member⟩
  usages := ⟨Table.distinct_nil, fun _ member => by cases member⟩
  own := fun found => by cases found

/-- Stores a handler, and the usage unless the handler is refused. -/
def offer (tables : CommandTables) (agent command : Value) (handler : Handler) (usage : Usage) :
    CommandTables :=
  match tables.addHandler agent command (some handler) with
  | (stored, .ok none) => (stored.addUsage usage).1
  | (kept, _) => kept

variable {tables : CommandTables} {agent command : Value}

/-- When the command can be a key, a handler that is refused changes nothing. -/
theorem addHandler_cases_of_isKey (tables : CommandTables) (agent : Value)
    (keyed : command.isKey = true) (handler : Handler) :
    (Storable agent command ∧ (tables.handler? agent command).isSome = false ∧
      tables.addHandler agent command (some handler) =
        ({ tables with handlers := place agent command handler tables.handlers }, .ok none)) ∨
    ∃ outcome, outcome ≠ .ok none ∧
      tables.addHandler agent command (some handler) = (tables, outcome) := by
  rcases holds : agent.holds && command.holds with - | -
  · exact .inr ⟨_, by simp, addHandler_of_blank holds tables handler⟩
  · obtain ⟨agentHolds, commandHolds⟩ := Bool.and_eq_true_iff.mp holds
    rcases agentKey : agent.isKey with - | -
    · refine .inr ⟨.error (.notAKey agent.kind), by simp, ?_⟩
      simp [addHandler, agentHolds, commandHolds, agentKey]
    · have storable : Storable agent command := ⟨agentHolds, commandHolds, agentKey, keyed⟩
      rcases present : (tables.handler? agent command).isSome with - | -
      · exact .inl ⟨storable, rfl, addHandler_of_fresh storable present handler⟩
      · exact .inr ⟨_, by simp, addHandler_of_duplicate storable present handler⟩

/-- A command that is stored with its usage keeps the tables aligned. -/
theorem aligned_offer (aligned : tables.Aligned) (keyed : command.isKey = true)
    (handler : Handler) {usage : Usage} (sameAgent : usage.agent = agent)
    (sameCommand : usage.command = command) {form : String} (formed : usage.form = .text form) :
    (tables.offer agent command handler usage).Aligned := by
  subst sameAgent sameCommand
  rcases tables.addHandler_cases_of_isKey usage.agent keyed handler with
    ⟨storable, -, stored⟩ | ⟨outcome, notStored, refused⟩
  · simp only [offer, stored, addUsage_of_storable storable]
    refine ⟨outline_place_congr aligned.outline _ _ _ _, wellkeyed_place aligned.handlers _ _ _,
      wellkeyed_place aligned.usages _ _ _, ?_⟩
    intro agent command found present
    have placed : find? agent command
        (place usage.agent usage.command usage tables.usages) = some found := present
    rw [find?_place] at placed
    split at placed
    · rename_i agree
      obtain ⟨agentAgrees, commandAgrees⟩ := Bool.and_eq_true_iff.mp agree
      cases placed
      exact ⟨BEq.symm agentAgrees, BEq.symm commandAgrees, form, formed⟩
    · exact aligned.own placed
  · have kept : tables.offer usage.agent usage.command handler usage = tables := by
      rw [offer, refused]
      rcases outcome with fault | ⟨- | refusal⟩
      · rfl
      · exact absurd rfl notStored
      · rfl
    rw [kept]
    exact aligned

theorem aligned_remove (aligned : tables.Aligned) (agent command : Value) :
    (tables.remove agent command).1.Aligned := by
  unfold remove
  dsimp only
  split
  · exact aligned
  · split
    · exact aligned
    · rename_i hasCommands
      split
      · exact aligned
      · split
        · exact aligned
        · have known : Table.holds agent tables.usages = true := by
            rw [Table.holds_eq_isSome_lookup, Option.isSome_iff_ne_none]
            intro unknown
            have none : row agent tables.usages = [] := by
              rw [row, unknown]
              rfl
            have sameKeys := keys_row_congr aligned.outline agent
            rw [none, List.map_nil, List.map_eq_nil_iff] at sameKeys
            rw [sameKeys] at hasCommands
            exact hasCommands rfl
          rw [if_pos known]
          exact {
            outline := outline_setRow_remove_congr aligned.outline agent command
            handlers := wellkeyed_setRow_remove aligned.handlers agent command
            usages := wellkeyed_setRow_remove aligned.usages agent command
            own := fun present => aligned.own (find?_of_setRow_remove present) }

/-- All usages are those under the pairs of the outline, in its order. -/
theorem allUsages_eq_of_wellkeyed (wellkeyed : Wellkeyed tables.usages) :
    tables.allUsages =
      (outline tables.usages).flatMap fun agentRow =>
        agentRow.2.filterMap (tables.usage? agentRow.1) := by
  rw [outline, Table.mapValues, List.flatMap_map]
  apply List.flatMap_congr
  intro entry member
  have found : row entry.1 tables.usages = entry.2 := by
    rw [row, Table.lookup_of_mem wellkeyed.distinct member]
    rfl
  have sameUsages : tables.usage? entry.1 = (Table.lookup · entry.2) := by
    funext command
    rw [usage?, found]
  rw [sameUsages, Table.filterMap_lookup_keys (wellkeyed.rows entry member)]

/-- The usages of the commands that have one are those under the pairs of the outline of the
handlers. -/
theorem map_usage_described (tables : CommandTables) :
    tables.described.map (·.usage) =
      (outline tables.handlers).flatMap fun agentRow =>
        agentRow.2.filterMap (tables.usage? agentRow.1) := by
  rw [described, List.map_flatMap, outline, Table.mapValues, List.flatMap_map]
  apply List.flatMap_congr
  intro entry _
  rw [List.map_filterMap, List.filterMap_map]
  apply List.filterMap_congr
  intro command _
  rw [Option.map_map, Function.comp_apply]
  exact Option.map_id'

/-- Help is shown for the commands that have a handler, all of them, in their order. -/
theorem allUsages_eq_of_aligned (aligned : tables.Aligned) :
    tables.allUsages = tables.described.map (·.usage) := by
  rw [allUsages_eq_of_wellkeyed aligned.usages, map_usage_described, aligned.outline]

/-- What is listed has its usage and its handler in the tables. -/
theorem of_mem_described (wellkeyed : Wellkeyed tables.handlers) {listing : Listing}
    (member : listing ∈ tables.described) :
    tables.usage? listing.agent listing.command = some listing.usage ∧
      tables.handler? listing.agent listing.command = some listing.handler := by
  obtain ⟨agentRow, rowMember, listed⟩ := List.mem_flatMap.mp member
  obtain ⟨entry, entryMember, shown⟩ := List.mem_filterMap.mp listed
  obtain ⟨usage, found, rfl⟩ := Option.map_eq_some_iff.mp shown
  refine ⟨found, ?_⟩
  have own : row agentRow.1 tables.handlers = agentRow.2 := by
    rw [row, Table.lookup_of_mem wellkeyed.distinct rowMember]
    rfl
  rw [handler?, own]
  exact Table.lookup_of_mem (wellkeyed.rows agentRow rowMember) entryMember

theorem ofSigil_map_usage (sigil : Sigil) (listings : List Listing) :
    Usage.ofSigil sigil (listings.map (·.usage)) =
      (ofSigil sigil listings).map (List.map (·.usage)) := by
  induction listings with
  | nil => rfl
  | cons listing rest induction =>
      rw [List.map_cons, Usage.ofSigil, ofSigil]
      cases listing.usage.sigil with
      | error fault => rfl
      | ok own =>
          dsimp only
          rw [induction]
          cases ofSigil sigil rest with
          | error fault => rfl
          | ok others =>
              simp only [Except.map]
              split <;> rfl

/-- Where all forms are texts, the commands of a sigil are among those that are listed. -/
theorem ofSigil_of_forms (sigil : Sigil) {listings : List Listing}
    (formed : ∀ listing ∈ listings, ∃ form, listing.usage.form = .text form) :
    ∃ chosen, ofSigil sigil listings = .ok chosen ∧ chosen.Sublist listings := by
  induction listings with
  | nil => exact ⟨[], rfl, List.Sublist.refl _⟩
  | cons listing rest induction =>
      obtain ⟨⟨form, same⟩, later⟩ := List.forall_mem_cons.mp formed
      obtain ⟨chosen, found, among⟩ := induction later
      rw [ofSigil, Usage.sigil, Usage.formText, same, found]
      simp only [Except.map]
      split
      · exact ⟨_, rfl, among.cons_cons listing⟩
      · exact ⟨_, rfl, among.cons listing⟩

/-- The commands of a sigil are exactly those of the usages that have it, in their order. -/
theorem bySigil_of_aligned (aligned : tables.Aligned) (sigil : Sigil) :
    ∃ listings,
      tables.bySigil sigil = .ok listings ∧
        Usage.ofSigil sigil tables.allUsages = .ok (listings.map (·.usage)) ∧
        ∀ listing ∈ listings,
          (listing.agent == listing.usage.agent) = true ∧
            (listing.command == listing.usage.command) = true ∧
            tables.handler? listing.agent listing.command = some listing.handler := by
  have formed : ∀ listing ∈ tables.described, ∃ form, listing.usage.form = .text form := by
    intro listing member
    exact (aligned.own (of_mem_described aligned.handlers member).1).2.2
  obtain ⟨listings, found, among⟩ := ofSigil_of_forms sigil formed
  refine ⟨listings, found, ?_, ?_⟩
  · rw [allUsages_eq_of_aligned aligned, ofSigil_map_usage, found]
    rfl
  · intro listing member
    obtain ⟨described, handled⟩ := of_mem_described aligned.handlers (among.subset member)
    obtain ⟨sameAgent, sameCommand, -⟩ := aligned.own described
    exact ⟨sameAgent, sameCommand, handled⟩

end CommandTables

end ChatDispatch
