import ChatDispatch.Proofs.CommandLine.Literal
import ChatDispatch.Proofs.CommandLine.Parsed

/-!
# Commands that are kept by their line

The line that is written for a command reads back when each of its words is kept: the
agent, the command name and the names of flags are bare, and arguments and values of
flags are read from their text as themselves.  Only an argument with a space is quoted.
-/

namespace ChatDispatch

/-- An argument whose word is read as the argument again. -/
structure ArgumentKept (value : Value) : Prop where
  delimited : CommandLine.Bare value.asText.toList ∨
    ' ' ∈ value.asText.toList ∧ '\\' ∉ value.asText.toList
  plain : CommandLine.role value.asText.toList = .plain
  reads : CommandLine.argument value.asText.toList = value

/-- A flag whose word is read as the flag again. -/
structure FlagKept (entry : Key × Value) : Prop where
  name : CommandLine.Bare entry.1.asText.toList
  noEquals : '=' ∉ entry.1.asText.toList
  value : entry.2 = .bool true ∨
    CommandLine.Bare entry.2.asText.toList ∧
      CommandLine.argument entry.2.asText.toList = entry.2

/-- A command all of whose words are kept. -/
structure Command.Kept (command : Command) : Prop where
  agent : CommandLine.Bare command.agent.toList
  name : CommandLine.Bare command.command.toList
  arguments : ∀ value ∈ command.arguments, ArgumentKept value
  flags : ∀ entry ∈ command.flags, FlagKept entry

instance (value : Value) : Decidable (ArgumentKept value) :=
  decidable_of_iff
    ((CommandLine.Bare value.asText.toList ∨
        ' ' ∈ value.asText.toList ∧ '\\' ∉ value.asText.toList) ∧
      CommandLine.role value.asText.toList = .plain ∧
      CommandLine.argument value.asText.toList = value)
    ⟨fun ⟨delimited, plain, reads⟩ => ⟨delimited, plain, reads⟩,
      fun ⟨delimited, plain, reads⟩ => ⟨delimited, plain, reads⟩⟩

instance (entry : Key × Value) : Decidable (FlagKept entry) :=
  decidable_of_iff
    (CommandLine.Bare entry.1.asText.toList ∧ '=' ∉ entry.1.asText.toList ∧
      (entry.2 = .bool true ∨ CommandLine.Bare entry.2.asText.toList ∧
        CommandLine.argument entry.2.asText.toList = entry.2))
    ⟨fun ⟨name, noEquals, value⟩ => ⟨name, noEquals, value⟩,
      fun ⟨name, noEquals, value⟩ => ⟨name, noEquals, value⟩⟩

instance (command : Command) : Decidable command.Kept :=
  decidable_of_iff
    (CommandLine.Bare command.agent.toList ∧ CommandLine.Bare command.command.toList ∧
      (∀ value ∈ command.arguments, ArgumentKept value) ∧
      ∀ entry ∈ command.flags, FlagKept entry)
    ⟨fun ⟨agent, name, arguments, flags⟩ => ⟨agent, name, arguments, flags⟩,
      fun ⟨agent, name, arguments, flags⟩ => ⟨agent, name, arguments, flags⟩⟩

/-- A command with an agent and a name, with arguments that leave something to read and with
flags that have different names. -/
structure Command.Proper (command : Command) : Prop where
  led : ∃ first, command.Led first
  agent : command.agent.toList ≠ []
  name : command.command.toList ≠ []
  noColon : ':' ∉ command.agent.toList
  arguments : ∀ value ∈ command.arguments, value.asText.toList ≠ []
  names : ∀ entry ∈ command.flags, ∃ name, entry.1 = .text name
  distinct : Table.Distinct command.flags

/-- The line of a command is parsed to a command with the same sigil, kind, agent, command name
and arguments and with the same flags. -/
def Command.ReadsBack (command : Command) : Prop :=
  ∃ again, CommandLine.parse? command.line = some again ∧
    again.sigil = command.sigil ∧ again.kind = command.kind ∧ again.agent = command.agent ∧
    again.command = command.command ∧ again.arguments = command.arguments ∧
    again.flags.Perm command.flags

namespace CommandLine

theorem Parsed.proper {command : Command} (parsed : Parsed command) : command.Proper := by
  obtain ⟨head, target⟩ := parsed.target
  exact {
    led := parsed.led
    agent := target.agent_ne_nil
    name := target.name_ne_nil
    noColon := target.no_colon
    arguments := by
      intro value member
      obtain ⟨token, filled, -, rfl⟩ := parsed.arguments value member
      exact fun empty => asText_argument_ne_empty filled (String.toList_inj.mp empty)
    names := parsed.names
    distinct := parsed.distinct }

theorem toList_writeArgument (value : Value) :
    (writeArgument value).toList =
      if ' ' ∈ value.asText.toList then
        '"' :: (escapeQuotes value.asText.toList ++ ['"'])
      else
        value.asText.toList := by
  unfold writeArgument
  by_cases space : ' ' ∈ value.asText.toList
  · simp [space]
  · simp [space]

/-- A word that is settled, visible and read as one token. -/
structure SingleToken (word token : List Char) : Prop where
  settled : Settled word
  visible : ∃ seen ∈ word, Text.isBlank seen = false
  tokens : tokens word = [token]

theorem singleToken_of_bare {word : List Char} (bare : Bare word) (filled : word ≠ []) :
    SingleToken word word where
  settled := .inr bare.fine
  visible := by
    obtain ⟨first, rest, rfl⟩ := List.exists_cons_of_ne_nil filled
    exact ⟨first, List.mem_cons_self, not_isBlank_of_isBare (bare_cons.mp bare).1⟩
  tokens := (scans_of_bare bare).tokens filled

theorem singleToken_writeArgument {value : Value} (filled : value.asText.toList ≠ [])
    (delimited : Bare value.asText.toList ∨
      ' ' ∈ value.asText.toList ∧ '\\' ∉ value.asText.toList) :
    SingleToken (writeArgument value).toList value.asText.toList := by
  rw [toList_writeArgument]
  rcases delimited with bare | ⟨space, plain⟩
  · have noSpace : ' ' ∉ value.asText.toList := fun member => absurd (bare ' ' member) (by decide)
    rw [if_neg noSpace]
    exact singleToken_of_bare bare filled
  · rw [if_pos space]
    exact {
      settled := .inl ⟨_, plain, rfl⟩
      visible := ⟨'"', List.mem_cons_self, by decide⟩
      tokens := (scans_quoted plain).tokens filled }

def flagBody (entry : Key × Value) : List Char :=
  if entry.2 = .bool true then entry.1.asText.toList
  else entry.1.asText.toList ++ '=' :: entry.2.asText.toList

theorem toList_writeFlag (entry : Key × Value) :
    (writeFlag entry).toList = '-' :: '-' :: flagBody entry := by
  obtain ⟨name, value⟩ := entry
  by_cases isTrue : value = .bool true
  · subst isTrue
    simp [writeFlag, flagBody]
  · have other : writeFlag (name, value) = "--" ++ name.asText ++ "=" ++ value.asText := by
      unfold writeFlag
      split
      · rename_i same
        exact absurd (Prod.mk.inj same).2 isTrue
      · rename_i same
        cases same
        rfl
    simp [other, flagBody, isTrue]

theorem cut_flagBody {entry : Key × Value} (noEquals : '=' ∉ entry.1.asText.toList) :
    Text.cut '=' (flagBody entry) =
      (entry.1.asText.toList,
        if entry.2 = .bool true then none else some entry.2.asText.toList) := by
  unfold flagBody
  split
  · exact cut_of_not_mem noEquals
  · exact cut_append noEquals _

theorem bare_flagBody {entry : Key × Value} (name : Bare entry.1.asText.toList)
    (value : entry.2 = .bool true ∨ Bare entry.2.asText.toList) : Bare (flagBody entry) := by
  unfold flagBody
  split
  · exact name
  · rename_i untrue
    exact bare_append.mpr ⟨name, bare_cons.mpr ⟨rfl, value.resolve_left untrue⟩⟩

theorem singleToken_writeFlag {entry : Key × Value} (bare : Bare (flagBody entry)) :
    SingleToken (writeFlag entry).toList (writeFlag entry).toList := by
  rw [toList_writeFlag]
  refine singleToken_of_bare ?_ (List.cons_ne_nil _ _)
  exact bare_cons.mpr ⟨rfl, bare_cons.mpr ⟨rfl, bare⟩⟩

/-- The flag that a written flag stores, when its name is a text without equals signs. -/
theorem written_writeFlag {entry : Key × Value} {name : String} (named : entry.1 = .text name)
    (noEquals : '=' ∉ entry.1.asText.toList) (tokens : List (List Char)) :
    written ((writeFlag entry).toList :: tokens) =
      ((written tokens).1,
        (entry.1, if entry.2 = .bool true then .bool true else argument entry.2.asText.toList) ::
          (written tokens).2) := by
  rw [toList_writeFlag, written_long (role_dashes _), cut_flagBody noEquals, named]
  split <;> simp [Key.asText, flagValue, *]

theorem written_writeFlags {flags : Entries} (names : ∀ entry ∈ flags, ∃ name, entry.1 = .text name)
    (kept : ∀ entry ∈ flags, FlagKept entry) :
    written (flags.map fun entry => (writeFlag entry).toList) = ([], flags) := by
  induction flags with
  | nil => rfl
  | cons entry rest induction =>
      obtain ⟨⟨name, named⟩, namesRest⟩ := List.forall_mem_cons.mp names
      obtain ⟨keptHere, keptRest⟩ := List.forall_mem_cons.mp kept
      rw [List.map_cons, written_writeFlag named keptHere.noEquals, induction namesRest keptRest]
      have same : (if entry.2 = .bool true then .bool true
          else argument entry.2.asText.toList) = entry.2 := by
        split
        · rename_i isTrue
          exact isTrue.symm
        · rename_i untrue
          exact (keptHere.value.resolve_left untrue).2
      rw [same]

theorem flatMap_tokens {α : Type} {members : List α} {word token : α → List Char}
    (single : ∀ member ∈ members, SingleToken (word member) (token member)) :
    (members.map word).flatMap tokens = members.map token := by
  induction members with
  | nil => rfl
  | cons first rest induction =>
      obtain ⟨here, later⟩ := List.forall_mem_cons.mp single
      rw [List.map_cons, List.flatMap_cons, here.tokens, induction later]
      rfl

/-- A line is read word by word, if each argument is a single token. -/
theorem tokens_line {command : Command}
    (target : Settled (command.agent.toList ++ ':' :: command.command.toList))
    (single : ∀ value ∈ command.arguments,
      SingleToken (writeArgument value).toList value.asText.toList)
    (flags : ∀ entry ∈ command.flags, Settled (writeFlag entry).toList) :
    tokens (trimEnd (spaced (lineWords command))) =
      tokens (command.agent.toList ++ ':' :: command.command.toList) ++
        (command.arguments.map (·.asText.toList) ++
          command.flags.flatMap fun entry => tokens (writeFlag entry).toList) := by
  have settled : ∀ word ∈ lineWords command, Settled word := by
    simp only [lineWords, List.forall_mem_cons, List.forall_mem_append, List.forall_mem_map]
    exact ⟨target, fun value member => (single value member).settled, flags⟩
  have visible : ∀ word ∈ lineWords command, ∃ seen ∈ word, Text.isBlank seen = false := by
    simp only [lineWords, List.forall_mem_cons, List.forall_mem_append, List.forall_mem_map]
    refine ⟨⟨':', by simp, by decide⟩, fun value member => (single value member).visible, ?_⟩
    intro entry _
    rw [toList_writeFlag]
    exact ⟨'-', List.mem_cons_self, by decide⟩
  rw [tokens_trimEnd_spaced settled visible, lineWords, List.flatMap_cons, List.flatMap_append,
    flatMap_tokens single, List.flatMap_map]

section Kept

variable {command : Command}

theorem tokens_line_of_kept (proper : command.Proper) (kept : command.Kept) :
    tokens (trimEnd (spaced (lineWords command))) =
      (command.agent.toList ++ ':' :: command.command.toList) ::
        (command.arguments.map (·.asText.toList) ++
          command.flags.map fun entry => (writeFlag entry).toList) := by
  have target : SingleToken (command.agent.toList ++ ':' :: command.command.toList)
      (command.agent.toList ++ ':' :: command.command.toList) :=
    singleToken_of_bare (bare_append.mpr ⟨kept.agent, bare_cons.mpr ⟨rfl, kept.name⟩⟩)
      (by simp)
  have arguments : ∀ value ∈ command.arguments,
      SingleToken (writeArgument value).toList value.asText.toList := by
    intro value member
    exact singleToken_writeArgument (proper.arguments value member)
      (kept.arguments value member).delimited
  have flags : ∀ entry ∈ command.flags,
      SingleToken (writeFlag entry).toList (writeFlag entry).toList := by
    intro entry member
    obtain ⟨name, -, value⟩ := kept.flags entry member
    exact singleToken_writeFlag (bare_flagBody name (value.imp id And.left))
  rw [tokens_line target.settled arguments fun entry member => (flags entry member).settled,
    target.tokens, ← List.flatMap_map, flatMap_tokens flags]
  rfl

theorem written_of_kept (proper : command.Proper) (kept : command.Kept) :
    written (command.arguments.map (·.asText.toList) ++
      command.flags.map fun entry => (writeFlag entry).toList) =
        (command.arguments, command.flags) := by
  have barrier : ∀ next ∈ (command.flags.map fun entry => (writeFlag entry).toList).head?,
      canBeTaken next = false := by
    intro next among
    obtain ⟨entry, -, rfl⟩ := List.mem_map.mp (List.mem_of_mem_head? among)
    rw [toList_writeFlag]
    rfl
  have plain : ∀ token ∈ command.arguments.map (·.asText.toList), role token = .plain := by
    intro token member
    obtain ⟨value, among, rfl⟩ := List.mem_map.mp member
    exact (kept.arguments value among).plain
  have reads : (command.arguments.map (·.asText.toList)).map argument = command.arguments := by
    rw [List.map_map]
    refine (List.map_congr_left ?_).trans (List.map_id _)
    intro value among
    exact (kept.arguments value among).reads
  rw [written_append barrier, written_plains plain, written_writeFlags proper.names kept.flags,
    reads, List.append_nil, List.nil_append]

/-- A command is read from its line when all of its words are kept. -/
theorem parse?_line_of_kept (proper : command.Proper) (kept : command.Kept) :
    ∃ source, parse? command.line = some { command with source } := by
  obtain ⟨first, led⟩ := proper.led
  have stored : Table.update [] command.flags = command.flags :=
    Table.update_of_distinct (by simpa using proper.distinct)
  refine ⟨String.ofList (first :: trimEnd (spaced (lineWords command))), ?_⟩
  apply (parse?_line_iff led).mpr
  refine ⟨_, _, _, _, tokens_line_of_kept proper kept,
    target?_of_bare command.sigil kept.agent kept.name proper.agent proper.name proper.noColon, ?_⟩
  rw [written_of_kept proper kept, stored, String.ofList_toList, String.ofList_toList]

theorem readsBack_of_kept (parsed : Parsed command) (kept : command.Kept) :
    command.ReadsBack := by
  obtain ⟨source, again⟩ := parse?_line_of_kept parsed.proper kept
  exact ⟨_, again, rfl, rfl, rfl, rfl, rfl, .rfl⟩

end Kept

end CommandLine

end ChatDispatch
