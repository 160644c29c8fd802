import ChatDispatch.Proofs.CommandLine.Texts

/-!
# What reading back needs

The words of a command that reads back are quoted or fine.  So its line is read word by
word, where a fine word with spaces falls apart into pieces.  The pieces of flags store
flags without spaces and write no arguments; hence there are no such pieces, and every
word is kept.
-/

namespace ChatDispatch

namespace CommandLine

theorem role_minus {rest : List Char} (inner : ∀ character ∈ rest.head?, isInner character = true)
    (long : 2 ≤ rest.length) : role ('-' :: rest) = .plain := by
  unfold role
  split
  · rename_i dashes
    obtain rfl := (List.cons.inj dashes).2
    cases inner '-' rfl
  · rename_i name dash
    rw [(List.cons.inj dash).2] at long
    simp at long
  · rfl

theorem ne_minus_of_isInner {character : Char} (inner : isInner character = true) :
    character ≠ '-' := by
  rintro rfl
  cases inner

theorem role_dash {name : Char} (inner : isInner name = true) :
    role ['-', name] = .short name := by
  unfold role
  split
  · rename_i dashes
    exact absurd (List.cons.inj (List.cons.inj dashes).2).1 (ne_minus_of_isInner inner)
  · rename_i dash
    rw [(List.cons.inj (List.cons.inj dash).2).1]
  · rename_i noShort
    exact absurd rfl (noShort name)

theorem role_of_inner {text : List Char} (filled : text ≠ [])
    (inner : ∀ character ∈ text.head?, isInner character = true) : role text = .plain := by
  obtain ⟨first, rest, rfl⟩ := List.exists_cons_of_ne_nil filled
  exact role_of_ne (ne_minus_of_isInner (inner first rfl)) rest

theorem role_toString (number : Int) :
    role (toString number).toList = .plain ∨
      ∃ digit, role (toString number).toList = .short digit ∧
        Text.isAsciiDigit digit = true := by
  cases number with
  | ofNat size =>
      rw [toList_toString_ofNat]
      refine .inl (role_of_inner (toDigits_ne_nil size) ?_)
      intro character among
      exact isInner_of_isNumeral (isNumeral_of_mem_toDigits (List.mem_of_mem_head? among))
  | negSucc size =>
      rw [toList_toString_negSucc]
      obtain ⟨digit, rest, digits⟩ := List.exists_cons_of_ne_nil (toDigits_ne_nil (size + 1))
      have isDigit (character : Char) (member : character ∈ digit :: rest) :
          Text.isAsciiDigit character = true :=
        isAsciiDigit_of_mem_toDigits (digits ▸ member)
      rw [digits]
      cases rest with
      | nil =>
          have here := isDigit digit List.mem_cons_self
          exact .inr ⟨digit, role_dash (isInner_of_isAsciiDigit here), here⟩
      | cons next following =>
          refine .inl (role_minus ?_ (by simp))
          intro character among
          exact isInner_of_isAsciiDigit (isDigit character (List.mem_of_mem_head? among))

theorem role_text_float (number : Binary64) : role number.text.toList = .plain := by
  obtain ⟨magnitude, form, unsigned | signed⟩ := exists_magnitude number
  · rw [unsigned]
    exact role_of_inner form.literal.filled form.first
  · rw [signed]
    exact role_minus form.first form.long

/-- The text of an argument is a plain token, or a short flag named by a digit. -/
theorem role_asText {value : Value} {token : List Char} (plain : role token = .plain)
    (reads : argument token = value) :
    role value.asText.toList = .plain ∨
      (∃ number, value = .int number) ∧ ∃ digit, role value.asText.toList = .short digit ∧
        Text.isAsciiDigit digit = true := by
  cases value with
  | null => exact .inl (by decide)
  | bool truth => cases truth <;> exact .inl (by decide)
  | int number => exact (role_toString number).imp id fun short => ⟨⟨number, rfl⟩, short⟩
  | float number => exact .inl (role_text_float number)
  | text content =>
      rw [eq_toList_of_argument reads] at plain
      exact .inl plain
  | list items =>
      simp only [Value.asText, Value.shown, String.toList_append]
      exact .inl (role_of_ne (by decide) _)
  | map entries =>
      simp only [Value.asText, Value.shown, String.toList_append]
      exact .inl (role_of_ne (by decide) _)
  | callable content attributes =>
      exact absurd reads (argument_ne_callable token content attributes)

/-- The text of an argument is no integer, unless the argument is that integer. -/
theorem eq_of_argument_asText {value : Value} {token : List Char} {number : Int}
    (reads : argument token = value) (again : argument value.asText.toList = .int number) :
    value = .int number := by
  have digits := forall_of_argument_int again
  cases value with
  | null => exact absurd (digits 'N' (by decide)) (by decide)
  | bool truth => cases truth <;> exact absurd (digits 'e' (by decide)) (by decide)
  | int other =>
      rcases argument_toString other with same | ⟨rounded, float⟩
      · exact same.symm.trans again
      · cases float.symm.trans again
  | float other =>
      obtain ⟨magnitude, form, written⟩ := exists_magnitude other
      have among (character : Char) (member : character ∈ magnitude) :
          character ∈ other.text.toList := by
        rcases written with unsigned | signed
        · rwa [unsigned]
        · rw [signed]
          exact List.mem_cons_of_mem _ member
      rcases form.mark with point | letter | letter
      · exact absurd (digits '.' (among '.' point)) (by decide)
      · exact absurd (digits 'e' (among 'e' letter)) (by decide)
      · exact absurd (digits 'n' (among 'n' letter)) (by decide)
  | text content =>
      rw [eq_toList_of_argument reads] at reads
      cases reads.symm.trans again
  | list items =>
      refine absurd (digits '[' ?_) (by decide)
      simp [Value.asText, Value.shown]
  | map entries =>
      refine absurd (digits '\x7b' ?_) (by decide)
      simp [Value.asText, Value.shown]
  | callable content attributes =>
      exact absurd reads (argument_ne_callable token content attributes)

/-- The pieces of a fine flag: its dashes stand before the first piece of the rest. -/
theorem tokens_writeFlag {entry : Key × Value} (fine : Fine (writeFlag entry).toList) :
    ∃ first others, Text.split ' ' (flagBody entry) = first :: others ∧
      tokens (writeFlag entry).toList =
        ('-' :: '-' :: first) :: others.filter (!·.isEmpty) := by
  obtain ⟨first, others, pieces⟩ :=
    List.exists_cons_of_ne_nil (Text.split_ne_nil ' ' (flagBody entry))
  have dashed : Text.split ' ' (writeFlag entry).toList = ('-' :: '-' :: first) :: others := by
    rw [toList_writeFlag]
    exact split_append ['-', '-'] (by decide) pieces
  refine ⟨first, others, pieces, ?_⟩
  rw [tokens_fine fine, dashed]
  rfl

theorem not_mem_tokens_writeFlag {entry : Key × Value} (fine : Fine (writeFlag entry).toList) :
    ∀ token ∈ tokens (writeFlag entry).toList, ' ' ∉ token := by
  intro token member
  rw [tokens_fine fine] at member
  exact not_mem_of_mem_split (List.mem_filter.mp member).1

/-- A space in the text of a value that is no text comes from a collection. -/
theorem collection_of_space {value : Value} (inside : value.hasTextInside = false)
    (noText : ' ' ∉ value.textChars) (space : ' ' ∈ value.asText.toList) :
    value.holdsText = false ∧ (value.kind = .list ∨ value.kind = .map) ∧
      value.asText = value.shown := by
  cases value with
  | null => exact absurd space (by decide)
  | bool truth => cases truth <;> exact absurd space (by decide)
  | int number =>
      rcases forall_toString number ' ' space with impossible | impossible <;>
        exact absurd impossible (by decide)
  | float number =>
      obtain ⟨magnitude, form, unsigned | signed⟩ := exists_magnitude number
      · have member : ' ' ∈ magnitude := unsigned ▸ space
        exact absurd (form.bare ' ' member) (by decide)
      · have member : ' ' ∈ '-' :: magnitude := signed ▸ space
        exact absurd (form.bare ' ' (List.mem_of_ne_of_mem (by decide) member)) (by decide)
  | text content => exact absurd space noText
  | list items => exact ⟨inside, .inl rfl, rfl⟩
  | map entries => exact ⟨inside, .inr rfl, rfl⟩
  | callable content attributes => cases inside

theorem split_flagBody {entry : Key × Value} (noSpace : ' ' ∉ entry.1.asText.toList)
    (untrue : entry.2 ≠ .bool true) {first : List Char} {others : List (List Char)}
    (pieces : Text.split ' ' entry.2.asText.toList = first :: others) :
    Text.split ' ' (flagBody entry) = (entry.1.asText.toList ++ '=' :: first) :: others := by
  rw [flagBody, if_neg untrue]
  refine split_append _ noSpace ?_
  exact split_append ['='] (by decide) pieces

/-- A token of a flag without spaces in its name and in a text is a long flag or a piece of
a collection. -/
theorem long_or_piece {entry : Key × Value} (inside : entry.2.hasTextInside = false)
    (noSpaceName : ' ' ∉ entry.1.asText.toList) (noSpaceValue : ' ' ∉ entry.2.textChars)
    (fine : Fine (writeFlag entry).toList) :
    ∀ token ∈ tokens (writeFlag entry).toList,
      (∃ name content, role token = .long name content) ∨ CollectionPiece token := by
  obtain ⟨first, others, pieces, read⟩ := tokens_writeFlag fine
  intro token member
  rw [read] at member
  rcases List.mem_cons.mp member with rfl | later
  · exact .inl ⟨_, _, role_dashes first⟩
  · obtain ⟨among, filled⟩ := List.mem_filter.mp later
    right
    have filledToken : token ≠ [] := by
      rintro rfl
      cases filled
    by_cases isTrue : entry.2 = .bool true
    · rw [flagBody, if_pos isTrue, split_of_not_mem noSpaceName] at pieces
      obtain ⟨-, rfl⟩ := List.cons.inj pieces
      cases among
    · obtain ⟨next, following, valuePieces⟩ :=
        List.exists_cons_of_ne_nil (Text.split_ne_nil ' ' entry.2.asText.toList)
      rw [split_flagBody noSpaceName isTrue valuePieces] at pieces
      obtain ⟨-, rfl⟩ := List.cons.inj pieces
      by_cases space : ' ' ∈ entry.2.asText.toList
      · obtain ⟨textFree, collection, shown⟩ := collection_of_space inside noSpaceValue space
        rw [shown] at valuePieces
        refine collectionPiece_of_shown textFree collection token ?_ filledToken
        rw [valuePieces]
        exact List.mem_cons_of_mem _ among
      · rw [split_of_not_mem space] at valuePieces
        obtain ⟨-, rfl⟩ := List.cons.inj valuePieces
        cases among

/-- The tokens of the arguments of a command. -/
def argumentTokens (command : Command) : List (List Char) :=
  command.arguments.map (·.asText.toList)

def flagTokens (command : Command) : List (List Char) :=
  command.flags.flatMap fun entry => tokens (writeFlag entry).toList

/-- What the line of a command that reads back is read as. -/
structure LineRead (command : Command) : Prop where
  agent : Bare command.agent.toList
  name : Bare command.command.toList
  delimited : ∀ value ∈ command.arguments, Bare value.asText.toList ∨
    ' ' ∈ value.asText.toList ∧ '\\' ∉ value.asText.toList
  fine : ∀ entry ∈ command.flags, Fine (writeFlag entry).toList
  arguments : (written (argumentTokens command ++ flagTokens command)).1 = command.arguments
  flags : (Table.update [] (written (argumentTokens command ++ flagTokens command)).2).Perm
    command.flags

theorem Settled.fine {word : List Char} (settled : Settled word)
    (noDouble : '"' ∉ word.head?) : Fine word := by
  rcases settled with ⟨text, -, rfl⟩ | fine
  · exact absurd rfl noDouble
  · exact fine

theorem bare_of_fine {text : List Char} (fine : Fine text) (noSpace : ' ' ∉ text) : Bare text := by
  intro character member
  refine (fine character member).resolve_right ?_
  rintro rfl
  exact noSpace member

/-- The first word has no space, because its first piece names the whole target. -/
theorem not_mem_target {agent name head : List Char} {more tail : List (List Char)}
    (fine : Fine (agent ++ ':' :: name))
    (line : tokens (agent ++ ':' :: name) ++ more = head :: tail)
    (target : Named head agent name) : ' ' ∉ agent ++ ':' :: name := by
  intro space
  rw [tokens_fine fine] at line
  obtain ⟨piece, among, colon⟩ :=
    exists_mem_split (show ':' ≠ ' ' by decide) (List.mem_append_right agent List.mem_cons_self)
  have filled : piece ∈ (Text.split ' ' (agent ++ ':' :: name)).filter (!·.isEmpty) := by
    refine List.mem_filter.mpr ⟨among, ?_⟩
    cases piece with
    | nil => cases colon
    | cons => rfl
  obtain ⟨first, rest, pieces⟩ := List.exists_cons_of_ne_nil (List.ne_nil_of_mem filled)
  have member : first ∈ Text.split ' ' (agent ++ ':' :: name) := by
    refine (List.mem_filter (p := (!·.isEmpty))).mp ?_ |>.1
    rw [pieces]
    exact List.mem_cons_self
  rw [pieces] at line
  obtain ⟨rfl, -⟩ := List.cons.inj line
  have shorter := length_lt_of_mem_split space member
  rw [List.length_append, List.length_cons] at shorter
  rcases target.parts with ⟨rfl, rfl, noColon⟩ | ⟨-, longer⟩
  · obtain ⟨start, others, parted⟩ :=
      List.exists_cons_of_ne_nil (Text.split_ne_nil ' ' first)
    have whole : Text.split ' ' (coreAgent.toList ++ ':' :: first) =
        (coreAgent.toList ++ ':' :: start) :: others := by
      refine split_append _ (by decide) ?_
      exact split_append [':'] (by decide) parted
    rw [whole, List.filter_cons_of_pos (by simp)] at pieces
    rw [← (List.cons.inj pieces).1] at noColon
    simp at noColon
  · omega

section ReadsBack

variable {command : Command}

theorem fine_target_of_readsBack (parsed : Parsed command)
    (simple : command.HoldsNoInnerText) (reads : command.ReadsBack) :
    Fine (command.agent.toList ++ ':' :: command.command.toList) := by
  obtain ⟨source, known⟩ := parsed.target
  refine (settled_of_readsBack parsed simple reads _ List.mem_cons_self).fine ?_
  intro double
  rw [List.head?_append_of_ne_nil _ known.agent_ne_nil] at double
  exact (marksQuoted_of_readsBack parsed simple reads).agent (List.mem_of_mem_head? double)

theorem fine_flags_of_readsBack (parsed : Parsed command)
    (simple : command.HoldsNoInnerText) (reads : command.ReadsBack) :
    ∀ entry ∈ command.flags, Fine (writeFlag entry).toList := by
  intro entry member
  have among : (writeFlag entry).toList ∈ lineWords command :=
    List.mem_cons_of_mem _ (List.mem_append_right _ (List.mem_map_of_mem member))
  refine (settled_of_readsBack parsed simple reads _ among).fine ?_
  rw [toList_writeFlag]
  simp

/-- No text of an argument has a backslash, and quotes protect one with a space only. -/
theorem delimited_of_readsBack (parsed : Parsed command)
    (simple : command.HoldsNoInnerText) (reads : command.ReadsBack) :
    ∀ value ∈ command.arguments, Bare value.asText.toList ∨
      ' ' ∈ value.asText.toList ∧ '\\' ∉ value.asText.toList := by
  have marks := marksQuoted_of_readsBack parsed simple reads
  intro value member
  by_cases space : ' ' ∈ value.asText.toList
  · refine .inr ⟨space, ?_⟩
    rw [← List.count_eq_zero, count_asText (simple.arguments value member) (by decide),
      List.count_eq_zero]
    intro backslash
    refine marks.backslash ?_
    simp only [Command.textChars, List.mem_append, List.mem_flatMap]
    exact .inr (.inl ⟨value, member, backslash⟩)
  · have among : (writeArgument value).toList ∈ lineWords command :=
      List.mem_cons_of_mem _ (List.mem_append_left _
        (List.mem_map_of_mem (f := fun value => (writeArgument value).toList) member))
    have settled := settled_of_readsBack parsed simple reads _ among
    rw [toList_writeArgument, if_neg space] at settled
    refine .inl (bare_of_fine (settled.fine ?_) space)
    intro double
    have present := List.mem_of_mem_head? double
    rw [← List.count_pos_iff, count_asText (simple.arguments value member) (by decide),
      List.count_pos_iff] at present
    exact marks.arguments value member space present

theorem lineRead_of_readsBack (parsed : Parsed command)
    (simple : command.HoldsNoInnerText) (reads : command.ReadsBack) : LineRead command := by
  obtain ⟨first, led⟩ := parsed.led
  have fineTarget := fine_target_of_readsBack parsed simple reads
  have fineFlags := fine_flags_of_readsBack parsed simple reads
  have delimited := delimited_of_readsBack parsed simple reads
  have single : ∀ value ∈ command.arguments,
      SingleToken (writeArgument value).toList value.asText.toList := by
    intro value member
    exact singleToken_writeArgument (parsed.proper.arguments value member) (delimited value member)
  have split : tokens (trimEnd (spaced (lineWords command))) =
      tokens (command.agent.toList ++ ':' :: command.command.toList) ++
        (argumentTokens command ++ flagTokens command) :=
    tokens_line (.inr fineTarget) single fun entry member => .inr (fineFlags entry member)
  obtain ⟨again, parses, -, -, sameAgent, sameName, sameArguments, sameFlags⟩ := reads
  obtain ⟨head, tail, agent, name, line, targets, rfl⟩ := (parse?_line_iff led).mp parses
  have headFilled : head ≠ [] := ne_nil_of_mem_tokens (line ▸ List.mem_cons_self)
  have target := named_of_target? headFilled targets
  dsimp only at sameAgent sameName sameArguments sameFlags
  rw [← sameAgent, ← sameName, String.toList_ofList, String.toList_ofList] at split fineTarget
  rw [split] at line
  have bareTarget : Bare (agent ++ ':' :: name) :=
    bare_of_fine fineTarget (not_mem_target fineTarget line target)
  rw [(scans_of_bare bareTarget).tokens (by simp)] at line
  obtain ⟨-, rfl⟩ := List.cons.inj line
  obtain ⟨bareAgent, bareName⟩ := bare_append.mp bareTarget
  exact {
    agent := by
      rw [← sameAgent, String.toList_ofList]
      exact bareAgent
    name := by
      rw [← sameName, String.toList_ofList]
      exact (bare_cons.mp bareName).2
    delimited := delimited
    fine := fineFlags
    arguments := sameArguments
    flags := sameFlags }

end ReadsBack

section Flags

variable {command : Command}

theorem exists_flag_of_mem {token : List Char} (member : token ∈ flagTokens command) :
    ∃ entry ∈ command.flags, token ∈ tokens (writeFlag entry).toList :=
  List.mem_flatMap.mp member

theorem written_line (line : LineRead command) :
    written (argumentTokens command ++ flagTokens command) =
      ((written (argumentTokens command)).1 ++ (written (flagTokens command)).1,
        (written (argumentTokens command)).2 ++ (written (flagTokens command)).2) := by
  refine written_append ?_
  unfold flagTokens
  intro next among
  cases entries : command.flags with
  | nil =>
      rw [entries] at among
      cases among
  | cons entry rest =>
      have fine := line.fine entry (entries ▸ List.mem_cons_self)
      obtain ⟨first, others, -, read⟩ := tokens_writeFlag fine
      rw [entries, List.flatMap_cons, read] at among
      obtain rfl := Option.some.inj among
      rfl

theorem digit_of_storedBy_arguments (parsed : Parsed command) {entry : Key × Value}
    (stored : StoredBy (argumentTokens command) entry) :
    ∃ digit, entry.1 = .text (String.ofList [digit]) ∧ Text.isAsciiDigit digit = true := by
  have roles : ∀ token ∈ argumentTokens command, role token = .plain ∨
      ∃ digit, role token = .short digit ∧ Text.isAsciiDigit digit = true := by
    intro token member
    obtain ⟨value, among, rfl⟩ := List.mem_map.mp member
    obtain ⟨source, -, plain, reads⟩ := parsed.arguments value among
    exact (role_asText plain reads).imp id And.right
  rcases stored with ⟨token, member, name, content, long, -⟩ |
      ⟨token, member, name, short, named, -⟩
  · rcases roles token member with plain | ⟨digit, short, -⟩
    · cases plain.symm.trans long
    · cases short.symm.trans long
  · rcases roles token member with plain | ⟨digit, same, isDigit⟩
    · cases plain.symm.trans short
    · obtain rfl := Role.short.inj (same.symm.trans short)
      exact ⟨digit, named, isDigit⟩

/-- A flag named by a digit stores under its own name, whatever its value. -/
theorem mem_written_of_digit (line : LineRead command) {entry : Key × Value} {digit : Char}
    (member : entry ∈ command.flags) (named : entry.1 = .text (String.ofList [digit]))
    (isDigit : Text.isAsciiDigit digit = true) :
    ∃ value, (entry.1, value) ∈ (written (flagTokens command)).2 := by
  have noSpace : ' ' ∉ entry.1.asText.toList := by
    rw [named]
    simp only [Key.asText, String.toList_ofList, List.mem_singleton]
    rintro rfl
    cases isDigit
  have noEquals : '=' ∉ entry.1.asText.toList := by
    rw [named]
    simp only [Key.asText, String.toList_ofList, List.mem_singleton]
    rintro rfl
    cases isDigit
  obtain ⟨first, others, pieces, read⟩ := tokens_writeFlag (line.fine entry member)
  have token : '-' :: '-' :: first ∈ flagTokens command := by
    refine List.mem_flatMap.mpr ⟨entry, member, ?_⟩
    rw [read]
    exact List.mem_cons_self
  have stored := mem_written_of_long token (role_dashes first)
  have name : (Text.cut '=' first).1 = entry.1.asText.toList := by
    by_cases isTrue : entry.2 = .bool true
    · rw [flagBody, if_pos isTrue, split_of_not_mem noSpace] at pieces
      obtain ⟨rfl, -⟩ := List.cons.inj pieces
      rw [cut_of_not_mem noEquals]
    · obtain ⟨next, following, valuePieces⟩ :=
        List.exists_cons_of_ne_nil (Text.split_ne_nil ' ' entry.2.asText.toList)
      rw [split_flagBody noSpace isTrue valuePieces] at pieces
      obtain ⟨rfl, -⟩ := List.cons.inj pieces
      rw [cut_append noEquals]
  have spelled : String.ofList entry.1.asText.toList = String.ofList [digit] := by
    rw [named, Key.asText, String.toList_ofList]
  rw [name, spelled, ← named] at stored
  exact ⟨_, stored⟩

theorem storedBy_flagTokens (parsed : Parsed command) (line : LineRead command)
    {entry : Key × Value} (member : entry ∈ command.flags) :
    StoredBy (flagTokens command) entry := by
  obtain ⟨name, named⟩ := parsed.names entry member
  have exact_ (stored : Key × Value) (same : (stored.1 == entry.1) = true)
      (value : stored.2 = entry.2) : stored = entry := by
    rw [named, Key.beq_def] at same
    exact Prod.ext ((Key.eq_text_of_alike same).trans named.symm) value
  have found := Table.lookup_of_mem (Table.distinct_update Table.distinct_nil _)
    (line.flags.mem_iff.mpr member)
  rw [written_line line, Table.lookup_update, List.reverse_append, Table.lookup_append,
    Option.or_assoc] at found
  cases own : Table.lookup entry.1 (written (flagTokens command)).2.reverse with
  | some value =>
      rw [own] at found
      obtain rfl := Option.some.inj found
      obtain ⟨stored, among, same, valued⟩ := Table.exists_mem_of_lookup own
      rw [← exact_ stored same valued]
      exact storedBy_of_mem_written (List.mem_reverse.mp among)
  | none =>
      rw [own, Option.none_or] at found
      have arguments : Table.lookup entry.1 (written (argumentTokens command)).2.reverse =
          some entry.2 := by
        simpa [Table.lookup] using found
      obtain ⟨stored, among, same, valued⟩ := Table.exists_mem_of_lookup arguments
      obtain ⟨digit, isName, isDigit⟩ := digit_of_storedBy_arguments parsed
        (storedBy_of_mem_written (List.mem_reverse.mp among))
      rw [exact_ stored same valued] at isName
      obtain ⟨value, ownStored⟩ := mem_written_of_digit line member isName isDigit
      have absent := Table.lookup_eq_none_iff.mp own _ (List.mem_reverse.mpr ownStored)
      simp at absent

theorem not_mem_flagTokens (line : LineRead command) :
    ∀ token ∈ flagTokens command, ' ' ∉ token := by
  intro token member
  obtain ⟨entry, among, part⟩ := exists_flag_of_mem member
  exact not_mem_tokens_writeFlag (line.fine entry among) token part

theorem not_mem_argument {token : List Char} (noSpace : ' ' ∉ token) :
    ' ' ∉ (argument token).textChars := by
  intro member
  have atMost := count_argument_le token ' '
  rw [List.count_eq_zero.mpr noSpace] at atMost
  have atLeast := List.count_pos_iff.mpr member
  omega

/-- Neither the name of a flag nor a text that is its value has a space. -/
theorem not_mem_entryChars (parsed : Parsed command) (line : LineRead command)
    {entry : Key × Value} (member : entry ∈ command.flags) : ' ' ∉ entryChars entry := by
  have noSpace := not_mem_flagTokens line
  unfold entryChars
  rw [List.mem_append, not_or]
  rcases storedBy_flagTokens parsed line member with
    ⟨token, among, name, content, long, rfl⟩ | ⟨token, among, name, short, named, valued⟩
  · obtain ⟨body, rfl, parts⟩ := role_eq_long long
    have noSpaceBody : ' ' ∉ body := fun space =>
      noSpace _ among (List.mem_cons_of_mem _ (List.mem_cons_of_mem _ space))
    have atMost := count_cut_le '=' body ' '
    rw [parts, List.count_eq_zero.mpr noSpaceBody] at atMost
    dsimp only at atMost
    have value := count_flagValue_le content ' '
    rw [← List.count_eq_zero, ← List.count_eq_zero]
    simp only [Key.textChars, String.toList_ofList]
    omega
  · obtain rfl := role_eq_short short
    rw [named]
    constructor
    · intro space
      simp only [Key.textChars, String.toList_ofList, List.mem_singleton] at space
      subst space
      exact noSpace _ among (by simp)
    · rcases valued with isTrue | ⟨next, nextAmong, read⟩
      · rw [isTrue]
        exact List.not_mem_nil
      · rw [read]
        exact not_mem_argument (noSpace next nextAmong)

theorem long_or_piece_of_mem (parsed : Parsed command) (simple : command.HoldsNoInnerText)
    (line : LineRead command) : ∀ token ∈ flagTokens command,
      (∃ name content, role token = .long name content) ∨ CollectionPiece token := by
  intro token member
  obtain ⟨entry, among, part⟩ := exists_flag_of_mem member
  obtain ⟨name, named⟩ := parsed.names entry among
  have noSpace := not_mem_entryChars parsed line among
  rw [entryChars, List.mem_append, not_or] at noSpace
  have noSpaceName : ' ' ∉ entry.1.asText.toList := by
    rw [named] at noSpace ⊢
    exact noSpace.1
  exact long_or_piece (simple.flags entry among) noSpaceName noSpace.2 (line.fine entry among)
    token part

/-- The text of an argument is no flag: a flag named by a digit would take the place of an
integer that nothing else writes. -/
theorem plain_of_mem_arguments (parsed : Parsed command) (simple : command.HoldsNoInnerText)
    (line : LineRead command) : ∀ value ∈ command.arguments, role value.asText.toList = .plain := by
  intro value member
  obtain ⟨source, -, plainSource, reads⟩ := parsed.arguments value member
  rcases role_asText plainSource reads with plain | ⟨⟨number, rfl⟩, digit, short, -⟩
  · exact plain
  · rw [← line.arguments] at member
    obtain ⟨token, among, plain, integer⟩ := exists_plain_of_mem_written member
    rcases List.mem_append.mp among with argument | flag
    · obtain ⟨other, otherMember, rfl⟩ := List.mem_map.mp argument
      obtain ⟨otherSource, -, -, otherReads⟩ := parsed.arguments other otherMember
      rw [eq_of_argument_asText otherReads integer] at plain
      cases plain.symm.trans short
    · rcases long_or_piece_of_mem parsed simple line token flag with
        ⟨name, content, long⟩ | part
      · cases plain.symm.trans long
      · exact absurd integer (part.argument_ne number)

/-- The arguments are read from their own tokens, and the flags write none. -/
theorem arguments_read (parsed : Parsed command) (simple : command.HoldsNoInnerText)
    (line : LineRead command) :
    (argumentTokens command).map argument = command.arguments ∧
      written (argumentTokens command) = ((argumentTokens command).map argument, []) ∧
      (written (flagTokens command)).1 = [] := by
  have plain : ∀ token ∈ argumentTokens command, role token = .plain := by
    intro token member
    obtain ⟨value, among, rfl⟩ := List.mem_map.mp member
    exact plain_of_mem_arguments parsed simple line value among
  have all := line.arguments
  rw [written_line line, written_plains plain] at all
  dsimp only at all
  have length : ((argumentTokens command).map argument).length = command.arguments.length := by
    simp [argumentTokens]
  have none : (written (flagTokens command)).1 = [] := by
    have lengths := congrArg List.length all
    rw [List.length_append, length] at lengths
    exact List.length_eq_zero_iff.mp (by omega)
  rw [none, List.append_nil] at all
  exact ⟨all, written_plains plain, none⟩

/-- A flag whose tokens write no argument has no space: a collection with a space ends
with a piece of its own. -/
theorem bare_flagBody_of_long {entry : Key × Value} (inside : entry.2.hasTextInside = false)
    (noSpaceName : ' ' ∉ entry.1.asText.toList) (noSpaceValue : ' ' ∉ entry.2.textChars)
    (fine : Fine (writeFlag entry).toList)
    (noPiece : ∀ token ∈ tokens (writeFlag entry).toList, role token ≠ .plain) :
    ' ' ∉ flagBody entry := by
  intro space
  obtain ⟨first, others, pieces, read⟩ := tokens_writeFlag fine
  have untrue : entry.2 ≠ .bool true := by
    intro isTrue
    rw [flagBody, if_pos isTrue] at space
    exact noSpaceName space
  have spaceValue : ' ' ∈ entry.2.asText.toList := by
    rw [flagBody, if_neg untrue, List.mem_append, List.mem_cons] at space
    rcases space with name | impossible | value
    · exact absurd name noSpaceName
    · cases impossible
    · exact value
  obtain ⟨textFree, collection, shown⟩ := collection_of_space inside noSpaceValue spaceValue
  obtain ⟨next, following, valuePieces⟩ :=
    List.exists_cons_of_ne_nil (Text.split_ne_nil ' ' entry.2.asText.toList)
  rw [split_flagBody noSpaceName untrue valuePieces] at pieces
  obtain ⟨-, rfl⟩ := List.cons.inj pieces
  have empty : ∀ piece ∈ following, piece = [] := by
    intro piece among
    by_contra filled
    have part := collectionPiece_of_shown textFree collection piece
      (by rw [← shown, valuePieces]; exact List.mem_cons_of_mem _ among) filled
    refine noPiece piece ?_ part.role_eq
    rw [read]
    exact List.mem_cons_of_mem _ (List.mem_filter.mpr ⟨among, by simpa using filled⟩)
  have last := getLast?_of_split valuePieces spaceValue empty
  rw [shown] at last
  cases isClosing_getLast collection ' ' last

theorem bare_flag (parsed : Parsed command) (simple : command.HoldsNoInnerText)
    (line : LineRead command) : ∀ entry ∈ command.flags, Bare (writeFlag entry).toList := by
  obtain ⟨-, -, none⟩ := arguments_read parsed simple line
  have roles := long_or_piece_of_mem parsed simple line
  have noShort : ∀ token ∈ flagTokens command, ∀ name, role token ≠ .short name := by
    intro token member name short
    rcases roles token member with ⟨other, content, long⟩ | part
    · cases long.symm.trans short
    · cases part.role_eq.symm.trans short
  intro entry member
  obtain ⟨name, named⟩ := parsed.names entry member
  have noSpace := not_mem_entryChars parsed line member
  rw [entryChars, List.mem_append, not_or] at noSpace
  have noSpaceName : ' ' ∉ entry.1.asText.toList := by
    rw [named] at noSpace ⊢
    exact noSpace.1
  refine bare_of_fine (line.fine entry member) ?_
  rw [toList_writeFlag]
  have noSpaceBody := bare_flagBody_of_long (simple.flags entry member) noSpaceName noSpace.2
    (line.fine entry member) fun token among plain => by
      have argumentRead :=
        mem_written_of_plain noShort (List.mem_flatMap.mpr ⟨entry, member, among⟩) plain
      rw [none] at argumentRead
      cases argumentRead
  simpa using noSpaceBody

theorem flagTokens_eq (parsed : Parsed command) (simple : command.HoldsNoInnerText)
    (line : LineRead command) :
    flagTokens command = command.flags.map fun entry => (writeFlag entry).toList := by
  unfold flagTokens
  rw [← List.flatMap_map (f := fun entry => (writeFlag entry).toList) (g := tokens)]
  refine flatMap_tokens ?_
  intro entry member
  refine singleToken_of_bare (bare_flag parsed simple line entry member) ?_
  rw [toList_writeFlag]
  exact List.cons_ne_nil _ _

theorem exists_cut_of_mem (parsed : Parsed command) (simple : command.HoldsNoInnerText)
    (line : LineRead command) {entry : Key × Value} (member : entry ∈ command.flags) :
    ∃ source ∈ command.flags,
      entry.1.asText.toList = (Text.cut '=' (flagBody source)).1 ∧
        entry.2 = flagValue (Text.cut '=' (flagBody source)).2 := by
  have stored := storedBy_flagTokens parsed line member
  rw [flagTokens_eq parsed simple line] at stored
  rcases stored with ⟨token, among, name, content, long, rfl⟩ | ⟨token, among, name, short, -⟩
  · obtain ⟨source, sourceMember, rfl⟩ := List.mem_map.mp among
    rw [toList_writeFlag, role_dashes] at long
    obtain ⟨rfl, rfl⟩ := Role.long.inj long
    exact ⟨source, sourceMember, String.toList_ofList, rfl⟩
  · obtain ⟨source, -, rfl⟩ := List.mem_map.mp among
    rw [toList_writeFlag, role_dashes] at short
    cases short

theorem flagKept (parsed : Parsed command) (simple : command.HoldsNoInnerText)
    (line : LineRead command) : ∀ entry ∈ command.flags, FlagKept entry := by
  have noEquals : ∀ entry ∈ command.flags, '=' ∉ entry.1.asText.toList := by
    intro entry member
    obtain ⟨source, -, name, -⟩ := exists_cut_of_mem parsed simple line member
    rw [name]
    exact not_mem_cut '=' _
  intro entry member
  have bareWord := bare_flag parsed simple line entry member
  rw [toList_writeFlag] at bareWord
  have bareBody : Bare (flagBody entry) := (bare_cons.mp (bare_cons.mp bareWord).2).2
  obtain ⟨source, sourceMember, name, value⟩ := exists_cut_of_mem parsed simple line member
  rw [cut_flagBody (noEquals source sourceMember)] at name value
  have same : source = entry := by
    obtain ⟨entryName, entryNamed⟩ := parsed.names entry member
    obtain ⟨sourceName, sourceNamed⟩ := parsed.names source sourceMember
    have keys : source.1 = entry.1 := by
      rw [entryNamed, sourceNamed] at name ⊢
      exact congrArg Key.text (String.toList_inj.mp name.symm)
    have found := Table.lookup_of_mem parsed.distinct member
    rw [← keys, Table.lookup_of_mem parsed.distinct sourceMember] at found
    exact Prod.ext keys (Option.some.inj found)
  subst same
  by_cases isTrue : source.2 = .bool true
  · rw [flagBody, if_pos isTrue] at bareBody
    exact ⟨bareBody, noEquals source member, .inl isTrue⟩
  · rw [flagBody, if_neg isTrue] at bareBody
    obtain ⟨bareName, bareValue⟩ := bare_append.mp bareBody
    rw [if_neg isTrue] at value
    exact ⟨bareName, noEquals source member, .inr ⟨(bare_cons.mp bareValue).2, value.symm⟩⟩

/-- A command that reads back, without texts inside collections, is kept. -/
theorem kept_of_readsBack (parsed : Parsed command) (simple : command.HoldsNoInnerText)
    (reads : command.ReadsBack) : command.Kept := by
  have line := lineRead_of_readsBack parsed simple reads
  have same := (arguments_read parsed simple line).1
  exact {
    agent := line.agent
    name := line.name
    arguments := by
      intro value member
      refine ⟨line.delimited value member, plain_of_mem_arguments parsed simple line value member,
        ?_⟩
      rw [argumentTokens, List.map_map] at same
      exact List.map_inj_left.mp (same.trans (List.map_id _).symm) value member
    flags := flagKept parsed simple line }

end Flags

end CommandLine

end ChatDispatch
