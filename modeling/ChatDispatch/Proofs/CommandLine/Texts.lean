import ChatDispatch.Proofs.CommandLine.Conservation
import ChatDispatch.Proofs.CommandLine.Kept

/-!
# The texts of a command

A line that reads back has tokens with at least the characters of the texts of its
command, and is written with few more.  Hence nothing is lost on the way: without texts
inside collections, no text has a backslash, double quotes stand only in arguments that
are quoted, and every word is quoted or fine.
-/

namespace ChatDispatch

/-- The characters of a text; other values have none. -/
def Value.textChars : Value → List Char
  | .text content => content.toList
  | _ => []

def Key.textChars : Key → List Char
  | .text content => content.toList
  | _ => []

/-- The characters of the texts of an entry. -/
def entryChars (entry : Key × Value) : List Char :=
  entry.1.textChars ++ entry.2.textChars

/-- Whether a value is a collection that holds a text. -/
def Value.hasTextInside : Value → Bool
  | .text _ => false
  | value => value.holdsText

/-- The characters of the texts of a command. -/
def Command.textChars (command : Command) : List Char :=
  command.agent.toList ++ command.command.toList ++
    (command.arguments.flatMap Value.textChars ++ command.flags.flatMap entryChars)

/-- No collection in an argument or in the value of a flag holds a text. -/
structure Command.HoldsNoInnerText (command : Command) : Prop where
  arguments : ∀ value ∈ command.arguments, value.hasTextInside = false
  flags : ∀ entry ∈ command.flags, entry.2.hasTextInside = false

namespace CommandLine

theorem count_argument_le (token : List Char) (counted : Char) :
    (argument token).textChars.count counted ≤ token.count counted := by
  cases reads : argument token with
  | text content =>
      rw [eq_toList_of_argument reads]
      exact Nat.le_refl _
  | _ => exact Nat.zero_le _

theorem count_flagValue_le (content : Option (List Char)) (counted : Char) :
    (flagValue content).textChars.count counted ≤ (content.getD []).count counted := by
  cases content with
  | none => exact Nat.zero_le _
  | some text => exact count_argument_le text counted

theorem count_cut_le (mark : Char) (text : List Char) (counted : Char) :
    (Text.cut mark text).1.count counted + ((Text.cut mark text).2.getD []).count counted ≤
      text.count counted := by
  by_cases present : mark ∈ text
  · obtain ⟨before, after, rfl, absent⟩ := List.eq_append_cons_of_mem present
    rw [cut_append absent, List.count_append, List.count_cons]
    dsimp only [Option.getD_some]
    omega
  · rw [cut_of_not_mem present]
    simp

/-- The texts that tokens write have at most the characters of the tokens. -/
theorem count_written_le (tokens : List (List Char)) (counted : Char) :
    ((written tokens).1.flatMap Value.textChars).count counted +
        ((written tokens).2.flatMap entryChars).count counted ≤
      tokens.flatten.count counted := by
  have short (token : List Char) (name : Char) (shape : role token = .short name) :
      (Key.text (String.ofList [name])).textChars.count counted ≤ token.count counted := by
    obtain rfl := role_eq_short shape
    simp only [Key.textChars, String.toList_ofList, List.count_cons]
    omega
  induction tokens using written.induct with
  | case1 => simp [written]
  | case2 token rest name content long induction =>
      obtain ⟨body, rfl, cut⟩ := role_eq_long long
      have parts := count_cut_le '=' body counted
      have value := count_flagValue_le content counted
      rw [cut] at parts
      rw [written_long long]
      simp only [List.flatMap_cons, entryChars, Key.textChars, String.toList_ofList,
        List.count_append, List.flatten_cons, List.count_cons] at *
      omega
  | case3 token name shape next following taken induction =>
      have named := short token name shape
      have value := count_argument_le next counted
      rw [written_taken shape taken]
      simp only [List.flatMap_cons, entryChars, List.count_append, List.flatten_cons] at *
      omega
  | case4 token name shape next following left induction =>
      have named := short token name shape
      rw [written_left shape left]
      simp only [List.flatMap_cons, entryChars, List.count_append, List.flatten_cons,
        Value.textChars, List.count_nil] at *
      omega
  | case5 token name shape =>
      have named := short token name shape
      rw [written_last shape]
      simpa [entryChars, Value.textChars] using named
  | case6 token rest plain induction =>
      have value := count_argument_le token counted
      rw [written_plain plain]
      simp only [List.flatMap_cons, List.count_append, List.flatten_cons] at *
      omega

theorem count_store_le (key : Key) (value : Value) (table : Entries) (counted : Char) :
    ((Table.store key value table).flatMap entryChars).count counted ≤
      (table.flatMap entryChars).count counted + (entryChars (key, value)).count counted := by
  induction table with
  | nil => simp [Table.store]
  | cons entry rest induction =>
      unfold Table.store
      split
      · simp only [List.flatMap_cons, List.count_append, entryChars]
        omega
      · simp only [List.flatMap_cons, List.count_append] at *
        omega

theorem count_update_le (table entries : Entries) (counted : Char) :
    ((Table.update table entries).flatMap entryChars).count counted ≤
      (table.flatMap entryChars).count counted + (entries.flatMap entryChars).count counted := by
  induction entries generalizing table with
  | nil => simp [Table.update]
  | cons entry rest induction =>
      obtain ⟨key, value⟩ := entry
      have here := count_store_le key value table counted
      have later := induction (Table.store key value table)
      have unfolded : Table.update table ((key, value) :: rest) =
          Table.update (Table.store key value table) rest := rfl
      rw [unfolded, List.flatMap_cons, List.count_append]
      omega

/-- A character that literal forms without texts do not have. -/
def isForeign (character : Char) : Bool :=
  !isBare character && character != ' '

theorem Fine.count_foreign {text : List Char} (fine : Fine text) {counted : Char}
    (foreign : isForeign counted = true) : text.count counted = 0 := by
  rw [List.count_eq_zero]
  intro member
  simp only [isForeign, Bool.and_eq_true, Bool.not_eq_true', bne_iff_ne] at foreign
  rcases fine counted member with bare | space
  · rw [foreign.1] at bare
    cases bare
  · exact foreign.2 space

theorem literal_asText {value : Value} (inside : value.hasTextInside = false)
    (noText : ∀ content, value ≠ .text content) : Literal value.asText.toList := by
  cases value with
  | text content => exact absurd rfl (noText content)
  | _ => exact literal_shown _ inside

theorem count_asText {value : Value} (inside : value.hasTextInside = false) {counted : Char}
    (foreign : isForeign counted = true) :
    value.asText.toList.count counted = value.textChars.count counted := by
  by_cases isText : ∃ content, value = .text content
  · obtain ⟨content, rfl⟩ := isText
    rfl
  · rw [not_exists] at isText
    have none : value.textChars = [] := by
      cases value with
      | text content => exact absurd rfl (isText content)
      | _ => rfl
    rw [(literal_asText inside isText).fine.count_foreign foreign, none]
    rfl

theorem count_escapeQuotes (text : List Char) {counted : Char} (plain : counted ≠ '\\') :
    (escapeQuotes text).count counted = text.count counted := by
  induction text with
  | nil => rfl
  | cons character rest induction =>
      unfold escapeQuotes
      split
      · rename_i double
        rw [List.count_cons_of_ne (Ne.symm plain), double, List.count_cons, List.count_cons,
          induction]
      · simp [List.count_cons, induction]

theorem count_backslash_escapeQuotes (text : List Char) :
    (escapeQuotes text).count '\\' = text.count '\\' + text.count '"' := by
  induction text with
  | nil => rfl
  | cons character rest induction =>
      unfold escapeQuotes
      split
      · rename_i double
        simp [induction, double]
        omega
      · rename_i other
        simp [List.count_cons, induction, other]
        omega

def quotedChars (value : Value) : List Char :=
  if ' ' ∈ value.asText.toList then value.textChars else []

theorem count_writeArgument {value : Value} (inside : value.hasTextInside = false)
    {counted : Char} (foreign : isForeign counted = true) (noDouble : counted ≠ '"')
    (plain : counted ≠ '\\') :
    (writeArgument value).toList.count counted = value.textChars.count counted := by
  rw [toList_writeArgument, ← count_asText inside foreign]
  split
  · simp [List.count_append, count_escapeQuotes _ plain, Ne.symm noDouble]
  · rfl

theorem count_backslash_writeArgument {value : Value} (inside : value.hasTextInside = false) :
    (writeArgument value).toList.count '\\' =
      value.textChars.count '\\' + (quotedChars value).count '"' := by
  rw [toList_writeArgument, ← count_asText inside (show isForeign '\\' = true from rfl)]
  unfold quotedChars
  split
  · rw [← count_asText inside (show isForeign '"' = true from rfl)]
    simp [List.count_append, count_backslash_escapeQuotes]
  · simp

theorem count_writeFlag {entry : Key × Value} {name : String} (named : entry.1 = .text name)
    (inside : entry.2.hasTextInside = false) {counted : Char} (foreign : isForeign counted = true) :
    (writeFlag entry).toList.count counted = (entryChars entry).count counted := by
  have noDash : '-' ≠ counted := by
    rintro rfl
    cases foreign
  have noEquals : '=' ≠ counted := by
    rintro rfl
    cases foreign
  have nameChars : entry.1.asText.toList = entry.1.textChars := by
    rw [named]
    rfl
  rw [toList_writeFlag, flagBody, entryChars]
  split
  · rename_i isTrue
    simp [noDash, nameChars, isTrue, Value.textChars]
  · simp [noDash, noEquals, nameChars, count_asText inside foreign]

theorem count_flatMap_congr {α : Type} {members : List α} {left right : α → List Char}
    {counted : Char}
    (same : ∀ member ∈ members, (left member).count counted = (right member).count counted) :
    (members.flatMap left).count counted = (members.flatMap right).count counted := by
  rw [List.count_flatMap, List.count_flatMap]
  exact congrArg List.sum (List.map_congr_left same)

theorem count_line (command : Command) {counted : Char} (foreign : isForeign counted = true) :
    (spaced (lineWords command)).count counted =
      (command.agent.toList ++ command.command.toList).count counted +
        (command.arguments.flatMap fun value => (writeArgument value).toList).count counted +
        (command.flags.flatMap fun entry => (writeFlag entry).toList).count counted := by
  have noSpace : ' ' ≠ counted := by
    rintro rfl
    cases foreign
  have noColon : ':' ≠ counted := by
    rintro rfl
    cases foreign
  have spread {α : Type} (members : List α) (word : α → List Char) :
      ((members.map word).flatMap (' ' :: ·)).count counted =
        (members.flatMap word).count counted := by
    rw [List.flatMap_map]
    refine count_flatMap_congr ?_
    intro member _
    rw [List.count_cons_of_ne noSpace]
  rw [lineWords, spaced_cons, List.flatMap_append, List.count_append, List.count_append,
    List.count_append, List.count_append, List.count_cons_of_ne noColon, spread, spread]
  omega

/-- The tokens of a line that reads back have at least the characters of the texts. -/
theorem count_texts_le {command : Command} {first : Char} (led : command.Led first)
    (reads : command.ReadsBack) {counted : Char} (foreign : isForeign counted = true) :
    command.textChars.count counted ≤
      (tokens (trimEnd (spaced (lineWords command)))).flatten.count counted := by
  obtain ⟨again, parses, -, -, sameAgent, sameName, sameArguments, sameFlags⟩ := reads
  obtain ⟨head, tail, agent, name, line, targets, rfl⟩ := (parse?_line_iff led).mp parses
  have headFilled : head ≠ [] := ne_nil_of_mem_tokens (line ▸ List.mem_cons_self)
  have notCore : counted ∉ coreAgent.toList := by
    intro member
    have bare : Bare coreAgent.toList := by decide
    simp [isForeign, bare counted member] at foreign
  have target := (named_of_target? headFilled targets).count_le counted notCore
  have read := count_written_le tail counted
  have stored := count_update_le [] (written tail).2 counted
  have flags := (sameFlags.flatMap_right entryChars).count_eq counted
  dsimp only at sameAgent sameName sameArguments flags
  unfold Command.textChars
  rw [← sameAgent, ← sameName, ← sameArguments, line]
  simp only [String.toList_ofList, List.count_append, List.flatten_cons, List.flatMap_nil,
    List.count_nil] at *
  omega

/-- Counting in a line a character that the texts have only where it is written as it is. -/
theorem count_line_eq {command : Command} (parsed : Parsed command)
    (simple : command.HoldsNoInnerText) {counted : Char} (foreign : isForeign counted = true)
    (noDouble : counted ≠ '"') (plain : counted ≠ '\\') :
    (spaced (lineWords command)).count counted = command.textChars.count counted := by
  have flags : (command.flags.flatMap fun entry => (writeFlag entry).toList).count counted =
      (command.flags.flatMap entryChars).count counted := by
    refine count_flatMap_congr ?_
    intro entry member
    obtain ⟨name, isName⟩ := parsed.names entry member
    exact count_writeFlag isName (simple.flags entry member) foreign
  have arguments : (command.arguments.flatMap fun value =>
      (writeArgument value).toList).count counted =
        (command.arguments.flatMap Value.textChars).count counted := by
    refine count_flatMap_congr ?_
    intro value member
    exact count_writeArgument (simple.arguments value member) foreign noDouble plain
  rw [count_line command foreign, flags, arguments, Command.textChars]
  simp only [List.count_append]
  omega

/-- Besides its own backslashes, a line has one for every double quote that is quoted. -/
theorem count_backslash_line {command : Command} (parsed : Parsed command)
    (simple : command.HoldsNoInnerText) :
    (spaced (lineWords command)).count '\\' =
      command.textChars.count '\\' + (command.arguments.flatMap quotedChars).count '"' := by
  have flags : (command.flags.flatMap fun entry => (writeFlag entry).toList).count '\\' =
      (command.flags.flatMap entryChars).count '\\' := by
    refine count_flatMap_congr ?_
    intro entry member
    obtain ⟨name, isName⟩ := parsed.names entry member
    exact count_writeFlag isName (simple.flags entry member) (by decide)
  have arguments (values : List Value)
      (simpleValues : ∀ value ∈ values, value.hasTextInside = false) :
      (values.flatMap fun value => (writeArgument value).toList).count '\\' =
        (values.flatMap Value.textChars).count '\\' + (values.flatMap quotedChars).count '"' := by
    induction values with
    | nil => rfl
    | cons value rest induction =>
        obtain ⟨here, later⟩ := List.forall_mem_cons.mp simpleValues
        simp only [List.flatMap_cons, List.count_append, count_backslash_writeArgument here,
          induction later]
        omega
  rw [count_line command (by decide), flags, arguments _ simple.arguments, Command.textChars]
  simp only [List.count_append]
  omega

/-- The texts that are not put between quotes. -/
def unquotedChars (value : Value) : List Char :=
  if ' ' ∈ value.asText.toList then [] else value.textChars

theorem count_quoted_add_unquoted (values : List Value) (counted : Char) :
    (values.flatMap Value.textChars).count counted =
      (values.flatMap quotedChars).count counted +
        (values.flatMap unquotedChars).count counted := by
  induction values with
  | nil => rfl
  | cons value rest induction =>
      have here : value.textChars.count counted =
          (quotedChars value).count counted + (unquotedChars value).count counted := by
        unfold quotedChars unquotedChars
        split <;> simp
      simp only [List.flatMap_cons, List.count_append, induction, here]
      omega

/-- Where a command that reads back has backslashes and double quotes. -/
structure MarksQuoted (command : Command) : Prop where
  backslash : '\\' ∉ command.textChars
  agent : '"' ∉ command.agent.toList
  name : '"' ∉ command.command.toList
  arguments : ∀ value ∈ command.arguments, ' ' ∉ value.asText.toList → '"' ∉ value.textChars
  flags : ∀ entry ∈ command.flags, '"' ∉ entryChars entry

theorem marksQuoted_of_readsBack {command : Command} (parsed : Parsed command)
    (simple : command.HoldsNoInnerText) (reads : command.ReadsBack) : MarksQuoted command := by
  obtain ⟨first, led⟩ := parsed.led
  have apostrophes := count_texts_le led reads (show isForeign '\'' = true from rfl)
  have doubles := count_texts_le led reads (show isForeign '"' = true from rfl)
  have backslashes := count_texts_le led reads (show isForeign '\\' = true from rfl)
  have apostrophesWritten :=
    count_line_eq parsed simple (show isForeign '\'' = true from rfl) (by decide) (by decide)
  have backslashesWritten := count_backslash_line parsed simple
  have parted := count_quoted_add_unquoted command.arguments '"'
  have shorter (counted : Char) : (trimEnd (spaced (lineWords command))).count counted ≤
      (spaced (lineWords command)).count counted :=
    (List.rdropWhile_prefix _ _).sublist.count_le counted
  have doublesParted : command.textChars.count '"' =
      command.agent.toList.count '"' + command.command.toList.count '"' +
        (command.arguments.flatMap Value.textChars).count '"' +
        (command.flags.flatMap entryChars).count '"' := by
    simp only [Command.textChars, List.count_append]
    omega
  rcases apostrophe_lost_or_escaped (trimEnd (spaced (lineWords command))) with lost | escaped
  · have fewer := shorter '\''
    omega
  · have fewer := shorter '\\'
    have noArgument : '"' ∉ command.arguments.flatMap unquotedChars :=
      List.count_eq_zero.mp (by omega)
    have noFlag : '"' ∉ command.flags.flatMap entryChars :=
      List.count_eq_zero.mp (by omega)
    exact {
      backslash := List.count_eq_zero.mp (by omega)
      agent := List.count_eq_zero.mp (by omega)
      name := List.count_eq_zero.mp (by omega)
      arguments := by
        intro value member unquoted among
        refine noArgument (List.mem_flatMap.mpr ⟨value, member, ?_⟩)
        rw [unquotedChars, if_neg unquoted]
        exact among
      flags := fun entry member among =>
        noFlag (List.mem_flatMap.mpr ⟨entry, member, among⟩) }

theorem isForeign_of_isLossy {character : Char} (lossy : isLossy character = true) :
    isForeign character = true ∧ character ≠ '"' ∧ character ≠ '\\' := by
  simp only [isLossy, Bool.or_eq_true, beq_iff_eq, Bool.and_eq_true, bne_iff_ne] at lossy
  rcases lossy with rfl | ⟨blank, noSpace⟩
  · decide
  · refine ⟨by simp [isForeign, isBare, blank, noSpace], ?_, ?_⟩
    · rintro rfl
      cases blank
    · rintro rfl
      cases blank

theorem raw_asText {value : Value} (inside : value.hasTextInside = false)
    (noDouble : '"' ∉ value.textChars) (plain : '\\' ∉ value.textChars) :
    Raw value.asText.toList := by
  constructor
  · rw [← List.count_eq_zero, count_asText inside (by decide)]
    exact List.count_eq_zero.mpr noDouble
  · rw [← List.count_eq_zero, count_asText inside (by decide)]
    exact List.count_eq_zero.mpr plain

theorem raw_append {left right : List Char} (rawLeft : Raw left) (rawRight : Raw right) :
    Raw (left ++ right) :=
  ⟨fun member => (List.mem_append.mp member).elim rawLeft.1 rawRight.1,
    fun member => (List.mem_append.mp member).elim rawLeft.2 rawRight.2⟩

theorem raw_writeFlag {entry : Key × Value} {name : String} (named : entry.1 = .text name)
    (inside : entry.2.hasTextInside = false) (noDouble : '"' ∉ entryChars entry)
    (plain : '\\' ∉ entryChars entry) : Raw (writeFlag entry).toList := by
  constructor
  · rw [← List.count_eq_zero, count_writeFlag named inside (by decide)]
    exact List.count_eq_zero.mpr noDouble
  · rw [← List.count_eq_zero, count_writeFlag named inside (by decide)]
    exact List.count_eq_zero.mpr plain

theorem quoted_or_raw_of_marksQuoted {command : Command} (parsed : Parsed command)
    (simple : command.HoldsNoInnerText) (marks : MarksQuoted command) :
    ∀ word ∈ lineWords command, Quoted word ∨ Raw word := by
  have backslash := marks.backslash
  simp only [Command.textChars, List.mem_append, List.mem_flatMap, not_or, not_exists,
    not_and] at backslash
  obtain ⟨⟨agentPlain, namePlain⟩, argumentsPlain, flagsPlain⟩ := backslash
  intro word member
  rcases List.mem_cons.mp member with rfl | later
  · have colon : Raw [':'] := ⟨by decide, by decide⟩
    exact .inr (raw_append ⟨marks.agent, agentPlain⟩
      (raw_append colon ⟨marks.name, namePlain⟩))
  · rcases List.mem_append.mp later with argument | flag
    · obtain ⟨value, among, rfl⟩ := List.mem_map.mp argument
      have inside := simple.arguments value among
      have plain := argumentsPlain value among
      rw [toList_writeArgument]
      by_cases space : ' ' ∈ value.asText.toList
      · have plainText : '\\' ∉ value.asText.toList := by
          rw [← List.count_eq_zero, count_asText inside (by decide)]
          exact List.count_eq_zero.mpr plain
        rw [if_pos space]
        exact .inl ⟨_, plainText, rfl⟩
      · rw [if_neg space]
        exact .inr (raw_asText inside (marks.arguments value among space) plain)
    · obtain ⟨entry, among, rfl⟩ := List.mem_map.mp flag
      obtain ⟨name, isName⟩ := parsed.names entry among
      exact .inr (raw_writeFlag isName (simple.flags entry among) (marks.flags entry among)
        (flagsPlain entry among))

/-- The words of a command that reads back are quoted or fine. -/
theorem settled_of_readsBack {command : Command} (parsed : Parsed command)
    (simple : command.HoldsNoInnerText) (reads : command.ReadsBack) :
    ∀ word ∈ lineWords command, Settled word := by
  obtain ⟨first, led⟩ := parsed.led
  have marks := marksQuoted_of_readsBack parsed simple reads
  rcases settled_or_lossy (quoted_or_raw_of_marksQuoted parsed simple marks) with
    settled | ⟨character, lossy, lost⟩
  · exact settled
  · obtain ⟨foreign, noDouble, plain⟩ := isForeign_of_isLossy lossy
    have needed := count_texts_le led reads foreign
    have written := count_line_eq parsed simple foreign noDouble plain
    obtain ⟨blanks, parts, -⟩ := exists_eq_trimEnd_append (spaced (lineWords command))
    have grown := count_tokens_append_le (trimEnd (spaced (lineWords command))) blanks character
    rw [← parts] at grown
    omega

end CommandLine

end ChatDispatch
