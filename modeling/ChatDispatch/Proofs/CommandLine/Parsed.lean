import ChatDispatch.CommandLine.Format
import ChatDispatch.Proofs.CommandLine.Conservation
import ChatDispatch.Proofs.CommandLine.Reading

/-!
# Parsed commands

What is known of a command because it was parsed: its agent and its command name are
those of a first token, its arguments come from plain tokens, and its flags have
different names.  The line that is written for a command starts with its sigil.
-/

namespace ChatDispatch

def Command.line (command : Command) : String :=
  CommandLine.write (command.agent ++ ":" ++ command.command) command.kind command.arguments
    command.flags

/-- A character leads a command: it is that of its sigil and of its kind. -/
structure Command.Led (command : Command) (first : Char) : Prop where
  named : Sigil.ofChar? first = some command.sigil
  kind : command.kind = .ofSigil command.sigil

namespace CommandLine

theorem Scanner.forall_ne_nil_step {scanner : Scanner}
    (filled : ∀ token ∈ scanner.tokens, token ≠ []) (character : Char) :
    ∀ token ∈ (scanner.step character).tokens, token ≠ [] := by
  have move := scanner.move_step character
  generalize scanner.step character = next at move
  cases move with
  | blank ready outside blank =>
      by_cases idle : scanner.current = []
      · simpa [finished, idle] using filled
      · simpa [finished, idle] using filled
  | _ => exact filled

theorem Scanner.forall_ne_nil_run {scanner : Scanner}
    (filled : ∀ token ∈ scanner.tokens, token ≠ []) (text : List Char) :
    ∀ token ∈ (scanner.run text).tokens, token ≠ [] := by
  induction text generalizing scanner with
  | nil => exact filled
  | cons character rest induction => exact induction (forall_ne_nil_step filled character)

theorem ne_nil_of_mem_tokens {text token : List Char} (member : token ∈ tokens text) :
    token ≠ [] := by
  have filled : ∀ token ∈ (Scanner.start.run text).tokens, token ≠ [] :=
    Scanner.forall_ne_nil_run (by simp [Scanner.start]) text
  rw [tokens, List.mem_reverse, Scanner.finished] at member
  split at member
  · exact filled token member
  · rename_i reading
    rcases List.mem_cons.mp member with rfl | earlier
    · simpa using reading
    · exact filled token earlier

theorem cut_append {mark : Char} {before : List Char} (absent : mark ∉ before)
    (after : List Char) : Text.cut mark (before ++ mark :: after) = (before, some after) := by
  induction before with
  | nil => simp [Text.cut]
  | cons character rest induction =>
      rw [List.mem_cons, not_or] at absent
      simp [Text.cut, Ne.symm absent.1, induction absent.2]

theorem cut_of_not_mem {mark : Char} {text : List Char} (absent : mark ∉ text) :
    Text.cut mark text = (text, none) := by
  induction text with
  | nil => rfl
  | cons character rest induction =>
      rw [List.mem_cons, not_or] at absent
      simp [Text.cut, Ne.symm absent.1, induction absent.2]

theorem not_mem_cut (mark : Char) (text : List Char) : mark ∉ (Text.cut mark text).1 := by
  by_cases present : mark ∈ text
  · obtain ⟨before, after, rfl, absent⟩ := List.eq_append_cons_of_mem present
    rw [cut_append absent]
    exact absent
  · rw [cut_of_not_mem present]
    exact present

theorem trim_sublist (text : List Char) : (Text.trim text).Sublist text := by
  unfold Text.trim
  have both := (List.dropWhile_sublist Text.isBlank (l := (text.dropWhile Text.isBlank).reverse))
  have reversed := List.reverse_sublist.mpr both
  rw [List.reverse_reverse] at reversed
  exact reversed.trans (List.dropWhile_sublist Text.isBlank)

theorem trimEnd_of_bare {text : List Char} (bare : Bare text) : trimEnd text = text := by
  unfold trimEnd
  rw [List.rdropWhile_eq_self_iff.mpr]
  intro filled
  simp [not_isBlank_of_isBare (bare _ (List.getLast_mem filled))]

theorem trim_of_bare {text : List Char} (bare : Bare text) : Text.trim text = text := by
  cases text with
  | nil => rfl
  | cons first rest =>
      obtain ⟨here, later⟩ := bare_cons.mp bare
      rw [trim_of_visible (not_isBlank_of_isBare here), trimEnd_of_bare later]

/-- What is known of an agent and a command name that a token names. -/
structure Named (head agent name : List Char) : Prop where
  agent_ne_nil : agent ≠ []
  name_ne_nil : name ≠ []
  no_colon : ':' ∉ agent
  count_le : ∀ counted, counted ∉ coreAgent.toList →
    agent.count counted + name.count counted ≤ head.count counted
  parts : head = name ∧ agent = coreAgent.toList ∧ ':' ∉ head ∨
    ':' ∈ head ∧ agent.length + name.length < head.length

theorem named_of_target? {sigil : Sigil} {head agent name : List Char} (filled : head ≠ [])
    (targets : target? sigil head = some (agent, name)) : Named head agent name := by
  by_cases colon : ':' ∈ head
  · obtain ⟨before, after, rfl, absent⟩ := List.eq_append_cons_of_mem colon
    simp only [target?, cut_append absent] at targets
    split at targets
    · cases targets
    · rename_i visible
      obtain ⟨rfl, rfl⟩ := Prod.mk.inj (Option.some.inj targets)
      simp only [Bool.or_eq_true, List.isEmpty_iff, not_or] at visible
      have agentPart := trim_sublist before
      have namePart := trim_sublist after
      exact {
        agent_ne_nil := visible.1
        name_ne_nil := visible.2
        no_colon := fun member => absent (agentPart.subset member)
        count_le := by
          intro counted _
          have fewerBefore := agentPart.count_le counted
          have fewerAfter := namePart.count_le counted
          rw [List.count_append, List.count_cons]
          omega
        parts := by
          have shorterBefore := agentPart.length_le
          have shorterAfter := namePart.length_le
          refine .inr ⟨colon, ?_⟩
          rw [List.length_append, List.length_cons]
          omega }
  · simp only [target?, cut_of_not_mem colon] at targets
    cases sigil with
    | slash =>
        obtain ⟨rfl, rfl⟩ := Prod.mk.inj (Option.some.inj targets)
        exact {
          agent_ne_nil := by decide
          name_ne_nil := filled
          no_colon := by decide
          count_le := by
            intro counted absent
            rw [List.count_eq_zero_of_not_mem absent, Nat.zero_add]
          parts := .inl ⟨rfl, rfl, colon⟩ }
    | none => cases targets
    | «at» => cases targets

theorem target?_of_bare (sigil : Sigil) {agent name : List Char} (bareAgent : Bare agent)
    (bareName : Bare name) (agentFilled : agent ≠ []) (nameFilled : name ≠ [])
    (noColon : ':' ∉ agent) : target? sigil (agent ++ ':' :: name) = some (agent, name) := by
  simp [target?, cut_append noColon, trim_of_bare bareAgent, trim_of_bare bareName,
    agentFilled, nameFilled]

theorem parseTrimmed?_eq_some_iff {first : Char} {rest : List Char} {again : Command} :
    parseTrimmed? (first :: rest) = some again ↔
      ∃ sigil head tail agent command, Sigil.ofChar? first = some sigil ∧
        tokens rest = head :: tail ∧ target? sigil head = some (agent, command) ∧
        again = {
          sigil
          kind := .ofSigil sigil
          agent := String.ofList agent
          command := String.ofList command
          arguments := (written tail).1
          flags := Table.update [] (written tail).2
          source := String.ofList (first :: rest) } := by
  unfold parseTrimmed?
  cases sigils : Sigil.ofChar? first with
  | none => simp [sigils]
  | some sigil =>
      cases line : tokens rest with
      | nil => simp [sigils, line]
      | cons head tail =>
          cases targets : target? sigil head with
          | none => simp [sigils, line, targets]
          | some target =>
              simp [sigils, line, targets, argumentsAndFlags_eq, Prod.ext_iff, eq_comm]

/-- What is known of a command that was parsed. -/
structure Parsed (command : Command) : Prop where
  led : ∃ first, command.Led first
  target : ∃ head, Named head command.agent.toList command.command.toList
  arguments : ∀ value ∈ command.arguments,
    ∃ token, token ≠ [] ∧ role token = .plain ∧ argument token = value
  names : ∀ entry ∈ command.flags, ∃ name, entry.1 = .text name
  distinct : Table.Distinct command.flags

theorem exists_text_of_mem_update {table entries : Entries}
    (names : ∀ entry ∈ entries, ∃ name, entry.1 = .text name)
    (tableNames : ∀ entry ∈ table, ∃ name, entry.1 = .text name) :
    ∀ entry ∈ Table.update table entries, ∃ name, entry.1 = .text name := by
  induction entries generalizing table with
  | nil => exact tableNames
  | cons first rest induction =>
      obtain ⟨here, later⟩ := List.forall_mem_cons.mp names
      refine induction later ?_
      intro entry member
      rcases Table.mem_store member with among | ⟨-, same | same⟩
      · exact tableNames entry among
      · obtain ⟨name, named⟩ := here
        rw [named, Key.beq_def] at same
        exact ⟨name, Key.eq_text_of_alike same⟩
      · rw [same]
        exact here

theorem exists_text_of_storedBy {tokens : List (List Char)} {entry : Key × Value}
    (stored : StoredBy tokens entry) : ∃ name, entry.1 = .text name := by
  rcases stored with ⟨_, -, name, content, -, rfl⟩ | ⟨_, -, name, -, named, -⟩
  · exact ⟨_, rfl⟩
  · exact ⟨_, named⟩

theorem parsed_of_parse? {text : String} {command : Command}
    (parses : parse? text = some command) : Parsed command := by
  unfold parse? at parses
  cases line : Text.trim text.toList with
  | nil =>
      rw [line] at parses
      cases parses
  | cons first rest =>
      rw [line] at parses
      obtain ⟨sigil, head, tail, agent, name, sigils, read, targets, rfl⟩ :=
        parseTrimmed?_eq_some_iff.mp parses
      have filled : ∀ token ∈ head :: tail, token ≠ [] := by
        intro token member
        exact ne_nil_of_mem_tokens (read ▸ member)
      obtain ⟨headFilled, tailFilled⟩ := List.forall_mem_cons.mp filled
      exact {
        led := ⟨first, sigils, rfl⟩
        target := ⟨head, by simpa using named_of_target? headFilled targets⟩
        arguments := by
          intro value member
          obtain ⟨token, among, plain, reads⟩ := exists_plain_of_mem_written member
          exact ⟨token, tailFilled token among, plain, reads⟩
        names := exists_text_of_mem_update
          (fun entry member => exists_text_of_storedBy (storedBy_of_mem_written member))
          (by simp)
        distinct := Table.distinct_update Table.distinct_nil _ }

/-- The words of the line that is written for a command, after its sigil. -/
def lineWords (command : Command) : List (List Char) :=
  (command.agent.toList ++ ':' :: command.command.toList) ::
    (command.arguments.map (fun value => (writeArgument value).toList) ++
      command.flags.map fun entry => (writeFlag entry).toList)

theorem ofChar?_eq_some {first : Char} {sigil : Sigil} (named : Sigil.ofChar? first = some sigil) :
    sigil.text.toList = [first] ∧ Text.isBlank first = false := by
  unfold Sigil.ofChar? at named
  split at named
  · rename_i at_
    obtain rfl := Option.some.inj named
    exact ⟨by simp [at_, Sigil.text], by rw [at_]; decide⟩
  · split at named
    · rename_i slash
      obtain rfl := Option.some.inj named
      exact ⟨by simp [slash, Sigil.text], by rw [slash]; decide⟩
    · cases named

theorem spaced_cons (word : List Char) (words : List (List Char)) :
    spaced (word :: words) = word ++ words.flatMap (' ' :: ·) := by
  induction words generalizing word with
  | nil => simp
  | cons next words induction => simp [induction]

theorem toList_line {command : Command} {first : Char} (led : command.Led first) :
    command.line.toList = first :: spaced (lineWords command) := by
  have filled : command.agent ++ ":" ++ command.command ≠ "" := by
    intro empty
    have noChars := congrArg String.toList empty
    simp at noChars
  unfold Command.line write words writeId
  rw [if_neg filled, String.toList_intercalate]
  have separator : " ".toList = [' '] := rfl
  simp only [separator, List.map_cons, List.map_append, List.map_map, String.toList_append,
    led.kind, CommandKind.sigil_ofSigil, (ofChar?_eq_some led.named).1]
  have parted (word : List Char) (words : List (List Char)) :
      [' '].intercalate (word :: words) = word ++ words.flatMap (' ' :: ·) :=
    spaced_cons word words
  rw [parted, lineWords, spaced_cons]
  simp [Function.comp_def]

theorem parse?_line_iff {command again : Command} {first : Char} (led : command.Led first) :
    parse? command.line = some again ↔
      ∃ head tail agent name, tokens (trimEnd (spaced (lineWords command))) = head :: tail ∧
        target? command.sigil head = some (agent, name) ∧
        again = {
          sigil := command.sigil
          kind := command.kind
          agent := String.ofList agent
          command := String.ofList name
          arguments := (written tail).1
          flags := Table.update [] (written tail).2
          source := String.ofList (first :: trimEnd (spaced (lineWords command))) } := by
  unfold parse?
  rw [toList_line led, trim_of_visible (ofChar?_eq_some led.named).2, parseTrimmed?_eq_some_iff]
  simp only [led.named, led.kind, Option.some.injEq, exists_and_left, exists_eq_left']

end CommandLine

end ChatDispatch
