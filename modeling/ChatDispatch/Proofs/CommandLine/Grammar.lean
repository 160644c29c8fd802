import ChatDispatch.Proofs.CommandLine.Conservation
import ChatDispatch.Proofs.CommandLine.Parsed

/-!
# The grammar of command lines

`Writes` says which command a text writes, without saying how it is read: what stands after
the sigil is cut into tokens, the first token is the target, the others are arguments and
flags.  Parsing accepts the texts that write a command, and no others.

An at sign needs a colon after it.  `parseChecked?` looks for one in the raw text before it
reads any token; the target needs a colon of its own, and no colon of a token comes from
nowhere, so looking early makes no difference.
-/

namespace ChatDispatch.CommandLine

/-- The characters that start commands, with their sigils and the kinds of the commands. -/
inductive Leads : Char → Sigil → CommandKind → Prop where
  | at : Leads '@' .at .at
  | slash : Leads '/' .slash .slash

/-- The agent and the command that a first token names.  The first colon of the token
separates them, and both have a visible character; after a slash a token without a colon is
a core command, as it stands. -/
inductive Target (sigil : Sigil) : List Char → List Char → List Char → Prop where
  | parted {before after : List Char} :
      ':' ∉ before → Text.isAllBlank before = false → Text.isAllBlank after = false →
      Target sigil (before ++ ':' :: after) (Text.trim before) (Text.trim after)
  | core {name : List Char} :
      sigil = .slash → ':' ∉ name → Target sigil name coreAgent.toList name

/-- The command that a text writes: its target is in the first token, and its arguments and
flags are those of the other tokens. -/
inductive Writes (text : String) : Command → Prop where
  | line {sigil : Sigil} {kind : CommandKind} {first : Char} {rest head agent name : List Char}
      {tail : List (List Char)} :
      Text.trim text.toList = first :: rest → Leads first sigil kind →
      tokens rest = head :: tail → Target sigil head agent name →
      Writes text {
        sigil
        kind
        agent := String.ofList agent
        command := String.ofList name
        arguments := (argumentsAndFlags [] tail).1
        flags := (argumentsAndFlags [] tail).2
        source := String.ofList (first :: rest) }

/-- Parses a text unless it starts with an at sign and has no colon at all. -/
def parseChecked? (text : String) : Option Command :=
  let trimmed := Text.trim text.toList
  if trimmed.head? = some '@' ∧ ':' ∉ trimmed then none else parseTrimmed? trimmed

theorem leads_iff {first : Char} {sigil : Sigil} {kind : CommandKind} :
    Leads first sigil kind ↔ Sigil.ofChar? first = some sigil ∧ kind = .ofSigil sigil := by
  constructor
  · intro leads
    cases leads <;> exact ⟨rfl, rfl⟩
  · rintro ⟨named, rfl⟩
    unfold Sigil.ofChar? at named
    split at named
    · rename_i isAt
      cases named
      rw [isAt]
      exact .at
    · split at named
      · rename_i isSlash
        cases named
        rw [isSlash]
        exact .slash
      · cases named

theorem isEmpty_trim (text : List Char) : (Text.trim text).isEmpty = Text.isAllBlank text := by
  rw [Bool.eq_iff_iff, List.isEmpty_iff, Text.trim, List.reverse_eq_nil_iff,
    List.dropWhile_eq_nil_iff, Text.isAllBlank, List.all_eq_true]
  constructor
  · intro blank character member
    by_contra visible
    have kept : character ∈ text.dropWhile Text.isBlank := by
      have parts := List.takeWhile_append_dropWhile (p := Text.isBlank) (l := text)
      rw [← parts] at member
      rcases List.mem_append.mp member with skipped | kept
      · exact absurd (List.mem_takeWhile_imp skipped) visible
      · exact kept
    exact visible (blank character (List.mem_reverse.mpr kept))
  · intro blank character member
    exact blank character ((List.dropWhile_sublist _).subset (List.mem_reverse.mp member))

theorem target?_eq_some_iff {sigil : Sigil} {head agent name : List Char} :
    target? sigil head = some (agent, name) ↔ Target sigil head agent name := by
  constructor
  · intro named
    by_cases colon : ':' ∈ head
    · obtain ⟨before, after, rfl, absent⟩ := List.eq_append_cons_of_mem colon
      simp only [target?, cut_append absent, isEmpty_trim] at named
      split at named
      · cases named
      · rename_i visible
        obtain ⟨rfl, rfl⟩ := Prod.mk.inj (Option.some.inj named)
        simp only [Bool.or_eq_true, not_or, Bool.not_eq_true] at visible
        exact .parted absent visible.1 visible.2
    · simp only [target?, cut_of_not_mem colon] at named
      cases sigil with
      | slash =>
          obtain ⟨rfl, rfl⟩ := Prod.mk.inj (Option.some.inj named)
          exact .core rfl colon
      | none => cases named
      | «at» => cases named
  · intro target
    cases target with
    | parted absent agentVisible nameVisible =>
        simp [target?, cut_append absent, isEmpty_trim, agentVisible, nameVisible]
    | core isSlash absent =>
        subst isSlash
        simp [target?, cut_of_not_mem absent]

/-- A token names a target if it has a colon between two visible parts, or none after a
slash. -/
theorem exists_target_iff {sigil : Sigil} {head : List Char} :
    (∃ agent name, Target sigil head agent name) ↔
      (∃ before after, head = before ++ ':' :: after ∧ ':' ∉ before ∧
        Text.isAllBlank before = false ∧ Text.isAllBlank after = false) ∨
      sigil = .slash ∧ ':' ∉ head := by
  constructor
  · rintro ⟨agent, name, target⟩
    cases target with
    | parted absent agentVisible nameVisible =>
        exact .inl ⟨_, _, rfl, absent, agentVisible, nameVisible⟩
    | core isSlash absent => exact .inr ⟨isSlash, absent⟩
  · rintro (⟨before, after, rfl, absent, agentVisible, nameVisible⟩ | ⟨isSlash, absent⟩)
    · exact ⟨_, _, .parted absent agentVisible nameVisible⟩
    · exact ⟨_, _, .core isSlash absent⟩

theorem parse?_eq_some_iff_writes {text : String} {command : Command} :
    parse? text = some command ↔ Writes text command := by
  unfold parse?
  constructor
  · intro parses
    cases line : Text.trim text.toList with
    | nil =>
        rw [line] at parses
        cases parses
    | cons first rest =>
        rw [line] at parses
        obtain ⟨sigil, head, tail, agent, name, named, read, targets, rfl⟩ :=
          parseTrimmed?_eq_some_iff.mp parses
        have args := argumentsAndFlags_eq [] tail
        have writes :=
          Writes.line line (leads_iff.mpr ⟨named, rfl⟩) read (target?_eq_some_iff.mp targets)
        rw [args] at writes
        exact writes
  · intro writes
    obtain ⟨line, leads, read, target⟩ := writes
    obtain ⟨named, rfl⟩ := leads_iff.mp leads
    rw [line]
    refine parseTrimmed?_eq_some_iff.mpr
      ⟨_, _, _, _, _, named, read, target?_eq_some_iff.mpr target, ?_⟩
    rw [argumentsAndFlags_eq]

/-- A parsed command has an agent and a name, and no colon in its agent. -/
theorem named_of_writes {text : String} {command : Command} (writes : Writes text command) :
    command.agent ≠ "" ∧ command.command ≠ "" ∧ ':' ∉ command.agent.toList := by
  obtain ⟨head, named⟩ := (parsed_of_parse? (parse?_eq_some_iff_writes.mpr writes)).target
  refine ⟨?_, ?_, named.no_colon⟩
  · intro empty
    exact named.agent_ne_nil (by rw [empty]; rfl)
  · intro empty
    exact named.name_ne_nil (by rw [empty]; rfl)

theorem mem_of_mem_tokens {text token : List Char} (among : token ∈ tokens text)
    {character : Char} (member : character ∈ token) : character ∈ text := by
  have counted := count_tokens_le text character
  have present : character ∈ (tokens text).flatten := List.mem_flatten.mpr ⟨token, among, member⟩
  exact List.count_pos_iff.mp (Nat.lt_of_lt_of_le (List.count_pos_iff.mpr present) counted)

/-- After an at sign the target has a colon, and so has the text. -/
theorem colon_of_writes_at {text : String} {command : Command} (writes : Writes text command)
    (isAt : (Text.trim text.toList).head? = some '@') : ':' ∈ Text.trim text.toList := by
  obtain @⟨sigil, kind, first, rest, head, agent, name, tail, line, leads, read, target⟩ := writes
  rw [line] at isAt ⊢
  obtain rfl := Option.some.inj isAt
  cases leads
  cases target with
  | @parted before after =>
      have among : before ++ ':' :: after ∈ tokens rest := by
        rw [read]
        exact List.mem_cons_self
      exact List.mem_cons_of_mem _
        (mem_of_mem_tokens among (List.mem_append_right _ List.mem_cons_self))
  | core isSlash => cases isSlash

theorem parseChecked?_eq_parse? (text : String) : parseChecked? text = parse? text := by
  unfold parseChecked?
  dsimp only
  split
  · rename_i lacking
    obtain ⟨isAt, noColon⟩ := lacking
    cases parses : parse? text with
    | none => rfl
    | some command =>
        exact absurd (colon_of_writes_at (parse?_eq_some_iff_writes.mp parses) isAt) noColon
  · rfl

/-- Parsing accepts exactly the texts whose first token names a target, and gives the command
that the text writes.  Looking for a colon beforehand changes no outcome. -/
theorem parse?_accepts_grammar (text : String) :
    ((parse? text).isSome = true ↔
      ∃ sigil kind first rest head tail,
        Text.trim text.toList = first :: rest ∧ Leads first sigil kind ∧
          tokens rest = head :: tail ∧
          ((∃ before after, head = before ++ ':' :: after ∧ ':' ∉ before ∧
              Text.isAllBlank before = false ∧ Text.isAllBlank after = false) ∨
            sigil = .slash ∧ ':' ∉ head)) ∧
    (∀ command, parse? text = some command ↔
      Writes text command ∧ command.agent ≠ "" ∧ command.command ≠ "" ∧
        ':' ∉ command.agent.toList) ∧
    parseChecked? text = parse? text := by
  refine ⟨?_, ?_, parseChecked?_eq_parse? text⟩
  · rw [Option.isSome_iff_exists]
    constructor
    · rintro ⟨command, parses⟩
      obtain ⟨line, leads, read, target⟩ := parse?_eq_some_iff_writes.mp parses
      exact ⟨_, _, _, _, _, _, line, leads, read, exists_target_iff.mp ⟨_, _, target⟩⟩
    · rintro ⟨sigil, kind, first, rest, head, tail, line, leads, read, shape⟩
      obtain ⟨agent, name, target⟩ := exists_target_iff.mpr shape
      exact ⟨_, parse?_eq_some_iff_writes.mpr (.line line leads read target)⟩
  · intro command
    constructor
    · intro parses
      have writes := parse?_eq_some_iff_writes.mp parses
      exact ⟨writes, named_of_writes writes⟩
    · rintro ⟨writes, -⟩
      exact parse?_eq_some_iff_writes.mpr writes

/-- A quoted colon separates as well, but one outside of the first token does not. -/
example :
    (parse? "@\"notes:add\" milk").isSome = true ∧ (parse? "@foo bar: baz").isNone = true := by
  decide +kernel

end ChatDispatch.CommandLine
