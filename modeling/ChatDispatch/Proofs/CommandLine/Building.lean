import ChatDispatch.Proofs.CommandLine.Needed

/-!
# Building command lines

A command that was never parsed can be written as a line, too.  `Portable` names the parts
that a caller may put into one: agent, command name and names of flags are bare; arguments
and values of flags are truth values, integers and texts that are read as themselves.  An
argument must not look like a flag, and quotes protect it only if it has a space.
-/

namespace ChatDispatch

def digitCount (number : Int) : Nat :=
  (Nat.toDigits 10 number.natAbs).length

/-- An argument that a line can carry. -/
inductive PortableArgument : Value → Prop where
  | truth (truth : Bool) : PortableArgument (.bool truth)
  | integer {number : Int} :
      digitCount number ≤ 4300 → ¬(-9 ≤ number ∧ number ≤ -1) → PortableArgument (.int number)
  | text {content : String} :
      CommandLine.argument content.toList = .text content →
      content ≠ "" →
      '\\' ∉ content.toList →
      ¬['-', '-'] <+: content.toList →
      ¬(content.toList.length = 2 ∧ content.toList.head? = some '-') →
      ' ' ∈ content.toList ∨ CommandLine.Bare content.toList →
      PortableArgument (.text content)

/-- The value of a flag that a line can carry. -/
inductive PortableValue : Value → Prop where
  | truth (truth : Bool) : PortableValue (.bool truth)
  | integer {number : Int} : digitCount number ≤ 4300 → PortableValue (.int number)
  | text {content : String} :
      CommandLine.argument content.toList = .text content →
      CommandLine.Bare content.toList → PortableValue (.text content)

/-- A command that a line can carry. -/
structure Command.Portable (command : Command) : Prop where
  kind : command.kind = .at ∨ command.kind = .slash
  sigil : command.sigil = command.kind.sigil
  agent : command.agent ≠ "" ∧ CommandLine.Bare command.agent.toList ∧
    ':' ∉ command.agent.toList
  name : command.command ≠ "" ∧ CommandLine.Bare command.command.toList
  arguments : ∀ value ∈ command.arguments, PortableArgument value
  flagNames : ∀ entry ∈ command.flags, ∃ name : String,
    entry.1 = .text name ∧ CommandLine.Bare name.toList ∧ '=' ∉ name.toList
  flagValues : ∀ entry ∈ command.flags, PortableValue entry.2
  distinct : Table.Distinct command.flags

namespace CommandLine

theorem bare_truth (truth : Bool) : Bare (Value.bool truth).asText.toList := by
  cases truth <;> decide

theorem argument_truth (truth : Bool) :
    argument (Value.bool truth).asText.toList = .bool truth := by
  cases truth <;> decide

theorem bare_toString (number : Int) : Bare (toString number).toList := by
  intro character member
  rcases forall_toString number character member with rfl | digit
  · rfl
  · exact isBare_of_isAsciiDigit digit

theorem argument_toString_of_short {number : Int} (short : digitCount number ≤ 4300) :
    argument (toString number).toList = .int number := by
  rw [argument_toString_eq]
  exact if_pos short

/-- Only an integer of one digit with a minus sign looks like a short flag. -/
theorem role_toString_of_far {number : Int} (far : ¬(-9 ≤ number ∧ number ≤ -1)) :
    role (toString number).toList = .plain := by
  rcases role_toString number with plain | ⟨digit, short, isDigit⟩
  · exact plain
  · exfalso
    have spelled := role_eq_short short
    cases number with
    | ofNat size =>
        rw [toList_toString_ofNat] at spelled
        have minus : '-' ∈ Nat.toDigits 10 size := spelled ▸ List.mem_cons_self
        exact absurd (isAsciiDigit_of_mem_toDigits minus) (by decide)
    | negSucc size =>
        rw [toList_toString_negSucc] at spelled
        have value := digitsValue_toDigits (size + 1)
        rw [(List.cons.inj spelled).2] at value
        have small := (digitChar_of_isAsciiDigit isDigit).1
        simp only [Text.digitsValue, List.foldl_cons, List.foldl_nil] at value
        omega

/-- A text is no flag, if it neither begins with two dashes nor is a dash and a character. -/
theorem role_of_apart {token : List Char} (noDashes : ¬['-', '-'] <+: token)
    (noShort : ¬(token.length = 2 ∧ token.head? = some '-')) : role token = .plain := by
  unfold role
  split
  · rename_i rest
    exact absurd ⟨rest, rfl⟩ noDashes
  · exact absurd ⟨rfl, rfl⟩ noShort
  · rfl

theorem argumentKept_of_portable {value : Value} (portable : PortableArgument value) :
    ArgumentKept value := by
  cases portable with
  | truth truth =>
      constructor
      · exact .inl (bare_truth truth)
      · cases truth <;> decide
      · exact argument_truth truth
  | integer short far =>
      constructor
      · exact .inl (bare_toString _)
      · exact role_toString_of_far far
      · exact argument_toString_of_short short
  | text reads filled plain noDashes noShort delimited =>
      constructor
      · rcases delimited with space | bare
        · exact .inr ⟨space, plain⟩
        · exact .inl bare
      · exact role_of_apart noDashes noShort
      · exact reads

theorem asText_ne_empty_of_portable {value : Value} (portable : PortableArgument value) :
    value.asText ≠ "" := by
  refine asText_ne_empty ?_
  rintro rfl
  cases portable with
  | text reads filled plain noDashes noShort delimited => exact filled rfl

theorem read_of_portable {value : Value} (portable : PortableValue value) :
    Bare value.asText.toList ∧ argument value.asText.toList = value := by
  cases portable with
  | truth truth => exact ⟨bare_truth truth, argument_truth truth⟩
  | integer short => exact ⟨bare_toString _, argument_toString_of_short short⟩
  | text reads bare => exact ⟨bare, reads⟩

theorem proper_of_portable {command : Command} (portable : command.Portable) :
    command.Proper where
  led := by
    rcases portable.kind with isAt | isSlash
    · exact ⟨'@', by rw [portable.sigil, isAt]; rfl, by rw [portable.sigil, isAt]; rfl⟩
    · exact ⟨'/', by rw [portable.sigil, isSlash]; rfl, by rw [portable.sigil, isSlash]; rfl⟩
  agent := by
    intro empty
    exact portable.agent.1 (String.toList_inj.mp empty)
  name := by
    intro empty
    exact portable.name.1 (String.toList_inj.mp empty)
  noColon := portable.agent.2.2
  arguments := fun value member empty =>
    asText_ne_empty_of_portable (portable.arguments value member) (String.toList_inj.mp empty)
  names := by
    intro entry member
    obtain ⟨name, named, -⟩ := portable.flagNames entry member
    exact ⟨name, named⟩
  distinct := portable.distinct

theorem kept_of_portable {command : Command} (portable : command.Portable) : command.Kept where
  agent := portable.agent.2.1
  name := portable.name.2
  arguments := fun value member => argumentKept_of_portable (portable.arguments value member)
  flags := by
    intro entry member
    obtain ⟨name, named, bare, noEquals⟩ := portable.flagNames entry member
    have spelled : entry.1.asText.toList = name.toList := by rw [named]; rfl
    constructor
    · rw [spelled]
      exact bare
    · rw [spelled]
      exact noEquals
    · exact .inr (read_of_portable (portable.flagValues entry member))

/-- The line of a portable command is parsed to that command. -/
theorem parse?_line_of_portable {command : Command} (portable : command.Portable) :
    ∃ source, parse? command.line = some { command with source } :=
  parse?_line_of_kept (proper_of_portable portable) (kept_of_portable portable)

/-- A command whose parts have to be told apart from flags, numbers and separators. -/
def sampleBuilt : Command where
  sigil := .at
  kind := .at
  agent := "notes"
  command := "add:all"
  arguments := [.bool false, .int (-10), .text "-\t\"two\" words", .text "-vv"]
  flags := [(.text "", .bool true), (.text "tag", .text "a=b"), (.text "-n", .int (-5)),
    (.text "note", .text "")]
  source := ""

theorem portable_sampleBuilt : sampleBuilt.Portable where
  kind := .inl rfl
  sigil := rfl
  agent := by decide
  name := by decide
  arguments := by
    refine List.forall_mem_cons.mpr ⟨.truth false, List.forall_mem_cons.mpr ⟨?_,
      List.forall_mem_cons.mpr ⟨?_, List.forall_mem_singleton.mpr ?_⟩⟩⟩
    · exact .integer (by decide +kernel) (by decide)
    · exact .text (by decide +kernel) (by decide) (by decide) (by decide) (by decide)
        (.inl (by decide))
    · exact .text (by decide +kernel) (by decide) (by decide) (by decide) (by decide)
        (.inr (by decide))
  flagNames := by
    refine List.forall_mem_cons.mpr ⟨?_, List.forall_mem_cons.mpr ⟨?_,
      List.forall_mem_cons.mpr ⟨?_, List.forall_mem_singleton.mpr ?_⟩⟩⟩
    · exact ⟨"", rfl, by decide, by decide⟩
    · exact ⟨"tag", rfl, by decide, by decide⟩
    · exact ⟨"-n", rfl, by decide, by decide⟩
    · exact ⟨"note", rfl, by decide, by decide⟩
  flagValues := by
    refine List.forall_mem_cons.mpr ⟨?_, List.forall_mem_cons.mpr ⟨?_,
      List.forall_mem_cons.mpr ⟨?_, List.forall_mem_singleton.mpr ?_⟩⟩⟩
    · exact .truth true
    · exact .text (by decide +kernel) (by decide)
    · exact .integer (by decide +kernel)
    · exact .text (by decide +kernel) (by decide)
  distinct := by unfold Table.Distinct; decide +kernel

theorem parse?_line_sampleBuilt :
    sampleBuilt.Portable ∧ ∃ source, parse? sampleBuilt.line = some { sampleBuilt with source } :=
  ⟨portable_sampleBuilt, parse?_line_of_portable portable_sampleBuilt⟩

end CommandLine

end ChatDispatch
