import ChatDispatch.Proofs.CommandLine.Needed

/-!
# Round trips of command lines

A parsed command is written as a line that reads back when its words are kept.  Unless a
collection holds a text, it reads back only then.
-/

namespace ChatDispatch.CommandLine

/-- The line of a parsed command reads back when each of its words is kept, and only then
unless a collection in it holds a text. -/
theorem readsBack_iff_kept {text : String} {command : Command}
    (parses : parse? text = some command) :
    (command.Kept → command.ReadsBack) ∧
      (command.HoldsNoInnerText → (command.ReadsBack ↔ command.Kept)) := by
  have parsed := parsed_of_parse? parses
  refine ⟨readsBack_of_kept parsed, fun simple => ⟨?_, readsBack_of_kept parsed⟩⟩
  exact kept_of_readsBack parsed simple

theorem readsBack_quoted_argument :
    ∃ command, parse? "@notes:add \"two words\" 12 --tag=home -v" = some command ∧
      command.ReadsBack := by
  obtain ⟨command, parses, kept⟩ :
      ∃ command, parse? "@notes:add \"two words\" 12 --tag=home -v" = some command ∧
        command.Kept :=
    ⟨(parse? "@notes:add \"two words\" 12 --tag=home -v").get (by decide +kernel),
      (Option.some_get _).symm, by decide +kernel⟩
  exact ⟨command, parses, (readsBack_iff_kept parses).1 kept⟩

/-- An apostrophe in an argument without spaces is written as it is, and is lost. -/
theorem not_readsBack_apostrophe :
    ∃ command, parse? "/run \"it's\"" = some command ∧ ¬command.ReadsBack := by
  obtain ⟨command, parses, held, lost⟩ :
      ∃ command, parse? "/run \"it's\"" = some command ∧
        command.arguments = [.text "it's"] ∧
        (parse? command.line).map (·.arguments) = some [.text "its"] :=
    ⟨(parse? "/run \"it's\"").get (by decide +kernel), (Option.some_get _).symm,
      by decide +kernel, by decide +kernel⟩
  refine ⟨command, parses, ?_⟩
  rintro ⟨again, parsesAgain, -, -, -, -, sameArguments, -⟩
  rw [parsesAgain, Option.map_some, sameArguments, held] at lost
  exact absurd lost (by decide +kernel)

end ChatDispatch.CommandLine
