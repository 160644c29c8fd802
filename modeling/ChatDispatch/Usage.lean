import ChatDispatch.CommandLine.Sigil
import ChatDispatch.Declaration
import ChatDispatch.Record
import ChatDispatch.Value.Order

/-!
# Usages

A usage is the help metadata of a command.  Its form is the canonical command line; the
sigil of the form tells where the command belongs.
-/

namespace ChatDispatch

/-- The help metadata of a command. -/
structure Usage where
  agent : Value
  command : Value
  description : Value
  form : Value
  examples : Value
deriving DecidableEq

namespace Usage

def shape : RecordShape :=
  { maker := "CommandUsage.__init__"
    fields := ["agent_id", "command", "description", "syntax", "examples"]
    required := 2 }

def ofFields (fields : Entries) : Except Fault Usage :=
  match shape.check fields with
  | .error fault => .error fault
  | .ok () =>
      .ok {
        agent := fieldOr fields "agent_id" .null
        command := fieldOr fields "command" .null
        description := fieldOr fields "description" (.text "")
        form := fieldOr fields "syntax" (.text "")
        examples := fieldOr fields "examples" (.list []) }

/-- The form of a usage, which has to be a text to be looked into. -/
def formText (usage : Usage) : Except Fault String :=
  match usage.form with
  | .text form => .ok form
  | other => .error (.noAttribute other.kind "startswith")

def sigilOfForm (form : String) : Sigil :=
  match form.toList with
  | first :: _ => (Sigil.ofChar? first).getD .none
  | [] => .none

def sigil (usage : Usage) : Except Fault Sigil :=
  usage.formText.map sigilOfForm

def ofSigil (sigil : Sigil) : List Usage → Except Fault (List Usage)
  | [] => .ok []
  | usage :: usages =>
      match usage.sigil with
      | .error fault => .error fault
      | .ok own =>
          (ofSigil sigil usages).map fun others =>
            if own = sigil then usage :: others else others

/-- The forms that start with a text, in their order. -/
def formsStarting (start : String) : List Usage → Except Fault (List String)
  | [] => .ok []
  | usage :: usages =>
      match usage.formText with
      | .error fault => .error fault
      | .ok form =>
          (formsStarting start usages).map fun others =>
            if start.toList.isPrefixOf form.toList then form :: others else others

def sorted (texts : List String) : List String :=
  texts.mergeSort fun left right => decide (left ≤ right)

/-- The forms of usages in increasing order; they need not be texts. -/
def sortedForms (usages : List Usage) : Except Fault (List Value) :=
  Value.sorted (usages.map (·.form))

end Usage

end ChatDispatch
