/-!
# Sigils

The first character of a command line decides who answers it: `@` commands go to
plugins, `/` commands to the handlers of the command tables.
-/

namespace ChatDispatch

/-- The leading character of a command line, or none. -/
inductive Sigil where
  | none
  | at
  | slash
deriving DecidableEq, Repr, Inhabited

namespace Sigil

def text : Sigil → String
  | .none => ""
  | .at => "@"
  | .slash => "/"

def ofText? (text : String) : Option Sigil :=
  if text = "" then some .none
  else if text = "@" then some .at
  else if text = "/" then some .slash
  else Option.none

/-- The sigil of a character that starts commands. -/
def ofChar? (character : Char) : Option Sigil :=
  if character = '@' then some .at
  else if character = '/' then some .slash
  else Option.none

@[simp]
theorem ofText?_text (sigil : Sigil) : ofText? sigil.text = some sigil := by
  cases sigil <;> rfl

end Sigil

/-- The kinds of commands. -/
inductive CommandKind where
  | none
  | at
  | slash
deriving DecidableEq, Repr, Inhabited

/-- The kind of the commands that a sigil starts. -/
def CommandKind.ofSigil : Sigil → CommandKind
  | .at => .at
  | .slash => .slash
  | .none => .none

/-- The sigil that commands of a kind start with. -/
def CommandKind.sigil : CommandKind → Sigil
  | .none => .none
  | .at => .at
  | .slash => .slash

@[simp]
theorem CommandKind.sigil_ofSigil (sigil : Sigil) : (ofSigil sigil).sigil = sigil := by
  cases sigil <;> rfl

/-- The namespace of commands that name no agent. -/
def coreAgent : String := "core"

end ChatDispatch
