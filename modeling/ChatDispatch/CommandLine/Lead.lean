import ChatDispatch.CommandLine.Sigil
import ChatDispatch.Value.Shown

/-!
# Leads

A command that was not parsed from a text can be said to start with anything.  Only a
lead that is a sigil decides where the command goes; any other is named in a fault.
-/

namespace ChatDispatch

/-- What a command is said to start with: a sigil, or any value, of which only a text can
mean a sigil. -/
inductive Lead where
  | sigil (known : Sigil)
  | value (content : Value)
deriving DecidableEq, Repr

namespace Lead

def sigil? : Lead → Option Sigil
  | .sigil known => some known
  | .value (.text content) => Sigil.ofText? content
  | .value _ => none

def sigilShown : Sigil → String
  | .none => "<CommandPrefix.NONE: ''>"
  | .at => "<CommandPrefix.AT: '@'>"
  | .slash => "<CommandPrefix.SLASH: '/'>"

def shown : Lead → String
  | .sigil known => sigilShown known
  | .value content => content.shown

end Lead

end ChatDispatch
