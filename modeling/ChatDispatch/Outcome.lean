import ChatDispatch.Fault

/-!
# Outcomes

What running something gives: a value or a fault.  A situation that is no fault for the
user is answered with a reply, which the chat shows like any other.
-/

namespace ChatDispatch

abbrev Outcome := Except Fault Value

/-- Waits for what a call gave, which only a suspendable callable allows. -/
def Callable.awaited (callable : Callable) : Outcome → Outcome
  | .error fault => .error fault
  | .ok value => if callable.suspendable then .ok value else .error (.notAwaitable value.kind)

/-- A reply in place of a result: a text for the user and its type. -/
def noticeReply (content kind : String) : Value :=
  .map [("content", .text content), ("error", .bool true), ("type", .text kind)]

end ChatDispatch
