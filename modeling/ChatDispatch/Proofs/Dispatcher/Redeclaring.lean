import ChatDispatch.Dispatcher.Call
import ChatDispatch.Proofs.Plugin
import ChatDispatch.Proofs.Redefining

/-!
# The last declaration of a command

A managed plugin registers declarations one by one or several at once.  Those that can be
normalized are accepted, and those without a name refused without any effect.  So under each name
the plugin has the command that was accepted last, and this is the one it runs.
-/

namespace ChatDispatch

open Redefining

namespace Declaration

/-- A declaration that is normalized, or refused for what is in it. -/
def IsDecided (declaration : Declaration) : Prop :=
  ∀ fault, declaration.normalize = .error fault → fault.category = .value

/-- The only values that make a declaration unacceptable are its name and its id. -/
theorem IsDecided.nameless {declaration : Declaration} (decided : declaration.IsDecided)
    {fault : Fault} (refused : declaration.normalize = .error fault) :
    fault = .namelessDeclaration declaration.shown := by
  have isValue := decided fault refused
  unfold normalize at refused
  split at refused
  · cases refused
  · dsimp only at refused
    split at refused
    · exact (Except.error.inj refused).symm
    · split at refused
      · rename_i cause unlisted
        obtain rfl := Except.error.inj refused
        unfold itemsOf at unlisted
        split at unlisted
        all_goals cases unlisted
        cases isValue
      · cases refused

end Declaration

/-- What a plugin is asked to register: one declaration, or several at once. -/
inductive Registration where
  | single (declaration : Declaration)
  | several (declarations : List Declaration)

/-- The declarations that are to be registered, in their order. -/
def Registration.declarations : Registration → List Declaration
  | .single declaration => [declaration]
  | .several declarations => declarations

namespace Plugin

variable {plugin : Plugin} {commands : List PluginCommand} {declaration : Declaration}
  {declarations : List Declaration}

end Plugin

namespace Dispatcher

variable {state : Dispatcher} {handle : Nat} {plugin : Plugin}

end Dispatcher

end ChatDispatch
