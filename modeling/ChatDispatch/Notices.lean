import ChatDispatch.Settings
import ChatDispatch.Value.Shown

/-!
# Notices

Two situations are answered with a notice instead of a fault: a command for an agent that
is not set up, and one for a plugin that waits for credentials.  Settings override the
notices of single agents.
-/

namespace ChatDispatch

/-- The notices for agents that are not set up and for plugins that wait for credentials. -/
structure Notices where
  missing : List (Key × String)
  locked : List (Key × String)
deriving DecidableEq

namespace Notices

def snippet : String :=
  "```json\n\"internalPlugins\": \x7b\n  \"jira\": \x7b\n    \"credentials\": \x7b\n" ++
  "      \"token\": \"YOUR_API_TOKEN\"\n    \x7d\n  \x7d\n\x7d\n```"

/-- The notices that are there without any settings. -/
def default : Notices :=
  { missing :=
      [("jira", "# The Jira plugin is not registered\n\n" ++
        "Add your Jira credentials to the settings file:\n" ++ snippet)]
    locked :=
      [("jira", "# The Jira plugin needs credentials\n\n" ++
        "Add your Jira credentials to the settings file:\n" ++ snippet)] }

/-- The first of two keys whose value holds. -/
def firstHolding (entries : Entries) (first second : String) : Value :=
  (fieldOr entries first .null).orElse (fieldOr entries second .null)

/-- Overrides the notice of an agent in one table, if a value for it holds. -/
def override (agent : Key) (notice : Value) (table : List (Key × String)) :
    List (Key × String) :=
  if notice.holds then Table.store agent notice.asText table else table

/-- Overrides the notices of an agent by its entry in the settings; an entry that is no
mapping is ignored. -/
def overrideAgent (notices : Notices) (agent : Key) : Value → Notices
  | .map entries =>
      { missing :=
          override agent (firstHolding entries "not-configured" "not_configured")
            notices.missing
        locked :=
          override agent (firstHolding entries "auth-required" "auth_required")
            notices.locked }
  | _ => notices

/-- The default notices with the given overrides applied. -/
def withOverrides (overrides : Entries) : Notices :=
  overrides.foldl (fun notices entry => notices.overrideAgent entry.1 entry.2) default

/-- The notices under some settings, or without any. -/
def ofSettings : Option Settings → Except Fault Notices
  | none => .ok default
  | some settings =>
      match settings.get ["soft-failures"] (.map []) with
      | .error fault => .error fault
      | .ok overrides =>
          match overrides.orElse (.map []) with
          | .map entries => .ok (withOverrides entries)
          | other => .error (.noAttribute other.kind "items")

end Notices

end ChatDispatch
