import ChatDispatch.CommandTables

/-!
# Help texts

The commands of plugins are listed agent by agent, those of the tables in one list.  Only
the form of a usage decides in which list it is.
-/

namespace ChatDispatch.CommandTables

/-- A line that tells a form and what it is for. -/
def helpLine (usage : Usage) : String :=
  usage.form.asText ++ " - " ++ usage.description.asText ++ "\n"

/-- Usages by agent, the agents in the order in which they come up. -/
def byAgent (usages : List Usage) : List (Value × List Usage) :=
  usages.foldl
    (fun groups usage =>
      Table.store usage.agent (((Table.lookup usage.agent groups).getD []) ++ [usage]) groups)
    []

def agentHelp (agent : Value) (usages : List Usage) : String :=
  "[" ++ agent.asText ++ "]\n" ++
    String.join (usages.map fun usage => "  " ++ helpLine usage) ++ "\n"

/-- The help text for the commands after an at sign. -/
def pluginHelp (tables : CommandTables) : Except Fault String :=
  (Usage.ofSigil .at tables.allUsages).map fun usages =>
    if usages.isEmpty then
      "No @ commands are available. Enable a plugin to add some."
    else
      "Available @ commands:\n\n" ++
        String.join ((byAgent usages).map fun group => agentHelp group.1 group.2)

/-- The help text for the commands after a slash. -/
def slashHelp (tables : CommandTables) : Except Fault String :=
  (Usage.ofSigil .slash tables.allUsages).map fun usages =>
    "Available / commands:\n\n" ++ String.join (usages.map helpLine)

end ChatDispatch.CommandTables
