import Newsdesk.Json.Printer
import Newsdesk.Operator
import Newsdesk.Resource.Definition
import Newsdesk.Settings.CommandLine

/-!
# The command line program

Checks the settings and writes the resource definitions that a cluster needs, one a line.
-/

namespace Newsdesk

/-- The environment variables that are set, out of those that hold settings. -/
def readVariables : IO (List (String × String)) :=
  Settings.variableNames.filterMapM fun (name, _) => do
    return (← IO.getEnv name).map (name, ·)

/-- Ends with 0 when the settings are usable, with 1 when the aggregator has no usable address,
and with 2 when the command line cannot be read. -/
def runCommand (arguments : List String) : IO UInt32 := do
  match Settings.ofCommandLine arguments (← readVariables) with
  | .error e =>
    if e.isRequested then
      IO.println e.message
      return 0
    IO.eprintln e.message
    return 2
  | .ok settings =>
    match Operator.ofSettings settings with
    | .error e =>
      IO.eprintln e.message
      return 1
    | .ok _ =>
      for definition in [ResourceDefinition.feeds, ResourceDefinition.hotNews] do
        IO.println definition.toJson.render
      return 0

end Newsdesk

def main (arguments : List String) : IO UInt32 := Newsdesk.runCommand arguments
