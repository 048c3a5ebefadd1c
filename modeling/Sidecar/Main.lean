import Sidecar.CommandLine.Outcome

/-!
# The command

There are no sockets here: the command runs without a connection, and every request fails.
-/

namespace Sidecar.CommandLine

def environmentNames : List String := ["DAPR_HOST", "DAPR_HTTP_PORT", "DAPR_API_TIMEOUT_SECONDS"]

def disconnected : Http.Wire := ⟨[], .unreachable, []⟩

end Sidecar.CommandLine

open Sidecar.CommandLine in
def main (args : List String) : IO UInt32 := do
  let given ← environmentNames.filterMapM fun name => do
    return (← IO.getEnv name).map (name, ·)
  let (outcome, _) := (run (given.lookup ·) args).run disconnected
  IO.print outcome.stdout
  IO.eprint outcome.stderr
  return outcome.exit
