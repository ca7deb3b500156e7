import IndexWatch.Cli
import IndexWatch.Cluster.Access

/-! The command line. Without a connection to a cluster, every cluster is out of reach. -/

namespace IndexWatch.Cli

/-- The variables that are set. -/
def environment : IO (List (String × String)) := do
  let values ← Config.Variable.all.mapM fun key => return (key.name, ← IO.getEnv key.name)
  return values.filterMap fun (name, value) => value.map fun value => (name, value)

end IndexWatch.Cli

def main : IO UInt32 := do
  let lookup := IndexWatch.Config.Lookup.ofList (← IndexWatch.Cli.environment)
  let command := IndexWatch.Cli.run lookup IndexWatch.Cluster.outOfReach
  let outcome := command.run 0 (IndexWatch.Site.fresh ())
  IO.eprint outcome.value.diagnostic
  return .ofNat outcome.value.exitCode
