import IndexWatch.Error

/-! Which workload a watch is about. -/

namespace IndexWatch.Workload

open Text

/-- A watched workload. For a triggered job, `ownerName` is the scheduled job whose jobs count. -/
structure Target where
  ns : String
  ownerName : String
  kind : Kind
deriving DecidableEq

namespace Target

/-- The target as messages name it. -/
def name (target : Target) : String :=
  match target.kind with
  | .triggeredJob => s!"jobs of CronJob {target.ns}/{target.ownerName}"
  | kind => s!"{kind.name} {target.ns}/{target.ownerName}"

/-- The target with all its fields, for diagnostics. -/
def spelling (target : Target) : String :=
  spellRecord "JobWatchTarget"
    [("namespace", spell target.ns), ("owner_name", spell target.ownerName),
      ("kind", target.kind.spelling)]

def fetchError (target : Target) (reason : String) : Error :=
  .workloadFetch target.kind target.ns target.ownerName reason

end Target

/-- The scheduled job that cleans the indices of an instance. -/
def cleanerJobName (instanceName : String) : String := instanceName ++ "-es-index-cleaner"

end IndexWatch.Workload
