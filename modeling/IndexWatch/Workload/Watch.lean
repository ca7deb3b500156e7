import IndexWatch.Poll.Run
import IndexWatch.Workload.Source

/-! Watches: waits for a workload to become what it should be. -/

namespace IndexWatch.Workload

/-- The state of a watch. All but the first are final. -/
inductive WatchState where
  | pending
  | ready
  | failed
  | timedOut
deriving DecidableEq

namespace WatchState

/-- The state of a finished watch. -/
def ofResult : Except Error Unit → WatchState
  | .ok () => ready
  | .error e => if e.isDeadline then timedOut else failed

def isTerminal (state : WatchState) : Bool := state != pending

def name : WatchState → String
  | pending => "Pending"
  | ready => "Ready"
  | failed => "Failed"
  | timedOut => "TimedOut"

end WatchState

variable {σ : Type}

/-- Waits until all replicas of the target are ready. -/
def awaitReplicas (source : Source σ) (target : Target) (spec : Poll.Spec Bool) : Attempt σ Unit :=
  Poll.await (target.name ++ " to be ready") spec (replicasReady source target)

def awaitDeployment (source : Source σ) (ns name : String) (spec : Poll.Spec Bool) : Attempt σ Unit :=
  awaitReplicas source ⟨ns, name, .deployment⟩ spec

def awaitStatefulSet (source : Source σ) (ns name : String) (spec : Poll.Spec Bool) :
    Attempt σ Unit :=
  awaitReplicas source ⟨ns, name, .statefulSet⟩ spec

/-- Waits until a scheduled job exists. -/
def awaitScheduledJob (source : Source σ) (ns name : String) (spec : Poll.Spec Bool) :
    Attempt σ Unit :=
  let target : Target := ⟨ns, name, .scheduledJob⟩
  Poll.await (target.name ++ " to exist") spec (scheduledJobExists source target)

/-- Waits until a job that the scheduled job `owner` started is complete. -/
def awaitJobOf (source : Source σ) (ns owner : String) (spec : Poll.Spec Bool) : Attempt σ Unit :=
  let target : Target := ⟨ns, owner, .triggeredJob⟩
  Poll.await (target.name ++ " to complete") spec (triggeredJobCompleted source target)

/-- Waits until the index cleaner of an instance is scheduled, and then until one of its runs is
complete. Only the first wait is given the extra time. -/
def awaitIndexCleanerRun (source : Source σ) (ns instanceName : String) (spec : Poll.Spec Bool)
    (extraTimeout : Duration) : Attempt σ Unit := do
  awaitScheduledJob source ns (cleanerJobName instanceName) (spec.withExtraTimeout extraTimeout)
  awaitJobOf source ns (cleanerJobName instanceName) spec

end IndexWatch.Workload
