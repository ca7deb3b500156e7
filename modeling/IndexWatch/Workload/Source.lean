import IndexWatch.Attempt
import IndexWatch.Workload.Target

/-! What a cluster tells about its workloads, and the checks made on it. -/

namespace IndexWatch.Workload

/-- How many replicas a workload should have, and how many are ready. -/
structure ReplicaStatus where
  desired : Int
  ready : Int
deriving DecidableEq

def ReplicaStatus.isReady (status : ReplicaStatus) : Bool := status.ready == status.desired

inductive JobOutcome where
  | running
  | complete
  | failed (job reason : String)
deriving DecidableEq

/-- Answers about the workloads of a world. -/
structure Source (σ : Type) where
  /-- The replicas of a workload that has them, or nothing where it does not exist yet. -/
  replicaStatus : Target → Attempt σ (Option ReplicaStatus)
  scheduledJobExists : Target → Attempt σ Bool
  /-- The outcomes of all jobs that the scheduled job named in the target owns. -/
  ownedJobOutcomes : Target → Attempt σ (List JobOutcome)

variable {σ : Type}

/-- Whether all desired replicas are ready. What does not exist yet is not ready. -/
def replicasReady (source : Source σ) (target : Target) : Attempt σ Bool := do
  let status ← source.replicaStatus target
  return status.any ReplicaStatus.isReady

def scheduledJobExists (source : Source σ) (target : Target) : Attempt σ Bool :=
  source.scheduledJobExists target

/-- The first failed job among some outcomes, with its reason. -/
def firstFailure? : List JobOutcome → Option (String × String)
  | [] => none
  | .failed job reason :: _ => some (job, reason)
  | _ :: rest => firstFailure? rest

/-- Whether one of the owned jobs is complete. Where none is, the first failed one is an error. -/
def completion (target : Target) (outcomes : List JobOutcome) : Except Error Bool :=
  if outcomes.contains .complete then .ok true
  else match firstFailure? outcomes with
    | some (job, reason) =>
      .error <| .workloadFailed .triggeredJob target.ns job
        s!"{reason} (owned by CronJob {target.ownerName})"
    | none => .ok false

def triggeredJobCompleted (source : Source σ) (target : Target) : Attempt σ Bool := do
  let outcomes ← source.ownedJobOutcomes target
  .ofExcept (completion target outcomes)

end IndexWatch.Workload
