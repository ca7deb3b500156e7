import IndexWatch.Cluster.Api
import IndexWatch.Workload.Source

/-! The workloads of a cluster, read through its API. -/

namespace IndexWatch.Cluster

open Workload

/-- One replica is desired where the object does not say, and none is ready. -/
def Replicas.status (replicas : Replicas) : ReplicaStatus :=
  ⟨replicas.desired.getD 1, replicas.ready.getD 0⟩

/-- Whether a job belongs to the scheduled job `owner`. -/
def Job.isOwnedBy (job : Job) (owner : String) : Bool :=
  job.owners.any fun reference => reference.kind == "CronJob" && reference.name == owner

/-- The first condition of a type that holds. -/
def Job.holding? (job : Job) (type : String) : Option Condition :=
  job.conditions.find? fun condition => condition.type == type && condition.status == "True"

/-- What became of a job. Where it is both complete and failed, it is complete. -/
def Job.outcome (job : Job) : JobOutcome :=
  if (job.holding? "Complete").isSome then .complete
  else match job.holding? "Failed" with
    | some condition =>
      .failed (job.name.getD "") ((condition.reason.or condition.message).getD "Failed")
    | none => .running

variable {σ α : Type}

/-- An answer of the API about a target, its failure as the target's error. -/
def fetched (target : Target) (task : Timed σ (Except Failure α)) : Attempt σ α :=
  .ofTimed do
    match ← task with
    | .ok value => return .ok value
    | .error failure => return .error (target.fetchError failure.message)

def replicasOf (api : Api σ) (resource : Resource) (target : Target) :
    Attempt σ (Option ReplicaStatus) := do
  let replicas ← fetched target <|
    api.object? resource target.ns target.ownerName (Replicas.decode resource)
  return replicas.map Replicas.status

/-- The workloads that the API tells about. -/
def workloads (api : Api σ) : Source σ where
  replicaStatus target :=
    match target.kind with
    | .deployment => replicasOf api .deployments target
    | .statefulSet => replicasOf api .statefulSets target
    | kind => .ofExcept (.error (target.fetchError (kind.name ++ " has no replica status")))
  scheduledJobExists target := do
    let found ← fetched target <|
      api.object? .cronJobs target.ns target.ownerName decodeScheduledJob
    return found.isSome
  ownedJobOutcomes target := do
    let jobs ← fetched target <| api.list .jobs target.ns none Job.decode
    return (jobs.filter (·.isOwnedBy target.ownerName)).map Job.outcome

end IndexWatch.Cluster
