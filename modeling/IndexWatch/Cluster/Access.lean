import IndexWatch.Cluster.Workloads
import IndexWatch.Credentials.Store
import IndexWatch.Tunnel.Open
import IndexWatch.Verification

/-! The secrets and pods of a cluster, read through its API. -/

namespace IndexWatch.Cluster

variable {σ : Type}

/-- The secrets that the API gives out. -/
def secretStore (api : Api σ) : Credentials.SecretStore σ where
  get ns name := .ofTimed do
    match ← api.object? .secrets ns name Secret.decode with
    | .ok secret => return .ok (secret.map Secret.data)
    | .error failure =>
      return .error (.credentialUnavailable (ns ++ "/" ++ name)
        ("Kubernetes API error: " ++ failure.message))

/-- The name of the first pod that runs and has one. -/
def firstRunning? (pods : List Pod) : Option String :=
  (pods.filter (·.phase == some "Running")).findSome? Pod.name

/-- A running pod behind a target. -/
def findPod (api : Api σ) (target : Tunnel.Target) : Timed σ (Except Error (Option String)) := do
  match ← api.list .pods target.ns (some target.labelSelector) Pod.decode with
  | .ok pods => return .ok (firstRunning? pods)
  | .error failure =>
    return .error (target.setupFailed ("Kubernetes API error: " ++ failure.message))

/-- Lookups and relays through the API; `relay` leads a connection to a pod. -/
def forwarder (api : Api σ) (relay : String → String → UInt16 → Line σ) : Tunnel.Forwarder σ where
  lookup target := Functor.map (f := Timed σ) .given (findPod api target)
  relay := relay

/-- What a verification needs, through the API. -/
def access (api : Api σ) (relay : String → String → UInt16 → Line σ) : Verification.Cluster σ where
  secrets := secretStore api
  forwarder := forwarder api relay

/-- A cluster that no connection reaches. -/
def outOfReach : Verification.Cluster σ := access .outOfReach fun _ _ _ => Timed.done .never

end IndexWatch.Cluster
