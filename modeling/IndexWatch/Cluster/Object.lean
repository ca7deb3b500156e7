import IndexWatch.Cluster.Decode
import IndexWatch.Cluster.Request

/-! The cluster's objects, as far as a verification looks at them. -/

namespace IndexWatch.Cluster

/-- A pod, with the phase of its life. -/
structure Pod where
  name : Option String
  phase : Option String
deriving DecidableEq

/-- The replica counts of an object that has them. -/
structure Replicas where
  desired : Option Int
  ready : Option Int
deriving DecidableEq

structure Secret where
  data : List (String × List UInt8)
deriving DecidableEq

structure Owner where
  kind : String
  name : String
deriving DecidableEq

structure Condition where
  type : String
  status : String
  reason : Option String
  message : Option String
deriving DecidableEq

structure Job where
  name : Option String
  owners : List Owner
  conditions : List Condition
deriving DecidableEq

/-- An object of a kind: where it names its version and kind, they must be the right ones. -/
def decodeObject {α : Type} (resource : Resource)
    (fields : List Json.Step → List (String × Json) → Except Misfit α) : Decode α :=
  decodeRecord resource.kind fun path members => do
    constantField "apiVersion" resource.apiVersion path members
    constantField "kind" resource.kind path members
    fields path members

/-- The name in an object's metadata. -/
def decodeName (path : List Json.Step) (members : List (String × Json)) :
    Except Misfit (Option String) := do
  let name ← field? (decodeRecord "ObjectMeta" (field? decodeText "name")) "metadata" path members
  return name.join

def Secret.decode : Decode Secret :=
  decodeObject .secrets fun path members => do
    let _ ← decodeName path members
    let data ← field? (decodeMap decodeBytes) "data" path members
    return ⟨Json.sortMembers (data.getD [])⟩

def Pod.decode : Decode Pod :=
  decodeObject .pods fun path members => do
    let name ← decodeName path members
    let phase ← field? (decodeRecord "PodStatus" (field? decodeText "phase")) "status" path members
    return ⟨name, phase.join⟩

/-- An object with replicas; `kind` is in the names of its parts. -/
def Replicas.decode (resource : Resource) : Decode Replicas :=
  decodeObject resource fun path members => do
    let _ ← decodeName path members
    let desired ← field? (decodeRecord (resource.kind ++ "Spec") (field? decodeInt32 "replicas"))
      "spec" path members
    let ready ← field? (decodeRecord (resource.kind ++ "Status") (field? decodeInt32 "readyReplicas"))
      "status" path members
    return ⟨desired.join, ready.join⟩

/-- A scheduled job; nothing but its existence matters. -/
def decodeScheduledJob : Decode Unit :=
  decodeObject .cronJobs fun path members => do
    let _ ← decodeName path members

def Owner.decode : Decode Owner :=
  decodeRecord "OwnerReference" fun path members => do
    let kind ← field? decodeText "kind" path members
    let name ← field? decodeText "name" path members
    return ⟨kind.getD "", name.getD ""⟩

def Condition.decode : Decode Condition :=
  decodeRecord "JobCondition" fun path members => do
    let type ← field? decodeText "type" path members
    let status ← field? decodeText "status" path members
    let reason ← field? decodeText "reason" path members
    let message ← field? decodeText "message" path members
    return ⟨type.getD "", status.getD "", reason, message⟩

def Job.decode : Decode Job :=
  decodeObject .jobs fun path members => do
    let name ← decodeName path members
    let owners ← field?
      (decodeRecord "ObjectMeta" (field? (decodeList Owner.decode) "ownerReferences"))
      "metadata" path members
    let conditions ← field?
      (decodeRecord "JobStatus" (field? (decodeList Condition.decode) "conditions"))
      "status" path members
    return ⟨name, owners.join.getD [], conditions.join.getD []⟩

/-- The objects of a list, which must have the member `items`. -/
def decodeListOf {α : Type} (item : Decode α) : Decode (List α) :=
  decodeRecord "struct ObjectList" fun path members =>
    match Json.lookup? members "items" with
    | none => .error ⟨path, .behind, "missing field \x60items\x60"⟩
    | some .null => .ok []
    | some value => decodeList item (.member "items" :: path) value

end IndexWatch.Cluster
