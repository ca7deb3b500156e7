import IndexWatch.Cluster.Object
import IndexWatch.Http.Status
import IndexWatch.Timed
import IndexWatch.Text.Spelled

/-! Reading objects through the cluster's API.

A read is one request. What is absent is no failure for a single object; everything else that is not
a readable answer is. -/

namespace IndexWatch.Cluster

open Text

/-- What the API server answers. -/
structure Response where
  status : Nat
  body : String
deriving DecidableEq

/-- Requests to the API server, by their target. The error tells why the server was not reached. -/
structure Api (σ : Type) where
  send : String → Timed σ (Except String Response)

/-- The report that comes with a refusal. -/
structure StatusReport where
  status : String
  message : String
  reason : String
  code : Nat
deriving DecidableEq

inductive Failure where
  | badRequest (fault : RequestFault)
  | unreachable (reason : String)
  | refused (report : StatusReport)
  | unreadable (problem : String)
deriving DecidableEq

namespace StatusReport

def spelling (report : StatusReport) : String :=
  spellRecord "ErrorResponse"
    [("status", spell report.status), ("message", spell report.message),
      ("reason", spell report.reason), ("code", toString report.code)]

private def textOr (default : Option String) (members : List (String × Json)) (name : String) :
    Option String :=
  match Json.lookup? members name with
  | none => default
  | some value => value.string?

private def givenOnce (members : List (String × Json)) (name : String) : Bool :=
  (members.filter (·.1 == name)).length ≤ 1

/-- A status and a code are needed, a message and a reason may be missing. -/
def ofJson? : Json → Option StatusReport
  | .object members => do
    if !(["status", "message", "reason", "code"].all (givenOnce members)) then none
    let status ← textOr none members "status"
    let message ← textOr (some "") members "message"
    let reason ← textOr (some "") members "reason"
    let code ← (← Json.lookup? members "code").integer?
    if 0 ≤ code ∧ code < 65536 then some ⟨status, message, reason, code.toNat⟩ else none
  | .array [.string status, .string message, .string reason, .integer code] =>
    if 0 ≤ code ∧ code < 65536 then some ⟨status, message, reason, code.toNat⟩ else none
  | _ => none

/-- The report in the body of a refusal, or one made from the body as it is. -/
def ofResponse (response : Response) : StatusReport :=
  match (Json.read response.body).toOption.bind ofJson? with
  | some report => report
  | none => ⟨Http.statusText response.status, quote response.body, "Failed to parse error data",
      response.status⟩

end StatusReport

namespace Failure

def message : Failure → String
  | badRequest fault => "Failed to build request: " ++ fault.message
  | unreachable reason => "ServiceError: " ++ reason
  | refused report => s!"ApiError: {report.message}: {report.reason} ({report.spelling})"
  | unreadable problem => "Error deserializing response: " ++ problem

/-- Whether the failure says that there is no such object. -/
def isNotFound : Failure → Bool
  | refused report => report.reason == "NotFound"
  | _ => false

end Failure

/-- The object that a response holds. -/
def Response.read {α : Type} (decode : Decode α) (response : Response) : Except Failure α :=
  if Http.isFailure response.status then .error (.refused (.ofResponse response))
  else match Json.read response.body with
    | .error problem => .error (.unreadable problem)
    | .ok value =>
      match decode [] value with
      | .ok object => .ok object
      | .error misfit => .error (.unreadable (misfit.message response.body))

namespace Api

variable {σ α : Type}

/-- A server that no connection reaches. -/
def outOfReach : Api σ := ⟨fun _ => pure (.error "client error (Connect)")⟩

/-- Sends the request for a target, if that can be made, and reads what comes back. -/
def read (api : Api σ) (target : Except RequestFault String) (decode : Decode α) :
    Timed σ (Except Failure α) :=
  match target with
  | .error fault => pure (.error (.badRequest fault))
  | .ok target => Timed.overNetwork do
    match ← api.send target with
    | .error reason => return .error (.unreachable reason)
    | .ok response => return response.read decode

/-- One object, or nothing where it is absent. -/
def object? (api : Api σ) (resource : Resource) (ns name : String) (decode : Decode α) :
    Timed σ (Except Failure (Option α)) := do
  match ← api.read (objectTarget resource ns name) decode with
  | .ok object => return .ok (some object)
  | .error failure => return if failure.isNotFound then .ok none else .error failure

/-- The objects of a namespace, all of them or those with a label. -/
def list (api : Api σ) (resource : Resource) (ns : String) (labelSelector : Option String)
    (decode : Decode α) : Timed σ (Except Failure (List α)) :=
  api.read (listTarget resource ns labelSelector) (decodeListOf decode)

end Api

end IndexWatch.Cluster
