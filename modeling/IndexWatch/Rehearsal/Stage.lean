import IndexWatch.Cluster.Api
import IndexWatch.Credentials.Store
import IndexWatch.Rehearsal.Script
import IndexWatch.Tunnel.Open
import IndexWatch.Workload.Source

/-! A cluster that answers from scripts.

Its parts write down what they are asked: the store the secrets, the forwarder the lookups and the
relayed connections, the workloads their targets, the API server the requests, and the catalog the
requests that reach it. -/

namespace IndexWatch.Rehearsal

open Timed

/-- How the catalog server answers a request. -/
inductive CatalogAnswer where
  | response (framing : Http.Framing) (answer : Http.Response)
  /-- A response whose length says one byte more than there are. -/
  | truncated (answer : Http.Response)
  | bytes (raw : Http.Bytes)
  | silence
deriving DecidableEq

/-- What arrives, if anything ever does. -/
def CatalogAnswer.arrives : CatalogAnswer → Answer Http.Bytes
  | response framing answer => .given (answer.render framing)
  | truncated answer =>
    .given (Http.renderHead answer.status
      (Http.ascii s!"content-length: {answer.body.length + 1}") ++ answer.body)
  | bytes raw => .given raw
  | silence => .never

/-- Where relayed connections lead. -/
inductive RelayEnd where
  | catalog
  | echo
  | failure
deriving DecidableEq

/-- The scripts of all parts, and what they were asked so far. -/
structure Stage where
  log : Log
  secret : Except Error (Option Credentials.SecretData)
  lookups : Script (Except Error (Option String))
  replicas : Script (Except String (Option Workload.ReplicaStatus))
  scheduledJobs : Script (Except String Bool)
  jobs : Script (Except String (List Workload.JobOutcome))
  /-- The API server's scripts by the plural of the resource; nothing where it cannot be reached. -/
  resources : Option (List (String × Script Cluster.Response))
  catalog : Script CatalogAnswer
  catalogTls : Option Tls.Server
  relayEnd : RelayEnd

namespace Stage

/-- A cluster with nothing in it. -/
def empty : Stage where
  log := []
  secret := .ok none
  lookups := []
  replicas := []
  scheduledJobs := []
  jobs := []
  resources := some []
  catalog := []
  catalogTls := none
  relayEnd := .catalog

/-- Writes down a question. -/
def note (entry : String) : Timed Stage Unit :=
  act fun stage => ((), { stage with log := entry :: stage.log })

/-! ### Secrets and workloads -/

def secretStore : Credentials.SecretStore Stage where
  get ns name := .ofTimed do
    note s!"secret {ns}/{name}"
    return (← look).secret

/-- A prepared answer about a target, or the standard one where there is none. -/
def told {α : Type} (target : Workload.Target) (default : α)
    (prepared : Timed Stage (Option (Except String α))) : Attempt Stage α :=
  .ofTimed do
    note target.name
    match ← prepared with
    | none => return .ok default
    | some (.ok answer) => return .ok answer
    | some (.error reason) => return .error (target.fetchError reason)

def workloads : Workload.Source Stage where
  replicaStatus target :=
    told target none (play replicas fun rest stage => { stage with replicas := rest })
  scheduledJobExists target :=
    told target false (play scheduledJobs fun rest stage => { stage with scheduledJobs := rest })
  ownedJobOutcomes target :=
    told target [] (play jobs fun rest stage => { stage with jobs := rest })

/-! ### The catalog server -/

/-- Takes the catalog's next answer to a request. -/
def respond (request : Http.Bytes) : Timed Stage (Answer Http.Bytes) := do
  let lines := (Text.Utf8.decodeLossy request).splitOn "\r\n"
  note (" | ".intercalate (lines.filter (!·.isEmpty)))
  match ← play catalog fun rest stage => { stage with catalog := rest } with
  | none => return .given []
  | some answer => return answer.arrives

/-- What a server that speaks TLS sends back when it is spoken to in the clear: a fatal alert. -/
def alert : Http.Bytes := [0x15, 0x03, 0x03, 0x00, 0x02, 0x02, 0x32]

/-- The catalog server as the far end of a connection. -/
def catalogPeer (stage : Stage) : Peer Stage where
  tls := stage.catalogTls
  respond transport request :=
    match stage.catalogTls, transport with
    | some _, .plain => pure (.given alert)
    | _, _ => respond request

/-- An end that sends back what it is sent. -/
def echoPeer : Peer Stage where
  tls := none
  respond _ request := pure (.given request)

/-- An end that closes the connection at once. -/
def closedPeer : Peer Stage where
  tls := none
  respond _ _ := pure (.given [])

/-! ### Pods -/

def lookup (target : Tunnel.Target) : Timed Stage (Answer (Except Error (Option String))) := do
  note s!"lookup {target.ns} {target.labelSelector}"
  match ← play lookups fun rest stage => { stage with lookups := rest } with
  | none => return .given (.ok none)
  | some answer => return .given answer

def relay (ns pod : String) (port : UInt16) : Timed Stage (Answer (Peer Stage)) := do
  note s!"forward {ns}/{pod}:{port}"
  let stage ← look
  return .given <| match stage.relayEnd with
    | .catalog => stage.catalogPeer
    | .echo => echoPeer
    | .failure => closedPeer

def forwarder : Tunnel.Forwarder Stage where
  lookup := lookup
  relay := relay

/-! ### The API server -/

/-- The resource that a request is for: what follows the namespace. -/
def resourceOf (target : String) : String :=
  let path := (target.splitOn "?").headD ""
  ((path.splitOn "/").dropWhile (· != "namespaces")).getD 2 ""

/-- The answer about a resource that has no script. -/
def absent (plural : String) : Cluster.Response where
  status := 404
  body := Json.render <| .object
    [("kind", .string "Status"), ("apiVersion", .string "v1"), ("metadata", .object []),
      ("status", .string "Failure"), ("message", .string (plural ++ " not found")),
      ("reason", .string "NotFound"), ("code", .integer 404)]

def setScript (plural : String) (script : Script Cluster.Response) (stage : Stage) : Stage :=
  { stage with resources := stage.resources.map fun scripts =>
      scripts.map fun (name, old) => if name == plural then (name, script) else (name, old) }

def scriptOf (plural : String) (stage : Stage) : Script Cluster.Response :=
  ((stage.resources.getD []).lookup plural).getD []

def apiServer : Cluster.Api Stage where
  send target := do
    let stage ← look
    if stage.resources.isNone then Cluster.Api.outOfReach.send target
    else
    note ("GET " ++ target)
    let plural := resourceOf target
    match ← play (scriptOf plural) (setScript plural) with
    | some response => return .ok response
    | none => return .ok (absent plural)

end Stage

end IndexWatch.Rehearsal
