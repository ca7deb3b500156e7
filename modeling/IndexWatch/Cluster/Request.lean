/-! Requests for the objects of a namespace.

Names are put into the path as they are, so a name can make a path that is no request target; the
label in a query is encoded. -/

namespace IndexWatch.Cluster

/-- The kinds of object that are asked for. -/
inductive Resource where
  | secrets
  | pods
  | deployments
  | statefulSets
  | cronJobs
  | jobs
deriving DecidableEq

namespace Resource

/-- The name of the kind in a path. -/
def plural : Resource → String
  | secrets => "secrets"
  | pods => "pods"
  | deployments => "deployments"
  | statefulSets => "statefulsets"
  | cronJobs => "cronjobs"
  | jobs => "jobs"

/-- The name of one object of the kind. -/
def kind : Resource → String
  | secrets => "Secret"
  | pods => "Pod"
  | deployments => "Deployment"
  | statefulSets => "StatefulSet"
  | cronJobs => "CronJob"
  | jobs => "Job"

/-- The group and version that the kind belongs to. -/
def apiVersion : Resource → String
  | secrets | pods => "v1"
  | deployments | statefulSets => "apps/v1"
  | cronJobs | jobs => "batch/v1"

/-- The path above all namespaces. -/
def root : Resource → String
  | secrets | pods => "/api/v1"
  | deployments | statefulSets => "/apis/apps/v1"
  | cronJobs | jobs => "/apis/batch/v1"

/-- The path of the objects of a namespace. -/
def path (resource : Resource) (ns : String) : String :=
  s!"{resource.root}/namespaces/{ns}/{resource.plural}"

end Resource

def upperHexDigit (n : Nat) : Char :=
  if n < 10 then Char.ofNat ('0'.toNat + n) else Char.ofNat ('A'.toNat + n - 10)

/-- A byte of a form value: letters, digits and four marks stand for themselves. -/
def encodeByte (b : UInt8) : List Char :=
  let c := Char.ofNat b.toNat
  if b < 0x80 && (c.isAlphanum || c == '*' || c == '-' || c == '.' || c == '_') then [c]
  else if b == 0x20 then ['+']
  else ['%', upperHexDigit (b.toNat / 16), upperHexDigit (b.toNat % 16)]

/-- A text as the value of a form field. -/
def encodeForm (s : String) : String :=
  String.ofList (s.toUTF8.toList.flatMap encodeByte)

/-- Why a request cannot be made. -/
inductive RequestFault where
  | emptyName
  | invalidCharacter
deriving DecidableEq

def RequestFault.message : RequestFault → String
  | emptyName => "failed to validate request: A non-empty name is required"
  | invalidCharacter => "failed to build request: invalid uri character"

/-- Characters of a request target before its question mark. -/
def isPathChar (c : Char) : Bool :=
  c.toNat ≥ 0x7F || (c.toNat > 0x20 && c != '#' && c != '<' && c != '>' && c != '\x60' && c != '?')

/-- Characters of a request target behind its question mark. -/
def isQueryChar (c : Char) : Bool :=
  c.toNat ≥ 0x7F || (c.toNat > 0x20 && c != '"' && c != '#' && c != '<' && c != '>')

/-- A request target: what a hash sign cuts off is dropped. -/
def target (text : String) : Except RequestFault String :=
  let kept := text.toList.takeWhile (· != '#')
  let path := kept.takeWhile (· != '?')
  let query := (kept.dropWhile (· != '?')).drop 1
  if path.all isPathChar && query.all isQueryChar then .ok (String.ofList kept)
  else .error .invalidCharacter

/-- The request for one object. -/
def objectTarget (resource : Resource) (ns name : String) : Except RequestFault String :=
  if name.isEmpty then .error .emptyName else target (resource.path ns ++ "/" ++ name)

/-- The request for the objects of a namespace, all of them or those with a label. -/
def listTarget (resource : Resource) (ns : String) (labelSelector : Option String) :
    Except RequestFault String :=
  match labelSelector with
  | none => target (resource.path ns ++ "?")
  | some label => target (resource.path ns ++ "?&labelSelector=" ++ encodeForm label)

end IndexWatch.Cluster
