import IndexWatch.Text.Spelled
import IndexWatch.Workload.Kind

/-! What can go wrong in a verification.

Every error carries what is needed to tell from its message alone which step failed: the resource,
the expected value and the observed one. -/

namespace IndexWatch

open Text

inductive Error where
  | credentialUnavailable (secret reason : String)
  | credentialMalformed (secret field reason : String)
  | tunnelSetupFailed (ns service : String) (port : UInt16) (reason : String)
  | queryTransport (url reason : String)
  /-- A wait gave up; `lastObserved` is missing where no check was made. -/
  | deadlineExceeded (condition : String) (elapsed : Duration) (expected : String)
      (lastObserved : Option String)
  | workloadFetch (kind : Workload.Kind) (ns name reason : String)
  | workloadFailed (kind : Workload.Kind) (ns name reason : String)
  | invalidPollSpec (reason : String)
  | invalidConfig (reason : String)
deriving DecidableEq

namespace Error

def message : Error → String
  | credentialUnavailable secret reason => s!"Credential unavailable: secret {secret}: {reason}"
  | credentialMalformed secret field reason =>
    s!"Credential malformed: secret {secret}, field {field}: {reason}"
  | tunnelSetupFailed ns service port reason =>
    s!"Tunnel setup failed for service {ns}/{service} port {port}: {reason}"
  | queryTransport url reason => s!"Catalog query to {url} failed: {reason}"
  | deadlineExceeded condition elapsed expected lastObserved =>
    s!"Timed out after {elapsed.text} waiting for {condition}: expected {expected}, last observed " ++
      lastObserved.getD "nothing (no check completed)"
  | workloadFetch kind ns name reason =>
    s!"Failed to fetch {kind.name} {ns}/{name}: {reason}"
  | workloadFailed kind ns name reason => s!"{kind.name} {ns}/{name} failed: {reason}"
  | invalidPollSpec reason => s!"Invalid poll spec: {reason}"
  | invalidConfig reason => s!"Invalid configuration: {reason}"

/-- The name of the case. -/
def label : Error → String
  | credentialUnavailable .. => "CredentialUnavailable"
  | credentialMalformed .. => "CredentialMalformed"
  | tunnelSetupFailed .. => "TunnelSetupFailed"
  | queryTransport .. => "QueryTransportError"
  | deadlineExceeded .. => "DeadlineExceeded"
  | workloadFetch .. => "WorkloadFetchError"
  | workloadFailed .. => "WorkloadFailed"
  | invalidPollSpec .. => "InvalidPollSpec"
  | invalidConfig .. => "InvalidConfig"

/-- The error with all its fields, for diagnostics. -/
def spelling (e : Error) : String :=
  match e with
  | credentialUnavailable secret reason =>
    spellRecord e.label [("secret", spell secret), ("reason", spell reason)]
  | credentialMalformed secret field reason =>
    spellRecord e.label
      [("secret", spell secret), ("field", spell field), ("reason", spell reason)]
  | tunnelSetupFailed ns service port reason =>
    spellRecord e.label
      [("namespace", spell ns), ("service", spell service), ("port", toString port),
        ("reason", spell reason)]
  | queryTransport url reason =>
    spellRecord e.label [("url", spell url), ("reason", spell reason)]
  | deadlineExceeded condition elapsed expected lastObserved =>
    spellRecord e.label
      [("condition", spell condition), ("elapsed", spell elapsed), ("expected", spell expected),
        ("last_observed", spell lastObserved)]
  | workloadFetch kind ns name reason | workloadFailed kind ns name reason =>
    spellRecord e.label
      [("kind", kind.spelling), ("namespace", spell ns), ("name", spell name),
        ("reason", spell reason)]
  | invalidPollSpec reason | invalidConfig reason => spellCase e.label (spell reason)

instance : Spelled Error := ⟨spelling⟩

/-- Whether a wait ran out of time, the one failure that is expected. -/
def isDeadline : Error → Bool
  | deadlineExceeded .. => true
  | _ => false

/-- Whether the error arose before any check could be made. Nothing retries such an error. -/
def isSetup : Error → Bool
  | credentialUnavailable .. | credentialMalformed .. | tunnelSetupFailed .. => true
  | _ => false

/-- Whether the caller asked for something impossible. -/
def isConfig : Error → Bool
  | invalidPollSpec .. | invalidConfig .. => true
  | _ => false

end Error

end IndexWatch
