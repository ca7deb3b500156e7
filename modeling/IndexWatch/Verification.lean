import IndexWatch.Catalog.Query
import IndexWatch.Credentials.Store
import IndexWatch.Poll.Run
import IndexWatch.Storage
import IndexWatch.Tunnel.Open

/-! The verification of an index: a tunnel to the storage service and a wait on its catalog. -/

namespace IndexWatch.Verification

open Text Timed

/-- What a verification needs of a cluster. -/
structure Cluster (σ : Type) where
  secrets : Credentials.SecretStore σ
  forwarder : Tunnel.Forwarder σ

variable {σ : Type}

/-- The credentials for the storage service, where it wants some. -/
def credentials (stack : Network.Stack) (secrets : Credentials.SecretStore σ) (storage : Storage) :
    Attempt (Site σ) (Option Tls.Client) :=
  if storage.secure then do
    let load := Credentials.loadBundle secrets storage.ns storage.secretName
    let bundle ← Attempt.ofTimed (Site.lift load)
    .ofExcept ((stack.client bundle).map some)
  else return none

/-- What is waited for, in the words of messages. -/
def condition (storage : Storage) (indexPrefix : String) (present : Bool) : String :=
  s!"index with prefix {quote indexPrefix} in {storage.ns}/{storage.serviceName} to be " ++
    (if present then "present" else "absent")

/-- Waits until the catalog of the storage service lists an index with the prefix, or lists none,
whichever the pace expects. The tunnel is closed however the wait ends. -/
def awaitIndex (cluster : Cluster σ) (setupTimeout : Duration) (storage : Storage)
    (indexPrefix : String) (spec : Poll.Spec Bool) (stack : Network.Stack := .standard) :
    Attempt (Site σ) Unit := do
  let tls ← credentials stack cluster.secrets storage
  let handle ← Tunnel.establish cluster.forwarder storage.tunnelTarget setupTimeout
  let query : Catalog.Query :=
    ⟨handle.localPort, indexPrefix, tls, Catalog.standardRequestTimeout⟩
  let check := query.hasEntry (Tunnel.dial cluster.forwarder) stack
  let wait := Poll.await (condition storage indexPrefix spec.expected) spec check
  .ofTimed do
    let result ← wait.run
    Tunnel.close handle
    return result

end IndexWatch.Verification
