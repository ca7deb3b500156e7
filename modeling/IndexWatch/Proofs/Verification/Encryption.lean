import IndexWatch.Proofs.Catalog.Encryption
import IndexWatch.Proofs.Verification.Effects

/-! # Verifications over encrypted connections

Where the storage service is `secure`, every check of a verification is made with a client of the
service's secret, `ClientOf`. What its checks send is what a cluster writes down that is
`overheard`; it is the same verification otherwise. The stack may be any that verifies certificates
by some trust: `awaitIndex_secured` says that all requests are encrypted, that a verification
succeeds only where the client agrees with the far end of every check, and that the first check ends
it where the client does not. -/

namespace IndexWatch.Verification

open Credentials Tunnel

variable {σ : Type}

/-- The same cluster, where the requests to the far ends of its connections are written down. -/
def Cluster.overheard (cluster : Cluster σ) : Cluster (Recorded Sent σ) where
  secrets := { get := fun ns name => .ofTimed (Recorded.lift (cluster.secrets.get ns name).run) }
  forwarder :=
    { lookup := fun target => Recorded.lift (cluster.forwarder.lookup target)
      relay := fun ns pod port => Line.overheard (cluster.forwarder.relay ns pod port) }

/-- The client has its roots, its certificates and its key from the entries of a secret. -/
structure ClientOf (data : SecretData) (client : Tls.Client) : Prop where
  roots : ∃ text, data.lookup "admin-ca" = some text ∧ Bundle.readRoots text = .ok client.roots
  chain : ∃ text, data.lookup "admin-cert" = some text ∧
    Bundle.certificates text = .ok client.chain
  key : ∃ text publicKey, data.lookup "admin-key" = some text ∧
    Bundle.readKey text = .ok (client.key, publicKey)

/-- The far end of a line that is taken at an instant agrees with the client. -/
def AgreesAt (trust : Network.Trust) (client : Tls.Client) (line : Line σ) (now : Nat)
    (outside : σ) : Prop :=
  ∃ peer, (line.run now outside).value = .given peer ∧ client.Agrees trust peer

/-- The far end of a line that is taken at an instant is trusted by the client and does not let it
in, but tells so only once it has been sent a request. -/
def UnheardAt (trust : Network.Trust) (client : Tls.Client) (line : Line σ) (now : Nat)
    (outside : σ) : Prop :=
  ∃ peer, (line.run now outside).value = .given peer ∧ client.IsUnheard trust peer

section
variable (stack : Network.Stack) (trust : Network.Trust) (cluster : Cluster σ)
  (setupTimeout : Duration) (storage : Storage) (indexPrefix : String) (spec : Poll.Spec Bool)
  (now : Nat) (site : Site σ)

/-- The checks with a client, once all is prepared. -/
def secureWait (client : Tls.Client) (handle : Handle) : Poll.Wait (Site σ) Bool :=
  let prepared := Timed.run (prepare stack cluster setupTimeout storage) now site
  waitOn stack cluster (question indexPrefix (some client) handle) spec (now + prepared.took)
    prepared.world

/-- What comes of a verification of a secure service, and what it sends. -/
structure Secured (sent : List (Nat × Sent)) (result : Except Error Unit) : Prop where
  encrypted : ∀ message ∈ sent, message.2.transport = .encrypted
  /-- Without a tunnel nothing is sent. -/
  unprepared : ∀ e,
    (Timed.run (prepare stack cluster setupTimeout storage) now site).value = .error e →
      sent = [] ∧ result = .error e
  /-- Every check is made with a client of the secret. -/
  prepared : ∀ tls handle,
    (Timed.run (prepare stack cluster setupTimeout storage) now site).value = .ok (tls, handle) →
      ∃ data client,
        (Timed.run (cluster.secrets.get storage.ns storage.secretName) now site.outside).value =
          .ok (some data) ∧
        ClientOf data client ∧ tls = some client
  /-- A verification that succeeds met with agreement in all its checks. -/
  agreed : result = .ok () → ∃ client handle n,
    (Timed.run (prepare stack cluster setupTimeout storage) now site).value =
      .ok (some client, handle) ∧
    let wait := secureWait stack cluster setupTimeout storage indexPrefix spec now site client handle
    let line := cluster.forwarder.relay storage.ns handle.pod storage.port
    (Poll.run wait.spec wait.check wait.start wait.world).checks = wait.checks (n + 1) ∧
      ∀ i ≤ n, AgreesAt trust client line (wait.begun i) (wait.worldAt i).outside
  /-- Without agreement in the first check it is the last one and receives nothing. It sends nothing
  either, unless the far end tells only afterwards that it does not let the client in. -/
  refused : ∀ client handle,
    (Timed.run (prepare stack cluster setupTimeout storage) now site).value =
      .ok (some client, handle) →
    let wait := secureWait stack cluster setupTimeout storage indexPrefix spec now site client handle
    let line := cluster.forwarder.relay storage.ns handle.pod storage.port
    let query := question indexPrefix (some client) handle
    wait.Admits 0 →
    ¬ AgreesAt trust client line (wait.begun 0) (wait.worldAt 0).outside →
      (Poll.run wait.spec wait.check wait.start wait.world).checks = wait.checks 1 ∧
        (∃ reason, result = .error (.queryTransport query.url reason)) ∧
        (∀ response, ¬ query.Receives stack (dial cluster.forwarder) (wait.begun 0) (wait.worldAt 0)
          response) ∧
        (sent = [] ∨ UnheardAt trust client line (wait.begun 0) (wait.worldAt 0).outside)

end

variable {stack : Network.Stack} {trust : Network.Trust} {cluster : Cluster σ}
  {setupTimeout : Duration} {storage : Storage}

/-! ## The preparations -/

theorem lookup_of_find? {data : SecretData} {name : String} {text : Der.Bytes}
    (h : data.find? name = some text) : data.lookup name = some text := by
  unfold SecretData.find? at h
  split at h <;> simp_all

theorem clientOf_of_held {secret : String} {data : SecretData} {bundle : Bundle}
    (H : Held secret data bundle) : ClientOf data (.ofBundle bundle) := by
  obtain ⟨ca, cert, key, hca, hcert, hkey, hmade⟩ := H
  obtain ⟨publicKey, hread, _⟩ := hmade.key
  exact ⟨⟨ca, lookup_of_find? hca, hmade.roots⟩, ⟨cert, lookup_of_find? hcert, hmade.chain⟩,
    ⟨key, publicKey, lookup_of_find? hkey, hread⟩⟩

/-- The preparations send nothing. -/
theorem follows_prepare_overheard :
    Recorded.Follows Site.recorded (prepare stack cluster.overheard setupTimeout storage).run
      (prepare stack cluster setupTimeout storage).run fun _ _ => [] := by
  have hget : Recorded.Follows Recorded.mk
      (cluster.overheard.secrets.get storage.ns storage.secretName).run
      (cluster.secrets.get storage.ns storage.secretName).run fun _ _ => [] :=
    Recorded.follows_lift _
  have hcredentials : Recorded.Follows Site.recorded
      (credentials stack cluster.overheard.secrets storage).run
      (credentials stack cluster.secrets storage).run fun _ _ => [] := by
    simpa only [ite_self] using follows_credentials_of hget
  have hlookup : Recorded.Follows Recorded.mk
      (cluster.overheard.forwarder.lookup storage.tunnelTarget)
      (cluster.forwarder.lookup storage.tunnelTarget) fun _ _ => [] :=
    Recorded.follows_lift _
  have hnone (now : Nat) (_ : σ) : ∀ q ∈ ([] : List (Nat × Sent)), False := by simp
  obtain ⟨lookups, hlookups, hestablish⟩ := exists_follows_establish hlookup hnone setupTimeout
  have hquiet : lookups = fun _ _ => [] := by
    funext now site
    exact List.eq_nil_iff_forall_not_mem.mpr (hlookups now site)
  rw [hquiet] at hestablish
  exact hcredentials.attempt_quiet fun tls =>
    hestablish.attempt_quiet fun handle => Recorded.follows_pure _

theorem prepare_overheard {now : Nat} {site : Site σ} (record : List (Nat × Sent)) :
    Timed.run (prepare stack cluster.overheard setupTimeout storage) now (site.recorded record) =
      (Timed.run (prepare stack cluster setupTimeout storage) now site).mapWorld
        (Site.recorded record) := by
  have hfollows : Timed.run (prepare stack cluster.overheard setupTimeout storage) now _ = _ :=
    follows_prepare_overheard now record site
  rwa [List.append_nil] at hfollows

section
variable {now : Nat} {site : Site σ} {tls : Option Tls.Client} {handle : Handle}
  (hprepared :
    (Timed.run (prepare stack cluster setupTimeout storage) now site).value = .ok (tls, handle))
include hprepared

/-- What is prepared is the client that the service wants, and a tunnel to the service that nothing
is connected to yet. -/
theorem of_prepared :
    (Timed.run (credentials stack cluster.secrets storage) now site).value = .ok tls ∧
      handle.target = storage.tunnelTarget ∧ site.system.Fits handle ∧
        (Timed.run (prepare stack cluster setupTimeout storage) now site).world.system =
          site.system.serving handle 0 := by
  let loaded := Timed.run (credentials stack cluster.secrets storage) now site
  have hvalue := hprepared
  unfold prepare at hvalue
  obtain ⟨tls', hloaded, hvalue⟩ := Attempt.value_bind_eq_ok_iff.mp hvalue
  obtain ⟨handle', hopened, hvalue⟩ := Attempt.value_bind_eq_ok_iff.mp hvalue
  cases hvalue
  have hworld : (Timed.run (prepare stack cluster setupTimeout storage) now site).world =
      (Timed.run (establish cluster.forwarder storage.tunnelTarget setupTimeout)
        (now + loaded.took) loaded.world).world := by
    unfold prepare
    rw [Attempt.run_bind_ok hloaded]
    dsimp only
    rw [Attempt.run_bind_ok hopened]
    rfl
  obtain ⟨outside, hsame⟩ : ∃ outside, loaded.world = { site with outside } :=
    actsOutside_credentials now site
  have hsystem : loaded.world.system = site.system := by rw [hsame]
  cases setUp_establish (now + loaded.took) loaded.world with
  | opened handle'' later hhandle htarget hpod H hserving =>
    cases hopened.symm.trans hhandle
    rw [hsystem] at H hserving
    exact ⟨hloaded, htarget, H, by rw [hworld, hserving]⟩
  | failed e system later herror =>
    cases hopened.symm.trans herror

end

theorem clientOf_of_credentials (hsecure : storage.secure = true) {now : Nat} {site : Site σ}
    {tls : Option Tls.Client}
    (h : (Timed.run (credentials stack cluster.secrets storage) now site).value = .ok tls) :
    ∃ data client,
      (Timed.run (cluster.secrets.get storage.ns storage.secretName) now site.outside).value =
        .ok (some data) ∧
      ClientOf data client ∧ tls = some client := by
  rw [value_credentials_of_secure hsecure, bind_eq_ok_iff] at h
  obtain ⟨bundle, hbundle, hclient⟩ := h
  obtain ⟨data, hdata, H⟩ := value_loadBundle_eq_ok_iff.mp hbundle
  cases hset : stack.client bundle with
  | error e =>
    rw [hset] at hclient
    contradiction
  | ok client =>
    rw [hset] at hclient
    cases hclient
    obtain ⟨_, rfl⟩ := Network.Stack.client_eq_ok_iff.mp hset
    exact ⟨data, _, hdata, clientOf_of_held H, rfl⟩

/-! ## The checks -/

section
variable {base : System} {handle : Handle} {query : Catalog.Query} {client : Tls.Client}
  {wait : Poll.Wait (Site σ) Bool}
  (hverifies : stack.Verifies trust)
  (hcheck : wait.check = query.hasEntry (dial cluster.forwarder) stack)
  (hport : query.localPort = handle.localPort) (htls : query.tls = some client)
  (H : base.Fits handle) (hsystem : wait.world.system = base.serving handle 0)
include hverifies hcheck hport htls H hsystem

/-- A check receives a response only from a far end that agrees with the client. -/
theorem agreesAt_of_receives {n : Nat} {response : Http.Response}
    (hreceives : query.Receives stack (dial cluster.forwarder) (wait.begun n) (wait.worldAt n)
      response) :
    AgreesAt trust client
      (cluster.forwarder.relay handle.target.ns handle.pod handle.target.remotePort) (wait.begun n)
      (wait.worldAt n).outside := by
  obtain ⟨hsame, hserving⟩ := worldAt_checked hcheck hport H hsystem n
  obtain ⟨_, _, ⟨hopened, hline, hreached, hpeer, hpassage, _⟩, _⟩ := hreceives
  rw [hport] at hopened
  -- No connection comes about on a faulty loopback; otherwise it leads to the far end of the tunnel.
  cases hfault : wait.world.loopbackFault with
  | some fault =>
    have hnone := relaying?_checked hcheck hport H hsystem n
    rw [hfault] at hnone
    rw [← hopened, run_dial_of_none hnone] at hline
    contradiction
  | none =>
    rw [run_dial H (hsame.trans hfault) hserving] at hopened
    subst hopened
    cases hline
    subst hreached
    rw [Nat.add_zero] at hpeer
    obtain ⟨peer, hreached, rfl⟩ := Catalog.Query.of_value_lift hpeer
    rcases (Catalog.Query.of_passage hverifies htls hpassage).2 with ⟨_, hagrees⟩ | ⟨hrefused, _⟩
    · exact ⟨peer, hreached, hagrees⟩
    · exact absurd rfl hrefused

theorem agreesAt_of_answer {n : Nat} {found : Bool} (hanswer : wait.answer n = .ok found) :
    AgreesAt trust client
      (cluster.forwarder.relay handle.target.ns handle.pod handle.target.remotePort) (wait.begun n)
      (wait.worldAt n).outside := by
  obtain ⟨response, hreceives, _⟩ := (answer_eq_ok_iff hcheck).mp hanswer
  exact agreesAt_of_receives hverifies hcheck hport htls H hsystem hreceives

theorem exists_agreesAt (condition : String)
    (hok : (Timed.run (Poll.await condition wait.spec wait.check) wait.start wait.world).value =
      .ok ()) :
    ∃ n, (Poll.run wait.spec wait.check wait.start wait.world).checks = wait.checks (n + 1) ∧
      ∀ i ≤ n, AgreesAt trust client
        (cluster.forwarder.relay handle.target.ns handle.pod handle.target.remotePort)
        (wait.begun i) (wait.worldAt i).outside := by
  obtain ⟨n, value, hreach, hadmits, hanswer, hmet⟩ := wait.value_await_eq_ok_iff.mp hok
  refine ⟨n, by rw [Poll.Wait.run_of_met hreach hadmits hanswer hmet], fun i hi => ?_⟩
  rcases Nat.lt_or_eq_of_le hi with hlt | rfl
  · obtain ⟨_, missed, hmissed, _⟩ := hreach i hlt
    exact agreesAt_of_answer hverifies hcheck hport htls H hsystem hmissed
  · exact agreesAt_of_answer hverifies hcheck hport htls H hsystem hanswer

/-- What the checks send is encrypted, and it is nothing where there is neither agreement nor a far
end that tells too late that there is none. -/
theorem exists_followedBy_overheard (hpatient : 0 < query.requestTimeout.nanos) :
    let line := cluster.forwarder.relay handle.target.ns handle.pod handle.target.remotePort
    ∃ asked : Nat → List (Nat × Sent),
      wait.FollowedBy Site.recorded (query.hasEntry (dial cluster.overheard.forwarder) stack) asked ∧
      (∀ n, ∀ message ∈ asked (wait.begun n), message.2.transport = .encrypted) ∧
      ∀ n, ¬ AgreesAt trust client line (wait.begun n) (wait.worldAt n).outside →
        asked (wait.begun n) = [] ∨
          UnheardAt trust client line (wait.begun n) (wait.worldAt n).outside := by
  intro line
  have hfollows : Recorded.Follows Site.recorded
      (query.hasEntry (dial cluster.overheard.forwarder) stack).run wait.check.run
      (Catalog.Query.relayEntries (fun ns pod port now outside =>
        query.sendsOver stack now (cluster.forwarder.relay ns pod port) outside)
        query.localPort) := by
    rw [hcheck]
    exact Catalog.Query.follows_hasEntry
      (fun _ _ _ => Catalog.Query.follows_askOver_overheard _) hpatient
  obtain ⟨asked, hfollowed, hasked⟩ := Poll.Wait.exists_followedBy hfollows
  refine ⟨asked, hfollowed, fun n message hmessage => ?_, fun n hdisagrees => ?_⟩
  · rw [hasked, Catalog.Query.relayEntries] at hmessage
    split at hmessage
    · contradiction
    · exact (Catalog.Query.of_mem_sendsOver hverifies htls hmessage).1
  · rw [hasked, Catalog.Query.relayEntries, hport, relaying?_checked hcheck hport H hsystem]
    cases wait.world.loopbackFault with
    | some fault => exact .inl rfl
    | none =>
      refine Classical.or_iff_not_imp_left.mpr fun hsent => ?_
      obtain ⟨message, hmessage⟩ := List.exists_mem_of_ne_nil _ hsent
      obtain ⟨_, peer, hreached, hagrees | hunheard⟩ :=
        Catalog.Query.of_mem_sendsOver hverifies htls hmessage
      · exact absurd ⟨peer, hreached, hagrees⟩ hdisagrees
      · exact ⟨peer, hreached, hunheard⟩

end

/-! ## The whole verification -/

theorem encrypted_of_mem_asks {wait : Poll.Wait (Site σ) Bool} {asked : Nat → List (Nat × Sent)}
    (hencrypted : ∀ n, ∀ message ∈ asked (wait.begun n), message.2.transport = .encrypted)
    {message : Nat × Sent}
    (h : message ∈ Poll.asks asked (Poll.run wait.spec wait.check wait.start wait.world).checks) :
    message.2.transport = .encrypted := by
  obtain ⟨made, hmade, hmessage⟩ := List.mem_flatMap.mp h
  obtain ⟨n, _, _, rfl⟩ := wait.mem_run_checks.mp hmade
  exact hencrypted n message hmessage

/-- A first check that receives nothing is the last one, and fails. -/
theorem ends_of_unreceived {query : Catalog.Query} {wait : Poll.Wait (Site σ) Bool}
    (hcheck : wait.check = query.hasEntry (dial cluster.forwarder) stack) (condition : String)
    (h : wait.Admits 0)
    (hnone : ∀ response, ¬ query.Receives stack (dial cluster.forwarder) (wait.begun 0)
      (wait.worldAt 0) response) :
    (Poll.run wait.spec wait.check wait.start wait.world).checks = wait.checks 1 ∧
      ∃ reason, (Timed.run (Poll.await condition wait.spec wait.check) wait.start
        wait.world).value = .error (.queryTransport query.url reason) := by
  cases hanswer : wait.answer 0 with
  | ok found =>
    obtain ⟨response, hreceives, _⟩ := (answer_eq_ok_iff hcheck).mp hanswer
    exact absurd hreceives (hnone response)
  | error e =>
    obtain ⟨reason, rfl⟩ := eq_transport_of_answer hcheck hanswer
    refine ⟨by rw [Poll.Wait.run_of_failed Poll.Wait.reaches_zero h hanswer], reason, ?_⟩
    rw [Poll.Wait.run_await_of_failed condition Poll.Wait.reaches_zero h hanswer]

section
variable {indexPrefix : String} {spec : Poll.Spec Bool} {now : Nat} {site : Site σ}

theorem secured_of_unprepared {e : Error}
    (h : (Timed.run (prepare stack cluster setupTimeout storage) now site).value = .error e) :
    Secured stack trust cluster setupTimeout storage indexPrefix spec now site [] (.error e) where
  encrypted := by simp
  unprepared e' h' := by
    cases h.symm.trans h'
    exact ⟨rfl, rfl⟩
  prepared _ _ h' := nomatch h.symm.trans h'
  agreed h' := nomatch h'
  refused _ _ h' := nomatch h.symm.trans h'

theorem secured_of_prepared (hverifies : stack.Verifies trust) (hsecure : storage.secure = true)
    {tls : Option Tls.Client} {handle : Handle}
    (h : (Timed.run (prepare stack cluster setupTimeout storage) now site).value =
      .ok (tls, handle)) :
    let result :=
      Timed.run (awaitIndex cluster setupTimeout storage indexPrefix spec stack) now site
    ∃ sent,
      (∀ record,
        Timed.run (awaitIndex cluster.overheard setupTimeout storage indexPrefix spec stack) now
            (site.recorded record) =
          result.mapWorld (Site.recorded (record ++ sent))) ∧
      Secured stack trust cluster setupTimeout storage indexPrefix spec now site sent
        result.value := by
  intro result
  obtain ⟨hloaded, htarget, H, hsystem⟩ := of_prepared h
  obtain ⟨data, client, hdata, hclient, rfl⟩ := clientOf_of_credentials hsecure hloaded
  let wait := secureWait stack cluster setupTimeout storage indexPrefix spec now site client handle
  let checks := (Poll.run wait.spec wait.check wait.start wait.world).checks
  have hcheck : wait.check =
    (question indexPrefix (some client) handle).hasEntry (dial cluster.forwarder) stack := rfl
  have hline : cluster.forwarder.relay handle.target.ns handle.pod handle.target.remotePort =
      cluster.forwarder.relay storage.ns handle.pod storage.port := by rw [htarget]; rfl
  have hpatient : 0 < Catalog.standardRequestTimeout.nanos := by decide
  obtain ⟨asked, hfollowed, hencrypted, hnone⟩ :=
    exists_followedBy_overheard hverifies hcheck rfl rfl H hsystem hpatient
  obtain ⟨hvalue, _⟩ := run_awaitIndex_of_prepared h indexPrefix spec
  refine ⟨Poll.asks asked checks, fun record => ?_, ?_⟩
  · change _ = (Timed.run (awaitIndex cluster setupTimeout storage indexPrefix spec stack) now
      site).mapWorld _
    rw [awaitIndex_eq, awaitIndex_eq]
    exact Recorded.run_bind_of_ok (prepare_overheard record) h
      (verify_of_followedBy hfollowed record)
  · rw [show result.value = _ from hvalue]
    constructor
    case encrypted => exact fun message hmessage => encrypted_of_mem_asks hencrypted hmessage
    case unprepared => exact fun _ h' => nomatch h.symm.trans h'
    case prepared =>
      intro tls' handle' h'
      cases h.symm.trans h'
      exact ⟨data, client, hdata, hclient, rfl⟩
    case agreed =>
      intro hok
      obtain ⟨n, hchecks, hagrees⟩ := exists_agreesAt hverifies hcheck rfl rfl H hsystem _ hok
      rw [hline] at hagrees
      exact ⟨client, handle, n, h, hchecks, hagrees⟩
    case refused =>
      intro client' handle' h' wait' line query hadmits hdisagrees
      cases h.symm.trans h'
      rw [show line = _ from hline.symm] at hdisagrees ⊢
      have hunreceived (response : Http.Response) : ¬ query.Receives stack (dial cluster.forwarder)
          (wait.begun 0) (wait.worldAt 0) response := fun hreceives =>
        hdisagrees (agreesAt_of_receives hverifies hcheck rfl rfl H hsystem hreceives)
      obtain ⟨hchecks, hfailed⟩ := ends_of_unreceived hcheck _ hadmits hunreceived
      refine ⟨hchecks, hfailed, hunreceived, (hnone 0 hdisagrees).imp_left fun hquiet => ?_⟩
      rw [show checks = wait.checks 1 from hchecks, Poll.Wait.asks_checks_succ, hquiet]
      rfl

end

/-- A verification of a secure service sends nothing in plain text, and learns only from servers that it
trusts and that let it in. A plain server, another host's certificate, an issuer that is not trusted and
a server that turns the client away all end it in the first check, whether the index is expected or
not. -/
theorem awaitIndex_secured (hverifies : stack.Verifies trust) (cluster : Cluster σ)
    (setupTimeout : Duration) {storage : Storage} (hsecure : storage.secure = true)
    (indexPrefix : String) (spec : Poll.Spec Bool) (now : Nat) (site : Site σ) :
    let result :=
      Timed.run (awaitIndex cluster setupTimeout storage indexPrefix spec stack) now site
    ∃ sent,
      (∀ record,
        Timed.run (awaitIndex cluster.overheard setupTimeout storage indexPrefix spec stack) now
            (site.recorded record) =
          result.mapWorld (Site.recorded (record ++ sent))) ∧
      Secured stack trust cluster setupTimeout storage indexPrefix spec now site sent
        result.value := by
  intro result
  cases hprepared : (Timed.run (prepare stack cluster setupTimeout storage) now site).value with
  | ok prepared => exact secured_of_prepared hverifies hsecure hprepared
  | error e =>
    have hresult : result = _ := congrArg (Timed.run · now site) (awaitIndex_eq indexPrefix spec)
    refine ⟨[], fun record => ?_, ?_⟩
    · rw [hresult, awaitIndex_eq]
      rw [List.append_nil]
      exact Recorded.run_bind_of_error (prepare_overheard record) hprepared
    · rw [hresult, Attempt.run_bind_error hprepared]
      exact secured_of_unprepared hprepared

/-! ## A service with an authority of its own -/

/-- A section of text with a label. -/
def sectionText (label : String) (lines : List String) : Der.Bytes :=
  Http.ascii ("-----BEGIN " ++ label ++ "-----\n") ++
    lines.flatMap (Http.ascii <| · ++ "\n") ++ Http.ascii ("-----END " ++ label ++ "-----\n")

/-- The certificate of the storage service's own authority. -/
def authorityText : Der.Bytes :=
  sectionText "CERTIFICATE" [
    "MIHrMIGeoAMCAQICAREwBQYDK2VwMBUx",
    "EzARBgNVBAMMCnN0b3JhZ2UgQ0EwHhcN",
    "NzUwMTAxMDAwMDAwWhcNNDkxMjMxMjM1",
    "OTU5WjAVMRMwEQYDVQQDDApzdG9yYWdl",
    "IENBMCowBQYDK2VwAyEAx69K6XwRfg+m",
    "nK10zze6rPS6nxmoPOg2ZLhJrtIMsWij",
    "EzARMA8GA1UdEwEB/wQFMAMBAf8wBQYD",
    "K2VwA0EASeGDHZj+JU9kGVSjfm5MQ83S",
    "ecFpq1SRtHUWQFCykEOGJZdokbS/FxcP",
    "1qjBrQgflO5hqyIMP7PIvKYWqJzgAg=="]

/-- A certificate for the host, issued by the authority. -/
def serverText : Der.Bytes :=
  sectionText "CERTIFICATE" [
    "MIHvMIGioAMCAQICARIwBQYDK2VwMBUx",
    "EzARBgNVBAMMCnN0b3JhZ2UgQ0EwHhcN",
    "NzUwMTAxMDAwMDAwWhcNNDkxMjMxMjM1",
    "OTU5WjAUMRIwEAYDVQQDDAlsb2NhbGhv",
    "c3QwKjAFBgMrZXADIQDN4TXL/q6ysrVn",
    "HhzCrsPX2occSbUc4Xexgas9PoMyh6MY",
    "MBYwFAYDVR0RBA0wC4IJbG9jYWxob3N0",
    "MAUGAytlcANBAMRScB58hVKH/qIQYFmC",
    "xTB0ICBOqvE13wLTqXmacoqStmuhj8zi",
    "ybpRx6SV90VMAEEM2hg07p69HYm/weg/",
    "9w8="]

/-- A certificate for a client, issued by the authority. -/
def clientText : Der.Bytes :=
  sectionText "CERTIFICATE" [
    "MIHqMIGdoAMCAQICARMwBQYDK2VwMBUx",
    "EzARBgNVBAMMCnN0b3JhZ2UgQ0EwHhcN",
    "NzUwMTAxMDAwMDAwWhcNNDkxMjMxMjM1",
    "OTU5WjAQMQ4wDAYDVQQDDAVhZG1pbjAq",
    "MAUGAytlcAMhAKyECwW/LszUOH+RIwzF",
    "AzvA8Atw+CKOoFj79Dq7oeGIoxcwFTAT",
    "BgNVHSUEDDAKBggrBgEFBQcDAjAFBgMr",
    "ZXADQQB2UeGndFpOylRoL/lycsfEmgDD",
    "tzhX2BGqqMybQLdAGxnFHV9TdyU32oUv",
    "DkjV3V6N/tfgJ4+AVGEr+EHG4+AG"]

/-- The private key of the client. -/
def clientKeyText : Der.Bytes :=
  sectionText "PRIVATE KEY" [
    "MC4CAQAwBQYDK2VwBCIEILkZrj6HBRc5",
    "KZGBBw59ehDrjpoVXwKINO9xClWsZJp6"]

def sealedSecret : SecretData :=
  [("admin-ca", authorityText), ("admin-cert", clientText), ("admin-key", clientKeyText)]

/-- The certificates of a text, and none where it cannot be read. -/
def chainOf (text : Der.Bytes) : List Der.Bytes := (Bundle.certificates text).toOption.getD []

def rootsOf (text : Der.Bytes) : List Certificate := (Bundle.readRoots text).toOption.getD []

/-- A stack that knows the certificate of the host and whose authority has issued it. -/
def sealedStack : Network.Stack where
  setUp := Network.Stack.standard.setUp
  verify client host _ chain :=
    if client.roots = rootsOf authorityText ∧ chain = chainOf serverText ∧ host = "localhost" then
      .ok ()
    else .error "invalid peer certificate: UnknownIssuer"
  plainFarEnd := Network.Stack.standard.plainFarEnd
  readResponse := Network.Stack.standard.readResponse

/-- What this stack knows: one certificate, for one host, under one authority. -/
def sealedTrust : Network.Trust where
  IssuedUnder roots chain := roots = rootsOf authorityText ∧ chain = chainOf serverText
  IsFor chain host := chain = chainOf serverText ∧ host = "localhost"

theorem sealedStack_verifies : sealedStack.Verifies sealedTrust := by
  have hknown {client : Tls.Client} {host : String} {now : Nat} {chain : List Der.Bytes}
      (h : sealedStack.verify client host now chain = .ok ()) :
      client.roots = rootsOf authorityText ∧ chain = chainOf serverText ∧ host = "localhost" := by
    by_contra hunknown
    unfold sealedStack at h
    dsimp only at h
    rw [if_neg hunknown] at h
    contradiction
  exact ⟨fun h => ⟨(hknown h).1, (hknown h).2.1⟩, fun h => (hknown h).2⟩

/-- The server of the service lets in its own client. All others are told only after their request. -/
def sealedServer : Tls.Server where
  chain := chainOf serverText
  judges chain :=
    if chain = chainOf clientText then .admitted
    else .unheard "connection error: received fatal alert: BadCertificate"

/-- The catalog of `lonePod` behind this server. -/
def sealedPod : Cluster Unit where
  secrets := ⟨fun _ _ => pure (some sealedSecret)⟩
  forwarder :=
    { lookup := lonePod.forwarder.lookup
      relay := fun _ _ _ => Timed.done (.given ⟨some sealedServer, fun _ _ => Timed.done (.given
        ((⟨200, Http.ascii "jaeger-span-2024-01-01\n"⟩ : Http.Response).render .length))⟩) }

def sealedStorage : Storage := { Storage.standard with secure := true }

private theorem value_sealedPod :
    (Timed.run (awaitIndex sealedPod Tunnel.standardSetupTimeout sealedStorage "jaeger-span"
      .standard sealedStack) 0 (Site.fresh ())).value = .ok () := by
  have hok : (Timed.run (awaitIndex sealedPod Tunnel.standardSetupTimeout sealedStorage
      "jaeger-span" .standard sealedStack) 0 (Site.fresh ())).value.isOk = true := by
    decide +kernel
  cases hvalue : (Timed.run (awaitIndex sealedPod Tunnel.standardSetupTimeout sealedStorage
      "jaeger-span" .standard sealedStack) 0 (Site.fresh ())).value with
  | ok => rfl
  | error e =>
    rw [hvalue] at hok
    contradiction

/-- The index is found over an encrypted connection, by a client of the secret. -/
theorem sealedPod_secured :
    sealedStack.Verifies sealedTrust ∧ sealedStorage.secure = true ∧
      let result := Timed.run (awaitIndex sealedPod Tunnel.standardSetupTimeout sealedStorage
        "jaeger-span" .standard sealedStack) 0 (Site.fresh ())
      result.value = .ok () ∧
      ∃ sent,
        (∀ record,
          Timed.run (awaitIndex sealedPod.overheard Tunnel.standardSetupTimeout sealedStorage
              "jaeger-span" .standard sealedStack) 0 ((Site.fresh ()).recorded record) =
            result.mapWorld (Site.recorded (record ++ sent))) ∧
        Secured sealedStack sealedTrust sealedPod Tunnel.standardSetupTimeout sealedStorage
          "jaeger-span" .standard 0 (Site.fresh ()) sent result.value :=
  ⟨sealedStack_verifies, rfl, value_sealedPod,
    awaitIndex_secured sealedStack_verifies sealedPod Tunnel.standardSetupTimeout rfl "jaeger-span"
      .standard 0 (Site.fresh ())⟩

end IndexWatch.Verification
