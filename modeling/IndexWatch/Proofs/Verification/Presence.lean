import IndexWatch.Proofs.Network.Stack
import IndexWatch.Proofs.Catalog.Exchange
import IndexWatch.Proofs.Poll.Course
import IndexWatch.Verification

/-! # What a verification says about the catalog

Once the tunnel is open, a verification is a wait whose checks are exchanges with the catalog, and
`awaitIndex_decided` says how these decide it: it succeeds exactly by a response that shows what is
expected, after responses that all showed the opposite; it fails with a transport error exactly at
the first exchange that shows nothing; and it gives up only when every exchange showed the opposite.
Nothing is shown where no connection comes about, where client and server do not agree, and by what
is no response, is cut off, reports no success or comes too late, `shown`. Whether the index is
expected or not makes no difference to what a failure is. -/

namespace IndexWatch.Verification

variable {σ : Type}

/-- What comes before the first check: the credentials, where the service wants some, and the
tunnel. -/
def prepare (stack : Network.Stack) (cluster : Cluster σ) (setupTimeout : Duration)
    (storage : Storage) : Attempt (Site σ) (Option Tls.Client × Tunnel.Handle) := do
  let tls ← credentials stack cluster.secrets storage
  let handle ← Tunnel.establish cluster.forwarder storage.tunnelTarget setupTimeout
  return (tls, handle)

/-- The question that every check asks. -/
def question (indexPrefix : String) (tls : Option Tls.Client) (handle : Tunnel.Handle) :
    Catalog.Query :=
  ⟨handle.localPort, indexPrefix, tls, Catalog.standardRequestTimeout⟩

/-- The wait on the answer that begins once all is prepared. -/
def waitOn (stack : Network.Stack) (cluster : Cluster σ) (query : Catalog.Query)
    (spec : Poll.Spec Bool) (start : Nat) (site : Site σ) : Poll.Wait (Site σ) Bool :=
  ⟨spec, query.hasEntry (Tunnel.dial cluster.forwarder) stack, start, site⟩

/-- What follows once all is prepared: the wait, and the closing of the tunnel. -/
def verify (stack : Network.Stack) (cluster : Cluster σ) (storage : Storage) (indexPrefix : String)
    (spec : Poll.Spec Bool) : Option Tls.Client × Tunnel.Handle → Attempt (Site σ) Unit
  | (tls, handle) => .ofTimed do
    let check := (question indexPrefix tls handle).hasEntry (Tunnel.dial cluster.forwarder) stack
    let result ← (Poll.await (condition storage indexPrefix spec.expected) spec check).run
    Tunnel.close handle
    return result

variable {stack : Network.Stack} {cluster : Cluster σ} {setupTimeout : Duration}
  {storage : Storage}

theorem awaitIndex_eq (indexPrefix : String) (spec : Poll.Spec Bool) :
    awaitIndex cluster setupTimeout storage indexPrefix spec stack =
      prepare stack cluster setupTimeout storage >>=
        verify stack cluster storage indexPrefix spec := by
  simp only [awaitIndex, prepare, bind_assoc, pure_bind]
  rfl

/-- After the preparations, a verification is its wait and the closing of the tunnel. -/
theorem run_awaitIndex_of_prepared {now : Nat} {site : Site σ} {tls : Option Tls.Client}
    {handle : Tunnel.Handle}
    (hprepared :
      (Timed.run (prepare stack cluster setupTimeout storage) now site).value = .ok (tls, handle))
    (indexPrefix : String) (spec : Poll.Spec Bool) :
    let prepared := Timed.run (prepare stack cluster setupTimeout storage) now site
    let wait := waitOn stack cluster (question indexPrefix tls handle) spec (now + prepared.took)
      prepared.world
    let waited := Timed.run
      (Poll.await (condition storage indexPrefix spec.expected) wait.spec wait.check) wait.start
      wait.world
    let result := Timed.run (awaitIndex cluster setupTimeout storage indexPrefix spec stack) now site
    result.value = waited.value ∧ now + result.took = wait.start + waited.took ∧
      result.world = (Timed.run (Tunnel.close handle) result.took waited.world).world := by
  rw [awaitIndex_eq, Attempt.run_bind_ok hprepared]
  exact ⟨rfl, (Nat.add_assoc ..).symm, rfl⟩

/-! ## Checks that are exchanges -/

section
variable (stack : Network.Stack) (query : Catalog.Query) (dial : Dial σ) (wait : Poll.Wait σ Bool)

/-- The exchange of the check that `n` checks come before shows `found`. -/
def ShowsAt (n : Nat) (found : Bool) : Prop :=
  query.Shows stack dial (wait.begun n) (wait.worldAt n) found

/-- The first `n` checks are made, and every exchange shows the opposite of what is expected. -/
def AllOpposed (n : Nat) : Prop :=
  ∀ i < n, wait.Admits i ∧ ShowsAt stack query dial wait i (!wait.spec.expected)

/-- What the exchanges show, for everything that may arrive in them. -/
structure Shown : Prop where
  /-- A whole message shows what its body contains, if it reports success and is in time. -/
  whole {n : Nat} {message : Http.Message} {arrival : Nat} {found : Bool} :
    stack.Delivers message →
    query.Brings stack dial (wait.begun n) (wait.worldAt n) message.bytes arrival →
      (ShowsAt stack query dial wait n found ↔
        (200 ≤ message.status ∧ message.status < 300) ∧ arrival < query.strikes (wait.begun n) ∧
          (query.indexPrefix.toList <:+: (Text.Utf8.decodeLossy message.body).toList ↔ found = true))
  /-- Part of a message shows nothing where the end of the message could be told. -/
  cut {n : Nat} {message : Http.Message} {part : Http.Bytes} {arrival : Nat} {found : Bool} :
    stack.Delivers message →
    query.Brings stack dial (wait.begun n) (wait.worldAt n) part arrival →
    Http.Cut part message.bytes →
    (message.content.isDelimited = true ∨ Http.Cut part message.heads) →
      ¬ ShowsAt stack query dial wait n found
  /-- What is no response shows nothing. -/
  unreadable {n : Nat} {bytes : Http.Bytes} {arrival : Nat} {fault : Http.Fault} {found : Bool} :
    query.Brings stack dial (wait.begun n) (wait.worldAt n) bytes arrival →
    stack.readResponse bytes = .error fault → ¬ ShowsAt stack query dial wait n found
  /-- What comes too late shows nothing. -/
  late {n : Nat} {bytes : Http.Bytes} {arrival : Nat} {found : Bool} :
    query.Brings stack dial (wait.begun n) (wait.worldAt n) bytes arrival →
    query.strikes (wait.begun n) ≤ arrival → ¬ ShowsAt stack query dial wait n found
  /-- A connection that is not opened shows nothing. -/
  unopened {n : Nat} {reason : String} {found : Bool} :
    ((dial query.localPort).run (wait.begun n) (wait.worldAt n)).value = .error reason →
    ¬ ShowsAt stack query dial wait n found
  /-- With a client, nothing is shown by a far end without certificates that the client accepts, nor
  by one that does not let the client in. -/
  unagreed {n : Nat} {client : Tls.Client} {peer : Peer σ} {instant : Nat} {found : Bool} :
    query.tls = some client → query.Meets dial (wait.begun n) (wait.worldAt n) peer instant →
    (∀ server, peer.tls = some server →
      stack.verify client "localhost" instant server.chain = .ok () →
        server.judges client.chain ≠ .admitted) →
    ¬ ShowsAt stack query dial wait n found
  /-- Where nothing arrives, nothing is shown. -/
  silent {n : Nat} {found : Bool} :
    (∀ bytes arrival, ¬ query.Brings stack dial (wait.begun n) (wait.worldAt n) bytes arrival) →
    ¬ ShowsAt stack query dial wait n found

/-- How the exchanges decide what a wait that is over at `finished` comes to. -/
structure Decided (finished : Nat) (result : Except Error Unit) : Prop extends
    Shown stack query dial wait where
  ok_iff : result = .ok () ↔ ∃ n, AllOpposed stack query dial wait n ∧ wait.Admits n ∧
    ShowsAt stack query dial wait n wait.spec.expected
  failed_iff : (∃ url reason, result = .error (.queryTransport url reason)) ↔
    ∃ n, AllOpposed stack query dial wait n ∧ wait.Admits n ∧
      ¬ ∃ found, ShowsAt stack query dial wait n found
  ends_at_failure : ∀ n, AllOpposed stack query dial wait n → wait.Admits n →
    (¬ ∃ found, ShowsAt stack query dial wait n found) →
    finished = wait.ended (n + 1) ∧ ∃ reason, result = .error (.queryTransport query.url reason)
  expired_iff :
    (∃ condition elapsed expected lastObserved,
      result = .error (.deadlineExceeded condition elapsed expected lastObserved)) ↔
    ∃ n, AllOpposed stack query dial wait n ∧ ¬ wait.Admits n

end

variable {query : Catalog.Query} {dial : Dial σ} {wait : Poll.Wait σ Bool} {n : Nat}

theorem shown (stack : Network.Stack) (query : Catalog.Query) (dial : Dial σ)
    (wait : Poll.Wait σ Bool) : Shown stack query dial wait where
  whole {n message arrival found} hdelivers H := by
    simp only [ShowsAt, Catalog.Query.Shows, Catalog.Query.receives_iff_of_brings H,
      hdelivers.whole, Except.ok.injEq]
    constructor
    · rintro ⟨_, ⟨rfl, hintime⟩, hsuccess, hfound⟩
      exact ⟨hsuccess, hintime, hfound⟩
    · rintro ⟨hsuccess, hintime, hfound⟩
      exact ⟨_, ⟨rfl, hintime⟩, hsuccess, hfound⟩
  cut hdelivers H hcut htold := by
    rintro ⟨response, hreceives, _⟩
    obtain ⟨fault, hfault⟩ := hdelivers.cut hcut htold
    obtain ⟨hread, _⟩ := (Catalog.Query.receives_iff_of_brings H).mp hreceives
    cases hfault.symm.trans hread
  unreadable H hfault := by
    rintro ⟨response, hreceives, _⟩
    obtain ⟨hread, _⟩ := (Catalog.Query.receives_iff_of_brings H).mp hreceives
    cases hfault.symm.trans hread
  late H hlate := by
    rintro ⟨response, hreceives, _⟩
    obtain ⟨_, hintime⟩ := (Catalog.Query.receives_iff_of_brings H).mp hreceives
    exact Nat.not_lt.mpr hlate hintime
  unopened herror := by
    rintro ⟨response, ⟨bytes, arrival, ⟨rfl, hline, _⟩, _⟩, _⟩
    cases herror.symm.trans hline
  unagreed htls hmeets hnone := by
    rintro ⟨response, ⟨bytes, arrival, H, _⟩, _⟩
    obtain ⟨transport, hpassage⟩ := H.passage_eq hmeets
    obtain ⟨_, server, hserver, hverified, ⟨_, hadmitted⟩ | ⟨_, hrefusal, _⟩⟩ :=
      Catalog.Query.of_passage_of_client htls hpassage
    · exact hnone server hserver hverified hadmitted
    · cases hrefusal
  silent hnone := by
    rintro ⟨response, ⟨bytes, arrival, H, _⟩, _⟩
    exact hnone bytes arrival H

theorem answer_eq_ok_iff (h : wait.check = query.hasEntry dial stack) {found : Bool} :
    wait.answer n = .ok found ↔ ShowsAt stack query dial wait n found := by
  rw [Poll.Wait.answer, Poll.Wait.outcome, h, Catalog.Query.value_hasEntry_eq_ok_iff]
  rfl

theorem answer_eq_error_iff (h : wait.check = query.hasEntry dial stack) :
    (∃ e, wait.answer n = .error e) ↔ ¬ ∃ found, ShowsAt stack query dial wait n found := by
  simp only [← answer_eq_ok_iff h]
  cases wait.answer n <;> simp

theorem eq_transport_of_answer (h : wait.check = query.hasEntry dial stack) {e : Error}
    (hanswer : wait.answer n = .error e) : ∃ reason, e = .queryTransport query.url reason := by
  rw [Poll.Wait.answer, Poll.Wait.outcome, h] at hanswer
  exact Catalog.Query.value_hasEntry_eq_error hanswer

theorem reaches_iff (h : wait.check = query.hasEntry dial stack) :
    wait.Reaches n ↔ AllOpposed stack query dial wait n := by
  have hmisses {i : Nat} :
      wait.Misses i ↔ ShowsAt stack query dial wait i (!wait.spec.expected) := by
    rw [← answer_eq_ok_iff h]
    unfold Poll.Wait.Misses
    cases wait.spec.expected <;> simp
  simp only [Poll.Wait.Reaches, AllOpposed, hmisses]

section
variable (hcheck : wait.check = query.hasEntry dial stack) (condition : String)
include hcheck

theorem ends_of_failed (H : AllOpposed stack query dial wait n) (h : wait.Admits n)
    (hnone : ¬ ∃ found, ShowsAt stack query dial wait n found) :
    let waited := Timed.run (Poll.await condition wait.spec wait.check) wait.start wait.world
    wait.start + waited.took = wait.ended (n + 1) ∧
      ∃ reason, waited.value = .error (.queryTransport query.url reason) := by
  obtain ⟨e, hanswer⟩ := (answer_eq_error_iff hcheck).mpr hnone
  obtain ⟨reason, rfl⟩ := eq_transport_of_answer hcheck hanswer
  have hstart : wait.start ≤ wait.ended (n + 1) := wait.ended_mono (Nat.zero_le _)
  rw [Poll.Wait.run_await_of_failed condition ((reaches_iff hcheck).mpr H) h hanswer]
  exact ⟨Nat.add_sub_cancel' hstart, reason, rfl⟩

theorem decided_of_exchanges :
    let waited := Timed.run (Poll.await condition wait.spec wait.check) wait.start wait.world
    Decided stack query dial wait (wait.start + waited.took) waited.value := by
  intro waited
  refine ⟨shown stack query dial wait, ?ok_iff, ?failed_iff, ?ends_at_failure, ?expired_iff⟩
  case ok_iff =>
    rw [wait.value_await_eq_ok_iff]
    constructor
    · rintro ⟨n, value, H, h, hanswer, hmet⟩
      rw [eq_of_beq hmet] at hanswer
      exact ⟨n, (reaches_iff hcheck).mp H, h, (answer_eq_ok_iff hcheck).mp hanswer⟩
    · rintro ⟨n, H, h, hshows⟩
      exact ⟨n, _, (reaches_iff hcheck).mpr H, h, (answer_eq_ok_iff hcheck).mpr hshows,
        beq_self_eq_true _⟩
  case failed_iff =>
    constructor
    · rintro ⟨url, reason, herror⟩
      rcases wait.value_await_eq_error_iff.mp herror with ⟨n, H, h, hanswer⟩ | ⟨_, _, _, hgaveUp⟩
      · exact ⟨n, (reaches_iff hcheck).mp H, h, (answer_eq_error_iff hcheck).mp ⟨_, hanswer⟩⟩
      · contradiction
    · rintro ⟨n, H, h, hnone⟩
      obtain ⟨_, reason, hvalue⟩ := ends_of_failed hcheck condition H h hnone
      exact ⟨_, reason, hvalue⟩
  case ends_at_failure => exact fun n H h hnone => ends_of_failed hcheck condition H h hnone
  case expired_iff =>
    constructor
    · rintro ⟨_, _, _, _, herror⟩
      rcases wait.value_await_eq_error_iff.mp herror with ⟨_, _, _, hanswer⟩ | ⟨n, H, h, _⟩
      · obtain ⟨_, htransport⟩ := eq_transport_of_answer hcheck hanswer
        contradiction
      · exact ⟨n, (reaches_iff hcheck).mp H, h⟩
    · rintro ⟨n, H, h⟩
      exact ⟨_, _, _, _,
        wait.value_await_eq_error_iff.mpr (.inr ⟨n, (reaches_iff hcheck).mpr H, h, rfl⟩)⟩

end

/-- Once the tunnel is open, the exchanges with the catalog decide a verification. -/
theorem awaitIndex_decided {now : Nat} {site : Site σ} {tls : Option Tls.Client}
    {handle : Tunnel.Handle}
    (hprepared :
      (Timed.run (prepare stack cluster setupTimeout storage) now site).value = .ok (tls, handle))
    (indexPrefix : String) (spec : Poll.Spec Bool) :
    let prepared := Timed.run (prepare stack cluster setupTimeout storage) now site
    let query := question indexPrefix tls handle
    let wait := waitOn stack cluster query spec (now + prepared.took) prepared.world
    let result := Timed.run (awaitIndex cluster setupTimeout storage indexPrefix spec stack) now site
    Decided stack query (Tunnel.dial cluster.forwarder) wait (now + result.took) result.value := by
  intro prepared query wait result
  obtain ⟨hvalue, hfinished, _⟩ := run_awaitIndex_of_prepared hprepared indexPrefix spec
  rw [hvalue, hfinished]
  exact decided_of_exchanges rfl (condition storage indexPrefix spec.expected)

/-- A cluster with one pod, where the catalog lists one index. -/
def lonePod : Cluster Unit where
  secrets := ⟨fun _ _ => pure none⟩
  forwarder :=
    { lookup := fun _ => Timed.done (.given (.ok (some "es-0")))
      relay := fun _ _ _ => Timed.done (.given ⟨none, fun _ _ => Timed.done (.given
        ((⟨200, Http.ascii "jaeger-span-2024-01-01\n"⟩ : Http.Response).render .length))⟩) }

/-- The tunnel to the one pod. -/
def lonePodTunnel : Tunnel.Handle := ⟨Storage.standard.tunnelTarget, "es-0", 32768, 0⟩

private theorem prepare_lonePod :
    (Timed.run (prepare .standard lonePod Tunnel.standardSetupTimeout .standard) 0
      (Site.fresh ())).value = .ok (none, lonePodTunnel) := by
  have hready :
      ((Timed.run (prepare .standard lonePod Tunnel.standardSetupTimeout .standard) 0
          (Site.fresh ())).value.toOption.map fun prepared => (prepared.1.isNone, prepared.2)) =
        some (true, lonePodTunnel) := by
    decide +kernel
  revert hready
  cases (Timed.run (prepare .standard lonePod Tunnel.standardSetupTimeout .standard) 0
      (Site.fresh ())).value with
  | error => exact nofun
  | ok prepared =>
    obtain ⟨_ | client, handle⟩ := prepared
    · intro hready
      have hhandle : handle = lonePodTunnel := (Prod.mk.inj (Option.some.inj hready)).2
      rw [hhandle]
    · intro hready
      exact nomatch (Prod.mk.inj (Option.some.inj hready)).1

/-- Where there is one pod, all is prepared at once, and the exchanges decide. -/
theorem lonePod_decided :
    (Timed.run (prepare .standard lonePod Tunnel.standardSetupTimeout .standard) 0
        (Site.fresh ())).value = .ok (none, lonePodTunnel) ∧
      let query := question "jaeger-span" none lonePodTunnel
      let prepared := Timed.run (prepare .standard lonePod Tunnel.standardSetupTimeout .standard) 0
        (Site.fresh ())
      let wait := waitOn .standard lonePod query .standard (0 + prepared.took) prepared.world
      let result := Timed.run (awaitIndex lonePod Tunnel.standardSetupTimeout .standard "jaeger-span"
        .standard .standard) 0 (Site.fresh ())
      Decided .standard query (Tunnel.dial lonePod.forwarder) wait (0 + result.took) result.value :=
  ⟨prepare_lonePod, awaitIndex_decided prepare_lonePod "jaeger-span" .standard⟩

end IndexWatch.Verification
