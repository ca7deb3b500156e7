import IndexWatch.Proofs.Catalog.Relay
import IndexWatch.Proofs.Network.Stack
import IndexWatch.Proofs.Tunnel.Setup
import IndexWatch.Proofs.Verification.Presence

/-! # What a verification asks of a cluster, and what it leaves

`Course` tells what a verification asks, in order, for each way it can end: the secret where one is
wanted, pods until one is found, and then one connection for each check. `awaitIndex_effects` says that
it takes one of these courses, and that of its tunnel nothing is left, however it ends. What is asked is
what a cluster writes down that is `recorded`; it is the same verification otherwise. On a machine whose
own connections fail, `forwards` and `connected` are empty: no check reaches the tunnel there. -/

namespace IndexWatch.Verification

open Tunnel

/-- What a verification can ask of a cluster. -/
inductive Effect where
  | secretRead (ns name : String)
  | podLookup (target : Tunnel.Target)
  /-- A connection is forwarded to a port of a pod. -/
  | forward (ns pod : String) (port : UInt16)
deriving DecidableEq

variable {σ : Type}

/-- The same cluster, where what it is asked is written down. -/
def Cluster.recorded (cluster : Cluster σ) : Cluster (Recorded Effect σ) where
  secrets :=
    { get := fun ns name =>
        .ofTimed (Recorded.noting (.secretRead ns name) (cluster.secrets.get ns name).run) }
  forwarder :=
    { lookup := fun target =>
        Recorded.noting (.podLookup target) (cluster.forwarder.lookup target)
      relay := fun ns pod port =>
        Line.recorded (.forward ns pod port) (cluster.forwarder.relay ns pod port) }

/-- The read of the credentials, where the service wants some. -/
def secretReads (storage : Storage) (now : Nat) : List (Nat × Effect) :=
  if storage.secure then [(now, .secretRead storage.ns storage.secretName)] else []

/-- The connection of a check that begins at `now`, where connections come about. -/
def forwards (site : Site σ) (ns pod : String) (port : UInt16) (now : Nat) : List (Nat × Effect) :=
  match site.loopbackFault with
  | some _ => []
  | none => [(now, .forward ns pod port)]

/-- How many connections come about when so many are asked for. -/
def connected (site : Site σ) (count : Nat) : Nat :=
  match site.loopbackFault with
  | some _ => 0
  | none => count

section
variable (stack : Network.Stack) (cluster : Cluster σ) (setupTimeout : Duration)
  (storage : Storage) (indexPrefix : String) (spec : Poll.Spec Bool) (now : Nat) (site : Site σ)

/-- The courses that a verification can take: what it asks of the cluster, in order, what comes of it,
and what it leaves of the machine's tunnels. -/
inductive Course : List (Nat × Effect) → Except Error Unit → System → Prop
  /-- The credentials cannot be had. -/
  | refused {e} : storage.secure = true →
    (Timed.run (Credentials.loadBundle cluster.secrets storage.ns storage.secretName) now
      site.outside).value = .error e →
    Course [(now, .secretRead storage.ns storage.secretName)] (.error e) site.system
  /-- No client can be set up with the credentials. -/
  | unusable {bundle reason} : storage.secure = true →
    (Timed.run (Credentials.loadBundle cluster.secrets storage.ns storage.secretName) now
      site.outside).value = .ok bundle →
    stack.setUp (.ofBundle bundle) = .error reason →
    Course [(now, .secretRead storage.ns storage.secretName)]
      (.error (.credentialMalformed (storage.ns ++ "/" ++ storage.secretName) "admin-cert"
        ("TLS configuration error: " ++ reason)))
      site.system
  /-- The tunnel cannot be opened. -/
  | unopened {loaded tls target opened e lookups system} :
    Timed.run (credentials stack cluster.secrets storage) now site = loaded →
    loaded.value = .ok tls →
    target = ⟨storage.ns, storage.serviceName, storage.selectorName, storage.port⟩ →
    Timed.run (establish cluster.forwarder target setupTimeout) (now + loaded.took)
      loaded.world = opened → opened.value = .error e →
    (∀ asked ∈ lookups, asked.2 = .podLookup target) →
    system.connections = site.system.connections → system.calls = site.system.calls →
    Course (secretReads storage now ++ lookups) (.error e) system
  /-- The catalog is checked until the wait is over. -/
  | checked {loaded tls target opened handle lookups wait checks result} :
    Timed.run (credentials stack cluster.secrets storage) now site = loaded →
    loaded.value = .ok tls →
    target = ⟨storage.ns, storage.serviceName, storage.selectorName, storage.port⟩ →
    Timed.run (establish cluster.forwarder target setupTimeout) (now + loaded.took)
      loaded.world = opened → opened.value = .ok handle →
    (∀ asked ∈ lookups, asked.2 = .podLookup target) →
    handle.target = target →
    (Timed.run (findPod target setupTimeout (Site.lift (cluster.forwarder.lookup target)))
      (now + loaded.took) loaded.world).value = .ok handle.pod →
    site.system.Fits handle →
    waitOn stack cluster (question indexPrefix tls handle) spec (now + loaded.took + opened.took)
      opened.world = wait →
    (Poll.run wait.spec wait.check wait.start wait.world).checks = checks →
    (Timed.run (Poll.await (condition storage indexPrefix spec.expected) wait.spec wait.check)
      wait.start wait.world).value = result →
    Course (secretReads storage now ++ lookups ++ checks.flatMap fun made =>
        forwards site storage.ns handle.pod storage.port made.begun)
      result (site.system.served handle (connected site checks.length))

end

variable {stack : Network.Stack} {cluster : Cluster σ} {setupTimeout : Duration}
  {storage : Storage}

/-! ## The stages -/

/-- Credentials that are wanted are had by what is asked for their secret. -/
theorem follows_credentials_of {ε : Type} {secrets' : Credentials.SecretStore (Recorded ε σ)}
    {entries : Nat → σ → List (Nat × ε)}
    (H : Recorded.Follows Recorded.mk (secrets'.get storage.ns storage.secretName).run
      (cluster.secrets.get storage.ns storage.secretName).run entries) :
    Recorded.Follows Site.recorded (credentials stack secrets' storage).run
      (credentials stack cluster.secrets storage).run fun now site =>
        if storage.secure then entries now site.outside else [] := by
  have hload : Recorded.Follows Recorded.mk
      (Credentials.loadBundle secrets' storage.ns storage.secretName).run
      (Credentials.loadBundle cluster.secrets storage.ns storage.secretName).run entries :=
    H.judged (Credentials.bundleOf (storage.ns ++ "/" ++ storage.secretName))
  unfold credentials
  cases storage.secure with
  | false => exact Recorded.follows_pure _
  | true =>
    simp only [if_true]
    exact (Site.follows_lift hload).attempt_quiet fun _ => Recorded.follows_pure _

theorem follows_credentials :
    Recorded.Follows Site.recorded (credentials stack cluster.recorded.secrets storage).run
      (credentials stack cluster.secrets storage).run fun now _ => secretReads storage now := by
  have hget : Recorded.Follows Recorded.mk
      (cluster.recorded.secrets.get storage.ns storage.secretName).run
      (cluster.secrets.get storage.ns storage.secretName).run
      fun now _ => [(now, .secretRead storage.ns storage.secretName)] :=
    Recorded.follows_noting _ _
  unfold secretReads
  exact follows_credentials_of hget

theorem actsOutside_credentials :
    Site.ActsOutside (credentials stack cluster.secrets storage).run := by
  unfold credentials
  cases storage.secure with
  | false => exact Site.actsOutside_pure _
  | true =>
    refine Site.ActsOutside.bind (Site.actsOutside_lift _) fun loaded => ?_
    cases loaded <;> exact Site.actsOutside_pure _

/-- Credentials that are wanted are those of a client that is set up with what is loaded. -/
theorem value_credentials_of_secure (hsecure : storage.secure = true) (now : Nat) (site : Site σ) :
    (Timed.run (credentials stack cluster.secrets storage) now site).value =
      (Timed.run (Credentials.loadBundle cluster.secrets storage.ns storage.secretName) now
        site.outside).value >>= fun bundle => (stack.client bundle).map some := by
  unfold credentials
  rw [hsecure, if_pos rfl]
  exact Attempt.value_bind_ofExcept

/-- Credentials that cannot be had end a verification in one of two courses. -/
theorem course_of_unloaded {now : Nat} {site : Site σ} {e : Error}
    (h : (Timed.run (credentials stack cluster.secrets storage) now site).value = .error e)
    (setupTimeout : Duration) (indexPrefix : String) (spec : Poll.Spec Bool) :
    Course stack cluster setupTimeout storage indexPrefix spec now site (secretReads storage now)
      (.error e) site.system := by
  cases hsecure : storage.secure with
  | false =>
    unfold credentials at h
    rw [hsecure] at h
    cases h
  | true =>
    rw [value_credentials_of_secure hsecure, bind_eq_error_iff] at h
    rw [secretReads, if_pos hsecure]
    rcases h with hload | ⟨bundle, hload, hclient⟩
    · exact .refused hsecure hload
    · cases hfailed : stack.client bundle with
      | ok client =>
        rw [hfailed] at hclient
        contradiction
      | error e' =>
        rw [hfailed] at hclient
        cases hclient
        obtain ⟨data, _, _, _, _, _, _, _, hmade⟩ :=
          Credentials.value_loadBundle_eq_ok_iff.mp hload
        obtain ⟨reason, hsetUp, rfl⟩ := Network.Stack.client_eq_error hfailed
        rw [hmade.secret_eq]
        exact .unusable hsecure hload hsetUp

/-! ## The checks -/

theorem connected_of_fault {site : Site σ} {fault : String} (h : site.loopbackFault = some fault)
    (count : Nat) : connected site count = 0 := by
  simp only [connected, h]

theorem connected_of_none {site : Site σ} (h : site.loopbackFault = none) (count : Nat) :
    connected site count = count := by
  simp only [connected, h]

section
variable {base : System} {handle : Handle} {query : Catalog.Query}
  {wait : Poll.Wait (Site σ) Bool}
  (hcheck : wait.check = query.hasEntry (dial cluster.forwarder) stack)
  (hport : query.localPort = handle.localPort) (H : base.Fits handle)
  (hsystem : wait.world.system = base.serving handle 0)
include hcheck hport H hsystem

/-- After so many checks, each opened one connection, where connections come about. -/
theorem worldAt_checked (n : Nat) :
    (wait.worldAt n).loopbackFault = wait.world.loopbackFault ∧
      (wait.worldAt n).system = base.serving handle (connected wait.world n) := by
  -- A check never changes whether connections come about; without this the count is not kept.
  induction n with
  | zero =>
    have hnone : connected wait.world 0 = 0 := by
      unfold connected
      split <;> rfl
    rw [hnone]
    exact ⟨rfl, hsystem⟩
  | succ n ih =>
    obtain ⟨hsame, hserving⟩ := ih
    rw [Poll.Wait.worldAt_succ, Poll.Wait.outcome, hcheck]
    cases hfault : wait.world.loopbackFault with
    | some fault =>
      rw [connected_of_fault hfault] at hserving ⊢
      rw [Catalog.Query.world_hasEntry_of_fault (hsame.trans hfault)]
      exact ⟨hsame.trans hfault, hserving⟩
    | none =>
      rw [connected_of_none hfault] at hserving ⊢
      obtain ⟨outside, hworld⟩ := Catalog.Query.world_hasEntry_of_serving
        H hport (hsame.trans hfault) hserving (wait.begun n)
      rw [hworld]
      exact ⟨hsame.trans hfault, rfl⟩

/-- Where connections come about, the tunnel relays those of every check. -/
theorem relaying?_checked (n : Nat) :
    relaying? (wait.worldAt n) handle.localPort =
      match wait.world.loopbackFault with
      | some _ => none
      | none => some { handle.opening with
          relaying := base.nextConnections (connected wait.world n) } := by
  obtain ⟨hsame, hserving⟩ := worldAt_checked hcheck hport H hsystem n
  cases hfault : wait.world.loopbackFault with
  | some fault => simp only [relaying?, hsame, hfault]
  | none => exact relaying?_serving H (hsame.trans hfault) hserving

/-- What is written down about the checks is their connections. -/
theorem followedBy_checked (hpatient : 0 < query.requestTimeout.nanos) :
    wait.FollowedBy Site.recorded (query.hasEntry (dial cluster.recorded.forwarder) stack)
      (forwards wait.world handle.target.ns handle.pod handle.target.remotePort) := by
  have hfollows : Recorded.Follows Site.recorded
      (query.hasEntry (dial cluster.recorded.forwarder) stack).run wait.check.run
      (Catalog.Query.relayEntries (fun ns pod port now _ => [(now, .forward ns pod port)])
        query.localPort) := by
    rw [hcheck]
    exact Catalog.Query.follows_hasEntry (fun _ _ _ => Catalog.Query.follows_askOver _ _) hpatient
  refine Poll.Wait.followedBy_of_follows hfollows fun n => ?_
  rw [Catalog.Query.relayEntries, forwards, hport, relaying?_checked hcheck hport H hsystem]
  cases wait.world.loopbackFault <;> rfl

end

/-! ## The wait and the closing of the tunnel -/

/-- The same outcome once a tunnel is closed as well. -/
def closing {α : Type} (handle : Handle) (outcome : Outcome (Site σ) α) : Outcome (Site σ) α :=
  outcome.mapWorld fun site =>
    { site with system := site.system.run [.closes handle.index, .halts handle.index] }

theorem run_verify (stack : Network.Stack) (cluster : Cluster σ) (storage : Storage)
    (indexPrefix : String) (spec : Poll.Spec Bool) (tls : Option Tls.Client) (handle : Handle)
    (start : Nat) (site : Site σ) :
    let wait := waitOn stack cluster (question indexPrefix tls handle) spec start site
    Timed.run (verify stack cluster storage indexPrefix spec (tls, handle)) start site =
      closing handle (Timed.run (Poll.await (condition storage indexPrefix spec.expected) wait.spec
        wait.check) wait.start wait.world) := by
  intro wait
  change Timed.run ((Poll.await (condition storage indexPrefix spec.expected) wait.spec
    wait.check).run >>= fun result => close handle >>= fun _ => pure result) start site = _
  simp only [Timed.run_bind, close, Site.run_record, Timed.run_pure, Nat.add_zero, Bool.false_or,
    beq_self_eq_true, Bool.true_and]
  rfl

theorem value_verify (stack : Network.Stack) (cluster : Cluster σ) (storage : Storage)
    (indexPrefix : String) (spec : Poll.Spec Bool) (tls : Option Tls.Client) (handle : Handle)
    (start : Nat) (site : Site σ) :
    let wait := waitOn stack cluster (question indexPrefix tls handle) spec start site
    (Timed.run (verify stack cluster storage indexPrefix spec (tls, handle)) start site).value =
      (Timed.run (Poll.await (condition storage indexPrefix spec.expected) wait.spec
        wait.check) wait.start wait.world).value := by
  rw [run_verify]
  rfl

/-- What is written down about a verification is what is about its checks. -/
theorem verify_of_followedBy {ε : Type} {cluster' : Cluster (Recorded ε σ)} {indexPrefix : String}
    {spec : Poll.Spec Bool} {tls : Option Tls.Client} {handle : Handle} {start : Nat}
    {site : Site σ} {asked : Nat → List (Nat × ε)}
    (H : (waitOn stack cluster (question indexPrefix tls handle) spec start site).FollowedBy
      Site.recorded ((question indexPrefix tls handle).hasEntry (dial cluster'.forwarder) stack)
      asked)
    (record : List (Nat × ε)) :
    let wait := waitOn stack cluster (question indexPrefix tls handle) spec start site
    let checks := (Poll.run wait.spec wait.check wait.start wait.world).checks
    Timed.run (verify stack cluster' storage indexPrefix spec (tls, handle)) start
        (site.recorded record) =
      (Timed.run (verify stack cluster storage indexPrefix spec (tls, handle)) start site).mapWorld
        (Site.recorded (record ++ Poll.asks asked checks)) := by
  intro wait checks
  have hawaited := Poll.Wait.run_await_recorded H (condition storage indexPrefix spec.expected) record
  rw [run_verify, run_verify]
  exact congrArg (closing handle) hawaited

section
variable {base : System} {handle : Handle} {site : Site σ} (H : base.Fits handle)
  (hsystem : site.system = base.serving handle 0)
include H hsystem

theorem system_verify (indexPrefix : String) (spec : Poll.Spec Bool) (tls : Option Tls.Client)
    (start : Nat) :
    let wait := waitOn stack cluster (question indexPrefix tls handle) spec start site
    let checks := (Poll.run wait.spec wait.check wait.start wait.world).checks
    (Timed.run (verify stack cluster storage indexPrefix spec (tls, handle)) start site).world.system =
      base.served handle (connected site checks.length) := by
  intro wait checks
  obtain ⟨made, awaited, hcourse⟩ :=
    wait.exists_course (condition storage indexPrefix spec.expected)
  obtain ⟨hmade, hawaited⟩ := hcourse.taken
  have hsystem : wait.world.system = base.serving handle 0 := hsystem
  obtain ⟨_, hserving⟩ := worldAt_checked rfl rfl H hsystem made.length
  rw [run_verify, hawaited]
  change awaited.world.system.run _ = base.served handle (connected site checks.length)
  rw [hcourse.world_eq, hserving, show checks = made from hmade]
  exact H.run_closes

theorem verify_recorded (indexPrefix : String) (spec : Poll.Spec Bool) (tls : Option Tls.Client)
    (start : Nat) (record : List (Nat × Effect)) :
    let wait := waitOn stack cluster (question indexPrefix tls handle) spec start site
    let checks := (Poll.run wait.spec wait.check wait.start wait.world).checks
    Timed.run (verify stack cluster.recorded storage indexPrefix spec (tls, handle)) start
        (site.recorded record) =
      (Timed.run (verify stack cluster storage indexPrefix spec (tls, handle)) start site).mapWorld
        (Site.recorded (record ++ Poll.asks
          (forwards site handle.target.ns handle.pod handle.target.remotePort) checks)) := by
  intro wait checks
  have hsystem : wait.world.system = base.serving handle 0 := hsystem
  have hpatient : 0 < Catalog.standardRequestTimeout.nanos := by decide
  have hfollowed := followedBy_checked rfl rfl H hsystem hpatient
  exact verify_of_followedBy hfollowed record

end

/-! ## The whole verification -/

/-- What follows once the credentials are had. -/
def connect (stack : Network.Stack) (cluster : Cluster σ) (setupTimeout : Duration)
    (storage : Storage) (indexPrefix : String) (spec : Poll.Spec Bool) (tls : Option Tls.Client) :
    Attempt (Site σ) Unit :=
  establish cluster.forwarder storage.tunnelTarget setupTimeout >>= fun handle =>
    verify stack cluster storage indexPrefix spec (tls, handle)

/-- What is left once the credentials are had is the rest of one of the courses. -/
theorem exists_course_of_loaded (setupTimeout : Duration) (indexPrefix : String)
    (spec : Poll.Spec Bool) {now : Nat} {site : Site σ}
    {loaded : Outcome (Site σ) (Except Error (Option Tls.Client))} {tls : Option Tls.Client}
    {outside : σ}
    (hloaded : Timed.run (credentials stack cluster.secrets storage) now site = loaded)
    (hvalue : loaded.value = .ok tls) (hworld : loaded.world = { site with outside }) :
    let rest := Timed.run (connect stack cluster setupTimeout storage indexPrefix spec tls)
      (now + loaded.took) loaded.world
    ∃ effects,
      Course stack cluster setupTimeout storage indexPrefix spec now site
        (secretReads storage now ++ effects) rest.value rest.world.system ∧
      site.system.LeavesNothing rest.world.system ∧
      ∀ record, Timed.run (connect stack cluster.recorded setupTimeout storage indexPrefix spec tls)
          (now + loaded.took) (loaded.world.recorded record) =
        rest.mapWorld (Site.recorded (record ++ effects)) := by
  intro rest
  let target := storage.tunnelTarget
  let start := now + loaded.took
  let opened := Timed.run (establish cluster.forwarder target setupTimeout) start loaded.world
  have hlookup : Recorded.Follows Recorded.mk (cluster.recorded.forwarder.lookup target)
      (cluster.forwarder.lookup target) fun now _ => [(now, .podLookup target)] :=
    Recorded.follows_noting _ _
  have hentries (now : Nat) (_ : σ) :
      ∀ q ∈ [(now, Effect.podLookup target)], q.2 = .podLookup target := by simp
  obtain ⟨lookups, hlookups, hfollows⟩ := exists_follows_establish hlookup hentries setupTimeout
  have hopened (record : List (Nat × Effect)) :
      Timed.run (establish cluster.recorded.forwarder target setupTimeout) start
          (loaded.world.recorded record) =
        opened.mapWorld (Site.recorded (record ++ lookups start loaded.world)) :=
    hfollows start record loaded.world
  have hsame : loaded.world.system = site.system := by rw [hworld]
  cases setUp_establish start loaded.world with
  | opened handle later hhandle htarget hpod H hserving =>
    rw [hsame] at H hserving
    have hopenedSystem : opened.world.system = site.system.serving handle 0 := by rw [hserving]
    have hfault : opened.world.loopbackFault = site.loopbackFault := by rw [hserving, hworld]
    have hconnected (count : Nat) : connected opened.world count = connected site count := by
      simp only [connected, hfault]
    have hforwards : forwards opened.world handle.target.ns handle.pod handle.target.remotePort =
        forwards site storage.ns handle.pod storage.port := by
      funext now
      simp only [forwards, hfault, htarget]
      rfl
    let wait := waitOn stack cluster (question indexPrefix tls handle) spec (start + opened.took)
      opened.world
    let checks := (Poll.run wait.spec wait.check wait.start wait.world).checks
    have hrest : rest = _ := Attempt.run_bind_ok hhandle
    have hsystem :
        rest.world.system = site.system.served handle (connected site checks.length) := by
      rw [hrest, ← hconnected]
      exact system_verify H hopenedSystem indexPrefix spec tls (start + opened.took)
    refine ⟨lookups start loaded.world ++
      Poll.asks (forwards site storage.ns handle.pod storage.port) checks, ?_, ?_,
      fun record => ?_⟩
    · rw [← List.append_assoc, hsystem, hrest]
      exact .checked hloaded hvalue rfl rfl hhandle (hlookups start loaded.world) htarget hpod H rfl
        rfl (value_verify ..).symm
    · rw [hsystem]
      exact System.leavesNothing_served
    · refine Recorded.run_bind_of_ok (hopened record) hhandle ?_
      rw [← List.append_assoc, ← hforwards]
      exact verify_recorded H hopenedSystem indexPrefix spec tls (start + opened.took) _
  | failed e system later herror hworld hleft hconnections hcalls =>
    have hrest : rest = { opened with value := .error e } := Attempt.run_bind_error herror
    have hsystem : rest.world.system = system := by rw [hrest, hworld]
    rw [hsame] at hleft hconnections hcalls
    refine ⟨lookups start loaded.world, ?_, ?_, fun record => ?_⟩
    · rw [hsystem, hrest]
      exact .unopened hloaded hvalue rfl rfl herror (hlookups start loaded.world) hconnections
        hcalls
    · rw [hsystem]
      exact hleft
    · exact Recorded.run_bind_of_error (hopened record) herror

/-- A verification takes one of its courses, and leaves nothing of its tunnel, however it ends. -/
theorem awaitIndex_effects (stack : Network.Stack) (cluster : Cluster σ) (setupTimeout : Duration)
    (storage : Storage) (indexPrefix : String) (spec : Poll.Spec Bool) (now : Nat)
    (site : Site σ) :
    let result := Timed.run (awaitIndex cluster setupTimeout storage indexPrefix spec stack) now site
    ∃ effects,
      Course stack cluster setupTimeout storage indexPrefix spec now site effects result.value
        result.world.system ∧
      site.system.LeavesNothing result.world.system ∧
      ∀ record, Timed.run (awaitIndex cluster.recorded setupTimeout storage indexPrefix spec stack)
          now (site.recorded record) =
        result.mapWorld (Site.recorded (record ++ effects)) := by
  intro result
  let loaded := Timed.run (credentials stack cluster.secrets storage) now site
  have hloaded (record : List (Nat × Effect)) :
      Timed.run (credentials stack cluster.recorded.secrets storage) now (site.recorded record) =
        loaded.mapWorld (Site.recorded (record ++ secretReads storage now)) :=
    follows_credentials now record site
  obtain ⟨outside, hworld⟩ : ∃ outside, loaded.world = { site with outside } :=
    actsOutside_credentials now site
  cases hvalue : loaded.value with
  | error e =>
    have hresult : result = { loaded with value := .error e } := Attempt.run_bind_error hvalue
    have hsame : loaded.world.system = site.system := by rw [hworld]
    refine ⟨secretReads storage now, ?_, ?_, fun record => ?_⟩
    · rw [hresult, hsame]
      exact course_of_unloaded hvalue setupTimeout indexPrefix spec
    · rw [hresult, hsame]
      exact .refl _
    · exact Recorded.run_bind_of_error (hloaded record) hvalue
  | ok tls =>
    obtain ⟨effects, hcourse, hleft, hrest⟩ :=
      exists_course_of_loaded setupTimeout indexPrefix spec rfl hvalue hworld
    have hresult : result = _ := Attempt.run_bind_ok hvalue
    refine ⟨secretReads storage now ++ effects, ?_, ?_, fun record => ?_⟩
    · rw [hresult]
      exact hcourse
    · rw [hresult]
      exact hleft
    · refine Recorded.run_bind_of_ok (hloaded record) hvalue ?_
      rw [← List.append_assoc]
      exact hrest (record ++ secretReads storage now)

end IndexWatch.Verification
