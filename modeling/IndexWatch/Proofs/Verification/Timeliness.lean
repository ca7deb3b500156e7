import IndexWatch.Proofs.Poll.Punctuality
import IndexWatch.Proofs.Tunnel.Window
import IndexWatch.Proofs.Verification.Encryption

/-! # How long a verification takes

Three limits bound a verification, each in its own way: a setup is cut off at its deadline, a wait
begins no check after its own, and a check that has begun is cut off by its request timeout. So one
check may outlast the deadline of the wait, by no more than the request timeout, and `awaitIndex_timely`
adds the three up. The timers fire on whole milliseconds, and each window is rounded up to one. -/

namespace IndexWatch.Verification

variable {σ : Type} {stack : Network.Stack} {cluster : Cluster σ} {setupTimeout : Duration}
  {storage : Storage}

/-! ## The stages -/

/-- How long the credentials take to be read, where the service wants some. -/
def readTook (cluster : Cluster σ) (storage : Storage) (now : Nat) (site : Site σ) : Nat :=
  if storage.secure then
    (Timed.run (cluster.secrets.get storage.ns storage.secretName) now site.outside).took
  else 0

theorem took_credentials (stack : Network.Stack) (cluster : Cluster σ) (storage : Storage)
    (now : Nat) (site : Site σ) :
    (Timed.run (credentials stack cluster.secrets storage) now site).took =
      readTook cluster storage now site := by
  have hload : (Timed.run (Credentials.loadBundle cluster.secrets storage.ns storage.secretName) now
      site.outside).took =
      (Timed.run (cluster.secrets.get storage.ns storage.secretName) now site.outside).took :=
    Attempt.took_bind_of_instant (fun _ _ _ => rfl) now site.outside
  unfold credentials readTook
  cases storage.secure with
  | false => rfl
  | true =>
    simp only [if_true]
    rw [← hload]
    exact Attempt.took_bind_of_instant (fun _ _ _ => rfl) now site

/-- All is prepared, or an error is there, when the timer of the setup fires. -/
theorem add_took_prepare_le (stack : Network.Stack) (cluster : Cluster σ) (setupTimeout : Duration)
    (storage : Storage) (now : Nat) (site : Site σ) :
    let started := now + readTook cluster storage now site
    now + (Timed.run (prepare stack cluster setupTimeout storage) now site).took ≤
      Clock.ceilMilli (started + Clock.window started setupTimeout) := by
  intro started
  have htook := took_credentials stack cluster storage now site
  have hstarted : started ≤ Clock.ceilMilli (started + Clock.window started setupTimeout) :=
    Nat.le_trans (Nat.le_add_right ..) (Clock.le_ceilMilli _)
  cases hloaded : (Timed.run (credentials stack cluster.secrets storage) now site).value with
  | error e =>
    rw [prepare, Attempt.run_bind_error hloaded, htook]
    exact hstarted
  | ok tls =>
    let loaded := Timed.run (credentials stack cluster.secrets storage) now site
    have hopened := Tunnel.start_add_took_establish_le cluster.forwarder storage.tunnelTarget
      setupTimeout started loaded.world
    have hrest : (Timed.run (do
        let handle ← Tunnel.establish cluster.forwarder storage.tunnelTarget setupTimeout
        return (tls, handle) : Attempt (Site σ) (Option Tls.Client × Tunnel.Handle))
        started loaded.world).took =
        (Timed.run (Tunnel.establish cluster.forwarder storage.tunnelTarget setupTimeout) started
          loaded.world).took :=
      Attempt.took_bind_of_instant (fun _ _ _ => rfl) started loaded.world
    rw [prepare, Attempt.run_bind_ok hloaded]
    simp only [htook]
    rw [← hrest, Nat.add_assoc] at hopened
    exact hopened

/-! ## The checks -/

/-- How long a check may take that begins at `begun`. -/
def requestWindow (begun : Nat) : Nat := Clock.window begun Catalog.standardRequestTimeout

theorem requestWindow_mono {begun later : Nat} (h : begun ≤ later) :
    requestWindow begun ≤ requestWindow later :=
  Clock.window_mono (by decide) h

theorem requestWindow_of_lt {begun : Nat} (h : begun + 10000000000 < Clock.horizon) :
    requestWindow begun = 10000000000 :=
  Clock.window_of_lt h

theorem dvd_requestWindow (begun : Nat) : 1000000 ∣ requestWindow begun := by
  unfold requestWindow Clock.window
  split <;> decide

section
variable {indexPrefix : String} {tls : Option Tls.Client} {handle : Tunnel.Handle}
  {spec : Poll.Spec Bool} {start : Nat} {site : Site σ}

theorem took_check_le (n : Nat) :
    let wait := waitOn stack cluster (question indexPrefix tls handle) spec start site
    (wait.outcome n).took ≤ requestWindow (wait.begun n) := by
  intro wait
  have hbegun : 1000000 ∣ wait.begun n := Clock.ceilMilli_dvd _
  have hwhole : 1000000 ∣ wait.begun n + requestWindow (wait.begun n) :=
    Nat.dvd_add hbegun (dvd_requestWindow _)
  have hstrikes : (question indexPrefix tls handle).strikes (wait.begun n) =
      wait.begun n + requestWindow (wait.begun n) := by
    rw [Catalog.Query.strikes, Clock.deadline_eq_add_window]
    exact Clock.ceilMilli_eq_self hwhole
  have hle : wait.begun n + (wait.outcome n).took ≤ _ := Catalog.Query.add_took_hasEntry_le
  rw [hstrikes] at hle
  exact Nat.le_of_add_le_add_left hle

/-- A check that begins by an instant has ended when the request timeout has passed since then. -/
theorem ended_le_of_begun_le {c : Poll.Check Bool} {instant : Nat}
    (hc : c ∈ (Poll.run spec ((question indexPrefix tls handle).hasEntry
      (Tunnel.dial cluster.forwarder) stack) start site).checks) (h : c.begun ≤ instant) :
    c.ended ≤ instant + requestWindow instant := by
  let wait := waitOn stack cluster (question indexPrefix tls handle) spec start site
  obtain ⟨n, _, _, rfl⟩ := wait.mem_run_checks.mp hc
  exact Nat.add_le_add h (Nat.le_trans (took_check_le n) (requestWindow_mono h))

/-- A wait is over when the request timeout has passed since its deadline. -/
theorem add_took_wait_le (condition : String) :
    let wait := waitOn stack cluster (question indexPrefix tls handle) spec start site
    let strikes := Clock.ceilMilli (start + Clock.window start spec.timeout)
    start + (Timed.run (Poll.await condition wait.spec wait.check) start site).took ≤
      strikes + requestWindow strikes := by
  intro wait strikes
  have hstrikes : strikes = Clock.ceilMilli wait.deadline :=
    congrArg Clock.ceilMilli (Clock.deadline_eq_add_window start spec.timeout).symm
  have hfinished := Poll.Wait.finished_run_le (requestWindow strikes) fun n hadmits => by
    have hbegun : wait.begun n ≤ strikes := hstrikes ▸ Poll.Wait.begun_le_ceilMilli_deadline hadmits
    exact Nat.le_trans (took_check_le n) (requestWindow_mono hbegun)
  rw [← hstrikes] at hfinished
  have hstart : start ≤ strikes :=
    Nat.le_trans (Nat.le_add_right ..) (Clock.le_ceilMilli _)
  change start + ((Poll.run wait.spec wait.check start site).finished - start) ≤ _
  change (Poll.run wait.spec wait.check start site).finished ≤ _ at hfinished
  omega

end

/-! ## The whole verification -/

/-- A verification is over when the request timeout has passed since the deadline of the wait that
begins once all is prepared. -/
theorem add_took_awaitIndex_le (stack : Network.Stack) (cluster : Cluster σ)
    (setupTimeout : Duration) (storage : Storage) (indexPrefix : String)
    (spec : Poll.Spec Bool) (now : Nat) (site : Site σ) :
    let begun := now + (Timed.run (prepare stack cluster setupTimeout storage) now site).took
    let strikes := Clock.ceilMilli (begun + Clock.window begun spec.timeout)
    now + (Timed.run (awaitIndex cluster setupTimeout storage indexPrefix spec stack) now
        site).took ≤
      strikes + requestWindow strikes := by
  intro begun strikes
  cases hprepared : (Timed.run (prepare stack cluster setupTimeout storage) now site).value with
  | error e =>
    rw [awaitIndex_eq, Attempt.run_bind_error hprepared]
    calc begun ≤ begun + Clock.window begun spec.timeout := Nat.le_add_right ..
      _ ≤ strikes := Clock.le_ceilMilli _
      _ ≤ strikes + requestWindow strikes := Nat.le_add_right ..
  | ok prepared =>
    obtain ⟨tls, handle⟩ := prepared
    obtain ⟨_, htook, _⟩ := run_awaitIndex_of_prepared hprepared indexPrefix spec
    rw [htook]
    exact add_took_wait_le (condition storage indexPrefix spec.expected)

/-- **How long a verification takes**, where it starts on a whole millisecond: the reading of the
credentials and the window of the setup, rounded up together to a whole millisecond, the window of
the wait, rounded up, and one request. A reading of whole milliseconds stays out of the rounding. A
check that has begun when the deadline of the wait comes ends within one request timeout of it,
which is ten seconds unless the clock ends before. -/
theorem awaitIndex_timely (stack : Network.Stack) (cluster : Cluster σ) (setupTimeout : Duration)
    (storage : Storage) (indexPrefix : String) (spec : Poll.Spec Bool) {now : Nat}
    (hnow : 1000000 ∣ now) (site : Site σ) :
    let read := readTook cluster storage now site
    let prepared := Timed.run (prepare stack cluster setupTimeout storage) now site
    let begun := now + prepared.took
    let setupWindow := Clock.window (now + read) setupTimeout
    let waitWindow := Clock.window begun spec.timeout
    let request := requestWindow (Clock.ceilMilli (begun + waitWindow))
    let result := Timed.run (awaitIndex cluster setupTimeout storage indexPrefix spec stack) now site
    result.took ≤ Clock.ceilMilli (read + setupWindow) + Clock.ceilMilli waitWindow + request ∧
    (1000000 ∣ read →
      result.took ≤ read + Clock.ceilMilli setupWindow + Clock.ceilMilli waitWindow + request) ∧
    (∀ tls handle, prepared.value = .ok (tls, handle) →
      let wait := waitOn stack cluster (question indexPrefix tls handle) spec begun prepared.world
      wait.deadline = begun + waitWindow ∧
      ∀ c ∈ (Poll.run wait.spec wait.check wait.start wait.world).checks,
        c.begun ≤ wait.deadline → c.ended ≤ wait.deadline + request) ∧
    (Clock.ceilMilli (begun + waitWindow) + 10000000000 < Clock.horizon →
      request = 10000000000) := by
  intro read prepared begun setupWindow waitWindow request result
  have hbegun : begun ≤ now + Clock.ceilMilli (read + setupWindow) := by
    rw [← Clock.ceilMilli_add_of_dvd hnow, ← Nat.add_assoc]
    exact add_took_prepare_le stack cluster setupTimeout storage now site
  -- The bound on the setup is a whole millisecond, so that the wait adds its own rounding and no more.
  have hstrikes : Clock.ceilMilli (begun + waitWindow) ≤
      now + Clock.ceilMilli (read + setupWindow) + Clock.ceilMilli waitWindow := by
    have hwhole : 1000000 ∣ now + Clock.ceilMilli (read + setupWindow) :=
      Nat.dvd_add hnow (Clock.ceilMilli_dvd _)
    rw [← Clock.ceilMilli_add_of_dvd hwhole]
    exact Clock.ceilMilli_mono (Nat.add_le_add_right hbegun _)
  have htook : result.took ≤
      Clock.ceilMilli (read + setupWindow) + Clock.ceilMilli waitWindow + request := by
    have hresult : now + result.took ≤ Clock.ceilMilli (begun + waitWindow) + request :=
      add_took_awaitIndex_le stack cluster setupTimeout storage indexPrefix spec now site
    omega
  refine ⟨htook, fun hread => ?_, fun tls handle _ => ⟨Clock.deadline_eq_add_window .., ?_⟩,
    requestWindow_of_lt⟩
  · rwa [Clock.ceilMilli_add_of_dvd hread] at htook
  · intro c hc hdue
    have hdeadline : Clock.deadline begun spec.timeout ≤ Clock.ceilMilli (begun + waitWindow) := by
      rw [Clock.deadline_eq_add_window]
      exact Clock.le_ceilMilli _
    exact Nat.le_trans (ended_le_of_begun_le hc hdue)
      (Nat.add_le_add_left (requestWindow_mono hdeadline) _)

/-- A cluster with one pod, whose catalog never answers. -/
def silentPod : Cluster Unit :=
  { lonePod with
    forwarder := { lonePod.forwarder with relay := fun _ _ _ => Timed.done .never } }

private theorem exists_prepare_silentPod :
    ∃ tls handle, (Timed.run (prepare .standard silentPod Tunnel.standardSetupTimeout .standard) 0
      (Site.fresh ())).value = .ok (tls, handle) := by
  have hready : (Timed.run (prepare .standard silentPod Tunnel.standardSetupTimeout .standard) 0
      (Site.fresh ())).value.toOption.isSome = true := by
    decide +kernel
  revert hready
  cases (Timed.run (prepare .standard silentPod Tunnel.standardSetupTimeout .standard) 0
      (Site.fresh ())).value with
  | error => exact nofun
  | ok prepared => exact fun _ => ⟨prepared.1, prepared.2, rfl⟩

/-- With a setup of up to half a minute and a wait of two, its verification is over after 160
seconds, and its first check, which nothing answers, long before. -/
theorem silentPod_timely :
    let prepared := Timed.run (prepare .standard silentPod Tunnel.standardSetupTimeout .standard) 0
      (Site.fresh ())
    (Timed.run (awaitIndex silentPod Tunnel.standardSetupTimeout .standard "jaeger-span" .standard
      .standard) 0 (Site.fresh ())).took ≤ 160000000000 ∧
    ∃ tls handle, prepared.value = .ok (tls, handle) ∧
      let wait := waitOn .standard silentPod (question "jaeger-span" tls handle) .standard
        (0 + prepared.took) prepared.world
      ∃ c ∈ (Poll.run wait.spec wait.check wait.start wait.world).checks,
        c.begun ≤ wait.deadline ∧ c.ended ≤ wait.deadline + 10000000000 := by
  intro prepared
  have hprepared : 0 + prepared.took ≤ 30000000000 :=
    add_took_prepare_le .standard silentPod Tunnel.standardSetupTimeout .standard 0 (Site.fresh ())
  have hhorizon : 10000000000000 < Clock.horizon := by decide
  have hwait : Clock.window (0 + prepared.took) Poll.Spec.standard.timeout = 120000000000 :=
    Clock.window_of_lt (by
      change 0 + prepared.took + 120000000000 < Clock.horizon
      omega)
  have hclock :
      Clock.ceilMilli (0 + prepared.took + 120000000000) + 10000000000 < Clock.horizon := by
    have hstrikes := Clock.ceilMilli_lt (0 + prepared.took + 120000000000)
    omega
  obtain ⟨_, htook, hchecks, hrequest⟩ :=
    awaitIndex_timely .standard silentPod Tunnel.standardSetupTimeout .standard "jaeger-span"
      .standard (Nat.dvd_zero 1000000) (Site.fresh ())
  rw [hwait] at htook hrequest hchecks
  have htook := htook (Nat.dvd_zero _)
  rw [hrequest hclock] at htook hchecks
  obtain ⟨tls, handle, hvalue⟩ := exists_prepare_silentPod
  obtain ⟨hdeadline, hended⟩ := hchecks tls handle hvalue
  refine ⟨htook, tls, handle, hvalue, ?_⟩
  intro wait
  have hend : wait.deadline = 0 + prepared.took + 120000000000 := hdeadline
  have hfirst : wait.Admits 0 := by
    change 0 + prepared.took + 5000000000 ≤ wait.deadline
    omega
  have hbegun : wait.begun 0 ≤ wait.deadline := by
    have hlt : wait.begun 0 < 0 + prepared.took + 5000000000 + 1000000 := Clock.ceilMilli_lt _
    omega
  have hmade := wait.mem_run_checks.mpr ⟨0, Poll.Wait.reaches_zero, hfirst, rfl⟩
  exact ⟨_, hmade, hbegun, hended _ hmade hbegun⟩

/-! ## A secret that does not take whole milliseconds

The deadline of the setup lies a window after the secret was read, and its timer fires on the next
whole millisecond, so the two are rounded up together. -/

/-- The service of `sealedPod` with a secret that is read in half a millisecond, a pod that is found in
1.4 milliseconds, and a catalog that never answers. -/
def unevenPod : Cluster Unit where
  secrets := ⟨fun _ _ _ world => ⟨500000, true, world, .ok (some sealedSecret)⟩⟩
  forwarder :=
    { lookup := fun target now world =>
        { Timed.run (lonePod.forwarder.lookup target) now world with took := 1400000 }
      relay := silentPod.forwarder.relay }

/-- One check, after a millisecond. -/
def hastySpec : Poll.Spec Bool := ⟨.ofNanos 1000000, .ofNanos 1000000, true, by decide, by decide⟩

/-- The tunnel opens after 1.9 milliseconds, and the one check begins after three. -/
theorem unevenPod_late :
    let read := readTook unevenPod sealedStorage 0 (Site.fresh ())
    let prepared := Timed.run (prepare .standard unevenPod (.ofMillis 1) sealedStorage) 0
      (Site.fresh ())
    let setupWindow := Clock.window (0 + read) (.ofMillis 1)
    let waitWindow := Clock.window (0 + prepared.took) hastySpec.timeout
    let result := Timed.run (awaitIndex unevenPod (.ofMillis 1) sealedStorage "jaeger-span" hastySpec
      .standard) 0 (Site.fresh ())
    read = 500000 ∧ setupWindow = 1000000 ∧ waitWindow = 1000000 ∧ result.took = 10003000000 ∧
      read + Clock.ceilMilli setupWindow + Clock.ceilMilli waitWindow + 10000000000 <
        result.took := by
  intro read prepared setupWindow waitWindow result
  have hprepared : 0 + prepared.took ≤ 2000000 :=
    add_took_prepare_le .standard unevenPod (.ofMillis 1) sealedStorage 0 (Site.fresh ())
  have hsetup : setupWindow = 1000000 := by decide
  have hwait : waitWindow = 1000000 := by
    have hhorizon : 10000000000 < Clock.horizon := by decide
    exact Clock.window_of_lt (by
      change 0 + prepared.took + 1000000 < Clock.horizon
      omega)
  have htook : result.took = 10003000000 := by decide +kernel
  refine ⟨rfl, hsetup, hwait, htook, ?_⟩
  rw [hsetup, hwait, htook]
  decide

end IndexWatch.Verification
