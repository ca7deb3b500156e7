import IndexWatch.Proofs.Tunnel.Search
import IndexWatch.Proofs.Tunnel.Serving

/-! # Setting up a tunnel

Once a pod is found, a setup listens first and gives the handle out only if there is time left. So it
ends in one of two ways, `SetUp`: with a tunnel that nothing is connected to yet, or with an error and
nothing at work. While it lasts it asks for pods and for nothing else, `exists_follows_establish`. -/

namespace IndexWatch.Tunnel

variable {σ : Type} {forwarder : Forwarder σ} {target : Target} {setupTimeout : Duration}

/-! ## The setup -/

/-- What follows once the tunnel listens: it is kept if the time is not up. -/
def keep (target : Target) (limit : Nat) (handle : Handle) : Attempt (Site σ) Handle := do
  let ready ← ExceptT.lift (Timed.now : Timed (Site σ) Nat)
  if ready < limit then return handle
  else
    ExceptT.lift (drop handle)
    throw (target.setupFailed "Forwarding task did not become ready")

/-- What follows once a pod is found. -/
def openTo (target : Target) (limit : Nat) (pod : String) : Attempt (Site σ) Handle :=
  Attempt.ofTimed (listen target pod) >>= keep target limit

theorem establish_eq : establish forwarder target setupTimeout =
    ExceptT.lift (Timed.now : Timed (Site σ) Nat) >>= fun begun =>
      findPod target setupTimeout (Site.lift (forwarder.lookup target)) >>=
        openTo target (Clock.ceilMilli (Clock.deadline begun setupTimeout)) := rfl

/-- What a setup leaves at a site. -/
inductive SetUp (target : Target) (found : String → Prop) (site : Site σ)
    (left : Outcome (Site σ) (Except Error Handle)) : Prop
  /-- A tunnel is open to a pod that was found, and nothing is connected to it yet. -/
  | opened (handle : Handle) (outside : σ) : left.value = .ok handle → handle.target = target →
    found handle.pod → site.system.Fits handle →
    left.world = { site with system := site.system.serving handle 0, outside } →
    SetUp target found site left
  /-- There is an error, nothing that is still at work, and nothing was connected. -/
  | failed (e : Error) (system : System) (outside : σ) : left.value = .error e →
    left.world = { site with system, outside } → site.system.LeavesNothing system →
    system.connections = site.system.connections → system.calls = site.system.calls →
    SetUp target found site left

variable {found : String → Prop}

/-- What happened outside before is no part of a setup. -/
theorem SetUp.of_outside {site : Site σ} {outside : σ}
    {left : Outcome (Site σ) (Except Error Handle)}
    (H : SetUp target found { site with outside } left) : SetUp target found site left := by
  cases H with
  | opened handle later hvalue htarget hpod hfits hworld =>
    exact .opened handle later hvalue htarget hpod hfits hworld
  | failed e system later hvalue hworld hleft hconnections hcalls =>
    exact .failed e system later hvalue hworld hleft hconnections hcalls

theorem SetUp.after {α : Type} {task : Attempt (Site σ) α} {next : α → Attempt (Site σ) Handle}
    {now : Nat} {start site : Site σ} {first : Outcome (Site σ) (Except Error α)} {a : α}
    (hfirst : Timed.run task now start = first) (hvalue : first.value = .ok a)
    (H : SetUp target found site (Timed.run (next a) (now + first.took) first.world)) :
    SetUp target found site (Timed.run (task >>= next : Attempt (Site σ) Handle) now start) := by
  subst hfirst
  rw [Attempt.run_bind_ok hvalue]
  cases H with
  | opened handle outside hvalue htarget hpod hfits hworld =>
    exact .opened handle outside hvalue htarget hpod hfits hworld
  | failed e system outside hvalue hworld hleft hconnections hcalls =>
    exact .failed e system outside hvalue hworld hleft hconnections hcalls

theorem run_listen_of_none {site : Site σ} (h : site.system.freePort? = none) (pod : String)
    (now : Nat) :
    Timed.run (Attempt.ofTimed (listen target pod)) now site =
      ⟨0, false, site, .error (target.setupFailed
        "Failed to bind local port: Address already in use (os error 98)")⟩ := by
  simp only [Attempt.ofTimed, ExceptT.mk, listen, Timed.run_act, h]

theorem run_listen_of_some {site : Site σ} {handle : Handle}
    (h : site.system.freePort? = some handle.localPort) (H : site.system.Fits handle) (now : Nat) :
    Timed.run (Attempt.ofTimed (listen handle.target handle.pod)) now site =
      ⟨0, false, { site with system := site.system.serving handle 0 }, .ok handle⟩ := by
  simp only [Attempt.ofTimed, ExceptT.mk, listen, Timed.run_act, h, H.step_opens, ← H.index_eq]

theorem run_keep_of_lt {limit now : Nat} (h : now < limit) (handle : Handle) (site : Site σ) :
    Timed.run (keep target limit handle) now site = ⟨0, false, site, .ok handle⟩ := by
  have hready : (Timed.run (ExceptT.lift Timed.now : Attempt (Site σ) Nat) now site).value =
      .ok now := rfl
  rw [keep, Attempt.run_bind_ok hready, if_pos h]
  rfl

theorem run_keep_of_le {limit now : Nat} (h : limit ≤ now) (handle : Handle) (site : Site σ) :
    Timed.run (keep target limit handle) now site =
      ⟨0, false,
        { site with system := site.system.run [.drops handle.index, .halts handle.index] },
        .error (target.setupFailed "Forwarding task did not become ready")⟩ := by
  have hready : (Timed.run (ExceptT.lift Timed.now : Attempt (Site σ) Nat) now site).value =
      .ok now := rfl
  rw [keep, Attempt.run_bind_ok hready, if_neg (Nat.not_lt.mpr h)]
  rfl

theorem setUp_openTo {pod : String} (hpod : found pod) (limit now : Nat) (site : Site σ) :
    SetUp target found site (Timed.run (openTo target limit pod) now site) := by
  cases hport : site.system.freePort? with
  | none =>
    have hlisten : Timed.run (Attempt.ofTimed (listen target pod)) now site = _ :=
      run_listen_of_none hport pod now
    rw [openTo, Attempt.run_bind_error (congrArg Outcome.value hlisten), hlisten]
    exact .failed _ site.system site.outside rfl rfl (.refl _) rfl rfl
  | some port =>
    let handle : Handle := ⟨target, pod, port, site.system.tunnels.length⟩
    have hhandle : site.system.freePort? = some handle.localPort := hport
    have H : site.system.Fits handle := ⟨rfl, System.holdsPort_of_freePort? hport⟩
    have hlisten := run_listen_of_some hhandle H now
    refine SetUp.after hlisten rfl ?_
    change SetUp target found site (Timed.run (keep target limit handle) now _)
    by_cases h : now < limit
    · rw [run_keep_of_lt h]
      exact .opened handle site.outside rfl rfl hpod H rfl
    · rw [run_keep_of_le (Nat.not_lt.mp h), H.run_drops]
      exact .failed _ _ site.outside rfl rfl System.leavesNothing_served rfl rfl

/-- A tunnel that is asked for is open afterwards, to the pod that the search finds, or there is an
error and nothing is left. -/
theorem setUp_establish (now : Nat) (site : Site σ) :
    let search : Attempt (Site σ) String :=
      findPod target setupTimeout (Site.lift (forwarder.lookup target))
    SetUp target (fun pod => (Timed.run search now site).value = .ok pod) site
      (Timed.run (establish forwarder target setupTimeout) now site) := by
  intro search
  let limit := Clock.ceilMilli (Clock.deadline now setupTimeout)
  have hsearch : Site.ActsOutside search.run :=
    actsOutside_findPod (Site.actsOutside_lift (forwarder.lookup target))
  obtain ⟨outside, houtside⟩ := hsearch now site
  have hbegun : Timed.run (ExceptT.lift Timed.now : Attempt (Site σ) Nat) now site =
      ⟨0, false, site, .ok now⟩ := rfl
  rw [establish_eq]
  refine SetUp.after hbegun rfl ?_
  change SetUp target _ site (Timed.run (search >>= openTo target limit : Attempt _ _) now site)
  have hends : (∃ e, (Timed.run search now site).value = .error e) ∨
      ∃ pod, (Timed.run search now site).value = .ok pod := by
    cases (Timed.run search now site).value <;> simp
  rcases hends with ⟨e, herror⟩ | ⟨pod, hpod⟩
  · rw [Attempt.run_bind_error herror]
    exact .failed e site.system outside rfl houtside (.refl _) rfl rfl
  · refine SetUp.after rfl hpod ?_
    rw [show (Timed.run search now site).world = { site with outside } from houtside]
    exact (setUp_openTo hpod limit _ { site with outside }).of_outside

/-! ## What a setup asks -/

section
variable {ε : Type} {P : Nat × ε → Prop} {forwarder' : Forwarder (Recorded ε σ)}
  {entries : Nat → σ → List (Nat × ε)}

theorem follows_openTo (limit : Nat) (pod : String) :
    Recorded.Follows (Site.recorded (ε := ε) (σ := σ)) (openTo target limit pod).run
      (openTo target limit pod).run fun _ _ => [] := by
  have hlisten : Recorded.Follows (Site.recorded (ε := ε) (σ := σ))
      (Attempt.ofTimed (listen target pod)).run (Attempt.ofTimed (listen target pod)).run
      fun _ _ => [] := by
    intro now record site
    simp only [Attempt.run_ofTimed, listen, Timed.run_act, Site.recorded, List.append_nil]
    cases site.system.freePort? <;> rfl
  have hkeep (handle : Handle) : Recorded.Follows (Site.recorded (ε := ε) (σ := σ))
      (keep target limit handle).run (keep target limit handle).run fun _ _ => [] := by
    intro now record site
    change Timed.run (keep target limit handle) now _ =
      (Timed.run (keep target limit handle) now _).mapWorld _
    by_cases h : now < limit
    · rw [run_keep_of_lt h, run_keep_of_lt h, List.append_nil]
      rfl
    · rw [run_keep_of_le (Nat.not_lt.mp h), run_keep_of_le (Nat.not_lt.mp h), List.append_nil]
      rfl
  exact hlisten.attempt_quiet hkeep

/-- A setup asks what its search asks. -/
theorem follows_establish {lookups : Nat → Site σ → List (Nat × ε)}
    (H : Recorded.Follows Site.recorded
      (findPod target setupTimeout (Site.lift (forwarder'.lookup target))).run
      (findPod target setupTimeout (Site.lift (forwarder.lookup target))).run lookups) :
    Recorded.Follows Site.recorded (establish forwarder' target setupTimeout).run
      (establish forwarder target setupTimeout).run lookups := by
  have hbegun : Recorded.Follows (Site.recorded (ε := ε) (σ := σ))
      (ExceptT.lift Timed.now : Attempt _ Nat).run (ExceptT.lift Timed.now : Attempt _ Nat).run
      fun _ _ => [] :=
    Recorded.follows_now.bind_quiet fun _ => Recorded.follows_pure _
  rw [establish_eq, establish_eq]
  exact hbegun.attempt fun begun => H.attempt_quiet fun pod => follows_openTo _ pod

/-- A setup asks what its lookups ask, and nothing else. -/
theorem exists_follows_establish
    (H : Recorded.Follows Recorded.mk (forwarder'.lookup target) (forwarder.lookup target)
      entries) (hentries : ∀ now world, ∀ q ∈ entries now world, P q) (setupTimeout : Duration) :
    ∃ lookups : Nat → Site σ → List (Nat × ε), (∀ now site, ∀ q ∈ lookups now site, P q) ∧
      Recorded.Follows Site.recorded (establish forwarder' target setupTimeout).run
        (establish forwarder target setupTimeout).run lookups := by
  obtain ⟨lookups, hlookups, hsearch⟩ := exists_follows_findPod (Site.follows_lift H)
    fun now site => hentries now site.outside
  exact ⟨lookups, hlookups, follows_establish hsearch⟩

end

end IndexWatch.Tunnel
