import IndexWatch.Proofs.Clock
import IndexWatch.Proofs.Tunnel.Lookups
import IndexWatch.Proofs.Tunnel.Setup

/-! # The setup window

Three limits share the deadline of a setup: the search begins no lookup that would be too late, a lookup
is not awaited any longer than that, and a tunnel that listens is kept only if there is time left. So a
setup is over when the timer of the deadline fires, `start_add_took_establish_le`, and its last lookup
decides how, `Hunt.Comes`. -/

namespace IndexWatch.Tunnel

variable {σ : Type} {forwarder : Forwarder σ} {target : Target} {setupTimeout : Duration}

/-! ## From a pod to a tunnel -/

section
variable {limit now : Nat} {pod : String} {site : Site σ}

theorem run_openTo_of_none (h : site.system.freePort? = none) :
    Timed.run (openTo target limit pod) now site =
      ⟨0, false, site, .error (target.setupFailed
        "Failed to bind local port: Address already in use (os error 98)")⟩ := by
  have hlisten : Timed.run (Attempt.ofTimed (listen target pod)) now site = _ :=
    run_listen_of_none h pod now
  rw [openTo, Attempt.run_bind_error (congrArg Outcome.value hlisten), hlisten]

theorem run_openTo_of_some {port : UInt16} (h : site.system.freePort? = some port) :
    let handle : Handle := ⟨target, pod, port, site.system.tunnels.length⟩
    let opened := Timed.run (openTo target limit pod) now site
    opened.took = 0 ∧
      opened.value = if now < limit then .ok handle
        else .error (target.setupFailed "Forwarding task did not become ready") := by
  intro handle opened
  have H : site.system.Fits handle := ⟨rfl, System.holdsPort_of_freePort? h⟩
  have hport : site.system.freePort? = some handle.localPort := h
  have hlisten := run_listen_of_some hport H now
  have hopened : opened = Timed.run (openTo target limit pod) now site := rfl
  rw [openTo, Attempt.run_bind_ok (congrArg Outcome.value hlisten), hlisten] at hopened
  rw [hopened]
  by_cases hleft : now < limit
  · simp only [Nat.add_zero, run_keep_of_lt hleft, if_pos hleft, and_self]
  · simp only [Nat.add_zero, run_keep_of_le (Nat.not_lt.mp hleft), if_neg hleft, and_self]

end

/-! ## How the last lookup decides -/

section
variable (forwarder : Forwarder σ) (target : Target) (setupTimeout : Duration) (start : Nat)
  (site : Site σ)

/-- The search that a setup makes. -/
def Forwarder.hunt : Hunt (Site σ) :=
  ⟨setupTimeout, Site.lift (forwarder.lookup target), start, site⟩

/-- What that search leaves. -/
def Forwarder.searched : Outcome (Site σ) (Except Error String) :=
  Timed.run (findPod target setupTimeout (Site.lift (forwarder.lookup target))) start site

/-- What the setup leaves. -/
def Forwarder.opened : Outcome (Site σ) (Except Error Handle) :=
  Timed.run (establish forwarder target setupTimeout) start site

end

/-- What a setup comes to, and when, if the lookup that `n` lookups come before is its last one. -/
inductive Hunt.Comes (hunt : Hunt (Site σ)) (target : Target) (n : Nat) :
    Nat → Except Error Handle → Prop
  /-- A pod is found before the timer of the deadline fires. -/
  | opened {pod port} : hunt.Answers n (.ok (some pod)) → hunt.ended n < hunt.strikes →
      hunt.world.system.freePort? = some port →
      Comes hunt target n (hunt.ended n)
        (.ok ⟨target, pod, port, hunt.world.system.tunnels.length⟩)
  /-- A pod is found, and there is no port to listen on. -/
  | unbound {pod} : hunt.Answers n (.ok (some pod)) → hunt.world.system.freePort? = none →
      Comes hunt target n (hunt.ended n) (.error (target.setupFailed
        "Failed to bind local port: Address already in use (os error 98)"))
  /-- A pod is found when the timer fires. -/
  | late {pod port} : hunt.Answers n (.ok (some pod)) → hunt.ended n = hunt.strikes →
      hunt.world.system.freePort? = some port →
      Comes hunt target n hunt.strikes
        (.error (target.setupFailed "Forwarding task did not become ready"))
  /-- The lookup fails. -/
  | failed {e} : hunt.Answers n (.error e) → Comes hunt target n (hunt.ended n) (.error e)
  /-- Nothing is found, and another lookup would be too late. -/
  | exhausted : hunt.Answers n (.ok none) →
      hunt.deadline < hunt.ended n + lookupInterval.nanos →
      Comes hunt target n (hunt.ended n)
        (.error (target.noPodWithin (.ofNanos (hunt.ended n - hunt.start))))
  /-- The lookup is not answered in time. -/
  | cut : (∀ answer, ¬ hunt.Answers n answer) →
      Comes hunt target n hunt.strikes (.error (target.noPodWithin hunt.setupTimeout))

/-- A tunnel is opened exactly where a pod is found in time and there is a port for it. -/
theorem Hunt.Comes.eq_ok_iff {hunt : Hunt (Site σ)} {n finished : Nat}
    {value : Except Error Handle} (H : hunt.Comes target n finished value) {handle : Handle} :
    value = .ok handle ↔ ∃ pod port, hunt.Answers n (.ok (some pod)) ∧
      hunt.ended n < hunt.strikes ∧ hunt.world.system.freePort? = some port ∧
      handle = ⟨target, pod, port, hunt.world.system.tunnels.length⟩ := by
  cases H with
  | @opened pod port h hlt hport =>
    constructor
    · rintro ⟨⟩
      exact ⟨pod, port, h, hlt, hport, rfl⟩
    · rintro ⟨pod', port', h', _, hport', rfl⟩
      cases h.unique h'
      cases hport.symm.trans hport'
      rfl
  | unbound _ hnone =>
    refine iff_of_false (fun h => nomatch h) ?_
    rintro ⟨_, _, _, _, hport, _⟩
    exact nomatch hnone.symm.trans hport
  | late _ heq =>
    refine iff_of_false (fun h => nomatch h) ?_
    rintro ⟨_, _, _, hlt, _⟩
    exact Nat.ne_of_lt hlt heq
  | failed h | exhausted h =>
    refine iff_of_false (fun h => nomatch h) ?_
    rintro ⟨_, _, h', _⟩
    exact nomatch h.unique h'
  | cut hcut =>
    refine iff_of_false (fun h => nomatch h) ?_
    rintro ⟨_, _, h', _⟩
    exact hcut _ h'

section
variable {start : Nat} {site : Site σ}

/-- A setup is its search, and what follows where that finds a pod. -/
private theorem opened_eq {rest : Outcome (Site σ) (Except Error Handle)}
    (h : Timed.run (findPod target setupTimeout (Site.lift (forwarder.lookup target)) >>=
      openTo target (Clock.ceilMilli (Clock.deadline start setupTimeout)) :
        Attempt (Site σ) Handle) start site = rest) :
    (forwarder.opened target setupTimeout start site).took = rest.took ∧
      (forwarder.opened target setupTimeout start site).value = rest.value := by
  have hbegun : Timed.run (ExceptT.lift Timed.now : Attempt (Site σ) Nat) start site =
      ⟨0, false, site, .ok start⟩ := rfl
  rw [Forwarder.opened, establish_eq, Attempt.run_bind_ok (congrArg Outcome.value hbegun), hbegun, ← h]
  exact ⟨Nat.zero_add _, rfl⟩

theorem opened_of_error {e : Error}
    (h : (forwarder.searched target setupTimeout start site).value = .error e) :
    let searched := forwarder.searched target setupTimeout start site
    let opened := forwarder.opened target setupTimeout start site
    opened.took = searched.took ∧ opened.value = .error e :=
  opened_eq (Attempt.run_bind_error h)

theorem opened_of_found {pod : String}
    (h : (forwarder.searched target setupTimeout start site).value = .ok pod) :
    let searched := forwarder.searched target setupTimeout start site
    let opened := forwarder.opened target setupTimeout start site
    let listening := Timed.run
      (openTo target (Clock.ceilMilli (Clock.deadline start setupTimeout)) pod)
      (start + searched.took) searched.world
    opened.took = searched.took + listening.took ∧ opened.value = listening.value := by
  have hopened := opened_eq (Attempt.run_bind_ok h)
  dsimp only at hopened
  exact hopened

/-- The search of a setup leaves this machine as it is. -/
theorem system_searched :
    (forwarder.searched target setupTimeout start site).world.system = site.system := by
  have H : Site.ActsOutside
      (findPod target setupTimeout (Site.lift (forwarder.lookup target)) : Attempt _ _).run :=
    actsOutside_findPod (Site.actsOutside_lift (forwarder.lookup target))
  obtain ⟨outside, houtside⟩ := H start site
  have hworld : (forwarder.searched target setupTimeout start site).world =
      { site with outside } := houtside
  rw [hworld]

variable {n : Nat} {ending : SearchEnd} {finished : Nat}

theorem searched_of_ends (H : (forwarder.hunt target setupTimeout start site).Reaches n)
    (h : (forwarder.hunt target setupTimeout start site).Ends n ending finished) :
    ∃ (lookups : List Asked) (world : Site σ),
      forwarder.searched target setupTimeout start site = ⟨finished - start, false, world,
        Search.result ⟨lookups, ending, finished, world⟩ target setupTimeout start⟩ := by
  obtain ⟨world, hsearch⟩ := Hunt.search_of_ends H h
  exact ⟨_, world, congrArg (Search.outcome target setupTimeout start) hsearch⟩

/-- A pod that is found leads to a tunnel where there is a port for it and time left. -/
private theorem comes_of_found {pod : String}
    (hanswers : (forwarder.hunt target setupTimeout start site).Answers n (.ok (some pod)))
    (htook : start + (forwarder.searched target setupTimeout start site).took =
      (forwarder.hunt target setupTimeout start site).ended n)
    (hvalue : (forwarder.searched target setupTimeout start site).value = .ok pod) :
    let hunt := forwarder.hunt target setupTimeout start site
    let opened := forwarder.opened target setupTimeout start site
    start + opened.took = hunt.ended n ∧ hunt.Comes target n (hunt.ended n) opened.value := by
  intro hunt opened
  obtain ⟨hopened, hkept⟩ := opened_of_found hvalue
  have hsystem : (forwarder.searched target setupTimeout start site).world.system = site.system :=
    system_searched
  rw [htook] at hopened hkept
  cases hport : site.system.freePort? with
  | none =>
    rw [run_openTo_of_none (hsystem ▸ hport), Nat.add_zero] at hopened
    rw [run_openTo_of_none (hsystem ▸ hport)] at hkept
    refine ⟨by rw [hopened]; exact htook, ?_⟩
    rw [hkept]
    exact .unbound hanswers hport
  | some port =>
    obtain ⟨hinstant, hlistening⟩ := run_openTo_of_some (hsystem ▸ hport)
    rw [hinstant, Nat.add_zero] at hopened
    refine ⟨by rw [hopened]; exact htook, ?_⟩
    rw [hkept, hlistening, hsystem]
    split
    next hleft => exact .opened hanswers hleft hport
    next hleft =>
      have hlate := Nat.le_antisymm hanswers.ended_le_strikes (Nat.not_lt.mp hleft)
      exact hlate ▸ .late hanswers hlate hport

/-- The lookup that ends the search of a setup decides what the setup comes to. -/
theorem comes_of_ends (H : (forwarder.hunt target setupTimeout start site).Reaches n)
    (h : (forwarder.hunt target setupTimeout start site).Ends n ending finished) :
    let opened := forwarder.opened target setupTimeout start site
    start + opened.took = finished ∧
      (forwarder.hunt target setupTimeout start site).Comes target n finished opened.value := by
  intro opened
  obtain ⟨lookups, world, hsearched⟩ := searched_of_ends H h
  have htook : start + (forwarder.searched target setupTimeout start site).took = finished := by
    rw [hsearched]
    exact Nat.add_sub_cancel' h.start_le
  have hvalue := congrArg Outcome.value hsearched
  have hfails {e : Error}
      (herror : (forwarder.searched target setupTimeout start site).value = .error e) :
      start + opened.took = finished ∧ opened.value = .error e := by
    obtain ⟨hopened, hopenedValue⟩ := opened_of_error herror
    exact ⟨by rw [hopened]; exact htook, hopenedValue⟩
  cases h with
  | found hanswers => exact comes_of_found hanswers htook hvalue
  | failed hanswers =>
    obtain ⟨hfinished, hopened⟩ := hfails hvalue
    exact ⟨hfinished, hopened ▸ .failed hanswers⟩
  | exhausted hanswers hlate =>
    obtain ⟨hfinished, hopened⟩ := hfails hvalue
    exact ⟨hfinished, hopened ▸ .exhausted hanswers hlate⟩
  | cut hcut =>
    obtain ⟨hfinished, hopened⟩ := hfails hvalue
    exact ⟨hfinished, hopened ▸ .cut hcut⟩

/-- A setup ends, with one of its lookups. -/
theorem exists_comes (forwarder : Forwarder σ) (target : Target) (setupTimeout : Duration)
    (start : Nat) (site : Site σ) :
    let hunt := forwarder.hunt target setupTimeout start site
    let opened := Timed.run (establish forwarder target setupTimeout) start site
    ∃ n, hunt.Reaches n ∧
      (search hunt.deadline hunt.lookup start site).lookups = hunt.lookups (n + 1) ∧
      start + opened.took ≤ hunt.strikes ∧
      hunt.Comes target n (start + opened.took) opened.value := by
  intro hunt opened
  obtain ⟨n, ending, finished, H, hends⟩ := hunt.exists_ends
  obtain ⟨world, hsearch⟩ := Hunt.search_of_ends H hends
  obtain ⟨hfinished, hcomes⟩ := comes_of_ends H hends
  have hlookups : (search hunt.deadline hunt.lookup start site).lookups = hunt.lookups (n + 1) :=
    congrArg Search.lookups hsearch
  refine ⟨n, H, hlookups, ?_, ?_⟩
  · rw [show start + opened.took = finished from hfinished]
    exact hends.le_strikes
  · rw [show start + opened.took = finished from hfinished]
    exact hcomes

/-- A setup takes no longer than until the timer of its deadline fires. -/
theorem start_add_took_establish_le (forwarder : Forwarder σ) (target : Target)
    (setupTimeout : Duration) (start : Nat) (site : Site σ) :
    start + (Timed.run (establish forwarder target setupTimeout) start site).took ≤
      Clock.ceilMilli (start + Clock.window start setupTimeout) := by
  obtain ⟨_, _, _, hle, _⟩ := exists_comes forwarder target setupTimeout start site
  rw [← Clock.deadline_eq_add_window]
  exact hle

end

/-! ## Whole milliseconds -/

namespace Hunt

variable {hunt : Hunt σ} {n : Nat}

/-- The lookup finds nothing, and takes no time. -/
def Idle (hunt : Hunt σ) (n : Nat) : Prop :=
  (hunt.outcome n).value = .given (.ok none) ∧ (hunt.outcome n).took = 0

section
variable (hstart : 1000000 ∣ hunt.start)
include hstart

theorem dvd_begun (n : Nat) : 1000000 ∣ hunt.begun n := by
  cases n with
  | zero => exact hstart
  | succ n => exact Clock.ceilMilli_dvd _

/-- A lookup that takes whole milliseconds is followed by another one just half a second later. -/
theorem begun_succ_of_dvd (h : 1000000 ∣ (hunt.outcome n).took) :
    hunt.begun (n + 1) = hunt.ended n + lookupInterval.nanos := by
  rw [begun_succ]
  refine Clock.ceilMilli_eq_self (Nat.dvd_add (Nat.dvd_add (dvd_begun hstart n) h) ?_)
  decide

theorem begun_of_idle (h : ∀ i < n, hunt.Idle i) :
    hunt.begun n = hunt.start + n * lookupInterval.nanos := by
  induction n with
  | zero => rw [Nat.zero_mul, Nat.add_zero]; rfl
  | succ n ih =>
    have hidle := (h n (Nat.lt_succ_self n)).2
    rw [begun_succ_of_dvd hstart (hidle ▸ Nat.dvd_zero _), ended, hidle, Nat.add_zero,
      ih fun i hi => h i (Nat.lt_succ_of_lt hi), Nat.succ_mul, Nat.add_assoc]

end

end Hunt

variable {n finished : Nat} {hunt : Hunt (Site σ)} {value : Except Error Handle}

/-- A setup whose lookups find nothing in no time makes one at its start, and one for each half second
of its window; it fails with the last of them. -/
theorem Hunt.Comes.of_idle (hstart : 1000000 ∣ hunt.start) (H : hunt.Reaches n)
    (hcomes : hunt.Comes target n finished value) (hidle : ∀ i ≤ n, hunt.Idle i) :
    let window := Clock.window hunt.start hunt.setupTimeout
    n = window / lookupInterval.nanos ∧
      finished = hunt.start + window / lookupInterval.nanos * lookupInterval.nanos ∧
      ∃ reason, value = .error (target.setupFailed reason) := by
  intro window
  have hdeadline : hunt.deadline = hunt.start + window := Clock.deadline_eq_add_window ..
  have hbegun (i : Nat) (hi : i ≤ n) :
      hunt.ended i = hunt.start + i * lookupInterval.nanos := by
    rw [ended, (hidle i hi).2, Nat.add_zero, begun_of_idle hstart fun j hj =>
      hidle j (Nat.le_trans (Nat.le_of_lt hj) hi)]
  have hended := hbegun n (Nat.le_refl n)
  have hfits : n * lookupInterval.nanos ≤ window := by
    cases n with
    | zero => omega
    | succ n =>
      have hleft := (reaches_succ.mp H).2.2
      rw [hbegun n (Nat.le_succ n), hdeadline] at hleft
      rw [Nat.succ_mul]
      omega
  have hanswer := (hidle n (Nat.le_refl n)).1
  have hcount (hfull : window < n * lookupInterval.nanos + lookupInterval.nanos) :
      n = window / lookupInterval.nanos := by
    rw [lookupInterval_nanos] at hfits hfull ⊢
    omega
  cases hcomes with
  | opened h | unbound h | late h | failed h => exact nomatch hanswer.symm.trans h.1
  | exhausted _ hlate =>
    have hn := hcount (by omega)
    exact ⟨hn, hn ▸ hended, _, rfl⟩
  | cut hcut =>
    -- The last lookup needs the network when the timer fires: it is cut off at once, so the setup is
    -- over when it would have been anyway.
    have hlate : hunt.strikes ≤ hunt.ended n := Nat.le_of_not_lt fun hlt =>
      hcut (.ok none) ⟨hanswer, .inl hlt⟩
    have hstrikes : hunt.strikes = hunt.ended n := by
      refine Nat.le_antisymm hlate ?_
      rw [ended, (hidle n (Nat.le_refl n)).2]
      exact H.begun_le_strikes
    have hdue : hunt.deadline ≤ hunt.strikes := Clock.le_ceilMilli _
    have hinterval := lookupInterval_nanos
    have hn := hcount (by omega)
    exact ⟨hn, by rw [hstrikes, ← hn]; exact hended, _, rfl⟩

/-! ## The whole setup -/

theorem leavesNothing_of_error {start : Nat} {site : Site σ} {e : Error}
    (h : (Timed.run (establish forwarder target setupTimeout) start site).value = .error e) :
    let left := (Timed.run (establish forwarder target setupTimeout) start site).world.system
    site.system.LeavesNothing left ∧ left.connections = site.system.connections ∧
      left.calls = site.system.calls := by
  have H : SetUp target _ site (Timed.run (establish forwarder target setupTimeout) start site) :=
    setUp_establish start site
  cases H with
  | opened handle outside hvalue => exact nomatch h.symm.trans hvalue
  | failed e system outside hvalue hworld hleft hconnections hcalls =>
    rw [hworld]
    exact ⟨hleft, hconnections, hcalls⟩

/-- **What a setup does within its window.** Its lookups are made one after the other, each but the
first half a second after the end of one that found nothing, rounded up to a whole millisecond, and
only where the half second still ends within the window. The last lookup decides what the setup comes
to, and the setup is over when the timer of the deadline fires. Lookups that find nothing in no time
are as many as half seconds in the window, and one more. A setup that fails leaves nothing. -/
theorem establish_within_window (forwarder : Forwarder σ) (target : Target) (setupTimeout : Duration)
    {start : Nat} (hstart : 1000000 ∣ start) (site : Site σ) :
    let hunt := forwarder.hunt target setupTimeout start site
    let window := Clock.window start setupTimeout
    let opened := Timed.run (establish forwarder target setupTimeout) start site
    (hunt.deadline = start + window ∧ start + opened.took ≤ Clock.ceilMilli (start + window)) ∧
    (∃ n, (search hunt.deadline hunt.lookup start site).lookups = hunt.lookups (n + 1) ∧
      hunt.begun 0 = start ∧
      (∀ i < n, hunt.Fruitless i ∧
        hunt.begun (i + 1) = Clock.ceilMilli (hunt.ended i + lookupInterval.nanos) ∧
        (1000000 ∣ (hunt.outcome i).took →
          hunt.begun (i + 1) = hunt.ended i + lookupInterval.nanos ∧
            hunt.begun (i + 1) ≤ hunt.deadline)) ∧
      hunt.Comes target n (start + opened.took) opened.value ∧
      ((∀ i ≤ n, hunt.Idle i) → n = window / lookupInterval.nanos ∧
        opened.took = window / lookupInterval.nanos * lookupInterval.nanos ∧
        ∃ reason, opened.value = .error (target.setupFailed reason))) ∧
    ∀ e, opened.value = .error e →
      site.system.LeavesNothing opened.world.system ∧
        opened.world.system.connections = site.system.connections ∧
        opened.world.system.calls = site.system.calls := by
  intro hunt window opened
  obtain ⟨n, H, hlookups, hle, hcomes⟩ := exists_comes forwarder target setupTimeout start site
  have hdeadline : hunt.deadline = start + window := Clock.deadline_eq_add_window ..
  refine ⟨⟨hdeadline, start_add_took_establish_le ..⟩, ⟨n, hlookups, rfl, ?_, hcomes, ?_⟩,
    fun e => leavesNothing_of_error⟩
  · intro i hi
    refine ⟨H i hi, rfl, fun hwhole => ?_⟩
    have hbegun : hunt.begun (i + 1) = _ := Hunt.begun_succ_of_dvd hstart hwhole
    exact ⟨hbegun, hbegun ▸ (H i hi).2⟩
  · intro hidle
    obtain ⟨hn, hfinished, hreason⟩ := hcomes.of_idle hstart H hidle
    exact ⟨hn, Nat.add_left_cancel hfinished, hreason⟩

/-- A forwarder whose lookups all take the same time and come to the same. -/
def Forwarder.steady (took : Nat) (answer : Except Error (Option String)) : Forwarder Unit where
  lookup _ := fun _ _ => ⟨took, false, (), .given answer⟩
  relay _ _ _ := (pure .never : Timed Unit (Timed.Answer (Peer Unit)))

def elasticsearch : Target := ⟨"storage", "elasticsearch", "elasticsearch", 9200⟩

/-- Where no pod ever runs, a window of 1.2 seconds has room for three lookups, the last one after a
second. -/
theorem establish_of_no_pod :
    let forwarder := Forwarder.steady 0 (.ok none)
    let hunt := forwarder.hunt elasticsearch (.ofMillis 1200) 0 (.fresh ())
    let opened := Timed.run (establish forwarder elasticsearch (.ofMillis 1200)) 0 (.fresh ())
    (search hunt.deadline hunt.lookup 0 (.fresh ())).lookups.length = 3 ∧
      opened.took = 1000000000 ∧
      ∃ reason, opened.value = .error (elasticsearch.setupFailed reason) := by
  intro forwarder hunt opened
  obtain ⟨_, ⟨n, hlookups, _, _, _, hidle⟩, _⟩ :=
    establish_within_window forwarder elasticsearch (.ofMillis 1200) (Nat.dvd_zero 1000000)
      (.fresh ())
  obtain ⟨hn, htook, hreason⟩ := hidle fun _ _ => ⟨rfl, rfl⟩
  have hcount : Clock.window 0 (.ofMillis 1200) / lookupInterval.nanos = 2 := by decide
  rw [hcount] at hn htook
  refine ⟨?_, htook, hreason⟩
  rw [hlookups, Hunt.length_lookups, hn]

/-- A lookup that fails just when the timer of the deadline fires is not cut off: its own error is what
the setup comes to. -/
theorem establish_of_failure_on_time :
    let refusal := Error.invalidConfig "no such cluster"
    let forwarder := Forwarder.steady 1000000000 (.error refusal)
    let hunt := forwarder.hunt elasticsearch (.ofSeconds 1) 0 (.fresh ())
    let opened := Timed.run (establish forwarder elasticsearch (.ofSeconds 1)) 0 (.fresh ())
    hunt.ended 0 = hunt.strikes ∧ opened.took = 1000000000 ∧ opened.value = .error refusal ∧
      ∀ reason, opened.value ≠ .error (elasticsearch.setupFailed reason) := by
  intro refusal forwarder hunt opened
  have hstrikes : hunt.ended 0 = hunt.strikes := by decide
  have hends : hunt.Ends 0 (.failed refusal) (hunt.ended 0) :=
    .failed ⟨rfl, .inr ⟨hstrikes, rfl⟩⟩
  obtain ⟨lookups, left, hsearched⟩ := searched_of_ends Hunt.reaches_zero hends
  obtain ⟨htook, hopened⟩ := opened_of_error (congrArg Outcome.value hsearched)
  have hended : hunt.ended 0 - 0 = 1000000000 := by decide
  rw [hsearched] at htook
  replace htook : opened.took = 1000000000 := Eq.trans htook hended
  refine ⟨hstrikes, htook, hopened, fun reason h => ?_⟩
  have hrefusal : refusal = elasticsearch.setupFailed reason :=
    Except.error.inj (hopened.symm.trans h)
  simp [refusal, Target.setupFailed] at hrefusal

end IndexWatch.Tunnel
