import IndexWatch.Cluster.Access
import IndexWatch.Proofs.Cluster.Request
import IndexWatch.Proofs.Tunnel.Window
import IndexWatch.Proofs.Workload.Completion

/-! # The pod that a tunnel leads to

A setup through the API of a cluster asks for lists of pods, one after the other. A pod that runs and
has a name is `Eligible`, and a lookup takes the first one of its list, `firstRunning?_eq_some_iff`. As
long as the lists hold none and there is time, the setup `Awaits` one: this is how far its search goes
on, `awaits_iff`. From where the search ends, `Opening.resolves` says what the setup makes of the lists
and what it asks for them. -/

namespace IndexWatch.Cluster

open Tunnel

/-! ## One list of pods -/

/-- The pod runs, and has a name. One without a status has no phase. -/
def Pod.Eligible (pod : Pod) : Prop := pod.phase = some "Running" ∧ ∃ name, pod.name = some name

section
variable {pod : Pod} {pods : List Pod}

theorem firstRunning?_cons_of_eligible (h : pod.Eligible) :
    firstRunning? (pod :: pods) = pod.name := by
  obtain ⟨hphase, name, hname⟩ := h
  simp [firstRunning?, hphase, hname]

theorem firstRunning?_cons_of_not (h : ¬ pod.Eligible) :
    firstRunning? (pod :: pods) = firstRunning? pods := by
  by_cases hphase : pod.phase = some "Running"
  · have hname : pod.name = none :=
      Option.eq_none_iff_forall_not_mem.mpr fun name hname => h ⟨hphase, name, hname⟩
    simp [firstRunning?, hphase, hname]
  · simp [firstRunning?, hphase]

theorem firstRunning?_append {before : List Pod} (h : ∀ pod ∈ before, ¬ pod.Eligible) :
    firstRunning? (before ++ pods) = firstRunning? pods := by
  induction before with
  | nil => rfl
  | cons pod before ih =>
    rw [List.forall_mem_cons] at h
    rw [List.cons_append, firstRunning?_cons_of_not h.1, ih h.2]

theorem firstRunning?_of_first (h : FirstWith Pod.Eligible pods pod) :
    firstRunning? pods = pod.name := by
  cases h with
  | intro hbefore hpod => rw [firstRunning?_append hbefore, firstRunning?_cons_of_eligible hpod]

theorem firstRunning?_eq_none_iff :
    firstRunning? pods = none ↔ ∀ pod ∈ pods, ¬ pod.Eligible := by
  constructor
  · intro hnone pod hmem hpod
    obtain ⟨first, hfirst⟩ := exists_firstWith ⟨pod, hmem, hpod⟩
    obtain ⟨_, name, hname⟩ := hfirst.holds
    rw [firstRunning?_of_first hfirst, hname] at hnone
    contradiction
  · intro h
    have hend : firstRunning? (pods ++ []) = firstRunning? [] := firstRunning?_append h
    rw [List.append_nil] at hend
    exact hend

/-- The pod that is looked up is the first eligible one. -/
theorem firstRunning?_eq_some_iff {name : String} :
    firstRunning? pods = some name ↔
      ∃ pod, FirstWith Pod.Eligible pods pod ∧ pod.name = some name := by
  constructor
  · intro hsome
    have hany : ∃ pod ∈ pods, pod.Eligible := by
      apply Classical.byContradiction
      intro hno
      have hnone := firstRunning?_eq_none_iff.mpr fun pod hmem hpod => hno ⟨pod, hmem, hpod⟩
      rw [hnone] at hsome
      contradiction
    obtain ⟨pod, hfirst⟩ := exists_firstWith hany
    exact ⟨pod, hfirst, (firstRunning?_of_first hfirst).symm.trans hsome⟩
  · rintro ⟨pod, hfirst, hname⟩
    rw [firstRunning?_of_first hfirst, hname]

end

/-- Pods that do not run yet or any more, that have no status or no name are passed over. -/
example : firstRunning? [⟨some "pending", some "Pending"⟩, ⟨some "done", some "Succeeded"⟩,
    ⟨some "new", none⟩, ⟨none, some "Running"⟩, ⟨some "es-0", some "Running"⟩,
    ⟨some "es-1", some "Running"⟩] = some "es-0" := by
  decide

/-! ## The lists of a setup -/

/-- A tunnel that is to be opened through the API of a cluster. -/
structure Opening (σ : Type) where
  api : Api σ
  relay : String → String → UInt16 → Line σ
  target : Tunnel.Target
  setupTimeout : Duration
  start : Nat
  site : Site σ

namespace Opening

variable {σ : Type}

section
variable (opening : Opening σ)

/-- The request for the pods behind the target. -/
def request : Except RequestFault String :=
  listTarget .pods opening.target.ns (some opening.target.labelSelector)

/-- Asks for those pods. -/
def ask : Timed σ (Except Failure (List Pod)) :=
  opening.api.list .pods opening.target.ns (some opening.target.labelSelector) Pod.decode

/-- The search that the setup makes. -/
def hunt : Hunt (Site σ) :=
  (forwarder opening.api opening.relay).hunt opening.target opening.setupTimeout opening.start
    opening.site

/-- What the API answers the lookup that `n` lookups come before. -/
def listing (n : Nat) : Except Failure (List Pod) :=
  (opening.ask.run (opening.hunt.begun n) (opening.hunt.worldAt n).outside).value

/-- What the setup leaves. -/
def opened : Outcome (Site σ) (Except Error Handle) :=
  Timed.run (establish (forwarder opening.api opening.relay) opening.target opening.setupTimeout)
    opening.start opening.site

/-- The lookups that the setup makes. -/
def lookups : List Asked :=
  (search opening.hunt.deadline opening.hunt.lookup opening.start opening.site).lookups

/-- The answer comes before the timer of the deadline fires; a request that cannot be made is answered
at once. -/
def InTime (n : Nat) : Prop :=
  (∃ fault, opening.request = .error fault) ∨ opening.hunt.ended n < opening.hunt.strikes

/-- The first `n` lists hold no eligible pod, and each of them leaves time for another lookup. -/
def Awaits (n : Nat) : Prop :=
  ∀ i < n, (∃ pods, opening.listing i = .ok pods ∧ ∀ pod ∈ pods, ¬ pod.Eligible) ∧
    opening.hunt.ended i + lookupInterval.nanos ≤ opening.hunt.deadline

/-- The setup fails at an instant, and the lookup that `n` lookups come before was its last one. -/
structure Fails (n finished : Nat) (e : Error) : Prop where
  value : opening.opened.value = .error e
  finished : opening.start + opening.opened.took = finished
  lookups : opening.lookups = opening.hunt.lookups (n + 1)

/-- What a lookup asks that begins at `now`: nothing where the timer of the deadline fires just then. -/
def asked (now : Nat) : List (Nat × String) :=
  if now < opening.hunt.strikes then sends opening.request now else []

/-- What a setup makes of the lists of pods that the API gives out. -/
structure Resolves : Prop where
  /-- The setup goes on just as long as it awaits a pod. -/
  made : ∃ n, opening.Awaits n ∧ ¬ opening.Awaits (n + 1) ∧
    opening.lookups = opening.hunt.lookups (n + 1)
  /-- The tunnel leads to the first eligible pod of the first list with such a pod. -/
  opened_iff : ∀ handle, opening.opened.value = .ok handle ↔
    ∃ n pods pod name port, opening.Awaits n ∧ opening.listing n = .ok pods ∧
      opening.hunt.ended n < opening.hunt.strikes ∧ FirstWith Pod.Eligible pods pod ∧
      pod.name = some name ∧ opening.site.system.freePort? = some port ∧
      handle = ⟨opening.target, name, port, opening.site.system.tunnels.length⟩
  /-- A list without an eligible pod is followed by another lookup half a second later, within the
  window. -/
  retried : ∀ n pods, opening.Awaits n → opening.listing n = .ok pods →
    (∀ pod ∈ pods, ¬ pod.Eligible) →
    opening.hunt.ended n + lookupInterval.nanos ≤ opening.hunt.deadline →
    ∃ lookup ∈ opening.lookups,
      lookup.begun = Clock.ceilMilli (opening.hunt.ended n + lookupInterval.nanos)
  /-- Where there is no time for another lookup, there is no pod. -/
  exhausted : ∀ n pods, opening.Awaits n → opening.listing n = .ok pods →
    (∀ pod ∈ pods, ¬ pod.Eligible) → opening.hunt.ended n < opening.hunt.strikes →
    opening.hunt.deadline < opening.hunt.ended n + lookupInterval.nanos →
    opening.Fails n (opening.hunt.ended n)
      (opening.target.noPodWithin (.ofNanos (opening.hunt.ended n - opening.start)))
  /-- The first call that fails ends the setup at once; no lookup follows. -/
  failed : ∀ n failure, opening.Awaits n → opening.listing n = .error failure → opening.InTime n →
    opening.Fails n (opening.hunt.ended n)
      (opening.target.setupFailed ("Kubernetes API error: " ++ failure.message))
  /-- No answer is waited for any longer than until the timer fires. -/
  late : ∀ n, opening.Awaits n → ¬ opening.InTime n →
    opening.Fails n opening.hunt.strikes (opening.target.noPodWithin opening.setupTimeout)
  /-- Each lookup sends the request for the pods behind the target, and nothing else is sent. -/
  asks : ∀ relay record,
    Timed.run (establish (forwarder opening.api.recorded relay) opening.target opening.setupTimeout)
        opening.start (opening.site.recorded record) =
      opening.opened.mapWorld
        (Site.recorded (record ++ Tunnel.asks opening.asked opening.lookups))
  /-- The name of a namespace can stand in a path. So the request can be made, and a server reads it as
  one for the pods of that namespace with the label of the target. -/
  requested : (∀ c ∈ opening.target.ns.toList, isPathChar c = true) →
    ∃ request, opening.request = .ok request ∧
      AsksFor request .pods opening.target.ns ("app=" ++ opening.target.selector)

end

variable {opening : Opening σ} {n : Nat}

/-! ## One lookup -/

/-- What a lookup makes of a list. -/
def answerOf (target : Tunnel.Target) : Except Failure (List Pod) → Except Error (Option String)
  | .ok pods => .ok (firstRunning? pods)
  | .error failure => .error (target.setupFailed ("Kubernetes API error: " ++ failure.message))

/-- A lookup asks for the list and looks for a pod in it. -/
theorem lookup_eq (api : Api σ) (relay : String → String → UInt16 → Line σ)
    (target : Tunnel.Target) :
    (forwarder api relay).lookup target =
      api.list .pods target.ns (some target.labelSelector) Pod.decode >>= fun listed =>
        pure (.given (answerOf target listed)) := by
  change ((api.list _ _ _ _ >>= _) >>= fun answer => pure (Timed.Answer.given answer)) = _
  rw [bind_assoc]
  refine congrArg (api.list _ _ _ _ >>= ·) (funext fun listed => ?_)
  cases listed <;> rfl

theorem run_lookup (opening : Opening σ) (now : Nat) (world : σ) :
    Timed.run ((forwarder opening.api opening.relay).lookup opening.target) now world =
      let asked := opening.ask.run now world
      ⟨asked.took, asked.traffic, asked.world, .given (answerOf opening.target asked.value)⟩ := by
  rw [lookup_eq]
  simp only [Timed.run_bind, Timed.run_pure, Nat.add_zero, Bool.false_or, beq_self_eq_true,
    Bool.true_and]
  rfl

theorem outcome_eq (opening : Opening σ) (n : Nat) :
    opening.hunt.outcome n =
      let asked := opening.ask.run (opening.hunt.begun n) (opening.hunt.worldAt n).outside
      ⟨asked.took, asked.traffic, { opening.hunt.worldAt n with outside := asked.world },
        .given (answerOf opening.target (opening.listing n))⟩ := by
  change Timed.run (Site.lift ((forwarder opening.api opening.relay).lookup opening.target)) _ _ = _
  rw [Site.run_lift, run_lookup]
  rfl

/-- A request that cannot be made takes no time. -/
theorem run_ask_of_fault {fault : RequestFault} (h : opening.request = .error fault) (now : Nat)
    (world : σ) : opening.ask.run now world = ⟨0, false, world, .error (.badRequest fault)⟩ := by
  rw [ask, Api.list, ← request, h]
  rfl

/-- One that can be made needs the network until its answer is there. -/
theorem traffic_ask_of_ok {text : String} (h : opening.request = .ok text) (now : Nat)
    (world : σ) : (opening.ask.run now world).traffic = true := by
  rw [ask, Api.list, ← request, h]
  rfl

/-- What a lookup that is made comes to in time is what it makes of the list. -/
theorem answers_iff (H : opening.hunt.Reaches n) {answer : Except Error (Option String)} :
    opening.hunt.Answers n answer ↔
      answerOf opening.target (opening.listing n) = answer ∧ opening.InTime n := by
  have hvalue : (opening.hunt.outcome n).value = .given answer ↔
      answerOf opening.target (opening.listing n) = answer := by
    rw [outcome_eq, Timed.Answer.given.injEq]
  have hintime : (opening.hunt.outcome n).InTime (opening.hunt.begun n) opening.hunt.strikes ↔
      opening.InTime n := by
    cases hrequest : opening.request with
    | error fault =>
      have hinstant : opening.hunt.begun n + (opening.hunt.outcome n).took = opening.hunt.begun n := by
        rw [outcome_eq, run_ask_of_fault hrequest]
        exact Nat.add_zero _
      have hquiet : (opening.hunt.outcome n).traffic = false := by
        rw [outcome_eq, run_ask_of_fault hrequest]
      refine iff_of_true ?_ (.inl ⟨fault, hrequest⟩)
      rw [Outcome.InTime, hinstant]
      exact (Nat.lt_or_eq_of_le H.begun_le_strikes).imp_right fun h => ⟨h, hquiet⟩
    | ok request =>
      have htraffic : (opening.hunt.outcome n).traffic = true := by
        rw [outcome_eq]
        exact traffic_ask_of_ok hrequest _ _
      rw [Outcome.InTime, InTime, hrequest, htraffic]
      simp [Hunt.ended]
  rw [Hunt.Answers, hvalue, hintime]

theorem answerOf_eq_ok_none_iff {target : Tunnel.Target} {listed : Except Failure (List Pod)} :
    answerOf target listed = .ok none ↔
      ∃ pods, listed = .ok pods ∧ ∀ pod ∈ pods, ¬ pod.Eligible := by
  cases listed with
  | error failure => simp [answerOf]
  | ok pods => simp [answerOf, firstRunning?_eq_none_iff]

theorem answerOf_eq_ok_some_iff {target : Tunnel.Target} {listed : Except Failure (List Pod)}
    {name : String} :
    answerOf target listed = .ok (some name) ↔
      ∃ pods pod, listed = .ok pods ∧ FirstWith Pod.Eligible pods pod ∧ pod.name = some name := by
  cases listed with
  | error failure => simp [answerOf]
  | ok pods => simp [answerOf, firstRunning?_eq_some_iff]

/-- An answer that leaves time for another lookup comes before the timer fires. -/
theorem ended_lt_strikes (h : opening.hunt.ended n + lookupInterval.nanos ≤ opening.hunt.deadline) :
    opening.hunt.ended n < opening.hunt.strikes := by
  have hpos := lookupInterval_nanos
  have hdeadline : opening.hunt.deadline ≤ opening.hunt.strikes := Clock.le_ceilMilli _
  omega

theorem awaits_succ : opening.Awaits (n + 1) ↔ opening.Awaits n ∧
    (∃ pods, opening.listing n = .ok pods ∧ ∀ pod ∈ pods, ¬ pod.Eligible) ∧
      opening.hunt.ended n + lookupInterval.nanos ≤ opening.hunt.deadline := by
  simp only [Awaits, Nat.forall_lt_succ_right]

theorem Awaits.mono {m : Nat} (H : opening.Awaits n) (h : m ≤ n) : opening.Awaits m :=
  fun i hi => H i (Nat.lt_of_lt_of_le hi h)

/-- To await a pod is to go on with the search. -/
theorem awaits_iff : opening.Awaits n ↔ opening.hunt.Reaches n := by
  induction n with
  | zero => exact iff_of_true (fun _ h => absurd h (Nat.not_lt_zero _)) Hunt.reaches_zero
  | succ n ih =>
    rw [Hunt.reaches_succ, awaits_succ, ← ih]
    refine and_congr_right fun H => ?_
    rw [Hunt.Fruitless, answers_iff (ih.mp H), answerOf_eq_ok_none_iff]
    constructor
    · rintro ⟨hnone, hleft⟩
      exact ⟨⟨hnone, .inr (ended_lt_strikes hleft)⟩, hleft⟩
    · rintro ⟨⟨hnone, _⟩, hleft⟩
      exact ⟨hnone, hleft⟩

/-! ## What a setup comes to -/

theorem lookups_of_ends {ending : SearchEnd} {finished : Nat} (H : opening.hunt.Reaches n)
    (h : opening.hunt.Ends n ending finished) : opening.lookups = opening.hunt.lookups (n + 1) := by
  obtain ⟨world, hsearch⟩ := Hunt.search_of_ends H h
  exact congrArg Search.lookups hsearch

/-- The lookups go on until one of them does not leave a pod to be awaited. -/
theorem made (opening : Opening σ) : ∃ n, opening.Awaits n ∧ ¬ opening.Awaits (n + 1) ∧
    opening.lookups = opening.hunt.lookups (n + 1) := by
  obtain ⟨n, ending, finished, H, hends⟩ := opening.hunt.exists_ends
  refine ⟨n, awaits_iff.mpr H, ?_, lookups_of_ends H hends⟩
  rw [awaits_iff, Hunt.reaches_succ]
  exact fun h => hends.not_fruitless h.2

/-- Every lookup is made up to which the setup awaits a pod. -/
theorem Awaits.mem_lookups (H : opening.Awaits n) : opening.hunt.asked n ∈ opening.lookups := by
  obtain ⟨last, _, hstops, hlookups⟩ := made opening
  have hlt : n < last + 1 := Nat.lt_of_not_le fun hle => hstops (H.mono hle)
  rw [hlookups]
  exact List.mem_map_of_mem (List.mem_range.mpr hlt)

/-- A search that ends without a pod is what the setup comes to. -/
theorem fails_of_ends {ending : SearchEnd} {finished : Nat} {e : Error} (H : opening.Awaits n)
    (h : opening.hunt.Ends n ending finished)
    (herror : ∀ lookups (world : Site σ), Search.result ⟨lookups, ending, finished, world⟩
      opening.target opening.setupTimeout opening.start = .error e) :
    opening.Fails n finished e := by
  have H := awaits_iff.mp H
  obtain ⟨lookups, world, hsearched⟩ := searched_of_ends H h
  have hvalue := congrArg Outcome.value hsearched
  exact ⟨(opened_of_error (hvalue.trans (herror lookups world))).2, (comes_of_ends H h).1,
    lookups_of_ends H h⟩

theorem value_opened_eq_ok_iff {handle : Handle} :
    opening.opened.value = .ok handle ↔
      ∃ n pods pod name port, opening.Awaits n ∧ opening.listing n = .ok pods ∧
        opening.hunt.ended n < opening.hunt.strikes ∧ FirstWith Pod.Eligible pods pod ∧
        pod.name = some name ∧ opening.site.system.freePort? = some port ∧
        handle = ⟨opening.target, name, port, opening.site.system.tunnels.length⟩ := by
  constructor
  · intro hopened
    obtain ⟨n, H, _, _, hcomes⟩ := exists_comes (forwarder opening.api opening.relay)
      opening.target opening.setupTimeout opening.start opening.site
    obtain ⟨name, port, hanswers, hlt, hport, rfl⟩ := hcomes.eq_ok_iff.mp hopened
    obtain ⟨pods, pod, hlisting, hfirst, hname⟩ :=
      answerOf_eq_ok_some_iff.mp ((answers_iff H).mp hanswers).1
    exact ⟨n, pods, pod, name, port, awaits_iff.mpr H, hlisting, hlt, hfirst, hname, hport, rfl⟩
  · rintro ⟨n, pods, pod, name, port, H, hlisting, hlt, hfirst, hname, hport, rfl⟩
    have H := awaits_iff.mp H
    have hanswers : opening.hunt.Answers n (.ok (some name)) :=
      (answers_iff H).mpr
        ⟨answerOf_eq_ok_some_iff.mpr ⟨pods, pod, hlisting, hfirst, hname⟩, .inr hlt⟩
    obtain ⟨_, hcomes⟩ := comes_of_ends H (.found hanswers)
    exact hcomes.eq_ok_iff.mpr ⟨name, port, hanswers, hlt, hport, rfl⟩

/-! ## What a setup asks -/

theorem follows_lookup (api : Api σ) (relay : String → String → UInt16 → Line σ)
    (relay' : String → String → UInt16 → Line (Recorded String σ)) (target : Tunnel.Target) :
    Recorded.Follows Recorded.mk ((forwarder api.recorded relay').lookup target)
      ((forwarder api relay).lookup target) fun now _ =>
        sends (listTarget .pods target.ns (some target.labelSelector)) now := by
  rw [lookup_eq, lookup_eq]
  exact (api.follows_read _ _).bind_quiet fun _ => Recorded.follows_pure _

/-- A lookup that is cut off at `limit` sends its request, unless the timer fires just then. -/
theorem follows_within (opening : Opening σ)
    (relay : String → String → UInt16 → Line (Recorded String σ)) (limit : Nat) :
    Recorded.Follows Site.recorded
      (Timed.within limit
        (Site.lift ((forwarder opening.api.recorded relay).lookup opening.target)))
      (Timed.within limit
        (Site.lift ((forwarder opening.api opening.relay).lookup opening.target)))
      fun now _ => if now < Clock.ceilMilli limit then sends opening.request now else [] := by
  let lookup := Site.lift ((forwarder opening.api opening.relay).lookup opening.target)
  have hwithin := (Site.follows_lift
    (follows_lookup opening.api opening.relay relay opening.target)).within limit
  have hsame (now : Nat) (site : Site σ) :
      (if now = max now (Clock.ceilMilli limit) ∧ (lookup.run now site).traffic = true then []
        else sends opening.request now) =
      if now < Clock.ceilMilli limit then sends opening.request now else [] := by
    cases hrequest : opening.request with
    | error fault => simp [sends]
    | ok text =>
      have htraffic : (lookup.run now site).traffic = true := by
        rw [Site.run_lift, run_lookup]
        exact traffic_ask_of_ok hrequest now site.outside
      by_cases hleft : now < Clock.ceilMilli limit
      · rw [if_pos hleft, if_neg fun h => by omega]
      · rw [if_neg hleft, if_pos ⟨by omega, htraffic⟩]
  intro now record site
  dsimp only
  rw [← hsame now site]
  exact hwithin now record site

/-- A setup sends what its lookups send. -/
theorem opened_recorded (opening : Opening σ)
    (relay : String → String → UInt16 → Line (Recorded String σ)) (record : List (Nat × String)) :
    Timed.run (establish (forwarder opening.api.recorded relay) opening.target opening.setupTimeout)
        opening.start (opening.site.recorded record) =
      opening.opened.mapWorld
        (Site.recorded (record ++ Tunnel.asks opening.asked opening.lookups)) :=
  follows_establish (follows_findPod fun _ => opening.follows_within relay _) opening.start record
    opening.site

/-! ## All that a setup does -/

/-- **The pod that a tunnel leads to** is the first eligible one of the first list that holds one. Lists
without are asked for again while there is time, a call that fails is not made again, and every list is
that of the pods with the label of the target in its namespace. -/
theorem resolves (opening : Opening σ) : opening.Resolves := by
  constructor
  case made => exact made opening
  case opened_iff => exact fun handle => value_opened_eq_ok_iff
  case retried =>
    intro n pods H hlisting hnone hleft
    have hnext : opening.Awaits (n + 1) := awaits_succ.mpr ⟨H, ⟨pods, hlisting, hnone⟩, hleft⟩
    exact ⟨opening.hunt.asked (n + 1), hnext.mem_lookups, rfl⟩
  case exhausted =>
    intro n pods H hlisting hnone hlt hlate
    have hanswers : opening.hunt.Answers n (.ok none) :=
      (answers_iff (awaits_iff.mp H)).mpr
        ⟨answerOf_eq_ok_none_iff.mpr ⟨pods, hlisting, hnone⟩, .inr hlt⟩
    exact fails_of_ends H (.exhausted hanswers hlate) fun _ _ => rfl
  case failed =>
    intro n failure H hlisting hintime
    have hanswers : opening.hunt.Answers n (.error _) :=
      (answers_iff (awaits_iff.mp H)).mpr ⟨congrArg (answerOf opening.target) hlisting, hintime⟩
    exact fails_of_ends H (.failed hanswers) fun _ _ => rfl
  case late =>
    intro n H hlate
    have hcut (answer : Except Error (Option String)) : ¬ opening.hunt.Answers n answer :=
      fun hanswers => hlate ((answers_iff (awaits_iff.mp H)).mp hanswers).2
    exact fails_of_ends H (.cut hcut) fun _ _ => rfl
  case asks => exact opened_recorded opening
  case requested =>
    intro hns
    exact exists_asksFor .pods hns opening.target.labelSelector

end Opening

end IndexWatch.Cluster
