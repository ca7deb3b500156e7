import IndexWatch.Proofs.Poll.Course
import IndexWatch.Workload.Watch

/-! # What the success of a watch says about the cluster

A watch is asked to wait for a workload to be ready, to exist or to complete, but it compares what its
checks make of the cluster's answers with the value that the pace expects. So its success is a sign
of readiness only where the pace expects `true`: `ready_seen_iff` says so for each of the watches and
for the index cleaner's run, which is two of them in a row. -/

namespace IndexWatch.Workload

variable {σ β : Type}

/-- A watch apart from its pace: what it waits for, in words, what its checks ask of the cluster, and
what they make of the answer. -/
structure Watch (β : Type) where
  condition : String
  ask : ∀ {σ : Type}, Source σ → Attempt σ β
  judge : β → Except Error Bool

namespace Watch

def replicas (target : Target) : Watch (Option ReplicaStatus) where
  condition := target.name ++ " to be ready"
  ask source := source.replicaStatus target
  judge status := .ok (status.any ReplicaStatus.isReady)

def existence (target : Target) : Watch Bool where
  condition := target.name ++ " to exist"
  ask source := source.scheduledJobExists target
  judge := .ok

def completion (target : Target) : Watch (List JobOutcome) where
  condition := target.name ++ " to complete"
  ask source := source.ownedJobOutcomes target
  judge := Workload.completion target

section
variable (watch : Watch β) (source : Source σ)

def check : Attempt σ Bool := do
  let answer ← watch.ask source
  .ofExcept (watch.judge answer)

def await (spec : Poll.Spec Bool) : Attempt σ Unit :=
  Poll.await watch.condition spec (watch.check source)

/-- The wait that the watch is when it begins at `start` in `world`. -/
def waitOn (spec : Poll.Spec Bool) (start : Nat) (world : σ) : Poll.Wait σ Bool :=
  ⟨spec, watch.check source, start, world⟩

end

end Watch

theorem awaitReplicas_eq (source : Source σ) (target : Target) (spec : Poll.Spec Bool) :
    awaitReplicas source target spec = (Watch.replicas target).await source spec := rfl

theorem awaitScheduledJob_eq (source : Source σ) (ns name : String) (spec : Poll.Spec Bool) :
    awaitScheduledJob source ns name spec =
      (Watch.existence ⟨ns, name, .scheduledJob⟩).await source spec := by
  have hcheck : (Watch.existence ⟨ns, name, .scheduledJob⟩).check source =
      scheduledJobExists source ⟨ns, name, .scheduledJob⟩ := bind_pure _
  rw [Watch.await, hcheck]
  rfl

theorem awaitJobOf_eq (source : Source σ) (ns owner : String) (spec : Poll.Spec Bool) :
    awaitJobOf source ns owner spec =
      (Watch.completion ⟨ns, owner, .triggeredJob⟩).await source spec := rfl

namespace Watch

/-! ## What the checks see -/

section
variable (watch : Watch β) (source : Source σ) (spec : Poll.Spec Bool) (start : Nat) (world : σ)

/-- The check that `n` checks come before is made, and the cluster answers it with something of
which `p` holds. -/
def Sees (p : β → Prop) (n : Nat) : Prop :=
  let wait := watch.waitOn source spec start world
  n < (Poll.run wait.spec wait.check wait.start wait.world).checks.length ∧
    ∃ answer,
      (Timed.run (watch.ask source) (wait.begun n) (wait.worldAt n)).value = .ok answer ∧ p answer

/-- The last check that is made sees such an answer. -/
def SeesAtLast (p : β → Prop) : Prop :=
  let wait := watch.waitOn source spec start world
  ∃ n, (Poll.run wait.spec wait.check wait.start wait.world).checks.length = n + 1 ∧
    watch.Sees source spec start world p n

end

variable {watch : Watch β} {source : Source σ} {spec : Poll.Spec Bool} {start : Nat} {world : σ}

theorem value_check_eq_ok_iff {now : Nat} {value : Bool} :
    (Timed.run (watch.check source) now world).value = .ok value ↔
      ∃ answer, (Timed.run (watch.ask source) now world).value = .ok answer ∧
        watch.judge answer = .ok value := by
  rw [check, Attempt.value_bind_eq_ok_iff]
  rfl

theorem Sees.imp {p q : β → Prop} (hpq : ∀ answer, p answer → q answer) {n : Nat}
    (H : watch.Sees source spec start world p n) : watch.Sees source spec start world q n := by
  obtain ⟨hmade, answer, hanswer, hp⟩ := H
  exact ⟨hmade, answer, hanswer, hpq answer hp⟩

/-- A watch succeeds by its last check, whose answer is judged to be what is expected, and it is over
when that check is. -/
theorem sees_of_await (h : (Timed.run (watch.await source spec) start world).value = .ok ()) :
    let wait := watch.waitOn source spec start world
    ∃ n, (Poll.run wait.spec wait.check wait.start wait.world).checks.length = n + 1 ∧
      watch.Sees source spec start world (watch.judge · = .ok spec.expected) n ∧
      start + (Timed.run (watch.await source spec) start world).took = wait.ended (n + 1) := by
  intro wait
  obtain ⟨n, value, H, hadmits, hanswer, hmet⟩ := wait.value_await_eq_ok_iff.mp h
  have hlength : (Poll.run wait.spec wait.check wait.start wait.world).checks.length = n + 1 := by
    rw [Poll.Wait.run_of_met H hadmits hanswer hmet, Poll.Wait.length_checks]
  have hstart : start ≤ wait.ended (n + 1) := wait.ended_mono (Nat.zero_le _)
  have htook := Poll.Wait.run_await_of_met watch.condition H hadmits hanswer hmet
  rw [eq_of_beq hmet] at hanswer
  refine ⟨n, hlength, ⟨?_, value_check_eq_ok_iff.mp hanswer⟩, ?_⟩
  · rw [hlength]
    exact Nat.lt_succ_self n
  · change start + (Timed.run (Poll.await _ wait.spec wait.check) wait.start wait.world).took = _
    rw [htook]
    exact Nat.add_sub_cancel' hstart

/-- Where `true` is expected, the last check of a watch that succeeds sees an answer that is judged to
be true. -/
theorem seesAtLast_of_await (hexpected : spec.expected = true)
    (h : (Timed.run (watch.await source spec) start world).value = .ok ()) :
    watch.SeesAtLast source spec start world (watch.judge · = .ok true) := by
  obtain ⟨n, hlast, hsees, _⟩ := sees_of_await h
  rw [hexpected] at hsees
  exact ⟨n, hlast, hsees⟩

theorem hasTime_of_await (h : (Timed.run (watch.await source spec) start world).value = .ok ()) :
    spec.HasTime start :=
  (watch.waitOn source spec start world).hasTime_of_value_await h

/-! ## A cluster that always gives the same answer -/

section
variable {same : β} (hask : watch.ask source = pure same)
include hask

theorem run_check_of_pure (now : Nat) :
    Timed.run (watch.check source) now world = ⟨0, false, world, watch.judge same⟩ := by
  rw [check, hask, pure_bind]
  rfl

/-- If that answer is judged to be what is expected, the first check succeeds, where there is time
for it. -/
theorem run_await_of_pure (world : σ) (hjudge : watch.judge same = .ok spec.expected)
    (H : spec.HasTime start) :
    Timed.run (watch.await source spec) start world =
      ⟨Clock.ceilMilli (start + spec.interval.nanos) - start, false, world, .ok ()⟩ := by
  let wait := watch.waitOn source spec start world
  have houtcome : wait.outcome 0 = ⟨0, false, world, .ok spec.expected⟩ := by
    rw [← hjudge]
    exact run_check_of_pure hask _
  have hanswer : wait.answer 0 = .ok spec.expected := by
    rw [Poll.Wait.answer, houtcome]
  have hended : wait.ended 1 = Clock.ceilMilli (start + spec.interval.nanos) := by
    rw [Poll.Wait.ended_succ, houtcome]
    exact Nat.add_zero (wait.begun 0)
  have hworld : wait.worldAt 1 = world := by
    rw [Poll.Wait.worldAt_succ, houtcome]
  have hadmits : wait.Admits 0 := H
  change Timed.run (Poll.await _ wait.spec wait.check) wait.start wait.world = _
  rw [Poll.Wait.run_await_of_met _ Poll.Wait.reaches_zero hadmits hanswer (beq_self_eq_true _),
    hended, hworld]
  rfl

theorem not_sees_of_pure {p : β → Prop} (h : ¬ p same) (n : Nat) :
    ¬ watch.Sees source spec start world p n := by
  rintro ⟨_, answer, hanswer, hp⟩
  rw [hask] at hanswer
  cases hanswer
  exact h hp

end

end Watch

/-- A cluster in which there is nothing, and that says so at once. -/
def Source.barren : Source Unit where
  replicaStatus _ := pure none
  scheduledJobExists _ := pure false
  ownedJobOutcomes _ := pure []

/-- Whatever the cluster does, a task that is this watch succeeds only if the watch's last check sees
an answer of which `p` holds. -/
def Watch.Vouches (watch : Watch β) (task : ∀ {σ : Type}, Source σ → Attempt σ Unit)
    (spec : Poll.Spec Bool) (start : Nat) (p : β → Prop) : Prop :=
  ∀ (σ : Type) (source : Source σ) (world : σ),
    (Timed.run (task source) start world).value = .ok () →
    watch.SeesAtLast source spec start world p

/-- A watch vouches for what it judges to be true exactly where `true` is expected, or where no check
can be made. -/
theorem Watch.vouches_iff {watch : Watch β} {nothing : β} {p : β → Prop}
    (hjudge : ∀ answer, watch.judge answer = .ok true → p answer)
    (hask : watch.ask Source.barren = pure nothing) (hnothing : watch.judge nothing = .ok false)
    (hp : ¬ p nothing) (spec : Poll.Spec Bool) (start : Nat) :
    watch.Vouches (watch.await · spec) spec start p ↔
      spec.expected = true ∨ ¬ spec.HasTime start := by
  constructor
  · intro H
    cases hexpected : spec.expected with
    | true => exact .inl rfl
    | false =>
      refine .inr fun htime => ?_
      rw [← hexpected] at hnothing
      have hok := run_await_of_pure hask () hnothing htime
      obtain ⟨n, _, hsees⟩ := H Unit Source.barren () (congrArg Outcome.value hok)
      exact not_sees_of_pure hask hp n hsees
  · rintro (hexpected | htime) σ source world hok
    · obtain ⟨n, hlast, hsees⟩ := seesAtLast_of_await hexpected hok
      exact ⟨n, hlast, hsees.imp hjudge⟩
    · exact absurd (hasTime_of_await hok) htime

/-! ## What the watches judge to be true -/

/-- The workload is there, and as many of its replicas are ready as should be. -/
def AllReady (answer : Option ReplicaStatus) : Prop :=
  ∃ status, answer = some status ∧ status.ready = status.desired

theorem not_allReady_none : ¬ AllReady none := by
  rintro ⟨_, hnone, _⟩
  contradiction

theorem replicas_judge (target : Target) (answer : Option ReplicaStatus)
    (h : (Watch.replicas target).judge answer = .ok true) : AllReady answer := by
  cases answer with
  | none => simp [Watch.replicas] at h
  | some status =>
    simp only [Watch.replicas, Option.any_some, Except.ok.injEq] at h
    exact ⟨status, rfl, eq_of_beq h⟩

theorem completion_judge (target : Target) (outcomes : List JobOutcome)
    (h : (Watch.completion target).judge outcomes = .ok true) : .complete ∈ outcomes := by
  simp only [Watch.completion, completion] at h
  split at h
  next hcontains => exact List.contains_iff_mem.mp hcontains
  next => split at h <;> simp at h

/-! ## The index cleaner's run -/

/-- The watch for the job that is scheduled. -/
def cleanerScheduled (ns instanceName : String) : Watch Bool :=
  .existence ⟨ns, cleanerJobName instanceName, .scheduledJob⟩

/-- The watch for the jobs it starts. -/
def cleanerCompleted (ns instanceName : String) : Watch (List JobOutcome) :=
  .completion ⟨ns, cleanerJobName instanceName, .triggeredJob⟩

section
variable (source : Source σ) (ns instanceName : String) (spec : Poll.Spec Bool)
  (extraTimeout : Duration) (start : Nat) (world : σ)

/-- The index cleaner's run is waited for by two watches, one after the other. -/
theorem awaitIndexCleanerRun_eq :
    awaitIndexCleanerRun source ns instanceName spec extraTimeout =
      (cleanerScheduled ns instanceName).await source (spec.withExtraTimeout extraTimeout) >>=
        fun _ => (cleanerCompleted ns instanceName).await source spec := by
  rw [awaitIndexCleanerRun, awaitScheduledJob_eq, awaitJobOf_eq]
  rfl

/-- What the first watch leaves; the second one begins there. -/
def scheduledWait : Outcome σ (Except Error Unit) :=
  Timed.run ((cleanerScheduled ns instanceName).await source (spec.withExtraTimeout extraTimeout))
    start world

/-- A check of the first watch sees the scheduled job, and one of the second, which begins when that
one has ended, sees a complete job that it owns. -/
def CleanerRunSeen : Prop :=
  let first := cleanerScheduled ns instanceName
  let second := cleanerCompleted ns instanceName
  let pace := spec.withExtraTimeout extraTimeout
  let left := scheduledWait source ns instanceName spec extraTimeout start world
  ∃ i j, first.Sees source pace start world (· = true) i ∧
    second.Sees source spec (start + left.took) left.world (.complete ∈ ·) j ∧
    (first.waitOn source pace start world).ended (i + 1) ≤
      (second.waitOn source spec (start + left.took) left.world).begun j

end

variable {source : Source σ} {ns instanceName : String} {spec : Poll.Spec Bool}
  {extraTimeout : Duration} {start : Nat} {world : σ}

theorem value_awaitIndexCleanerRun_eq_ok_iff :
    (Timed.run (awaitIndexCleanerRun source ns instanceName spec extraTimeout) start world).value =
        .ok () ↔
      let left := scheduledWait source ns instanceName spec extraTimeout start world
      left.value = .ok () ∧
        (Timed.run ((cleanerCompleted ns instanceName).await source spec) (start + left.took)
          left.world).value = .ok () := by
  rw [awaitIndexCleanerRun_eq, Attempt.value_bind_eq_ok_iff]
  constructor
  · rintro ⟨_, hfirst, hsecond⟩
    exact ⟨hfirst, hsecond⟩
  · rintro ⟨hfirst, hsecond⟩
    exact ⟨(), hfirst, hsecond⟩

/-- Where `true` is expected, the two watches end with what is to be seen. -/
theorem cleanerRunSeen_of_ok (hexpected : spec.expected = true)
    (hok : (Timed.run (awaitIndexCleanerRun source ns instanceName spec extraTimeout) start
      world).value = .ok ()) :
    CleanerRunSeen source ns instanceName spec extraTimeout start world := by
  obtain ⟨hfirst, hsecond⟩ := value_awaitIndexCleanerRun_eq_ok_iff.mp hok
  obtain ⟨i, _, hscheduled, hended⟩ := Watch.sees_of_await hfirst
  obtain ⟨j, _, hcompleted, _⟩ := Watch.sees_of_await hsecond
  refine ⟨i, j, hscheduled.imp fun found hfound => ?_,
    hcompleted.imp fun outcomes houtcomes => ?_, ?_⟩
  · exact (Except.ok.inj hfound).trans hexpected
  · rw [hexpected] at houtcomes
    exact completion_judge _ outcomes houtcomes
  · exact Poll.Wait.le_begun_of_le_start (Nat.le_of_eq hended.symm) j

/-- Where both watches succeed, there is time for the first check of each. -/
theorem hasTime_of_awaitIndexCleanerRun
    (hok : (Timed.run (awaitIndexCleanerRun source ns instanceName spec extraTimeout) start
      world).value = .ok ()) :
    (spec.withExtraTimeout extraTimeout).HasTime start ∧
      spec.HasTime (Clock.ceilMilli (start + spec.interval.nanos)) := by
  obtain ⟨hfirst, hsecond⟩ := value_awaitIndexCleanerRun_eq_ok_iff.mp hok
  obtain ⟨i, _, _, hended⟩ := Watch.sees_of_await hfirst
  let wait := (cleanerScheduled ns instanceName).waitOn source (spec.withExtraTimeout extraTimeout)
    start world
  have hle : wait.begun 0 ≤ wait.ended (i + 1) :=
    Nat.le_trans (wait.begun_le_ended_succ 0) (wait.ended_mono (Nat.le_add_left 1 i))
  refine ⟨Watch.hasTime_of_await hfirst, (Watch.hasTime_of_await hsecond).anti ?_⟩
  exact Nat.le_trans hle (Nat.le_of_eq hended.symm)

/-- On a barren cluster both watches succeed by their first checks where `false` is expected. -/
theorem barren_awaitIndexCleanerRun (hexpected : spec.expected = false)
    (hfirst : (spec.withExtraTimeout extraTimeout).HasTime start)
    (hsecond : spec.HasTime (Clock.ceilMilli (start + spec.interval.nanos))) :
    (Timed.run (awaitIndexCleanerRun .barren ns instanceName spec extraTimeout) start ()).value =
      .ok () := by
  have hleft : scheduledWait .barren ns instanceName spec extraTimeout start () =
      ⟨Clock.ceilMilli (start + spec.interval.nanos) - start, false, (), .ok ()⟩ :=
    Watch.run_await_of_pure rfl () (congrArg Except.ok hexpected.symm) hfirst
  have hstart : start ≤ Clock.ceilMilli (start + spec.interval.nanos) :=
    Nat.le_trans (Nat.le_add_right ..) (Clock.le_ceilMilli _)
  rw [value_awaitIndexCleanerRun_eq_ok_iff, hleft]
  refine ⟨rfl, ?_⟩
  rw [Nat.add_sub_cancel' hstart, Watch.run_await_of_pure rfl () (congrArg Except.ok hexpected.symm)
    hsecond]

theorem not_cleanerRunSeen_barren :
    ¬ CleanerRunSeen .barren ns instanceName spec extraTimeout start () := by
  rintro ⟨i, _, hsees, _⟩
  exact Watch.not_sees_of_pure rfl (by decide) i hsees

theorem cleanerRunSeen_iff (ns instanceName : String) (spec : Poll.Spec Bool)
    (extraTimeout : Duration) (start : Nat) :
    (∀ (σ : Type) (source : Source σ) (world : σ),
      (Timed.run (awaitIndexCleanerRun source ns instanceName spec extraTimeout) start
        world).value = .ok () →
      CleanerRunSeen source ns instanceName spec extraTimeout start world) ↔
      spec.expected = true ∨ ¬ (spec.withExtraTimeout extraTimeout).HasTime start ∨
        ¬ spec.HasTime (Clock.ceilMilli (start + spec.interval.nanos)) := by
  constructor
  · intro H
    cases hexpected : spec.expected with
    | true => exact .inl rfl
    | false =>
      refine .inr (Classical.not_and_iff_not_or_not.mp fun ⟨hfirst, hsecond⟩ => ?_)
      exact not_cleanerRunSeen_barren <| H Unit .barren () <|
        barren_awaitIndexCleanerRun hexpected hfirst hsecond
  · rintro (hexpected | htime) σ source world hok
    · exact cleanerRunSeen_of_ok hexpected hok
    · have := hasTime_of_awaitIndexCleanerRun hok
      exact absurd this (Classical.not_and_iff_not_or_not.mpr htime)

/-- The success of a watch says what was seen of the cluster exactly where the pace expects `true`, or
where the watch cannot succeed for want of time. -/
theorem ready_seen_iff (spec : Poll.Spec Bool) (start : Nat) (ns name : String)
    (extraTimeout : Duration) :
    ((Watch.replicas ⟨ns, name, .deployment⟩).Vouches (awaitDeployment · ns name spec) spec start
        AllReady ↔ spec.expected = true ∨ ¬ spec.HasTime start) ∧
    ((Watch.replicas ⟨ns, name, .statefulSet⟩).Vouches (awaitStatefulSet · ns name spec) spec start
        AllReady ↔ spec.expected = true ∨ ¬ spec.HasTime start) ∧
    ((Watch.existence ⟨ns, name, .scheduledJob⟩).Vouches (awaitScheduledJob · ns name spec) spec
        start (· = true) ↔ spec.expected = true ∨ ¬ spec.HasTime start) ∧
    ((Watch.completion ⟨ns, name, .triggeredJob⟩).Vouches (awaitJobOf · ns name spec) spec start
        (.complete ∈ ·) ↔ spec.expected = true ∨ ¬ spec.HasTime start) ∧
    ((∀ (σ : Type) (source : Source σ) (world : σ),
        (Timed.run (awaitIndexCleanerRun source ns name spec extraTimeout) start world).value =
          .ok () →
        CleanerRunSeen source ns name spec extraTimeout start world) ↔
      spec.expected = true ∨ ¬ (spec.withExtraTimeout extraTimeout).HasTime start ∨
        ¬ spec.HasTime (Clock.ceilMilli (start + spec.interval.nanos))) := by
  refine ⟨?deployment, ?statefulSet, ?scheduledJob, ?jobOf, ?cleanerRun⟩
  case deployment =>
    simp only [awaitDeployment, awaitReplicas_eq]
    exact Watch.vouches_iff (replicas_judge _) rfl rfl not_allReady_none spec start
  case statefulSet =>
    simp only [awaitStatefulSet, awaitReplicas_eq]
    exact Watch.vouches_iff (replicas_judge _) rfl rfl not_allReady_none spec start
  case scheduledJob =>
    simp only [awaitScheduledJob_eq]
    exact Watch.vouches_iff (fun _ => Except.ok.inj) rfl rfl (by decide) spec start
  case jobOf =>
    simp only [awaitJobOf_eq]
    exact Watch.vouches_iff (completion_judge _) rfl rfl (by simp) spec start
  case cleanerRun => exact cleanerRunSeen_iff ns name spec extraTimeout start

/-- A check every second for three seconds, until there is nothing. -/
def untilGone : Poll.Spec Bool := ⟨.ofSeconds 1, .ofSeconds 3, false, by decide, by decide⟩

/-- The run of an index cleaner that does not exist is waited for with success. -/
theorem barren_cleaner_run_succeeds :
    (Timed.run (awaitIndexCleanerRun .barren "tracing" "simple-prod" untilGone (.ofSeconds 0)) 0
        ()).value = .ok () ∧
      ¬ CleanerRunSeen .barren "tracing" "simple-prod" untilGone (.ofSeconds 0) 0 () :=
  ⟨barren_awaitIndexCleanerRun rfl (by decide) (by decide), not_cleanerRunSeen_barren⟩

end IndexWatch.Workload
