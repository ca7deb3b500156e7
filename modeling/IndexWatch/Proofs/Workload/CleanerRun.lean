import IndexWatch.Proofs.Record
import IndexWatch.Workload.Watch

/-! # The run of an index cleaner

Waiting for an index cleaner's run is two waits in a row. `CleanerRun.Course` tells what they leave and
what they ask of the cluster, and `awaitIndexCleanerRun_in_turn` says that this is what is done: the
second wait starts where the first one ended, at the pace that was asked for, and it alone asks about
jobs. -/

namespace IndexWatch.Workload

variable {σ : Type}

/-- What a source can be asked. -/
inductive Query where
  | replicas (target : Target)
  | scheduledJob (target : Target)
  | ownedJobs (target : Target)
deriving DecidableEq

/-- The same source, where it is written down what it is asked. -/
def Source.recorded (source : Source σ) : Source (Recorded Query σ) where
  replicaStatus target := .ofTimed (Recorded.noting (.replicas target) (source.replicaStatus target).run)
  scheduledJobExists target :=
    .ofTimed (Recorded.noting (.scheduledJob target) (source.scheduledJobExists target).run)
  ownedJobOutcomes target :=
    .ofTimed (Recorded.noting (.ownedJobs target) (source.ownedJobOutcomes target).run)

/-- A run that is to be waited for: where, how, and from when on. -/
structure CleanerRun (σ : Type) where
  source : Source σ
  ns : String
  instanceName : String
  spec : Poll.Spec Bool
  extraTimeout : Duration
  start : Nat
  world : σ

namespace CleanerRun

section
variable (run : CleanerRun σ)

/-- The scheduled job. -/
def owner : String := run.instanceName ++ "-es-index-cleaner"

def scheduledTarget : Target := ⟨run.ns, run.owner, .scheduledJob⟩

def jobsTarget : Target := ⟨run.ns, run.owner, .triggeredJob⟩

/-- The wait for the scheduled job, which is given the extra time. -/
def scheduling : Poll.Wait σ Bool where
  spec := run.spec.withExtraTimeout run.extraTimeout
  check := run.source.scheduledJobExists run.scheduledTarget
  start := run.start
  world := run.world

/-- What the wait for the scheduled job leaves. -/
def scheduled : Outcome σ (Except Error Unit) :=
  Timed.run
    (Poll.await (run.scheduledTarget.name ++ " to exist") run.scheduling.spec run.scheduling.check)
    run.scheduling.start run.scheduling.world

/-- The wait for its jobs. It starts where the first one ended, with all the time there was at first. -/
def completing : Poll.Wait σ Bool where
  spec := run.spec
  check := triggeredJobCompleted run.source run.jobsTarget
  start := run.start + run.scheduled.took
  world := run.scheduled.world

/-- What the wait for the jobs leaves. -/
def completed : Outcome σ (Except Error Unit) :=
  Timed.run
    (Poll.await (run.jobsTarget.name ++ " to complete") run.completing.spec run.completing.check)
    run.completing.start run.completing.world

/-- What a wait asks that puts one question to the cluster in each of its checks. -/
def queries (query : Query) (wait : Poll.Wait σ Bool) : List (Nat × Query) :=
  (Poll.run wait.spec wait.check wait.start wait.world).checks.map fun check => (check.begun, query)

/-- The courses that waiting for the run can take: what is asked, and what is left. -/
inductive Course : List (Nat × Query) → Outcome σ (Except Error Unit) → Prop
  | unscheduled {e} : run.scheduled.value = .error e →
    Course (queries (.scheduledJob run.scheduledTarget) run.scheduling) run.scheduled
  | scheduled : run.scheduled.value = .ok () →
    Course
      (queries (.scheduledJob run.scheduledTarget) run.scheduling ++
        queries (.ownedJobs run.jobsTarget) run.completing)
      ⟨run.scheduled.took + run.completed.took, false, run.completed.world, run.completed.value⟩

/-- The check that `n` checks of the second wait come before is made, and sees jobs of which some have
failed and none is complete. -/
def SeesFailed (n : Nat) (outcomes : List JobOutcome) : Prop :=
  run.scheduled.value = .ok () ∧ run.completing.Reaches n ∧ run.completing.Admits n ∧
    (Timed.run (run.source.ownedJobOutcomes run.jobsTarget) (run.completing.begun n)
      (run.completing.worldAt n)).value = .ok outcomes ∧
    .complete ∉ outcomes ∧ ∃ job reason, .failed job reason ∈ outcomes

/-- What is reported of a job of the run that failed. -/
def jobFailed (job reason : String) : Error :=
  .workloadFailed .triggeredJob run.ns job s!"{reason} (owned by CronJob {run.owner})"

/-- What is left when all is over with that check, for such a job. -/
def abortedAt (n : Nat) (job reason : String) : Outcome σ (Except Error Unit) :=
  ⟨run.completing.ended (n + 1) - run.start, false, run.completing.worldAt (n + 1),
    .error (run.jobFailed job reason)⟩

end

variable {run : CleanerRun σ}

/-! ## The two waits -/

/-- Waiting for the run, by the run's source or by another one. -/
def await (run : CleanerRun σ) {τ : Type} (source : Source τ) : Attempt τ Unit :=
  awaitIndexCleanerRun source run.ns run.instanceName run.spec run.extraTimeout

theorem run_await_of_unscheduled {e : Error} (h : run.scheduled.value = .error e) :
    Timed.run (run.await run.source) run.start run.world = run.scheduled := by
  have hrun : Timed.run (run.await run.source) run.start run.world =
      { run.scheduled with value := .error e } := Attempt.run_bind_error h
  rw [hrun, ← h]

theorem run_await_of_scheduled (h : run.scheduled.value = .ok ()) :
    Timed.run (run.await run.source) run.start run.world =
      ⟨run.scheduled.took + run.completed.took, false, run.completed.world,
        run.completed.value⟩ := by
  have hrun : Timed.run (run.await run.source) run.start run.world =
      ⟨run.scheduled.took + run.completed.took,
        run.completed.traffic || (run.completed.took == 0 && run.scheduled.traffic),
        run.completed.world, run.completed.value⟩ := Attempt.run_bind_ok h
  have hscheduled : run.scheduled.traffic = false := rfl
  have hcompleted : run.completed.traffic = false := rfl
  rw [hrun, hscheduled, hcompleted, Bool.and_false, Bool.or_false]

/-! ## What is asked -/

theorem follows_scheduledJobExists (source : Source σ) (target : Target) :
    Recorded.Follows Recorded.mk (source.recorded.scheduledJobExists target).run
      (source.scheduledJobExists target).run fun now _ => [(now, .scheduledJob target)] :=
  Recorded.follows_noting _ _

theorem follows_triggeredJobCompleted (source : Source σ) (target : Target) :
    Recorded.Follows Recorded.mk (triggeredJobCompleted source.recorded target).run
      (triggeredJobCompleted source target).run fun now _ => [(now, .ownedJobs target)] :=
  (Recorded.follows_noting _ _).judged (completion target)

theorem queries_eq_asks (query : Query) (wait : Poll.Wait σ Bool) :
    queries query wait = Poll.asks (fun now => [(now, query)])
      (Poll.run wait.spec wait.check wait.start wait.world).checks :=
  List.map_eq_flatMap

/-- By the source with a record, waiting for the run takes its course and leaves the record of it. -/
theorem run_await_recorded (run : CleanerRun σ) (record : List (Nat × Query)) :
    Timed.run (run.await run.source.recorded) run.start ⟨record, run.world⟩ =
      (Timed.run (run.await run.source) run.start run.world).recorded
        (record ++ (queries (.scheduledJob run.scheduledTarget) run.scheduling ++
          Recorded.afterwards (fun _ => queries (.ownedJobs run.jobsTarget) run.completing)
            run.scheduled.value)) := by
  rw [queries_eq_asks, queries_eq_asks]
  have hscheduled := Poll.Wait.follows_await
    (follows_scheduledJobExists run.source run.scheduledTarget)
    (run.scheduledTarget.name ++ " to exist") run.scheduling.spec
  have hcompleted := Poll.Wait.follows_await
    (follows_triggeredJobCompleted run.source run.jobsTarget)
    (run.jobsTarget.name ++ " to complete") run.spec
  exact hscheduled.attempt (fun _ => hcompleted) run.start record run.world

theorem exists_course (run : CleanerRun σ) :
    ∃ queries, run.Course queries (Timed.run (run.await run.source) run.start run.world) ∧
      ∀ record, Timed.run (run.await run.source.recorded) run.start ⟨record, run.world⟩ =
        (Timed.run (run.await run.source) run.start run.world).recorded (record ++ queries) := by
  cases h : run.scheduled.value with
  | error e =>
    refine ⟨queries (.scheduledJob run.scheduledTarget) run.scheduling, ?_, fun record => ?_⟩
    · rw [run_await_of_unscheduled h]
      exact .unscheduled h
    · rw [run_await_recorded, h, Recorded.afterwards, List.append_nil]
  | ok =>
    refine ⟨queries (.scheduledJob run.scheduledTarget) run.scheduling ++
      queries (.ownedJobs run.jobsTarget) run.completing, ?_, fun record => ?_⟩
    · rw [run_await_of_scheduled h]
      exact .scheduled h
    · rw [run_await_recorded, h, Recorded.afterwards]

/-! ## A job that failed -/

theorem exists_firstFailure {outcomes : List JobOutcome} {job reason : String}
    (h : .failed job reason ∈ outcomes) : ∃ first, firstFailure? outcomes = some first := by
  fun_induction firstFailure? outcomes with
  | case1 => contradiction
  | case2 first why rest => exact ⟨_, rfl⟩
  | case3 outcome rest hrunning ih =>
    rcases List.mem_cons.mp h with rfl | h
    · exact absurd rfl (hrunning job reason)
    · exact ih h

theorem answer_of_seesFailed {n : Nat} {outcomes : List JobOutcome}
    (H : run.SeesFailed n outcomes) : ∃ job reason, firstFailure? outcomes = some (job, reason) ∧
      run.completing.answer n = .error (run.jobFailed job reason) := by
  obtain ⟨_, _, _, hasked, hcomplete, _, _, hfailed⟩ := H
  obtain ⟨⟨job, reason⟩, hfirst⟩ := exists_firstFailure hfailed
  have hjudged : completion run.jobsTarget outcomes = .error (run.jobFailed job reason) := by
    rw [completion, if_neg (mt List.contains_iff_mem.mp hcomplete), hfirst]
    rfl
  refine ⟨job, reason, hfirst, ?_⟩
  change (Timed.run (triggeredJobCompleted run.source run.jobsTarget) _ _).value = _
  rw [triggeredJobCompleted, Attempt.run_bind_ok hasked]
  exact hjudged

/-- Such a job ends the second wait, and with it the whole, at the end of the check that sees it. -/
theorem run_await_of_seesFailed {n : Nat} {outcomes : List JobOutcome}
    (H : run.SeesFailed n outcomes) : ∃ job reason, firstFailure? outcomes = some (job, reason) ∧
      Timed.run (run.await run.source) run.start run.world = run.abortedAt n job reason := by
  obtain ⟨job, reason, hfirst, hanswer⟩ := answer_of_seesFailed H
  obtain ⟨hscheduled, hreaches, hadmits, _⟩ := H
  have hcompleted : run.completed = _ :=
    Poll.Wait.run_await_of_failed (run.jobsTarget.name ++ " to complete") hreaches hadmits hanswer
  have hended : run.start + run.scheduled.took ≤ run.completing.ended (n + 1) :=
    run.completing.ended_mono (Nat.zero_le _)
  have htook : run.scheduled.took + (run.completing.ended (n + 1) - run.completing.start) =
      run.completing.ended (n + 1) - run.start := by
    change _ + (_ - (run.start + run.scheduled.took)) = _
    omega
  refine ⟨job, reason, hfirst, ?_⟩
  rw [run_await_of_scheduled hscheduled, hcompleted, htook, abortedAt]

end CleanerRun

open CleanerRun in
/-- Waiting for an index cleaner's run is a wait for its scheduled job, in which the extra time is added
to the timeout, and if that succeeds a wait for its jobs with the timeout as it is. The first asks
about nothing but the scheduled job and the second about nothing but its jobs, once in each check.
Where a check of the second sees a failed job and no complete one, all is over when it ends. -/
theorem awaitIndexCleanerRun_in_turn (run : CleanerRun σ) :
    let first := run.scheduling.spec
    let result := Timed.run (awaitIndexCleanerRun run.source run.ns run.instanceName run.spec
      run.extraTimeout) run.start run.world
    (first.timeout.nanos = min Duration.maxNanos (run.spec.timeout.nanos + run.extraTimeout.nanos) ∧
      first.interval = run.spec.interval ∧ first.expected = run.spec.expected) ∧
    (∃ queries, run.Course queries result ∧
      ∀ record, Timed.run (awaitIndexCleanerRun run.source.recorded run.ns run.instanceName run.spec
          run.extraTimeout) run.start ⟨record, run.world⟩ = result.recorded (record ++ queries)) ∧
    ∀ n outcomes, run.SeesFailed n outcomes →
      ∃ job reason, firstFailure? outcomes = some (job, reason) ∧
        result = run.abortedAt n job reason := by
  intro first result
  refine ⟨⟨?timeout, rfl, rfl⟩, ?course, ?failed⟩
  case timeout => exact Nat.min_comm ..
  case course => exact run.exists_course
  case failed => exact fun n outcomes H => run_await_of_seesFailed H

/-- A cluster where every job is scheduled, and the one run there was has failed. -/
def Source.broken : Source Unit where
  replicaStatus _ := pure none
  scheduledJobExists _ := pure true
  ownedJobOutcomes _ := pure [.running, .failed "cleaner-28000000" "BackoffLimitExceeded"]

def brokenRun : CleanerRun Unit :=
  ⟨.broken, "tracing", "simple-prod", .standard, .ofSeconds 60, 0, ()⟩

theorem brokenRun_in_turn :
    let outcomes := [.running, .failed "cleaner-28000000" "BackoffLimitExceeded"]
    brokenRun.SeesFailed 0 outcomes ∧
      ∃ job reason, firstFailure? outcomes = some (job, reason) ∧
        Timed.run (awaitIndexCleanerRun brokenRun.source brokenRun.ns brokenRun.instanceName
            brokenRun.spec brokenRun.extraTimeout) brokenRun.start brokenRun.world =
          brokenRun.abortedAt 0 job reason := by
  intro outcomes
  have hscheduled : brokenRun.scheduled = _ :=
    Poll.Wait.run_await_of_met _ Poll.Wait.reaches_zero (by decide) rfl rfl
  have hadmits : brokenRun.completing.Admits 0 := Poll.Spec.hasTime_iff.mpr (.inr (by decide))
  have hsees : brokenRun.SeesFailed 0 outcomes :=
    ⟨congrArg Outcome.value hscheduled, Poll.Wait.reaches_zero, hadmits, rfl, by decide,
      "cleaner-28000000", "BackoffLimitExceeded", by decide⟩
  obtain ⟨_, _, hfailed⟩ := awaitIndexCleanerRun_in_turn brokenRun
  exact ⟨hsees, hfailed 0 outcomes hsees⟩

end IndexWatch.Workload
