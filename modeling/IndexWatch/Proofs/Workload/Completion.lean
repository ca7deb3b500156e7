import IndexWatch.Cluster.Workloads

/-! # What the jobs of a cluster say about a scheduled job

`Verdict` says what a list of jobs comes to: the scheduled job has done its work if one of its jobs is
complete, else it failed if one of them did, and else nothing is known yet. `verdict_of_jobs` says that
the check of the jobs of a cluster comes to this, and what cannot change it: the jobs of others, and
the order of jobs and conditions, on which only the blame for a failure depends. -/

namespace IndexWatch.Cluster

open Workload

/-- The job has an owner reference to the scheduled job. -/
def Job.Owned (job : Job) (owner : String) : Prop :=
  ∃ reference ∈ job.owners, reference.kind = "CronJob" ∧ reference.name = owner

/-- The condition is of a type, and is true. -/
def Condition.Holds (condition : Condition) (type : String) : Prop :=
  condition.type = type ∧ condition.status = "True"

def Job.Holds (job : Job) (type : String) : Prop :=
  ∃ condition ∈ job.conditions, condition.Holds type

/-- One of the jobs that the scheduled job owns has a true condition of a type. -/
def AnyHolds (owner : String) (jobs : List Job) (type : String) : Prop :=
  ∃ job ∈ jobs, job.Owned owner ∧ job.Holds type

/-- The first element of a list that has a property. -/
inductive FirstWith {α : Type} (p : α → Prop) : List α → α → Prop
  | intro {before : List α} {a : α} {after : List α} :
    (∀ b ∈ before, ¬ p b) → p a → FirstWith p (before ++ a :: after) a

/-- What is reported of a job that failed as one of its conditions says. -/
def Job.failure (target : Target) (job : Job) (condition : Condition) : Error :=
  let reason := (condition.reason.or condition.message).getD "Failed"
  .workloadFailed .triggeredJob target.ns (job.name.getD "")
    s!"{reason} (owned by CronJob {target.ownerName})"

/-- What a list of jobs comes to for the scheduled job that the target names. -/
inductive Verdict (target : Target) (jobs : List Job) : Except Error Bool → Prop
  | complete : AnyHolds target.ownerName jobs "Complete" → Verdict target jobs (.ok true)
  | failed {job condition} : ¬ AnyHolds target.ownerName jobs "Complete" →
    FirstWith (fun job => job.Owned target.ownerName ∧ job.Holds "Failed") jobs job →
    FirstWith (·.Holds "Failed") job.conditions condition →
    Verdict target jobs (.error (job.failure target condition))
  | running : ¬ AnyHolds target.ownerName jobs "Complete" →
    ¬ AnyHolds target.ownerName jobs "Failed" → Verdict target jobs (.ok false)

/-- What the check of a cluster's jobs makes of their list. -/
def judge (target : Target) (jobs : List Job) : Except Error Bool :=
  completion target ((jobs.filter (·.isOwnedBy target.ownerName)).map Job.outcome)

theorem value_fetched {σ α : Type} (target : Target) (task : Timed σ (Except Failure α)) (now : Nat)
    (world : σ) :
    (Timed.run (fetched target task) now world).value =
      match (task.run now world).value with
      | .ok value => .ok value
      | .error failure => .error (target.fetchError failure.message) := by
  simp only [fetched, Attempt.ofTimed, ExceptT.mk, Timed.run_bind]
  cases (task.run now world).value <;> rfl

/-- The check asks for the jobs of the namespace and judges their list. -/
theorem value_triggeredJobCompleted {σ : Type} (api : Api σ) (target : Target) (now : Nat)
    (world : σ) :
    (Timed.run (triggeredJobCompleted (workloads api) target) now world).value =
      match ((api.list .jobs target.ns none Job.decode).run now world).value with
      | .ok jobs => judge target jobs
      | .error failure => .error (target.fetchError failure.message) := by
  have hfetched := value_fetched target (api.list .jobs target.ns none Job.decode) now world
  simp only [triggeredJobCompleted, workloads, bind_assoc, pure_bind]
  cases h : ((api.list .jobs target.ns none Job.decode).run now world).value with
  | ok jobs =>
    rw [h] at hfetched
    rw [Attempt.run_bind_ok hfetched]
    rfl
  | error failure =>
    rw [h] at hfetched
    rw [Attempt.run_bind_error hfetched]

/-! ## First elements -/

section
variable {α : Type} {p : α → Prop} {l : List α} {a : α}

theorem FirstWith.mem (H : FirstWith p l a) : a ∈ l := by
  cases H
  simp

theorem FirstWith.holds (H : FirstWith p l a) : p a := by
  cases H
  assumption

theorem firstWith_iff_find? {q : α → Bool} (hq : ∀ a, q a = true ↔ p a) :
    FirstWith p l a ↔ l.find? q = some a := by
  simp only [List.find?_eq_some_iff_append, Bool.not_eq_eq_eq_not, Bool.not_true]
  constructor
  · rintro ⟨hbefore, ha⟩
    exact ⟨(hq a).mpr ha, _, _, rfl, fun b hb =>
      Bool.eq_false_iff.mpr fun h => hbefore b hb ((hq b).mp h)⟩
  · rintro ⟨ha, before, after, rfl, hbefore⟩
    refine ⟨fun b hb h => ?_, (hq a).mp ha⟩
    have hfalse := hbefore b hb
    rw [(hq b).mpr h] at hfalse
    contradiction

theorem exists_firstWith (h : ∃ a ∈ l, p a) : ∃ a, FirstWith p l a := by
  classical
  obtain ⟨a, ha, hp⟩ := h
  have hsome : (l.find? (decide <| p ·)).isSome := by
    rw [List.find?_isSome]
    exact ⟨a, ha, decide_eq_true hp⟩
  obtain ⟨first, hfirst⟩ := Option.isSome_iff_exists.mp hsome
  exact ⟨first, (firstWith_iff_find? fun _ => decide_eq_true_iff).mpr hfirst⟩

end

/-! ## One job -/

namespace Job

variable {job : Job} {owner type : String} {condition : Condition}

theorem isOwnedBy_iff : job.isOwnedBy owner = true ↔ job.Owned owner := by
  simp [isOwnedBy, Owned]

theorem holding?_eq_some_iff :
    job.holding? type = some condition ↔ FirstWith (·.Holds type) job.conditions condition :=
  (firstWith_iff_find? fun _ => by simp [Condition.Holds]).symm

theorem isSome_holding?_iff : (job.holding? type).isSome = true ↔ job.Holds type := by
  simp [holding?, Holds, Condition.Holds]

theorem holding?_eq_none (h : ¬ job.Holds type) : job.holding? type = none := by
  rw [← Option.not_isSome_iff_eq_none, isSome_holding?_iff]
  exact h

theorem outcome_eq_complete_iff : job.outcome = .complete ↔ job.Holds "Complete" := by
  rw [← isSome_holding?_iff, outcome]
  split
  · simp [*]
  · split <;> simp [*]

theorem outcome_of_failed (h : ¬ job.Holds "Complete")
    (H : FirstWith (·.Holds "Failed") job.conditions condition) :
    job.outcome =
      .failed (job.name.getD "") ((condition.reason.or condition.message).getD "Failed") := by
  rw [outcome, holding?_eq_none h, holding?_eq_some_iff.mpr H]
  rfl

theorem outcome_of_running (hcomplete : ¬ job.Holds "Complete") (hfailed : ¬ job.Holds "Failed") :
    job.outcome = .running := by
  rw [outcome, holding?_eq_none hcomplete, holding?_eq_none hfailed]
  rfl

end Job

/-! ## A list of jobs -/

variable {target : Target} {jobs jobs' : List Job} {owner : String}

theorem contains_complete_iff :
    ((jobs.filter (·.isOwnedBy owner)).map Job.outcome).contains .complete = true ↔
      AnyHolds owner jobs "Complete" := by
  simp only [List.contains_iff_mem, List.mem_map, List.mem_filter, Job.isOwnedBy_iff,
    Job.outcome_eq_complete_iff, AnyHolds, and_assoc]

/-- Jobs of which the scheduled job owns none that failed come before the first failure. -/
theorem firstFailure?_append {before : List Job} (rest : List JobOutcome)
    (hcomplete : ¬ AnyHolds owner before "Complete") (hfailed : ¬ AnyHolds owner before "Failed") :
    firstFailure? ((before.filter (·.isOwnedBy owner)).map Job.outcome ++ rest) =
      firstFailure? rest := by
  have hrunning : ∀ outcome ∈ (before.filter (·.isOwnedBy owner)).map Job.outcome,
      outcome = .running := by
    simp only [List.mem_map, List.mem_filter, Job.isOwnedBy_iff]
    rintro _ ⟨job, ⟨hjob, howned⟩, rfl⟩
    exact Job.outcome_of_running (fun h => hcomplete ⟨job, hjob, howned, h⟩)
      fun h => hfailed ⟨job, hjob, howned, h⟩
  generalize (before.filter (·.isOwnedBy owner)).map Job.outcome = outcomes at hrunning
  induction outcomes with
  | nil => rfl
  | cons outcome outcomes ih =>
    obtain rfl := hrunning outcome (List.mem_cons_self ..)
    exact ih fun other hother => hrunning other (List.mem_cons_of_mem _ hother)

theorem judge_of_complete (h : AnyHolds target.ownerName jobs "Complete") :
    judge target jobs = .ok true := by
  rw [judge, completion, if_pos (contains_complete_iff.mpr h)]

theorem judge_of_failed {job : Job} {condition : Condition}
    (hcomplete : ¬ AnyHolds target.ownerName jobs "Complete")
    (hjob : FirstWith (fun job => job.Owned target.ownerName ∧ job.Holds "Failed") jobs job)
    (hcondition : FirstWith (·.Holds "Failed") job.conditions condition) :
    judge target jobs = .error (job.failure target condition) := by
  obtain ⟨howned, _⟩ := hjob.holds
  have hrunning : ¬ job.Holds "Complete" := fun h => hcomplete ⟨job, hjob.mem, howned, h⟩
  obtain ⟨hbefore⟩ := hjob
  rename_i before after _
  have hfirst : firstFailure? (((before ++ job :: after).filter
      (·.isOwnedBy target.ownerName)).map Job.outcome) =
        some (job.name.getD "", (condition.reason.or condition.message).getD "Failed") := by
    rw [List.filter_append, List.map_append, firstFailure?_append]
    · rw [List.filter_cons, if_pos (Job.isOwnedBy_iff.mpr howned), List.map_cons,
        Job.outcome_of_failed hrunning hcondition, firstFailure?]
    · rintro ⟨other, hother, h⟩
      exact hcomplete ⟨other, List.mem_append_left _ hother, h⟩
    · rintro ⟨other, hother, h⟩
      exact hbefore other hother h
  rw [judge, completion, if_neg (mt contains_complete_iff.mp hcomplete), hfirst]
  rfl

theorem judge_of_running (hcomplete : ¬ AnyHolds target.ownerName jobs "Complete")
    (hfailed : ¬ AnyHolds target.ownerName jobs "Failed") : judge target jobs = .ok false := by
  have hnone := firstFailure?_append [] hcomplete hfailed
  rw [List.append_nil] at hnone
  rw [judge, completion, if_neg (mt contains_complete_iff.mp hcomplete), hnone]
  rfl

theorem exists_verdict (target : Target) (jobs : List Job) : ∃ result, Verdict target jobs result := by
  by_cases hcomplete : AnyHolds target.ownerName jobs "Complete"
  · exact ⟨_, .complete hcomplete⟩
  by_cases hfailed : AnyHolds target.ownerName jobs "Failed"
  · obtain ⟨job, hjob⟩ := exists_firstWith hfailed
    obtain ⟨condition, hcondition⟩ := exists_firstWith hjob.holds.2
    exact ⟨_, .failed hcomplete hjob hcondition⟩
  · exact ⟨_, .running hcomplete hfailed⟩

theorem judge_of_verdict {result : Except Error Bool} (H : Verdict target jobs result) :
    judge target jobs = result := by
  cases H with
  | complete h => exact judge_of_complete h
  | failed hcomplete hjob hcondition => exact judge_of_failed hcomplete hjob hcondition
  | running hcomplete hfailed => exact judge_of_running hcomplete hfailed

/-- The check comes to the verdict that there is. -/
theorem judge_eq_iff {result : Except Error Bool} :
    judge target jobs = result ↔ Verdict target jobs result := by
  refine ⟨?_, judge_of_verdict⟩
  rintro rfl
  obtain ⟨result, H⟩ := exists_verdict target jobs
  rw [judge_of_verdict H]
  exact H

/-! ## What makes no difference -/

/-- The second list comes from the first by putting in and taking out jobs that the scheduled job does
not own. They are moved by taking them out and putting them in elsewhere. -/
inductive OthersChanged (owner : String) : List Job → List Job → Prop
  | inserted {before after : List Job} {job : Job} : ¬ job.Owned owner →
    OthersChanged owner (before ++ after) (before ++ job :: after)
  | removed {before after : List Job} {job : Job} : ¬ job.Owned owner →
    OthersChanged owner (before ++ job :: after) (before ++ after)
  | trans {jobs jobs' jobs'' : List Job} : OthersChanged owner jobs jobs' → OthersChanged owner jobs' jobs'' →
    OthersChanged owner jobs jobs''

/-- The second list comes from the first by changing the order of the jobs, and of the conditions of
single jobs. -/
inductive Rearranged : List Job → List Job → Prop
  | jobs {jobs jobs' : List Job} : jobs.Perm jobs' → Rearranged jobs jobs'
  | conditions {before after : List Job} {job : Job} {conditions : List Condition} :
    job.conditions.Perm conditions →
    Rearranged (before ++ job :: after) (before ++ { job with conditions } :: after)
  | trans {jobs jobs' jobs'' : List Job} : Rearranged jobs jobs' → Rearranged jobs' jobs'' →
    Rearranged jobs jobs''

/-- The same outcome: both are the same, or both report a failed job of the scheduled job. -/
inductive Alike (target : Target) : Except Error Bool → Except Error Bool → Prop
  | same {result} : Alike target result result
  | failed {job condition job' condition'} :
    Alike target (.error (Job.failure target job condition))
      (.error (Job.failure target job' condition'))

theorem OthersChanged.filter_eq (H : OthersChanged owner jobs jobs') :
    jobs.filter (·.isOwnedBy owner) = jobs'.filter (·.isOwnedBy owner) := by
  induction H with
  | inserted h => simp [Job.isOwnedBy_iff, h]
  | removed h => simp [Job.isOwnedBy_iff, h]
  | trans _ _ ih ih' => exact ih.trans ih'

theorem OthersChanged.judge_eq (H : OthersChanged target.ownerName jobs jobs') :
    judge target jobs = judge target jobs' := by
  rw [judge, H.filter_eq, judge]

theorem Rearranged.anyHolds_iff (H : Rearranged jobs jobs') (type : String) :
    AnyHolds owner jobs type ↔ AnyHolds owner jobs' type := by
  induction H with
  | jobs h => simp only [AnyHolds, h.mem_iff]
  | conditions h =>
    simp only [AnyHolds, List.mem_append, List.mem_cons, Job.Owned, Job.Holds, or_and_right,
      exists_or, exists_eq_left, h.mem_iff]
  | trans _ _ ih ih' => exact ih.trans ih'

/-- Which of the three outcomes a verdict is depends on nothing but whether an owned job is complete
and whether one has failed. -/
theorem Verdict.alike {result result' : Except Error Bool}
    (hcomplete : AnyHolds target.ownerName jobs "Complete" ↔
      AnyHolds target.ownerName jobs' "Complete")
    (hfailed : AnyHolds target.ownerName jobs "Failed" ↔ AnyHolds target.ownerName jobs' "Failed")
    (H : Verdict target jobs result) (H' : Verdict target jobs' result') :
    Alike target result result' := by
  have hsome {jobs : List Job} {job : Job} (h : FirstWith
      (fun job => job.Owned target.ownerName ∧ job.Holds "Failed") jobs job) :
      AnyHolds target.ownerName jobs "Failed" := ⟨job, h.mem, h.holds⟩
  cases H with
  | complete h =>
    cases H' with
    | complete => exact .same
    | failed h' => exact absurd (hcomplete.mp h) h'
    | running h' => exact absurd (hcomplete.mp h) h'
  | failed h hjob =>
    cases H' with
    | complete h' => exact absurd (hcomplete.mpr h') h
    | failed => exact .failed
    | running _ h' => exact absurd (hfailed.mp (hsome hjob)) h'
  | running h hnone =>
    cases H' with
    | complete h' => exact absurd (hcomplete.mpr h') h
    | failed _ hjob => exact absurd (hfailed.mpr (hsome hjob)) hnone
    | running => exact .same

theorem Rearranged.alike (H : Rearranged jobs jobs') :
    Alike target (judge target jobs) (judge target jobs') :=
  Verdict.alike (H.anyHolds_iff _) (H.anyHolds_iff _) (judge_eq_iff.mp rfl) (judge_eq_iff.mp rfl)

theorem cleanerJobName_injective : Function.Injective cleanerJobName := by
  intro name name' h
  exact (String.append_left_inj _).mp h

/-- The jobs of the cleaners of other instances are not those of an instance's own. -/
theorem not_owned_of_other {job : Job} {instanceName : String}
    (h : ∀ reference ∈ job.owners, reference.kind = "CronJob" →
      ∃ other, other ≠ instanceName ∧ reference.name = cleanerJobName other) :
    ¬ job.Owned (cleanerJobName instanceName) := by
  rintro ⟨reference, hreference, hkind, hname⟩
  obtain ⟨other, hother, hname'⟩ := h reference hreference hkind
  exact hother (cleanerJobName_injective (hname'.symm.trans hname))

/-- The check of a cluster's jobs comes to the verdict on their list, which the jobs of others cannot
change, those of other instances' cleaners among them, and of which the order of jobs and conditions
changes nothing but the blame for a failure. -/
theorem verdict_of_jobs (target : Target) :
    (∀ {σ : Type} (api : Api σ) (now : Nat) (world : σ),
      (Timed.run (triggeredJobCompleted (workloads api) target) now world).value =
        match ((api.list .jobs target.ns none Job.decode).run now world).value with
        | .ok jobs => judge target jobs
        | .error failure => .error (target.fetchError failure.message)) ∧
    (∀ jobs result, judge target jobs = result ↔ Verdict target jobs result) ∧
    (∀ jobs jobs', OthersChanged target.ownerName jobs jobs' →
      judge target jobs = judge target jobs') ∧
    (∀ jobs jobs', Rearranged jobs jobs' → Alike target (judge target jobs) (judge target jobs')) ∧
    Function.Injective cleanerJobName ∧
    ∀ (job : Job) (instanceName : String),
      (∀ reference ∈ job.owners, reference.kind = "CronJob" →
        ∃ other, other ≠ instanceName ∧ reference.name = cleanerJobName other) →
      ¬ job.Owned (cleanerJobName instanceName) := by
  refine ⟨?check, ?judge, ?others, ?order, cleanerJobName_injective, ?cleaners⟩
  case check => exact fun api now world => value_triggeredJobCompleted api target now world
  case judge => exact fun jobs result => judge_eq_iff
  case others => exact fun jobs jobs' H => H.judge_eq
  case order => exact fun jobs jobs' H => H.alike
  case cleaners => exact fun job instanceName h => not_owned_of_other h

/-- A failed job of a scheduled job. -/
def failedRun : Job :=
  ⟨some "cleaner-28000000", [⟨"CronJob", "simple-prod-es-index-cleaner"⟩],
    [⟨"Failed", "True", some "BackoffLimitExceeded", none⟩]⟩

/-- A complete job of another one. -/
def strangersRun : Job :=
  ⟨some "other-28000000", [⟨"CronJob", "other-es-index-cleaner"⟩], [⟨"Complete", "True", none, none⟩]⟩

theorem failedRun_beside_stranger :
    let target : Target := ⟨"tracing", "simple-prod-es-index-cleaner", .triggeredJob⟩
    ¬ strangersRun.Owned target.ownerName ∧
      judge target [failedRun] = judge target [strangersRun, failedRun] ∧
      Alike target (judge target [strangersRun, failedRun]) (judge target [failedRun, strangersRun]) := by
  intro target
  obtain ⟨_, _, hothers, horder, _, hcleaners⟩ := verdict_of_jobs target
  have hstranger : ¬ strangersRun.Owned (cleanerJobName "simple-prod") := by
    refine hcleaners strangersRun "simple-prod" fun reference hreference _ => ?_
    obtain rfl := List.mem_singleton.mp hreference
    exact ⟨"other", by decide, rfl⟩
  have hinserted : OthersChanged target.ownerName ([] ++ [failedRun])
      ([] ++ strangersRun :: [failedRun]) := .inserted hstranger
  exact ⟨hstranger, hothers _ _ hinserted, horder _ _ (.jobs (.swap ..))⟩

end IndexWatch.Cluster
