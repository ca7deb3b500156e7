import IndexWatch.Proofs.Cluster.Request
import IndexWatch.Proofs.Workload.Completion
import IndexWatch.Proofs.Workload.Readiness

/-! # Watches and the answers of the API

The four watches of a cluster's workloads ask its API once in each check. `Reading` says apart from
the wait what a watch asks for and what it makes of the answer, and `Attentive` what follows for the
wait: a missing object is seen as a workload that is not there, any other failure ends the watch with an
error that names the workload, and a watch that ends otherwise saw no failure. `watches_attentive` says
this of the four watches. A watch for what is not there does not go on polling when it finds nothing:
`unscheduled_ends_watch`. -/

namespace IndexWatch.Cluster

open Workload

variable {σ α : Type}

/-- What a watch asks the API for, and what it makes of the answer. -/
structure Reading (α : Type) where
  target : Target
  request : Except RequestFault String
  decode : Decode α
  /-- Whether the object may be missing. -/
  mayMiss : Bool
  /-- What is made of an object, or of its absence. -/
  judge : Option α → Except Error Bool
  judge_none : mayMiss = true → judge none = .ok false
  not_deadline : ∀ found e, judge found = .error e → e.isDeadline = false

namespace Reading

def replicas (resource : Resource) (target : Target) : Reading Replicas where
  target := target
  request := objectTarget resource target.ns target.ownerName
  decode := Replicas.decode resource
  mayMiss := true
  judge found := .ok ((found.map Replicas.status).any ReplicaStatus.isReady)
  judge_none _ := rfl
  not_deadline _ _ h := nomatch h

def existence (target : Target) : Reading Unit where
  target := target
  request := objectTarget .cronJobs target.ns target.ownerName
  decode := decodeScheduledJob
  mayMiss := true
  judge found := .ok found.isSome
  judge_none _ := rfl
  not_deadline _ _ h := nomatch h

theorem isDeadline_of_judge {target : Target} {jobs : List Job} {e : Error}
    (h : Cluster.judge target jobs = .error e) : e.isDeadline = false := by
  cases judge_eq_iff.mp h with
  | failed => rfl

def ownedJobs (target : Target) : Reading (List Job) where
  target := target
  request := listTarget .jobs target.ns none
  decode := decodeListOf Job.decode
  mayMiss := false
  judge found := Cluster.judge target (found.getD [])
  judge_none h := nomatch h
  not_deadline _ _ h := isDeadline_of_judge h

section
variable (reading : Reading α) (api : Api σ)

/-- A failure that says that an object is missing which may be missing. -/
def tolerates (failure : Failure) : Bool := reading.mayMiss && failure.isNotFound

def read : Timed σ (Except Failure α) := api.read reading.request reading.decode

/-- What is read, or nothing where the object is missing. -/
def fetch : Timed σ (Except Failure (Option α)) := do
  match ← reading.read api with
  | .ok object => return .ok (some object)
  | .error failure => return if reading.tolerates failure then .ok none else .error failure

def check : Attempt σ Bool := do
  let found ← fetched reading.target (reading.fetch api)
  .ofExcept (reading.judge found)

end

section
variable (reading : Reading α) (api : Api σ) (spec : Poll.Spec Bool) (start : Nat) (world : σ)

/-- The wait that the watch is when it begins at `start` in `world`. -/
def waitOn : Poll.Wait σ Bool := ⟨spec, reading.check api, start, world⟩

/-- The check that `n` checks come before is made. -/
def Makes (n : Nat) : Prop :=
  (reading.waitOn api spec start world).Reaches n ∧ (reading.waitOn api spec start world).Admits n

/-- What the API answers that check. -/
def answerAt (n : Nat) : Except Failure α :=
  let wait := reading.waitOn api spec start world
  ((reading.read api).run (wait.begun n) (wait.worldAt n)).value

/-- The request that a check sends which begins at `now`, if the request can be made. -/
def requestOf (now : Nat) : List (Nat × String) :=
  match reading.request with
  | .error _ => []
  | .ok request => [(now, request)]

/-- What a watch makes of the answers of the API. -/
structure Attentive (task : ∀ {σ : Type}, Api σ → Attempt σ Unit) : Prop where
  /-- A missing object is seen as a workload that is not there, and polling goes on exactly where the
  contrary is waited for. -/
  missing : ∀ n failure, reading.Makes api spec start world n →
    reading.answerAt api spec start world n = .error failure → reading.tolerates failure = true →
    (reading.waitOn api spec start world).answer n = .ok false ∧
      ((reading.waitOn api spec start world).Reaches (n + 1) ↔ spec.expected = true)
  /-- Any other failure ends the watch with the check. -/
  failing : ∀ n failure, reading.Makes api spec start world n →
    reading.answerAt api spec start world n = .error failure → reading.tolerates failure = false →
    Timed.run (task api) start world =
      ⟨(reading.waitOn api spec start world).ended (n + 1) - start, false,
        (reading.waitOn api spec start world).worldAt (n + 1),
        .error (.workloadFetch reading.target.kind reading.target.ns reading.target.ownerName
          failure.message)⟩
  /-- A watch that ends well or for want of time saw no such failure. -/
  clean : (Timed.run (task api) start world).value = .ok () ∨
      (∃ condition elapsed expected lastObserved, (Timed.run (task api) start world).value =
        .error (.deadlineExceeded condition elapsed expected lastObserved)) →
    ∀ n failure, reading.Makes api spec start world n →
      reading.answerAt api spec start world n = .error failure → reading.tolerates failure = true
  timedOut_iff : WatchState.ofResult (Timed.run (task api) start world).value = .timedOut ↔
    ∃ n, (reading.waitOn api spec start world).Reaches n ∧
      ¬ (reading.waitOn api spec start world).Admits n
  failed_iff : WatchState.ofResult (Timed.run (task api) start world).value = .failed ↔
    ∃ n e, reading.Makes api spec start world n ∧
      (reading.waitOn api spec start world).answer n = .error e
  /-- Each check sends one request at most, and that is for the workload. -/
  asks : ∀ record, Timed.run (task api.recorded) start ⟨record, world⟩ =
    (Timed.run (task api) start world).recorded
      (record ++ Poll.asks reading.requestOf (Poll.run spec (reading.check api) start world).checks)

end

variable {reading : Reading α} {api : Api σ} {spec : Poll.Spec Bool} {start : Nat} {world : σ}

/-! ## One check -/

theorem value_check (now : Nat) :
    (Timed.run (reading.check api) now world).value =
      match ((reading.read api).run now world).value with
      | .ok object => reading.judge (some object)
      | .error failure =>
        if reading.tolerates failure then .ok false
        else .error (reading.target.fetchError failure.message) := by
  have hfetch : ((reading.fetch api).run now world).value =
      match ((reading.read api).run now world).value with
      | .ok object => .ok (some object)
      | .error failure => if reading.tolerates failure then .ok none else .error failure := by
    simp only [fetch, Timed.run_bind]
    cases ((reading.read api).run now world).value <;> rfl
  have hfetched := value_fetched reading.target (reading.fetch api) now world
  rw [hfetch] at hfetched
  unfold check
  cases hread : ((reading.read api).run now world).value with
  | ok object =>
    rw [hread] at hfetched
    rw [Attempt.run_bind_ok hfetched]
    rfl
  | error failure =>
    simp only [hread] at hfetched ⊢
    cases htolerates : reading.tolerates failure with
    | true =>
      simp only [htolerates, if_true] at hfetched ⊢
      have hmay : reading.mayMiss = true := by
        rw [tolerates, Bool.and_eq_true] at htolerates
        exact htolerates.1
      rw [Attempt.run_bind_ok hfetched]
      exact reading.judge_none hmay
    | false =>
      simp only [htolerates, Bool.false_eq_true, if_false] at hfetched ⊢
      rw [Attempt.run_bind_error hfetched]

theorem follows_read :
    Recorded.Follows Recorded.mk (reading.read api.recorded) (reading.read api) fun now _ =>
      reading.requestOf now :=
  api.follows_read reading.request reading.decode

theorem follows_check :
    Recorded.Follows Recorded.mk (reading.check api.recorded).run (reading.check api).run
      fun now _ => reading.requestOf now := by
  have hfetch : Recorded.Follows Recorded.mk (reading.fetch api.recorded) (reading.fetch api)
      fun now _ => reading.requestOf now :=
    follows_read.bind_quiet fun answer => by cases answer <;> exact Recorded.follows_pure _
  have hfetched : Recorded.Follows Recorded.mk
      (fetched reading.target (reading.fetch api.recorded)).run
      (fetched reading.target (reading.fetch api)).run fun now _ => reading.requestOf now :=
    hfetch.bind_quiet fun found => by cases found <;> exact Recorded.follows_pure _
  exact hfetched.judged reading.judge

/-! ## The whole watch -/

theorem answer_eq (n : Nat) :
    (reading.waitOn api spec start world).answer n =
      match reading.answerAt api spec start world n with
      | .ok object => reading.judge (some object)
      | .error failure =>
        if reading.tolerates failure then .ok false
        else .error (reading.target.fetchError failure.message) :=
  value_check _

section
variable {n : Nat} {failure : Failure} (hmakes : reading.Makes api spec start world n)
  (hanswer : reading.answerAt api spec start world n = .error failure)
  (htolerates : reading.tolerates failure = true)

include hanswer htolerates in
theorem answer_of_absent : (reading.waitOn api spec start world).answer n = .ok false := by
  rw [answer_eq, hanswer]
  simp [htolerates]

include hmakes hanswer htolerates

theorem reaches_succ_of_absent :
    (reading.waitOn api spec start world).Reaches (n + 1) ↔ spec.expected = true := by
  have hmisses : (false == spec.expected) = false ↔ spec.expected = true := by
    cases spec.expected <;> decide
  rw [Poll.Wait.reaches_succ, Poll.Wait.Misses, answer_of_absent hanswer htolerates, ← hmisses]
  constructor
  · rintro ⟨_, _, _, ⟨⟩, H⟩
    exact H
  · intro H
    exact ⟨hmakes.1, hmakes.2, false, rfl, H⟩

/-- Where `false` is expected, a missing object ends the wait well. -/
theorem value_await_of_absent (condition : String) (hexpected : spec.expected = false) :
    (Timed.run (Poll.await condition spec (reading.check api)) start world).value = .ok () := by
  let wait := reading.waitOn api spec start world
  have hfalse : wait.answer n = .ok false := answer_of_absent hanswer htolerates
  have hmet : (false == wait.spec.expected) = true := beq_iff_eq.mpr hexpected.symm
  exact wait.value_await_eq_ok_iff.mpr ⟨n, false, hmakes.1, hmakes.2, hfalse, hmet⟩

end

/-- A check never fails as a wait does that runs out of time. -/
theorem isDeadline_of_answer {n : Nat} {e : Error}
    (h : (reading.waitOn api spec start world).answer n = .error e) : e.isDeadline = false := by
  rw [answer_eq] at h
  split at h
  · exact reading.not_deadline _ e h
  · split at h
    · contradiction
    · cases h
      rfl

theorem ofResult_eq_timedOut_iff {result : Except Error Unit} :
    WatchState.ofResult result = .timedOut ↔ ∃ e, result = .error e ∧ e.isDeadline = true := by
  cases result with
  | ok => simp [WatchState.ofResult]
  | error e => cases h : e.isDeadline <;> simp [WatchState.ofResult, h]

theorem ofResult_eq_failed_iff {result : Except Error Unit} :
    WatchState.ofResult result = .failed ↔ ∃ e, result = .error e ∧ e.isDeadline = false := by
  cases result with
  | ok => simp [WatchState.ofResult]
  | error e => cases h : e.isDeadline <;> simp [WatchState.ofResult, h]

/-- A watch that polls with the check of a reading is attentive. -/
theorem attentive {task : ∀ {σ : Type}, Api σ → Attempt σ Unit} {condition : String}
    (htask : ∀ {σ : Type} (api : Api σ),
      task api = Poll.await condition spec (reading.check api)) :
    reading.Attentive api spec start world task := by
  let wait := reading.waitOn api spec start world
  have hrun : Timed.run (task api) start world =
      Timed.run (Poll.await condition wait.spec wait.check) wait.start wait.world := by
    rw [htask]
    rfl
  have hfailing : ∀ n failure, reading.Makes api spec start world n →
      reading.answerAt api spec start world n = .error failure → reading.tolerates failure = false →
      Timed.run (task api) start world =
        ⟨wait.ended (n + 1) - start, false, wait.worldAt (n + 1),
          .error (reading.target.fetchError failure.message)⟩ := by
    intro n failure hmakes hanswer htolerates
    have herror : wait.answer n = .error (reading.target.fetchError failure.message) := by
      rw [answer_eq, hanswer]
      simp [htolerates]
    rw [hrun, Poll.Wait.run_await_of_failed condition hmakes.1 hmakes.2 herror]
    rfl
  constructor
  case missing =>
    intro n failure hmakes hanswer htolerates
    exact ⟨answer_of_absent hanswer htolerates, reaches_succ_of_absent hmakes hanswer htolerates⟩
  case failing => exact hfailing
  case clean =>
    intro hends n failure hmakes hanswer
    cases htolerates : reading.tolerates failure with
    | true => rfl
    | false =>
      rw [hfailing n failure hmakes hanswer htolerates] at hends
      rcases hends with hok | ⟨_, _, _, _, hdeadline⟩
      · contradiction
      · cases Except.error.inj hdeadline
  case timedOut_iff =>
    rw [ofResult_eq_timedOut_iff, hrun]
    constructor
    · rintro ⟨e, herror, hdeadline⟩
      rcases wait.value_await_eq_error_iff.mp herror with ⟨n, _, _, hanswer⟩ | ⟨n, H, h, _⟩
      · rw [isDeadline_of_answer hanswer] at hdeadline
        contradiction
      · exact ⟨n, H, h⟩
    · rintro ⟨n, H, h⟩
      exact ⟨_, wait.value_await_eq_error_iff.mpr (.inr ⟨n, H, h, rfl⟩), rfl⟩
  case failed_iff =>
    rw [ofResult_eq_failed_iff, hrun]
    constructor
    · rintro ⟨e, herror, hdeadline⟩
      rcases wait.value_await_eq_error_iff.mp herror with ⟨n, H, h, hanswer⟩ | ⟨n, _, _, rfl⟩
      · exact ⟨n, e, ⟨H, h⟩, hanswer⟩
      · contradiction
    · rintro ⟨n, e, ⟨H, h⟩, hanswer⟩
      exact ⟨e, wait.value_await_eq_error_iff.mpr (.inl ⟨n, H, h, hanswer⟩),
        isDeadline_of_answer hanswer⟩
  case asks =>
    intro record
    rw [htask, htask]
    exact Poll.Wait.follows_await follows_check condition spec start record world

/-! ## The four watches -/

theorem replicasReady_eq_check (resource : Resource) {target : Target}
    (h : (workloads api).replicaStatus target = replicasOf api resource target) :
    replicasReady (workloads api) target = (replicas resource target).check api := by
  simp only [replicasReady, h, replicasOf, bind_assoc, pure_bind]
  rfl

theorem scheduledJobExists_eq_check (target : Target) :
    scheduledJobExists (workloads api) target = (existence target).check api := rfl

/-- What must not be missing is judged as it is read. -/
theorem check_of_required (h : reading.mayMiss = false) :
    reading.check api = fetched reading.target (reading.read api) >>= fun object =>
      .ofExcept (reading.judge (some object)) := by
  have htolerates (failure : Failure) : reading.tolerates failure = false := by
    rw [tolerates, h, Bool.false_and]
  change ExceptT.mk (((reading.read api >>= _) >>= _) >>= _) =
    ExceptT.mk ((reading.read api >>= _) >>= _)
  simp only [bind_assoc, htolerates, Bool.false_eq_true, if_false]
  refine congrArg (reading.read api >>= ·) (funext fun answer => ?_)
  cases answer <;> simp [ExceptT.bindCont]

theorem triggeredJobCompleted_eq_check (target : Target) :
    triggeredJobCompleted (workloads api) target = (ownedJobs target).check api := by
  rw [check_of_required rfl]
  simp only [triggeredJobCompleted, workloads, Api.list, ownedJobs, read, Cluster.judge,
    Option.getD_some, bind_assoc, pure_bind]

end Reading

/-- Each of the four watches is attentive to what the API answers about its workload. -/
theorem watches_attentive (api : Api σ) (spec : Poll.Spec Bool) (start : Nat) (world : σ)
    (ns name : String) :
    (Reading.replicas .deployments ⟨ns, name, .deployment⟩).Attentive api spec start world
        (fun api => awaitDeployment (workloads api) ns name spec) ∧
      (Reading.replicas .statefulSets ⟨ns, name, .statefulSet⟩).Attentive api spec start world
        (fun api => awaitStatefulSet (workloads api) ns name spec) ∧
      (Reading.existence ⟨ns, name, .scheduledJob⟩).Attentive api spec start world
        (fun api => awaitScheduledJob (workloads api) ns name spec) ∧
      (Reading.ownedJobs ⟨ns, name, .triggeredJob⟩).Attentive api spec start world
        (fun api => awaitJobOf (workloads api) ns name spec) := by
  refine ⟨?deployment, ?statefulSet, ?scheduledJob, ?jobOf⟩
  case deployment =>
    exact Reading.attentive fun _ =>
      congrArg (Poll.await _ spec) (Reading.replicasReady_eq_check .deployments rfl)
  case statefulSet =>
    exact Reading.attentive fun _ =>
      congrArg (Poll.await _ spec) (Reading.replicasReady_eq_check .statefulSets rfl)
  case scheduledJob =>
    exact Reading.attentive fun _ =>
      congrArg (Poll.await _ spec) (Reading.scheduledJobExists_eq_check _)
  case jobOf =>
    exact Reading.attentive fun _ =>
      congrArg (Poll.await _ spec) (Reading.triggeredJobCompleted_eq_check _)

/-- The answer about an object that there is not. -/
def notFound : Response where
  status := 404
  body := Json.render <| .object
    [("status", .string "Failure"), ("reason", .string "NotFound"), ("code", .integer 404)]

/-- A server that knows of no object. -/
def Api.vacant : Api Unit := ⟨fun _ => pure (.ok notFound)⟩

/-- A watch until a scheduled job is gone is over by its first check when there is no such job. -/
theorem unscheduled_ends_watch :
    let reading := Reading.existence ⟨"tracing", "simple-prod", .scheduledJob⟩
    let wait := reading.waitOn .vacant untilGone 0 ()
    reading.Makes .vacant untilGone 0 () 0 ∧
      (∃ failure, reading.answerAt .vacant untilGone 0 () 0 = .error failure ∧
        reading.tolerates failure = true) ∧
      ¬ wait.Reaches 1 ∧
      (Timed.run (awaitScheduledJob (workloads .vacant) "tracing" "simple-prod" untilGone) 0
        ()).value = .ok () := by
  intro reading wait
  have hmakes : reading.Makes .vacant untilGone 0 () 0 := ⟨Poll.Wait.reaches_zero, by decide⟩
  have hreport : StatusReport.ofResponse notFound = ⟨"Failure", "", "NotFound", 404⟩ := by
    decide +kernel
  have hanswer : reading.answerAt .vacant untilGone 0 () 0 =
      .error (.refused ⟨"Failure", "", "NotFound", 404⟩) := by
    rw [← hreport]
    rfl
  have hfails : reading.tolerates (.refused ⟨"Failure", "", "NotFound", 404⟩) = true := by decide
  refine ⟨hmakes, ⟨_, hanswer, hfails⟩, ?_, ?_⟩
  · rw [Reading.reaches_succ_of_absent hmakes hanswer hfails]
    exact Bool.false_ne_true
  · exact Reading.value_await_of_absent hmakes hanswer hfails _ rfl

end IndexWatch.Cluster
