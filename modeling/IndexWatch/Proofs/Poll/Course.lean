import IndexWatch.Proofs.Poll.Schedule

/-! # The course of a wait

`Wait.Course` tells, without the loop, what a wait makes of its schedule: which checks are made, when
it is over, in which world, and what comes of it. `await_iff_course` says that this and nothing else
is what `Poll.await` does. -/

namespace IndexWatch.Poll

open Text

variable {σ α : Type} [BEq α] [Spelled α]

namespace Wait

section
variable (wait : Wait σ α) (condition : String)

/-- What a wait that is over at `finished` reports when it gave up. -/
def gaveUp (finished : Nat) (lastObserved : Option String) : Error :=
  .deadlineExceeded condition (.ofNanos (finished - wait.start)) (spell wait.spec.expected)
    lastObserved

/-- What the last of the first `n` checks saw. -/
def lastObserved (n : Nat) : Option String :=
  ((wait.checks n).getLast?.bind Check.observed?).map spell

/-- When a wait gives up that makes no check after its first `n`: at its deadline, or at the end of
a check that ran past it. -/
def givesUpAt (n : Nat) : Nat := max (wait.ended n) (Clock.ceilMilli wait.deadline)

/-- The courses a wait can take: the checks that are made, and what it leaves. -/
inductive Course : List (Check α) → Outcome σ (Except Error Unit) → Prop
  | met {n value} : wait.Reaches n → wait.Admits n → wait.answer n = .ok value →
    (value == wait.spec.expected) = true →
    Course (wait.checks (n + 1))
      ⟨wait.ended (n + 1) - wait.start, false, wait.worldAt (n + 1), .ok ()⟩
  | failed {n e} : wait.Reaches n → wait.Admits n → wait.answer n = .error e →
    Course (wait.checks (n + 1))
      ⟨wait.ended (n + 1) - wait.start, false, wait.worldAt (n + 1), .error e⟩
  | unchecked : ¬ wait.Admits 0 →
    Course []
      ⟨wait.givesUpAt 0 - wait.start, false, wait.world,
        .error (wait.gaveUp condition (wait.givesUpAt 0) none)⟩
  | expired {n value} : wait.Reaches (n + 1) → ¬ wait.Admits (n + 1) →
    wait.answer n = .ok value →
    Course (wait.checks (n + 1))
      ⟨wait.givesUpAt (n + 1) - wait.start, false, wait.worldAt (n + 1),
        .error (wait.gaveUp condition (wait.givesUpAt (n + 1)) (some (spell value)))⟩

end

variable {wait : Wait σ α} {condition : String}

theorem run_await :
    Timed.run (await condition wait.spec wait.check) wait.start wait.world =
      let run := run wait.spec wait.check wait.start wait.world
      ⟨run.finished - wait.start, false, run.world, run.result condition wait.spec wait.start⟩ :=
  rfl

theorem exists_course (wait : Wait σ α) (condition : String) :
    ∃ checks outcome, wait.Course condition checks outcome := by
  obtain ⟨n, H, h | ⟨h, hstops⟩⟩ := wait.exists_stops
  · cases n with
    | zero => exact ⟨_, _, .unchecked h⟩
    | succ n =>
      obtain ⟨_, _, value, hanswer, _⟩ := reaches_succ.mp H
      exact ⟨_, _, .expired H h hanswer⟩
  · rcases not_misses_iff.mp hstops with ⟨e, hanswer⟩ | ⟨value, hanswer, hmet⟩
    · exact ⟨_, _, .failed H h hanswer⟩
    · exact ⟨_, _, .met H h hanswer hmet⟩

/-- The course that there is is the one that is taken. -/
theorem Course.taken {checks : List (Check α)} {outcome : Outcome σ (Except Error Unit)}
    (H : wait.Course condition checks outcome) :
    (run wait.spec wait.check wait.start wait.world).checks = checks ∧
      Timed.run (await condition wait.spec wait.check) wait.start wait.world = outcome := by
  rw [run_await]
  cases H with
  | met H h hanswer hmet =>
    rw [run_of_met H h hanswer hmet]
    exact ⟨rfl, rfl⟩
  | failed H h hanswer =>
    rw [run_of_failed H h hanswer]
    exact ⟨rfl, rfl⟩
  | unchecked h =>
    rw [run_of_not_admits reaches_zero h]
    exact ⟨rfl, rfl⟩
  | expired H h hanswer =>
    rw [run_of_not_admits H h]
    refine ⟨rfl, ?_⟩
    simp only [Run.result, getLast?_checks_succ, Option.bind_some, observed?_checkAt hanswer]
    rfl

theorem run_await_of_met (condition : String) {n : Nat} {value : α} (H : wait.Reaches n)
    (h : wait.Admits n) (hanswer : wait.answer n = .ok value)
    (hmet : (value == wait.spec.expected) = true) :
    Timed.run (await condition wait.spec wait.check) wait.start wait.world =
      ⟨wait.ended (n + 1) - wait.start, false, wait.worldAt (n + 1), .ok ()⟩ :=
  (Course.met H h hanswer hmet).taken.2

theorem run_await_of_failed (condition : String) {n : Nat} {e : Error} (H : wait.Reaches n)
    (h : wait.Admits n) (hanswer : wait.answer n = .error e) :
    Timed.run (await condition wait.spec wait.check) wait.start wait.world =
      ⟨wait.ended (n + 1) - wait.start, false, wait.worldAt (n + 1), .error e⟩ :=
  (Course.failed H h hanswer).taken.2

theorem run_await_of_not_admits (condition : String) {n : Nat} (H : wait.Reaches n)
    (h : ¬ wait.Admits n) :
    Timed.run (await condition wait.spec wait.check) wait.start wait.world =
      ⟨wait.givesUpAt n - wait.start, false, wait.worldAt n,
        .error (wait.gaveUp condition (wait.givesUpAt n) (wait.lastObserved n))⟩ := by
  rw [run_await, run_of_not_admits H h]
  rfl

/-- A wait succeeds by a check that it reaches, has time for and is answered as expected. -/
theorem value_await_eq_ok_iff (wait : Wait σ α) :
    (Timed.run (await condition wait.spec wait.check) wait.start wait.world).value = .ok () ↔
      ∃ n value, wait.Reaches n ∧ wait.Admits n ∧ wait.answer n = .ok value ∧
        (value == wait.spec.expected) = true := by
  constructor
  · intro hok
    obtain ⟨_, _, H⟩ := wait.exists_course condition
    rw [H.taken.2] at hok
    cases H with
    | met H h hanswer hmet => exact ⟨_, _, H, h, hanswer, hmet⟩
    | _ => simp at hok
  · rintro ⟨n, value, H, h, hanswer, hmet⟩
    rw [run_await_of_met condition H h hanswer hmet]

/-- A wait fails by a check that it reaches, has time for and that fails, and gives up where it has no
time for a check. -/
theorem value_await_eq_error_iff (wait : Wait σ α) {e : Error} :
    (Timed.run (await condition wait.spec wait.check) wait.start wait.world).value = .error e ↔
      (∃ n, wait.Reaches n ∧ wait.Admits n ∧ wait.answer n = .error e) ∨
        ∃ n, wait.Reaches n ∧ ¬ wait.Admits n ∧
          wait.gaveUp condition (wait.givesUpAt n) (wait.lastObserved n) = e := by
  constructor
  · intro herror
    obtain ⟨n, H, h | ⟨h, hstops⟩⟩ := wait.exists_stops
    · rw [run_await_of_not_admits condition H h] at herror
      exact .inr ⟨n, H, h, Except.error.inj herror⟩
    · rcases not_misses_iff.mp hstops with ⟨_, hanswer⟩ | ⟨value, hanswer, hmet⟩
      · rw [run_await_of_failed condition H h hanswer] at herror
        obtain rfl := Except.error.inj herror
        exact .inl ⟨n, H, h, hanswer⟩
      · rw [run_await_of_met condition H h hanswer hmet] at herror
        contradiction
  · rintro (⟨n, H, h, hanswer⟩ | ⟨n, H, h, rfl⟩)
    · rw [run_await_of_failed condition H h hanswer]
    · rw [run_await_of_not_admits condition H h]

/-- Where there is no time for the first check, a wait cannot succeed. -/
theorem hasTime_of_value_await (wait : Wait σ α)
    (h : (Timed.run (await condition wait.spec wait.check) wait.start wait.world).value = .ok ()) :
    wait.spec.HasTime wait.start := by
  obtain ⟨n, _, H, hadmits, _⟩ := wait.value_await_eq_ok_iff.mp h
  cases n with
  | zero => exact hadmits
  | succ n => exact (H 0 (Nat.succ_pos n)).1

/-- What a wait leaves is the world after the checks that it made. -/
theorem Course.world_eq {checks : List (Check α)} {outcome : Outcome σ (Except Error Unit)}
    (H : wait.Course condition checks outcome) : outcome.world = wait.worldAt checks.length := by
  cases H with
  | unchecked => rfl
  | _ => rw [length_checks]

theorem Course.spaced {checks : List (Check α)} {outcome : Outcome σ (Except Error Unit)}
    (H : wait.Course condition checks outcome) :
    checks.Pairwise fun a b => a.ended + wait.spec.interval.nanos ≤ b.begun := by
  cases H with
  | unchecked => exact .nil
  | _ => exact checks_spaced

/-- A wait takes the course that its schedule sets and no other, and its checks are an interval
apart. The schedule is this: there is time for a check that can begin an interval after the end of
the last one and by the deadline, it begins at the next whole millisecond, and a wait without time
for another one ends at the whole millisecond after its deadline or with a check that ran past it. -/
theorem await_iff_course (wait : Wait σ α) (condition : String) :
    let roundUp (t : Nat) := (t + 999999) / 1000000 * 1000000
    let deadline :=
      if wait.start + wait.spec.timeout.nanos < Clock.horizon then
        wait.start + wait.spec.timeout.nanos
      else wait.start + 946080000000000000
    (∀ checks outcome,
      (run wait.spec wait.check wait.start wait.world).checks = checks ∧
          Timed.run (await condition wait.spec wait.check) wait.start wait.world = outcome ↔
        wait.Course condition checks outcome) ∧
      (run wait.spec wait.check wait.start wait.world).checks.Pairwise (fun a b =>
        a.ended + wait.spec.interval.nanos ≤ b.begun) ∧
      wait.ended 0 = wait.start ∧
      ∀ n, (wait.Admits n ↔ wait.ended n + wait.spec.interval.nanos ≤ deadline) ∧
        wait.begun n = roundUp (wait.ended n + wait.spec.interval.nanos) ∧
        wait.ended (n + 1) = wait.begun n + (wait.outcome n).took ∧
        wait.givesUpAt n = max (wait.ended n) (roundUp deadline) := by
  intro roundUp deadline
  obtain ⟨made, left, H⟩ := wait.exists_course condition
  obtain ⟨hmade, hleft⟩ := H.taken
  refine ⟨fun checks outcome => ⟨?_, Course.taken⟩, hmade ▸ H.spaced, rfl,
    fun n => ⟨Iff.rfl, rfl, rfl, rfl⟩⟩
  rintro ⟨hchecks, houtcome⟩
  rw [← hchecks, hmade, ← houtcome, hleft]
  exact H

/-- A check every 0.7 milliseconds for two, each of which takes 0.3, and the second one is true. -/
def tight : Wait Bool Bool where
  spec := ⟨.ofNanos 700000, .ofNanos 2000000, true, by decide, by decide⟩
  check := .ofTimed fun _ asked => ⟨300000, false, true, .ok asked⟩
  start := 1000000
  world := false

/-- Its second check begins at the deadline, and counts although it ends after it. -/
theorem tight_course :
    (run tight.spec tight.check 1000000 false).checks =
        [⟨2000000, 300000, .ok false⟩, ⟨3000000, 300000, .ok true⟩] ∧
      Timed.run (await "index" tight.spec tight.check) 1000000 false =
        ⟨2300000, false, true, .ok ()⟩ := by
  have hreaches : tight.Reaches 1 :=
    reaches_succ.mpr ⟨reaches_zero, by decide, false, rfl, rfl⟩
  have hcourse : tight.Course "index"
      [⟨2000000, 300000, .ok false⟩, ⟨3000000, 300000, .ok true⟩] ⟨2300000, false, true, .ok ()⟩ :=
    .met hreaches (by decide) rfl rfl
  exact ((await_iff_course tight "index").1 _ _).mpr hcourse

end Wait

end IndexWatch.Poll
