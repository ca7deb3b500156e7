import IndexWatch.Proofs.Poll.Course

/-! # When a wait gives up

A timeout leaves room for one interval, so a wait that gives up should have made a check and say what
the last one saw. But where start and timeout add up to no instant the deadline is `Clock.farFuture`
off, and an interval that is longer leaves no time for a check: `observes_iff` tells where a wait that
gives up has seen something, and that it has seen nothing elsewhere. -/

namespace IndexWatch.Poll

open Text

variable {σ α : Type} [BEq α]

namespace Wait

variable {wait : Wait σ α} {n : Nat}

/-- A check that does not miss is the last one, and the wait is over with it. -/
theorem run_of_not_misses (H : wait.Reaches n) (h : wait.Admits n) (hstops : ¬ wait.Misses n) :
    ∃ ending, ending ≠ .expired ∧ run wait.spec wait.check wait.start wait.world =
      ⟨wait.checks (n + 1), ending, wait.ended (n + 1), wait.worldAt (n + 1)⟩ := by
  rcases not_misses_iff.mp hstops with ⟨e, hanswer⟩ | ⟨value, hanswer, hmet⟩
  · exact ⟨.failed e, nofun, run_of_failed H h hanswer⟩
  · exact ⟨.met, nofun, run_of_met H h hanswer hmet⟩

/-- A wait gives up where it has no time for a check that it reaches. -/
theorem ending_eq_expired_iff (wait : Wait σ α) :
    (run wait.spec wait.check wait.start wait.world).ending = .expired ↔
      ∃ n, wait.Reaches n ∧ ¬ wait.Admits n := by
  constructor
  · intro hexpired
    obtain ⟨n, H, h | ⟨h, hstops⟩⟩ := wait.exists_stops
    · exact ⟨n, H, h⟩
    · obtain ⟨ending, hending, hrun⟩ := run_of_not_misses H h hstops
      rw [hrun] at hexpired
      exact absurd hexpired hending
  · rintro ⟨n, H, h⟩
    rw [run_of_not_admits H h]

end Wait

variable [Spelled α]

/-- Whatever its check does, a wait of this pace that gives up has made a check, and it says what the
last one saw. -/
def Spec.Observes (spec : Spec α) (start : Nat) : Prop :=
  ∀ (σ : Type) (check : Attempt σ α) (world : σ) (condition : String),
    let run := run spec check start world
    run.ending = .expired →
      ∃ last value, run.checks.getLast? = some last ∧ last.answer = .ok value ∧
        (Timed.run (await condition spec check) start world).value =
          .error (.deadlineExceeded condition (.ofNanos (run.finished - start))
            (spell spec.expected) (some (spell value)))

theorem Spec.HasTime.observes {spec : Spec α} {start : Nat} (htime : spec.HasTime start) :
    spec.Observes start := by
  intro σ check world condition run hexpired
  let wait : Wait σ α := ⟨spec, check, start, world⟩
  obtain ⟨n, H, h⟩ := wait.ending_eq_expired_iff.mp hexpired
  cases n with
  | zero => exact absurd htime h
  | succ n =>
    obtain ⟨_, _, value, hanswer, _⟩ := Wait.reaches_succ.mp H
    have hrun : run = _ := Wait.run_of_not_admits H h
    have hcourse : wait.Course condition _ _ := .expired H h hanswer
    refine ⟨wait.checkAt n, value, ?_, hanswer, ?_⟩
    · rw [hrun]
      exact Wait.getLast?_checks_succ
    · rw [hrun]
      exact congrArg Outcome.value hcourse.taken.2

/-- Where there is no time for a check, none is made, and the wait gives up with nothing to say of
what it saw. -/
theorem unobserved_of_not_hasTime {spec : Spec α} {start : Nat} (htime : ¬ spec.HasTime start)
    (check : Attempt σ α) (world : σ) (condition : String) :
    let finished := Clock.ceilMilli (start + Clock.farFuture.nanos)
    run spec check start world = ⟨[], .expired, finished, world⟩ ∧
      (Timed.run (await condition spec check) start world).value =
        .error (.deadlineExceeded condition (.ofNanos (finished - start)) (spell spec.expected)
          none) := by
  intro finished
  let wait : Wait σ α := ⟨spec, check, start, world⟩
  have hfar : wait.deadline = start + Clock.farFuture.nanos := by
    rw [Spec.hasTime_iff, not_or] at htime
    exact Clock.deadline_of_le (Nat.le_of_not_lt htime.1)
  have hlate : start ≤ finished :=
    Nat.le_trans (Nat.le_add_right ..) (Clock.le_ceilMilli _)
  have hfinished : max (wait.ended 0) (Clock.ceilMilli wait.deadline) = finished := by
    rw [hfar]
    exact Nat.max_eq_right hlate
  have hrun : run spec check start world = _ := Wait.run_of_not_admits wait.reaches_zero htime
  rw [hfinished] at hrun
  refine ⟨hrun, ?_⟩
  change (Timed.run (await condition wait.spec wait.check) wait.start wait.world).value = _
  rw [Wait.run_await, hrun]
  rfl

/-- A wait that gives up has made a check and says what the last one saw, whatever the check does,
exactly where the deadline is an instant or the interval is no longer than what is waited instead.
Elsewhere no check is ever made. -/
theorem observes_iff (spec : Spec α) (start : Nat) :
    (spec.Observes start ↔
      start + spec.timeout.nanos < Clock.horizon ∨
        spec.interval.nanos ≤ Clock.farFuture.nanos) ∧
    (¬ spec.HasTime start →
      ∀ (σ : Type) (check : Attempt σ α) (world : σ) (condition : String),
        let finished := Clock.ceilMilli (start + Clock.farFuture.nanos)
        run spec check start world = ⟨[], .expired, finished, world⟩ ∧
          (Timed.run (await condition spec check) start world).value =
            .error (.deadlineExceeded condition (.ofNanos (finished - start))
              (spell spec.expected) none)) := by
  rw [← Spec.hasTime_iff]
  refine ⟨⟨fun H => ?_, Spec.HasTime.observes⟩, fun h _ => unobserved_of_not_hasTime h⟩
  apply Classical.byContradiction
  intro htime
  let check : Attempt Unit α := pure spec.expected
  have hrun := (unobserved_of_not_hasTime htime check () "").1
  obtain ⟨last, _, hlast, _⟩ := H Unit check () "" (congrArg Run.ending hrun)
  rw [hrun] at hlast
  contradiction

/-- A check every thirty years and a second, without end. -/
def Spec.generational : Spec Bool := ⟨.ofSeconds 946080001, .longest, true, by decide, by decide⟩

/-- The first check would succeed, but the wait gives up a second before it, with nothing seen. -/
theorem generational_gives_up_unseen :
    (run Spec.generational (pure true : Attempt Unit Bool) 0 ()).checks = [] ∧
      (Timed.run (await "index" Spec.generational (pure true : Attempt Unit Bool)) 0 ()).value =
        .error (.deadlineExceeded "index" (.ofSeconds 946080000) "true" none) := by
  have htime : ¬ Spec.generational.HasTime 0 := by decide
  obtain ⟨hrun, hvalue⟩ := unobserved_of_not_hasTime htime (pure true : Attempt Unit Bool) () "index"
  exact ⟨congrArg Run.checks hrun, hvalue⟩

end IndexWatch.Poll
