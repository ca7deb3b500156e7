import IndexWatch.Proofs.Poll.Expiry
import IndexWatch.Proofs.Poll.Punctuality

/-! # Extra time

A wait with extra time has the same schedule as without it, and a later deadline lets it go on where
it would have given up. So what it makes of its checks before that stays as it is
(`Wait.extended_of_deadline_le`). But extra time can also leave start and timeout with no instant to
add up to, and the deadline is then `Clock.farFuture` off: `extended_iff` tells for which timeouts
extra time is never less time. -/

namespace IndexWatch

/-- Extra time brings no deadline forward, save one that is further off than what takes the place of
an instant that there is not. -/
theorem Clock.deadline_le_deadline_add_iff {start : Nat} {timeout extra : Duration} :
    deadline start timeout ≤ deadline start (timeout.add extra) ↔
      start + (timeout.add extra).nanos < horizon ∨ horizon ≤ start + timeout.nanos ∨
        timeout.nanos ≤ farFuture.nanos := by
  have hle : timeout.nanos ≤ (timeout.add extra).nanos := Duration.le_add timeout extra
  unfold deadline
  split <;> split <;> omega

namespace Poll

open Text

variable {σ α : Type} [BEq α]

/-! ## How far a wait gets -/

namespace Wait

variable {wait : Wait σ α} {n : Nat}

theorem Reaches.le_of_stops {m : Nat} (H : wait.Reaches m)
    (h : ¬ (wait.Admits n ∧ wait.Misses n)) : m ≤ n :=
  Nat.le_of_not_lt fun hlt => h (H n hlt)

omit [BEq α] in
theorem checks_mono {m : Nat} (h : m ≤ n) : wait.checks m <+: wait.checks n := by
  induction h with
  | refl => exact List.prefix_rfl
  | step _ ih =>
    rw [checks_succ]
    exact ih.trans (List.prefix_append ..)

/-- The checks that a wait reaches are those that it begins with. -/
theorem Reaches.checks_le_run (H : wait.Reaches n) :
    wait.checks n <+: (run wait.spec wait.check wait.start wait.world).checks := by
  obtain ⟨m, Hm, h | ⟨h, hstops⟩⟩ := wait.exists_stops
  · rw [run_of_not_admits Hm h]
    exact checks_mono (H.le_of_stops fun hgoes => h hgoes.1)
  · have hle : n ≤ m + 1 := Nat.le_succ_of_le (H.le_of_stops fun hgoes => hstops hgoes.2)
    obtain ⟨_, _, hrun⟩ := run_of_not_misses Hm h hstops
    rw [hrun]
    exact checks_mono hle

/-- A wait that gets beyond its first `n` checks is not over before the `n`th has ended, nor before
an instant that is less than an interval after that, the deadline not being earlier. -/
theorem Reaches.max_le_finished (H : wait.Reaches n) {t : Nat} (hdeadline : t ≤ wait.deadline)
    (ht : t < wait.ended n + wait.spec.interval.nanos) :
    max (wait.ended n) (Clock.ceilMilli t) ≤
      (run wait.spec wait.check wait.start wait.world).finished := by
  obtain ⟨m, Hm, h | ⟨h, hstops⟩⟩ := wait.exists_stops
  · have hle : n ≤ m := H.le_of_stops fun hgoes => h hgoes.1
    have hended : wait.ended n ≤ wait.ended m := wait.ended_mono hle
    have hceil : Clock.ceilMilli t ≤ Clock.ceilMilli wait.deadline := Clock.ceilMilli_mono hdeadline
    rw [run_of_not_admits Hm h]
    exact Nat.max_le.mpr
      ⟨Nat.le_trans hended (Nat.le_max_left ..), Nat.le_trans hceil (Nat.le_max_right ..)⟩
  · have hle : n ≤ m := H.le_of_stops fun hgoes => hstops hgoes.2
    have hended : wait.ended n ≤ wait.ended (m + 1) := wait.ended_mono (Nat.le_succ_of_le hle)
    have hceil : Clock.ceilMilli t ≤ wait.ended (m + 1) :=
      calc Clock.ceilMilli t ≤ wait.begun m := by
            have := wait.ended_mono hle
            exact Clock.ceilMilli_mono (by omega)
        _ ≤ wait.ended (m + 1) := wait.begun_le_ended_succ m
    obtain ⟨_, _, hrun⟩ := run_of_not_misses Hm h hstops
    rw [hrun]
    exact Nat.max_le.mpr ⟨hended, hceil⟩

end Wait

/-! ## The wait with extra time -/

variable [Spelled α]

/-- With extra time a wait goes the way that it goes without it. If a check ends it, then it ends in
the same way with the extra time; if it gives up, then with the extra time it has first made the same
checks, and it is not over sooner. -/
structure Extended (spec : Spec α) (extra : Duration) (check : Attempt σ α) (start : Nat)
    (world : σ) : Prop where
  ends : (run spec check start world).ending ≠ .expired →
    run (spec.withExtraTimeout extra) check start world = run spec check start world ∧
      ∀ condition, Timed.run (await condition (spec.withExtraTimeout extra) check) start world =
        Timed.run (await condition spec check) start world
  begins : (run spec check start world).checks <+:
    (run (spec.withExtraTimeout extra) check start world).checks
  lasts : (run spec check start world).ending = .expired →
    (run spec check start world).finished ≤
      (run (spec.withExtraTimeout extra) check start world).finished

namespace Wait

/-- The same wait with extra time. -/
def extended (wait : Wait σ α) (extra : Duration) : Wait σ α :=
  { wait with spec := wait.spec.withExtraTimeout extra }

variable {wait : Wait σ α} {extra : Duration} {n : Nat}

section
omit [BEq α] [Spelled α]

theorem standing_extended (n : Nat) : (wait.extended extra).standing n = wait.standing n := by
  induction n with
  | zero => rfl
  | succ n ih =>
    simp only [standing, ih]
    rfl

@[simp] theorem ended_extended : (wait.extended extra).ended n = wait.ended n :=
  congrArg Prod.fst (standing_extended n)

@[simp] theorem worldAt_extended : (wait.extended extra).worldAt n = wait.worldAt n :=
  congrArg Prod.snd (standing_extended n)

@[simp] theorem checkAt_extended : (wait.extended extra).checkAt n = wait.checkAt n := by
  simp only [checkAt, answer, outcome, begun, ended_extended, worldAt_extended]
  rfl

@[simp] theorem answer_extended : (wait.extended extra).answer n = wait.answer n :=
  congrArg Check.answer checkAt_extended

@[simp] theorem checks_extended : (wait.extended extra).checks n = wait.checks n :=
  List.map_congr_left fun _ _ => checkAt_extended

end

section
variable (h : wait.deadline ≤ (wait.extended extra).deadline)
include h

omit [BEq α] [Spelled α] in
theorem Admits.extended (H : wait.Admits n) : (wait.extended extra).Admits n := by
  unfold Admits at H ⊢
  rw [ended_extended]
  exact Nat.le_trans H h

omit [Spelled α] in
theorem Reaches.extended (H : wait.Reaches n) : (wait.extended extra).Reaches n := by
  intro i hi
  obtain ⟨hadmits, hmisses⟩ := H i hi
  refine ⟨hadmits.extended h, ?_⟩
  rw [Misses, answer_extended]
  exact hmisses

omit [Spelled α] in
/-- What a check ends stays as it is. -/
theorem run_extended_of_ends
    (hends : (run wait.spec wait.check wait.start wait.world).ending ≠ .expired) :
    run (wait.spec.withExtraTimeout extra) wait.check wait.start wait.world =
      run wait.spec wait.check wait.start wait.world := by
  obtain ⟨n, H, hlate | ⟨hadmits, hstops⟩⟩ := wait.exists_stops
  · exact absurd (wait.ending_eq_expired_iff.mpr ⟨n, H, hlate⟩) hends
  · change run (wait.extended extra).spec (wait.extended extra).check
      (wait.extended extra).start (wait.extended extra).world = _
    rcases not_misses_iff.mp hstops with ⟨e, hanswer⟩ | ⟨value, hanswer, hmet⟩
    · rw [run_of_failed H hadmits hanswer,
        run_of_failed (H.extended h) (hadmits.extended h) (answer_extended.trans hanswer)]
      simp only [checks_extended, ended_extended, worldAt_extended]
    · rw [run_of_met H hadmits hanswer hmet,
        run_of_met (H.extended h) (hadmits.extended h) (answer_extended.trans hanswer) hmet]
      simp only [checks_extended, ended_extended, worldAt_extended]

/-- A deadline that is no earlier only lets the wait go on where it would have given up. -/
theorem extended_of_deadline_le :
    Extended wait.spec extra wait.check wait.start wait.world := by
  by_cases hexpired : (run wait.spec wait.check wait.start wait.world).ending = .expired
  · obtain ⟨n, H, hlate⟩ := wait.ending_eq_expired_iff.mp hexpired
    have hrun := run_of_not_admits H hlate
    refine ⟨fun hends => absurd hexpired hends, ?begins, fun _ => ?lasts⟩
    case begins =>
      have hchecks := (H.extended h).checks_le_run
      rw [checks_extended] at hchecks
      rw [hrun]
      exact hchecks
    case lasts =>
      have hlong : wait.deadline < (wait.extended extra).ended n + wait.spec.interval.nanos := by
        rw [ended_extended]
        exact Nat.lt_of_not_le hlate
      have hfinished := (H.extended h).max_le_finished h hlong
      rw [ended_extended] at hfinished
      rw [hrun]
      exact hfinished
  · have hrun := run_extended_of_ends h hexpired
    refine ⟨fun _ => ⟨hrun, fun condition => ?_⟩, ?_, fun hends => absurd hends hexpired⟩
    · let outcome (run : Run σ α) : Outcome σ (Except Error Unit) :=
        ⟨run.finished - wait.start, false, run.world, run.result condition wait.spec wait.start⟩
      exact congrArg outcome hrun
    · simp only [hrun, List.prefix_rfl]

end

end Wait

/-- A pace that leaves time for one check, at the very end. -/
private def Spec.once (timeout : Duration) (expected : α) (h : 0 < timeout.nanos) : Spec α :=
  ⟨timeout, timeout, expected, h, Nat.le_refl _⟩

/-- Where extra time brings the deadline forward, a wait that would have made its one check makes
none. -/
private theorem not_extended_once {timeout extra : Duration} {expected : α} {start : Nat}
    {h : 0 < timeout.nanos} (hstart : start + timeout.nanos < Clock.horizon)
    (hextra : Clock.horizon ≤ start + (timeout.add extra).nanos)
    (hfar : Clock.farFuture.nanos < timeout.nanos) :
    ¬ Extended (Spec.once timeout expected h) extra
      (.ofExcept (.error (.invalidConfig "")) : Attempt Unit α) start () := by
  intro H
  let wait : Wait Unit α :=
    ⟨Spec.once timeout expected h, .ofExcept (.error (.invalidConfig "")), start, ()⟩
  have hadmits : wait.Admits 0 := Nat.le_of_eq (Clock.deadline_of_lt hstart).symm
  have hlate : ¬ (wait.extended extra).Admits 0 := by
    change ¬ start + timeout.nanos ≤ Clock.deadline start (timeout.add extra)
    rw [Clock.deadline_of_le hextra]
    omega
  have hrun := Wait.run_of_failed wait.reaches_zero hadmits rfl
  have hends : (run wait.spec wait.check wait.start wait.world).ending ≠ .expired := by
    rw [hrun]
    exact nofun
  have hexpired := (wait.extended extra).ending_eq_expired_iff.mpr ⟨0, Wait.reaches_zero, hlate⟩
  exact hends ((congrArg Run.ending (H.ends hends).1).symm.trans hexpired)

/-- Whatever the pace and whatever the checks do, a wait of this timeout goes with extra time the way
that it goes without it, exactly where the extended deadline is an instant, or the deadline was none
before, or the timeout is no longer than what takes its place. -/
theorem extended_iff (timeout extra : Duration) (expected : α) (start : Nat) :
    (∀ spec : Spec α, spec.timeout = timeout → spec.expected = expected →
      ∀ (σ : Type) (check : Attempt σ α) (world : σ), Extended spec extra check start world) ↔
      start + (timeout.add extra).nanos < Clock.horizon ∨ Clock.horizon ≤ start + timeout.nanos ∨
        timeout.nanos ≤ Clock.farFuture.nanos := by
  constructor
  · intro H
    apply Classical.byContradiction
    intro hcut
    simp only [not_or, Nat.not_lt, Nat.not_le] at hcut
    obtain ⟨hextra, hstart, hfar⟩ := hcut
    have hpos : 0 < timeout.nanos := Nat.zero_lt_of_lt hfar
    exact not_extended_once hstart hextra hfar <|
      H (Spec.once timeout expected hpos) rfl rfl Unit _ ()
  · rintro h spec rfl rfl σ check world
    let wait : Wait σ α := ⟨spec, check, start, world⟩
    exact wait.extended_of_deadline_le (Clock.deadline_le_deadline_add_iff.mpr h)

/-- A check every twenty years for forty years, which is true from the second time on. -/
def patient : Wait Bool Bool where
  spec := ⟨.ofSeconds 630720000, .ofSeconds 1261440000, true, by decide, by decide⟩
  check := trueAtSecond
  start := 0
  world := false

/-- The second check succeeds after forty years, but with all the time there is the wait gives up
after thirty. -/
theorem patient_gives_up_sooner :
    (Timed.run (await "index" patient.spec patient.check) 0 false).value = .ok () ∧
      (Timed.run (await "index" (patient.spec.withExtraTimeout .longest) patient.check) 0
          false).value =
        .error (.deadlineExceeded "index" (.ofSeconds 946080000) "true" (some "false")) ∧
      ¬ Extended patient.spec .longest patient.check 0 false := by
  have hreaches : patient.Reaches 1 :=
    Wait.reaches_succ.mpr ⟨Wait.reaches_zero, by decide, false, rfl, rfl⟩
  have hreaches' : (patient.extended .longest).Reaches 1 :=
    Wait.reaches_succ.mpr ⟨Wait.reaches_zero, by decide, false, rfl, rfl⟩
  have hadmits : patient.Admits 1 := by decide
  have hok := congrArg Outcome.value (Wait.run_await_of_met "index" hreaches hadmits rfl rfl)
  have hlate := congrArg Outcome.value
    (Wait.run_await_of_not_admits "index" hreaches' (by decide))
  refine ⟨hok, hlate, fun H => ?_⟩
  have hends : (run patient.spec patient.check patient.start patient.world).ending ≠ .expired := by
    rw [Wait.run_of_met hreaches hadmits rfl rfl]
    exact nofun
  have hsame := congrArg Outcome.value ((H.ends hends).2 "index")
  exact nomatch hlate.symm.trans (hsame.trans hok)

end Poll

end IndexWatch
