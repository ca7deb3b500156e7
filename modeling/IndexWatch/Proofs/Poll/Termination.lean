import IndexWatch.Config
import IndexWatch.Poll.Run
import IndexWatch.Proofs.Clock
import Mathlib.Logic.Function.Iterate

/-! # The loop of a wait ends

`Loop.turn` is one turn of the loop of a wait, for any interval. Every turn that goes on has spent an
interval of the time until the deadline, `Loop.Spent`, so the loop is over after as many turns as
intervals fit in there and one more, unless the interval is zero: then it may go on forever,
`Loop.ends_iff`. However a pace is come by, `Spec.Obtained`, its interval is the one that was asked for,
which is never zero, and its timeout is at least that long and never too long for a duration; so
`Spec.Obtained.run_ends` bounds the checks of its waits. -/

namespace IndexWatch.Poll

variable {σ α : Type}

/-! ## One turn after the other -/

/-- The loop of a wait before a turn, with the checks made so far, the last one first, or at its end. -/
inductive Loop (σ α : Type) where
  | going (done : List (Check α)) (now : Nat) (world : σ)
  | stopped (run : Run σ α)

namespace Loop

section
variable [BEq α] (interval : Nat) (expected : α) (deadline : Nat) (check : Attempt σ α)

/-- One turn: the wait gives up, or it makes a check, which may be the last one. -/
def turn : Loop σ α → Loop σ α
  | stopped run => stopped run
  | going done now world =>
    if deadline - now < interval then
      stopped ⟨done.reverse, .expired, max now (Clock.ceilMilli deadline), world⟩
    else
      let begun := Clock.ceilMilli (now + interval)
      let outcome := Timed.run check begun world
      let made : Check α := ⟨begun, outcome.took, outcome.value⟩
      match outcome.value with
      | .error e => stopped ⟨(made :: done).reverse, .failed e, made.ended, outcome.world⟩
      | .ok value =>
        if value == expected then stopped ⟨(made :: done).reverse, .met, made.ended, outcome.world⟩
        else going (made :: done) made.ended outcome.world

end

/-- What a loop has spent after so many turns of the time from its start to its deadline: an interval
for each check. -/
def Spent (start interval deadline turns : Nat) : Loop σ α → Prop
  | going done now _ =>
    done.length = turns ∧ start + turns * interval ≤ now ∧ turns * interval ≤ deadline - start
  | stopped run => run.checks.length * interval ≤ deadline - start

variable [BEq α] {interval : Nat} {expected : α} {deadline : Nat} {check : Attempt σ α}
  {start turns : Nat}

/-- A turn either gives up, or has the time for a check, which is the last one or not. -/
theorem turn_cases (interval : Nat) (expected : α) (deadline : Nat) (check : Attempt σ α)
    (done : List (Check α)) (now : Nat) (world : σ) :
    let begun := Clock.ceilMilli (now + interval)
    let outcome := Timed.run check begun world
    let made : Check α := ⟨begun, outcome.took, outcome.value⟩
    let next := turn interval expected deadline check (going done now world)
    next = stopped ⟨done.reverse, .expired, max now (Clock.ceilMilli deadline), world⟩ ∨
      interval ≤ deadline - now ∧
        ((∃ ending, next = stopped ⟨(made :: done).reverse, ending, made.ended, outcome.world⟩) ∨
          next = going (made :: done) made.ended outcome.world) := by
  intro begun outcome made next
  by_cases hlate : deadline - now < interval
  · exact .inl (if_pos hlate)
  refine .inr ⟨Nat.le_of_not_lt hlate, ?_⟩
  have hnext : next = match outcome.value with
      | .error e => stopped ⟨(made :: done).reverse, .failed e, made.ended, outcome.world⟩
      | .ok value =>
        if value == expected then stopped ⟨(made :: done).reverse, .met, made.ended, outcome.world⟩
        else going (made :: done) made.ended outcome.world := if_neg hlate
  rw [hnext]
  cases outcome.value with
  | error e => exact .inl ⟨_, rfl⟩
  | ok value =>
    cases hmet : value == expected with
    | true => exact .inl ⟨_, if_pos hmet⟩
    | false => exact .inr (if_neg (Bool.eq_false_iff.mp hmet))

theorem Spent.turn {loop : Loop σ α} (H : loop.Spent start interval deadline turns) :
    (loop.turn interval expected deadline check).Spent start interval deadline (turns + 1) := by
  cases loop with
  | stopped run => exact H
  | going done now world =>
    obtain ⟨hlength, hnow, hspent⟩ := H
    obtain hlate | ⟨hadmits, hmade⟩ := turn_cases interval expected deadline check done now world
    · rw [hlate, Spent, List.length_reverse, hlength]
      exact hspent
    -- Now is later than the start by all that was spent, and an interval is left of the rest.
    have hspent : (turns + 1) * interval ≤ deadline - start := by
      rw [Nat.succ_mul]
      omega
    obtain ⟨ending, hstopped⟩ | hgoing := hmade
    · rw [hstopped, Spent, List.length_reverse, List.length_cons, hlength]
      exact hspent
    · rw [hgoing]
      refine ⟨congrArg Nat.succ hlength, ?_, hspent⟩
      calc start + (turns + 1) * interval = start + turns * interval + interval := by
            rw [Nat.succ_mul, Nat.add_assoc]
        _ ≤ now + interval := Nat.add_le_add_right hnow interval
        _ ≤ Clock.ceilMilli (now + interval) := Clock.le_ceilMilli _
        _ ≤ _ := Nat.le_add_right ..

theorem spent_iterate (start interval : Nat) (expected : α) (deadline : Nat) (check : Attempt σ α)
    (world : σ) (turns : Nat) :
    ((turn interval expected deadline check)^[turns] (going [] start world)).Spent start interval
      deadline turns := by
  induction turns with
  | zero => simp [Spent]
  | succ turns ih =>
    rw [Function.iterate_succ_apply']
    exact ih.turn

/-- A loop whose interval is not zero cannot go on for longer than there is time. -/
theorem exists_stopped (hpos : 0 < interval) (expected : α) (check : Attempt σ α) (start deadline : Nat)
    (world : σ) :
    ∃ run, (turn interval expected deadline check)^[(deadline - start) / interval + 1]
      (going [] start world) = stopped run ∧ run.checks.length ≤ (deadline - start) / interval := by
  have hspent := spent_iterate start interval expected deadline check world
    ((deadline - start) / interval + 1)
  revert hspent
  cases (turn interval expected deadline check)^[(deadline - start) / interval + 1]
    (going [] start world) with
  | stopped run => exact fun hspent => ⟨run, rfl, (Nat.le_div_iff_mul_le hpos).mpr hspent⟩
  | going done now world =>
    -- It would have spent one interval more than there are.
    rintro ⟨_, _, hspent⟩
    exact absurd ((Nat.le_div_iff_mul_le hpos).mpr hspent) (Nat.not_succ_le_self _)

/-- At an interval of zero, a check that misses at once is made over and over at the same instant. -/
theorem going_of_interval_zero {value : α} (hmiss : (value == expected) = false) (deadline n : Nat) :
    ∃ done, (turn 0 expected deadline (pure value : Attempt Unit α))^[n] (going [] 0 ()) =
      going done 0 () := by
  induction n with
  | zero => exact ⟨[], rfl⟩
  | succ n ih =>
    obtain ⟨done, hgoing⟩ := ih
    rw [Function.iterate_succ_apply', hgoing]
    refine ⟨⟨0, 0, .ok value⟩ :: done, ?_⟩
    rw [turn, if_neg (Nat.not_lt_zero _)]
    change (if value == expected then _ else _) = _
    rw [hmiss]
    rfl

/-- The loop ends for every check exactly where the interval is not zero, or there is nothing else to
be seen than what is expected. -/
theorem ends_iff (interval : Nat) (expected : α) :
    (∀ (σ : Type) (check : Attempt σ α) (deadline start : Nat) (world : σ), ∃ n run,
      (turn interval expected deadline check)^[n] (going [] start world) = stopped run) ↔
    0 < interval ∨ ∀ value, (value == expected) = true := by
  constructor
  · intro H
    by_contra hneither
    obtain ⟨hzero, hmisses⟩ := not_or.mp hneither
    obtain ⟨value, hmiss⟩ := Classical.not_forall.mp hmisses
    obtain ⟨n, run, hstopped⟩ := H Unit (pure value) 0 0 ()
    rw [Nat.eq_zero_of_not_pos hzero] at hstopped
    obtain ⟨done, hgoing⟩ := going_of_interval_zero (Bool.eq_false_iff.mpr hmiss) 0 n
    exact nomatch hgoing.symm.trans hstopped
  · rintro (hpos | hmet) σ check deadline start world
    · obtain ⟨run, hstopped, _⟩ := exists_stopped hpos expected check start deadline world
      exact ⟨_, run, hstopped⟩
    · refine ⟨1, ?_⟩
      change ∃ run, turn interval expected deadline check (going [] start world) = stopped run
      rw [turn]
      split
      next => exact ⟨_, rfl⟩
      next =>
        cases hanswer : (Timed.run check (Clock.ceilMilli (start + interval)) world).value with
        | error e => simp only [hanswer, stopped.injEq, exists_eq']
        | ok value => simp only [hanswer, hmet value, if_true, stopped.injEq, exists_eq']

end Loop

variable [BEq α] {spec : Spec α}

theorem runFrom_eq_turn (spec : Spec α) (deadline : Nat) (check : Attempt σ α)
    (done : List (Check α)) (now : Nat) (world : σ) :
    runFrom spec deadline check done now world =
      match Loop.turn spec.interval.nanos spec.expected deadline check (.going done now world) with
      | .stopped run => run
      | .going done now world => runFrom spec deadline check done now world := by
  rw [runFrom, Loop.turn]
  split
  next => rfl
  next =>
    dsimp only
    cases (Timed.run check (Clock.ceilMilli (now + spec.interval.nanos)) world).value with
    | error e => rfl
    | ok value =>
      dsimp only
      cases value == spec.expected with
      | true => simp only [if_true]
      | false => simp only [Bool.false_eq_true, if_false]

/-- What the turns come to is the run of the wait. -/
theorem runFrom_of_stopped {deadline : Nat} {check : Attempt σ α} {run : Run σ α} {turns : Nat}
    {done : List (Check α)} {now : Nat} {world : σ}
    (h : (Loop.turn spec.interval.nanos spec.expected deadline check)^[turns]
      (.going done now world) = .stopped run) :
    runFrom spec deadline check done now world = run := by
  induction turns generalizing done now world with
  | zero => exact nomatch h
  | succ turns ih =>
    rw [Function.iterate_succ_apply] at h
    rw [runFrom_eq_turn]
    revert h
    cases Loop.turn spec.interval.nanos spec.expected deadline check (.going done now world) with
    | going done now world => exact ih
    | stopped last =>
      intro h
      have hstays : (Loop.turn spec.interval.nanos spec.expected deadline check)^[turns]
          (.stopped last) = .stopped last := Function.iterate_fixed rfl turns
      exact Loop.stopped.inj (hstays.symm.trans h)

/-! ## Paces that can be come by -/

/-- The ways to come by a pace, with the interval and all the time that were asked for, in nanoseconds;
together, the times may be longer than a duration can be. -/
inductive Spec.Obtained : {α : Type} → Nat → Nat → Spec α → Prop
  | made {α : Type} {interval timeout : Duration} {expected : α} {spec : Spec α} :
    Spec.make interval timeout expected = .ok spec →
    Obtained interval.nanos timeout.nanos spec
  | standard : Obtained 5000000000 120000000000 Spec.standard
  | configured {α : Type} {config : Config} {expected : α} {spec : Spec α} :
    config.pollSpec expected = .ok spec →
    Obtained config.retryInterval.nanos config.timeout.nanos spec
  | expecting {α β : Type} {interval total : Nat} {spec : Spec α} (expected : β) :
    Obtained interval total spec → Obtained interval total (spec.expecting expected)
  | extended {α : Type} {interval total : Nat} {spec : Spec α} (extra : Duration) :
    Obtained interval total spec →
    Obtained interval (total + extra.nanos) (spec.withExtraTimeout extra)

namespace Spec.Obtained

omit [BEq α] in
/-- Nothing changes the interval, and time that is too long for a duration is the longest one. -/
theorem nanos_eq {interval total : Nat} (H : spec.Obtained interval total) :
    spec.interval.nanos = interval ∧ spec.timeout.nanos = min total Duration.maxNanos := by
  induction H with
  | made hmade | configured hmade =>
    obtain ⟨hinterval, htimeout, _⟩ := make_eq_ok_iff.mp hmade
    rw [hinterval, htimeout]
    exact ⟨rfl, (Nat.min_eq_left (Duration.nanos_le _)).symm⟩
  | standard => decide
  | expecting expected _ ih => exact ih
  | extended extra _ ih =>
    obtain ⟨hinterval, htimeout⟩ := ih
    refine ⟨hinterval, ?_⟩
    rw [withExtraTimeout, Duration.nanos_add, htimeout]
    omega

/-- However a pace is come by, its interval is not zero, and its timeout is no shorter and not too
long for a duration. So a wait at this pace is over, whatever its check does, after as many turns of
its loop as intervals fit into the time until its deadline and one more, and no more checks. -/
theorem run_ends {interval total : Nat} (H : spec.Obtained interval total)
    (check : Attempt σ α) (start : Nat) (world : σ) :
    let timeout := min total Duration.maxNanos
    let time := if start + timeout < Clock.horizon then timeout else Clock.farFuture.nanos
    let turn := Loop.turn interval spec.expected (Clock.deadline start spec.timeout) check
    let run := run spec check start world
    (spec.interval.nanos = interval ∧ spec.timeout.nanos = timeout) ∧
      (0 < interval ∧ interval ≤ timeout) ∧
      turn^[time / interval + 1] (.going [] start world) = .stopped run ∧
      run.checks.length ≤ time / interval := by
  intro timeout time turn run
  obtain ⟨hinterval, htimeout⟩ := H.nanos_eq
  have hpos : 0 < interval := hinterval ▸ spec.interval_pos
  have hle : interval ≤ timeout := by
    rw [← hinterval, show timeout = spec.timeout.nanos from htimeout.symm]
    exact spec.interval_le
  have htime : Clock.deadline start spec.timeout - start = time := by
    rw [Clock.deadline_sub_start, Clock.window, htimeout]
  obtain ⟨last, hstopped, hmost⟩ :=
    Loop.exists_stopped hpos spec.expected check start (Clock.deadline start spec.timeout) world
  rw [htime] at hstopped hmost
  have hlast : run = last := by
    subst hinterval
    exact runFrom_of_stopped hstopped
  exact ⟨⟨hinterval, htimeout⟩, ⟨hpos, hle⟩, hlast ▸ hstopped, hlast ▸ hmost⟩

end Spec.Obtained

/-- The standard pace, expecting the opposite, with a minute more. -/
def Spec.lenient : Spec Bool := (Spec.standard.expecting false).withExtraTimeout (.ofSeconds 60)

/-- A check that never sees what is expected is made no more than 36 times at it. -/
theorem Spec.lenient_run_ends :
    Spec.lenient.Obtained 5000000000 180000000000 ∧
      (0 < 5000000000 ∧ 5000000000 ≤ 180000000000) ∧
      (Loop.turn 5000000000 false (Clock.deadline 0 Spec.lenient.timeout)
          (pure true : Attempt Unit Bool))^[37] (.going [] 0 ()) =
        .stopped (run Spec.lenient (pure true) 0 ()) ∧
      (run Spec.lenient (pure true : Attempt Unit Bool) 0 ()).checks.length ≤ 36 := by
  have hobtained : Spec.lenient.Obtained 5000000000 180000000000 :=
    .extended (.ofSeconds 60) (.expecting false .standard)
  obtain ⟨_, hpos, hstopped, hmost⟩ := hobtained.run_ends (pure true : Attempt Unit Bool) 0 ()
  exact ⟨hobtained, hpos, hstopped, hmost⟩

end IndexWatch.Poll
