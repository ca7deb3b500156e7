import IndexWatch.Proofs.Poll.Schedule

/-! # Checks and the deadline

The loop asks whether an interval is left before the deadline, and then sleeps to the next whole
millisecond after that interval. So a check never begins a millisecond or more after the deadline
(`begun_le_ceilMilli_deadline`), and it can begin after it only where the deadline falls between two
milliseconds: `begun_le_deadline_iff` tells for which paces this happens to no check whatsoever. What
has begun is waited for, so the last check may end after the deadline, by no more than it takes
(`finished_run_le`). -/

namespace IndexWatch.Poll

variable {σ α : Type} [BEq α]

/-- Wherever the wait's checks end, none is sent past the deadline by the rounding of its timer: the
deadline is itself a whole millisecond, or the first check begins in time and is the only one that
there is time for, if a second could be wanted. -/
def Spec.Punctual (spec : Spec α) (start : Nat) : Prop :=
  let deadline := Clock.deadline start spec.timeout
  let first := Clock.ceilMilli (start + spec.interval.nanos)
  1000000 ∣ deadline ∨
    (start + spec.interval.nanos ≤ deadline → first ≤ deadline) ∧
      (first + spec.interval.nanos ≤ deadline → ∀ value, (value == spec.expected) = true)

namespace Wait

variable {wait : Wait σ α} {n : Nat}

omit [BEq α] in
theorem begun_le_ceilMilli_deadline (h : wait.Admits n) :
    wait.begun n ≤ Clock.ceilMilli wait.deadline :=
  Clock.ceilMilli_mono h

/-- A wait is over as long after its deadline as one of its checks may take, rounding apart. -/
theorem finished_run_le (most : Nat)
    (h : ∀ n, wait.Admits n → (wait.outcome n).took ≤ most) :
    (run wait.spec wait.check wait.start wait.world).finished ≤
      Clock.ceilMilli wait.deadline + most := by
  have hended {n : Nat} (hadmits : wait.Admits n) :
      wait.ended (n + 1) ≤ Clock.ceilMilli wait.deadline + most :=
    Nat.add_le_add (begun_le_ceilMilli_deadline hadmits) (h n hadmits)
  obtain ⟨n, H, hnot | ⟨hadmits, hstops⟩⟩ := wait.exists_stops
  · rw [run_of_not_admits H hnot]
    refine Nat.max_le.mpr ⟨?_, Nat.le_add_right ..⟩
    cases n with
    | zero =>
      calc wait.start ≤ wait.deadline := Clock.le_deadline ..
        _ ≤ Clock.ceilMilli wait.deadline := Clock.le_ceilMilli _
        _ ≤ _ := Nat.le_add_right ..
    | succ n => exact hended (reaches_succ.mp H).2.1
  · rcases not_misses_iff.mp hstops with ⟨e, hanswer⟩ | ⟨value, hanswer, hmet⟩
    · rw [run_of_failed H hadmits hanswer]
      exact hended hadmits
    · rw [run_of_met H hadmits hanswer hmet]
      exact hended hadmits

theorem begun_le_deadline_of_punctual (H : wait.spec.Punctual wait.start) (hr : wait.Reaches n)
    (h : wait.Admits n) : wait.begun n ≤ wait.deadline := by
  rcases H with hwhole | ⟨hfirst, honly⟩
  · calc wait.begun n ≤ Clock.ceilMilli wait.deadline := begun_le_ceilMilli_deadline h
      _ = wait.deadline := Clock.ceilMilli_eq_self hwhole
  · cases n with
    | zero => exact hfirst h
    | succ n =>
      obtain ⟨_, value, _, hmiss⟩ := hr 0 (Nat.succ_pos n)
      have hbegun : wait.begun 0 ≤ wait.ended (n + 1) :=
        Nat.le_trans (wait.begun_le_ended_succ 0) (wait.ended_mono (Nat.le_add_left 1 n))
      have hroom : wait.begun 0 + wait.spec.interval.nanos ≤ wait.deadline :=
        Nat.le_trans (Nat.add_le_add_right hbegun _) h
      rw [honly hroom value] at hmiss
      contradiction

end Wait

/-- A check that fails at once. -/
private def failing : Attempt Unit α := fun _ _ => ⟨0, false, (), .error (.invalidConfig "")⟩

/-- A check that answers `value` at the latest instant that leaves `spec` time for another one. -/
private def lingering (spec : Spec α) (deadline : Nat) (value : α) : Attempt Unit α :=
  fun now _ => ⟨deadline - spec.interval.nanos - now, false, (), .ok value⟩

private theorem punctual_of_begun_le {spec : Spec α} {start : Nat}
    (H : ∀ check : Attempt Unit α, ∀ c ∈ (run spec check start ()).checks,
      c.begun ≤ Clock.deadline start spec.timeout) : spec.Punctual start := by
  by_cases hwhole : 1000000 ∣ Clock.deadline start spec.timeout
  · exact .inl hwhole
  refine .inr ⟨fun hadmits => ?_, fun hroom value => ?_⟩
  · let wait : Wait Unit α := ⟨spec, failing, start, ()⟩
    exact H wait.check (wait.checkAt 0) <|
      wait.mem_run_checks.mpr ⟨0, Wait.reaches_zero, hadmits, rfl⟩
  · cases hmiss : value == spec.expected with
    | true => rfl
    | false =>
      -- The second check is let go ahead at the deadline itself, and the timer carries it past.
      let deadline := Clock.deadline start spec.timeout
      let wait : Wait Unit α := ⟨spec, lingering spec deadline value, start, ()⟩
      have hbegun : start + spec.interval.nanos ≤ wait.begun 0 := Clock.le_ceilMilli _
      have hroom' : wait.begun 0 + spec.interval.nanos ≤ deadline := hroom
      have hfirst : wait.Admits 0 := by
        change start + spec.interval.nanos ≤ deadline
        omega
      have hended : wait.ended 1 = deadline - spec.interval.nanos := by
        change wait.begun 0 + (deadline - spec.interval.nanos - wait.begun 0) = _
        omega
      have hsecond : wait.ended 1 + spec.interval.nanos = deadline := by omega
      have hreaches : wait.Reaches 1 :=
        Wait.reaches_succ.mpr ⟨Wait.reaches_zero, hfirst, value, rfl, hmiss⟩
      have hlate : Clock.ceilMilli (wait.ended 1 + spec.interval.nanos) ≤ deadline :=
        H wait.check (wait.checkAt 1) <|
          wait.mem_run_checks.mpr ⟨1, hreaches, Nat.le_of_eq hsecond, rfl⟩
      rw [hsecond] at hlate
      have hceil : Clock.ceilMilli deadline = deadline :=
        Nat.le_antisymm hlate (Clock.le_ceilMilli deadline)
      have hdvd : 1000000 ∣ deadline := by
        rw [← hceil]
        exact Clock.ceilMilli_dvd deadline
      exact absurd hdvd hwhole

/-- No check begins a millisecond or more after the deadline, and no check of any behaviour begins
after it exactly where the pace is punctual. -/
theorem begun_le_deadline_iff (spec : Spec α) (start : Nat) :
    (∀ (σ : Type) (check : Attempt σ α) (world : σ), ∀ c ∈ (run spec check start world).checks,
      c.begun < Clock.deadline start spec.timeout + 1000000) ∧
    ((∀ (σ : Type) (check : Attempt σ α) (world : σ), ∀ c ∈ (run spec check start world).checks,
      c.begun ≤ Clock.deadline start spec.timeout) ↔ spec.Punctual start) := by
  refine ⟨?_, fun H => punctual_of_begun_le (H Unit · ()), ?_⟩
  · intro σ check world c hc
    let wait : Wait σ α := ⟨spec, check, start, world⟩
    obtain ⟨n, _, h, rfl⟩ := wait.mem_run_checks.mp hc
    exact Nat.lt_of_le_of_lt (Wait.begun_le_ceilMilli_deadline h) (Clock.ceilMilli_lt _)
  · intro H σ check world c hc
    let wait : Wait σ α := ⟨spec, check, start, world⟩
    obtain ⟨n, hr, h, rfl⟩ := wait.mem_run_checks.mp hc
    exact Wait.begun_le_deadline_of_punctual H hr h

/-- A check every 0.6 ms for 1.8 ms. -/
def Spec.hasty : Spec Bool := ⟨.ofNanos 600000, .ofNanos 1800000, true, by decide, by decide⟩

/-- Answers `false`, and then always `true`. -/
def trueAtSecond : Attempt Bool Bool := fun _ before => ⟨0, false, true, .ok before⟩

/-- The first check misses at 1 ms, which leaves an interval and 0.2 ms before the deadline; the
second begins at 2 ms, and that is 0.2 ms after it. -/
theorem hasty_begins_late :
    ¬ ∀ c ∈ (run Spec.hasty trueAtSecond 0 false).checks,
      c.begun ≤ Clock.deadline 0 Spec.hasty.timeout := by
  let wait : Wait Bool Bool := ⟨.hasty, trueAtSecond, 0, false⟩
  intro H
  have hfirst : wait.Admits 0 ∧ wait.Misses 0 := ⟨by decide, false, rfl, rfl⟩
  have hreaches : wait.Reaches 1 := Wait.reaches_succ.mpr ⟨Wait.reaches_zero, hfirst⟩
  have hsecond : wait.Admits 1 := by decide
  have hlate := H (wait.checkAt 1) <|
    wait.mem_run_checks.mpr ⟨1, hreaches, hsecond, rfl⟩
  exact absurd hlate (by decide)

end IndexWatch.Poll
