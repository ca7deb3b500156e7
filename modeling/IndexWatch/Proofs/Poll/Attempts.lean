import IndexWatch.Proofs.Poll.Cadence
import IndexWatch.Proofs.Poll.Expiry

/-! # Counting the checks of a wait

Checks that take no time are made as often as any: no wait makes more than its pace has room for
(`Wait.length_checks_le_room`), and a check that misses at once is made that often
(`length_checks_pure`). So the counter of checks, which has 32 bits, overflows at some check exactly where
there is room for more than it can count: `countable_iff`. -/

namespace IndexWatch.Poll

variable {σ α : Type}

/-! ## The counter -/

/-- One more, where 32 bits are enough for it. -/
def countOn (attempts : UInt32) : Option UInt32 :=
  if attempts.toNat + 1 < UInt32.size then some (attempts + 1) else none

/-- The counter of checks when a run is over, unless it overflowed on the way. -/
def Run.attempts? (run : Run σ α) : Option UInt32 :=
  run.checks.foldlM (fun attempts _ => countOn attempts) 0

theorem countOn_eq_some_iff {attempts next : UInt32} :
    countOn attempts = some next ↔ next.toNat = attempts.toNat + 1 := by
  have hnext := next.toNat_lt
  unfold countOn
  constructor
  · intro h
    split at h
    next hfits =>
      obtain rfl := Option.some.inj h
      rw [UInt32.toNat_add]
      exact Nat.mod_eq_of_lt hfits
    next => contradiction
  · intro h
    have hfits : attempts.toNat + 1 < UInt32.size := h ▸ hnext
    rw [if_pos hfits, Option.some.injEq, ← UInt32.toNat_inj, h, UInt32.toNat_add]
    exact Nat.mod_eq_of_lt hfits

theorem foldlM_countOn_eq_some_iff {β : Type} {made : List β} {attempts last : UInt32} :
    made.foldlM (fun attempts _ => countOn attempts) attempts = some last ↔
      last.toNat = attempts.toNat + made.length := by
  induction made generalizing attempts with
  | nil => simp [← UInt32.toNat_inj, eq_comm]
  | cons check made ih =>
    simp only [List.foldlM_cons, Option.bind_eq_bind, Option.bind_eq_some_iff, ih,
      countOn_eq_some_iff, List.length_cons]
    constructor
    · rintro ⟨next, hnext, hlast⟩
      omega
    · intro hlast
      have hfits : attempts.toNat + 1 < UInt32.size := by
        have hlt := last.toNat_lt_size
        omega
      refine ⟨.ofNat (attempts.toNat + 1), UInt32.toNat_ofNat_of_lt' hfits, ?_⟩
      rw [UInt32.toNat_ofNat_of_lt' hfits]
      omega

theorem Run.attempts?_eq_some_iff {run : Run σ α} {attempts : UInt32} :
    run.attempts? = some attempts ↔ attempts.toNat = run.checks.length := by
  rw [Run.attempts?, foldlM_countOn_eq_some_iff, UInt32.toNat_zero, Nat.zero_add]

/-- The counter does not overflow if its 32 bits are enough for the number of checks. -/
theorem Run.exists_attempts_iff {run : Run σ α} :
    (∃ attempts, run.attempts? = some attempts) ↔ run.checks.length ≤ 4294967295 := by
  simp only [attempts?_eq_some_iff]
  constructor
  · rintro ⟨attempts, hattempts⟩
    rw [← hattempts]
    exact Nat.le_of_lt_succ attempts.toNat_lt
  · intro h
    exact ⟨.ofNat run.checks.length, UInt32.toNat_ofNat_of_lt' (Nat.lt_succ_of_le h)⟩

theorem Run.attempts?_eq_none_iff {run : Run σ α} :
    run.attempts? = none ↔ 4294967295 < run.checks.length := by
  rw [← Nat.not_le, ← exists_attempts_iff, Option.eq_none_iff_forall_ne_some, not_exists]

/-! ## How many checks there can be -/

namespace Wait

variable {wait : Wait σ α} {n : Nat}

/-- Checks that take time only make the following ones later. -/
theorem beat_le_ended (wait : Wait σ α) (n : Nat) :
    wait.spec.beat wait.start n ≤ wait.ended n := by
  induction n with
  | zero => exact Nat.le_refl _
  | succ n ih =>
    calc wait.spec.beat wait.start (n + 1)
      _ = Clock.ceilMilli (wait.spec.beat wait.start n + wait.spec.interval.nanos) := Spec.beat_succ
      _ ≤ wait.begun n := Clock.ceilMilli_mono (Nat.add_le_add_right ih _)
      _ ≤ wait.ended (n + 1) := wait.begun_le_ended_succ n

theorem Admits.lt_room (h : wait.Admits n) : n < wait.spec.room wait.start :=
  Spec.beat_add_le_deadline_iff.mp <|
    Nat.le_trans (Nat.add_le_add_right (wait.beat_le_ended n) _) h

variable [BEq α]

/-- A wait makes no more checks than there is room for. -/
theorem length_checks_le_room (wait : Wait σ α) :
    (run wait.spec wait.check wait.start wait.world).checks.length ≤
      wait.spec.room wait.start := by
  obtain ⟨n, H, h | ⟨h, hstops⟩⟩ := wait.exists_stops
  · rw [run_of_not_admits H h, length_checks]
    cases n with
    | zero => exact Nat.zero_le _
    | succ n => exact (H n (Nat.lt_succ_self n)).1.lt_room
  · obtain ⟨ending, _, hrun⟩ := run_of_not_misses H h hstops
    rw [hrun, length_checks]
    exact h.lt_room

/-- Where every answer is expected, there is no second check. -/
theorem length_checks_le_one (wait : Wait σ α)
    (hmet : ∀ value, (value == wait.spec.expected) = true) :
    (run wait.spec wait.check wait.start wait.world).checks.length ≤ 1 := by
  have hfirst {n : Nat} (H : wait.Reaches n) : n = 0 := by
    cases n with
    | zero => rfl
    | succ n =>
      obtain ⟨_, value, _, hmiss⟩ := H 0 (Nat.succ_pos n)
      exact absurd (hmet value) (Bool.eq_false_iff.mp hmiss)
  obtain ⟨n, H, h | ⟨h, hstops⟩⟩ := wait.exists_stops
  · rw [run_of_not_admits H h, length_checks, hfirst H]
    exact Nat.zero_le 1
  · obtain ⟨ending, _, hrun⟩ := run_of_not_misses H h hstops
    have hlength : (run wait.spec wait.check wait.start wait.world).checks.length = 1 := by
      rw [hrun, length_checks, hfirst H]
    exact Nat.le_of_eq hlength

end Wait

variable [BEq α]

/-- A check that misses at once is made as often as there is room for. -/
theorem length_checks_pure {spec : Spec α} {value : α} (hmiss : (value == spec.expected) = false)
    (start : Nat) :
    (run spec (pure value : Attempt Unit α) start ()).checks.length = spec.room start := by
  let wait : Wait Unit α := ⟨spec, pure value, start, ()⟩
  have hprompt : wait.Prompt (spec.room start) := fun _ _ => rfl
  obtain ⟨hreaches, hlate⟩ := hprompt.fills_room fun _ _ => ⟨value, rfl, hmiss⟩
  have hrun : run spec (pure value : Attempt Unit α) start () = _ :=
    Wait.run_of_not_admits hreaches hlate
  rw [hrun]
  exact Wait.length_checks

/-- Whatever its check does, a wait of this pace makes at most 4294967295 checks, and the counter of
its checks does not overflow. -/
def Spec.Countable (spec : Spec α) (start : Nat) : Prop :=
  ∀ (σ : Type) (check : Attempt σ α) (world : σ),
    let run := run spec check start world
    run.checks.length ≤ 4294967295 ∧ ∃ attempts, run.attempts? = some attempts

/-- A wait makes no more checks than its pace has room for, so they can be counted where there is room
for 4294967295 at most. Elsewhere a check that always misses at once is made too often, unless there is
nothing to miss. From a whole millisecond on, there is room for one check and one more for each
interval, rounded up to whole milliseconds, that the rest of the timeout holds. -/
theorem countable_iff (spec : Spec α) (start : Nat) :
    (∀ (σ : Type) (check : Attempt σ α) (world : σ),
      (run spec check start world).checks.length ≤ spec.room start) ∧
    (spec.Countable start ↔
      spec.room start ≤ 4294967295 ∨ ∀ value, (value == spec.expected) = true) ∧
    (1000000 ∣ start → start + spec.timeout.nanos < Clock.horizon →
      spec.room start = (spec.timeout.nanos - spec.interval.nanos) / spec.stride + 1) := by
  have hroom (σ : Type) (check : Attempt σ α) (world : σ) :
      (run spec check start world).checks.length ≤ spec.room start :=
    Wait.length_checks_le_room ⟨spec, check, start, world⟩
  refine ⟨hroom, ⟨fun H => ?only, fun h σ check world => ?enough⟩, Spec.room_of_dvd⟩
  case only =>
    by_cases hmet : ∀ value, (value == spec.expected) = true
    · exact .inr hmet
    · obtain ⟨value, hmiss⟩ := Classical.not_forall.mp hmet
      have hmost := (H Unit (pure value) ()).1
      rw [length_checks_pure (Bool.eq_false_iff.mpr hmiss)] at hmost
      exact .inl hmost
  case enough =>
    have hmost : (run spec check start world).checks.length ≤ 4294967295 := by
      rcases h with h | hmet
      · exact Nat.le_trans (hroom σ check world) h
      · have hone : (run spec check start world).checks.length ≤ 1 :=
          Wait.length_checks_le_one ⟨spec, check, start, world⟩ hmet
        omega
    exact ⟨hmost, Run.exists_attempts_iff.mpr hmost⟩

/-- A check every millisecond for seven weeks and a bit. -/
def Spec.ceaseless : Spec Bool :=
  ⟨.ofMillis 1, .ofMillis 4294967296, true, by decide, by decide⟩

private theorem room_ceaseless : Spec.ceaseless.room 0 = 4294967296 :=
  (Spec.room_of_dvd (by decide) (by decide)).trans (by decide)

/-- One check more is made than the counter can count. -/
theorem ceaseless_overflows :
    (run Spec.ceaseless (pure false : Attempt Unit Bool) 0 ()).checks.length = 4294967296 ∧
      (run Spec.ceaseless (pure false : Attempt Unit Bool) 0 ()).attempts? = none ∧
      ¬ Spec.ceaseless.Countable 0 := by
  have hlength : (run Spec.ceaseless (pure false : Attempt Unit Bool) 0 ()).checks.length =
      4294967296 := (length_checks_pure rfl 0).trans room_ceaseless
  have hmore : 4294967295 <
      (run Spec.ceaseless (pure false : Attempt Unit Bool) 0 ()).checks.length := by
    rw [hlength]
    decide
  exact ⟨hlength, Run.attempts?_eq_none_iff.mpr hmore,
    fun H => Nat.not_le.mpr hmore (H Unit (pure false) ()).1⟩

end IndexWatch.Poll
