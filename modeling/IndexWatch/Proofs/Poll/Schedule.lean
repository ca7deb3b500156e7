import IndexWatch.Poll.Run

/-! # The schedule of a wait

A `Wait` fixes when each of its checks would begin, in which world, and what it would answer, were
it made: `ended`, `worldAt`, `begun` and `answer` are functions of the number of checks before it and
do not look at whether the wait goes on. Whether it does is said apart: `Reaches n` holds when the
first `n` checks are all made and all miss. `run_of_not_admits`, `run_of_met` and `run_of_failed` say
what the loop has done when it stops, and `exists_stops` that it does. -/

namespace IndexWatch.Poll

variable {σ α : Type}

/-- There is time for a check in a wait that starts then. -/
def Spec.HasTime (spec : Spec α) (start : Nat) : Prop :=
  start + spec.interval.nanos ≤ Clock.deadline start spec.timeout

instance (spec : Spec α) (start : Nat) : Decidable (spec.HasTime start) :=
  inferInstanceAs (Decidable (_ ≤ _))

/-- There is time unless the deadline is no instant and the interval is longer than what is waited
instead. -/
theorem Spec.hasTime_iff {spec : Spec α} {start : Nat} :
    spec.HasTime start ↔
      start + spec.timeout.nanos < Clock.horizon ∨
        spec.interval.nanos ≤ Clock.farFuture.nanos := by
  have hle : spec.interval.nanos ≤ spec.timeout.nanos := spec.interval_le
  unfold HasTime Clock.deadline
  split <;> omega

theorem Spec.HasTime.anti {spec : Spec α} {start later : Nat} (H : spec.HasTime later)
    (h : start ≤ later) : spec.HasTime start := by
  rw [hasTime_iff] at H ⊢
  omega

/-- A wait that is to be made: its pace and its check, and when and in which world it starts. -/
structure Wait (σ α : Type) where
  spec : Spec α
  check : Attempt σ α
  start : Nat
  world : σ

namespace Wait

section
variable (wait : Wait σ α)

def deadline : Nat := Clock.deadline wait.start wait.spec.timeout

/-- When the `n` checks before are over, and in which world. -/
def standing : Nat → Nat × σ
  | 0 => (wait.start, wait.world)
  | n + 1 =>
    let (ended, world) := standing n
    let begun := Clock.ceilMilli (ended + wait.spec.interval.nanos)
    let outcome := Timed.run wait.check begun world
    (begun + outcome.took, outcome.world)

/-- When the `n`th check has ended; the wait's start comes before the first. -/
def ended (n : Nat) : Nat := (wait.standing n).1

def worldAt (n : Nat) : σ := (wait.standing n).2

/-- When the check that `n` checks come before begins: an interval after the last one ended, on the
next whole millisecond. -/
def begun (n : Nat) : Nat := Clock.ceilMilli (wait.ended n + wait.spec.interval.nanos)

def outcome (n : Nat) : Outcome σ (Except Error α) :=
  Timed.run wait.check (wait.begun n) (wait.worldAt n)

def answer (n : Nat) : Except Error α := (wait.outcome n).value

def checkAt (n : Nat) : Check α := ⟨wait.begun n, (wait.outcome n).took, wait.answer n⟩

/-- The first `n` checks. -/
def checks (n : Nat) : List (Check α) := (List.range n).map wait.checkAt

/-- The deadline leaves time for the check that `n` checks come before. -/
def Admits (n : Nat) : Prop := wait.ended n + wait.spec.interval.nanos ≤ wait.deadline

instance (n : Nat) : Decidable (wait.Admits n) := inferInstanceAs (Decidable (_ ≤ _))

/-- That check answers with something else than what is waited for. -/
def Misses [BEq α] (n : Nat) : Prop :=
  ∃ value, wait.answer n = .ok value ∧ (value == wait.spec.expected) = false

/-- The first `n` checks are made, and each of them misses. -/
def Reaches [BEq α] (n : Nat) : Prop := ∀ i < n, wait.Admits i ∧ wait.Misses i

end

variable {wait : Wait σ α} {n : Nat}

theorem ended_succ : wait.ended (n + 1) = wait.begun n + (wait.outcome n).took := rfl

theorem worldAt_succ : wait.worldAt (n + 1) = (wait.outcome n).world := rfl

theorem checks_succ : wait.checks (n + 1) = wait.checks n ++ [wait.checkAt n] := by
  simp [checks, List.range_succ]

@[simp] theorem length_checks : (wait.checks n).length = n := by
  simp [checks]

theorem getLast?_checks_succ : (wait.checks (n + 1)).getLast? = some (wait.checkAt n) := by
  simp [checks_succ]

theorem observed?_checkAt {value : α} (h : wait.answer n = .ok value) :
    (wait.checkAt n).observed? = some value := by
  simp [Check.observed?, checkAt, h, Except.toOption]

theorem mem_checks {c : Check α} : c ∈ wait.checks n ↔ ∃ i < n, wait.checkAt i = c := by
  simp [checks]

/-! ## Time along the schedule -/

theorem ended_add_interval_le_begun (wait : Wait σ α) (n : Nat) :
    wait.ended n + wait.spec.interval.nanos ≤ wait.begun n :=
  Clock.le_ceilMilli _

theorem begun_le_ended_succ (wait : Wait σ α) (n : Nat) : wait.begun n ≤ wait.ended (n + 1) :=
  Nat.le_add_right ..

theorem ended_lt_ended_succ (wait : Wait σ α) (n : Nat) : wait.ended n < wait.ended (n + 1) := by
  have hpos := wait.spec.interval_pos
  have hbegun := wait.ended_add_interval_le_begun n
  have hended := wait.begun_le_ended_succ n
  omega

theorem ended_mono (wait : Wait σ α) {m n : Nat} (h : m ≤ n) : wait.ended m ≤ wait.ended n := by
  induction h with
  | refl => exact Nat.le_refl _
  | step _ ih => exact Nat.le_trans ih (Nat.le_of_lt (wait.ended_lt_ended_succ _))

theorem le_begun_of_le_start {t : Nat} (h : t ≤ wait.start) (n : Nat) : t ≤ wait.begun n :=
  calc t ≤ wait.ended 0 := h
    _ ≤ wait.ended n := wait.ended_mono (Nat.zero_le n)
    _ ≤ wait.ended n + wait.spec.interval.nanos := Nat.le_add_right ..
    _ ≤ wait.begun n := wait.ended_add_interval_le_begun n

theorem begun_lt_begun (wait : Wait σ α) {m n : Nat} (h : m < n) : wait.begun m < wait.begun n :=
  calc wait.begun m ≤ wait.ended (m + 1) := wait.begun_le_ended_succ m
    _ ≤ wait.ended n := wait.ended_mono h
    _ < wait.ended n + wait.spec.interval.nanos := Nat.lt_add_of_pos_right wait.spec.interval_pos
    _ ≤ wait.begun n := wait.ended_add_interval_le_begun n

/-- No two checks begin at the same instant. -/
theorem begun_inj {m n : Nat} (h : wait.begun m = wait.begun n) : m = n := by
  rcases Nat.lt_trichotomy m n with hlt | heq | hlt
  · exact absurd h (Nat.ne_of_lt (wait.begun_lt_begun hlt))
  · exact heq
  · exact absurd h (Nat.ne_of_gt (wait.begun_lt_begun hlt))

theorem le_ended (wait : Wait σ α) (n : Nat) : n ≤ wait.ended n := by
  induction n with
  | zero => exact Nat.zero_le _
  | succ n ih => exact Nat.lt_of_le_of_lt ih (wait.ended_lt_ended_succ n)

/-- The loop asks for the time that is left, which is nothing after the deadline. -/
theorem admits_iff :
    wait.Admits n ↔ ¬ wait.deadline - wait.ended n < wait.spec.interval.nanos := by
  have hpos := wait.spec.interval_pos
  unfold Admits
  omega

/-- Checks that follow each other are an interval apart, from the end of one to the beginning of
the next. -/
theorem checks_spaced :
    (wait.checks n).Pairwise fun a b => a.ended + wait.spec.interval.nanos ≤ b.begun := by
  rw [checks, List.pairwise_map]
  refine List.pairwise_lt_range.imp fun {i j} hij => ?_
  have hended : wait.ended (i + 1) ≤ wait.ended j := wait.ended_mono hij
  have hbegun := wait.ended_add_interval_le_begun j
  change wait.ended (i + 1) + _ ≤ wait.begun j
  omega

/-! ## The loop on the schedule -/

variable [BEq α]

theorem not_misses_iff :
    ¬ wait.Misses n ↔ (∃ e, wait.answer n = .error e) ∨
      ∃ value, wait.answer n = .ok value ∧ (value == wait.spec.expected) = true := by
  cases h : wait.answer n <;> simp [Misses, h]

theorem reaches_zero : wait.Reaches 0 := fun _ h => absurd h (Nat.not_lt_zero _)

theorem Reaches.mono {m : Nat} (H : wait.Reaches n) (h : m ≤ n) : wait.Reaches m :=
  fun i hi => H i (Nat.lt_of_lt_of_le hi h)

theorem reaches_succ : wait.Reaches (n + 1) ↔ wait.Reaches n ∧ wait.Admits n ∧ wait.Misses n := by
  constructor
  · intro H
    exact ⟨H.mono (Nat.le_succ n), H n (Nat.lt_succ_self n)⟩
  · rintro ⟨H, h⟩ i hi
    rcases Nat.lt_succ_iff_lt_or_eq.mp hi with hi | rfl
    · exact H i hi
    · exact h

/-- The loop from where the wait stands after its first `n` checks. -/
private def loopAt (wait : Wait σ α) (n : Nat) : Run σ α :=
  runFrom wait.spec wait.deadline wait.check (wait.checks n).reverse (wait.ended n)
    (wait.worldAt n)

private theorem loopAt_of_admits (h : wait.Admits n) :
    wait.loopAt n =
      match wait.answer n with
      | .error e => ⟨wait.checks (n + 1), .failed e, wait.ended (n + 1), wait.worldAt (n + 1)⟩
      | .ok value =>
        if value == wait.spec.expected then
          ⟨wait.checks (n + 1), .met, wait.ended (n + 1), wait.worldAt (n + 1)⟩
        else wait.loopAt (n + 1) := by
  have hmade : (wait.checkAt n :: (wait.checks n).reverse).reverse = wait.checks (n + 1) := by
    simp [checks_succ]
  have hdone : wait.checkAt n :: (wait.checks n).reverse = (wait.checks (n + 1)).reverse := by
    simp [checks_succ]
  rw [loopAt, runFrom, if_neg (admits_iff.mp h), ← hmade]
  rw [loopAt, ← hdone]
  rfl

private theorem run_eq_loopAt (H : wait.Reaches n) :
    run wait.spec wait.check wait.start wait.world = wait.loopAt n := by
  induction n with
  | zero => rfl
  | succ n ih =>
    obtain ⟨H, hadmits, value, hanswer, hmiss⟩ := reaches_succ.mp H
    rw [ih H, loopAt_of_admits hadmits, hanswer]
    simp [hmiss]

theorem run_of_not_admits (H : wait.Reaches n) (h : ¬ wait.Admits n) :
    run wait.spec wait.check wait.start wait.world =
      ⟨wait.checks n, .expired, max (wait.ended n) (Clock.ceilMilli wait.deadline),
        wait.worldAt n⟩ := by
  have hlt := Classical.not_not.mp (mt admits_iff.mpr h)
  rw [run_eq_loopAt H, loopAt, runFrom, if_pos hlt, List.reverse_reverse]

theorem run_of_met {value : α} (H : wait.Reaches n) (h : wait.Admits n)
    (hanswer : wait.answer n = .ok value) (hmet : (value == wait.spec.expected) = true) :
    run wait.spec wait.check wait.start wait.world =
      ⟨wait.checks (n + 1), .met, wait.ended (n + 1), wait.worldAt (n + 1)⟩ := by
  rw [run_eq_loopAt H, loopAt_of_admits h, hanswer]
  simp [hmet]

theorem run_of_failed {e : Error} (H : wait.Reaches n) (h : wait.Admits n)
    (hanswer : wait.answer n = .error e) :
    run wait.spec wait.check wait.start wait.world =
      ⟨wait.checks (n + 1), .failed e, wait.ended (n + 1), wait.worldAt (n + 1)⟩ := by
  rw [run_eq_loopAt H, loopAt_of_admits h, hanswer]

/-- A wait stops: it cannot go on missing, for each check takes it an interval closer to its
deadline. -/
theorem exists_stops (wait : Wait σ α) :
    ∃ n, wait.Reaches n ∧ (¬ wait.Admits n ∨ wait.Admits n ∧ ¬ wait.Misses n) := by
  apply Classical.byContradiction
  intro hgoes
  have H : ∀ n, wait.Reaches n := by
    intro n
    induction n with
    | zero => exact reaches_zero
    | succ n ih => grind [reaches_succ]
  have hadmits := (H (wait.deadline + 1) wait.deadline (Nat.lt_succ_self _)).1
  have hpos := wait.spec.interval_pos
  have hle := wait.le_ended wait.deadline
  unfold Admits at hadmits
  omega

/-- The checks that are made are those that the wait reaches and has time for. -/
theorem mem_run_checks (wait : Wait σ α) {c : Check α} :
    c ∈ (run wait.spec wait.check wait.start wait.world).checks ↔
      ∃ n, wait.Reaches n ∧ wait.Admits n ∧ wait.checkAt n = c := by
  obtain ⟨n, H, h | ⟨h, hstops⟩⟩ := wait.exists_stops
  · rw [run_of_not_admits H h, mem_checks]
    constructor
    · rintro ⟨i, hi, rfl⟩
      exact ⟨i, H.mono (Nat.le_of_lt hi), (H i hi).1, rfl⟩
    · rintro ⟨m, Hm, hm, rfl⟩
      refine ⟨m, Nat.lt_of_not_le fun hle => ?_, rfl⟩
      rcases Nat.lt_or_eq_of_le hle with hlt | rfl
      · exact h (Hm n hlt).1
      · exact h hm
  · have hchecks : (run wait.spec wait.check wait.start wait.world).checks = wait.checks (n + 1) := by
      rcases not_misses_iff.mp hstops with ⟨e, hanswer⟩ | ⟨value, hanswer, hmet⟩
      · rw [run_of_failed H h hanswer]
      · rw [run_of_met H h hanswer hmet]
    rw [hchecks, mem_checks]
    constructor
    · rintro ⟨i, hi, rfl⟩
      have hle := Nat.le_of_lt_succ hi
      refine ⟨i, H.mono hle, ?_, rfl⟩
      rcases Nat.lt_or_eq_of_le hle with hlt | rfl
      · exact (H i hlt).1
      · exact h
    · rintro ⟨m, Hm, _, rfl⟩
      refine ⟨m, Nat.lt_of_not_le fun hle => ?_, rfl⟩
      exact hstops (Hm n hle).2

end Wait

end IndexWatch.Poll
