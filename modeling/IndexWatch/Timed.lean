import IndexWatch.Duration

/-! Activities that take time.

A `Timed` task begins at an instant in a world and finishes later with a value and the world it leaves.
Tasks in sequence begin when the one before has finished, so time never runs backwards. `Timed.within`
cuts a task off at a limit. -/

namespace IndexWatch

/-- What a task leaves: how long it took, in nanoseconds, whether its last instant needed the
network, the world as it is then, and the task's value. -/
structure Outcome (σ α : Type) where
  took : Nat
  traffic : Bool
  world : σ
  value : α

/-- An activity in a world `σ`, begun at an instant. -/
def Timed (σ α : Type) := Nat → σ → Outcome σ α

namespace Timed

variable {σ α β : Type}

/-- The outcome of a task begun at `now` in `world`. -/
def run (task : Timed σ α) (now : Nat) (world : σ) : Outcome σ α := task now world

def done (value : α) : Timed σ α := fun _ world => ⟨0, false, world, value⟩

def andThen (task : Timed σ α) (next : α → Timed σ β) : Timed σ β := fun now world =>
  let first := task now world
  let second := next first.value (now + first.took) first.world
  ⟨first.took + second.took, second.traffic || (second.took == 0 && first.traffic), second.world,
    second.value⟩

instance : Monad (Timed σ) where
  pure := done
  bind := andThen

/-- The instant the task is begun at. -/
def now : Timed σ Nat := fun now world => ⟨0, false, world, now⟩

/-- Looks at the world. -/
def look : Timed σ σ := fun _ world => ⟨0, false, world, world⟩

/-- Changes the world in no time, and answers. -/
def act (step : σ → α × σ) : Timed σ α := fun _ world =>
  let (value, world) := step world
  ⟨0, false, world, value⟩

/-- Marks that a task's last instant needs the network. -/
def overNetwork (task : Timed σ α) : Timed σ α := fun now world =>
  { task now world with traffic := true }

/-- Waits for the timer that is set for `instant`; one that is past does not wait. -/
def sleepUntil (instant : Nat) : Timed σ Unit := fun now world =>
  ⟨max now (Clock.ceilMilli instant) - now, false, world, ()⟩

/-- Waits for `d`. -/
def sleep (d : Duration) : Timed σ Unit := fun now world =>
  sleepUntil (now + d.nanos) now world

/-- An answer that is owed: it may never be given. -/
inductive Answer (α : Type) where
  | never
  | given (value : α)
deriving DecidableEq

/-- The value of a task that is done in time, or nothing when the timer of `limit` fires first. A
task that ends when the timer fires is in time unless it still needs the network; one that needs the
network and has no time at all does nothing. -/
def within (limit : Nat) (task : Timed σ (Answer α)) : Timed σ (Option α) := fun begun world =>
  let strikes := max begun (Clock.ceilMilli limit)
  let full := task begun world
  let cut := ⟨strikes - begun, false, if begun = strikes ∧ full.traffic then world else full.world, none⟩
  match full.value with
  | .never => cut
  | .given value =>
    if begun + full.took < strikes ∨ (begun + full.took = strikes ∧ ¬ full.traffic) then
      ⟨full.took, full.traffic, full.world, some value⟩
    else cut

theorem ext {s t : Timed σ α} (h : ∀ now world, s.run now world = t.run now world) : s = t := by
  funext now world
  exact h now world

@[simp] theorem run_pure (value : α) (now : Nat) (world : σ) :
    run (pure value) now world = ⟨0, false, world, value⟩ := rfl

@[simp] theorem run_bind (task : Timed σ α) (next : α → Timed σ β) (now : Nat) (world : σ) :
    run (task >>= next) now world =
      let first := task.run now world
      let second := (next first.value).run (now + first.took) first.world
      ⟨first.took + second.took, second.traffic || (second.took == 0 && first.traffic),
        second.world, second.value⟩ := rfl

@[simp] theorem run_now (now : Nat) (world : σ) : run Timed.now now world = ⟨0, false, world, now⟩ := rfl

@[simp] theorem run_look (now : Nat) (world : σ) : run look now world = ⟨0, false, world, world⟩ := rfl

@[simp] theorem run_act (step : σ → α × σ) (now : Nat) (world : σ) :
    run (act step) now world = ⟨0, false, (step world).2, (step world).1⟩ := rfl

@[simp] theorem run_overNetwork (task : Timed σ α) (now : Nat) (world : σ) :
    run (overNetwork task) now world = { task.run now world with traffic := true } := rfl

@[simp] theorem run_sleepUntil (instant now : Nat) (world : σ) :
    run (sleepUntil instant) now world =
      ⟨max now (Clock.ceilMilli instant) - now, false, world, ()⟩ := rfl

@[simp] theorem run_map (f : α → β) (task : Timed σ α) (now : Nat) (world : σ) :
    run (f <$> task) now world =
      { task.run now world with value := f (task.run now world).value } := rfl

/-- A task that is cut off takes no longer than until the timer fires. -/
theorem took_within_le (limit : Nat) (task : Timed σ (Answer α)) (now : Nat) (world : σ) :
    ((within limit task).run now world).took ≤ max now (Clock.ceilMilli limit) - now := by
  simp only [run, within]
  split
  · exact Nat.le_refl _
  · split <;> simp only [] <;> omega

/-- A task whose last instant needs the network has its value only before the timer fires. -/
theorem value_within_eq_some_iff {limit : Nat} {task : Timed σ (Answer α)} {now : Nat} {world : σ}
    {value : α} (htraffic : (task.run now world).traffic = true) :
    ((within limit task).run now world).value = some value ↔
      (task.run now world).value = .given value ∧
        now + (task.run now world).took < Clock.ceilMilli limit := by
  have hintime : now + (task.run now world).took < max now (Clock.ceilMilli limit) ↔
      now + (task.run now world).took < Clock.ceilMilli limit := by omega
  simp only [run] at htraffic hintime ⊢
  simp only [within, htraffic, hintime]
  split
  · simp_all
  · split <;> simp_all

/-- A task whose last instant needs the network is cut off if the timer fires before its answer is
given, or just then. -/
theorem value_within_of_given (limit : Nat) {task : Timed σ (Answer α)} {now : Nat} {world : σ}
    {value : α} (htraffic : (task.run now world).traffic = true)
    (hvalue : (task.run now world).value = .given value) :
    ((within limit task).run now world).value =
      if now + (task.run now world).took < Clock.ceilMilli limit then some value else none := by
  have hiff (result : α) : ((within limit task).run now world).value = some result ↔
      value = result ∧ now + (task.run now world).took < Clock.ceilMilli limit := by
    rw [value_within_eq_some_iff htraffic, hvalue, Answer.given.injEq]
  split
  · next hintime => exact (hiff value).mpr ⟨rfl, hintime⟩
  · next hlate =>
    exact Option.eq_none_iff_forall_ne_some.mpr fun result h => hlate ((hiff result).mp h).2

/-- A task is done in time, or it is cut off and is not done before the timer fires. -/
theorem run_within_cases (limit : Nat) (task : Timed σ (Answer α)) (now : Nat) (world : σ) :
    (∃ value, (task.run now world).value = .given value ∧
      (within limit task).run now world = { task.run now world with value := some value }) ∨
    (((within limit task).run now world).value = none ∧
      ∀ value, (task.run now world).value = .given value →
        Clock.ceilMilli limit ≤ now + (task.run now world).took) := by
  simp only [run, within]
  cases (task now world).value with
  | never => exact .inr ⟨rfl, nofun⟩
  | given value =>
    by_cases hintime : now + (task now world).took < max now (Clock.ceilMilli limit) ∨
        (now + (task now world).took = max now (Clock.ceilMilli limit) ∧
          ¬ (task now world).traffic = true)
    · simp only [if_pos hintime]
      exact .inl ⟨value, rfl, rfl⟩
    · simp only [if_neg hintime]
      exact .inr ⟨trivial, fun _ _ => by omega⟩

/-- A task that takes no time and does not need the network is done in time. -/
theorem run_within_of_instant (limit : Nat) {task : Timed σ (Answer α)} {now : Nat} {world after : σ}
    {value : α} (h : task.run now world = ⟨0, false, after, .given value⟩) :
    (within limit task).run now world = ⟨0, false, after, some value⟩ := by
  have hintime : now + 0 < max now (Clock.ceilMilli limit) ∨
      (now + 0 = max now (Clock.ceilMilli limit) ∧ ¬ false = true) :=
    (Nat.lt_or_eq_of_le (Nat.le_max_left now _)).imp_right fun h => ⟨h, nofun⟩
  rw [run] at h
  simp only [run, within, h, if_pos hintime]

private theorem beq_zero_add (a b : Nat) : (a + b == 0) = (a == 0 && b == 0) := by
  cases a <;> cases b <;> simp

instance : LawfulMonad (Timed σ) := LawfulMonad.mk' (Timed σ)
  (fun task => ext fun now world => by
    change Timed.run (task >>= pure) now world = _
    simp)
  (fun value next => ext fun now world => by simp)
  (fun task next last => ext fun now world => by
    simp only [run_bind, Nat.add_assoc, beq_zero_add, Outcome.mk.injEq, and_true, true_and]
    grind)

end Timed

end IndexWatch
