import IndexWatch.Error
import IndexWatch.Timed

/-! Tasks that may fail with an `Error`. -/

namespace IndexWatch

/-- A task that ends with a value or with an error. What follows a failed attempt is not begun. -/
abbrev Attempt (σ α : Type) := ExceptT Error (Timed σ) α

namespace Attempt

variable {σ α β : Type}

def ofTimed (task : Timed σ (Except Error α)) : Attempt σ α := ExceptT.mk task

def ofExcept (result : Except Error α) : Attempt σ α := ExceptT.mk (pure result)

theorem run_ofTimed (task : Timed σ (Except Error α)) : (ofTimed task).run = task := rfl

theorem run_ofExcept (result : Except Error α) :
    (ofExcept result : Attempt σ α).run = pure result := rfl

private theorem run_bind (task : Attempt σ α) (next : α → Attempt σ β) (now : Nat) (world : σ) :
    Timed.run (task >>= next : Attempt σ β) now world =
      let first := Timed.run task now world
      let rest : Timed σ (Except Error β) := ExceptT.bindCont next (Timed.run task now world).value
      let second := rest.run (now + first.took) first.world
      ⟨first.took + second.took, second.traffic || (second.took == 0 && first.traffic),
        second.world, second.value⟩ := rfl

theorem run_bind_error {task : Attempt σ α} {next : α → Attempt σ β} {now : Nat} {world : σ}
    {e : Error} (h : (Timed.run task now world).value = .error e) :
    Timed.run (task >>= next : Attempt σ β) now world =
      { Timed.run task now world with value := .error e } := by
  rw [run_bind, h]
  simp [ExceptT.bindCont]

theorem run_bind_ok {task : Attempt σ α} {next : α → Attempt σ β} {now : Nat} {world : σ}
    {value : α} (h : (Timed.run task now world).value = .ok value) :
    Timed.run (task >>= next : Attempt σ β) now world =
      let first := Timed.run task now world
      let second := Timed.run (next value) (now + first.took) first.world
      ⟨first.took + second.took, second.traffic || (second.took == 0 && first.traffic),
        second.world, second.value⟩ := by
  rw [run_bind, h]
  rfl

/-- What follows in no time does not make an attempt any longer. -/
theorem took_bind_of_instant {task : Attempt σ α} {next : α → Attempt σ β}
    (h : ∀ a now world, (Timed.run (next a) now world).took = 0) (now : Nat) (world : σ) :
    (Timed.run (task >>= next : Attempt σ β) now world).took = (Timed.run task now world).took := by
  cases hvalue : (Timed.run task now world).value with
  | error e => rw [run_bind_error hvalue]
  | ok a =>
    rw [run_bind_ok hvalue]
    exact congrArg (_ + ·) (h ..)

/-- What follows an attempt may only judge what it gave. -/
theorem value_bind_ofExcept {task : Attempt σ α} {judge : α → Except Error β} {now : Nat}
    {world : σ} :
    (Timed.run (task >>= fun a => ofExcept (judge a) : Attempt σ β) now world).value =
      (Timed.run task now world).value >>= judge := by
  cases h : (Timed.run task now world).value with
  | error e =>
    rw [run_bind_error h]
    rfl
  | ok a =>
    rw [run_bind_ok h]
    rfl

theorem value_bind_eq_ok_iff {task : Attempt σ α} {next : α → Attempt σ β} {now : Nat} {world : σ}
    {value : β} :
    (Timed.run (task >>= next : Attempt σ β) now world).value = .ok value ↔
      let first := Timed.run task now world
      ∃ a, first.value = .ok a ∧
        (Timed.run (next a) (now + first.took) first.world).value = .ok value := by
  cases h : (Timed.run task now world).value with
  | error e => simp [run_bind_error h, h]
  | ok a => simp [run_bind_ok h, h]

end Attempt

end IndexWatch
