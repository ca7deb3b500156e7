import IndexWatch.Error
import Mathlib.Data.List.Forall2

/-! # Steps that may fail

A chain of steps has a value exactly where each of its steps has one, and its error is that of the
first step that fails. The values of the steps of a list stand in its order. -/

namespace IndexWatch

variable {ε ε' α β : Type}

theorem bind_eq_ok_iff {step : Except ε α} {next : α → Except ε β} {value : β} :
    (step >>= next) = .ok value ↔ ∃ a, step = .ok a ∧ next a = .ok value := by
  cases step <;> simp [bind, Except.bind]

/-- A chain fails where its first step does, or what follows. -/
theorem bind_eq_error_iff {step : Except ε α} {next : α → Except ε β} {e : ε} :
    (step >>= next) = .error e ↔ step = .error e ∨ ∃ a, step = .ok a ∧ next a = .error e := by
  cases step <;> simp [bind, Except.bind]

theorem mapError_eq_ok_iff {step : Except ε α} {f : ε → ε'} {value : α} :
    step.mapError f = .ok value ↔ step = .ok value := by
  cases step with
  | error => exact ⟨nofun, nofun⟩
  | ok => constructor <;> intro h <;> cases h <;> rfl

theorem map_unit_eq_ok_iff {step : Except ε α} :
    (step.map fun _ => ()) = .ok () ↔ ∃ a, step = .ok a := by
  cases step <;> simp [Except.map]

/-- A check lets the next step go on where it finds no fault. -/
theorem ite_error_eq_ok_iff {fault : Prop} [Decidable fault] {e : ε} {next : Except ε α}
    {value : α} :
    (if fault then .error e else next) = .ok value ↔ ¬ fault ∧ next = .ok value := by
  by_cases h : fault <;> simp [h]

theorem exists_error_iff {result : Except ε α} :
    (∃ e, result = .error e) ↔ ¬ ∃ value, result = .ok value := by
  cases result <;> simp

/-- The error of a result, where it is one. -/
def failure? : Except ε α → Option ε
  | .error e => some e
  | .ok _ => none

theorem failure?_eq_some_iff {result : Except ε α} {e : ε} :
    failure? result = some e ↔ result = .error e := by
  cases result <;> simp [failure?]

theorem failure?_eq_none_iff {result : Except ε α} :
    failure? result = none ↔ ∃ value, result = .ok value := by
  cases result <;> simp [failure?]

theorem failure?_bind {step : Except ε α} {next : α → Except ε β} {rest : Option ε}
    (h : ∀ a, step = .ok a → failure? (next a) = rest) :
    failure? (step >>= next) = (failure? step).or rest := by
  cases step with
  | error e => rfl
  | ok a => exact h a rfl

/-! ## Steps of a list -/

theorem mapM_eq_ok_iff {f : α → Except ε β} {xs : List α} {ys : List β} :
    xs.mapM f = .ok ys ↔ List.Forall₂ (fun x y => f x = .ok y) xs ys := by
  induction xs generalizing ys with
  | nil => simp [pure, Except.pure, eq_comm]
  | cons x xs ih =>
    simp only [List.mapM_cons, bind_eq_ok_iff, List.forall₂_cons_left_iff, ih, pure, Except.pure,
      Except.ok.injEq, eq_comm (a := ys)]
    constructor
    · rintro ⟨y, hy, ys, hys, rfl⟩
      exact ⟨y, ys, hy, hys, rfl⟩
    · rintro ⟨y, ys, hy, hys, rfl⟩
      exact ⟨y, hy, ys, hys, rfl⟩

section
variable {γ : Type} {R : α → β → Prop} {S : β → γ → Prop} {xs : List α} {zs : List γ}

theorem exists_forall₂_iff : (∃ ys, List.Forall₂ R xs ys) ↔ ∀ x ∈ xs, ∃ y, R x y := by
  induction xs with
  | nil => simp
  | cons x xs ih =>
    rw [List.forall_mem_cons, ← ih]
    constructor
    · rintro ⟨_, hx | ⟨hx, hxs⟩⟩
      exact ⟨⟨_, hx⟩, _, hxs⟩
    · rintro ⟨⟨y, hx⟩, ys, hxs⟩
      exact ⟨_, .cons hx hxs⟩

theorem exists_forall₂_and_forall₂_iff :
    (∃ ys, List.Forall₂ R xs ys ∧ List.Forall₂ S ys zs) ↔
      List.Forall₂ (fun x z => ∃ y, R x y ∧ S y z) xs zs := by
  constructor
  · rintro ⟨ys, hxs, hys⟩
    induction hxs generalizing zs with
    | nil =>
      cases hys
      exact .nil
    | cons hxy _ ih =>
      cases hys with
      | cons hyz hys => exact .cons ⟨_, hxy, hyz⟩ (ih hys)
  · intro h
    induction h with
    | nil => exact ⟨[], .nil, .nil⟩
    | cons hxz _ ih =>
      obtain ⟨y, hxy, hyz⟩ := hxz
      obtain ⟨ys, hxs, hys⟩ := ih
      exact ⟨y :: ys, .cons hxy hxs, .cons hyz hys⟩

end

theorem exists_mapM_eq_ok_iff {f : α → Except ε β} {xs : List α} :
    (∃ ys, xs.mapM f = .ok ys) ↔ ∀ x ∈ xs, ∃ y, f x = .ok y := by
  simp only [mapM_eq_ok_iff, exists_forall₂_iff]

end IndexWatch
