import IndexWatch.Error

/-! How a wait is paced: the time between checks, the time for all of them, and the value that ends
it. -/

namespace IndexWatch.Poll

/-- The pace of a wait. The interval is never zero, and the timeout leaves room for one check. -/
structure Spec (α : Type) where
  interval : Duration
  timeout : Duration
  expected : α
  interval_pos : 0 < interval.nanos
  interval_le : interval ≤ timeout

namespace Spec

variable {α β : Type}

def make (interval timeout : Duration) (expected : α) : Except Error (Spec α) :=
  if hi : interval.nanos = 0 then
    .error (.invalidPollSpec "interval must be greater than zero")
  else if ht : timeout < interval then
    .error (.invalidPollSpec
      s!"timeout {timeout.text} is shorter than interval {interval.text}")
  else .ok ⟨interval, timeout, expected, Nat.pos_of_ne_zero hi, Nat.not_lt.mp ht⟩

theorem make_eq_ok_iff {interval timeout : Duration} {expected : α} {spec : Spec α} :
    make interval timeout expected = .ok spec ↔
      spec.interval = interval ∧ spec.timeout = timeout ∧ spec.expected = expected := by
  constructor
  · intro h
    unfold make at h
    split at h
    · contradiction
    · split at h
      · contradiction
      · cases h
        exact ⟨rfl, rfl, rfl⟩
  · rintro ⟨rfl, rfl, rfl⟩
    have hinterval : spec.interval.nanos ≠ 0 := Nat.ne_of_gt spec.interval_pos
    have htimeout : ¬ spec.timeout < spec.interval := Nat.not_lt.mpr spec.interval_le
    rw [make, dif_neg hinterval, dif_neg htimeout]

/-- A check every five seconds for two minutes. -/
def standard : Spec Bool :=
  ⟨.ofSeconds 5, .ofSeconds 120, true, by decide, by decide⟩

/-- The same pace with another expectation. -/
def expecting (spec : Spec α) (expected : β) : Spec β :=
  { spec with expected }

/-- The same checks with more time, for instance until a schedule first fires. -/
def withExtraTimeout (spec : Spec α) (extra : Duration) : Spec α :=
  { spec with
    timeout := spec.timeout.add extra
    interval_le := Nat.le_trans spec.interval_le (Duration.le_add ..) }

end Spec

end IndexWatch.Poll
