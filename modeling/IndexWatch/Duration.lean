import IndexWatch.Decimal.Places

/-! Spans of time and points in time.

A `Duration` is a whole number of nanoseconds up to `Duration.maxNanos`; arithmetic on it saturates,
and `Duration.text` writes it in the largest unit that has a whole part (`1.5µs`, `60s`). Instants
are natural numbers, in nanoseconds since the clock was started; `Clock` holds the two rules about
them, when timers fire and where deadlines lie. -/

namespace IndexWatch

/-- The nanoseconds of the longest span: `2 ^ 64 - 1` seconds and 999999999 nanoseconds. -/
def Duration.maxNanos : Nat := 18446744073709551615999999999

/-- A span of time. -/
structure Duration where
  nanos : Nat
  nanos_le : nanos ≤ Duration.maxNanos
deriving DecidableEq

namespace Duration

def nanosPerSecond : Nat := 1000000000

def nanosPerMilli : Nat := 1000000

/-- The span of `n` nanoseconds, or the longest one. -/
def ofNanos (n : Nat) : Duration := ⟨min n maxNanos, Nat.min_le_right ..⟩

def ofSeconds (n : Nat) : Duration := ofNanos (n * nanosPerSecond)

def ofMillis (n : Nat) : Duration := ofNanos (n * nanosPerMilli)

def zero : Duration := ofNanos 0

def longest : Duration := ofNanos maxNanos

/-- The sum, or the longest span where the sum is longer. -/
def add (a b : Duration) : Duration := ofNanos (a.nanos + b.nanos)

instance : LE Duration := ⟨fun a b => a.nanos ≤ b.nanos⟩

instance : LT Duration := ⟨fun a b => a.nanos < b.nanos⟩

instance (a b : Duration) : Decidable (a ≤ b) := inferInstanceAs (Decidable (a.nanos ≤ b.nanos))

instance (a b : Duration) : Decidable (a < b) := inferInstanceAs (Decidable (a.nanos < b.nanos))

@[simp] theorem nanos_ofNanos (n : Nat) : (ofNanos n).nanos = min n maxNanos := rfl

@[simp] theorem nanos_add (a b : Duration) : (a.add b).nanos = min (a.nanos + b.nanos) maxNanos := rfl

theorem le_def {a b : Duration} : a ≤ b ↔ a.nanos ≤ b.nanos := Iff.rfl

theorem lt_def {a b : Duration} : a < b ↔ a.nanos < b.nanos := Iff.rfl

theorem ext {a b : Duration} (h : a.nanos = b.nanos) : a = b := by
  cases a; cases b; simpa using h

theorem le_add (a b : Duration) : a ≤ a.add b := by
  have h : a.nanos ≤ maxNanos := a.nanos_le
  rw [le_def, nanos_add]
  omega

/-- A span in the largest of the units s, ms, µs and ns in which it has a whole part. -/
def text (d : Duration) : String :=
  if d.nanos ≥ 1000000000 then Decimal.withPlaces 9 d.nanos ++ "s"
  else if d.nanos ≥ 1000000 then Decimal.withPlaces 6 d.nanos ++ "ms"
  else if d.nanos ≥ 1000 then Decimal.withPlaces 3 d.nanos ++ "µs"
  else toString d.nanos ++ "ns"

end Duration

namespace Clock

/-- Timers fire on whole milliseconds: the first one that is not before `t`. -/
def ceilMilli (t : Nat) : Nat := (t + 999999) / 1000000 * 1000000

/-- No instant lies at or after this one. -/
def horizon : Nat := 9223372036854775807 * 1000000000

/-- How far off a deadline is when start and timeout add up to no instant: thirty years. -/
def farFuture : Duration := Duration.ofSeconds 946080000

/-- The instant `timeout` after `start`, or `farFuture` after it where there is no such instant. -/
def deadline (start : Nat) (timeout : Duration) : Nat :=
  if start + timeout.nanos < horizon then start + timeout.nanos else start + farFuture.nanos

theorem le_ceilMilli (t : Nat) : t ≤ ceilMilli t := by
  unfold ceilMilli; omega

theorem ceilMilli_lt (t : Nat) : ceilMilli t < t + 1000000 := by
  unfold ceilMilli; omega

theorem ceilMilli_mono {s t : Nat} (h : s ≤ t) : ceilMilli s ≤ ceilMilli t := by
  unfold ceilMilli; omega

theorem ceilMilli_dvd (t : Nat) : 1000000 ∣ ceilMilli t := ⟨_, Nat.mul_comm ..⟩

theorem ceilMilli_eq_self {t : Nat} (h : 1000000 ∣ t) : ceilMilli t = t := by
  unfold ceilMilli; omega

/-- Whole milliseconds do not change how the rest is rounded. -/
theorem ceilMilli_add_of_dvd {s : Nat} (h : 1000000 ∣ s) (t : Nat) :
    ceilMilli (s + t) = s + ceilMilli t := by
  unfold ceilMilli; omega

/-- What is rounded to a whole millisecond within the instants is still a duration. -/
theorem ceilMilli_le_maxNanos {t : Nat} (h : t < horizon) : ceilMilli t ≤ Duration.maxNanos := by
  have hlt := ceilMilli_lt t
  have hend : horizon + 1000000 ≤ Duration.maxNanos := by decide
  omega

theorem deadline_of_lt {start : Nat} {timeout : Duration} (h : start + timeout.nanos < horizon) :
    deadline start timeout = start + timeout.nanos :=
  if_pos h

theorem deadline_of_le {start : Nat} {timeout : Duration} (h : horizon ≤ start + timeout.nanos) :
    deadline start timeout = start + farFuture.nanos :=
  if_neg (Nat.not_lt.mpr h)

theorem le_deadline (start : Nat) (timeout : Duration) : start ≤ deadline start timeout := by
  unfold deadline; split <;> omega

theorem lt_deadline (start : Nat) {timeout : Duration} (h : 0 < timeout.nanos) :
    start < deadline start timeout := by
  have hfar : 0 < farFuture.nanos := by decide
  unfold deadline; split <;> omega

end Clock

end IndexWatch
