import IndexWatch.Duration

/-! # Windows of time

A deadline lies a `window` after its start: the timeout, or thirty years where start and timeout add
up to no instant. Where the start is a whole millisecond, the timer of the deadline fires a whole
number of milliseconds later. -/

namespace IndexWatch.Clock

/-- How long after `start` the deadline of `timeout` lies. -/
def window (start : Nat) (timeout : Duration) : Nat :=
  if start + timeout.nanos < horizon then timeout.nanos else farFuture.nanos

variable {start : Nat} {timeout : Duration}

theorem deadline_eq_add_window (start : Nat) (timeout : Duration) :
    deadline start timeout = start + window start timeout := by
  unfold deadline window
  split <;> rfl

theorem deadline_sub_start (start : Nat) (timeout : Duration) :
    deadline start timeout - start = window start timeout := by
  rw [deadline_eq_add_window, Nat.add_sub_cancel_left]

/-- Later windows of a timeout below thirty years are no shorter. -/
theorem window_mono (hshort : timeout ≤ farFuture) {later : Nat} (h : start ≤ later) :
    window start timeout ≤ window later timeout := by
  rw [Duration.le_def] at hshort
  unfold window
  split <;> split <;> omega

theorem window_of_lt (h : start + timeout.nanos < horizon) : window start timeout = timeout.nanos :=
  if_pos h

end IndexWatch.Clock
