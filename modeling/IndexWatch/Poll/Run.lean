import IndexWatch.Attempt
import IndexWatch.Poll.Spec

/-! A wait: checks at a steady pace until one meets the expectation, one fails, or time is up.

The first check begins one interval after the start, each further one an interval after the last one
finished, and none after the deadline. A check that has begun is always finished, and counts even
where it ends after the deadline. `run` keeps what every check was and did; `await` is the wait as a
task. -/

namespace IndexWatch.Poll

open Text

/-- A check that was made. -/
structure Check (α : Type) where
  begun : Nat
  took : Nat
  answer : Except Error α

namespace Check

variable {α : Type}

def ended (check : Check α) : Nat := check.begun + check.took

/-- What the check saw, where it did not fail. -/
def observed? (check : Check α) : Option α := check.answer.toOption

end Check

inductive Ending where
  | met
  | failed (error : Error)
  | expired
deriving DecidableEq

/-- A finished wait: its checks in order, how and when it ended, and the world it left. -/
structure Run (σ α : Type) where
  checks : List (Check α)
  ending : Ending
  finished : Nat
  world : σ

variable {σ α : Type} [BEq α]

/-- The wait from `now` on; `done` are the checks made so far, the last one first. -/
def runFrom (spec : Spec α) (deadline : Nat) (check : Attempt σ α)
    (done : List (Check α)) (now : Nat) (world : σ) : Run σ α :=
  if deadline - now < spec.interval.nanos then
    ⟨done.reverse, .expired, max now (Clock.ceilMilli deadline), world⟩
  else
    let begun := Clock.ceilMilli (now + spec.interval.nanos)
    let outcome := Timed.run check begun world
    let made : Check α := ⟨begun, outcome.took, outcome.value⟩
    match outcome.value with
    | .error e => ⟨(made :: done).reverse, .failed e, made.ended, outcome.world⟩
    | .ok value =>
      if value == spec.expected then ⟨(made :: done).reverse, .met, made.ended, outcome.world⟩
      else runFrom spec deadline check (made :: done) made.ended outcome.world
termination_by deadline - now
decreasing_by
  have := spec.interval_pos
  have := Clock.le_ceilMilli (now + spec.interval.nanos)
  simp only [Check.ended]
  omega

/-- The wait that starts at `start`. -/
def run (spec : Spec α) (check : Attempt σ α) (start : Nat) (world : σ) : Run σ α :=
  runFrom spec (Clock.deadline start spec.timeout) check [] start world

/-- How a wait that started at `start` ends for the one who waits for `condition`. -/
def Run.result [Spelled α] (run : Run σ α) (condition : String) (spec : Spec α) (start : Nat) :
    Except Error Unit :=
  match run.ending with
  | .met => .ok ()
  | .failed e => .error e
  | .expired => .error <| .deadlineExceeded condition (.ofNanos (run.finished - start))
      (spell spec.expected) ((run.checks.getLast?.bind Check.observed?).map spell)

/-- Waits until `check` answers what is expected, and fails when it fails or time is up. -/
def await [Spelled α] (condition : String) (spec : Spec α) (check : Attempt σ α) : Attempt σ Unit :=
  .ofTimed fun start world =>
    let run := run spec check start world
    ⟨run.finished - start, false, run.world, run.result condition spec start⟩

end IndexWatch.Poll
