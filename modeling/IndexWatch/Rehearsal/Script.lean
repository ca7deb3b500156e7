import IndexWatch.Timed

/-! Answers prepared in advance.

A script gives its steps one after the other, and its last step again and again. What is asked of it
is written down. -/

namespace IndexWatch.Rehearsal

/-- A prepared answer, and what is waited for before it is given. -/
structure Step (α : Type) where
  delays : List Duration
  answer : α

abbrev Script (α : Type) := List (Step α)

namespace Script

variable {α : Type}

/-- The next step, if there is one, and the script that is left. -/
def next : Script α → Option (Step α) × Script α
  | [] => (none, [])
  | [step] => (some step, [step])
  | step :: rest => (some step, rest)

end Script

/-- What was asked, the last question first. -/
abbrev Log := List String

/-- What was asked, in order, equal neighbours counted together. -/
def Log.counted (log : Log) : List (String × Nat) :=
  log.foldl (fun counted entry =>
    match counted with
    | (other, n) :: rest => if other == entry then (other, n + 1) :: rest else (entry, 1) :: counted
    | [] => [(entry, 1)]) []

variable {ω α : Type}

def sleepAll : List Duration → Timed ω Unit
  | [] => pure ()
  | d :: rest => do
    Timed.sleep d
    sleepAll rest

/-- Takes the next step of a script that is part of a world, and waits as it says. -/
def play (get : ω → Script α) (set : Script α → ω → ω) : Timed ω (Option α) := do
  let step ← Timed.act fun world =>
    let (step, rest) := (get world).next
    (step, set rest world)
  match step with
  | none => return none
  | some step =>
    sleepAll step.delays
    return some step.answer

end IndexWatch.Rehearsal
