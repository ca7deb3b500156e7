import IndexWatch.Attempt
import IndexWatch.Tunnel.Target

/-! The search for a running pod.

Pods are looked up one after the other, half a second apart, until one is found, a lookup fails, or
there is no time for another one. No lookup is awaited beyond the deadline. -/

namespace IndexWatch.Tunnel

open Timed

/-- A lookup of the pods behind a target: a pod that runs, none yet, or a failure; perhaps no answer
ever comes. -/
abbrev Lookup (σ : Type) := Timed σ (Answer (Except Error (Option String)))

/-- Time between the end of a lookup and the next one. -/
def lookupInterval : Duration := .ofMillis 500

/-- A lookup that was made; the answer is missing where it did not come in time. -/
structure Asked where
  begun : Nat
  took : Nat
  answer : Option (Except Error (Option String))

def Asked.ended (asked : Asked) : Nat := asked.begun + asked.took

inductive SearchEnd where
  | found (pod : String)
  | failed (error : Error)
  /-- Nothing was found, and the next lookup would be too late. -/
  | exhausted
  /-- The last lookup was not answered in time. -/
  | cut
deriving DecidableEq

/-- A finished search: its lookups in order, how and when it ended, and the world it left. -/
structure Search (σ : Type) where
  lookups : List Asked
  ending : SearchEnd
  finished : Nat
  world : σ

variable {σ : Type}

/-- The search from `now` on; `done` are the lookups so far, the last one first. -/
def searchFrom (deadline : Nat) (lookup : Lookup σ) (done : List Asked) (now : Nat) (world : σ) :
    Search σ :=
  let outcome := (within deadline lookup).run now world
  let asked : Asked := ⟨now, outcome.took, outcome.value⟩
  let finish (ending : SearchEnd) : Search σ :=
    ⟨(asked :: done).reverse, ending, asked.ended, outcome.world⟩
  match outcome.value with
  | none => finish .cut
  | some (.error e) => finish (.failed e)
  | some (.ok (some pod)) => finish (.found pod)
  | some (.ok none) =>
    if deadline - asked.ended < lookupInterval.nanos then finish .exhausted
    else
      searchFrom deadline lookup (asked :: done)
        (Clock.ceilMilli (asked.ended + lookupInterval.nanos)) outcome.world
termination_by deadline - now
decreasing_by
  rename_i hlt
  have h : lookupInterval.nanos = 500000000 := by decide
  have := Clock.le_ceilMilli (now + outcome.took + lookupInterval.nanos)
  change ¬ deadline - (now + outcome.took) < lookupInterval.nanos at hlt
  change deadline - Clock.ceilMilli (now + outcome.took + lookupInterval.nanos) < deadline - now
  omega

/-- The search that starts at `start` and may take until `deadline`. -/
def search (deadline : Nat) (lookup : Lookup σ) (start : Nat) (world : σ) : Search σ :=
  searchFrom deadline lookup [] start world

/-- What a search for the pods of a target comes to. A search that ran out of lookups tells how long
it took, one that was cut off how long it was given. -/
def Search.result (search : Search σ) (target : Target) (setupTimeout : Duration) (start : Nat) :
    Except Error String :=
  match search.ending with
  | .found pod => .ok pod
  | .failed e => .error e
  | .exhausted => .error (target.noPodWithin (.ofNanos (search.finished - start)))
  | .cut => .error (target.noPodWithin setupTimeout)

/-- Searches for a pod behind the target within the setup timeout. -/
def findPod (target : Target) (setupTimeout : Duration) (lookup : Lookup σ) : Attempt σ String :=
  .ofTimed fun start world =>
    let search := search (Clock.deadline start setupTimeout) lookup start world
    ⟨search.finished - start, false, search.world, search.result target setupTimeout start⟩

end IndexWatch.Tunnel
