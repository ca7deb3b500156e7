import IndexWatch.Proofs.Site
import IndexWatch.Tunnel.Search
import Mathlib.Tactic.Choose

/-! # The search for a pod

A search goes from lookup to lookup until one of them ends it, `Asked.ending?`. What holds of a search
is shown by `searchFrom_induction`, with a case for a lookup that ends it and one for a lookup that does
not. All that a search does is to look for pods: it acts outside of the machine, and asks there what its
lookups ask, one after the other, `searchFrom_recorded`. -/

namespace IndexWatch.Tunnel

/-! ## One lookup after the other -/

/-- How a lookup ends the search, if it does. -/
def Asked.ending? (deadline : Nat) (asked : Asked) : Option SearchEnd :=
  match asked.answer with
  | none => some .cut
  | some (.error e) => some (.failed e)
  | some (.ok (some pod)) => some (.found pod)
  | some (.ok none) =>
    if deadline - asked.ended < lookupInterval.nanos then some .exhausted else none

/-- When the lookup after this one begins. -/
def Asked.next (asked : Asked) : Nat := Clock.ceilMilli (asked.ended + lookupInterval.nanos)

section
variable {σ : Type} (deadline : Nat) (lookup : Lookup σ) (now : Nat) (world : σ)

/-- What comes of the lookup of a search that begins at `now`. -/
def lookedUp : Outcome σ (Option (Except Error (Option String))) :=
  (Timed.within deadline lookup).run now world

/-- That lookup. -/
def askedAt : Asked :=
  ⟨now, (lookedUp deadline lookup now world).took, (lookedUp deadline lookup now world).value⟩

end

variable {σ : Type} {deadline : Nat} {lookup : Lookup σ} {now : Nat} {world : σ}

/-- A search that does not end with a lookup goes on with the next one. -/
theorem searchFrom_eq (deadline : Nat) (lookup : Lookup σ) (done : List Asked) (now : Nat)
    (world : σ) :
    searchFrom deadline lookup done now world =
      let asked := askedAt deadline lookup now world
      let left := (lookedUp deadline lookup now world).world
      match asked.ending? deadline with
      | some ending => ⟨(asked :: done).reverse, ending, asked.ended, left⟩
      | none => searchFrom deadline lookup (asked :: done) asked.next left := by
  rw [searchFrom]
  unfold askedAt Asked.ending? lookedUp
  rcases (Timed.within deadline lookup).run now world with ⟨took, traffic, left, value⟩
  rcases value with _ | e | _ | pod
  case some.ok.none =>
    dsimp only
    by_cases h : deadline - Asked.ended ⟨now, took, some (.ok none)⟩ < lookupInterval.nanos
    · rw [if_pos h, if_pos h]
    · rw [if_neg h, if_neg h]
      rfl
  all_goals rfl

theorem searchFrom_of_ends {ending : SearchEnd}
    (h : (askedAt deadline lookup now world).ending? deadline = some ending) (done : List Asked) :
    searchFrom deadline lookup done now world =
      ⟨(askedAt deadline lookup now world :: done).reverse, ending,
        (askedAt deadline lookup now world).ended, (lookedUp deadline lookup now world).world⟩ := by
  rw [searchFrom_eq]
  simp only [h]

theorem searchFrom_of_goesOn
    (h : (askedAt deadline lookup now world).ending? deadline = none) (done : List Asked) :
    searchFrom deadline lookup done now world =
      searchFrom deadline lookup (askedAt deadline lookup now world :: done)
        (askedAt deadline lookup now world).next (lookedUp deadline lookup now world).world := by
  conv => lhs; rw [searchFrom_eq]
  simp only [h]

theorem Asked.ending?_eq_none_iff {asked : Asked} :
    asked.ending? deadline = none ↔
      asked.answer = some (.ok none) ∧ lookupInterval.nanos ≤ deadline - asked.ended := by
  obtain ⟨begun, took, answer⟩ := asked
  unfold Asked.ending?
  rcases answer with _ | e | _ | pod
  case some.ok.none => simp
  all_goals simp

/-- Each lookup leaves less time for the next one. -/
theorem Asked.next_lt {asked : Asked} (h : asked.ending? deadline = none) :
    deadline - asked.next < deadline - asked.begun := by
  have hinterval : lookupInterval.nanos = 500000000 := by decide
  have hleft := (ending?_eq_none_iff.mp h).2
  have hnext := Clock.le_ceilMilli (asked.ended + lookupInterval.nanos)
  have hbegun : asked.begun ≤ asked.ended := Nat.le_add_right _ _
  unfold next
  omega

/-- What holds of the lookup that ends a search, and holds of a lookup where it does of the rest, holds
of the whole search. -/
theorem searchFrom_induction (deadline : Nat) (lookup : Lookup σ)
    {motive : List Asked → Nat → σ → Prop}
    (ends : ∀ done now world ending,
      (askedAt deadline lookup now world).ending? deadline = some ending → motive done now world)
    (goesOn : ∀ done now world, (askedAt deadline lookup now world).ending? deadline = none →
      motive (askedAt deadline lookup now world :: done) (askedAt deadline lookup now world).next
        (lookedUp deadline lookup now world).world → motive done now world)
    (done : List Asked) (now : Nat) (world : σ) : motive done now world := by
  -- On the time that is left until the deadline.
  induction hleft : deadline - now using Nat.strongRecOn generalizing done now world with
  | _ left ih =>
    cases h : (askedAt deadline lookup now world).ending? deadline with
    | some ending => exact ends done now world ending h
    | none => exact goesOn done now world h (ih _ (hleft ▸ Asked.next_lt h) _ _ _ rfl)

/-! ## What a search does -/

theorem actsOutside_findPod {target : Target} {setupTimeout : Duration} {lookup : Lookup (Site σ)}
    (H : Site.ActsOutside lookup) : Site.ActsOutside (findPod target setupTimeout lookup).run := by
  intro start site
  let deadline := Clock.deadline start setupTimeout
  have hlookup (now : Nat) (site : Site σ) :
      ∃ outside, (lookedUp deadline lookup now site).world = { site with outside } :=
    H.within deadline now site
  change ∃ outside, (searchFrom deadline lookup [] start site).world = { site with outside }
  generalize ([] : List Asked) = done
  induction done, start, site using searchFrom_induction deadline lookup with
  | ends done now site ending h =>
    rw [searchFrom_of_ends h]
    exact hlookup now site
  | goesOn done now site h ih =>
    obtain ⟨outside, houtside⟩ := hlookup now site
    rw [searchFrom_of_goesOn h]
    rwa [houtside] at ih ⊢

/-- The same search, in what `f` makes of its world. -/
def Search.mapWorld {τ τ' : Type} (f : τ → τ') (search : Search τ) : Search τ' :=
  { search with world := f search.world }

/-- What a search for a pod leaves that began at `start`. -/
def Search.outcome {τ : Type} (target : Target) (setupTimeout : Duration) (start : Nat)
    (search : Search τ) : Outcome τ (Except Error String) :=
  ⟨search.finished - start, false, search.world, search.result target setupTimeout start⟩

section
variable {ε τ τ' : Type} {embed : List (Nat × ε) → τ → τ'} {lookup' : Lookup τ'}
  {lookup : Lookup τ} {deadline : Nat} {entries : Nat → τ → List (Nat × ε)}

theorem askedAt_of_mapWorld {f : τ → τ'} {now : Nat} {world : τ} {world' : τ'}
    (h : lookedUp deadline lookup' now world' = (lookedUp deadline lookup now world).mapWorld f) :
    askedAt deadline lookup' now world' = askedAt deadline lookup now world := by
  rw [askedAt, h]
  rfl

/-- A search asks what its lookups ask, one after the other; `made` are the lookups that it makes from
`now` on, each with the world that it begins in. -/
theorem searchFrom_recorded
    (H : Recorded.Follows embed (Timed.within deadline lookup') (Timed.within deadline lookup)
      entries) (done : List Asked) (now : Nat) (world : τ) :
    ∃ made : List (Asked × τ),
      (searchFrom deadline lookup done now world).lookups = done.reverse ++ made.map Prod.fst ∧
      ∀ record, searchFrom deadline lookup' done now (embed record world) =
        Search.mapWorld (embed (record ++ made.flatMap fun lookup => entries lookup.1.begun lookup.2))
          (searchFrom deadline lookup done now world) := by
  have hlookup (now : Nat) (world : τ) (record : List (Nat × ε)) :
      lookedUp deadline lookup' now (embed record world) =
        (lookedUp deadline lookup now world).mapWorld (embed (record ++ entries now world)) :=
    H now record world
  induction done, now, world using searchFrom_induction deadline lookup with
  | ends done now world ending h =>
    refine ⟨[(askedAt deadline lookup now world, world)], ?_, fun record => ?_⟩
    · rw [searchFrom_of_ends h, List.reverse_cons]
      rfl
    · have hasked := askedAt_of_mapWorld (hlookup now world record)
      rw [searchFrom_of_ends (hasked ▸ h), searchFrom_of_ends h, hasked, hlookup,
        List.flatMap_singleton]
      rfl
  | goesOn done now world h ih =>
    obtain ⟨made, hmade, hrest⟩ := ih
    refine ⟨(askedAt deadline lookup now world, world) :: made, ?_, fun record => ?_⟩
    · rw [searchFrom_of_goesOn h, hmade, List.reverse_cons, List.append_assoc]
      rfl
    · have hasked := askedAt_of_mapWorld (hlookup now world record)
      rw [searchFrom_of_goesOn (hasked ▸ h), searchFrom_of_goesOn h, hasked, hlookup,
        List.flatMap_cons, ← List.append_assoc]
      exact hrest (record ++ entries now world)

end

/-- What lookups ask, one after the other, when a lookup that begins at `now` asks `asked now`. -/
def asks {ε : Type} (asked : Nat → List (Nat × ε)) (lookups : List Asked) : List (Nat × ε) :=
  lookups.flatMap fun lookup => asked lookup.begun

section
variable {ε : Type} {target : Target} {setupTimeout : Duration}
  {lookup' : Lookup (Site (Recorded ε σ))} {lookup : Lookup (Site σ)}

/-- A search for a pod asks what its lookups ask, and nothing else. -/
theorem exists_follows_findPod {P : Nat × ε → Prop} {entries : Nat → Site σ → List (Nat × ε)}
    (H : Recorded.Follows Site.recorded lookup' lookup entries)
    (hentries : ∀ now site, ∀ q ∈ entries now site, P q) :
    ∃ lookups : Nat → Site σ → List (Nat × ε), (∀ now site, ∀ q ∈ lookups now site, P q) ∧
      Recorded.Follows Site.recorded (findPod target setupTimeout lookup').run
        (findPod target setupTimeout lookup).run lookups := by
  have hsearch (start : Nat) (site : Site σ) : ∃ lookups : List (Nat × ε), (∀ q ∈ lookups, P q) ∧
      ∀ record, searchFrom (Clock.deadline start setupTimeout) lookup' [] start
          (site.recorded record) =
        Search.mapWorld (Site.recorded (record ++ lookups))
          (searchFrom (Clock.deadline start setupTimeout) lookup [] start site) := by
    obtain ⟨made, _, hrun⟩ :=
      searchFrom_recorded (H.within (Clock.deadline start setupTimeout)) [] start site
    refine ⟨_, fun q hq => ?_, hrun⟩
    obtain ⟨lookup, _, hq⟩ := List.mem_flatMap.mp hq
    split at hq
    · contradiction
    · exact hentries _ _ q hq
  choose lookups hlookups hrun using hsearch
  refine ⟨lookups, hlookups, fun start record site => ?_⟩
  exact congrArg (Search.outcome target setupTimeout start) (hrun start site record)

/-- Where a lookup asks the same of every site, so does a search. -/
theorem follows_findPod {asked : Nat → Nat → List (Nat × ε)}
    (H : ∀ start, Recorded.Follows Site.recorded
      (Timed.within (Clock.deadline start setupTimeout) lookup')
      (Timed.within (Clock.deadline start setupTimeout) lookup) fun now _ => asked start now) :
    Recorded.Follows Site.recorded (findPod target setupTimeout lookup').run
      (findPod target setupTimeout lookup).run fun start site =>
        asks (asked start) (search (Clock.deadline start setupTimeout) lookup start site).lookups := by
  intro start record site
  obtain ⟨made, hmade, hrun⟩ := searchFrom_recorded (H start) [] start site
  have hasks : asks (asked start)
      (search (Clock.deadline start setupTimeout) lookup start site).lookups =
        made.flatMap fun lookup => asked start lookup.1.begun := by
    rw [search, hmade, asks, List.reverse_nil, List.nil_append, List.flatMap_map]
  rw [← hasks] at hrun
  exact congrArg (Search.outcome target setupTimeout start) (hrun record)

end

end IndexWatch.Tunnel
