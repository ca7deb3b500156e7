import IndexWatch.Proofs.Tunnel.Search

/-! # The schedule of a search

A `Hunt` fixes when each lookup of a search would begin and what it would come to, whether it is made
or not: `begun`, `outcome` and `ended` are functions of the number of lookups before it. `Reaches n` says
that the first `n` lookups are made, find nothing, and leave time for another one; `Ends` tells how a
lookup ends the search and when. `search_of_ends` says that these are what a search does, and `exists_ends`
that one of them comes. -/

namespace IndexWatch

/-! ## Tasks that are cut off -/

/-- A task that began at `begun` is done before a timer fires at `strikes`, or just then and without
the network. -/
def Outcome.InTime {σ α : Type} (outcome : Outcome σ α) (begun strikes : Nat) : Prop :=
  begun + outcome.took < strikes ∨ begun + outcome.took = strikes ∧ outcome.traffic = false

namespace Timed

variable {σ α : Type} {limit now : Nat} {task : Timed σ (Answer α)} {world : σ}

theorem run_within_of_inTime {value : α} (hvalue : (task.run now world).value = .given value)
    (h : (task.run now world).InTime now (max now (Clock.ceilMilli limit))) :
    (within limit task).run now world = { task.run now world with value := some value } := by
  unfold Outcome.InTime at h
  simp only [run] at hvalue h ⊢
  simp only [within, hvalue]
  rw [if_pos (by simpa using h)]

/-- What is not done in time is cut off when the timer fires. -/
theorem run_within_of_late
    (h : ∀ value, (task.run now world).value = .given value →
      ¬ (task.run now world).InTime now (max now (Clock.ceilMilli limit))) :
    ((within limit task).run now world).value = none ∧
      ((within limit task).run now world).took = max now (Clock.ceilMilli limit) - now := by
  unfold Outcome.InTime at h
  simp only [run] at h ⊢
  cases hvalue : (task now world).value with
  | never => simp only [within, hvalue, and_self]
  | given value =>
    have hlate := h value hvalue
    simp only [within, hvalue]
    rw [if_neg (by simpa using hlate)]
    exact ⟨rfl, rfl⟩

end Timed

namespace Tunnel

theorem lookupInterval_nanos : lookupInterval.nanos = 500000000 := by decide

/-- A search that is to be made: how long it may take, how pods are looked up, and when and in which
world it starts. -/
structure Hunt (σ : Type) where
  setupTimeout : Duration
  lookup : Lookup σ
  start : Nat
  world : σ

namespace Hunt

variable {σ : Type}

section
variable (hunt : Hunt σ)

def deadline : Nat := Clock.deadline hunt.start hunt.setupTimeout

/-- When the timer of the deadline fires. -/
def strikes : Nat := Clock.ceilMilli hunt.deadline

/-- When the lookup that `n` lookups come before begins, and in which world. -/
def standing : Nat → Nat × σ
  | 0 => (hunt.start, hunt.world)
  | n + 1 =>
    let (begun, world) := standing n
    let outcome := hunt.lookup.run begun world
    (Clock.ceilMilli (begun + outcome.took + lookupInterval.nanos), outcome.world)

def begun (n : Nat) : Nat := (hunt.standing n).1

def worldAt (n : Nat) : σ := (hunt.standing n).2

/-- What that lookup comes to if it is waited for. -/
def outcome (n : Nat) : Outcome σ (Timed.Answer (Except Error (Option String))) :=
  hunt.lookup.run (hunt.begun n) (hunt.worldAt n)

def ended (n : Nat) : Nat := hunt.begun n + (hunt.outcome n).took

/-- It is answered in time. -/
def Answers (n : Nat) (answer : Except Error (Option String)) : Prop :=
  (hunt.outcome n).value = .given answer ∧ (hunt.outcome n).InTime (hunt.begun n) hunt.strikes

/-- It finds nothing, and leaves time for another one. -/
def Fruitless (n : Nat) : Prop :=
  hunt.Answers n (.ok none) ∧ hunt.ended n + lookupInterval.nanos ≤ hunt.deadline

/-- The first `n` lookups are made, and each of them is followed by another one. -/
def Reaches (n : Nat) : Prop := ∀ i < n, hunt.Fruitless i

/-- That lookup as it is made. -/
def asked (n : Nat) : Asked :=
  askedAt hunt.deadline hunt.lookup (hunt.begun n) (hunt.worldAt n)

/-- The first `n` lookups. -/
def lookups (n : Nat) : List Asked := (List.range n).map hunt.asked

/-- How the lookup that `n` lookups come before ends the search, and when. -/
inductive Ends (n : Nat) : SearchEnd → Nat → Prop
  | found {pod} : hunt.Answers n (.ok (some pod)) → Ends n (.found pod) (hunt.ended n)
  | failed {e} : hunt.Answers n (.error e) → Ends n (.failed e) (hunt.ended n)
  | exhausted : hunt.Answers n (.ok none) →
    hunt.deadline < hunt.ended n + lookupInterval.nanos → Ends n .exhausted (hunt.ended n)
  | cut : (∀ answer, ¬ hunt.Answers n answer) → Ends n .cut hunt.strikes

end

variable {hunt : Hunt σ} {n : Nat}

theorem begun_succ :
    hunt.begun (n + 1) = Clock.ceilMilli (hunt.ended n + lookupInterval.nanos) := rfl

theorem lookups_succ : hunt.lookups (n + 1) = hunt.lookups n ++ [hunt.asked n] := by
  simp [lookups, List.range_succ]

@[simp] theorem length_lookups : (hunt.lookups n).length = n := by
  simp [lookups]

theorem start_le_deadline (hunt : Hunt σ) : hunt.start ≤ hunt.deadline := Clock.le_deadline ..

theorem begun_lt_begun_succ (hunt : Hunt σ) (n : Nat) : hunt.begun n < hunt.begun (n + 1) :=
  calc hunt.begun n
    _ ≤ hunt.ended n := Nat.le_add_right ..
    _ < hunt.ended n + lookupInterval.nanos := Nat.lt_add_of_pos_right (by decide)
    _ ≤ hunt.begun (n + 1) := Clock.le_ceilMilli _

theorem start_le_begun (hunt : Hunt σ) (n : Nat) : hunt.start ≤ hunt.begun n := by
  induction n with
  | zero => exact Nat.le_refl _
  | succ n ih => exact Nat.le_trans ih (Nat.le_of_lt (hunt.begun_lt_begun_succ n))

theorem le_begun (hunt : Hunt σ) (n : Nat) : n ≤ hunt.begun n := by
  induction n with
  | zero => exact Nat.zero_le _
  | succ n ih => exact Nat.lt_of_le_of_lt ih (hunt.begun_lt_begun_succ n)

theorem reaches_zero : hunt.Reaches 0 := fun _ h => absurd h (Nat.not_lt_zero _)

theorem reaches_succ : hunt.Reaches (n + 1) ↔ hunt.Reaches n ∧ hunt.Fruitless n := by
  simp only [Reaches, Nat.forall_lt_succ_right]

/-- No lookup that is made begins after the timer of the deadline fires. -/
theorem Reaches.begun_le_strikes (H : hunt.Reaches n) : hunt.begun n ≤ hunt.strikes := by
  cases n with
  | zero => exact Nat.le_trans hunt.start_le_deadline (Clock.le_ceilMilli _)
  | succ n => exact Clock.ceilMilli_mono (reaches_succ.mp H).2.2

theorem Answers.unique {answer answer' : Except Error (Option String)}
    (h : hunt.Answers n answer) (h' : hunt.Answers n answer') : answer = answer' :=
  Timed.Answer.given.inj (h.1.symm.trans h'.1)

theorem Answers.ended_le_strikes {answer : Except Error (Option String)}
    (H : hunt.Answers n answer) : hunt.ended n ≤ hunt.strikes := by
  rcases H.2 with hlt | ⟨heq, _⟩
  · exact Nat.le_of_lt hlt
  · exact Nat.le_of_eq heq

/-! ## What comes of a lookup that is made -/

section
variable (H : hunt.Reaches n)
include H

theorem Reaches.max_eq :
    max (hunt.begun n) (Clock.ceilMilli hunt.deadline) = hunt.strikes :=
  Nat.max_eq_right H.begun_le_strikes

theorem lookedUp_of_answers {answer : Except Error (Option String)} (h : hunt.Answers n answer) :
    lookedUp hunt.deadline hunt.lookup (hunt.begun n) (hunt.worldAt n) =
      { hunt.outcome n with value := some answer } := by
  refine Timed.run_within_of_inTime h.1 ?_
  rw [H.max_eq]
  exact h.2

theorem asked_of_answers {answer : Except Error (Option String)} (h : hunt.Answers n answer) :
    hunt.asked n = ⟨hunt.begun n, (hunt.outcome n).took, some answer⟩ := by
  rw [asked, askedAt, lookedUp_of_answers H h]

theorem asked_of_cut (h : ∀ answer, ¬ hunt.Answers n answer) :
    hunt.asked n = ⟨hunt.begun n, hunt.strikes - hunt.begun n, none⟩ := by
  have hlate (answer : Except Error (Option String))
      (hvalue : (hunt.outcome n).value = .given answer) :
      ¬ (hunt.outcome n).InTime (hunt.begun n)
        (max (hunt.begun n) (Clock.ceilMilli hunt.deadline)) :=
    fun hintime => h answer ⟨hvalue, H.max_eq ▸ hintime⟩
  obtain ⟨hvalue, htook⟩ := Timed.run_within_of_late hlate
  rw [H.max_eq] at htook
  rw [asked, askedAt, lookedUp, hvalue, htook]

theorem ending?_of_ends {ending : SearchEnd} {finished : Nat} (h : hunt.Ends n ending finished) :
    (hunt.asked n).ending? hunt.deadline = some ending ∧ (hunt.asked n).ended = finished := by
  cases h with
  | found hanswers | failed hanswers =>
    rw [asked_of_answers H hanswers]
    exact ⟨rfl, rfl⟩
  | exhausted hanswers hlate =>
    rw [asked_of_answers H hanswers]
    refine ⟨if_pos ?_, rfl⟩
    have hpos := lookupInterval_nanos
    change hunt.deadline - hunt.ended n < lookupInterval.nanos
    omega
  | cut hcut =>
    rw [asked_of_cut H hcut]
    exact ⟨rfl, Nat.add_sub_cancel' H.begun_le_strikes⟩

theorem goesOn_of_fruitless (h : hunt.Fruitless n) :
    (hunt.asked n).ending? hunt.deadline = none ∧ (hunt.asked n).next = hunt.begun (n + 1) ∧
      (lookedUp hunt.deadline hunt.lookup (hunt.begun n) (hunt.worldAt n)).world =
        hunt.worldAt (n + 1) := by
  obtain ⟨hanswers, hleft⟩ := h
  rw [asked_of_answers H hanswers, lookedUp_of_answers H hanswers]
  refine ⟨Asked.ending?_eq_none_iff.mpr ⟨rfl, ?_⟩, rfl, rfl⟩
  change lookupInterval.nanos ≤ hunt.deadline - hunt.ended n
  omega

end

/-! ## The search on the schedule -/

/-- The search from where it stands after its first `n` lookups. -/
private def searchAt (hunt : Hunt σ) (n : Nat) : Search σ :=
  searchFrom hunt.deadline hunt.lookup (hunt.lookups n).reverse (hunt.begun n) (hunt.worldAt n)

private theorem search_eq_searchAt (H : hunt.Reaches n) :
    search hunt.deadline hunt.lookup hunt.start hunt.world = hunt.searchAt n := by
  induction n with
  | zero => rfl
  | succ n ih =>
    obtain ⟨H, hfruitless⟩ := reaches_succ.mp H
    obtain ⟨hgoesOn, hnext, hworld⟩ := goesOn_of_fruitless H hfruitless
    have hstep := searchFrom_of_goesOn hgoesOn (hunt.lookups n).reverse
    have hdone : hunt.asked n :: (hunt.lookups n).reverse = (hunt.lookups (n + 1)).reverse := by
      rw [lookups_succ, List.reverse_append]
      rfl
    rw [ih H, searchAt, hstep, hworld, searchAt, ← hdone, ← hnext]
    rfl

/-- A search makes its lookups until one of them ends it. -/
theorem search_of_ends {ending : SearchEnd} {finished : Nat} (H : hunt.Reaches n)
    (h : hunt.Ends n ending finished) :
    ∃ world, search hunt.deadline hunt.lookup hunt.start hunt.world =
      ⟨hunt.lookups (n + 1), ending, finished, world⟩ := by
  obtain ⟨hending, hended⟩ := ending?_of_ends H h
  have hstep := searchFrom_of_ends hending (hunt.lookups n).reverse
  refine ⟨(lookedUp hunt.deadline hunt.lookup (hunt.begun n) (hunt.worldAt n)).world, ?_⟩
  rw [search_eq_searchAt H, searchAt, hstep, lookups_succ, List.reverse_cons, List.reverse_reverse,
    ← hended]
  rfl

/-- A lookup that leaves no time for another one, or finds something, ends the search. -/
theorem exists_ends_of_not_fruitless (h : ¬ hunt.Fruitless n) :
    ∃ ending finished, hunt.Ends n ending finished := by
  by_cases hanswered : ∃ answer, hunt.Answers n answer
  · obtain ⟨e | _ | pod, hanswers⟩ := hanswered
    · exact ⟨_, _, .failed hanswers⟩
    · exact ⟨_, _, .exhausted hanswers (Nat.lt_of_not_le fun hleft => h ⟨hanswers, hleft⟩)⟩
    · exact ⟨_, _, .found hanswers⟩
  · exact ⟨_, _, .cut (not_exists.mp hanswered)⟩

/-- A search ends: each lookup takes it closer to its deadline. -/
theorem exists_ends (hunt : Hunt σ) :
    ∃ n ending finished, hunt.Reaches n ∧ hunt.Ends n ending finished := by
  apply Classical.byContradiction
  intro hgoes
  have H : ∀ n, hunt.Reaches n := by
    intro n
    induction n with
    | zero => exact reaches_zero
    | succ n ih =>
      refine reaches_succ.mpr ⟨ih, Classical.byContradiction fun hstops => hgoes ?_⟩
      obtain ⟨ending, finished, hends⟩ := exists_ends_of_not_fruitless hstops
      exact ⟨n, ending, finished, ih, hends⟩
  -- The lookups begin at different instants, so this one does not begin before the deadline.
  have hleft := (H (hunt.deadline + 1) hunt.deadline (Nat.lt_succ_self _)).2
  have hpos := lookupInterval_nanos
  have hbegun := hunt.le_begun hunt.deadline
  unfold ended at hleft
  omega

/-- What ends a search does not go on with it. -/
theorem Ends.not_fruitless {ending : SearchEnd} {finished : Nat}
    (h : hunt.Ends n ending finished) : ¬ hunt.Fruitless n := by
  rintro ⟨hanswers, hleft⟩
  cases h with
  | found h | failed h => exact nomatch hanswers.unique h
  | exhausted _ hlate => exact Nat.not_le_of_lt hlate hleft
  | cut hcut => exact hcut _ hanswers

theorem Ends.le_strikes {ending : SearchEnd} {finished : Nat} (h : hunt.Ends n ending finished) :
    finished ≤ hunt.strikes := by
  cases h with
  | found hanswers | failed hanswers | exhausted hanswers _ => exact hanswers.ended_le_strikes
  | cut => exact Nat.le_refl _

theorem Ends.start_le {ending : SearchEnd} {finished : Nat} (h : hunt.Ends n ending finished) :
    hunt.start ≤ finished := by
  have hended : hunt.start ≤ hunt.ended n :=
    Nat.le_trans (hunt.start_le_begun n) (Nat.le_add_right ..)
  cases h with
  | found | failed | exhausted => exact hended
  | cut => exact Nat.le_trans hunt.start_le_deadline (Clock.le_ceilMilli _)

end Hunt

end Tunnel

end IndexWatch
