import IndexWatch.Proofs.Poll.Course

/-! # Worlds with a record

To say what a program asks of the world, the world is given a record: `noting` writes a question down
when it is asked. A task on the recorded world that `Follows` a task takes the same course and leaves
the same world and value, so what it writes down is what that task asks. The lemmas carry this from the
single questions to whole waits: by `follows_await`, a wait asks what its checks ask, check by check.
Where the world with the record is part of a larger one, `embed` puts the record there. -/

namespace IndexWatch

/-- A world, and what was asked in it so far: instants and questions, in order. -/
structure Recorded (ε σ : Type) where
  record : List (Nat × ε)
  world : σ

def Outcome.mapWorld {σ σ' α : Type} (f : σ → σ') (outcome : Outcome σ α) : Outcome σ' α :=
  { outcome with world := f outcome.world }

/-- The same outcome in a world with a record. -/
def Outcome.recorded {ε σ α : Type} (outcome : Outcome σ α) (record : List (Nat × ε)) :
    Outcome (Recorded ε σ) α :=
  outcome.mapWorld (.mk record)

namespace Recorded

variable {ε σ σ' α β : Type}

/-- A task that nothing is written down of. -/
def lift (task : Timed σ α) : Timed (Recorded ε σ) α := fun now recorded =>
  (task.run now recorded.world).recorded recorded.record

/-- A task that is written down when it begins. -/
def noting (entry : ε) (task : Timed σ α) : Timed (Recorded ε σ) α := fun now recorded =>
  (task.run now recorded.world).recorded (recorded.record ++ [(now, entry)])

/-- On every recorded world, `recorded` does what `task` does, and writes down `entries`. -/
def Follows (embed : List (Nat × ε) → σ → σ') (recorded : Timed σ' α) (task : Timed σ α)
    (entries : Nat → σ → List (Nat × ε)) : Prop :=
  ∀ now record world,
    recorded.run now (embed record world) =
      (task.run now world).mapWorld (embed (record ++ entries now world))

variable {embed : List (Nat × ε) → σ → σ'} {task' : Timed σ' α} {task : Timed σ α}
  {entries : Nat → σ → List (Nat × ε)}

theorem follows_noting (entry : ε) (task : Timed σ α) :
    Follows Recorded.mk (noting entry task) task fun now _ => [(now, entry)] :=
  fun _ _ _ => rfl

theorem follows_lift (task : Timed σ α) :
    Follows (ε := ε) Recorded.mk (lift task) task fun _ _ => [] := by
  intro now record world
  rw [List.append_nil]
  rfl

theorem follows_pure (value : α) : Follows embed (pure value) (pure value) fun _ _ => [] := by
  intro now record world
  rw [List.append_nil]
  rfl

theorem follows_now : Follows embed Timed.now Timed.now fun _ _ => [] := by
  intro now record world
  rw [List.append_nil]
  rfl

theorem Follows.bind {next' : α → Timed σ' β} {next : α → Timed σ β}
    {more : α → Nat → σ → List (Nat × ε)} (H : Follows embed task' task entries)
    (Hnext : ∀ a, Follows embed (next' a) (next a) (more a)) :
    Follows embed (task' >>= next') (task >>= next) fun now world =>
      let first := task.run now world
      entries now world ++ more first.value (now + first.took) first.world := by
  intro now record world
  simp only [Timed.run_bind, H now record world, Outcome.mapWorld, Hnext _ _ _ _, List.append_assoc]

/-- What only looks at a value asks nothing. -/
theorem Follows.bind_quiet {next' : α → Timed σ' β} {next : α → Timed σ β}
    (H : Follows embed task' task entries)
    (Hnext : ∀ a, Follows embed (next' a) (next a) fun _ _ => []) :
    Follows embed (task' >>= next') (task >>= next) entries := by
  intro now record world
  simpa only [List.append_nil] using H.bind Hnext now record world

theorem Follows.overNetwork (H : Follows embed task' task entries) :
    Follows embed (Timed.overNetwork task') (Timed.overNetwork task) entries := by
  intro now record world
  rw [Timed.run_overNetwork, Timed.run_overNetwork, H now record world]
  rfl

/-- A task that is cut off asks nothing where it needs the network and has no time at all. -/
theorem Follows.within {task' : Timed σ' (Timed.Answer α)} {task : Timed σ (Timed.Answer α)}
    (H : Follows embed task' task entries) (limit : Nat) :
    Follows embed (Timed.within limit task') (Timed.within limit task) fun now world =>
      if now = max now (Clock.ceilMilli limit) ∧ (task.run now world).traffic then []
      else entries now world := by
  intro now record world
  have hfull : task' now (embed record world) =
      (task now world).mapWorld (embed (record ++ entries now world)) := H now record world
  change Timed.within limit task' now (embed record world) =
    (Timed.within limit task now world).mapWorld
      (embed (record ++ if now = max now (Clock.ceilMilli limit) ∧ (task now world).traffic = true
        then [] else entries now world))
  unfold Timed.within
  rw [hfull]
  by_cases hidle : now = max now (Clock.ceilMilli limit) ∧ (task now world).traffic = true
  · have hlate : ¬ (now + (task now world).took < max now (Clock.ceilMilli limit) ∨
        now + (task now world).took = max now (Clock.ceilMilli limit) ∧
          ¬ (task now world).traffic = true) := by
      rintro (hlt | ⟨_, htraffic⟩)
      · exact absurd hidle.1 (by omega)
      · exact htraffic hidle.2
    rw [if_pos hidle, List.append_nil]
    cases hvalue : (task now world).value <;>
      simp only [Outcome.mapWorld, hvalue, if_pos hidle, if_neg hlate]
  · rw [if_neg hidle]
    cases hvalue : (task now world).value with
    | never => simp only [Outcome.mapWorld, hvalue, if_neg hidle]
    | given value =>
      simp only [Outcome.mapWorld, hvalue, if_neg hidle]
      split <;> rfl

/-- What is asked after an attempt: nothing where it failed. -/
def afterwards (more : α → List (Nat × ε)) : Except Error α → List (Nat × ε)
  | .error _ => []
  | .ok a => more a

theorem Follows.attempt {task' : Attempt σ' α} {task : Attempt σ α}
    {next' : α → Attempt σ' β} {next : α → Attempt σ β}
    {more : α → Nat → σ → List (Nat × ε)} (H : Follows embed task'.run task.run entries)
    (Hnext : ∀ a, Follows embed (next' a).run (next a).run (more a)) :
    Follows embed (task' >>= next').run (task >>= next).run fun now world =>
      let first := Timed.run task now world
      entries now world ++ afterwards (more · (now + first.took) first.world) first.value := by
  have Hvalue : ∀ value, Follows embed (ExceptT.bindCont next' value) (ExceptT.bindCont next value)
      fun now world => afterwards (more · now world) value := by
    intro value
    cases value with
    | error e => exact follows_pure _
    | ok a => exact Hnext a
  exact H.bind Hvalue

theorem Follows.attempt_quiet {task' : Attempt σ' α} {task : Attempt σ α}
    {next' : α → Attempt σ' β} {next : α → Attempt σ β}
    (H : Follows embed task'.run task.run entries)
    (Hnext : ∀ a, Follows embed (next' a).run (next a).run fun _ _ => []) :
    Follows embed (task' >>= next').run (task >>= next).run entries := by
  refine Follows.bind_quiet H fun value => ?_
  cases value with
  | error e => exact follows_pure _
  | ok a => exact Hnext a

section
variable {task' : Attempt σ' α} {task : Attempt σ α} {next' : α → Attempt σ' β}
  {next : α → Attempt σ β} {now : Nat} {world : σ} {before between after : List (Nat × ε)}
  (hfirst : Timed.run task' now (embed before world) =
    (Timed.run task now world).mapWorld (embed between))
include hfirst

theorem run_bind_of_error {e : Error} (hvalue : (Timed.run task now world).value = .error e) :
    Timed.run (task' >>= next' : Attempt σ' β) now (embed before world) =
      (Timed.run (task >>= next : Attempt σ β) now world).mapWorld (embed between) := by
  have hvalue' : (Timed.run task' now (embed before world)).value = .error e := by
    rw [hfirst]
    exact hvalue
  rw [Attempt.run_bind_error hvalue, Attempt.run_bind_error hvalue', hfirst]
  rfl

theorem run_bind_of_ok {a : α} (hvalue : (Timed.run task now world).value = .ok a)
    (hsecond : let first := Timed.run task now world
      Timed.run (next' a) (now + first.took) (embed between first.world) =
        (Timed.run (next a) (now + first.took) first.world).mapWorld (embed after)) :
    Timed.run (task' >>= next' : Attempt σ' β) now (embed before world) =
      (Timed.run (task >>= next : Attempt σ β) now world).mapWorld (embed after) := by
  have hvalue' : (Timed.run task' now (embed before world)).value = .ok a := by
    rw [hfirst]
    exact hvalue
  rw [Attempt.run_bind_ok hvalue, Attempt.run_bind_ok hvalue', hfirst]
  simp only [Outcome.mapWorld] at hsecond ⊢
  rw [hsecond]

end

/-- What is made of an answer asks nothing. -/
theorem Follows.judged {task' : Attempt σ' α} {task : Attempt σ α}
    (H : Follows embed task'.run task.run entries) (judge : α → Except Error β) :
    Follows embed (task' >>= fun a => .ofExcept (judge a)).run
      (task >>= fun a => .ofExcept (judge a)).run entries :=
  H.attempt_quiet fun a => follows_pure (judge a)

end Recorded

/-! ## Waits -/

namespace Poll

variable {ε σ σ' α : Type}

/-- What checks ask, one after the other, when a check that begins at `now` asks `asked now`. -/
def asks (asked : Nat → List (Nat × ε)) (checks : List (Check α)) : List (Nat × ε) :=
  checks.flatMap fun made => asked made.begun

namespace Wait

section
variable (wait : Wait σ α) (embed : List (Nat × ε) → σ → σ') (check' : Attempt σ' α)

/-- The same wait in a world with a record, by a check that writes down what it asks. -/
def recorded (record : List (Nat × ε)) : Wait σ' α :=
  ⟨wait.spec, check', wait.start, embed record wait.world⟩

/-- In the worlds of the wait, `check'` does what its checks do, and writes down what is `asked`. -/
def FollowedBy (asked : Nat → List (Nat × ε)) : Prop :=
  ∀ n record, Timed.run check' (wait.begun n) (embed record (wait.worldAt n)) =
    (wait.outcome n).mapWorld (embed (record ++ asked (wait.begun n)))

end

variable {wait : Wait σ α} {embed : List (Nat × ε) → σ → σ'} {check' : Attempt σ' α}
  {asked : Nat → List (Nat × ε)}

theorem followedBy_of_follows {entries : Nat → σ → List (Nat × ε)}
    (H : Recorded.Follows embed check'.run wait.check.run entries)
    (hasked : ∀ n, entries (wait.begun n) (wait.worldAt n) = asked (wait.begun n)) :
    wait.FollowedBy embed check' asked := by
  intro n record
  rw [← hasked]
  exact H (wait.begun n) record (wait.worldAt n)

/-- What checks ask may depend on their worlds: each check begins at an instant of its own. -/
theorem exists_followedBy {entries : Nat → σ → List (Nat × ε)}
    (H : Recorded.Follows embed check'.run wait.check.run entries) :
    ∃ asked, wait.FollowedBy embed check' asked ∧
      ∀ n, asked (wait.begun n) = entries (wait.begun n) (wait.worldAt n) := by
  classical
  -- No two checks begin at one instant, so the instant tells which check asks.
  let asked (now : Nat) : List (Nat × ε) :=
    if h : ∃ n, wait.begun n = now then entries now (wait.worldAt h.choose) else []
  have hasked (n : Nat) : asked (wait.begun n) = entries (wait.begun n) (wait.worldAt n) := by
    have h : ∃ m, wait.begun m = wait.begun n := ⟨n, rfl⟩
    have hsame : h.choose = n := begun_inj h.choose_spec
    rw [show asked (wait.begun n) = entries (wait.begun n) (wait.worldAt h.choose) from dif_pos h,
      hsame]
  exact ⟨asked, followedBy_of_follows H fun n => (hasked n).symm, hasked⟩

theorem asks_checks_succ (n : Nat) :
    asks asked (wait.checks (n + 1)) = asks asked (wait.checks n) ++ asked (wait.begun n) := by
  simp [asks, checks_succ, checkAt]

section
variable (H : wait.FollowedBy embed check' asked) (record : List (Nat × ε)) (n : Nat)
include H

theorem standing_recorded :
    (wait.recorded embed check' record).standing n =
      (wait.ended n, embed (record ++ asks asked (wait.checks n)) (wait.worldAt n)) := by
  induction n with
  | zero => simp [standing, recorded, checks, asks, ended, worldAt]
  | succ n ih =>
    rw [standing, ih]
    have hcheck : Timed.run check' (wait.begun n)
        (embed (record ++ asks asked (wait.checks n)) (wait.worldAt n)) =
          (wait.outcome n).mapWorld (embed (record ++ asks asked (wait.checks (n + 1)))) := by
      rw [asks_checks_succ, ← List.append_assoc]
      exact H n _
    change (wait.begun n + (Timed.run check' (wait.begun n) _).took,
      (Timed.run check' (wait.begun n) _).world) = _
    rw [hcheck]
    rfl

theorem ended_recorded : (wait.recorded embed check' record).ended n = wait.ended n :=
  congrArg Prod.fst (standing_recorded H record n)

theorem worldAt_recorded :
    (wait.recorded embed check' record).worldAt n =
      embed (record ++ asks asked (wait.checks n)) (wait.worldAt n) :=
  congrArg Prod.snd (standing_recorded H record n)

theorem begun_recorded : (wait.recorded embed check' record).begun n = wait.begun n := by
  rw [begun, ended_recorded H]
  rfl

theorem outcome_recorded :
    (wait.recorded embed check' record).outcome n = (wait.outcome n).mapWorld
      (embed (record ++ asks asked (wait.checks n) ++ asked (wait.begun n))) := by
  rw [outcome, begun_recorded H, worldAt_recorded H]
  exact H n _

theorem answer_recorded : (wait.recorded embed check' record).answer n = wait.answer n :=
  congrArg Outcome.value (outcome_recorded H record n)

theorem checks_recorded : (wait.recorded embed check' record).checks n = wait.checks n := by
  refine List.map_congr_left fun i _ => ?_
  rw [checkAt, begun_recorded H, answer_recorded H, outcome_recorded H]
  rfl

theorem admits_recorded : (wait.recorded embed check' record).Admits n ↔ wait.Admits n := by
  rw [Admits, ended_recorded H]
  rfl

variable [BEq α]

theorem reaches_recorded : (wait.recorded embed check' record).Reaches n ↔ wait.Reaches n := by
  simp only [Reaches, Misses, admits_recorded H, answer_recorded H]
  rfl

end

variable [BEq α] [Text.Spelled α]

/-- The recorded wait takes the same course, and leaves a record of what its checks asked. -/
theorem Course.recorded (H : wait.FollowedBy embed check' asked) (record : List (Nat × ε))
    {condition : String} {checks : List (Check α)} {outcome : Outcome σ (Except Error Unit)}
    (hcourse : wait.Course condition checks outcome) :
    (wait.recorded embed check' record).Course condition checks
      (outcome.mapWorld (embed (record ++ asks asked checks))) := by
  have hreaches (n : Nat) := reaches_recorded H record n
  have hadmits (n : Nat) := admits_recorded H record n
  have hanswers (n : Nat) := answer_recorded H record n
  cases hcourse with
  | met hreach h hanswer hmet =>
    have H' : (wait.recorded embed check' record).Course condition _ _ :=
      .met ((hreaches _).mpr hreach) ((hadmits _).mpr h) ((hanswers _).trans hanswer) hmet
    rwa [checks_recorded H, ended_recorded H, worldAt_recorded H] at H'
  | failed hreach h hanswer =>
    have H' : (wait.recorded embed check' record).Course condition _ _ :=
      .failed ((hreaches _).mpr hreach) ((hadmits _).mpr h) ((hanswers _).trans hanswer)
    rwa [checks_recorded H, ended_recorded H, worldAt_recorded H] at H'
  | unchecked h =>
    rw [asks, List.flatMap_nil, List.append_nil]
    exact .unchecked (mt (hadmits 0).mp h)
  | expired hreach h hanswer =>
    have H' : (wait.recorded embed check' record).Course condition _ _ :=
      .expired ((hreaches _).mpr hreach) (mt (hadmits _).mp h) ((hanswers _).trans hanswer)
    rwa [checks_recorded H, givesUpAt, ended_recorded H, worldAt_recorded H] at H'

/-- A wait asks what the checks ask that it makes. -/
theorem run_await_recorded (H : wait.FollowedBy embed check' asked) (condition : String)
    (record : List (Nat × ε)) :
    Timed.run (await condition wait.spec check') wait.start (embed record wait.world) =
      (Timed.run (await condition wait.spec wait.check) wait.start wait.world).mapWorld
        (embed (record ++ asks asked (run wait.spec wait.check wait.start wait.world).checks)) := by
  obtain ⟨checks, outcome, hcourse⟩ := wait.exists_course condition
  obtain ⟨hchecks, houtcome⟩ := hcourse.taken
  rw [hchecks, houtcome]
  exact (hcourse.recorded H record).taken.2

/-- Where every check asks the same of every world, so does the wait. -/
theorem follows_await {check : Attempt σ α}
    (H : Recorded.Follows embed check'.run check.run fun now _ => asked now) (condition : String)
    (spec : Spec α) :
    Recorded.Follows embed (await condition spec check').run (await condition spec check).run
      fun start world => asks asked (run spec check start world).checks := by
  intro start record world
  let wait : Wait σ α := ⟨spec, check, start, world⟩
  have hfollowed : wait.FollowedBy embed check' asked := followedBy_of_follows H fun _ => rfl
  exact run_await_recorded hfollowed condition record

end Wait

end Poll

end IndexWatch
