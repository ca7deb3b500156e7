import IndexWatch.Proofs.Poll.Course
import IndexWatch.Proofs.Poll.Punctuality

/-! # The cadence of checks that take no time

Where checks answer at once the timers alone say when the next one begins, and each of them is
rounded to a whole millisecond: `Spec.beat` is when a wait has made so many checks, and `Spec.room` is
how many it makes before the deadline is too near. A check that is answered in the end is answered if
its call is among these (`accommodates_iff`), which is fewer than the timeout has intervals where the
rounding adds up; one that never is has all of them, and the wait gives up at its deadline
(`unmet_course`). -/

namespace IndexWatch.Poll

open Text

variable {σ α : Type}

namespace Spec

section
variable (spec : Spec α) (start : Nat)

/-- From one check to the next, if they take no time: the interval, rounded to whole milliseconds. -/
def stride : Nat := Clock.ceilMilli spec.interval.nanos

/-- When a wait has made `n` checks, if they take no time. -/
def beat : Nat → Nat
  | 0 => start
  | n + 1 => Clock.ceilMilli (beat n + spec.interval.nanos)

/-- How many checks the deadline leaves time for, if they take none. -/
def room : Nat :=
  if spec.HasTime start then
    (Clock.deadline start spec.timeout + spec.stride -
      (Clock.ceilMilli (start + spec.interval.nanos) + spec.interval.nanos)) / spec.stride + 1
  else 0

end

variable {spec : Spec α} {start n : Nat}

theorem beat_zero : spec.beat start 0 = start := rfl

theorem beat_succ : spec.beat start (n + 1) =
    Clock.ceilMilli (spec.beat start n + spec.interval.nanos) := rfl

theorem interval_le_stride : spec.interval.nanos ≤ spec.stride := Clock.le_ceilMilli _

theorem stride_pos : 0 < spec.stride := Nat.lt_of_lt_of_le spec.interval_pos interval_le_stride

theorem stride_dvd : 1000000 ∣ spec.stride := Clock.ceilMilli_dvd _

/-- From a whole millisecond the next beat is a stride away. -/
theorem beat_succ_of_dvd (h : 1000000 ∣ spec.beat start n) :
    spec.beat start (n + 1) = spec.beat start n + spec.stride := by
  rw [beat_succ, Clock.ceilMilli_add_of_dvd h, stride]

/-- So the beat is steady from the start if that is a whole millisecond, -/
theorem beat_of_dvd (h : 1000000 ∣ start) (n : Nat) :
    spec.beat start n = start + n * spec.stride := by
  induction n with
  | zero => rw [beat_zero, Nat.zero_mul, Nat.add_zero]
  | succ n ih =>
    have hwhole : 1000000 ∣ spec.beat start n := by
      rw [ih]
      exact Nat.dvd_add h (Nat.dvd_mul_left_of_dvd stride_dvd n)
    rw [beat_succ_of_dvd hwhole, ih, Nat.succ_mul, Nat.add_assoc]

/-- and otherwise from the first check on. -/
theorem beat_succ_eq : spec.beat start (n + 1) =
    Clock.ceilMilli (start + spec.interval.nanos) + n * spec.stride := by
  induction n with
  | zero => rw [beat_succ, beat_zero, Nat.zero_mul, Nat.add_zero]
  | succ n ih =>
    have hwhole : 1000000 ∣ spec.beat start (n + 1) := by
      rw [beat_succ]
      exact Clock.ceilMilli_dvd _
    rw [beat_succ_of_dvd hwhole, ih, Nat.succ_mul, Nat.add_assoc]

theorem room_pos_iff : 0 < spec.room start ↔ spec.HasTime start := by
  unfold room
  split <;> simp_all

/-- There is room for a check if, when those before it are made, the deadline is an interval off. -/
theorem beat_add_le_deadline_iff :
    spec.beat start n + spec.interval.nanos ≤ Clock.deadline start spec.timeout ↔
      n < spec.room start := by
  cases n with
  | zero => exact room_pos_iff.symm
  | succ n =>
    have hfirst := Clock.le_ceilMilli (start + spec.interval.nanos)
    by_cases htime : spec.HasTime start
    · rw [room, if_pos htime, beat_succ_eq, Nat.add_lt_add_iff_right, Nat.lt_iff_add_one_le,
        Nat.le_div_iff_mul_le stride_pos, Nat.succ_mul]
      have hpos : 0 < spec.stride := stride_pos
      omega
    · rw [room, if_neg htime, beat_succ_eq]
      unfold HasTime at htime
      omega

theorem room_of_dvd (hstart : 1000000 ∣ start)
    (hinstant : start + spec.timeout.nanos < Clock.horizon) :
    spec.room start = (spec.timeout.nanos - spec.interval.nanos) / spec.stride + 1 := by
  have hle : spec.interval.nanos ≤ spec.timeout.nanos := spec.interval_le
  have htime : spec.HasTime start := hasTime_iff.mpr (.inl hinstant)
  have hleft : start + spec.timeout.nanos + spec.stride -
      (start + spec.stride + spec.interval.nanos) = spec.timeout.nanos - spec.interval.nanos := by
    omega
  rw [room, if_pos htime, Clock.ceilMilli_add_of_dvd hstart, Clock.deadline_of_lt hinstant,
    ← stride, hleft]

/-- Whole milliseconds are not rounded: there is room for as many checks as intervals fit into the
timeout. -/
theorem room_of_whole (hstart : 1000000 ∣ start) (hinterval : 1000000 ∣ spec.interval.nanos)
    (hinstant : start + spec.timeout.nanos < Clock.horizon) :
    spec.room start = spec.timeout.nanos / spec.interval.nanos := by
  have hstride : spec.stride = spec.interval.nanos := Clock.ceilMilli_eq_self hinterval
  rw [room_of_dvd hstart hinstant, hstride, ← Nat.div_eq_sub_div spec.interval_pos spec.interval_le]

end Spec

namespace Wait

/-- The first `n` checks answer at once. -/
def Prompt (wait : Wait σ α) (n : Nat) : Prop := ∀ i < n, (wait.outcome i).took = 0

variable {wait : Wait σ α} {n : Nat}

theorem Prompt.mono {m : Nat} (H : wait.Prompt n) (h : m ≤ n) : wait.Prompt m :=
  fun i hi => H i (Nat.lt_of_lt_of_le hi h)

theorem Prompt.ended_eq (H : wait.Prompt n) : wait.ended n = wait.spec.beat wait.start n := by
  induction n with
  | zero => rfl
  | succ n ih =>
    rw [ended_succ, H n (Nat.lt_succ_self n), Nat.add_zero, begun, ih (H.mono (Nat.le_succ n))]
    rfl

theorem Prompt.begun_eq (H : wait.Prompt n) :
    wait.begun n = wait.spec.beat wait.start (n + 1) := by
  rw [begun, H.ended_eq]
  rfl

theorem Prompt.admits_iff (H : wait.Prompt n) :
    wait.Admits n ↔ n < wait.spec.room wait.start := by
  rw [Admits, H.ended_eq]
  exact Spec.beat_add_le_deadline_iff

/-- The last check that there is room for begins no later than the deadline, on whole milliseconds. -/
theorem Prompt.givesUpAt_eq (H : wait.Prompt (n + 1)) (h : wait.Admits n) :
    wait.givesUpAt (n + 1) = Clock.ceilMilli wait.deadline := by
  have hended : wait.ended (n + 1) = wait.begun n := by
    rw [ended_succ, H n (Nat.lt_succ_self n), Nat.add_zero]
  rw [givesUpAt, hended]
  exact Nat.max_eq_right (begun_le_ceilMilli_deadline h)

/-- From a whole millisecond to a deadline that is an instant, that takes the timeout, rounded. -/
theorem Prompt.givesUpAt_sub_start (H : wait.Prompt (n + 1)) (h : wait.Admits n)
    (hstart : 1000000 ∣ wait.start)
    (hinstant : wait.start + wait.spec.timeout.nanos < Clock.horizon) :
    wait.givesUpAt (n + 1) - wait.start = Clock.ceilMilli wait.spec.timeout.nanos := by
  rw [H.givesUpAt_eq h, deadline, Clock.deadline_of_lt hinstant, Clock.ceilMilli_add_of_dvd hstart,
    Nat.add_sub_cancel_left]

theorem begun_checkAt : (wait.checkAt n).begun = wait.begun n := rfl

theorem Prompt.map_begun_checks (H : wait.Prompt n) (hstart : 1000000 ∣ wait.start) :
    (wait.checks n).map Check.begun =
      (List.range n).map fun i => wait.start + (i + 1) * wait.spec.stride := by
  rw [checks, List.map_map]
  refine List.map_congr_left fun i hi => ?_
  have hprompt : wait.Prompt i := H.mono (Nat.le_of_lt (List.mem_range.mp hi))
  rw [Function.comp_apply, begun_checkAt, hprompt.begun_eq, Spec.beat_of_dvd hstart]

variable [BEq α]

/-- The first `n` checks answer at once and miss, so each of them is made that there is room for. -/
theorem Prompt.reaches (H : wait.Prompt n) (hmisses : ∀ i < n, wait.Misses i)
    (h : n ≤ wait.spec.room wait.start) : wait.Reaches n := fun i hi =>
  ⟨(H.mono (Nat.le_of_lt hi)).admits_iff.mpr (Nat.lt_of_lt_of_le hi h), hmisses i hi⟩

/-- If they miss for as long as there is room, then so many are made, and no more. -/
theorem Prompt.fills_room (H : wait.Prompt (wait.spec.room wait.start))
    (hmisses : ∀ i < wait.spec.room wait.start, wait.Misses i) :
    wait.Reaches (wait.spec.room wait.start) ∧ ¬ wait.Admits (wait.spec.room wait.start) :=
  ⟨H.reaches hmisses (Nat.le_refl _), fun h => Nat.lt_irrefl _ (H.admits_iff.mp h)⟩

end Wait

variable [BEq α]

/-! ## Checks that are never true -/

section
variable [Spelled α]

/-- A wait whose checks answer at once and always miss makes a check every stride for as long as there
is room, and gives up when the timer of its deadline fires. -/
theorem unmet_course (wait : Wait σ α) (condition : String) (hstart : 1000000 ∣ wait.start)
    (hinstant : wait.start + wait.spec.timeout.nanos < Clock.horizon)
    (hprompt : ∀ n, (wait.outcome n).took = 0) (hmisses : ∀ n, wait.Misses n) :
    let last := (wait.spec.timeout.nanos - wait.spec.interval.nanos) / wait.spec.stride
    (run wait.spec wait.check wait.start wait.world).checks.map Check.begun =
        (List.range (last + 1)).map (fun n => wait.start + (n + 1) * wait.spec.stride) ∧
      (∃ elapsed value, elapsed.nanos = Clock.ceilMilli wait.spec.timeout.nanos ∧
        wait.answer last = .ok value ∧
        Timed.run (await condition wait.spec wait.check) wait.start wait.world =
          ⟨Clock.ceilMilli wait.spec.timeout.nanos, false, wait.worldAt (last + 1),
            .error (.deadlineExceeded condition elapsed (spell wait.spec.expected)
              (some (spell value)))⟩) ∧
      (1000000 ∣ wait.spec.interval.nanos → 1000000 ∣ wait.spec.timeout.nanos →
        last + 1 = wait.spec.timeout.nanos / wait.spec.interval.nanos ∧
          Clock.ceilMilli wait.spec.timeout.nanos = wait.spec.timeout.nanos) := by
  intro last
  have hall : ∀ n, wait.Prompt n := fun n i _ => hprompt i
  have hroom : wait.spec.room wait.start = last + 1 := Spec.room_of_dvd hstart hinstant
  have hfilled := (hall _).fills_room fun i _ => hmisses i
  rw [hroom] at hfilled
  obtain ⟨hreaches, hlate⟩ := hfilled
  obtain ⟨value, hanswer, _⟩ := hmisses last
  have hcourse : wait.Course condition _ _ := .expired hreaches hlate hanswer
  obtain ⟨hchecks, houtcome⟩ := hcourse.taken
  have hlast : wait.Admits last := (hreaches last (Nat.lt_succ_self _)).1
  have htook := (hall _).givesUpAt_sub_start hlast hstart hinstant
  have hshort : Clock.ceilMilli wait.spec.timeout.nanos ≤ Duration.maxNanos :=
    Clock.ceilMilli_le_maxNanos (Nat.lt_of_le_of_lt (Nat.le_add_left ..) hinstant)
  have helapsed : (Duration.ofNanos (wait.givesUpAt (last + 1) - wait.start)).nanos =
      Clock.ceilMilli wait.spec.timeout.nanos := by
    rw [htook, Duration.nanos_ofNanos, Nat.min_eq_left hshort]
  refine ⟨?begun, ⟨_, value, helapsed, hanswer, ?_⟩, fun hinterval htimeout => ⟨?count, ?_⟩⟩
  case begun =>
    rw [hchecks]
    exact (hall _).map_begun_checks hstart
  case count => exact hroom.symm.trans (Spec.room_of_whole hstart hinterval hinstant)
  · rw [houtcome, Wait.gaveUp, htook]
  · exact Clock.ceilMilli_eq_self htimeout

/-- A check every 1.5 ms for 7.2 ms, which is never true. -/
def futile : Wait Unit Bool where
  spec := ⟨.ofNanos 1500000, .ofNanos 7200000, true, by decide, by decide⟩
  check := pure false
  start := 3000000
  world := ()

/-- It is made three times, every 2 ms, and the wait gives up after 8 ms. -/
theorem futile_course :
    1000000 ∣ futile.start ∧
      futile.start + futile.spec.timeout.nanos < Clock.horizon ∧
      (∀ n, (futile.outcome n).took = 0) ∧ (∀ n, futile.Misses n) ∧
      (run futile.spec futile.check futile.start futile.world).checks.map Check.begun =
        [5000000, 7000000, 9000000] ∧
      (Timed.run (await "index" futile.spec futile.check) futile.start futile.world).took =
        8000000 := by
  have hstart : 1000000 ∣ futile.start := by decide
  have hinstant : futile.start + futile.spec.timeout.nanos < Clock.horizon := by decide
  have hprompt : ∀ n, (futile.outcome n).took = 0 := fun _ => rfl
  have hmisses : ∀ n, futile.Misses n := fun _ => ⟨false, rfl, rfl⟩
  obtain ⟨hbegun, ⟨_, _, _, _, houtcome⟩, _⟩ :=
    unmet_course futile "index" hstart hinstant hprompt hmisses
  exact ⟨hstart, hinstant, hprompt, hmisses, hbegun, congrArg Outcome.took houtcome⟩

end

/-! ## Checks that are answered in the end -/

namespace Wait

variable {wait : Wait σ α} {n : Nat}

/-- The answer of the check that `n` checks come before ends the wait, with `result`. -/
inductive Settles (wait : Wait σ α) (n : Nat) : Except Error Unit → Prop
  | met {value} : wait.answer n = .ok value → (value == wait.spec.expected) = true →
    Settles wait n (.ok ())
  | failed {e} : wait.answer n = .error e → Settles wait n (.error e)

/-- Checks answer at once; the first `n` miss, and the next one ends the wait with `result`. -/
structure SettlesAfter (wait : Wait σ α) (n : Nat) (result : Except Error Unit) : Prop where
  prompt : wait.Prompt (n + 1)
  misses : ∀ i < n, wait.Misses i
  settles : wait.Settles n result

variable [Spelled α] {result : Except Error Unit}

theorem run_of_settles (H : wait.Reaches n) (h : wait.Admits n) (hsettles : wait.Settles n result) :
    (run wait.spec wait.check wait.start wait.world).checks = wait.checks (n + 1) ∧
      ∀ condition, (Timed.run (await condition wait.spec wait.check) wait.start wait.world).value =
        result := by
  cases hsettles with
  | met hanswer hmet =>
    exact ⟨congrArg Run.checks (run_of_met H h hanswer hmet), fun condition =>
      congrArg Outcome.value (run_await_of_met condition H h hanswer hmet)⟩
  | failed hanswer =>
    exact ⟨congrArg Run.checks (run_of_failed H h hanswer), fun condition =>
      congrArg Outcome.value (run_await_of_failed condition H h hanswer)⟩

/-- The call that settles the wait is made if there is room for it. -/
theorem SettlesAfter.run_of_lt (H : wait.SettlesAfter n result) (h : n < wait.spec.room wait.start) :
    (run wait.spec wait.check wait.start wait.world).checks.length = n + 1 ∧
      ∀ condition, (Timed.run (await condition wait.spec wait.check) wait.start wait.world).value =
        result := by
  have hprompt : wait.Prompt n := H.prompt.mono (Nat.le_succ n)
  have hreaches : wait.Reaches n := hprompt.reaches H.misses (Nat.le_of_lt h)
  obtain ⟨hchecks, hvalue⟩ := run_of_settles hreaches (hprompt.admits_iff.mpr h) H.settles
  refine ⟨?_, hvalue⟩
  rw [hchecks, length_checks]

omit [Spelled α] in
/-- Otherwise the wait gives up before it. -/
theorem SettlesAfter.run_of_le (H : wait.SettlesAfter n result)
    (h : wait.spec.room wait.start ≤ n) :
    (run wait.spec wait.check wait.start wait.world).checks.length = wait.spec.room wait.start ∧
      (run wait.spec wait.check wait.start wait.world).ending = .expired := by
  have hprompt := H.prompt.mono (Nat.le_succ_of_le h)
  obtain ⟨hreaches, hlate⟩ :=
    hprompt.fills_room fun i hi => H.misses i (Nat.lt_of_lt_of_le hi h)
  rw [run_of_not_admits hreaches hlate]
  exact ⟨length_checks, rfl⟩

end Wait

variable [Spelled α]

/-- Wherever `n + 1` intervals fit into the timeout, checks that answer at once and settle the wait
after `n` misses are made until they do, and the wait ends with their answer. -/
def Spec.Accommodates (spec : Spec α) (start : Nat) : Prop :=
  ∀ (σ : Type) (check : Attempt σ α) (world : σ) (n : Nat) (result : Except Error Unit),
    Wait.SettlesAfter ⟨spec, check, start, world⟩ n result →
    (n + 1) * spec.interval.nanos ≤ spec.timeout.nanos →
    (run spec check start world).checks.length = n + 1 ∧
      ∀ condition, (Timed.run (await condition spec check) start world).value = result

/-- Answers `value` to its first `n` calls, and fails from then on. -/
private def turning (value : α) (n : Nat) : Attempt Nat α := fun _ made =>
  ⟨0, false, made + 1, if made < n then .ok value else .error (.invalidConfig "")⟩

omit [Spelled α] in
private theorem settlesAfter_turning {spec : Spec α} {n : Nat} {value : α} (start : Nat)
    (hmiss : ∀ i < n, (value == spec.expected) = false) :
    Wait.SettlesAfter ⟨spec, turning value n, start, 0⟩ n (.error (.invalidConfig "")) := by
  let wait : Wait Nat α := ⟨spec, turning value n, start, 0⟩
  have hworld : ∀ i, wait.worldAt i = i := by
    intro i
    induction i with
    | zero => rfl
    | succ i ih => exact congrArg Nat.succ ih
  have hanswer : ∀ i, wait.answer i =
      if i < n then .ok value else .error (.invalidConfig "") := by
    intro i
    change (if wait.worldAt i < n then _ else _) = _
    rw [hworld]
  refine ⟨fun _ _ => rfl, fun i hi => ⟨value, ?_, hmiss i hi⟩, .failed ?_⟩
  · exact (hanswer i).trans (if_pos hi)
  · exact (hanswer n).trans (if_neg (Nat.lt_irrefl n))

theorem Spec.accommodates_of_le_room {spec : Spec α} {start : Nat}
    (h : spec.timeout.nanos / spec.interval.nanos ≤ spec.room start) : spec.Accommodates start := by
  intro σ check world n result H hfits
  have hn : n + 1 ≤ spec.timeout.nanos / spec.interval.nanos :=
    (Nat.le_div_iff_mul_le spec.interval_pos).mpr hfits
  exact H.run_of_lt (Nat.lt_of_lt_of_le hn h)

/-- If every answer is expected, the first check settles the wait. -/
theorem Spec.accommodates_of_met {spec : Spec α} {start : Nat} (htime : spec.HasTime start)
    (hmet : ∀ value, (value == spec.expected) = true) : spec.Accommodates start := by
  intro σ check world n result H _
  refine H.run_of_lt ?_
  cases n with
  | zero => exact Spec.room_pos_iff.mpr htime
  | succ n =>
    obtain ⟨value, _, hmiss⟩ := H.misses 0 (Nat.succ_pos n)
    exact absurd (hmet value) (Bool.eq_false_iff.mp hmiss)

/-- Otherwise the check that is called once more than there is room for shows that the intervals do
not fit. -/
theorem Spec.Accommodates.le_room {spec : Spec α} {start : Nat} (H : spec.Accommodates start)
    (value : α) (hmiss : ∀ i < spec.room start, (value == spec.expected) = false) :
    spec.timeout.nanos / spec.interval.nanos ≤ spec.room start := by
  apply Nat.le_of_not_lt
  intro hlt
  have hfits := (Nat.le_div_iff_mul_le spec.interval_pos).mp hlt
  have hsettles := settlesAfter_turning start hmiss
  have hmade := (H Nat (turning value (spec.room start)) 0 _ _ hsettles hfits).1
  exact Nat.succ_ne_self _ (hmade.symm.trans (hsettles.run_of_le (Nat.le_refl _)).1)

theorem Spec.le_room_of_accommodates {spec : Spec α} {start : Nat} (H : spec.Accommodates start) :
    spec.timeout.nanos / spec.interval.nanos ≤ spec.room start ∨
      spec.HasTime start ∧ ∀ value, (value == spec.expected) = true := by
  by_cases htime : spec.HasTime start
  · by_cases hmet : ∀ value, (value == spec.expected) = true
    · exact .inr ⟨htime, hmet⟩
    · obtain ⟨value, hvalue⟩ := Classical.not_forall.mp hmet
      exact .inl (H.le_room value fun _ _ => Bool.eq_false_iff.mpr hvalue)
  · have hnone : ¬ 0 < spec.room start := mt Spec.room_pos_iff.mp htime
    exact .inl (H.le_room spec.expected fun i hi => absurd (Nat.zero_lt_of_lt hi) hnone)

/-- Checks that answer at once are made until one of them settles the wait, if that one is among those
that there is room for; otherwise only those are made. So a pace has its checks made as often as its
intervals fit into the timeout exactly where there is room for that many. -/
theorem accommodates_iff (spec : Spec α) (start : Nat) :
    (∀ (σ : Type) (check : Attempt σ α) (world : σ) (n : Nat) (result : Except Error Unit),
      Wait.SettlesAfter ⟨spec, check, start, world⟩ n result →
      if n < spec.room start then
        (run spec check start world).checks.length = n + 1 ∧
          ∀ condition, (Timed.run (await condition spec check) start world).value = result
      else
        (run spec check start world).checks.length = spec.room start ∧
          (run spec check start world).ending = .expired) ∧
    (spec.Accommodates start ↔
      spec.timeout.nanos / spec.interval.nanos ≤ spec.room start ∨
        spec.HasTime start ∧ ∀ value, (value == spec.expected) = true) ∧
    (1000000 ∣ start → start + spec.timeout.nanos < Clock.horizon →
      spec.room start = (spec.timeout.nanos - spec.interval.nanos) / spec.stride + 1 ∧
        (1000000 ∣ spec.interval.nanos → spec.Accommodates start)) := by
  refine ⟨fun σ check world n result H => ?law,
    ⟨Spec.le_room_of_accommodates, fun h => ?enough⟩,
    fun hstart hinstant => ⟨Spec.room_of_dvd hstart hinstant, fun hinterval => ?whole⟩⟩
  case law =>
    split
    next h => exact H.run_of_lt h
    next h => exact H.run_of_le (Nat.le_of_not_lt h)
  case enough =>
    rcases h with h | ⟨htime, hmet⟩
    · exact Spec.accommodates_of_le_room h
    · exact Spec.accommodates_of_met htime hmet
  case whole =>
    have hroom := Spec.room_of_whole hstart hinterval hinstant
    exact Spec.accommodates_of_le_room (Nat.le_of_eq hroom.symm)

/-- A check every quarter of a millisecond for a millisecond, which is true from the second time on. -/
def brisk : Wait Bool Bool where
  spec := ⟨.ofNanos 250000, .ofNanos 1000000, true, by decide, by decide⟩
  check := trueAtSecond
  start := 0
  world := false

/-- Four intervals fit into the timeout, but the first check begins when it is over, and the second
one, which would succeed, is not made. -/
theorem brisk_gives_up_early :
    (Timed.run (await "index" brisk.spec brisk.check) 0 false).value =
        .error (.deadlineExceeded "index" (.ofNanos 1000000) "true" (some "false")) ∧
      ¬ brisk.spec.Accommodates 0 := by
  have hmisses : brisk.Misses 0 := ⟨false, rfl, rfl⟩
  have hreaches : brisk.Reaches 1 :=
    Wait.reaches_succ.mpr ⟨Wait.reaches_zero, by decide, hmisses⟩
  have hlate := congrArg Outcome.value
    (Wait.run_await_of_not_admits "index" hreaches (by decide))
  refine ⟨hlate, fun H => ?_⟩
  have hsettles : brisk.SettlesAfter 1 (.ok ()) := by
    refine ⟨fun _ _ => rfl, fun i hi => ?_, .met rfl rfl⟩
    rw [Nat.lt_one_iff.mp hi]
    exact hmisses
  have hok := (H Bool brisk.check brisk.world 1 (.ok ()) hsettles (by decide)).2 "index"
  exact nomatch hlate.symm.trans hok

end IndexWatch.Poll
