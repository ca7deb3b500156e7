import IndexWatch.Proofs.Config.Steps
import IndexWatch.Text.Occurrence

/-! # Which variable an error names

Who sets the variables has to learn from the error which one to mend. `named_iff` tells where the
error names a variable whose value is at fault: everywhere but where the pace is refused, whose error
names none. -/

namespace IndexWatch.Config

open Text

/-! ## Values at fault -/

/-- The value of a variable is at fault: its text cannot be read, or no verification can run with
the setting that it gives. -/
inductive AtFault (lookup : Lookup) : Variable → Prop
  | unreadable {key : Variable} {raw : String} :
    lookup key.name = some raw → ¬ Acceptable raw key → AtFault lookup key
  | empty : lookup Variable.indexPrefix.name = some "" → AtFault lookup .indexPrefix
  | zero {key : Variable} {raw : String} {time : Duration} :
    key = .tunnelSetupTimeout ∨ key = .retryInterval → lookup key.name = some raw →
    IsSeconds raw time → time.nanos = 0 → AtFault lookup key
  | crossed {key : Variable} {raw : String} {interval timeout : Duration} :
    key = .retryInterval ∨ key = .timeout → lookup key.name = some raw →
    Given lookup IsSeconds .retryInterval standard.retryInterval interval →
    Given lookup IsSeconds .timeout standard.timeout timeout → timeout < interval →
    AtFault lookup key

/-- The error is one of the configuration, and it names a variable whose value is at fault. -/
def NamesFault (lookup : Lookup) (e : Error) : Prop :=
  ∃ reason key, e = .invalidConfig reason ∧ AtFault lookup key ∧ contains e.message key.name = true

/-- All but the pace is as a verification needs it. -/
structure Unpaced (lookup : Lookup) (config : Config) : Prop where
  reads : Reads lookup config
  indexPrefix_ne : config.indexPrefix ≠ ""
  tunnelSetupTimeout_pos : 0 < config.tunnelSetupTimeout.nanos
  pace : ¬ (0 < config.retryInterval.nanos ∧ config.retryInterval ≤ config.timeout)

/-- Whatever fault is found with the variables, the error names a variable that is at fault. -/
def Named (lookup : Lookup) : Prop := ∀ e, ofLookup lookup = .error e → NamesFault lookup e

section
variable {lookup : Lookup} {config : Config} {key : Variable} {raw : String} {e : Error}

theorem contains_of_infix {whole part : String} (h : part.toList <:+: whole.toList) :
    contains whole part = true :=
  occursIn_iff.mpr h

/-- The error begins with the name of the variable. -/
theorem NamesFault.of_begins {rest : String} (hfault : AtFault lookup key) :
    NamesFault lookup (.invalidConfig (key.name ++ rest)) := by
  refine ⟨_, key, rfl, hfault,
    contains_of_infix ⟨"Invalid configuration: ".toList, rest.toList, ?_⟩⟩
  change _ = ("Invalid configuration: " ++ (key.name ++ rest)).toList
  rw [String.toList_append, String.toList_append, List.append_assoc]

theorem unusable_eq_error {α : Type} {shown reason : String}
    (h : (unusable key shown reason : Except Error α) = .error e) :
    ∃ rest, e = .invalidConfig (key.name ++ rest) := by
  refine ⟨"=" ++ shown ++ ": " ++ reason, ?_⟩
  rw [unusable] at h
  cases h
  simp only [String.append_assoc]

theorem not_exists_of_eq_error {α : Type} {reader : Variable → String → Except Error α}
    {means : String → α → Prop}
    (hreader : ∀ {raw value}, reader key raw = .ok value ↔ means raw value)
    (h : reader key raw = .error e) : ¬ ∃ value, means raw value := by
  rintro ⟨value, hvalue⟩
  rw [hreader.mpr hvalue] at h
  contradiction

theorem readSeconds_eq_error (h : readSeconds key raw = .error e) :
    ∃ rest, e = .invalidConfig (key.name ++ rest) := by
  unfold readSeconds at h
  split at h
  · exact unusable_eq_error h
  · split at h
    · exact unusable_eq_error h
    · nomatch h

theorem readPort_eq_error (h : readPort key raw = .error e) :
    ∃ rest, e = .invalidConfig (key.name ++ rest) := by
  unfold readPort at h
  split at h
  · exact unusable_eq_error h
  · nomatch h

theorem readFlag_eq_error (h : readFlag key raw = .error e) :
    ∃ rest, e = .invalidConfig (key.name ++ rest) := by
  unfold readFlag at h
  split at h
  · nomatch h
  · exact unusable_eq_error h

/-- A text that cannot be read is told with its variable. -/
theorem Variable.fault?_eq_some (h : key.fault? raw = some e) :
    ¬ Acceptable raw key ∧ ∃ rest, e = .invalidConfig (key.name ++ rest) := by
  cases key with
  | retryInterval | timeout | cleanerExtraTimeout | tunnelSetupTimeout =>
    rw [fault?, failure?_eq_some_iff] at h
    exact ⟨not_exists_of_eq_error readSeconds_eq_ok_iff h, readSeconds_eq_error h⟩
  | port =>
    rw [fault?, failure?_eq_some_iff] at h
    exact ⟨not_exists_of_eq_error readPort_eq_ok_iff h, readPort_eq_error h⟩
  | secure | expectPresent =>
    rw [fault?, failure?_eq_some_iff] at h
    exact ⟨not_exists_of_eq_error readFlag_eq_ok_iff h, readFlag_eq_error h⟩
  | ns | serviceName | selectorName | secretName | indexPrefix => contradiction

theorem NamesFault.of_read (h : read lookup = .error e) : NamesFault lookup e := by
  rw [← failure?_eq_some_iff, failure?_read] at h
  obtain ⟨step, hstep, hfault⟩ := List.exists_of_findSome?_eq_some h
  obtain ⟨key, _, rfl⟩ := List.mem_map.mp hstep
  obtain ⟨raw, hset, hraw⟩ := Option.bind_eq_some_iff.mp hfault
  obtain ⟨hbad, rest, rfl⟩ := Variable.fault?_eq_some hraw
  exact .of_begins (.unreadable hset hbad)

/-- A setting that is not the default was given by its variable. -/
theorem Given.exists_of_ne {α : Type} {means : String → α → Prop} {default value : α}
    (H : Given lookup means key default value) (h : value ≠ default) :
    ∃ raw, lookup key.name = some raw ∧ means raw value := by
  unfold Given at H
  cases hset : lookup key.name with
  | none =>
    rw [hset] at H
    exact absurd H h
  | some raw =>
    rw [hset] at H
    exact ⟨raw, rfl, H⟩

theorem ne_of_nanos_ne {a b : Duration} (h : a.nanos ≠ b.nanos) : a ≠ b := fun hab =>
  h (congrArg Duration.nanos hab)

theorem NamesFault.of_check (H : Reads lookup config) (hpace : ¬ Unpaced lookup config)
    (h : config.check = .error e) : NamesFault lookup e := by
  rw [check_eq] at h
  split at h
  · next hempty =>
    cases h
    have hblank : config.indexPrefix = "" := String.isEmpty_iff.mp hempty
    have hdefault : config.indexPrefix ≠ standard.indexPrefix := by
      rw [hblank]
      decide
    obtain ⟨raw, hset, hraw⟩ := H.indexPrefix.exists_of_ne hdefault
    rw [hraw, hblank] at hset
    exact .of_begins (.empty hset)
  · next hempty =>
    split at h
    · next hzero =>
      cases h
      have hdefault : config.tunnelSetupTimeout ≠ standard.tunnelSetupTimeout := by
        apply ne_of_nanos_ne
        rw [hzero]
        decide
      obtain ⟨raw, hset, hraw⟩ := H.tunnelSetupTimeout.exists_of_ne hdefault
      exact .of_begins (.zero (.inl rfl) hset hraw hzero)
    · next hsetup =>
      have hunmade : ¬ ∃ spec, config.pollSpec config.expectPresent = .ok spec := by
        rintro ⟨spec, hspec⟩
        rw [hspec] at h
        contradiction
      refine absurd ⟨H, ?_, Nat.pos_of_ne_zero hsetup, mt (exists_pollSpec_iff _).mpr hunmade⟩ hpace
      exact fun hblank => hempty (String.isEmpty_iff.mpr hblank)

end

/-! ## The error of the pace -/

theorem mem_toString {n : Nat} {c : Char} (h : c ∈ (toString n).toList) : c.isDigit = true := by
  rw [Nat.toString_eq_ofList_toDigits, String.toList_ofList] at h
  exact Nat.isDigit_of_mem_toDigits (by decide) (by decide) h

theorem isDigit_of_mem_dropTrailingZeros {width n : Nat} {c : Char}
    (h : c ∈ Decimal.dropTrailingZeros (Decimal.paddedDigits width n)) : c.isDigit = true := by
  have hpadded : c ∈ Decimal.paddedDigits width n :=
    List.mem_reverse.mp ((List.dropWhile_suffix _).subset (List.mem_reverse.mp h))
  rcases List.mem_append.mp hpadded with hzero | hdigit
  · rw [List.eq_of_mem_replicate hzero]
    rfl
  · exact Nat.isDigit_of_mem_toDigits (by decide) (by decide) hdigit

theorem mem_withPlaces {places n : Nat} {c : Char} (h : c ∈ (Decimal.withPlaces places n).toList) :
    c.isDigit = true ∨ c = '.' := by
  unfold Decimal.withPlaces at h
  split at h
  · exact .inl (mem_toString h)
  · rw [String.toList_append, String.toList_append, List.mem_append, List.mem_append] at h
    rcases h with (h | h) | h
    · exact .inl (mem_toString h)
    · exact .inr (by simpa using h)
    · rw [String.toList_ofList] at h
      exact .inl (isDigit_of_mem_dropTrailingZeros h)

theorem not_mem_withPlaces {places n : Nat} : '_' ∉ (Decimal.withPlaces places n).toList := by
  intro h
  rcases mem_withPlaces h with h | h <;> exact absurd h (by decide)

theorem not_mem_append {c : Char} {s t : String} (hs : c ∉ s.toList) (ht : c ∉ t.toList) :
    c ∉ (s ++ t).toList := by
  rw [String.toList_append, List.mem_append]
  exact not_or.mpr ⟨hs, ht⟩

/-- No span is written with the character that joins the words of a variable's name. -/
theorem not_mem_text (d : Duration) : '_' ∉ d.text.toList := by
  unfold Duration.text
  split
  · exact not_mem_append not_mem_withPlaces (by decide)
  · split
    · exact not_mem_append not_mem_withPlaces (by decide)
    · split
      · exact not_mem_append not_mem_withPlaces (by decide)
      · exact not_mem_append (fun h => absurd (mem_toString h) (by decide)) (by decide)

theorem make_eq_error {α : Type} {interval timeout : Duration} {expected : α} {e : Error}
    (h : Poll.Spec.make interval timeout expected = .error e) :
    ∃ reason, e = .invalidPollSpec reason ∧ '_' ∉ reason.toList := by
  unfold Poll.Spec.make at h
  split at h
  · obtain rfl := Except.error.inj h
    exact ⟨_, rfl, by decide⟩
  · split at h
    · obtain rfl := Except.error.inj h
      refine ⟨_, rfl, ?_⟩
      change '_' ∉ ("timeout " ++ timeout.text ++ " is shorter than interval " ++
        interval.text).toList
      have hfront : '_' ∉ ("timeout " ++ timeout.text).toList :=
        not_mem_append (by decide) (not_mem_text timeout)
      exact not_mem_append (not_mem_append hfront (by decide)) (not_mem_text interval)
    · contradiction

theorem mem_name (key : Variable) : '_' ∈ key.name.toList := by
  cases key <;> decide

theorem contains_invalidPollSpec {reason : String} (h : '_' ∉ reason.toList) (key : Variable) :
    contains (Error.invalidPollSpec reason).message key.name = false := by
  have hmessage : '_' ∉ (Error.invalidPollSpec reason).message.toList :=
    not_mem_append (s := "Invalid poll spec: ") (by decide) h
  rw [Bool.eq_false_iff]
  intro hcontains
  exact hmessage ((occursIn_iff.mp hcontains).subset (mem_name key))

section
variable {lookup : Lookup} {config : Config}

theorem ofLookup_of_reads (H : Reads lookup config) :
    ofLookup lookup = config.check >>= fun _ => pure config := by
  rw [ofLookup, read_eq_ok_iff.mpr H]
  rfl

/-- One of the two variables of the pace is set where no verification can run with it. -/
theorem Unpaced.exists_atFault (H : Unpaced lookup config) : ∃ key, AtFault lookup key := by
  have hinterval := H.reads.retryInterval
  have htimeout := H.reads.timeout
  by_cases hzero : config.retryInterval.nanos = 0
  · have hdefault : config.retryInterval ≠ standard.retryInterval := by
      apply ne_of_nanos_ne
      rw [hzero]
      decide
    obtain ⟨raw, hset, hraw⟩ := hinterval.exists_of_ne hdefault
    exact ⟨_, .zero (.inr rfl) hset hraw hzero⟩
  · have hcrossed : config.timeout < config.retryInterval :=
      Nat.not_le.mp fun hle => H.pace ⟨Nat.pos_of_ne_zero hzero, hle⟩
    -- The defaults do not cross, so one of the two is not the default.
    by_cases hdefault : config.retryInterval = standard.retryInterval
    · have hne : config.timeout ≠ standard.timeout := by
        intro heq
        rw [hdefault, heq] at hcrossed
        exact absurd hcrossed (by decide)
      obtain ⟨raw, hset, _⟩ := htimeout.exists_of_ne hne
      exact ⟨_, .crossed (.inr rfl) hset hinterval htimeout hcrossed⟩
    · obtain ⟨raw, hset, _⟩ := hinterval.exists_of_ne hdefault
      exact ⟨_, .crossed (.inl rfl) hset hinterval htimeout hcrossed⟩

/-- The error of the pace names no variable. -/
theorem Unpaced.refused (H : Unpaced lookup config) :
    ∃ reason, ofLookup lookup = .error (.invalidPollSpec reason) ∧
      ∀ key : Variable, contains (Error.invalidPollSpec reason).message key.name = false := by
  have hempty : ¬ config.indexPrefix.isEmpty = true := fun h =>
    H.indexPrefix_ne (String.isEmpty_iff.mp h)
  have hsetup : ¬ config.tunnelSetupTimeout.nanos = 0 := Nat.ne_of_gt H.tunnelSetupTimeout_pos
  obtain ⟨e, hpace⟩ :=
    exists_error_iff.mpr (mt (exists_pollSpec_iff config.expectPresent).mp H.pace)
  obtain ⟨reason, rfl, hreason⟩ := make_eq_error hpace
  refine ⟨reason, ?_, contains_invalidPollSpec hreason⟩
  rw [ofLookup_of_reads H.reads, check_eq, if_neg hempty, if_neg hsetup, hpace]
  rfl

end

/-- An error names a variable that is at fault everywhere but where the pace is refused and nothing
else. There a variable is at fault as well, but the error names none. -/
theorem named_iff (lookup : Lookup) :
    (Named lookup ↔ ¬ ∃ config, Unpaced lookup config) ∧
      ∀ config, Unpaced lookup config →
        (∃ key, AtFault lookup key) ∧
          ∃ reason, ofLookup lookup = .error (.invalidPollSpec reason) ∧
            ∀ key : Variable, contains (Error.invalidPollSpec reason).message key.name = false := by
  refine ⟨⟨?unpaced, fun hpace e h => ?named⟩, fun config H => ⟨H.exists_atFault, H.refused⟩⟩
  case unpaced =>
    rintro hnamed ⟨config, H⟩
    obtain ⟨reason, herror, _⟩ := H.refused
    obtain ⟨_, _, hconfig, _⟩ := hnamed _ herror
    contradiction
  case named =>
    cases hread : read lookup with
    | error e' =>
      rw [ofLookup, hread] at h
      cases h
      exact .of_read hread
    | ok config =>
      have H := read_eq_ok_iff.mp hread
      rw [ofLookup_of_reads H] at h
      rcases bind_eq_error_iff.mp h with hcheck | ⟨_, _, hpure⟩
      · exact .of_check H (fun hunpaced => hpace ⟨config, hunpaced⟩) hcheck
      · contradiction

/-- Checks without a pause between them are refused with an error that names no variable. -/
theorem restless_unnamed :
    let lookup := Lookup.ofList [("VERIFY_RETRY_INTERVAL_SECS", "0")]
    ofLookup lookup = .error (.invalidPollSpec "interval must be greater than zero") ∧
      ¬ Named lookup := by
  intro lookup
  have hrefused : failure? (ofLookup lookup) =
      some (.invalidPollSpec "interval must be greater than zero") := by
    decide +kernel
  have herror := failure?_eq_some_iff.mp hrefused
  refine ⟨herror, fun hnamed => ?_⟩
  obtain ⟨_, _, hconfig, _⟩ := hnamed _ herror
  exact nomatch hconfig

end IndexWatch.Config
