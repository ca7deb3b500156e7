import IndexWatch.Proofs.Config.Acceptance

/-! # The steps of the reading

Settings are read one variable after the other, and then they are checked. `Step.all` lists the
steps that can fail in their order, each with the variables that it looks at. The first one that
fails decides the error, and no variable has a part in the setting of another: `readInTurn`. -/

namespace IndexWatch.Config

open Text

/-! ## The steps -/

/-- The error that the text of a variable leads to. -/
def Variable.fault? (key : Variable) (raw : String) : Option Error :=
  match key with
  | .retryInterval | .timeout | .cleanerExtraTimeout | .tunnelSetupTimeout =>
    failure? (readSeconds key raw)
  | .port => failure? (readPort key raw)
  | .secure | .expectPresent => failure? (readFlag key raw)
  | .ns | .serviceName | .selectorName | .secretName | .indexPrefix => none

/-- The variables that are numbers or flags, in the order of their reading. -/
def Variable.parsed : List Variable :=
  [.retryInterval, .timeout, .cleanerExtraTimeout, .tunnelSetupTimeout, .port, .secure,
    .expectPresent]

/-- What is done with the variables: one is read, or a demand is made of those that were read. -/
inductive Step where
  | reads (key : Variable)
  | demandsPrefix
  | demandsSetupTime
  | demandsPace
deriving DecidableEq

namespace Step

/-- The demands that are made of settings, in their order. -/
def demands : List Step := [demandsPrefix, demandsSetupTime, demandsPace]

/-- The steps that can fail, in their order. -/
def all : List Step := Variable.parsed.map reads ++ demands

/-- The variables that a step looks at. -/
def inputs : Step → List Variable
  | reads key => [key]
  | demandsPrefix => [.indexPrefix]
  | demandsSetupTime => [.tunnelSetupTimeout]
  | demandsPace => [.retryInterval, .timeout]

/-- The error of a step on its own. A demand finds no fault with a text that cannot be read. -/
def fault? (lookup : Lookup) : Step → Option Error
  | reads key => (lookup key.name).bind key.fault?
  | demandsPrefix =>
    if (textSetting lookup .indexPrefix standard.indexPrefix).isEmpty then
      some (.invalidConfig (Variable.indexPrefix.name ++ " must not be empty"))
    else none
  | demandsSetupTime =>
    match setting readSeconds lookup .tunnelSetupTimeout standard.tunnelSetupTimeout with
    | .error _ => none
    | .ok time =>
      if time.nanos = 0 then
        some (.invalidConfig (Variable.tunnelSetupTimeout.name ++ " must be greater than zero"))
      else none
  | demandsPace =>
    match setting readSeconds lookup .retryInterval standard.retryInterval,
      setting readSeconds lookup .timeout standard.timeout with
    | .ok interval, .ok timeout => failure? (Poll.Spec.make interval timeout ())
    | _, _ => none

/-- The step is the first one that fails, after those before it. -/
structure Decides (lookup : Lookup) (earlier : List Step) (step : Step) (e : Error) : Prop where
  taken : earlier ++ [step] <+: all
  fails : step.fault? lookup = some e
  pass : ∀ before ∈ earlier, before.fault? lookup = none

end Step

/-! ## The first step that fails -/

section
variable {lookup lookup' : Lookup} {key : Variable}

theorem setting_congr {α : Type} {reader : Variable → String → Except Error α} {default : α}
    (h : lookup' key.name = lookup key.name) :
    setting reader lookup' key default = setting reader lookup key default := by
  rw [setting, h, setting]

theorem textSetting_congr {default : String} (h : lookup' key.name = lookup key.name) :
    textSetting lookup' key default = textSetting lookup key default := by
  rw [textSetting, h, textSetting]

/-- A step depends on nothing but its inputs. -/
theorem Step.fault?_congr {step : Step}
    (h : ∀ key ∈ step.inputs, lookup' key.name = lookup key.name) :
    step.fault? lookup' = step.fault? lookup := by
  cases step with
  | reads key =>
    have hkey : lookup' key.name = lookup key.name := h key List.mem_cons_self
    rw [fault?, hkey, fault?]
  | demandsPrefix =>
    have hkey := h .indexPrefix (by decide)
    rw [fault?, textSetting_congr hkey, fault?]
  | demandsSetupTime =>
    have hkey := h .tunnelSetupTimeout (by decide)
    rw [fault?, setting_congr hkey, fault?]
  | demandsPace =>
    have hretry := h .retryInterval (by decide)
    have htimeout := h .timeout (by decide)
    rw [fault?, setting_congr hretry, setting_congr htimeout, fault?]

/-- Reading a variable is one step more. -/
theorem failure?_setting_bind {α β : Type} {reader : Variable → String → Except Error α}
    {default : α} {next : α → Except Error β} {steps : List Step}
    (hreader : ∀ raw, failure? (reader key raw) = key.fault? raw)
    (hnext : ∀ value, failure? (next value) = steps.findSome? (·.fault? lookup)) :
    failure? (setting reader lookup key default >>= next) =
      (Step.reads key :: steps).findSome? (·.fault? lookup) := by
  have hsetting : failure? (setting reader lookup key default) =
      (Step.reads key).fault? lookup := by
    rw [setting, Step.fault?]
    cases lookup key.name with
    | none => rfl
    | some raw => exact hreader raw
  rw [failure?_bind fun value _ => hnext value, hsetting, List.findSome?_cons]
  cases (Step.reads key).fault? lookup <;> rfl

theorem failure?_read :
    failure? (read lookup) = (Variable.parsed.map Step.reads).findSome? (·.fault? lookup) := by
  unfold read
  iterate 7 refine failure?_setting_bind (fun _ => rfl) fun _ => ?_
  rfl

/-- The demand on the pace does not depend on what is expected. -/
theorem failure?_make {α β : Type} {interval timeout : Duration} {a : α} {b : β} :
    failure? (Poll.Spec.make interval timeout a) =
      failure? (Poll.Spec.make interval timeout b) := by
  unfold Poll.Spec.make
  split
  · rfl
  · split <;> rfl

theorem failure?_check {config : Config} (H : Reads lookup config) :
    failure? config.check = Step.demands.findSome? (·.fault? lookup) := by
  have hempty : Step.demandsPrefix.fault? lookup =
      if config.indexPrefix.isEmpty then
        some (.invalidConfig (Variable.indexPrefix.name ++ " must not be empty"))
      else none := by
    rw [Step.fault?, textSetting_eq_iff.mpr H.indexPrefix]
  have hsetup : Step.demandsSetupTime.fault? lookup =
      if config.tunnelSetupTimeout.nanos = 0 then
        some (.invalidConfig (Variable.tunnelSetupTimeout.name ++ " must be greater than zero"))
      else none := by
    rw [Step.fault?, (setting_eq_ok_iff readSeconds_eq_ok_iff).mpr H.tunnelSetupTimeout]
  have hpace : Step.demandsPace.fault? lookup =
      failure? (config.pollSpec config.expectPresent) := by
    rw [Step.fault?, (setting_eq_ok_iff readSeconds_eq_ok_iff).mpr H.retryInterval,
      (setting_eq_ok_iff readSeconds_eq_ok_iff).mpr H.timeout]
    exact failure?_make
  simp only [check_eq, Step.demands, List.findSome?_cons, List.findSome?_nil, hempty, hsetup, hpace]
  by_cases hblank : config.indexPrefix.isEmpty
  · rw [if_pos hblank, if_pos hblank]
    rfl
  · by_cases htime : config.tunnelSetupTimeout.nanos = 0
    · rw [if_neg hblank, if_neg hblank, if_pos htime, if_pos htime]
      rfl
    · rw [if_neg hblank, if_neg hblank, if_neg htime, if_neg htime]
      cases config.pollSpec config.expectPresent <;> rfl

theorem failure?_ofLookup :
    failure? (ofLookup lookup) = Step.all.findSome? (·.fault? lookup) := by
  rw [Step.all, List.findSome?_append, ← failure?_read, ofLookup]
  refine failure?_bind fun config H => ?_
  rw [← failure?_check (read_eq_ok_iff.mp H)]
  cases config.check <;> rfl

/-- A lookup is refused with the error of the first step that fails. -/
theorem ofLookup_eq_error_iff {e : Error} :
    ofLookup lookup = .error e ↔ ∃ earlier step, Step.Decides lookup earlier step e := by
  rw [← failure?_eq_some_iff, failure?_ofLookup, List.findSome?_eq_some_iff]
  constructor
  · rintro ⟨earlier, step, later, hall, hfails, hpass⟩
    refine ⟨earlier, step, ⟨later, ?_⟩, hfails, hpass⟩
    rw [hall, List.append_assoc, List.singleton_append]
  · rintro ⟨earlier, step, ⟨later, hall⟩, hfails, hpass⟩
    refine ⟨earlier, step, later, ?_, hfails, hpass⟩
    rw [← hall, List.append_assoc, List.singleton_append]

/-- What the later steps look at does not change which step decides. -/
theorem Step.Decides.congr {earlier : List Step} {step : Step} {e : Error}
    (H : Decides lookup earlier step e)
    (h : ∀ taken ∈ earlier ++ [step], ∀ key ∈ taken.inputs, lookup' key.name = lookup key.name) :
    Decides lookup' earlier step e where
  taken := H.taken
  fails := by
    rw [fault?_congr (h step (by simp))]
    exact H.fails
  pass before hbefore := by
    rw [fault?_congr (h before (List.mem_append_left _ hbefore))]
    exact H.pass before hbefore

end

/-! ## One variable, one setting -/

/-- What a setting is. -/
inductive Value where
  | span (time : Duration)
  | number (n : UInt16)
  | flag (b : Bool)
  | text (s : String)

/-- The setting that belongs to a variable. -/
def value (config : Config) : Variable → Value
  | .retryInterval => .span config.retryInterval
  | .timeout => .span config.timeout
  | .cleanerExtraTimeout => .span config.cleanerExtraTimeout
  | .tunnelSetupTimeout => .span config.tunnelSetupTimeout
  | .ns => .text config.storage.ns
  | .serviceName => .text config.storage.serviceName
  | .selectorName => .text config.storage.selectorName
  | .port => .number config.storage.port
  | .secretName => .text config.storage.secretName
  | .secure => .flag config.storage.secure
  | .indexPrefix => .text config.indexPrefix
  | .expectPresent => .flag config.expectPresent

section
variable {lookup lookup' : Lookup} {config config' : Config} {key : Variable}

/-- Nothing belongs to the settings besides what belongs to the variables. -/
theorem eq_of_value_eq (h : ∀ key, config'.value key = config.value key) : config' = config := by
  obtain ⟨_, _, _, _, ⟨_, _, _, _, _, _⟩, _, _⟩ := config
  obtain ⟨_, _, _, _, ⟨_, _, _, _, _, _⟩, _, _⟩ := config'
  cases h .retryInterval
  cases h .timeout
  cases h .cleanerExtraTimeout
  cases h .tunnelSetupTimeout
  cases h .ns
  cases h .serviceName
  cases h .selectorName
  cases h .port
  cases h .secretName
  cases h .secure
  cases h .indexPrefix
  cases h .expectPresent
  rfl

/-- A setting depends on nothing but its variable. -/
theorem Given.eq_of_eq {α : Type} {means : String → α → Prop} {default a b : α}
    (H : Given lookup means key default a) (H' : Given lookup' means key default b)
    (hmeans : ∀ {raw}, means raw a → means raw b → b = a)
    (h : lookup' key.name = lookup key.name) : b = a := by
  unfold Given at H H'
  rw [h] at H'
  cases hset : lookup key.name with
  | none =>
    rw [hset] at H H'
    exact H'.trans H.symm
  | some raw =>
    rw [hset] at H H'
    exact hmeans H H'

theorem IsSeconds.unique {raw : String} {a b : Duration} (ha : IsSeconds raw a)
    (hb : IsSeconds raw b) : b = a := by
  have hread : readSeconds .timeout raw = .ok a := readSeconds_eq_ok_iff.mpr ha
  rw [readSeconds_eq_ok_iff.mpr hb] at hread
  exact Except.ok.inj hread

theorem IsPort.unique {raw : String} {a b : UInt16} (ha : IsPort raw a) (hb : IsPort raw b) :
    b = a :=
  Except.ok.inj (hb.symm.trans ha)

theorem IsFlag.unique {raw : String} {a b : Bool} (ha : IsFlag raw a) (hb : IsFlag raw b) : b = a :=
  Option.some.inj (hb.symm.trans ha)

theorem Reads.value_eq (H : Reads lookup config) (H' : Reads lookup' config')
    (h : lookup' key.name = lookup key.name) : config'.value key = config.value key := by
  have htext {raw a b : String} (ha : raw = a) (hb : raw = b) : b = a := hb.symm.trans ha
  cases key with
  | retryInterval =>
    exact congrArg Value.span (H.retryInterval.eq_of_eq H'.retryInterval IsSeconds.unique h)
  | timeout => exact congrArg Value.span (H.timeout.eq_of_eq H'.timeout IsSeconds.unique h)
  | cleanerExtraTimeout =>
    exact congrArg Value.span
      (H.cleanerExtraTimeout.eq_of_eq H'.cleanerExtraTimeout IsSeconds.unique h)
  | tunnelSetupTimeout =>
    exact congrArg Value.span
      (H.tunnelSetupTimeout.eq_of_eq H'.tunnelSetupTimeout IsSeconds.unique h)
  | ns => exact congrArg Value.text (H.ns.eq_of_eq H'.ns htext h)
  | serviceName => exact congrArg Value.text (H.serviceName.eq_of_eq H'.serviceName htext h)
  | selectorName => exact congrArg Value.text (H.selectorName.eq_of_eq H'.selectorName htext h)
  | port => exact congrArg Value.number (H.port.eq_of_eq H'.port IsPort.unique h)
  | secretName => exact congrArg Value.text (H.secretName.eq_of_eq H'.secretName htext h)
  | secure => exact congrArg Value.flag (H.secure.eq_of_eq H'.secure IsFlag.unique h)
  | indexPrefix => exact congrArg Value.text (H.indexPrefix.eq_of_eq H'.indexPrefix htext h)
  | expectPresent =>
    exact congrArg Value.flag (H.expectPresent.eq_of_eq H'.expectPresent IsFlag.unique h)

end

/-! ## White space -/

/-- The second lookup has white space around some of the numbers and flags of the first. -/
def Padded (lookup lookup' : Lookup) : Prop :=
  ∀ key : Variable, lookup' key.name = lookup key.name ∨
    key ∈ Variable.parsed ∧ ∃ before raw behind : String,
      (∀ c ∈ before.toList, isBlank c = true) ∧ (∀ c ∈ behind.toList, isBlank c = true) ∧
        lookup key.name = some raw ∧ lookup' key.name = some (before ++ raw ++ behind)

/-- The lookups are the same but for white space at the ends of numbers and flags. -/
structure Alike (lookup lookup' : Lookup) : Prop where
  trimmed (key : Variable) : (lookup' key.name).map trim = (lookup key.name).map trim
  same {key : Variable} : key ∉ Variable.parsed → lookup' key.name = lookup key.name

section
variable {lookup lookup' : Lookup} {config : Config} {key : Variable}

theorem Padded.alike (H : Padded lookup lookup') : Alike lookup lookup' where
  trimmed key := by
    rcases H key with hsame | ⟨_, before, raw, behind, hbefore, hbehind, hset, hset'⟩
    · rw [hsame]
    · rw [hset, hset', Option.map_some, Option.map_some, trim_append hbefore hbehind]
  same {key} hkey := by
    rcases H key with hsame | ⟨hparsed, _⟩
    · exact hsame
    · exact absurd hparsed hkey

theorem Alike.symm (H : Alike lookup lookup') : Alike lookup' lookup :=
  ⟨fun key => (H.trimmed key).symm, fun hkey => (H.same hkey).symm⟩

theorem IsSeconds.of_trim_eq {raw raw' : String} {d : Duration} (h : trim raw' = trim raw)
    (H : IsSeconds raw d) : IsSeconds raw' d := by
  rwa [IsSeconds, h]

theorem IsPort.of_trim_eq {raw raw' : String} {n : UInt16} (h : trim raw' = trim raw)
    (H : IsPort raw n) : IsPort raw' n := by
  rwa [IsPort, h]

theorem IsFlag.of_trim_eq {raw raw' : String} {b : Bool} (h : trim raw' = trim raw)
    (H : IsFlag raw b) : IsFlag raw' b := by
  rwa [IsFlag, h]

theorem Given.of_trim_eq {α : Type} {means : String → α → Prop} {default a : α}
    (H : Given lookup means key default a)
    (h : (lookup' key.name).map trim = (lookup key.name).map trim)
    (hmeans : ∀ {raw raw'}, trim raw' = trim raw → means raw a → means raw' a) :
    Given lookup' means key default a := by
  unfold Given at H ⊢
  cases hset : lookup key.name with
  | none =>
    rw [hset, Option.map_none, Option.map_eq_none_iff] at h
    rw [hset] at H
    rwa [h]
  | some raw =>
    rw [hset, Option.map_some, Option.map_eq_some_iff] at h
    obtain ⟨raw', hset', htrim⟩ := h
    rw [hset] at H
    rw [hset']
    exact hmeans htrim H

theorem Given.of_eq {α : Type} {means : String → α → Prop} {default a : α}
    (H : Given lookup means key default a) (h : lookup' key.name = lookup key.name) :
    Given lookup' means key default a := by
  unfold Given at H ⊢
  rwa [h]

theorem Reads.alike (H : Reads lookup config) (h : Alike lookup lookup') :
    Reads lookup' config where
  retryInterval := H.retryInterval.of_trim_eq (h.trimmed _) IsSeconds.of_trim_eq
  timeout := H.timeout.of_trim_eq (h.trimmed _) IsSeconds.of_trim_eq
  cleanerExtraTimeout := H.cleanerExtraTimeout.of_trim_eq (h.trimmed _) IsSeconds.of_trim_eq
  tunnelSetupTimeout := H.tunnelSetupTimeout.of_trim_eq (h.trimmed _) IsSeconds.of_trim_eq
  ns := H.ns.of_eq (h.same (by decide))
  serviceName := H.serviceName.of_eq (h.same (by decide))
  selectorName := H.selectorName.of_eq (h.same (by decide))
  port := H.port.of_trim_eq (h.trimmed _) IsPort.of_trim_eq
  secretName := H.secretName.of_eq (h.same (by decide))
  secure := H.secure.of_trim_eq (h.trimmed _) IsFlag.of_trim_eq
  indexPrefix := H.indexPrefix.of_eq (h.same (by decide))
  expectPresent := H.expectPresent.of_trim_eq (h.trimmed _) IsFlag.of_trim_eq

end

/-! ## Reading in turn -/

/-- The variables of a lookup are read in turn, each for itself. -/
structure ReadInTurn (lookup : Lookup) : Prop where
  accepted_iff : (∃ config, ofLookup lookup = .ok config) ↔
    ∀ step ∈ Step.all, step.fault? lookup = none
  refused_iff (e : Error) : ofLookup lookup = .error e ↔
    ∃ earlier step, Step.Decides lookup earlier step e
  /-- Once a step has failed, nothing depends on the variables that later steps would look at. -/
  settled {lookup' : Lookup} {earlier : List Step} {step : Step} {e : Error} :
    Step.Decides lookup earlier step e →
    (∀ taken ∈ earlier ++ [step], ∀ key ∈ taken.inputs, lookup' key.name = lookup key.name) →
      ofLookup lookup' = .error e
  /-- Where one variable differs, no setting but its own does, and none at all if that does not. -/
  apart {lookup' : Lookup} {key : Variable} {config config' : Config} :
    (∀ other, other ≠ key → lookup' other.name = lookup other.name) →
    ofLookup lookup = .ok config → ofLookup lookup' = .ok config' →
      (∀ other, other ≠ key → config'.value other = config.value other) ∧
        (config'.value key = config.value key → config' = config)
  padded {lookup' : Lookup} : Padded lookup lookup' →
    ∀ config, ofLookup lookup' = .ok config ↔ ofLookup lookup = .ok config

/-- **Reading in turn.** The first step that fails decides whatever the later ones would look at, a
variable leads to its own setting and to no other, and white space around numbers and flags is not
seen. -/
theorem readInTurn (lookup : Lookup) : ReadInTurn lookup where
  accepted_iff := by
    rw [← failure?_eq_none_iff, failure?_ofLookup, List.findSome?_eq_none_iff]
  refused_iff _ := ofLookup_eq_error_iff
  settled H h := ofLookup_eq_error_iff.mpr ⟨_, _, H.congr h⟩
  apart {lookup' key config config'} h haccepted haccepted' := by
    obtain ⟨H, _⟩ := ofLookup_eq_ok_iff.mp haccepted
    obtain ⟨H', _⟩ := ofLookup_eq_ok_iff.mp haccepted'
    have hothers (other : Variable) (hother : other ≠ key) :
        config'.value other = config.value other := H.value_eq H' (h other hother)
    refine ⟨hothers, fun hkey => eq_of_value_eq fun other => ?_⟩
    by_cases hother : other = key
    · rw [hother, hkey]
    · exact hothers other hother
  padded {lookup'} h config := by
    have halike := h.alike
    have hreads : Reads lookup' config ↔ Reads lookup config :=
      ⟨fun H => H.alike halike.symm, fun H => H.alike halike⟩
    rw [ofLookup_eq_ok_iff, ofLookup_eq_ok_iff, hreads]

/-- The port is read before anything is demanded of the time for a setup. -/
example : failure? (ofLookup (Lookup.ofList
      [("TUNNEL_SETUP_TIMEOUT_SECS", "0"), ("ES_PORT", "ninety")])) =
    some (.invalidConfig "ES_PORT=\"ninety\": invalid digit found in string") := by
  decide +kernel

end IndexWatch.Config
