import IndexWatch.Cli
import IndexWatch.Proofs.Except

/-! # Settings that are accepted

`Reads lookup config` tells, variable by variable, what the variables that are set make of the
settings, and `Usable` what a verification needs of them. By `ofLookup_decided`, a lookup is accepted
with the settings that it `Reads`, if they are `Usable`, and it is refused only where a variable has a
text that is not `Acceptable` or the settings are not `Usable`. Nothing after the acceptance finds fault
with the settings again. -/

namespace IndexWatch.Config

open Text Decimal

/-! ## What variables mean -/

/-- The text is a number, and `d` are so many seconds to the nearest nanosecond. -/
def IsSeconds (raw : String) (d : Duration) : Prop :=
  ∃ x, readNumber (trim raw) = .ok x ∧ x.seconds = .ok d

def IsPort (raw : String) (n : UInt16) : Prop := readWord (trim raw) = .ok n

def IsFlag (raw : String) (b : Bool) : Prop := flag? (trim raw) = some b

/-- A text that a variable can have. Seven variables are numbers or flags, the others can have any. -/
def Acceptable (raw : String) : Variable → Prop
  | .retryInterval | .timeout | .cleanerExtraTimeout | .tunnelSetupTimeout => ∃ d, IsSeconds raw d
  | .port => ∃ n, IsPort raw n
  | .secure | .expectPresent => ∃ b, IsFlag raw b
  | .ns | .serviceName | .selectorName | .secretName | .indexPrefix => True

section
variable (lookup : Lookup)

/-- The value is what the variable's text means, and the default where the variable is not set. -/
def Given {α : Type} (means : String → α → Prop) (key : Variable) (default value : α) : Prop :=
  match lookup key.name with
  | none => value = default
  | some raw => means raw value

/-- The settings are those that the variables give. -/
structure Reads (config : Config) : Prop where
  retryInterval : Given lookup IsSeconds .retryInterval standard.retryInterval config.retryInterval
  timeout : Given lookup IsSeconds .timeout standard.timeout config.timeout
  cleanerExtraTimeout : Given lookup IsSeconds .cleanerExtraTimeout standard.cleanerExtraTimeout
    config.cleanerExtraTimeout
  tunnelSetupTimeout : Given lookup IsSeconds .tunnelSetupTimeout standard.tunnelSetupTimeout
    config.tunnelSetupTimeout
  ns : Given lookup Eq .ns standard.storage.ns config.storage.ns
  serviceName : Given lookup Eq .serviceName standard.storage.serviceName config.storage.serviceName
  selectorName : Given lookup Eq .selectorName standard.storage.selectorName
    config.storage.selectorName
  port : Given lookup IsPort .port standard.storage.port config.storage.port
  secretName : Given lookup Eq .secretName standard.storage.secretName config.storage.secretName
  secure : Given lookup IsFlag .secure standard.storage.secure config.storage.secure
  indexPrefix : Given lookup Eq .indexPrefix standard.indexPrefix config.indexPrefix
  expectPresent : Given lookup IsFlag .expectPresent standard.expectPresent config.expectPresent

end

/-- A verification can run with the settings. -/
structure Usable (config : Config) : Prop where
  retryInterval_pos : 0 < config.retryInterval.nanos
  retryInterval_le : config.retryInterval ≤ config.timeout
  tunnelSetupTimeout_pos : 0 < config.tunnelSetupTimeout.nanos
  indexPrefix_ne : config.indexPrefix ≠ ""

/-! ## The readers -/

variable {lookup : Lookup} {config : Config} {key : Variable} {raw : String}

theorem readSeconds_eq_ok_iff {d : Duration} : readSeconds key raw = .ok d ↔ IsSeconds raw d := by
  unfold readSeconds IsSeconds unusable
  cases readNumber (trim raw) with
  | error e => simp
  | ok x => cases hx : x.seconds <;> simp [hx]

theorem readPort_eq_ok_iff {n : UInt16} : readPort key raw = .ok n ↔ IsPort raw n := by
  unfold readPort IsPort unusable
  cases readWord (trim raw) <;> simp

theorem readFlag_eq_ok_iff {b : Bool} : readFlag key raw = .ok b ↔ IsFlag raw b := by
  unfold readFlag IsFlag unusable
  cases flag? (trim raw) <;> simp

section
variable {α : Type} {reader : Variable → String → Except Error α} {means : String → α → Prop}
  {default : α}

theorem setting_eq_ok_iff (hreader : ∀ {raw value}, reader key raw = .ok value ↔ means raw value)
    {value : α} : setting reader lookup key default = .ok value ↔
      Given lookup means key default value := by
  unfold setting Given
  cases lookup key.name with
  | none => simp [eq_comm]
  | some raw => exact hreader

theorem exists_given (h : ∀ raw, lookup key.name = some raw → ∃ value, means raw value) :
    ∃ value, Given lookup means key default value := by
  unfold Given
  cases hset : lookup key.name with
  | none => exact ⟨default, rfl⟩
  | some raw => exact h raw hset

theorem Given.of_set {value : α} (H : Given lookup means key default value)
    (hset : lookup key.name = some raw) : means raw value := by
  unfold Given at H
  rwa [hset] at H

end

theorem textSetting_eq_iff {default value : String} :
    textSetting lookup key default = value ↔ Given lookup Eq key default value := by
  unfold textSetting Given
  cases lookup key.name with
  | none => exact eq_comm
  | some raw => exact Iff.rfl

/-- Reading comes to the settings that the variables give, and to nothing else. -/
theorem read_eq_ok_iff : read lookup = .ok config ↔ Reads lookup config := by
  unfold read
  simp only [bind_eq_ok_iff, setting_eq_ok_iff readSeconds_eq_ok_iff,
    setting_eq_ok_iff readPort_eq_ok_iff, setting_eq_ok_iff readFlag_eq_ok_iff]
  constructor
  · rintro ⟨_, hretry, _, htimeout, _, hextra, _, hsetup, _, hport, _, hsecure, _, hexpect, h⟩
    cases h
    exact ⟨hretry, htimeout, hextra, hsetup, textSetting_eq_iff.mp rfl, textSetting_eq_iff.mp rfl,
      textSetting_eq_iff.mp rfl, hport, textSetting_eq_iff.mp rfl, hsecure,
      textSetting_eq_iff.mp rfl, hexpect⟩
  · intro H
    refine ⟨_, H.retryInterval, _, H.timeout, _, H.cleanerExtraTimeout, _, H.tunnelSetupTimeout, _,
      H.port, _, H.secure, _, H.expectPresent, ?_⟩
    rw [textSetting_eq_iff.mpr H.ns, textSetting_eq_iff.mpr H.serviceName,
      textSetting_eq_iff.mpr H.selectorName, textSetting_eq_iff.mpr H.secretName,
      textSetting_eq_iff.mpr H.indexPrefix]
    rfl

theorem Reads.unique {config' : Config} (H : Reads lookup config) (H' : Reads lookup config') :
    config = config' :=
  Except.ok.inj ((read_eq_ok_iff.mpr H).symm.trans (read_eq_ok_iff.mpr H'))

/-- The variables give no settings exactly where one of them has a text that it cannot have. -/
theorem not_exists_reads_iff :
    (¬ ∃ config, Reads lookup config) ↔
      ∃ key raw, lookup key.name = some raw ∧ ¬ Acceptable raw key := by
  constructor
  · intro hnone
    apply Classical.byContradiction
    intro hall
    have haccepts (key : Variable) (raw : String) (hset : lookup key.name = some raw) :
        Acceptable raw key :=
      Classical.byContradiction fun h => hall ⟨key, raw, hset, h⟩
    -- With texts that it can have, every variable has a value, and these are settings.
    obtain ⟨retryInterval, hretry⟩ := exists_given (haccepts .retryInterval)
    obtain ⟨timeout, htimeout⟩ := exists_given (haccepts .timeout)
    obtain ⟨cleanerExtraTimeout, hextra⟩ := exists_given (haccepts .cleanerExtraTimeout)
    obtain ⟨tunnelSetupTimeout, hsetup⟩ := exists_given (haccepts .tunnelSetupTimeout)
    obtain ⟨port, hport⟩ := exists_given (haccepts .port)
    obtain ⟨secure, hsecure⟩ := exists_given (haccepts .secure)
    obtain ⟨expectPresent, hexpect⟩ := exists_given (haccepts .expectPresent)
    have htext (key : Variable) (default : String) :
        Given lookup Eq key default (textSetting lookup key default) := textSetting_eq_iff.mp rfl
    exact hnone ⟨⟨retryInterval, timeout, cleanerExtraTimeout, tunnelSetupTimeout,
      ⟨_, _, _, port, _, secure⟩, _, expectPresent⟩, hretry, htimeout, hextra, hsetup, htext ..,
      htext .., htext .., hport, htext .., hsecure, htext .., hexpect⟩
  · rintro ⟨key, raw, hset, hbad⟩ ⟨config, H⟩
    refine hbad ?_
    cases key with
    | retryInterval => exact ⟨_, H.retryInterval.of_set hset⟩
    | timeout => exact ⟨_, H.timeout.of_set hset⟩
    | cleanerExtraTimeout => exact ⟨_, H.cleanerExtraTimeout.of_set hset⟩
    | tunnelSetupTimeout => exact ⟨_, H.tunnelSetupTimeout.of_set hset⟩
    | port => exact ⟨_, H.port.of_set hset⟩
    | secure => exact ⟨_, H.secure.of_set hset⟩
    | expectPresent => exact ⟨_, H.expectPresent.of_set hset⟩
    | ns | serviceName | selectorName | secretName | indexPrefix => exact trivial

/-! ## The checks between settings -/

theorem pollSpec_eq_ok_iff {α : Type} {expected : α} {spec : Poll.Spec α} :
    config.pollSpec expected = .ok spec ↔
      spec.interval = config.retryInterval ∧ spec.timeout = config.timeout ∧
        spec.expected = expected :=
  Poll.Spec.make_eq_ok_iff

theorem exists_pollSpec_iff {α : Type} (expected : α) :
    (∃ spec, config.pollSpec expected = .ok spec) ↔
      0 < config.retryInterval.nanos ∧ config.retryInterval ≤ config.timeout := by
  constructor
  · rintro ⟨spec, h⟩
    obtain ⟨hinterval, htimeout, _⟩ := pollSpec_eq_ok_iff.mp h
    rw [← hinterval, ← htimeout]
    exact ⟨spec.interval_pos, spec.interval_le⟩
  · rintro ⟨hpos, hle⟩
    exact ⟨⟨_, _, _, hpos, hle⟩, pollSpec_eq_ok_iff.mpr ⟨rfl, rfl, rfl⟩⟩

/-- The checks in their order. -/
theorem check_eq : config.check =
    if config.indexPrefix.isEmpty then
      .error (.invalidConfig (Variable.indexPrefix.name ++ " must not be empty"))
    else if config.tunnelSetupTimeout.nanos = 0 then
      .error (.invalidConfig (Variable.tunnelSetupTimeout.name ++ " must be greater than zero"))
    else (config.pollSpec config.expectPresent).map fun _ => () := by
  unfold check
  by_cases hempty : config.indexPrefix.isEmpty
  · simp only [hempty, if_true]
    rfl
  · by_cases hsetup : config.tunnelSetupTimeout.nanos = 0
    · simp only [hempty, hsetup, if_true]
      rfl
    · simp only [hempty, hsetup]
      rfl

theorem check_eq_ok_iff : config.check = .ok () ↔ config.Usable := by
  have hempty : config.indexPrefix.isEmpty = true ↔ config.indexPrefix = "" :=
    String.isEmpty_iff
  rw [check_eq, ite_error_eq_ok_iff, ite_error_eq_ok_iff, map_unit_eq_ok_iff, exists_pollSpec_iff,
    hempty]
  constructor
  · rintro ⟨hne, hsetup, hpos, hle⟩
    exact ⟨hpos, hle, Nat.pos_of_ne_zero hsetup, hne⟩
  · intro H
    exact ⟨H.indexPrefix_ne, Nat.ne_of_gt H.tunnelSetupTimeout_pos, H.retryInterval_pos,
      H.retryInterval_le⟩

/-- A lookup is accepted with the settings that its variables give, if a verification can run with
them. -/
theorem ofLookup_eq_ok_iff : ofLookup lookup = .ok config ↔ Reads lookup config ∧ config.Usable := by
  unfold ofLookup
  simp only [bind_eq_ok_iff, read_eq_ok_iff]
  constructor
  · rintro ⟨_, H, _, husable, h⟩
    cases h
    exact ⟨H, check_eq_ok_iff.mp husable⟩
  · rintro ⟨H, husable⟩
    exact ⟨config, H, (), check_eq_ok_iff.mpr husable, rfl⟩

/-- Settings that are accepted pass their second check as well. -/
theorem Usable.exists_verify_eq (H : config.Usable) (stack : Network.Stack) {σ : Type}
    (cluster : Verification.Cluster σ) :
    ∃ spec, config.pollSpec config.expectPresent = .ok spec ∧
      Cli.verify cluster config stack =
        Verification.awaitIndex cluster config.tunnelSetupTimeout config.storage
          config.indexPrefix spec stack := by
  obtain ⟨spec, hspec⟩ := (exists_pollSpec_iff config.expectPresent).mpr
    ⟨H.retryInterval_pos, H.retryInterval_le⟩
  refine ⟨spec, hspec, ?_⟩
  rw [Cli.verify, hspec]
  exact pure_bind spec _

/-- A lookup is accepted with the settings that its variables give, if a verification can run with
them, and is refused in no other case than that a text cannot be used or these settings cannot. Settings
that are accepted set the pace for every expectation, and a verification starts with them. -/
theorem ofLookup_decided (lookup : Lookup) :
    (∀ config, ofLookup lookup = .ok config ↔ Reads lookup config ∧ config.Usable) ∧
      ((∃ e, ofLookup lookup = .error e) ↔
        (∃ key raw, lookup key.name = some raw ∧ ¬ Acceptable raw key) ∨
          ∃ config, Reads lookup config ∧ ¬ config.Usable) ∧
      ∀ config, ofLookup lookup = .ok config →
        (∀ {α : Type} (expected : α), ∃ spec, config.pollSpec expected = .ok spec ∧
          spec.interval = config.retryInterval ∧ spec.timeout = config.timeout ∧
            spec.expected = expected) ∧
        ∀ (stack : Network.Stack) {σ : Type} (cluster : Verification.Cluster σ), ∃ spec,
          config.pollSpec config.expectPresent = .ok spec ∧
            Cli.verify cluster config stack =
              Verification.awaitIndex cluster config.tunnelSetupTimeout config.storage
                config.indexPrefix spec stack := by
  refine ⟨fun _ => ofLookup_eq_ok_iff, ?refused, ?accepted⟩
  case refused =>
    rw [exists_error_iff, ← not_exists_reads_iff]
    simp only [ofLookup_eq_ok_iff]
    constructor
    · intro hnone
      by_cases hreads : ∃ config, Reads lookup config
      · obtain ⟨config, H⟩ := hreads
        exact .inr ⟨config, H, fun husable => hnone ⟨config, H, husable⟩⟩
      · exact .inl hreads
    · rintro (hnone | ⟨config, H, hunusable⟩) ⟨accepted, Haccepted, husable⟩
      · exact hnone ⟨accepted, Haccepted⟩
      · cases H.unique Haccepted
        exact hunusable husable
  case accepted =>
    intro config h
    obtain ⟨_, husable⟩ := ofLookup_eq_ok_iff.mp h
    refine ⟨fun expected => ?_, husable.exists_verify_eq⟩
    obtain ⟨spec, hspec⟩ := (exists_pollSpec_iff expected).mpr
      ⟨husable.retryInterval_pos, husable.retryInterval_le⟩
    exact ⟨spec, hspec, pollSpec_eq_ok_iff.mp hspec⟩

/-- A number of seconds that is not zero can be too short for a nanosecond. -/
example : (readSeconds .retryInterval "1e-10" matches .ok ⟨0, _⟩) = true := by decide +kernel

end IndexWatch.Config
