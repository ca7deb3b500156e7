import IndexWatch.Decimal.Reader
import IndexWatch.Decimal.Seconds
import IndexWatch.Decimal.Shortest
import IndexWatch.Poll.Spec
import IndexWatch.Storage
import IndexWatch.Text.Blank

/-! The settings of a verification, read from named variables.

Every variable has a default. `Config.ofLookup` reads them in one fixed order and reports the first
one that cannot be used. -/

namespace IndexWatch

open Text Decimal

structure Config where
  retryInterval : Duration
  timeout : Duration
  /-- More time for the first run of the index cleaner to be scheduled. -/
  cleanerExtraTimeout : Duration
  tunnelSetupTimeout : Duration
  storage : Storage
  indexPrefix : String
  expectPresent : Bool
deriving DecidableEq

namespace Config

def standard : Config where
  retryInterval := .ofSeconds 5
  timeout := .ofSeconds 120
  cleanerExtraTimeout := .ofSeconds 60
  tunnelSetupTimeout := Tunnel.standardSetupTimeout
  storage := .standard
  indexPrefix := "jaeger-"
  expectPresent := true

/-- The variables that are read, in the order of their reading. -/
inductive Variable where
  | retryInterval
  | timeout
  | cleanerExtraTimeout
  | tunnelSetupTimeout
  | ns
  | serviceName
  | selectorName
  | port
  | secretName
  | secure
  | indexPrefix
  | expectPresent
deriving DecidableEq

namespace Variable

def name : Variable → String
  | retryInterval => "VERIFY_RETRY_INTERVAL_SECS"
  | timeout => "VERIFY_TIMEOUT_SECS"
  | cleanerExtraTimeout => "VERIFY_CLEANER_EXTRA_TIMEOUT_SECS"
  | tunnelSetupTimeout => "TUNNEL_SETUP_TIMEOUT_SECS"
  | ns => "ES_NAMESPACE"
  | serviceName => "ES_SERVICE_NAME"
  | selectorName => "ES_SELECTOR_NAME"
  | port => "ES_PORT"
  | secretName => "ES_SECRET_NAME"
  | secure => "ES_SECURE"
  | indexPrefix => "ES_INDEX_PREFIX"
  | expectPresent => "ES_EXPECT_PRESENT"

def all : List Variable :=
  [retryInterval, timeout, cleanerExtraTimeout, tunnelSetupTimeout, ns, serviceName, selectorName,
    port, secretName, secure, indexPrefix, expectPresent]

end Variable

/-- The values of variables by their names, where they are set. -/
abbrev Lookup := String → Option String

/-- The lookup in a list of variables that are set. -/
def Lookup.ofList (settings : List (String × String)) : Lookup := fun name => settings.lookup name

def textSetting (lookup : Lookup) (key : Variable) (default : String) : String :=
  (lookup key.name).getD default

/-- A variable's text that cannot be used, and why. -/
def unusable {α : Type} (key : Variable) (shown reason : String) : Except Error α :=
  .error (.invalidConfig (key.name ++ "=" ++ shown ++ ": " ++ reason))

/-- A number of seconds, with a fraction allowed. -/
def readSeconds (key : Variable) (raw : String) : Except Error Duration :=
  match readNumber (trim raw) with
  | .error e => unusable key (quote raw) e.message
  | .ok x =>
    match x.seconds with
    | .error e => unusable key x.text e.message
    | .ok d => .ok d

def readPort (key : Variable) (raw : String) : Except Error UInt16 :=
  match readWord (trim raw) with
  | .error e => unusable key (quote raw) e.message
  | .ok n => .ok n

def flag? (text : String) : Option Bool :=
  if ["1", "true", "TRUE", "True", "yes"].contains text then some true
  else if ["0", "false", "FALSE", "False", "no"].contains text then some false
  else none

def readFlag (key : Variable) (raw : String) : Except Error Bool :=
  match flag? (trim raw) with
  | some b => .ok b
  | none => unusable key (quote (trim raw)) "expected true or false"

/-- What a reader makes of a variable, or the default where it is not set. -/
def setting {α : Type} (reader : Variable → String → Except Error α) (lookup : Lookup)
    (key : Variable) (default : α) : Except Error α :=
  match lookup key.name with
  | none => .ok default
  | some raw => reader key raw

/-- The settings as the variables give them, before they are checked against each other. -/
def read (lookup : Lookup) : Except Error Config := do
  let retryInterval ← setting readSeconds lookup .retryInterval standard.retryInterval
  let timeout ← setting readSeconds lookup .timeout standard.timeout
  let cleanerExtraTimeout ←
    setting readSeconds lookup .cleanerExtraTimeout standard.cleanerExtraTimeout
  let tunnelSetupTimeout ←
    setting readSeconds lookup .tunnelSetupTimeout standard.tunnelSetupTimeout
  let port ← setting readPort lookup .port standard.storage.port
  let secure ← setting readFlag lookup .secure standard.storage.secure
  let expectPresent ← setting readFlag lookup .expectPresent standard.expectPresent
  return {
    retryInterval, timeout, cleanerExtraTimeout, tunnelSetupTimeout, expectPresent
    storage := {
      ns := textSetting lookup .ns standard.storage.ns
      serviceName := textSetting lookup .serviceName standard.storage.serviceName
      selectorName := textSetting lookup .selectorName standard.storage.selectorName
      port
      secretName := textSetting lookup .secretName standard.storage.secretName
      secure }
    indexPrefix := textSetting lookup .indexPrefix standard.indexPrefix }

/-- The pace that the settings ask for, with an expectation. -/
def pollSpec {α : Type} (config : Config) (expected : α) : Except Error (Poll.Spec α) :=
  Poll.Spec.make config.retryInterval config.timeout expected

/-- Refuses settings that no verification can run with. -/
def check (config : Config) : Except Error Unit := do
  if config.indexPrefix.isEmpty then
    throw (.invalidConfig (Variable.indexPrefix.name ++ " must not be empty"))
  if config.tunnelSetupTimeout.nanos = 0 then
    throw (.invalidConfig (Variable.tunnelSetupTimeout.name ++ " must be greater than zero"))
  let _ ← config.pollSpec config.expectPresent

/-- The settings that the variables give, or the first reason why they cannot be used. -/
def ofLookup (lookup : Lookup) : Except Error Config := do
  let config ← read lookup
  config.check
  return config

end Config

end IndexWatch
