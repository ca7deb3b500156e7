import IndexWatch.Config
import IndexWatch.Verification

/-! The command: one verification with the settings of the environment.

Nothing is asked of the cluster before the settings are accepted. The command succeeds when the
verification does; otherwise it writes the error to the standard error output and exits with one. -/

namespace IndexWatch.Cli

open Text

/-- How a command ends. -/
inductive Ending where
  | verified
  | failed (error : Error)
  /-- It was told to stop before the verification ended. -/
  | interrupted
deriving DecidableEq

namespace Ending

def exitCode : Ending → Nat
  | verified => 0
  | failed _ | interrupted => 1

/-- What is written to the standard error output. -/
def diagnostic : Ending → String
  | verified => ""
  | failed error => "Error: " ++ error.spelling ++ "\n"
  | interrupted => "Error: " ++ quote "interrupted" ++ "\n"

def ofResult : Except Error Unit → Ending
  | .ok () => verified
  | .error error => failed error

end Ending

variable {σ : Type}

/-- The verification that some settings describe. -/
def verify (cluster : Verification.Cluster σ) (config : Config)
    (stack : Network.Stack := .standard) : Attempt (Site σ) Unit := do
  let spec ← Attempt.ofExcept (config.pollSpec config.expectPresent)
  Verification.awaitIndex cluster config.tunnelSetupTimeout config.storage config.indexPrefix spec
    stack

/-- The command, where nothing interrupts it. -/
def run (lookup : Config.Lookup) (cluster : Verification.Cluster σ)
    (stack : Network.Stack := .standard) : Timed (Site σ) Ending :=
  match Config.ofLookup lookup with
  | .error error => pure (.failed error)
  | .ok config => Ending.ofResult <$> (verify cluster config stack).run

end IndexWatch.Cli
