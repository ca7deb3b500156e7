import IndexWatch.Proofs.Config.Acceptance
import IndexWatch.Proofs.Verification.Effects

/-! # How the command ends

With settings that are accepted, the command is the verification that they describe, `run_of_accepted`;
with others it does nothing at all, `run_of_refused`. So it exits with zero exactly where there is such
a verification and it succeeds. -/

namespace IndexWatch.Cli

variable {σ : Type} {lookup : Config.Lookup} {config : Config}

theorem exitCode_eq_zero_iff {ending : Ending} : ending.exitCode = 0 ↔ ending = .verified := by
  cases ending <;> simp [Ending.exitCode]

theorem ofResult_eq_verified_iff {result : Except Error Unit} :
    Ending.ofResult result = .verified ↔ result = .ok () := by
  cases result <;> simp [Ending.ofResult]

/-- The verification that settings describe; there is one where they can be used. -/
theorem run_of_accepted (h : Config.ofLookup lookup = .ok config) (stack : Network.Stack)
    (cluster : Verification.Cluster σ) :
    ∃ spec, config.pollSpec config.expectPresent = .ok spec ∧
      run lookup cluster stack = Ending.ofResult <$>
        (Verification.awaitIndex cluster config.tunnelSetupTimeout config.storage
          config.indexPrefix spec stack).run := by
  obtain ⟨_, husable⟩ := Config.ofLookup_eq_ok_iff.mp h
  obtain ⟨spec, hspec, hverify⟩ := husable.exists_verify_eq stack cluster
  refine ⟨spec, hspec, ?_⟩
  rw [run, h]
  exact congrArg (fun task => Ending.ofResult <$> ExceptT.run task) hverify

theorem run_of_refused {e : Error} (h : Config.ofLookup lookup = .error e) (stack : Network.Stack)
    (cluster : Verification.Cluster σ) : run lookup cluster stack = pure (.failed e) := by
  rw [run, h]

/-- The command exits with zero exactly where its settings are accepted and the verification that they
describe succeeds. Where they are refused, it asks nothing of any cluster, and leaves all as it is. -/
theorem run_decided (stack : Network.Stack) (lookup : Config.Lookup)
    (cluster : Verification.Cluster σ) (now : Nat) (site : Site σ) :
    let left := Timed.run (run lookup cluster stack) now site
    (left.value.exitCode = 0 ↔
      ∃ config spec, Config.ofLookup lookup = .ok config ∧
        Poll.Spec.make config.retryInterval config.timeout config.expectPresent = .ok spec ∧
        (Timed.run (Verification.awaitIndex cluster config.tunnelSetupTimeout config.storage
          config.indexPrefix spec stack) now site).value = .ok ()) ∧
      ∀ e, Config.ofLookup lookup = .error e →
        left = ⟨0, false, site, .failed e⟩ ∧
          ∀ record, Timed.run (run lookup cluster.recorded stack) now (site.recorded record) =
            ⟨0, false, site.recorded record, .failed e⟩ := by
  intro left
  constructor
  · rw [exitCode_eq_zero_iff]
    cases haccepted : Config.ofLookup lookup with
    | error e =>
      have hleft : left = _ := congrArg (Timed.run · now site)
        (run_of_refused haccepted stack cluster)
      rw [hleft]
      simp
    | ok config =>
      obtain ⟨spec, hspec, hrun⟩ := run_of_accepted haccepted stack cluster
      have hleft : left.value = Ending.ofResult (Timed.run (Verification.awaitIndex cluster
          config.tunnelSetupTimeout config.storage config.indexPrefix spec stack) now site).value :=
        congrArg (fun task => (Timed.run task now site).value) hrun
      rw [hleft, ofResult_eq_verified_iff]
      constructor
      · intro hok
        exact ⟨config, spec, rfl, hspec, hok⟩
      · rintro ⟨config', spec', h, hspec', hok⟩
        cases h
        have hsame : config.pollSpec config.expectPresent = .ok spec' := hspec'
        cases hspec.symm.trans hsame
        exact hok
  · intro e h
    refine ⟨?_, fun record => ?_⟩
    · exact congrArg (Timed.run · now site) (run_of_refused h stack cluster)
    · exact congrArg (Timed.run · now (site.recorded record))
        (run_of_refused h stack cluster.recorded)

end IndexWatch.Cli
