import IndexWatch.Proofs.Record
import IndexWatch.Site

/-! # What tasks do to this machine

Most of what happens at a site happens outside of it: a task that `ActsOutside` leaves the tunnels as
they are. For what it asks of the world outside, the site is given a record there, `Site.recorded`. -/

namespace IndexWatch

/-- The same peer in a world with a record; what it is sent is not written down. -/
def Peer.recorded {ε σ : Type} (peer : Peer σ) : Peer (Recorded ε σ) where
  tls := peer.tls
  respond transport request := Recorded.lift (peer.respond transport request)

/-- The same line, where `entry` is written down when its far end is to be reached. -/
def Line.recorded {ε σ : Type} (entry : ε) (line : Line σ) :
    Timed (Recorded ε σ) (Timed.Answer (Peer (Recorded ε σ))) := do
  match ← (Recorded.noting entry line : Timed (Recorded ε σ) _) with
  | .never => return .never
  | .given peer => return .given peer.recorded

namespace Site

variable {ε σ α β : Type}

/-- The same site, where what is asked of the world outside is written down. -/
def recorded (record : List (Nat × ε)) (site : Site σ) : Site (Recorded ε σ) :=
  ⟨site.loopbackFault, site.system, ⟨record, site.outside⟩⟩

theorem lift_bind (task : Timed σ α) (next : α → Timed σ β) :
    lift (task >>= next) = lift task >>= fun a => lift (next a) := rfl

theorem follows_lift {task' : Timed (Recorded ε σ) α} {task : Timed σ α}
    {entries : Nat → σ → List (Nat × ε)} (H : Recorded.Follows Recorded.mk task' task entries) :
    Recorded.Follows Site.recorded (lift task') (lift task) fun now site =>
      entries now site.outside := by
  intro now record site
  rw [run_lift, run_lift]
  simp only [recorded, H now record site.outside, Outcome.mapWorld]

/-! ## Tasks that act outside -/

/-- A task that leaves this machine as it is. -/
def ActsOutside (task : Timed (Site σ) α) : Prop :=
  ∀ now site, ∃ outside, (task.run now site).world = { site with outside }

variable {task : Timed (Site σ) α}

theorem actsOutside_lift (task : Timed σ α) : ActsOutside (lift task) :=
  fun now site => ⟨(task.run now site.outside).world, rfl⟩

theorem actsOutside_pure (value : α) : ActsOutside (pure value : Timed (Site σ) α) :=
  fun _ site => ⟨site.outside, rfl⟩

theorem actsOutside_now : ActsOutside (Timed.now : Timed (Site σ) Nat) :=
  fun _ site => ⟨site.outside, rfl⟩

theorem ActsOutside.bind {next : α → Timed (Site σ) β} (H : ActsOutside task)
    (Hnext : ∀ a, ActsOutside (next a)) : ActsOutside (task >>= next) := by
  intro now site
  obtain ⟨outside, houtside⟩ := H now site
  obtain ⟨later, hlater⟩ := Hnext (task.run now site).value (now + (task.run now site).took)
    { site with outside }
  refine ⟨later, ?_⟩
  rw [Timed.run_bind]
  simp only [houtside, hlater]

theorem ActsOutside.overNetwork (H : ActsOutside task) : ActsOutside (Timed.overNetwork task) := H

theorem ActsOutside.within {task : Timed (Site σ) (Timed.Answer α)} (H : ActsOutside task)
    (limit : Nat) : ActsOutside (Timed.within limit task) := by
  intro now site
  obtain ⟨outside, houtside⟩ := H now site
  have hcut : ∀ idle : Prop, [Decidable idle] →
      ∃ outside, (if idle then site else (task now site).world) = { site with outside } := by
    intro idle _
    split
    · exact ⟨site.outside, rfl⟩
    · exact ⟨outside, houtside⟩
  simp only [Timed.run, Timed.within]
  split
  · exact hcut _
  · split
    · exact ⟨outside, houtside⟩
    · exact hcut _

end Site

end IndexWatch
