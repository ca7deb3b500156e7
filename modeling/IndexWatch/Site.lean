import IndexWatch.Network.Peer
import IndexWatch.Tunnel.Forwarding

/-! This machine, with the tunnels on it, and the world outside of it. -/

namespace IndexWatch

open Timed

/-- This machine and the world outside. -/
structure Site (σ : Type) where
  /-- Why connections within the machine do not come about, if they do not. -/
  loopbackFault : Option String
  system : Tunnel.System
  outside : σ

namespace Site

variable {σ α : Type}

/-- A site without tunnels where connections come about. -/
def fresh (outside : σ) : Site σ := ⟨none, .empty, outside⟩

/-- A task of the world outside, at a site. -/
def lift (task : Timed σ α) : Timed (Site σ) α := fun now site =>
  let outcome := task.run now site.outside
  ⟨outcome.took, outcome.traffic, { site with outside := outcome.world }, outcome.value⟩

/-- Lets some events of the tunnels happen. -/
def record (events : List Tunnel.Event) : Timed (Site σ) Unit :=
  act fun site => ((), { site with system := site.system.run events })

@[simp] theorem run_lift (task : Timed σ α) (now : Nat) (site : Site σ) :
    (lift task).run now site =
      { task.run now site.outside with
        world := { site with outside := (task.run now site.outside).world } } := rfl

@[simp] theorem run_record (events : List Tunnel.Event) (now : Nat) (site : Site σ) :
    (record events).run now site =
      ⟨0, false, { site with system := site.system.run events }, ()⟩ := rfl

end Site

/-- The far end of a connection that is relayed, as it is seen at a site. -/
def Peer.lift {σ : Type} (peer : Peer σ) : Peer (Site σ) where
  tls := peer.tls
  respond transport request := Site.lift (peer.respond transport request)

/-- A connection that is relayed, as it is seen at a site. -/
def Line.lift {σ : Type} (line : Line σ) : Timed (Site σ) (Answer (Peer (Site σ))) := do
  match ← Site.lift line with
  | .never => return .never
  | .given peer => return .given peer.lift

end IndexWatch
