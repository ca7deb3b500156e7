import IndexWatch.Site
import IndexWatch.Tunnel.Search

/-! Opening, using and closing tunnels.

A tunnel is opened by finding a pod and listening on a free port; every connection to that port is
relayed to the pod. -/

namespace IndexWatch.Tunnel

open Timed

/-- The part of a cluster that tunnels are built on. -/
structure Forwarder (σ : Type) where
  /-- A running pod behind a target, or none yet. -/
  lookup : Target → Lookup σ
  /-- Relays a connection to a pod, by namespace, pod and port. -/
  relay : String → String → UInt16 → Line σ

/-- An open tunnel, as its owner holds it. -/
structure Handle where
  target : Target
  pod : String
  localPort : UInt16
  /-- Which of the machine's tunnels it is. -/
  index : Nat
deriving DecidableEq

variable {σ : Type}

/-- The handle for diagnostics, with the tunnel's liveness. -/
def Handle.spelling (handle : Handle) (liveness : Liveness) : String :=
  let target := Text.spellRecord "TunnelTarget"
    [("namespace", Text.spell handle.target.ns), ("service_name", Text.spell handle.target.service),
      ("selector_name", Text.spell handle.target.selector),
      ("remote_port", toString handle.target.remotePort)]
  Text.spellRecord "Tunnel"
    [("target", target), ("pod", Text.spell handle.pod), ("local_port", toString handle.localPort),
      ("liveness", liveness.name)]

/-- Listens on a free port for connections to a pod. -/
def listen (target : Target) (pod : String) : Timed (Site σ) (Except Error Handle) :=
  act fun site =>
    match site.system.freePort? with
    | none =>
      (.error (target.setupFailed
        "Failed to bind local port: Address already in use (os error 98)"), site)
    | some port =>
      (.ok ⟨target, pod, port, site.system.tunnels.length⟩,
        { site with system := site.system.step (.opens target.ns pod target.remotePort port) })

/-- Stops a tunnel and waits until it has stopped. A tunnel that is closed stays as it is. -/
def close (handle : Handle) : Timed (Site σ) Unit :=
  Site.record [.closes handle.index, .halts handle.index]

/-- Gives a tunnel up without closing it first. -/
def drop (handle : Handle) : Timed (Site σ) Unit :=
  Site.record [.drops handle.index, .halts handle.index]

/-- Opens a tunnel. Finding a pod and starting to listen share the setup timeout: a pod that is found
when no time is left is found too late. -/
def establish (forwarder : Forwarder σ) (target : Target) (setupTimeout : Duration) :
    Attempt (Site σ) Handle := do
  let begun ← ExceptT.lift (now : Timed (Site σ) Nat)
  let pod ← (findPod target setupTimeout (Site.lift (forwarder.lookup target)) : Attempt _ _)
  let handle ← Attempt.ofTimed (listen target pod)
  let ready ← ExceptT.lift (now : Timed (Site σ) Nat)
  if ready < Clock.ceilMilli (Clock.deadline begun setupTimeout) then return handle
  else
    ExceptT.lift (drop handle)
    throw (target.setupFailed "Forwarding task did not become ready")

/-- Connects to a local port. The tunnel that listens there relays the connection. -/
def dial (forwarder : Forwarder σ) : Dial (Site σ) := fun port =>
  act fun site =>
    match site.loopbackFault, site.system.listenerOn? port with
    | some fault, _ => (.error fault, site)
    | none, none => (.error "Connection refused (os error 111)", site)
    | none, some tunnel =>
      match site.system.tunnels[tunnel]? with
      | none => (.error "Connection refused (os error 111)", site)
      | some forwarding =>
        let connection := site.system.connections
        let line := forwarder.relay forwarding.ns forwarding.pod forwarding.remotePort
        (.ok (Line.lift line),
          { site with system := site.system.run [.connects port, .relayBegins tunnel connection] })

end IndexWatch.Tunnel
