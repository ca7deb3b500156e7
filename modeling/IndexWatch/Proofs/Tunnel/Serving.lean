import IndexWatch.Proofs.Site
import IndexWatch.Tunnel.Open

/-! # A tunnel at work

While a tunnel is open, each connection to its port adds one connection and one call to the machine's
tunnels and changes nothing else: `serving` is what they are after some of them, and `served` what they
are once the tunnel is closed. `leavesNothing_served` says that nothing is left of it then. -/

namespace IndexWatch.Tunnel

/-- What is started for a handle. -/
def Handle.opening (handle : Handle) : Forwarding :=
  .fresh handle.target.ns handle.pod handle.target.remotePort handle.localPort

/-- The call for a connection to a handle's port. -/
def Handle.call (handle : Handle) (connection : Nat) : Call :=
  ⟨handle.index, connection, handle.target.ns, handle.pod, handle.target.remotePort⟩

namespace System

section
variable (base : System) (handle : Handle) (count : Nat)

/-- The next connections there are, the last one first. -/
def nextConnections : List Nat := (List.range' base.connections count).reverse

/-- The tunnels once another one is open and was connected to so many times. -/
def serving : System where
  tunnels := base.tunnels ++ [{ handle.opening with relaying := base.nextConnections count }]
  connections := base.connections + count
  calls := (base.nextConnections count).map handle.call ++ base.calls

/-- The tunnels when one more connection is accepted, whose relay has not begun. -/
def accepted : System where
  tunnels := base.tunnels ++ [{ handle.opening with
    waiting := [base.connections + count], relaying := base.nextConnections count }]
  connections := base.connections + (count + 1)
  calls := (base.nextConnections count).map handle.call ++ base.calls

/-- The tunnels once it is closed. -/
def served : System where
  tunnels := base.tunnels ++ [{ handle.opening with liveness := .closed, phase := .stopped }]
  connections := base.connections + count
  calls := (base.nextConnections count).map handle.call ++ base.calls

/-- The handle is for the next tunnel, on a port that is free. -/
structure Fits : Prop where
  index_eq : handle.index = base.tunnels.length
  free : base.holdsPort handle.localPort = false

end

/-- Of all tunnels that came later, none is left: the earlier ones are as before, and the others hold
no port and relay no connection. -/
structure LeavesNothing (before after : System) : Prop where
  earlier : after.tunnels.take before.tunnels.length = before.tunnels
  stopped : ∀ forwarding ∈ after.tunnels.drop before.tunnels.length,
    forwarding.phase = .stopped ∧ forwarding.waiting = [] ∧ forwarding.relaying = []
  ports : ∀ port, after.holdsPort port = before.holdsPort port

variable {base : System} {handle : Handle} {count : Nat}

theorem nextConnections_succ :
    base.nextConnections (count + 1) = (base.connections + count) :: base.nextConnections count := by
  simp [nextConnections, List.range'_1_concat]

theorem holdsPort_of_freePort? {port : UInt16} (h : base.freePort? = some port) :
    base.holdsPort port = false := by
  rw [freePort?, Option.map_eq_some_iff] at h
  obtain ⟨i, hfind, hport⟩ := h
  have hfree := List.find?_some hfind
  rw [hport, Bool.not_eq_true'] at hfree
  exact hfree

theorem holdsPort_served (port : UInt16) :
    (base.served handle count).holdsPort port = base.holdsPort port := by
  simp [served, holdsPort, Forwarding.holdsPort]

theorem LeavesNothing.refl (system : System) : LeavesNothing system system where
  earlier := List.take_length
  stopped := by simp
  ports _ := rfl

theorem leavesNothing_served : LeavesNothing base (base.served handle count) where
  earlier := List.take_left
  stopped := by simp [served, Handle.opening, Forwarding.fresh]
  ports := holdsPort_served

namespace Fits

variable (H : base.Fits handle)
include H

theorem step_opens :
    base.step (.opens handle.target.ns handle.pod handle.target.remotePort handle.localPort) =
      base.serving handle 0 := by
  simp [step, H.free, serving, nextConnections, Handle.opening, Forwarding.fresh]

/-- The new tunnel is the one that listens on its port. -/
theorem listenerOn?_serving :
    (base.serving handle count).listenerOn? handle.localPort = some handle.index := by
  have hbase : base.listenerOn? handle.localPort = none := by
    rw [listenerOn?, List.findIdx?_eq_none_iff]
    simpa [holdsPort] using H.free
  unfold listenerOn? at hbase ⊢
  rw [serving, List.findIdx?_append, hbase, H.index_eq]
  simp [Handle.opening, Forwarding.fresh, Forwarding.holdsPort]

theorem getElem?_serving :
    (base.serving handle count).tunnels[handle.index]? =
      some { handle.opening with relaying := base.nextConnections count } := by
  simp [serving, H.index_eq]

/-- Changes of the new tunnel leave the others alone. -/
theorem modify_eq (last : Forwarding) (change : Forwarding → Forwarding) :
    (base.tunnels ++ [last]).modify handle.index change = base.tunnels ++ [change last] := by
  rw [H.index_eq, List.modify_eq_take_drop, List.take_left, List.drop_left, List.modifyHead_cons]

theorem step_connects :
    (base.serving handle count).step (.connects handle.localPort) = base.accepted handle count := by
  simp only [step, H.listenerOn?_serving]
  simp only [update, serving, accepted, H.modify_eq]
  rfl

theorem step_relayBegins :
    (base.accepted handle count).step (.relayBegins handle.index (base.connections + count)) =
      base.serving handle (count + 1) := by
  have hlast : (base.accepted handle count).tunnels[handle.index]? = some { handle.opening with
      waiting := [base.connections + count], relaying := base.nextConnections count } := by
    simp [accepted, H.index_eq]
  simp only [step, hlast, List.contains_cons, beq_self_eq_true, Bool.true_or, if_true]
  simp only [update, serving, accepted, H.modify_eq, nextConnections_succ]
  simp [Forwarding.beginRelay, Handle.call, Handle.opening, Forwarding.fresh]

/-- Every connection is accepted and relayed. -/
theorem run_connects :
    (base.serving handle count).run
        [.connects handle.localPort, .relayBegins handle.index (base.connections + count)] =
      base.serving handle (count + 1) := by
  rw [run_cons, H.step_connects, run_cons, H.step_relayBegins, run_nil]

theorem run_closes :
    (base.serving handle count).run [.closes handle.index, .halts handle.index] =
      base.served handle count := by
  simp [run, step, update, serving, served, H.modify_eq, Forwarding.release, Forwarding.halt,
    Handle.opening, Forwarding.fresh]

theorem run_drops :
    (base.serving handle 0).run [.drops handle.index, .halts handle.index] =
      base.served handle 0 :=
  H.run_closes

end Fits

end System

variable {σ : Type} {forwarder : Forwarder σ}

/-! ## Connecting -/

/-- The tunnel that a connection to a port is relayed by, where it comes about. -/
def relaying? (site : Site σ) (port : UInt16) : Option Forwarding :=
  match site.loopbackFault with
  | some _ => none
  | none => (site.system.listenerOn? port).bind (site.system.tunnels[·]?)

variable {site : Site σ} {port : UInt16}

theorem relaying?_eq_some_iff {forwarding : Forwarding} :
    relaying? site port = some forwarding ↔ site.loopbackFault = none ∧
      ∃ tunnel, site.system.listenerOn? port = some tunnel ∧
        site.system.tunnels[tunnel]? = some forwarding := by
  unfold relaying?
  cases site.loopbackFault with
  | some fault => simp
  | none => simp [Option.bind_eq_some_iff]

theorem run_dial_of_some {tunnel : Nat} {forwarding : Forwarding}
    (hfault : site.loopbackFault = none) (hlistener : site.system.listenerOn? port = some tunnel)
    (htunnel : site.system.tunnels[tunnel]? = some forwarding) (now : Nat) :
    (dial forwarder port).run now site =
      ⟨0, false,
        { site with
          system := site.system.run
            [.connects port, .relayBegins tunnel site.system.connections] },
        .ok (Line.lift (forwarder.relay forwarding.ns forwarding.pod forwarding.remotePort))⟩ := by
  simp only [dial, Timed.run_act, hfault, hlistener, htunnel]

theorem run_dial_of_none (h : relaying? site port = none) (now : Nat) :
    (dial forwarder port).run now site =
      ⟨0, false, site,
        .error (site.loopbackFault.getD "Connection refused (os error 111)")⟩ := by
  unfold relaying? at h
  simp only [dial, Timed.run_act]
  cases hfault : site.loopbackFault with
  | some fault => rfl
  | none =>
    cases hlistener : site.system.listenerOn? port with
    | none => rfl
    | some tunnel =>
      rw [hfault, hlistener] at h
      change site.system.tunnels[tunnel]? = none at h
      simp only [h]
      rfl

variable {base : System} {handle : Handle} {count : Nat} (H : base.Fits handle)
  (hfault : site.loopbackFault = none) (hsystem : site.system = base.serving handle count)
include H hfault hsystem

theorem relaying?_serving : relaying? site handle.localPort =
    some { handle.opening with relaying := base.nextConnections count } := by
  rw [relaying?_eq_some_iff, hsystem]
  exact ⟨hfault, _, H.listenerOn?_serving, H.getElem?_serving⟩

/-- A connection to the port of an open tunnel is relayed to the tunnel's pod. -/
theorem run_dial (now : Nat) :
    (dial forwarder handle.localPort).run now site =
      ⟨0, false, { site with system := base.serving handle (count + 1) },
        .ok (Line.lift
          (forwarder.relay handle.target.ns handle.pod handle.target.remotePort))⟩ := by
  have hlistener : site.system.listenerOn? handle.localPort = some handle.index := by
    rw [hsystem, H.listenerOn?_serving]
  have htunnel : site.system.tunnels[handle.index]? =
      some { handle.opening with relaying := base.nextConnections count } := by
    rw [hsystem, H.getElem?_serving]
  rw [run_dial_of_some hfault hlistener htunnel, hsystem, ← H.run_connects]
  rfl

end IndexWatch.Tunnel
