/-! Tunnels at work: listeners, accepted connections and their relays.

A `System` holds every tunnel that was ever opened, and the calls that relays made. Each event is one
step of one of the parties: a client connects, a relay begins or ends, an owner closes or drops a
tunnel, or a tunnel that was told to stop does stop. Events that cannot happen change nothing. -/

namespace IndexWatch.Tunnel

inductive Liveness where
  | opened
  | closed
deriving DecidableEq

def Liveness.name : Liveness → String
  | opened => "Open"
  | closed => "Closed"

/-- What a tunnel's accept loop is at. -/
inductive Phase where
  | accepting
  /-- It was told to stop, and has not stopped yet. -/
  | stopping
  | stopped
deriving DecidableEq

/-- A tunnel that was opened: where it leads, what its owner sees, and what runs in it. -/
structure Forwarding where
  ns : String
  pod : String
  remotePort : UInt16
  localPort : UInt16
  liveness : Liveness
  phase : Phase
  /-- Accepted connections whose relay has not begun. -/
  waiting : List Nat
  /-- Connections that are being relayed. -/
  relaying : List Nat
deriving DecidableEq

namespace Forwarding

/-- A tunnel that has just been opened. -/
def fresh (ns pod : String) (remotePort localPort : UInt16) : Forwarding where
  ns := ns
  pod := pod
  remotePort := remotePort
  localPort := localPort
  liveness := .opened
  phase := .accepting
  waiting := []
  relaying := []

/-- The port is taken until the accept loop has stopped. -/
def holdsPort (forwarding : Forwarding) : Bool := forwarding.phase != .stopped

/-- The owner gives the tunnel up; only the first time does anything. -/
def release (forwarding : Forwarding) : Forwarding :=
  match forwarding.liveness with
  | .closed => forwarding
  | .opened => { forwarding with
      liveness := .closed
      phase := if forwarding.phase = .accepting then .stopping else forwarding.phase }

/-- A tunnel that was told to stop does so: nothing is accepted or relayed any more. -/
def halt (forwarding : Forwarding) : Forwarding :=
  match forwarding.phase with
  | .stopping => { forwarding with phase := .stopped, waiting := [], relaying := [] }
  | _ => forwarding

def accept (forwarding : Forwarding) (connection : Nat) : Forwarding :=
  { forwarding with waiting := connection :: forwarding.waiting }

def beginRelay (forwarding : Forwarding) (connection : Nat) : Forwarding :=
  { forwarding with
    waiting := forwarding.waiting.erase connection
    relaying := connection :: forwarding.relaying }

def endRelay (forwarding : Forwarding) (connection : Nat) : Forwarding :=
  { forwarding with relaying := forwarding.relaying.erase connection }

end Forwarding

/-- A call that a relay made to have a connection forwarded. -/
structure Call where
  tunnel : Nat
  connection : Nat
  ns : String
  pod : String
  remotePort : UInt16
deriving DecidableEq

/-- All tunnels in the order of their opening, how many connections there were, and the calls made,
the last one first. -/
structure System where
  tunnels : List Forwarding
  connections : Nat
  calls : List Call
deriving DecidableEq

inductive Event where
  | opens (ns pod : String) (remotePort localPort : UInt16)
  | connects (port : UInt16)
  | relayBegins (tunnel connection : Nat)
  /-- The relay ends, failing or not. -/
  | relayEnds (tunnel connection : Nat) (failed : Bool)
  | closes (tunnel : Nat)
  | drops (tunnel : Nat)
  | halts (tunnel : Nat)
deriving DecidableEq

namespace System

def empty : System := ⟨[], 0, []⟩

/-- Whether a tunnel takes a local port. -/
def holdsPort (system : System) (port : UInt16) : Bool :=
  system.tunnels.any fun forwarding => forwarding.holdsPort && forwarding.localPort == port

/-- The tunnel that listens on a port. -/
def listenerOn? (system : System) (port : UInt16) : Option Nat :=
  system.tunnels.findIdx? fun forwarding => forwarding.holdsPort && forwarding.localPort == port

/-- Changes one tunnel. -/
def update (system : System) (tunnel : Nat) (change : Forwarding → Forwarding) : System :=
  { system with tunnels := system.tunnels.modify tunnel change }

def step (system : System) : Event → System
  | .opens ns pod remotePort localPort =>
    if system.holdsPort localPort then system
    else { system with tunnels := system.tunnels ++ [.fresh ns pod remotePort localPort] }
  | .connects port =>
    match system.listenerOn? port with
    | none => system
    | some tunnel =>
      { system.update tunnel (·.accept system.connections) with
        connections := system.connections + 1 }
  | .relayBegins tunnel connection =>
    match system.tunnels[tunnel]? with
    | none => system
    | some forwarding =>
      if forwarding.waiting.contains connection then
        { system.update tunnel (·.beginRelay connection) with
          calls := ⟨tunnel, connection, forwarding.ns, forwarding.pod, forwarding.remotePort⟩ ::
            system.calls }
      else system
  | .relayEnds tunnel connection _ => system.update tunnel (·.endRelay connection)
  | .closes tunnel => system.update tunnel Forwarding.release
  | .drops tunnel => system.update tunnel Forwarding.release
  | .halts tunnel => system.update tunnel Forwarding.halt

def run (system : System) (events : List Event) : System := events.foldl step system

@[simp] theorem run_nil (system : System) : system.run [] = system := rfl

@[simp] theorem run_cons (system : System) (event : Event) (events : List Event) :
    system.run (event :: events) = (system.step event).run events := rfl

theorem run_append (system : System) (events more : List Event) :
    system.run (events ++ more) = (system.run events).run more := List.foldl_append ..

/-- What the owner of a tunnel sees. -/
def liveness? (system : System) (tunnel : Nat) : Option Liveness :=
  system.tunnels[tunnel]?.map Forwarding.liveness

/-- The ports that are given out when any will do. -/
def firstPort : Nat := 32768

def portCount : Nat := 28232

/-- A port that is free; those that were not used yet come first. -/
def freePort? (system : System) : Option UInt16 :=
  let offset := system.tunnels.length
  ((List.range portCount).find? fun i =>
    !system.holdsPort (.ofNat (firstPort + (offset + i) % portCount))).map fun i =>
      .ofNat (firstPort + (offset + i) % portCount)

end System

end IndexWatch.Tunnel
