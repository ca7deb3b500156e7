import IndexWatch.Http.Response
import IndexWatch.Network.Tls
import IndexWatch.Timed

/-! The far end of a connection. -/

namespace IndexWatch

/-- How a request travels. -/
inductive Transport where
  | plain
  | encrypted
deriving DecidableEq

/-- What is at the far end of a connection in a world. -/
structure Peer (σ : Type) where
  /-- What it shows when it speaks TLS. -/
  tls : Option Tls.Server
  /-- What arrives, until the connection is closed, once a request has been sent; perhaps nothing
  ever does. A peer that speaks TLS is sent requests in the clear all the same. -/
  respond : Transport → Http.Bytes → Timed σ (Timed.Answer Http.Bytes)

/-- A connection that has been opened: its far end, once it is reached. -/
abbrev Line (σ : Type) := Timed σ (Timed.Answer (Peer σ))

/-- Opens a connection to a local port, or tells why that cannot be. -/
abbrev Dial (σ : Type) := UInt16 → Timed σ (Except String (Line σ))

end IndexWatch
