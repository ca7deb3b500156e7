import IndexWatch.Proofs.Catalog.Exchange
import IndexWatch.Proofs.Catalog.Relay
import IndexWatch.Proofs.Network.Stack

/-! # What a query sends

A peer that is `overheard` writes down the requests that are sent to it, and how they travel. By
`follows_askOver_overheard`, a query sends one request at most over a connection, `sendsOver`. Where
the stack of a query with a client verifies by some trust, requests are sent encrypted, and only to
peers that the client trusts; it is answered only by those that it `Agrees` with, `of_passage`. -/

namespace IndexWatch

open Timed

/-- A request that was sent to a peer. -/
structure Sent where
  transport : Transport
  bytes : Http.Bytes

variable {σ : Type}

/-- The same peer, where the requests that it gets are written down. -/
def Peer.overheard (peer : Peer σ) : Peer (Recorded Sent σ) where
  tls := peer.tls
  respond transport request :=
    Recorded.noting ⟨transport, request⟩ (peer.respond transport request)

/-- The same line, where the requests to its far end are written down. -/
def Line.overheard (line : Line σ) : Timed (Recorded Sent σ) (Answer (Peer (Recorded Sent σ))) := do
  match ← (Recorded.lift line : Timed (Recorded Sent σ) _) with
  | .never => return .never
  | .given peer => return .given peer.overheard

namespace Tls.Client

/-- The certificates that a server shows are issued under the client's roots and are for the host. -/
structure Trusts (trust : Network.Trust) (client : Tls.Client) (server : Tls.Server) : Prop where
  issued : trust.IssuedUnder client.roots server.chain
  isFor : trust.IsFor server.chain "localhost"

/-- The client trusts the peer, and the peer lets the client in. -/
def Agrees (trust : Network.Trust) (client : Tls.Client) (peer : Peer σ) : Prop :=
  ∃ server, peer.tls = some server ∧ client.Trusts trust server ∧
    server.judges client.chain = .admitted

/-- The client trusts the peer, and the peer does not let it in but tells so only once it has sent
its request. -/
def IsUnheard (trust : Network.Trust) (client : Tls.Client) (peer : Peer σ) : Prop :=
  ∃ server reason, peer.tls = some server ∧ client.Trusts trust server ∧
    server.judges client.chain = .unheard reason

end Tls.Client

/-! ## What a query sends -/

namespace Catalog.Query

section
variable (stack : Network.Stack) (query : Query) (now : Nat)

def sends (peer : Peer σ) : List (Nat × Sent) :=
  match query.passage stack now peer with
  | .error _ => []
  | .ok passage => [(now, ⟨passage.transport, query.request⟩)]

/-- What a query sends over a connection that is opened at `now`. -/
def sendsOver (line : Line σ) (world : σ) : List (Nat × Sent) :=
  match (line.run now world).value with
  | .never => []
  | .given peer => query.sends stack (now + (line.run now world).took) peer

end

variable {stack : Network.Stack} {trust : Network.Trust} {query : Query} {client : Tls.Client}

/-- With a client, requests are sent encrypted, and to peers that it trusts. -/
theorem of_passage (H : stack.Verifies trust) (htls : query.tls = some client) {now : Nat}
    {peer : Peer σ} {passage : Passage} (h : query.passage stack now peer = .ok passage) :
    passage.transport = .encrypted ∧
      (passage.refusal = none ∧ client.Agrees trust peer ∨
        passage.refusal ≠ none ∧ client.IsUnheard trust peer) := by
  obtain ⟨hencrypted, server, hserver, hverified, hjudged⟩ := of_passage_of_client htls h
  have htrusts : client.Trusts trust server := ⟨H.issued hverified, H.isFor hverified⟩
  refine ⟨hencrypted, ?_⟩
  rcases hjudged with ⟨hopen, hadmitted⟩ | ⟨reason, hrefusal, hunheard⟩
  · exact .inl ⟨hopen, server, hserver, htrusts, hadmitted⟩
  · exact .inr ⟨by simp [hrefusal], server, reason, hserver, htrusts, hunheard⟩

theorem follows_ask_overheard (peer : Peer σ) :
    Recorded.Follows Site.recorded (query.ask stack peer.overheard.lift)
      (query.ask stack peer.lift) fun now _ => query.sends stack now peer := by
  have hrespond (transport : Transport) :
      Recorded.Follows Site.recorded (peer.overheard.lift.respond transport query.request)
        (peer.lift.respond transport query.request)
        fun now _ => [(now, ⟨transport, query.request⟩)] :=
    Site.follows_lift (Recorded.follows_noting _ _)
  have hpassage (now : Nat) : query.passage stack now peer.overheard.lift =
      query.passage stack now peer ∧ query.passage stack now peer.lift =
        query.passage stack now peer := ⟨rfl, rfl⟩
  let sent (asked now : Nat) (_ : Site σ) : List (Nat × Sent) :=
    match query.passage stack asked peer with
    | .error _ => []
    | .ok passage => [(now, ⟨passage.transport, query.request⟩)]
  unfold ask
  refine Recorded.follows_now.bind fun now => (?_ : Recorded.Follows _ _ _ (sent now))
  rw [(hpassage now).1, (hpassage now).2]
  unfold sent
  cases query.passage stack now peer with
  | error reason => exact Recorded.follows_pure _
  | ok passage =>
    refine (hrespond passage.transport).bind_quiet fun arrived => ?_
    cases arrived <;> exact Recorded.follows_pure _

theorem askOver_overheard (line : Line σ) :
    query.askOver stack (Line.lift (Line.overheard line)) =
      overNetwork (Site.lift (Recorded.lift line) >>= fun reached =>
        match reached with
        | .never => pure .never
        | .given peer => query.ask stack peer.overheard.lift) := by
  rw [askOver_lift, Line.overheard, Site.lift_bind, bind_assoc]
  refine congrArg (fun next => overNetwork (Site.lift (Recorded.lift line) >>= next))
    (funext fun reached => ?_)
  cases reached with
  | never => exact pure_bind Answer.never (query.askReached stack)
  | given peer => exact pure_bind (Answer.given peer.overheard) (query.askReached stack)

theorem follows_askOver_overheard (line : Line σ) :
    Recorded.Follows Site.recorded (query.askOver stack (Line.lift (Line.overheard line)))
      (query.askOver stack (Line.lift line))
      fun now site => query.sendsOver stack now line site.outside := by
  rw [askOver_overheard, askOver_lift]
  have hreach := Site.follows_lift (Recorded.follows_lift (ε := Sent) line)
  let sent (reached : Answer (Peer σ)) (now : Nat) (_ : Site σ) : List (Nat × Sent) :=
    match reached with
    | .never => []
    | .given peer => query.sends stack now peer
  have hask (reached : Answer (Peer σ)) :
      Recorded.Follows Site.recorded
        (match reached with
        | .never => pure .never
        | .given peer => query.ask stack peer.overheard.lift)
        (query.askReached stack reached) (sent reached) := by
    cases reached with
    | never => exact Recorded.follows_pure _
    | given peer => exact follows_ask_overheard peer
  exact (hreach.bind hask).overNetwork

section
variable (H : stack.Verifies trust) (htls : query.tls = some client) {line : Line σ} {now : Nat}
  {world : σ}
include H htls

/-- A request that is sent over a connection is encrypted, and it is sent to a peer that the client
trusts. -/
theorem of_mem_sendsOver {message : Nat × Sent}
    (h : message ∈ query.sendsOver stack now line world) :
    message.2.transport = .encrypted ∧
      ∃ peer, (line.run now world).value = .given peer ∧
        (client.Agrees trust peer ∨ client.IsUnheard trust peer) := by
  unfold sendsOver at h
  cases hreached : (line.run now world).value with
  | never => simp [hreached] at h
  | given peer =>
    simp only [hreached, sends] at h
    cases hpassage : query.passage stack (now + (line.run now world).took) peer with
    | error reason => simp [hpassage] at h
    | ok passage =>
      simp only [hpassage, List.mem_singleton] at h
      obtain ⟨hencrypted, hpeer⟩ := of_passage H htls hpassage
      rw [h]
      exact ⟨hencrypted, peer, rfl, hpeer.imp And.right And.right⟩

end

theorem of_value_lift {line : Line σ} {now : Nat} {site : Site σ} {seen : Peer (Site σ)}
    (h : ((Line.lift line).run now site).value = .given seen) :
    ∃ peer, (line.run now site.outside).value = .given peer ∧ seen = peer.lift := by
  simp only [Line.lift, run_bind, Site.run_lift] at h
  cases hreached : (line.run now site.outside).value with
  | never =>
    rw [hreached] at h
    cases h
  | given peer =>
    rw [hreached] at h
    cases h
    exact ⟨peer, rfl, rfl⟩

end Catalog.Query

end IndexWatch
