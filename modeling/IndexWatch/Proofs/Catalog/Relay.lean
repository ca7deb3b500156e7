import IndexWatch.Catalog.Query
import IndexWatch.Proofs.Tunnel.Serving

/-! # Queries through a tunnel

A query dials the port it is for and asks what it reaches there. On a port that a tunnel listens on,
this adds one connection and one call, and the rest of the query acts outside of the machine.
`follows_hasEntry` says the same of what is asked of the far end: one connection to the tunnel's pod,
and none where nothing is reached on the port. -/

namespace IndexWatch.Catalog.Query

open Timed Tunnel

variable {ε σ : Type} {stack : Network.Stack} {query : Query}

/-- What a query makes of the far end of a connection, as it is seen at a site. -/
def askReached (stack : Network.Stack) (query : Query) (reached : Answer (Peer σ)) :
    Timed (Site σ) (Answer (Except String String)) :=
  match reached with
  | .never => pure .never
  | .given peer => query.ask stack peer.lift

theorem askOver_lift (line : Line σ) :
    query.askOver stack (Line.lift line) =
      overNetwork (Site.lift line >>= query.askReached stack) := by
  simp only [askOver, Line.lift, bind_assoc]
  refine congrArg (fun next => overNetwork (Site.lift line >>= next)) (funext fun reached => ?_)
  cases reached <;> simp [askReached]

theorem askOver_recorded (entry : ε) (line : Line σ) :
    query.askOver stack (Line.lift (Line.recorded entry line)) =
      overNetwork (Site.lift (Recorded.noting entry line) >>= fun reached =>
        match reached with
        | .never => pure .never
        | .given peer => query.ask stack peer.recorded.lift) := by
  rw [askOver_lift, Line.recorded, Site.lift_bind, bind_assoc]
  refine congrArg (fun next => overNetwork (Site.lift (Recorded.noting entry line) >>= next))
    (funext fun reached => ?_)
  cases reached with
  | never => exact pure_bind Answer.never (query.askReached stack)
  | given peer => exact pure_bind (Answer.given peer.recorded) (query.askReached stack)

theorem follows_ask (peer : Peer σ) :
    Recorded.Follows (Site.recorded (ε := ε)) (query.ask stack peer.recorded.lift)
      (query.ask stack peer.lift) fun _ _ => [] := by
  have hrespond (transport : Transport) :
      Recorded.Follows (Site.recorded (ε := ε))
        (peer.recorded.lift.respond transport query.request)
        (peer.lift.respond transport query.request) fun _ _ => [] :=
    Site.follows_lift (Recorded.follows_lift (peer.respond transport query.request))
  have hpassage (now : Nat) : query.passage stack now (peer.recorded (ε := ε)).lift =
      query.passage stack now peer.lift := rfl
  unfold ask
  refine Recorded.follows_now.bind_quiet fun now => ?_
  rw [hpassage]
  cases query.passage stack now peer.lift with
  | error reason => exact Recorded.follows_pure _
  | ok passage =>
    refine (hrespond passage.transport).bind_quiet fun arrived => ?_
    cases arrived <;> exact Recorded.follows_pure _

/-- What is asked over a connection is written down once. -/
theorem follows_askOver (entry : ε) (line : Line σ) :
    Recorded.Follows Site.recorded (query.askOver stack (Line.lift (Line.recorded entry line)))
      (query.askOver stack (Line.lift line)) fun now _ => [(now, entry)] := by
  rw [askOver_recorded, askOver_lift]
  have hreach := Site.follows_lift (Recorded.follows_noting entry line)
  refine (hreach.bind_quiet fun reached => ?_).overNetwork
  cases reached with
  | never => exact Recorded.follows_pure _
  | given peer => exact follows_ask peer

theorem actsOutside_askOver (line : Line σ) :
    Site.ActsOutside (query.askOver stack (Line.lift line)) := by
  have hask (peer : Peer σ) : Site.ActsOutside (query.ask stack peer.lift) := by
    unfold ask
    refine Site.actsOutside_now.bind fun now => ?_
    cases query.passage stack now peer.lift with
    | error reason => exact Site.actsOutside_pure _
    | ok passage =>
      refine (Site.actsOutside_lift (peer.respond passage.transport query.request)).bind
        fun arrived => ?_
      cases arrived <;> exact Site.actsOutside_pure _
  rw [askOver_lift]
  refine ((Site.actsOutside_lift line).bind fun reached => ?_).overNetwork
  cases reached with
  | never => exact Site.actsOutside_pure _
  | given peer => exact hask peer

/-! ## The whole query -/

section
variable {dial : Dial σ} {now : Nat} {world : σ}

theorem run_dialling_of_instant {after : σ} {opened : Except String (Line σ)} (limit : Nat)
    (h : (dial query.localPort).run now world = ⟨0, false, after, opened⟩) :
    (within limit (Functor.map (f := Timed σ) .given (dial query.localPort))).run now world =
      ⟨0, false, after, some opened⟩ := by
  refine run_within_of_instant limit ?_
  rw [run_map, h]

theorem run_fetchText_of_refused {reason : String}
    (h : (dial query.localPort).run now world = ⟨0, false, world, .error reason⟩) :
    (query.fetchText stack dial).run now world =
      ⟨0, false, world, .error ("connection failed: " ++ reason)⟩ := by
  simp [fetchText, run_dialling_of_instant _ h]

theorem run_fetchText_of_connected {connected : σ} {line : Line σ}
    (h : (dial query.localPort).run now world = ⟨0, false, connected, .ok line⟩) :
    (query.fetchText stack dial).run now world =
      (query.fetchOver stack (Clock.deadline now query.requestTimeout) line).run now connected := by
  simp [fetchText, run_dialling_of_instant _ h]

end

/-- Where there is time, what is asked over a connection is written down. -/
theorem run_fetchOver_recorded {line' : Line (Site (Recorded ε σ))} {line : Line (Site σ)}
    {entries : Nat → Site σ → List (Nat × ε)}
    (H : Recorded.Follows Site.recorded (query.askOver stack line') (query.askOver stack line)
      entries)
    {limit now : Nat} (h : now < Clock.ceilMilli limit) (record : List (Nat × ε))
    (site : Site σ) :
    (query.fetchOver stack limit line').run now (Site.recorded record site) =
      ((query.fetchOver stack limit line).run now site).mapWorld
        (Site.recorded (record ++ entries now site)) := by
  have hover : Recorded.Follows Site.recorded (query.fetchOver stack limit line')
      (query.fetchOver stack limit line) fun now site =>
        if now = max now (Clock.ceilMilli limit) ∧
          ((query.askOver stack line).run now site).traffic then [] else entries now site :=
    (H.within limit).bind_quiet fun result => by
      cases result <;> exact Recorded.follows_pure _
  have hbusy : ¬ (now = max now (Clock.ceilMilli limit) ∧
      ((query.askOver stack line).run now site).traffic) := by
    rintro ⟨hidle, _⟩
    omega
  have hrun := hover now record site
  simp only [if_neg hbusy] at hrun
  exact hrun

/-! ## What a query leaves -/

theorem world_hasEntry {dial : Dial σ} {now : Nat} {world : σ} :
    (Timed.run (query.hasEntry dial stack) now world).world =
      ((query.fetchText stack dial).run now world).world := by
  have hfetch : (Timed.run (query.fetch dial stack) now world).world =
      ((query.fetchText stack dial).run now world).world := by
    simp only [fetch, Attempt.ofTimed, ExceptT.mk, run_bind]
    cases ((query.fetchText stack dial).run now world).value <;> rfl
  rw [← hfetch, hasEntry]
  cases h : (Timed.run (query.fetch dial stack) now world).value with
  | error e => rw [Attempt.run_bind_error h]
  | ok text =>
    rw [Attempt.run_bind_ok h]
    rfl

theorem actsOutside_fetchOver (limit : Nat) (line : Line σ) :
    Site.ActsOutside (query.fetchOver stack limit (Line.lift line)) :=
  ((actsOutside_askOver line).within limit).bind fun result => by
    cases result <;> exact Site.actsOutside_pure _

section
variable {forwarder : Forwarder σ} {base : System} {handle : Handle} {count : Nat} {site : Site σ}

/-- A query opens one connection to the tunnel on its port, and it is relayed once. -/
theorem world_hasEntry_of_serving (H : base.Fits handle)
    (hport : query.localPort = handle.localPort) (hfault : site.loopbackFault = none)
    (hsystem : site.system = base.serving handle count) (now : Nat) :
    ∃ outside, (Timed.run (query.hasEntry (dial forwarder) stack) now site).world =
      { site with system := base.serving handle (count + 1), outside } := by
  have hdial : (dial forwarder handle.localPort).run now site = _ := run_dial H hfault hsystem now
  rw [← hport] at hdial
  rw [world_hasEntry, run_fetchText_of_connected hdial]
  exact actsOutside_fetchOver _ _ now { site with system := base.serving handle (count + 1) }

/-- Where no connection comes about, a query leaves all as it is. -/
theorem world_hasEntry_of_fault {fault : String} (h : site.loopbackFault = some fault) (now : Nat) :
    (Timed.run (query.hasEntry (dial forwarder) stack) now site).world = site := by
  have hrelaying : relaying? site query.localPort = none := by
    simp [relaying?, h]
  rw [world_hasEntry, run_fetchText_of_refused (run_dial_of_none hrelaying now)]

end

/-! ## What a query asks -/

section
variable {forwarder : Forwarder σ} {forwarder' : Forwarder (Recorded ε σ)}
  {entries : String → String → UInt16 → Nat → σ → List (Nat × ε)}

/-- What is written down about a connection to a port, from what is about one that is relayed. -/
def relayEntries (entries : String → String → UInt16 → Nat → σ → List (Nat × ε)) (port : UInt16)
    (now : Nat) (site : Site σ) : List (Nat × ε) :=
  match relaying? site port with
  | none => []
  | some forwarding =>
    entries forwarding.ns forwarding.pod forwarding.remotePort now site.outside

/-- A query that has some time asks over one connection, to the tunnel that listens on its port. -/
theorem follows_hasEntry
    (hrelay : ∀ ns pod port, Recorded.Follows Site.recorded
      (query.askOver stack (Line.lift (forwarder'.relay ns pod port)))
      (query.askOver stack (Line.lift (forwarder.relay ns pod port)))
      fun now site => entries ns pod port now site.outside)
    (hpatient : 0 < query.requestTimeout.nanos) :
    Recorded.Follows Site.recorded (query.hasEntry (dial forwarder') stack).run
      (query.hasEntry (dial forwarder) stack).run (relayEntries entries query.localPort) := by
  have htext : Recorded.Follows Site.recorded (query.fetchText stack (dial forwarder'))
      (query.fetchText stack (dial forwarder)) (relayEntries entries query.localPort) := by
    intro now record site
    unfold relayEntries
    cases hrelaying : relaying? site query.localPort with
    | none =>
      have hrecorded : relaying? (Site.recorded record site) query.localPort = none := hrelaying
      rw [run_fetchText_of_refused (run_dial_of_none hrelaying now),
        run_fetchText_of_refused (run_dial_of_none hrecorded now), List.append_nil]
      rfl
    | some forwarding =>
      obtain ⟨hfault, tunnel, hlistener, htunnel⟩ := relaying?_eq_some_iff.mp hrelaying
      have hfault' : (Site.recorded record site).loopbackFault = none := hfault
      rw [run_fetchText_of_connected (run_dial_of_some hfault hlistener htunnel now),
        run_fetchText_of_connected (run_dial_of_some hfault' hlistener htunnel now)]
      have hlimit : now < Clock.ceilMilli (Clock.deadline now query.requestTimeout) :=
        Nat.lt_of_lt_of_le (Clock.lt_deadline now hpatient) (Clock.le_ceilMilli _)
      exact run_fetchOver_recorded (hrelay _ _ _) hlimit record
        { site with
          system := site.system.run
            [.connects query.localPort, .relayBegins tunnel site.system.connections] }
  have hfetch : Recorded.Follows Site.recorded (query.fetch (dial forwarder') stack).run
      (query.fetch (dial forwarder) stack).run (relayEntries entries query.localPort) :=
    htext.bind_quiet fun text => by cases text <;> exact Recorded.follows_pure _
  exact hfetch.attempt_quiet fun _ => Recorded.follows_pure _

end

end IndexWatch.Catalog.Query
