import IndexWatch.Proofs.Tunnel.Books

/-! # Tunnels whatever happens when

Tunnels are opened, connected to, closed and dropped in any order, and their relays begin and end when
they do. `orderly` says what holds then of every tunnel, after any `past` and in any `future`: nothing
but its own close or drop makes it stop accepting or ends a relay that has not ended itself, each
connection it accepts is called for at most once, and once a call to close it has returned, its port is
free and nothing of it is left or comes back. -/

namespace IndexWatch.Tunnel

/-- A call to close a tunnel begins with the first of these events and returns with the last: the
tunnel is told to stop, and then it halts. -/
def CloseReturns (tunnel : Nat) (future : List Event) : Prop :=
  ∃ during, .halts tunnel ∉ during ∧ future = .closes tunnel :: (during ++ [.halts tunnel])

section
variable (past future : List Event)

/-- How a tunnel that is `now` there after `past` is `left` by any `future`. -/
structure Kept (tunnel : Nat) (now left : Forwarding) : Prop where
  place_eq : left.place = now.place
  closed_iff : left.liveness = .closed ↔
    now.liveness = .closed ∨ .closes tunnel ∈ future ∨ .drops tunnel ∈ future
  /-- Closing a tunnel again, or dropping it, changes nothing. -/
  closed_again : left.liveness = .closed →
    (after (past ++ future)).step (.closes tunnel) = after (past ++ future) ∧
      (after (past ++ future)).step (.drops tunnel) = after (past ++ future)
  /-- A tunnel that is not itself closed or dropped accepts the connections to its port. -/
  accepts : left.liveness = .opened →
    (after (past ++ future)).listenerOn? now.localPort = some tunnel
  /-- Until it stops, all its relays are alive but those that have ended themselves. -/
  alive : left.phase ≠ .stopped →
    (left.waiting ++ left.relaying ++ ofTunnel tunnel (endings (past ++ future))).Perm
      (ofTunnel tunnel (acceptances (past ++ future)))
  /-- Only a tunnel that was closed or dropped stops. Nothing is alive in it then, it makes no calls
  any more, and stays as it is. -/
  stopped : left.phase = .stopped → left.liveness = .closed ∧ left.waiting = [] ∧
    left.relaying = [] ∧ ∀ more, (after (past ++ future ++ more)).tunnels[tunnel]? = some left ∧
      (books (past ++ future ++ more) tunnel).called = (books (past ++ future) tunnel).called
  /-- A relay that first runs while the tunnel is open makes the call for its connection. -/
  begins : now.liveness = .opened → ∀ connection more, (tunnel, connection) ∈ acceptances past →
    future = .relayBegins tunnel connection :: more →
      ((after (past ++ future)).calls.map Call.connection).count connection = 1 ∧
        now.call tunnel connection ∈ (after (past ++ future)).calls
  /-- When a call to close it has returned, it has stopped and its port is free. -/
  closes : now.liveness = .opened → CloseReturns tunnel future →
    left.phase = .stopped ∧ (after (past ++ future)).holdsPort now.localPort = false

/-- What holds of all tunnels after `past` and any `future`. -/
structure Orderly : Prop where
  /-- A tunnel is opened on a port that is free, and is open then. -/
  opened : ∀ ns pod remotePort localPort, (after past).holdsPort localPort = false →
    (after (past ++ [.opens ns pod remotePort localPort])).tunnels[(after past).tunnels.length]? =
      some (.fresh ns pod remotePort localPort)
  accepted_once : ((acceptances (past ++ future)).map Prod.snd).Nodup
  called_once : ((after (past ++ future)).calls.map Call.connection).Nodup
  /-- A call is for a connection that its tunnel accepted, and for where the tunnel leads. -/
  called_own : ∀ call ∈ (after (past ++ future)).calls,
    (call.tunnel, call.connection) ∈ acceptances (past ++ future) ∧
      ∃ forwarding, (after (past ++ future)).tunnels[call.tunnel]? = some forwarding ∧
        call = forwarding.call call.tunnel call.connection
  kept : ∀ tunnel now, (after past).tunnels[tunnel]? = some now →
    ∃ left, (after (past ++ future)).tunnels[tunnel]? = some left ∧ Kept past future tunnel now left

end

theorem consistent_after (history : List Event) : (after history).Consistent :=
  System.consistent_empty.run history

section
variable {history : List Event} {tunnel : Nat} {forwarding : Forwarding}
  (h : (after history).tunnels[tunnel]? = some forwarding)
include h

theorem getElem?_after (future : List Event) :
    (after (history ++ future)).tunnels[tunnel]? =
      some ((after history).turns tunnel future forwarding) := by
  rw [after, System.run_append]
  exact System.getElem?_run h future

theorem stopped_books_iff : (books history tunnel).stopped = true ↔ forwarding.phase = .stopped := by
  simp [books, System.part_of_some h]

theorem stopped_books_eq_false_iff :
    (books history tunnel).stopped = false ↔ forwarding.phase ≠ .stopped := by
  simp [books, System.part_of_some h]

theorem step_of_closed (hclosed : forwarding.liveness = .closed) :
    (after history).step (.closes tunnel) = after history ∧
      (after history).step (.drops tunnel) = after history := by
  have hsame : (after history).update tunnel Forwarding.release = after history :=
    System.update_eq_self h (Forwarding.release_of_closed hclosed)
  exact ⟨hsame, hsame⟩

theorem alive_of_not_stopped (hgoes : forwarding.phase ≠ .stopped) :
    (forwarding.waiting ++ forwarding.relaying ++ ofTunnel tunnel (endings history)).Perm
      (ofTunnel tunnel (acceptances history)) := by
  have H := (balanced_books history tunnel).alive ((stopped_books_eq_false_iff h).mpr hgoes)
  simpa only [books, System.part_of_some h] using H

theorem stays_of_stopped (hstopped : forwarding.phase = .stopped) (more : List Event) :
    (after (history ++ more)).tunnels[tunnel]? = some forwarding ∧
      (books (history ++ more) tunnel).called = (books history tunnel).called := by
  induction more using List.reverseRecOn with
  | nil => exact ⟨by rwa [List.append_nil], by rw [List.append_nil]⟩
  | append_singleton more event ih =>
    obtain ⟨hthere, hcalled⟩ := ih
    have hsteady := (consistent_after (history ++ more)).steady hthere
    rw [← List.append_assoc, after_concat, System.getElem?_step hthere,
      System.turn_of_stopped hthere hsteady hstopped]
    refine ⟨rfl, ?_⟩
    rw [← hcalled]
    exact (entry_books (history ++ more) event tunnel).called_of_stopped
      (balanced_books (history ++ more) tunnel) ((stopped_books_iff hthere).mpr hstopped)

/-- What is alive in an open tunnel has been called for or waits to be. -/
theorem called_of_begins {connection : Nat} (hopened : forwarding.liveness = .opened)
    (haccepted : (tunnel, connection) ∈ acceptances history) :
    forwarding.call tunnel connection ∈
      ((after history).step (.relayBegins tunnel connection)).calls := by
  have hphase : forwarding.phase = .accepting :=
    ((consistent_after history).steady h).opened_iff.mp hopened
  have hgoes : (books history tunnel).stopped = false :=
    (stopped_books_eq_false_iff h).mpr (by simp [hphase])
  have hall := (balanced_books history tunnel).all_called hgoes
  rw [System.calls_step, List.mem_append]
  -- An open tunnel has lost nothing: the connection waits still, or its call was made before.
  rcases List.mem_append.mp (hall.mem_iff.mpr (mem_ofTunnel.mpr haccepted)) with hwaits | hcalled
  · have hwaits : connection ∈ forwarding.waiting := by
      simpa [books, System.part_of_some h] using hwaits
    exact .inl (by simp [System.call?, h, hwaits])
  · obtain ⟨call, hcall, hsubject⟩ := List.mem_map.mp (mem_ofTunnel.mp hcalled)
    obtain ⟨forwarding', hthere, hown⟩ := exists_of_mem_calls hcall
    simp only [Call.subject, Prod.mk.injEq] at hsubject
    rw [hsubject.1, h] at hthere
    cases hthere
    rw [hsubject.1, hsubject.2] at hown
    exact .inr (hown ▸ hcall)

omit h

/-- A call to close an open tunnel returns once it has stopped, and its port is free then. -/
theorem stopped_of_closeReturns (h : (after history).tunnels[tunnel]? = some forwarding)
    (hopened : forwarding.liveness = .opened) {future : List Event}
    (hreturns : CloseReturns tunnel future) :
    (∃ left, (after (history ++ future)).tunnels[tunnel]? = some left ∧ left.phase = .stopped) ∧
      (after (history ++ future)).holdsPort forwarding.localPort = false := by
  obtain ⟨during, hduring, rfl⟩ := hreturns
  have hphase : forwarding.phase = .accepting :=
    ((consistent_after history).steady h).opened_iff.mp hopened
  let told := (after history).turns tunnel (.closes tunnel :: during) forwarding
  have hstopping : told.phase = .stopping := by
    let released := (after history).turn tunnel (.closes tunnel) forwarding
    have hreleased : released.phase = .stopping := by
      simp [released, System.turn, Forwarding.release, hopened, hphase]
    change (((after history).step (.closes tunnel)).turns tunnel during released).phase = .stopping
    exact System.phase_turns_of_stopping hreleased hduring
  have htold : (after (history ++ .closes tunnel :: during)).tunnels[tunnel]? = some told :=
    getElem?_after h _
  have hport : told.localPort = forwarding.localPort := congrArg (·.2.2.2) (System.place_turns _)
  rw [← List.cons_append, ← List.append_assoc, after_concat]
  refine ⟨⟨_, System.getElem?_step htold _, ?_⟩, ?_⟩
  · simp [System.turn, Forwarding.halt, hstopping]
  · rw [← hport]
    exact (consistent_after _).holdsPort_halts htold hstopping

theorem kept (past future : List Event) {now left : Forwarding}
    (h : (after past).tunnels[tunnel]? = some now)
    (hleft : (after (past ++ future)).tunnels[tunnel]? = some left) :
    Kept past future tunnel now left := by
  have hturns : left = (after past).turns tunnel future now :=
    Option.some.inj (hleft.symm.trans (getElem?_after h future))
  have H := consistent_after (past ++ future)
  have hsteady : left.Steady := H.steady hleft
  have hplace : left.place = now.place := hturns ▸ System.place_turns future
  constructor
  case place_eq => exact hplace
  case closed_iff => exact hturns ▸ System.liveness_turns future
  case closed_again => exact step_of_closed hleft
  case accepts =>
    intro hopened
    have hholds : left.holdsPort = true :=
      Forwarding.holdsPort_iff.mpr (by simp [hsteady.opened_iff.mp hopened])
    have hport : left.localPort = now.localPort := congrArg (·.2.2.2) hplace
    rw [← hport]
    exact H.listenerOn? hleft hholds
  case alive => exact alive_of_not_stopped hleft
  case stopped =>
    intro hstopped
    obtain ⟨hwaiting, hrelaying⟩ := hsteady.left hstopped
    refine ⟨?_, hwaiting, hrelaying, stays_of_stopped hleft hstopped⟩
    cases hliveness : left.liveness with
    | closed => rfl
    | opened => exact absurd (hsteady.opened_iff.mp hliveness) (by simp [hstopped])
  case begins =>
    rintro hopened connection more haccepted rfl
    have hcall : now.call tunnel connection ∈
        (after (past ++ .relayBegins tunnel connection :: more)).calls := by
      rw [after, System.run_append]
      exact (System.calls_run _ more).subset (called_of_begins h hopened haccepted)
    exact ⟨List.count_eq_one_of_mem (nodup_connections_calls _) (List.mem_map_of_mem hcall), hcall⟩
  case closes =>
    intro hopened hreturns
    obtain ⟨⟨stopped, hthere, hstopped⟩, hfree⟩ := stopped_of_closeReturns h hopened hreturns
    cases hleft.symm.trans hthere
    exact ⟨hstopped, hfree⟩

end

/-- Whatever happens, and in whatever order, tunnels are orderly. -/
theorem orderly (past future : List Event) : Orderly past future where
  opened := by
    intro ns pod remotePort localPort hfree
    rw [after_concat]
    simp [System.step, hfree]
  accepted_once := nodup_snd_acceptances _
  called_once := nodup_connections_calls _
  called_own call hcall := ⟨subject_mem_acceptances hcall, exists_of_mem_calls hcall⟩
  kept tunnel now h := by
    have hleft := getElem?_after h future
    exact ⟨_, hleft, kept past future h hleft⟩

end IndexWatch.Tunnel
