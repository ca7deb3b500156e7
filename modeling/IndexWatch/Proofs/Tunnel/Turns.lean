import IndexWatch.Tunnel.Forwarding

/-! # One tunnel among others

Whatever happens changes a tunnel in one of few ways, and `turn` says in which: what the other tunnels
do leaves it alone. `turns` is what a tunnel becomes in a whole run. The lemmas on `turn` say what
every tunnel keeps, and `Consistent` what all of them together keep: no two of them ever listen on one
port. -/

namespace IndexWatch.Tunnel

namespace Forwarding

/-- Where a tunnel leads, and the port it listens on. -/
def place (forwarding : Forwarding) : String × String × UInt16 × UInt16 :=
  (forwarding.ns, forwarding.pod, forwarding.remotePort, forwarding.localPort)

/-- A tunnel accepts exactly while it is open, and nothing is left in one that has stopped. -/
structure Steady (forwarding : Forwarding) : Prop where
  opened_iff : forwarding.liveness = .opened ↔ forwarding.phase = .accepting
  left : forwarding.phase = .stopped → forwarding.waiting = [] ∧ forwarding.relaying = []

variable {forwarding : Forwarding}

theorem holdsPort_iff : forwarding.holdsPort = true ↔ forwarding.phase ≠ .stopped := by
  simp [holdsPort]

theorem steady_fresh (ns pod : String) (remotePort localPort : UInt16) :
    (fresh ns pod remotePort localPort).Steady :=
  ⟨by simp [fresh], by simp [fresh]⟩

theorem release_of_closed (h : forwarding.liveness = .closed) : forwarding.release = forwarding := by
  simp [release, h]

theorem release_keeps (forwarding : Forwarding) :
    forwarding.release.waiting = forwarding.waiting ∧
      forwarding.release.relaying = forwarding.relaying ∧
      (forwarding.release.phase = .stopped ↔ forwarding.phase = .stopped) := by
  cases h : forwarding.liveness with
  | closed => simp [release_of_closed h]
  | opened => cases hphase : forwarding.phase <;> simp [release, h, hphase]

theorem halt_of_ne (h : forwarding.phase ≠ .stopping) : forwarding.halt = forwarding := by
  cases hphase : forwarding.phase with
  | stopping => contradiction
  | accepting | stopped => simp [halt, hphase]

theorem Steady.release (H : forwarding.Steady) : forwarding.release.Steady := by
  cases h : forwarding.liveness with
  | closed => rwa [release_of_closed h]
  | opened =>
    have hphase : forwarding.phase = .accepting := H.opened_iff.mp h
    exact ⟨by simp [Forwarding.release, h, hphase], by simp [Forwarding.release, h, hphase]⟩

theorem Steady.halt (H : forwarding.Steady) : forwarding.halt.Steady := by
  have hopened := H.opened_iff
  cases h : forwarding.phase with
  | stopping => exact ⟨by simp_all [Forwarding.halt], by simp [Forwarding.halt, h]⟩
  | accepting | stopped => simpa [Forwarding.halt, h] using H

end Forwarding

namespace System

section
variable (system : System) (tunnel : Nat)

/-- What an event makes of a tunnel that is there. -/
def turn (event : Event) (forwarding : Forwarding) : Forwarding :=
  match event with
  | .opens .. => forwarding
  | .connects port =>
    if system.listenerOn? port = some tunnel then forwarding.accept system.connections
    else forwarding
  | .relayBegins other connection =>
    if other = tunnel ∧ connection ∈ forwarding.waiting then forwarding.beginRelay connection
    else forwarding
  | .relayEnds other connection _ =>
    if other = tunnel then forwarding.endRelay connection else forwarding
  | .closes other | .drops other => if other = tunnel then forwarding.release else forwarding
  | .halts other => if other = tunnel then forwarding.halt else forwarding

end

def turns (system : System) (tunnel : Nat) : List Event → Forwarding → Forwarding
  | [], forwarding => forwarding
  | event :: events, forwarding =>
    (system.step event).turns tunnel events (system.turn tunnel event forwarding)

variable {system : System} {tunnel : Nat} {forwarding : Forwarding}

theorem getElem?_update (other : Nat) (change : Forwarding → Forwarding)
    (h : system.tunnels[tunnel]? = some forwarding) :
    (system.update other change).tunnels[tunnel]? =
      some (if other = tunnel then change forwarding else forwarding) := by
  rw [update, List.getElem?_modify, h]
  split <;> rfl

theorem update_eq_self {change : Forwarding → Forwarding}
    (h : system.tunnels[tunnel]? = some forwarding) (hsame : change forwarding = forwarding) :
    system.update tunnel change = system := by
  have htunnels : system.tunnels.modify tunnel change = system.tunnels := by
    refine List.ext_getElem? fun other => ?_
    rw [List.getElem?_modify]
    split
    · next hother =>
      subst hother
      rw [h, Option.map_eq_map, Option.map_some, hsame]
    · simp
  rw [update, htunnels]

theorem getElem?_step (h : system.tunnels[tunnel]? = some forwarding) (event : Event) :
    (system.step event).tunnels[tunnel]? = some (system.turn tunnel event forwarding) := by
  cases event with
  | opens ns pod remotePort localPort =>
    simp only [step, turn]
    split
    · exact h
    · rw [List.getElem?_append_left (List.getElem?_eq_some_iff.mp h).1, h]
  | connects port =>
    simp only [step, turn]
    cases hlistener : system.listenerOn? port with
    | none => simpa using h
    | some other => simpa using getElem?_update other _ h
  | relayBegins other connection =>
    simp only [step, turn]
    by_cases hother : other = tunnel
    · subst hother
      simp only [h, List.contains_iff_mem, true_and]
      split
      · simpa using getElem?_update other _ h
      · exact h
    · simp only [hother, false_and, if_false]
      cases system.tunnels[other]? with
      | none => exact h
      | some _ =>
        dsimp only
        split
        · simpa [hother] using getElem?_update other _ h
        · exact h
  | relayEnds other connection failed => exact getElem?_update other _ h
  | closes other | drops other | halts other => exact getElem?_update other _ h

theorem getElem?_run (h : system.tunnels[tunnel]? = some forwarding) (events : List Event) :
    (system.run events).tunnels[tunnel]? = some (system.turns tunnel events forwarding) := by
  induction events generalizing system forwarding with
  | nil => exact h
  | cons event events ih => exact ih (getElem?_step h event)

/-- A tunnel is there because it was there before, or because it has just been opened. -/
theorem of_getElem?_step {event : Event} {left : Forwarding}
    (h : (system.step event).tunnels[tunnel]? = some left) :
    (∃ forwarding, system.tunnels[tunnel]? = some forwarding ∧
        left = system.turn tunnel event forwarding) ∨
      ∃ ns pod remotePort localPort, event = .opens ns pod remotePort localPort ∧
        system.holdsPort localPort = false ∧ tunnel = system.tunnels.length ∧
        left = .fresh ns pod remotePort localPort := by
  cases hbefore : system.tunnels[tunnel]? with
  | some forwarding =>
    rw [getElem?_step hbefore] at h
    exact .inl ⟨forwarding, rfl, (Option.some.inj h).symm⟩
  | none =>
    have hlength : system.tunnels.length ≤ tunnel := List.getElem?_eq_none_iff.mp hbefore
    have hother (other : Nat) (change : Forwarding → Forwarding) :
        (system.update other change).tunnels[tunnel]? = none := by
      simpa [update] using hlength
    cases event with
    | opens ns pod remotePort localPort =>
      simp only [step] at h
      split at h
      · simp [hbefore] at h
      · next hfree =>
        rw [List.getElem?_append_right hlength, List.getElem?_singleton] at h
        split at h
        · next hlast =>
          exact .inr ⟨ns, pod, remotePort, localPort, rfl, by simpa using hfree, by omega,
            (Option.some.inj h).symm⟩
        · contradiction
    | connects port =>
      simp only [step] at h
      split at h
      · simp [hbefore] at h
      · simp [hother] at h
    | relayBegins other connection =>
      simp only [step] at h
      split at h
      · simp [hbefore] at h
      · split at h
        · simp [hother] at h
        · simp [hbefore] at h
    | relayEnds other connection failed => simp [step, hother] at h
    | closes other | drops other | halts other => simp [step, hother] at h

/-! ## What a tunnel keeps -/

theorem listenerOn?_eq_some {port : UInt16} (h : system.listenerOn? port = some tunnel) :
    ∃ forwarding, system.tunnels[tunnel]? = some forwarding ∧ forwarding.holdsPort = true ∧
      forwarding.localPort = port := by
  obtain ⟨hlt, hlistens, _⟩ := List.findIdx?_eq_some_iff_getElem.mp h
  simp only [Bool.and_eq_true, beq_iff_eq] at hlistens
  exact ⟨_, List.getElem?_eq_getElem hlt, hlistens⟩

theorem place_turn (event : Event) :
    (system.turn tunnel event forwarding).place = forwarding.place := by
  unfold turn
  split <;> (try split) <;> try rfl
  all_goals
    simp only [Forwarding.release, Forwarding.halt]
    split <;> rfl

theorem place_turns (events : List Event) :
    (system.turns tunnel events forwarding).place = forwarding.place := by
  induction events generalizing system forwarding with
  | nil => rfl
  | cons event events ih => exact ih.trans (place_turn event)

/-- Only its own close or drop closes a tunnel, and nothing opens it again. -/
theorem liveness_turn (event : Event) :
    (system.turn tunnel event forwarding).liveness = .closed ↔
      forwarding.liveness = .closed ∨ event = .closes tunnel ∨ event = .drops tunnel := by
  have hrelease : forwarding.release.liveness = .closed := by
    cases h : forwarding.liveness <;> simp [Forwarding.release, h]
  have hhalt : forwarding.halt.liveness = forwarding.liveness := by
    cases h : forwarding.phase <;> simp [Forwarding.halt, h]
  cases event with
  | closes other | drops other =>
    by_cases hother : other = tunnel <;> simp [turn, hother, hrelease]
  | halts other => by_cases hother : other = tunnel <;> simp [turn, hother, hhalt]
  | _ =>
    simp only [turn, reduceCtorEq, or_false]
    try split
    all_goals rfl

theorem liveness_turns (events : List Event) :
    (system.turns tunnel events forwarding).liveness = .closed ↔
      forwarding.liveness = .closed ∨ .closes tunnel ∈ events ∨ .drops tunnel ∈ events := by
  induction events generalizing system forwarding with
  | nil => simp [turns]
  | cons event events ih =>
    rw [turns, ih, liveness_turn]
    grind

theorem phase_turn_of_stopping {event : Event} (h : forwarding.phase = .stopping)
    (hevent : event ≠ .halts tunnel) : (system.turn tunnel event forwarding).phase = .stopping := by
  have hrelease : forwarding.release.phase = .stopping := by
    cases hliveness : forwarding.liveness <;> simp [Forwarding.release, hliveness, h]
  cases event with
  | closes other | drops other =>
    by_cases hother : other = tunnel <;> simp [turn, hother, hrelease, h]
  | halts other =>
    have hother : other ≠ tunnel := fun heq => hevent (congrArg _ heq)
    simp [turn, hother, h]
  | _ =>
    simp only [turn]
    try split
    all_goals exact h

theorem phase_turns_of_stopping {events : List Event} (h : forwarding.phase = .stopping)
    (hevents : .halts tunnel ∉ events) :
    (system.turns tunnel events forwarding).phase = .stopping := by
  induction events generalizing system forwarding with
  | nil => exact h
  | cons event events ih =>
    rw [List.mem_cons, not_or] at hevents
    exact ih (phase_turn_of_stopping h (Ne.symm hevents.1)) hevents.2

theorem steady_turn (h : system.tunnels[tunnel]? = some forwarding) (H : forwarding.Steady)
    (event : Event) : (system.turn tunnel event forwarding).Steady := by
  cases event with
  | opens ns pod remotePort localPort => exact H
  | connects port =>
    simp only [turn]
    split
    · next hlistener =>
      obtain ⟨listener, hlistens, hholds, _⟩ := listenerOn?_eq_some hlistener
      cases h.symm.trans hlistens
      exact ⟨H.opened_iff, fun hstopped => absurd hstopped (Forwarding.holdsPort_iff.mp hholds)⟩
    · exact H
  | relayBegins other connection =>
    simp only [turn]
    split
    · next hwaits =>
      refine ⟨H.opened_iff, fun hstopped => ?_⟩
      rw [(H.left hstopped).1] at hwaits
      exact absurd hwaits.2 List.not_mem_nil
    · exact H
  | relayEnds other connection failed =>
    simp only [turn]
    split
    · refine ⟨H.opened_iff, fun hstopped => ⟨(H.left hstopped).1, ?_⟩⟩
      simp [Forwarding.endRelay, (H.left hstopped).2]
    · exact H
  | closes other | drops other =>
    simp only [turn]
    split
    · exact H.release
    · exact H
  | halts other =>
    simp only [turn]
    split
    · exact H.halt
    · exact H

theorem turn_of_stopped (h : system.tunnels[tunnel]? = some forwarding) (H : forwarding.Steady)
    (hstopped : forwarding.phase = .stopped) (event : Event) :
    system.turn tunnel event forwarding = forwarding := by
  obtain ⟨hwaiting, hrelaying⟩ := H.left hstopped
  cases event with
  | opens ns pod remotePort localPort => rfl
  | connects port =>
    refine if_neg fun hlistener => ?_
    obtain ⟨listener, hlistens, hholds, _⟩ := listenerOn?_eq_some hlistener
    cases h.symm.trans hlistens
    exact Forwarding.holdsPort_iff.mp hholds hstopped
  | relayBegins other connection =>
    refine if_neg fun hwaits => ?_
    rw [hwaiting] at hwaits
    exact List.not_mem_nil hwaits.2
  | relayEnds other connection failed =>
    have hends : forwarding.endRelay connection = forwarding := by
      rw [Forwarding.endRelay, hrelaying, List.erase_nil, ← hrelaying]
    simp [turn, hends]
  | closes other | drops other =>
    have hclosed : forwarding.liveness = .closed := by
      cases hliveness : forwarding.liveness with
      | closed => rfl
      | opened => exact absurd (H.opened_iff.mp hliveness) (by simp [hstopped])
    simp [turn, Forwarding.release_of_closed hclosed]
  | halts other => simp [turn, Forwarding.halt, hstopped]

theorem holdsPort_of_turn {event : Event} (h : system.tunnels[tunnel]? = some forwarding)
    (H : forwarding.Steady) (hholds : (system.turn tunnel event forwarding).holdsPort = true) :
    forwarding.holdsPort = true := by
  rw [Forwarding.holdsPort_iff] at hholds ⊢
  intro hstopped
  rw [turn_of_stopped h H hstopped] at hholds
  exact hholds hstopped

/-! ## What all tunnels keep together -/

/-- Every tunnel is steady, and no two of them hold one port. -/
structure Consistent (system : System) : Prop where
  steady : ∀ {tunnel : Nat} {forwarding : Forwarding},
    system.tunnels[tunnel]? = some forwarding → forwarding.Steady
  apart : ∀ {tunnel other : Nat} {forwarding forwarding' : Forwarding},
    system.tunnels[tunnel]? = some forwarding → system.tunnels[other]? = some forwarding' →
    forwarding.holdsPort = true → forwarding'.holdsPort = true →
    forwarding.localPort = forwarding'.localPort → tunnel = other

theorem consistent_empty : Consistent empty := ⟨by simp [empty], by simp [empty]⟩

theorem holdsPort_eq_false_iff {port : UInt16} : system.holdsPort port = false ↔
    ∀ (tunnel : Nat) (forwarding : Forwarding), system.tunnels[tunnel]? = some forwarding →
      forwarding.holdsPort = true → forwarding.localPort ≠ port := by
  simp only [holdsPort, List.any_eq_false, List.mem_iff_getElem?, Bool.and_eq_true, beq_iff_eq]
  grind

/-- What holds a port after a step held it before, or has just been opened on it while it was
free. -/
theorem Consistent.held_before (H : system.Consistent) {event : Event} {left : Forwarding}
    (h : (system.step event).tunnels[tunnel]? = some left) (hholds : left.holdsPort = true) :
    (∃ forwarding, system.tunnels[tunnel]? = some forwarding ∧ forwarding.holdsPort = true ∧
        forwarding.localPort = left.localPort) ∨
      tunnel = system.tunnels.length ∧ system.holdsPort left.localPort = false := by
  rcases of_getElem?_step h with ⟨forwarding, hbefore, rfl⟩ | ⟨_, _, _, _, _, hfree, hlast, rfl⟩
  · have hport : (system.turn tunnel event forwarding).localPort = forwarding.localPort :=
      congrArg (·.2.2.2) (place_turn event)
    exact .inl ⟨forwarding, hbefore, holdsPort_of_turn hbefore (H.steady hbefore) hholds, hport.symm⟩
  · exact .inr ⟨hlast, hfree⟩

theorem Consistent.step (H : system.Consistent) (event : Event) :
    (system.step event).Consistent := by
  constructor
  case steady =>
    intro tunnel left hleft
    rcases of_getElem?_step hleft with ⟨forwarding, h, rfl⟩ | ⟨_, _, _, _, _, _, _, rfl⟩
    · exact steady_turn h (H.steady h) event
    · exact Forwarding.steady_fresh ..
  case apart =>
    intro tunnel other left left' hleft hleft' hholds hholds' hport
    -- What was just opened found its port free, so nothing from before the step holds it as well.
    rcases H.held_before hleft hholds with ⟨forwarding, h, hheld, hsame⟩ | ⟨hlast, hfree⟩ <;>
      rcases H.held_before hleft' hholds' with ⟨forwarding', h', hheld', hsame'⟩ | ⟨hlast', hfree'⟩
    · exact H.apart h h' hheld hheld' (by rw [hsame, hsame', hport])
    · exact absurd (hsame.trans hport) (holdsPort_eq_false_iff.mp hfree' _ _ h hheld)
    · exact absurd (hsame'.trans hport.symm) (holdsPort_eq_false_iff.mp hfree _ _ h' hheld')
    · exact hlast.trans hlast'.symm

theorem Consistent.run (H : system.Consistent) (events : List Event) :
    (system.run events).Consistent := by
  induction events generalizing system with
  | nil => exact H
  | cons event events ih => exact ih (H.step event)

theorem Consistent.listenerOn? (H : system.Consistent)
    (h : system.tunnels[tunnel]? = some forwarding) (hholds : forwarding.holdsPort = true) :
    system.listenerOn? forwarding.localPort = some tunnel := by
  cases hlistener : system.listenerOn? forwarding.localPort with
  | none =>
    rw [System.listenerOn?, List.findIdx?_eq_none_iff] at hlistener
    simpa [hholds] using hlistener forwarding (List.mem_of_getElem? h)
  | some other =>
    obtain ⟨forwarding', h', hholds', hport⟩ := listenerOn?_eq_some hlistener
    rw [H.apart h' h hholds' hholds hport]

/-- A port is free once the tunnel that held it has halted. -/
theorem Consistent.holdsPort_halts (H : system.Consistent)
    (h : system.tunnels[tunnel]? = some forwarding) (hstopping : forwarding.phase = .stopping) :
    (system.step (.halts tunnel)).holdsPort forwarding.localPort = false := by
  rw [holdsPort_eq_false_iff]
  intro other left hleft hholds hport
  rcases of_getElem?_step hleft with ⟨forwarding', h', rfl⟩ | ⟨_, _, _, _, hopens, _⟩
  · have hheld := holdsPort_of_turn h' (H.steady h') hholds
    have hsame : forwarding.localPort = forwarding'.localPort :=
      hport.symm.trans (congrArg (·.2.2.2) (place_turn _))
    have hholder : forwarding.holdsPort = true := by simp [Forwarding.holdsPort, hstopping]
    cases H.apart h h' hholder hheld hsame
    cases h.symm.trans h'
    simp [turn, Forwarding.halt, hstopping, Forwarding.holdsPort] at hholds
  · contradiction

end System

end IndexWatch.Tunnel
