import IndexWatch.Proofs.Tunnel.Turns
import Mathlib.Data.List.Induction
import Mathlib.Data.List.Nodup
import Mathlib.Data.List.Perm.Subperm

/-! # The books of a tunnel

A history is a list of events in any order. Of each tunnel in it `books` are kept: which connections
it accepted, which of these wait for their relay or are relayed, which were called for and which have
ended. One event makes one entry in them, `entry_books`, and no entry puts them out of balance,
`balanced_books`: until a tunnel stops, what it accepted is what is alive in it and what has ended.
That no connection is called for twice, `nodup_connections_calls`, is read off the books. -/

namespace IndexWatch.Tunnel

/-! ## Entries and balance -/

/-- What became of the connections of a tunnel. -/
structure Books where
  accepted : List Nat
  waiting : List Nat
  relaying : List Nat
  called : List Nat
  ended : List Nat
  stopped : Bool

namespace Books

/-- An entry: a connection is accepted, called for or ended, or the tunnel stops; or none is made. -/
inductive Entry (books : Books) : Books → Prop
  | nothing : Entry books books
  | accepted (connection : Nat) : books.stopped = false → Entry books
      { books with
        accepted := books.accepted ++ [connection]
        waiting := connection :: books.waiting }
  | called {connection : Nat} : connection ∈ books.waiting → Entry books
      { books with
        waiting := books.waiting.erase connection
        relaying := connection :: books.relaying
        called := connection :: books.called }
  | ended {connection : Nat} : connection ∈ books.relaying → Entry books
      { books with
        relaying := books.relaying.erase connection
        ended := books.ended ++ [connection] }
  | stopped : Entry books { books with waiting := [], relaying := [], stopped := true }

/-- Only what was accepted is called for, and no more often. Until the tunnel stops, nothing that was
accepted is lost, and what is alive is what has not ended. -/
structure Balanced (books : Books) : Prop where
  called : (books.waiting ++ books.called).Subperm books.accepted
  all_called : books.stopped = false → (books.waiting ++ books.called).Perm books.accepted
  alive : books.stopped = false →
    (books.waiting ++ books.relaying ++ books.ended).Perm books.accepted
  left : books.stopped = true → books.waiting = [] ∧ books.relaying = []

open List in
theorem Balanced.entry {books next : Books} (H : books.Balanced) (h : books.Entry next) :
    next.Balanced := by
  cases h with
  | nothing => exact H
  | accepted connection hgoes =>
    have hcons (rest : List Nat) (h : rest.Perm books.accepted) :
        (connection :: rest).Perm (books.accepted ++ [connection]) :=
      (h.cons connection).trans (List.perm_append_singleton ..).symm
    refine ⟨?_, fun _ => hcons _ (H.all_called hgoes), fun _ => hcons _ (H.alive hgoes), ?_⟩
    · exact (hcons _ (H.all_called hgoes)).subperm
    · simp [hgoes]
  | @called connection hwaits =>
    have hwaiting : (connection :: books.waiting.erase connection).Perm books.waiting :=
      (List.perm_cons_erase hwaits).symm
    have hmoved (rest : List Nat) :
        (books.waiting.erase connection ++ connection :: rest).Perm (books.waiting ++ rest) :=
      List.perm_middle.trans (hwaiting.append_right rest)
    refine ⟨?_, fun h => (hmoved _).trans (H.all_called h), fun h => ?_, fun h => ?_⟩
    · exact (hmoved _).subperm.trans H.called
    · exact ((hmoved _).append_right _).trans (H.alive h)
    · rw [(H.left h).1] at hwaits
      contradiction
  | @ended connection hrelays =>
    have hrelaying : (books.relaying.erase connection ++ [connection]).Perm books.relaying :=
      (List.perm_append_singleton ..).trans (List.perm_cons_erase hrelays).symm
    refine ⟨H.called, H.all_called, fun h => ?_, fun h => ?_⟩
    · calc books.waiting ++ books.relaying.erase connection ++ (books.ended ++ [connection])
        _ ~ books.waiting ++ books.relaying.erase connection ++ ([connection] ++ books.ended) :=
          List.perm_append_comm.append_left _
        _ = books.waiting ++ (books.relaying.erase connection ++ [connection]) ++ books.ended := by
          simp
        _ ~ books.waiting ++ books.relaying ++ books.ended :=
          (hrelaying.append_left _).append_right _
        _ ~ books.accepted := H.alive h
    · rw [(H.left h).2] at hrelays
      contradiction
  | stopped =>
    refine ⟨?_, by simp, by simp, by simp⟩
    exact ((List.sublist_append_right books.waiting books.called).subperm).trans H.called

theorem Entry.called_of_stopped {books next : Books} (h : books.Entry next) (H : books.Balanced)
    (hstopped : books.stopped = true) : next.called = books.called := by
  cases h with
  | called hwaits =>
    rw [(H.left hstopped).1] at hwaits
    contradiction
  | _ => rfl

end Books

/-! ## Histories -/

section
variable {α : Type} (note : System → Event → Option α)

/-- What is noted at the events of a run, in order. -/
def System.notes (system : System) : List Event → List α
  | [] => []
  | event :: events => (note system event).toList ++ (system.step event).notes events

theorem System.notes_concat (system : System) (events : List Event) (event : Event) :
    system.notes note (events ++ [event]) =
      system.notes note events ++ (note (system.run events) event).toList := by
  induction events generalizing system with
  | nil => simp [notes]
  | cons first events ih => simp [notes, ih]

end

def Forwarding.call (forwarding : Forwarding) (tunnel connection : Nat) : Call :=
  ⟨tunnel, connection, forwarding.ns, forwarding.pod, forwarding.remotePort⟩

theorem Forwarding.call_congr {forwarding forwarding' : Forwarding}
    (h : forwarding.place = forwarding'.place) (tunnel connection : Nat) :
    forwarding.call tunnel connection = forwarding'.call tunnel connection := by
  simp only [place, Prod.mk.injEq] at h
  simp only [call, h]

namespace System

section
variable (system : System)

/-- What `read` tells of a tunnel; `absent` where there is none. -/
def part {α : Type} (read : Forwarding → α) (absent : α) (tunnel : Nat) : α :=
  (system.tunnels[tunnel]?.map read).getD absent

/-- The tunnel that accepts a connection at an event, and the connection. -/
def acceptance? : Event → Option (Nat × Nat)
  | .connects port => (system.listenerOn? port).map (·, system.connections)
  | _ => none

def call? : Event → Option Call
  | .relayBegins tunnel connection =>
    match system.tunnels[tunnel]? with
    | none => none
    | some forwarding =>
      if connection ∈ forwarding.waiting then some (forwarding.call tunnel connection) else none
  | _ => none

/-- The tunnel in which a relay ends at an event, and its connection. -/
def ending? : Event → Option (Nat × Nat)
  | .relayEnds tunnel connection _ =>
    if connection ∈ system.part (·.relaying) [] tunnel then some (tunnel, connection) else none
  | _ => none

end

variable {system : System} {tunnel : Nat} {α : Type} {read : Forwarding → α} {absent : α}

theorem call?_eq_some {event : Event} {call : Call} (h : system.call? event = some call) :
    ∃ forwarding, system.tunnels[call.tunnel]? = some forwarding ∧
      call = forwarding.call call.tunnel call.connection := by
  cases event with
  | relayBegins other connection =>
    simp only [call?] at h
    split at h
    · contradiction
    · next forwarding hthere =>
      split at h
      · cases h
        exact ⟨forwarding, hthere, rfl⟩
      · contradiction
  | _ => contradiction

theorem part_of_some {forwarding : Forwarding} (h : system.tunnels[tunnel]? = some forwarding) :
    system.part read absent tunnel = read forwarding := by
  simp [part, h]

theorem part_of_none (h : system.tunnels[tunnel]? = none) :
    system.part read absent tunnel = absent := by
  simp [part, h]

theorem part_step_of_some {forwarding : Forwarding} (h : system.tunnels[tunnel]? = some forwarding)
    (event : Event) :
    (system.step event).part read absent tunnel = read (system.turn tunnel event forwarding) :=
  part_of_some (getElem?_step h event)

theorem part_step_of_keeps {event : Event}
    (hfresh : ∀ ns pod remotePort localPort, read (.fresh ns pod remotePort localPort) = absent)
    (h : ∀ forwarding, system.tunnels[tunnel]? = some forwarding →
      read (system.turn tunnel event forwarding) = read forwarding) :
    (system.step event).part read absent tunnel = system.part read absent tunnel := by
  cases hbefore : system.tunnels[tunnel]? with
  | some forwarding => rw [part_step_of_some hbefore, part_of_some hbefore, h forwarding hbefore]
  | none =>
    rw [part_of_none hbefore]
    cases hleft : (system.step event).tunnels[tunnel]? with
    | none => exact part_of_none hleft
    | some left =>
      rw [part_of_some hleft]
      rcases of_getElem?_step hleft with ⟨_, hsome, _⟩ | ⟨_, _, _, _, _, _, _, rfl⟩
      · rw [hbefore] at hsome
        contradiction
      · exact hfresh ..

theorem calls_step (system : System) (event : Event) :
    (system.step event).calls = (system.call? event).toList ++ system.calls := by
  cases event with
  | relayBegins other connection =>
    simp only [step, call?]
    cases system.tunnels[other]? with
    | none => rfl
    | some forwarding =>
      by_cases hwaits : connection ∈ forwarding.waiting <;> simp [hwaits, Forwarding.call]
  | opens | connects =>
    simp only [step, call?]
    split <;> rfl
  | _ => rfl

end System

/-- The part of a tunnel in what was noted of all. -/
def ofTunnel (tunnel : Nat) (noted : List (Nat × Nat)) : List Nat :=
  (noted.filter (·.1 == tunnel)).map (·.2)

/-- The tunnels once all of a history has happened. -/
abbrev after (history : List Event) : System := System.empty.run history

/-- The connections that were accepted in a history, each with the tunnel that accepted it. -/
def acceptances (history : List Event) : List (Nat × Nat) :=
  System.empty.notes System.acceptance? history

/-- The relays that ended in a history, whether they failed or not. -/
def endings (history : List Event) : List (Nat × Nat) :=
  System.empty.notes System.ending? history

def Call.subject (call : Call) : Nat × Nat := (call.tunnel, call.connection)

def books (history : List Event) (tunnel : Nat) : Books where
  accepted := ofTunnel tunnel (acceptances history)
  waiting := (after history).part (·.waiting) [] tunnel
  relaying := (after history).part (·.relaying) [] tunnel
  called := ofTunnel tunnel ((after history).calls.map Call.subject)
  ended := ofTunnel tunnel (endings history)
  stopped := (after history).part (·.phase == .stopped) false tunnel

@[simp] theorem ofTunnel_append (tunnel : Nat) (noted more : List (Nat × Nat)) :
    ofTunnel tunnel (noted ++ more) = ofTunnel tunnel noted ++ ofTunnel tunnel more := by
  simp [ofTunnel]

theorem ofTunnel_toList_of_ne {tunnel : Nat} {noted : Option (Nat × Nat)}
    (h : ∀ connection, noted ≠ some (tunnel, connection)) : ofTunnel tunnel noted.toList = [] := by
  rcases noted with _ | ⟨other, connection⟩
  · rfl
  · have hother : other ≠ tunnel := fun heq => h connection (by rw [heq])
    simp [ofTunnel, hother]

@[simp] theorem ofTunnel_toList_some (tunnel connection : Nat) :
    ofTunnel tunnel (some (tunnel, connection)).toList = [connection] := by
  simp [ofTunnel]

theorem after_concat (history : List Event) (event : Event) :
    after (history ++ [event]) = (after history).step event := by
  rw [after, System.run_append]
  rfl

section
variable {history : List Event} {event : Event} {tunnel : Nat}

theorem books_concat :
    books (history ++ [event]) tunnel =
      { accepted := (books history tunnel).accepted ++
          ofTunnel tunnel ((after history).acceptance? event).toList
        waiting := ((after history).step event).part (·.waiting) [] tunnel
        relaying := ((after history).step event).part (·.relaying) [] tunnel
        called := ofTunnel tunnel (((after history).call? event).map Call.subject).toList ++
          (books history tunnel).called
        ended := (books history tunnel).ended ++
          ofTunnel tunnel ((after history).ending? event).toList
        stopped := ((after history).step event).part (·.phase == .stopped) false tunnel } := by
  simp only [books, acceptances, endings, System.notes_concat, after_concat, System.calls_step,
    List.map_append, ofTunnel_append, Option.toList_map]

/-- No entry is made for an event that leaves the connections of a tunnel alone. -/
theorem books_concat_of_keeps
    (hturn : ∀ forwarding, (after history).tunnels[tunnel]? = some forwarding →
      let left := (after history).turn tunnel event forwarding
      left.waiting = forwarding.waiting ∧ left.relaying = forwarding.relaying ∧
        (left.phase = .stopped ↔ forwarding.phase = .stopped))
    (haccepted : ∀ connection, (after history).acceptance? event ≠ some (tunnel, connection))
    (hcalled : ∀ connection,
      ((after history).call? event).map Call.subject ≠ some (tunnel, connection))
    (hended : ∀ connection, (after history).ending? event ≠ some (tunnel, connection)) :
    books (history ++ [event]) tunnel = books history tunnel := by
  -- Nothing is noted of this tunnel at the event, and its own parts stay.
  rw [books_concat, ofTunnel_toList_of_ne haccepted, ofTunnel_toList_of_ne hcalled,
    ofTunnel_toList_of_ne hended,
    System.part_step_of_keeps (by simp [Forwarding.fresh]) fun f h => (hturn f h).1,
    System.part_step_of_keeps (by simp [Forwarding.fresh]) fun f h => (hturn f h).2.1,
    System.part_step_of_keeps (by simp [Forwarding.fresh]) fun f h => by
      rw [Bool.eq_iff_iff, beq_iff_eq, beq_iff_eq]
      exact (hturn f h).2.2]
  simp [books]

theorem books_connects {port : UInt16} (h : (after history).listenerOn? port = some tunnel) :
    books (history ++ [.connects port]) tunnel =
      { books history tunnel with
        accepted := (books history tunnel).accepted ++ [(after history).connections]
        waiting := (after history).connections :: (books history tunnel).waiting } := by
  obtain ⟨forwarding, hlistens, _⟩ := System.listenerOn?_eq_some h
  rw [books_concat]
  simp only [System.part_step_of_some hlistens, System.turn, System.acceptance?, h, System.call?,
    System.ending?, Option.map_some, Option.map_none, ofTunnel_toList_some, books,
    System.part_of_some hlistens]
  simp [ofTunnel, Forwarding.accept]

section
variable {forwarding : Forwarding} (h : (after history).tunnels[tunnel]? = some forwarding)
include h

theorem books_relayBegins {connection : Nat} (hwaits : connection ∈ forwarding.waiting) :
    books (history ++ [.relayBegins tunnel connection]) tunnel =
      { books history tunnel with
        waiting := (books history tunnel).waiting.erase connection
        relaying := connection :: (books history tunnel).relaying
        called := connection :: (books history tunnel).called } := by
  rw [books_concat]
  simp only [System.part_step_of_some h, System.turn, System.acceptance?, System.call?, h,
    System.ending?, hwaits, and_true, if_true, Option.map_some, Call.subject, Forwarding.call,
    ofTunnel_toList_some, books, System.part_of_some h]
  simp [ofTunnel, Forwarding.beginRelay]

theorem books_relayEnds {connection : Nat} (hrelays : connection ∈ forwarding.relaying)
    (failed : Bool) :
    books (history ++ [.relayEnds tunnel connection failed]) tunnel =
      { books history tunnel with
        relaying := (books history tunnel).relaying.erase connection
        ended := (books history tunnel).ended ++ [connection] } := by
  rw [books_concat]
  simp only [System.part_step_of_some h, System.turn, System.acceptance?, System.call?,
    System.ending?, System.part_of_some h, hrelays, if_true, Option.map_none,
    ofTunnel_toList_some, books]
  simp [ofTunnel, Forwarding.endRelay]

theorem books_halts (hstopping : forwarding.phase = .stopping) :
    books (history ++ [.halts tunnel]) tunnel =
      { books history tunnel with waiting := [], relaying := [], stopped := true } := by
  rw [books_concat]
  simp only [System.part_step_of_some h, System.turn, System.acceptance?, System.call?,
    System.ending?, Forwarding.halt, hstopping, if_true, Option.map_none, books]
  simp [ofTunnel]

end

/-- One event makes one entry in the books of each tunnel. -/
theorem entry_books (history : List Event) (event : Event) (tunnel : Nat) :
    (books history tunnel).Entry (books (history ++ [event]) tunnel) := by
  cases event with
  | opens ns pod remotePort localPort =>
    rw [books_concat_of_keeps]
    · exact .nothing
    all_goals simp [System.turn, System.acceptance?, System.call?, System.ending?]
  | connects port =>
    by_cases hlistener : (after history).listenerOn? port = some tunnel
    · obtain ⟨forwarding, h, hholds, _⟩ := System.listenerOn?_eq_some hlistener
      have hgoes : (books history tunnel).stopped = false := by
        simpa [books, System.part_of_some h] using Forwarding.holdsPort_iff.mp hholds
      rw [books_connects hlistener]
      exact .accepted _ hgoes
    · rw [books_concat_of_keeps]
      · exact .nothing
      all_goals simp [System.turn, System.acceptance?, System.call?, System.ending?, hlistener]
  | relayBegins other connection =>
    by_cases hcall : ∃ forwarding, (after history).tunnels[tunnel]? = some forwarding ∧
        other = tunnel ∧ connection ∈ forwarding.waiting
    · obtain ⟨forwarding, h, rfl, hwaits⟩ := hcall
      rw [books_relayBegins h hwaits]
      exact .called (by simpa [books, System.part_of_some h] using hwaits)
    · rw [books_concat_of_keeps]
      · exact .nothing
      · intro forwarding h
        have hidle : ¬ (other = tunnel ∧ connection ∈ forwarding.waiting) := fun hwaits =>
          hcall ⟨forwarding, h, hwaits⟩
        rw [System.turn, if_neg hidle]
        exact ⟨rfl, rfl, Iff.rfl⟩
      · simp [System.acceptance?]
      · simp only [System.call?]
        grind [Call.subject, Forwarding.call]
      · simp [System.ending?]
  | relayEnds other connection failed =>
    by_cases hends : ∃ forwarding, (after history).tunnels[tunnel]? = some forwarding ∧
        other = tunnel ∧ connection ∈ forwarding.relaying
    · obtain ⟨forwarding, h, rfl, hrelays⟩ := hends
      rw [books_relayEnds h hrelays]
      exact .ended (by simpa [books, System.part_of_some h] using hrelays)
    · rw [books_concat_of_keeps]
      · exact .nothing
      · intro forwarding h
        by_cases hother : other = tunnel
        · have hidle : connection ∉ forwarding.relaying := fun hrelays =>
            hends ⟨forwarding, h, hother, hrelays⟩
          simp [System.turn, hother, Forwarding.endRelay, List.erase_of_not_mem hidle]
        · simp [System.turn, hother]
      · simp [System.acceptance?]
      · simp [System.call?]
      · simp only [System.ending?, System.part]
        grind
  | closes other | drops other =>
    rw [books_concat_of_keeps]
    · exact .nothing
    · intro forwarding h
      simp only [System.turn]
      split
      · exact Forwarding.release_keeps forwarding
      · exact ⟨rfl, rfl, Iff.rfl⟩
    all_goals simp [System.acceptance?, System.call?, System.ending?]
  | halts other =>
    by_cases hhalts : ∃ forwarding, (after history).tunnels[tunnel]? = some forwarding ∧
        other = tunnel ∧ forwarding.phase = .stopping
    · obtain ⟨forwarding, h, rfl, hstopping⟩ := hhalts
      rw [books_halts h hstopping]
      exact .stopped
    · rw [books_concat_of_keeps]
      · exact .nothing
      · intro forwarding h
        by_cases hother : other = tunnel
        · have hphase : forwarding.phase ≠ .stopping := fun hstopping =>
            hhalts ⟨forwarding, h, hother, hstopping⟩
          simp [System.turn, hother, Forwarding.halt_of_ne hphase]
        · simp [System.turn, hother]
      all_goals simp [System.acceptance?, System.call?, System.ending?]

end

theorem balanced_books (history : List Event) (tunnel : Nat) :
    (books history tunnel).Balanced := by
  induction history using List.reverseRecOn with
  | nil =>
    have hnone : books [] tunnel = ⟨[], [], [], [], [], false⟩ := rfl
    rw [hnone]
    exact ⟨.refl _, fun _ => .refl _, fun _ => .refl _, fun _ => ⟨rfl, rfl⟩⟩
  | append_singleton history event ih => exact ih.entry (entry_books history event tunnel)

/-! ## What was accepted and called for -/

theorem mem_ofTunnel {tunnel connection : Nat} {noted : List (Nat × Nat)} :
    connection ∈ ofTunnel tunnel noted ↔ (tunnel, connection) ∈ noted := by
  simp [ofTunnel]

theorem count_ofTunnel (tunnel connection : Nat) (noted : List (Nat × Nat)) :
    (ofTunnel tunnel noted).count connection = noted.count (tunnel, connection) := by
  induction noted with
  | nil => rfl
  | cons first noted ih =>
    obtain ⟨other, another⟩ := first
    by_cases h : other = tunnel <;> simp_all [ofTunnel, List.count_cons]

theorem System.range_connections_step (system : System) (event : Event) :
    List.range (system.step event).connections =
      List.range system.connections ++ (system.acceptance? event).toList.map Prod.snd := by
  cases event with
  | connects port =>
    simp only [step, acceptance?]
    cases system.listenerOn? port with
    | none => simp
    | some tunnel => simp [List.range_succ]
  | opens | relayBegins =>
    simp only [step, acceptance?]
    repeat' split
    all_goals simp [update]
  | _ => simp [step, update, acceptance?]

/-- Every connection is accepted once, by one tunnel. -/
theorem map_snd_acceptances (history : List Event) :
    (acceptances history).map Prod.snd = List.range (after history).connections := by
  induction history using List.reverseRecOn with
  | nil => rfl
  | append_singleton history event ih =>
    rw [acceptances, System.notes_concat, List.map_append, after_concat,
      System.range_connections_step, ← ih]
    rfl

theorem System.calls_run (system : System) (events : List Event) :
    system.calls <:+ (system.run events).calls := by
  induction events generalizing system with
  | nil => exact List.suffix_refl _
  | cons event events ih =>
    refine List.IsSuffix.trans ?_ (ih (system.step event))
    rw [calls_step]
    exact List.suffix_append _ _

section
variable {history : List Event}

theorem exists_of_mem_calls {call : Call} (h : call ∈ (after history).calls) :
    ∃ forwarding, (after history).tunnels[call.tunnel]? = some forwarding ∧
      call = forwarding.call call.tunnel call.connection := by
  induction history using List.reverseRecOn with
  | nil => contradiction
  | append_singleton history event ih =>
    have hkeeps {forwarding : Forwarding}
        (hthere : (after history).tunnels[call.tunnel]? = some forwarding)
        (hcall : call = forwarding.call call.tunnel call.connection) :
        ∃ left, ((after history).step event).tunnels[call.tunnel]? = some left ∧
          call = left.call call.tunnel call.connection := by
      refine ⟨_, System.getElem?_step hthere event, hcall.trans ?_⟩
      exact Forwarding.call_congr (System.place_turn event).symm _ _
    rw [after_concat] at h ⊢
    rw [System.calls_step, List.mem_append, Option.mem_toList] at h
    rcases h with hnew | hold
    · obtain ⟨forwarding, hthere, hcall⟩ := System.call?_eq_some hnew
      exact hkeeps hthere hcall
    · obtain ⟨forwarding, hthere, hcall⟩ := ih hold
      exact hkeeps hthere hcall

theorem nodup_snd_acceptances (history : List Event) :
    ((acceptances history).map Prod.snd).Nodup := by
  rw [map_snd_acceptances]
  exact List.nodup_range

theorem nodup_called (history : List Event) (tunnel : Nat) :
    (books history tunnel).called.Nodup := by
  have haccepted : (ofTunnel tunnel (acceptances history)).Nodup :=
    (nodup_snd_acceptances history).sublist (List.filter_sublist.map Prod.snd)
  obtain ⟨some, hperm, hsome⟩ := (balanced_books history tunnel).called
  exact (hperm.nodup_iff.mp (hsome.nodup haccepted)).of_append_right

/-- What is called for was accepted by the tunnel that it is called for by. -/
theorem subject_mem_acceptances {call : Call} (h : call ∈ (after history).calls) :
    call.subject ∈ acceptances history := by
  have hcalled : call.connection ∈ (books history call.tunnel).called :=
    mem_ofTunnel.mpr (List.mem_map_of_mem h)
  exact mem_ofTunnel.mp ((balanced_books history call.tunnel).called.subset
    (List.mem_append_right _ hcalled))

theorem nodup_connections_calls (history : List Event) :
    ((after history).calls.map Call.connection).Nodup := by
  have hsubjects : ((after history).calls.map Call.subject).Nodup := by
    rw [List.nodup_iff_count_le_one]
    rintro ⟨tunnel, connection⟩
    rw [← count_ofTunnel]
    exact List.nodup_iff_count_le_one.mp (nodup_called history tunnel) connection
  have hown : ∀ subject ∈ (after history).calls.map Call.subject,
      subject ∈ acceptances history := by
    intro subject hsubject
    obtain ⟨call, hcall, rfl⟩ := List.mem_map.mp hsubject
    exact subject_mem_acceptances hcall
  -- One tunnel accepts a connection, so calls for it from two tunnels cannot be.
  have hinj := List.inj_on_of_nodup_map (nodup_snd_acceptances history)
  have := hsubjects.map_on fun x hx y hy => hinj (hown x hx) (hown y hy)
  rwa [List.map_map] at this

end

end IndexWatch.Tunnel
