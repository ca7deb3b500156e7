import IndexWatch.Catalog.Query
import IndexWatch.Proofs.Except

/-! # One exchange with the catalog

`Query.Brings` tells, step by step, what has to go well for some bytes to arrive for a query, and
when the last of them does. With the request timeout they decide what the query fetches,
`value_fetchText_of_brings`, and it fetches a text only by them. A query `Receives` a response that
is read in such bytes, if they are in time, and `value_hasEntry_eq_ok_iff` reduces the answer of a
query to this: it has an answer only by a response that reports success, and then the answer is
whether the text of its body contains the prefix. In all other exchanges it fails with a transport
error. It comes to one or the other until the request timeout strikes, `add_took_hasEntry_le`. -/

namespace IndexWatch.Catalog.Query

open Text Timed

/-- The instant at which the request timeout strikes for a query that begins at `now`. -/
def strikes (query : Query) (now : Nat) : Nat :=
  Clock.ceilMilli (Clock.deadline now query.requestTimeout)

variable {σ : Type} {stack : Network.Stack} {query : Query} {dial : Dial σ} {now : Nat} {world : σ}

/-- Some bytes arrive for the query, the last at an instant: the connection is opened and leads to a
peer, the two agree on how to speak, and the peer answers. -/
inductive Brings (stack : Network.Stack) (query : Query) (dial : Dial σ) (now : Nat) (world : σ) :
    Http.Bytes → Nat → Prop
  | intro {line : Line σ} {peer : Peer σ} {transport : Transport} {bytes : Http.Bytes}
      {opened : Outcome σ (Except String (Line σ))} {reached : Outcome σ (Answer (Peer σ))}
      {replied : Outcome σ (Answer Http.Bytes)} :
    (dial query.localPort).run now world = opened → opened.value = .ok line →
    line.run (now + opened.took) opened.world = reached → reached.value = .given peer →
    query.passage stack (now + opened.took + reached.took) peer = .ok ⟨transport, none⟩ →
    (peer.respond transport query.request).run (now + opened.took + reached.took)
      reached.world = replied → replied.value = .given bytes →
    Brings stack query dial now world bytes (now + opened.took + reached.took + replied.took)

theorem Brings.unique {bytes bytes' : Http.Bytes} {arrival arrival' : Nat}
    (H : query.Brings stack dial now world bytes arrival)
    (H' : query.Brings stack dial now world bytes' arrival') :
    bytes = bytes' ∧ arrival = arrival' := by
  obtain ⟨rfl, hline, rfl, hpeer, hpassage, rfl, hbytes⟩ := H
  obtain ⟨rfl, hline', rfl, hpeer', hpassage', rfl, hbytes'⟩ := H'
  cases hline.symm.trans hline'
  cases hpeer.symm.trans hpeer'
  cases hpassage.symm.trans hpassage'
  cases hbytes.symm.trans hbytes'
  exact ⟨rfl, rfl⟩

/-- The connection of the query is opened and leads to a peer, at an instant. -/
inductive Meets (query : Query) (dial : Dial σ) (now : Nat) (world : σ) : Peer σ → Nat → Prop
  | intro {line : Line σ} {peer : Peer σ} {opened : Outcome σ (Except String (Line σ))}
      {reached : Outcome σ (Answer (Peer σ))} :
    (dial query.localPort).run now world = opened → opened.value = .ok line →
    line.run (now + opened.took) opened.world = reached → reached.value = .given peer →
    Meets query dial now world peer (now + opened.took + reached.took)

/-- Bytes arrive from the peer that the query meets, and only if neither end turns the other down. -/
theorem Brings.passage_eq {bytes : Http.Bytes} {arrival instant : Nat} {peer : Peer σ}
    (H : query.Brings stack dial now world bytes arrival)
    (H' : query.Meets dial now world peer instant) :
    ∃ transport, query.passage stack instant peer = .ok ⟨transport, none⟩ := by
  obtain ⟨rfl, hline, rfl, hpeer, hpassage, _, _⟩ := H
  obtain ⟨rfl, hline', rfl, hpeer'⟩ := H'
  cases hline.symm.trans hline'
  cases hpeer.symm.trans hpeer'
  exact ⟨_, hpassage⟩

/-- A client sends encrypted requests to servers whose certificates it accepts, and is turned down by
those that do not let it in. -/
theorem of_passage_of_client {client : Tls.Client} (htls : query.tls = some client) {peer : Peer σ}
    {passage : Passage} (h : query.passage stack now peer = .ok passage) :
    passage.transport = .encrypted ∧ ∃ server, peer.tls = some server ∧
      stack.verify client "localhost" now server.chain = .ok () ∧
      (passage.refusal = none ∧ server.judges client.chain = .admitted ∨
        ∃ reason, passage.refusal = some reason ∧ server.judges client.chain = .unheard reason) := by
  unfold Catalog.Query.passage at h
  rw [htls] at h
  cases hserver : peer.tls with
  | none => simp [hserver] at h
  | some server =>
    simp only [hserver, bind_eq_ok_iff, mapError_eq_ok_iff] at h
    obtain ⟨_, hverified, hadmission⟩ := h
    cases hjudged : server.judges client.chain with
    | admitted =>
      rw [hjudged] at hadmission
      cases hadmission
      exact ⟨rfl, server, rfl, hverified, .inl ⟨rfl, hjudged⟩⟩
    | refused reason =>
      rw [hjudged] at hadmission
      contradiction
    | unheard reason =>
      rw [hjudged] at hadmission
      cases hadmission
      exact ⟨rfl, server, rfl, hverified, .inr ⟨reason, rfl, hjudged⟩⟩

/-- A complete response reaches the query in time. -/
def Receives (stack : Network.Stack) (query : Query) (dial : Dial σ) (now : Nat) (world : σ)
    (response : Http.Response) : Prop :=
  ∃ bytes arrival, query.Brings stack dial now world bytes arrival ∧
    stack.readResponse bytes = .ok response ∧ arrival < query.strikes now

/-- A complete response that reports success reaches the query in time, and the text of its body
contains the prefix or does not, as `found` says. -/
def Shows (stack : Network.Stack) (query : Query) (dial : Dial σ) (now : Nat) (world : σ)
    (found : Bool) : Prop :=
  ∃ response, query.Receives stack dial now world response ∧
    (200 ≤ response.status ∧ response.status < 300) ∧
    (query.indexPrefix.toList <:+: (Utf8.decodeLossy response.body).toList ↔ found = true)

theorem receives_iff_of_brings {bytes : Http.Bytes} {arrival : Nat}
    (H : query.Brings stack dial now world bytes arrival) {response : Http.Response} :
    query.Receives stack dial now world response ↔
      stack.readResponse bytes = .ok response ∧ arrival < query.strikes now := by
  constructor
  · rintro ⟨bytes', arrival', H', hread, hintime⟩
    obtain ⟨rfl, rfl⟩ := H.unique H'
    exact ⟨hread, hintime⟩
  · rintro ⟨hread, hintime⟩
    exact ⟨bytes, arrival, H, hread, hintime⟩

theorem isSuccess_iff {code : Nat} : Http.isSuccess code = true ↔ 200 ≤ code ∧ code < 300 := by
  simp [Http.isSuccess]

theorem ofArrived_eq_ok_iff {bytes : Http.Bytes} {text : String} :
    ofArrived stack bytes = .ok text ↔
      ∃ response, stack.readResponse bytes = .ok response ∧
        (200 ≤ response.status ∧ response.status < 300) ∧ Utf8.decodeLossy response.body = text := by
  unfold ofArrived
  cases stack.readResponse bytes with
  | error fault => simp
  | ok response =>
    simp only [ofResponse, Except.ok.injEq, exists_eq_left', ← isSuccess_iff]
    split <;> simp_all

/-! ## What is had over a connection -/

section
variable {line : Line σ} {limit : Nat}

/-- What the peer sends is the query's answer, at the instant at which it arrives. -/
theorem run_askOver_of_given {peer : Peer σ} {passage : Passage} {bytes : Http.Bytes}
    {reached : Outcome σ (Answer (Peer σ))} {replied : Outcome σ (Answer Http.Bytes)}
    (hreached : line.run now world = reached) (hpeer : reached.value = .given peer)
    (hpassage : query.passage stack (now + reached.took) peer = .ok passage)
    (hreplied : (peer.respond passage.transport query.request).run (now + reached.took)
      reached.world = replied)
    (hbytes : replied.value = .given bytes) :
    ((query.askOver stack line).run now world).value = .given (passage.heard stack bytes) ∧
      ((query.askOver stack line).run now world).took = reached.took + replied.took := by
  have hask : ((query.ask stack peer).run (now + reached.took) reached.world).value =
        .given (passage.heard stack bytes) ∧
      ((query.ask stack peer).run (now + reached.took) reached.world).took = replied.took := by
    simp [ask, hpassage, hreplied, hbytes]
  simp [askOver, hreached, hpeer, hask]

/-- A text is had from a peer that is reached and answers, and from nobody else. -/
theorem exists_peer_of_askOver {text : String}
    (h : ((query.askOver stack line).run now world).value = .given (.ok text)) :
    ∃ peer reached passage replied bytes, line.run now world = reached ∧
      reached.value = .given peer ∧
      query.passage stack (now + reached.took) peer = .ok passage ∧
      (peer.respond passage.transport query.request).run (now + reached.took) reached.world =
        replied ∧
      replied.value = .given bytes ∧ passage.heard stack bytes = .ok text := by
  simp only [askOver, run_overNetwork, run_bind] at h
  cases hpeer : (line.run now world).value with
  | never => simp [hpeer] at h
  | given peer =>
    simp only [hpeer, ask, run_bind, run_now, Nat.add_zero] at h
    cases hpassage : query.passage stack (now + (line.run now world).took) peer with
    | error reason => simp [hpassage] at h
    | ok passage =>
      simp only [hpassage, run_bind] at h
      cases hbytes : ((peer.respond passage.transport query.request).run
          (now + (line.run now world).took) (line.run now world).world).value with
      | never => simp [hbytes] at h
      | given bytes =>
        simp only [hbytes, run_pure, Answer.given.injEq] at h
        exact ⟨peer, _, passage, _, bytes, rfl, hpeer, hpassage, rfl, hbytes, h⟩

theorem heard_eq_ok_iff {passage : Passage} {bytes : Http.Bytes} {text : String} :
    passage.heard stack bytes = .ok text ↔
      passage.refusal = none ∧ ofArrived stack bytes = .ok text := by
  unfold Passage.heard
  cases passage.refusal <;> simp

/-- What is had over a connection is had before the timer fires. -/
theorem value_fetchOver_eq_ok_iff {text : String} :
    ((query.fetchOver stack limit line).run now world).value = .ok text ↔
      ((query.askOver stack line).run now world).value = .given (.ok text) ∧
        now + ((query.askOver stack line).run now world).took < Clock.ceilMilli limit := by
  have htraffic : ((query.askOver stack line).run now world).traffic = true := rfl
  rw [← value_within_eq_some_iff htraffic]
  simp only [fetchOver, run_bind]
  cases ((within limit (query.askOver stack line)).run now world).value <;> simp

theorem value_fetchOver_of_given (limit : Nat) {result : Except String String}
    (h : ((query.askOver stack line).run now world).value = .given result) :
    ((query.fetchOver stack limit line).run now world).value =
      if now + ((query.askOver stack line).run now world).took < Clock.ceilMilli limit then result
      else .error query.overdue := by
  have htraffic : ((query.askOver stack line).run now world).traffic = true := rfl
  have hwithin := value_within_of_given limit htraffic h
  by_cases hintime : now + ((query.askOver stack line).run now world).took < Clock.ceilMilli limit
  · rw [if_pos hintime] at hwithin ⊢
    simp only [fetchOver, run_bind, hwithin, run_pure]
  · rw [if_neg hintime] at hwithin ⊢
    simp only [fetchOver, run_bind, hwithin, run_pure]

end

/-! ## What a query fetches -/

/-- The dialling is over in time, or it is cut off and is not over before the timer fires. -/
theorem run_dialling_cases (dial : Dial σ) (port : UInt16) (limit now : Nat) (world : σ) :
    let opened := (dial port).run now world
    let dialling := (within limit (Functor.map (f := Timed σ) .given (dial port))).run now world
    dialling = { opened with value := some opened.value } ∨
      dialling.value = none ∧ Clock.ceilMilli limit ≤ now + opened.took := by
  intro opened dialling
  rcases run_within_cases limit (Functor.map (f := Timed σ) .given (dial port)) now world with
    ⟨value, hvalue, hwithin⟩ | ⟨hnone, hlate⟩
  · have hopened : opened.value = value := Answer.given.inj hvalue
    exact .inl (hopened ▸ hwithin)
  · exact .inr ⟨hnone, hlate _ rfl⟩

section
variable {bytes : Http.Bytes} {arrival : Nat}

/-- What arrives in time is read, and nothing is that does not. -/
theorem value_fetchText_of_brings (H : query.Brings stack dial now world bytes arrival) :
    ((query.fetchText stack dial).run now world).value =
      if arrival < query.strikes now then ofArrived stack bytes else .error query.overdue := by
  obtain ⟨rfl, hline, hreached, hpeer, hpassage, hreplied, hbytes⟩ := H
  obtain ⟨hasked, htook⟩ := run_askOver_of_given hreached hpeer hpassage hreplied hbytes
  rw [strikes]
  simp only [fetchText, run_bind, run_now, Nat.add_zero]
  rcases run_dialling_cases dial query.localPort (Clock.deadline now query.requestTimeout) now world
    with hopened | ⟨hcut, hlate⟩
  · have hover := value_fetchOver_of_given (Clock.deadline now query.requestTimeout) hasked
    rw [htook, ← Nat.add_assoc] at hover
    simp only [hopened, hline]
    exact hover
  · simp only [hcut, run_pure]
    exact (if_neg (by omega)).symm

/-- A text is fetched only by what arrives in time. -/
theorem exists_brings_of_fetchText {text : String}
    (h : ((query.fetchText stack dial).run now world).value = .ok text) :
    ∃ bytes arrival, query.Brings stack dial now world bytes arrival ∧
      arrival < query.strikes now ∧ ofArrived stack bytes = .ok text := by
  simp only [fetchText, run_bind, run_now, Nat.add_zero] at h
  rcases run_dialling_cases dial query.localPort (Clock.deadline now query.requestTimeout) now world
    with hopened | ⟨hcut, _⟩
  · simp only [hopened] at h
    cases hline : ((dial query.localPort).run now world).value with
    | error reason => simp [hline] at h
    | ok line =>
      simp only [hline] at h
      obtain ⟨hasked, hintime⟩ := value_fetchOver_eq_ok_iff.mp h
      obtain ⟨peer, reached, ⟨transport, refusal⟩, replied, bytes, hreached, hpeer, hpassage,
        hreplied, hbytes, hheard⟩ := exists_peer_of_askOver hasked
      obtain ⟨hadmitted, hread⟩ := heard_eq_ok_iff.mp hheard
      cases hadmitted
      obtain ⟨_, htook⟩ := run_askOver_of_given hreached hpeer hpassage hreplied hbytes
      rw [htook, ← Nat.add_assoc] at hintime
      exact ⟨bytes, _, ⟨rfl, hline, hreached, hpeer, hpassage, hreplied, hbytes⟩, hintime, hread⟩
  · simp [hcut] at h

theorem value_fetchText_eq_ok_iff {text : String} :
    ((query.fetchText stack dial).run now world).value = .ok text ↔
      ∃ response, query.Receives stack dial now world response ∧
        (200 ≤ response.status ∧ response.status < 300) ∧
        Utf8.decodeLossy response.body = text := by
  constructor
  · intro h
    obtain ⟨bytes, arrival, H, hintime, harrived⟩ := exists_brings_of_fetchText h
    obtain ⟨response, hread, hsuccess, hbody⟩ := ofArrived_eq_ok_iff.mp harrived
    exact ⟨response, ⟨bytes, arrival, H, hread, hintime⟩, hsuccess, hbody⟩
  · rintro ⟨response, ⟨bytes, arrival, H, hread, hintime⟩, hsuccess, hbody⟩
    rw [value_fetchText_of_brings H, if_pos hintime]
    exact ofArrived_eq_ok_iff.mpr ⟨response, hread, hsuccess, hbody⟩

end

/-- A failed fetch names the query's address. -/
theorem value_fetch :
    (Timed.run (query.fetch dial stack) now world).value =
      ((query.fetchText stack dial).run now world).value.mapError (.queryTransport query.url) := by
  simp only [fetch, Attempt.ofTimed, ExceptT.mk, run_bind]
  cases ((query.fetchText stack dial).run now world).value <;> rfl

/-- The query's answer is that of the text it fetches, and it fails with the query's address. -/
theorem value_hasEntry :
    (Timed.run (query.hasEntry dial stack) now world).value =
      match ((query.fetchText stack dial).run now world).value with
      | .ok text => .ok (lists text query.indexPrefix)
      | .error reason => .error (.queryTransport query.url reason) := by
  have hfetch : (Timed.run (query.fetch dial stack) now world).value = _ := value_fetch
  unfold hasEntry
  cases h : ((query.fetchText stack dial).run now world).value with
  | ok text =>
    rw [h] at hfetch
    rw [Attempt.run_bind_ok hfetch]
    rfl
  | error reason =>
    rw [h] at hfetch
    rw [Attempt.run_bind_error hfetch]

/-- A query has an answer only by a complete response that reports success and is in time, and then
the answer is what the response shows. -/
theorem value_hasEntry_eq_ok_iff {found : Bool} :
    (Timed.run (query.hasEntry dial stack) now world).value = .ok found ↔
      query.Shows stack dial now world found := by
  rw [value_hasEntry]
  have hlists {text : String} : lists text query.indexPrefix = found ↔
      (query.indexPrefix.toList <:+: text.toList ↔ found = true) := by
    rw [lists, ← contains_iff, Bool.eq_iff_iff]
  constructor
  · intro hvalue
    cases h : ((query.fetchText stack dial).run now world).value with
    | error reason => simp [h] at hvalue
    | ok text =>
      obtain ⟨response, hreceives, hsuccess, rfl⟩ := value_fetchText_eq_ok_iff.mp h
      simp only [h, Except.ok.injEq] at hvalue
      exact ⟨response, hreceives, hsuccess, hlists.mp hvalue⟩
  · rintro ⟨response, hreceives, hsuccess, hshows⟩
    rw [value_fetchText_eq_ok_iff.mpr ⟨response, hreceives, hsuccess, rfl⟩]
    exact congrArg Except.ok (hlists.mpr hshows)

/-- All other exchanges are errors of this query. -/
theorem value_hasEntry_eq_error {e : Error}
    (h : (Timed.run (query.hasEntry dial stack) now world).value = .error e) :
    ∃ reason, e = .queryTransport query.url reason := by
  rw [value_hasEntry] at h
  cases hvalue : ((query.fetchText stack dial).run now world).value with
  | ok text => simp [hvalue] at h
  | error reason =>
    simp only [hvalue, Except.error.injEq] at h
    exact ⟨reason, h.symm⟩

/-! ## How long a query takes -/

theorem took_hasEntry :
    (Timed.run (query.hasEntry dial stack) now world).took =
      ((query.fetchText stack dial).run now world).took := by
  have hfetch : (Timed.run (query.fetch dial stack) now world).took =
      ((query.fetchText stack dial).run now world).took := by
    simp only [fetch, Attempt.ofTimed, ExceptT.mk, run_bind]
    cases ((query.fetchText stack dial).run now world).value <;> rfl
  rw [← hfetch]
  exact Attempt.took_bind_of_instant (fun _ _ _ => rfl) now world

theorem add_took_fetchOver_le {limit : Nat} {line : Line σ}
    (h : now ≤ Clock.ceilMilli limit) :
    now + ((query.fetchOver stack limit line).run now world).took ≤ Clock.ceilMilli limit := by
  have hwithin := took_within_le limit (query.askOver stack line) now world
  have htook : ((query.fetchOver stack limit line).run now world).took =
      ((within limit (query.askOver stack line)).run now world).took := by
    simp only [fetchOver, run_bind]
    split <;> rfl
  omega

/-- A query has come to something when its request timeout strikes. -/
theorem add_took_hasEntry_le :
    now + (Timed.run (query.hasEntry dial stack) now world).took ≤ query.strikes now := by
  let limit := Clock.deadline now query.requestTimeout
  let dialling :=
    (within limit (Functor.map (f := Timed σ) .given (dial query.localPort))).run now world
  have hnow : now ≤ Clock.ceilMilli limit :=
    Nat.le_trans (Clock.le_deadline now query.requestTimeout) (Clock.le_ceilMilli _)
  have hdialling : now + dialling.took ≤ Clock.ceilMilli limit := by
    have hwithin : dialling.took ≤ _ := took_within_le ..
    omega
  rw [took_hasEntry, strikes]
  simp only [fetchText, run_bind, run_now, Nat.add_zero, Nat.zero_add]
  split
  · exact hdialling
  · exact hdialling
  · next line _ =>
    rw [← Nat.add_assoc]
    exact add_took_fetchOver_le hdialling

end IndexWatch.Catalog.Query
