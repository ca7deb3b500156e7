import IndexWatch.Proofs.Catalog.Exchange
import IndexWatch.Proofs.Except
import IndexWatch.Proofs.Network.Stack

/-! # What a fetch comes to

What arrives for a query, and when, alone decide what its fetch comes to: the timeout is the failure
where they are too late, and else the bytes are read, `value_fetch_of_brings`. So a message that is
whole and in time gives its body or its status, however the server has written it, and one that is
cut off gives neither, `fetch_decided`. The stack may be any that delivers these messages. -/

namespace IndexWatch.Catalog.Query

open Text Timed

variable {σ : Type} {stack : Network.Stack} {query : Query} {dial : Dial σ} {now : Nat} {world : σ}

theorem value_fetch_of_brings {bytes : Http.Bytes} {arrival : Nat}
    (H : query.Brings stack dial now world bytes arrival) :
    (Timed.run (query.fetch dial stack) now world).value =
      if arrival < query.strikes now then
        (ofArrived stack bytes).mapError (.queryTransport query.url)
      else
        .error (.queryTransport query.url s!"no response within {query.requestTimeout.text}") := by
  rw [value_fetch, value_fetchText_of_brings H]
  split <;> rfl

/-! ## Whole messages and parts of them -/

/-- What a query comes to, for everything that may arrive for it. -/
structure Fetched (stack : Network.Stack) (query : Query) (dial : Dial σ) (now : Nat) (world : σ)
    (result : Except Error String) : Prop where
  ok_iff {message : Http.Message} {arrival : Nat} {text : String} : stack.Delivers message →
    query.Brings stack dial now world message.bytes arrival →
      (result = .ok text ↔ (200 ≤ message.status ∧ message.status < 300) ∧
        arrival < query.strikes now ∧ Utf8.decodeLossy message.body = text)
  refused {message : Http.Message} {arrival : Nat} : stack.Delivers message →
    query.Brings stack dial now world message.bytes arrival →
      ¬ (200 ≤ message.status ∧ message.status < 300) → arrival < query.strikes now →
      result = .error (.queryTransport query.url
        s!"unexpected status {Http.statusText message.status}: {trim (Utf8.decodeLossy message.body)}")
  /-- Within the heads, or within a body whose end is told, the rest is missed. -/
  cut {message : Http.Message} {part : Http.Bytes} {arrival : Nat} : stack.Delivers message →
    query.Brings stack dial now world part arrival → Http.Cut part message.bytes →
      (message.content.isDelimited = true ∨ Http.Cut part message.heads) →
      ∃ reason, result = .error (.queryTransport query.url reason)
  late {bytes : Http.Bytes} {arrival : Nat} :
    query.Brings stack dial now world bytes arrival → query.strikes now ≤ arrival →
      result = .error (.queryTransport query.url s!"no response within {query.requestTimeout.text}")
  /-- Another message with the same status and body, elsewhere and at another time, comes to the
  same if both are in time or both too late. -/
  unframed {τ : Type} {dial' : Dial τ} {now' : Nat} {world' : τ} {message message' : Http.Message}
    {arrival arrival' : Nat} : stack.Delivers message → stack.Delivers message' →
    query.Brings stack dial now world message.bytes arrival →
      query.Brings stack dial' now' world' message'.bytes arrival' →
      message.status = message'.status → message.body = message'.body →
      (arrival < query.strikes now ↔ arrival' < query.strikes now') →
      result = (Timed.run (query.fetch dial' stack) now' world').value
  received {text : String} : result = .ok text →
    ∃ response, query.Receives stack dial now world response ∧
      (200 ≤ response.status ∧ response.status < 300) ∧ Utf8.decodeLossy response.body = text
  failed {e : Error} : result = .error e → ∃ reason, e = .queryTransport query.url reason

theorem ofArrived_of_delivers {message : Http.Message} (H : stack.Delivers message) :
    ofArrived stack message.bytes = ofResponse ⟨message.status, message.body⟩ := by
  rw [ofArrived, H.whole]

/-- **What a fetch comes to.** A whole message that is in time gives the text of its body if its
status reports success, and else a failure that tells the status and the text. What is cut off, what
is too late, and every other exchange is a failure that names the address. -/
theorem fetch_decided (stack : Network.Stack) (query : Query) (dial : Dial σ) (now : Nat)
    (world : σ) :
    query.Fetched stack dial now world (Timed.run (query.fetch dial stack) now world).value where
  ok_iff {message arrival text} hdelivers H := by
    rw [value_fetch_of_brings H, ofArrived_of_delivers hdelivers, ofResponse, ← isSuccess_iff]
    by_cases hintime : arrival < query.strikes now
    · cases Http.isSuccess message.status <;> simp [hintime, Except.mapError]
    · simp [hintime]
  refused {message arrival} hdelivers H hstatus hintime := by
    rw [value_fetch_of_brings H, if_pos hintime, ofArrived_of_delivers hdelivers, ofResponse,
      if_neg (mt isSuccess_iff.mp hstatus)]
    rfl
  cut {message part arrival} hdelivers H hcut htold := by
    obtain ⟨fault, hfault⟩ := hdelivers.cut hcut htold
    rw [value_fetch_of_brings H, ofArrived, hfault]
    split <;> exact ⟨_, rfl⟩
  late {bytes arrival} H hlate := by
    rw [value_fetch_of_brings H, if_neg (Nat.not_lt.mpr hlate)]
  unframed {τ dial' now' world' message message' arrival arrival'} hdelivers hdelivers' H H' hstatus
      hbody htimely := by
    rw [value_fetch_of_brings H, value_fetch_of_brings H', ofArrived_of_delivers hdelivers,
      ofArrived_of_delivers hdelivers', hstatus, hbody]
    simp only [htimely]
  received {text} h := by
    rw [value_fetch, mapError_eq_ok_iff] at h
    exact value_fetchText_eq_ok_iff.mp h
  failed {e} h := by
    rw [value_fetch] at h
    cases hfetch : ((query.fetchText stack dial).run now world).value with
    | error reason =>
      rw [hfetch] at h
      exact ⟨reason, (Except.error.inj h).symm⟩
    | ok catalog =>
      rw [hfetch] at h
      contradiction

/-! ## A peer that takes its time -/

/-- A peer that speaks in the clear and answers with the same bytes after the same time. -/
def slow (delay : Nat) (bytes : Http.Bytes) : Peer Unit :=
  ⟨none, fun _ _ _ world => ⟨delay, true, world, .given bytes⟩⟩

def answering (delay : Nat) (bytes : Http.Bytes) : Dial Unit := fun _ =>
  Timed.done (.ok (Timed.done (.given (slow delay bytes))))

theorem passage_of_plain (htls : query.tls = none) (peer : Peer σ) :
    query.passage stack now peer = .ok ⟨.plain, none⟩ := by
  simp [passage, htls]

theorem brings_answering (htls : query.tls = none) (now delay : Nat) (bytes : Http.Bytes) :
    query.Brings stack (answering delay bytes) now () bytes (now + delay) :=
  @Brings.intro Unit stack query (answering delay bytes) now () _ (slow delay bytes) .plain bytes
    _ _ _ rfl rfl rfl rfl (passage_of_plain htls _) rfl rfl

/-- A query whose request timeout is longer than the clock runs. -/
def patientQuery : Query := ⟨9200, "jaeger-", none, .longest⟩

def lateAnswer : Http.Response := ⟨200, Http.ascii "jaeger-span-2024-01-01\n"⟩

/-- It gives up after thirty years all the same: a whole message that comes a second later is within
the request timeout, and no text is fetched. -/
theorem patientQuery_gives_up :
    let delay := 946080001000000000
    let bytes := lateAnswer.render .length
    (∃ message : Http.Message, message.bytes = bytes ∧ message.status = 200) ∧
      patientQuery.Brings .standard (answering delay bytes) 0 () bytes (0 + delay) ∧
      0 + delay < Clock.ceilMilli (0 + patientQuery.requestTimeout.nanos) ∧
      ∀ text, (Timed.run (patientQuery.fetch (answering delay bytes) .standard) 0 ()).value ≠
        .ok text := by
  intro delay bytes
  have hbrings : patientQuery.Brings .standard (answering delay bytes) 0 () bytes (0 + delay) :=
    brings_answering rfl 0 delay bytes
  have hlate : ¬ 0 + delay < patientQuery.strikes 0 := by decide
  have hge : 200 ≤ lateAnswer.status := by decide
  obtain ⟨message, hbytes, hstatus, _⟩ :=
    Http.exists_message_render hge (by decide) (by decide) .length
  refine ⟨⟨message, hbytes, hstatus⟩, hbrings, by decide, fun text => ?_⟩
  rw [value_fetch_of_brings hbrings, if_neg hlate]
  exact nofun

end IndexWatch.Catalog.Query
