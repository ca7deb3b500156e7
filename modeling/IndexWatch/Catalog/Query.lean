import IndexWatch.Attempt
import IndexWatch.Network.Peer
import IndexWatch.Network.Stack
import IndexWatch.Text.Blank
import IndexWatch.Text.Occurrence

/-! One look into the catalog of indices.

A query opens a connection, asks for the catalog once and reads the answer, all before its request
timeout strikes. Everything but a complete answer that reports success is an error. The protocols
are those of a `Network.Stack`. -/

namespace IndexWatch.Catalog

open Text Timed

/-- The host that is dialled and that the server's certificate must be for. -/
def host : String := "localhost"

def path : String := "/_cat/indices"

structure Query where
  localPort : UInt16
  indexPrefix : String
  /-- With it the connection is encrypted. -/
  tls : Option Tls.Client
  requestTimeout : Duration

/-- How long one request may take. -/
def standardRequestTimeout : Duration := .ofSeconds 10

/-- Whether a catalog lists an index whose name contains `indexPrefix`. -/
def lists (catalog indexPrefix : String) : Bool := Text.contains catalog indexPrefix

namespace Query

def isSecure (query : Query) : Bool := query.tls.isSome

def url (query : Query) : String :=
  let scheme := if query.isSecure then "https" else "http"
  s!"{scheme}://{host}:{query.localPort}{path}"

/-- The query for diagnostics. -/
def spelling (query : Query) : String :=
  spellRecord "CatalogQuery"
    [("url", spell query.url), ("prefix", spell query.indexPrefix),
      ("request_timeout", spell query.requestTimeout)]

/-- The request as it is sent. -/
def request (query : Query) : Http.Bytes :=
  Http.ascii s!"GET {path} HTTP/1.1" ++ Http.lineEnd ++
    Http.ascii s!"host: {host}:{query.localPort}" ++ Http.lineEnd ++ Http.lineEnd

/-- The catalog in a response, or why it holds none. -/
def ofResponse (response : Http.Response) : Except String String :=
  if Http.isSuccess response.status then .ok (Utf8.decodeLossy response.body)
  else .error s!"unexpected status {Http.statusText response.status}: {trim (Utf8.decodeLossy response.body)}"

/-- The catalog in all that arrived. -/
def ofArrived (stack : Network.Stack) (bytes : Http.Bytes) : Except String String :=
  match stack.readResponse bytes with
  | .error fault =>
    .error ((if fault.early then "request failed: " else "failed to read body: ") ++ fault.reason)
  | .ok response => ofResponse response

/-- How a request gets to a peer, and why it is turned away there, if it is. -/
structure Passage where
  transport : Transport
  refusal : Option String
deriving DecidableEq

variable {σ : Type}

/-- How the request to a peer gets there, or why none is sent. The certificates of a peer are judged
at the instant `now`. -/
def passage (stack : Network.Stack) (query : Query) (now : Nat) (peer : Peer σ) :
    Except String Passage :=
  match query.tls, peer.tls with
  | none, _ => .ok ⟨.plain, none⟩
  | some _, none => .error ("TLS handshake failed: " ++ stack.plainFarEnd)
  | some client, some server => do
    (stack.verify client host now server.chain).mapError ("TLS handshake failed: " ++ ·)
    match server.judges client.chain with
    | .admitted => return ⟨.encrypted, none⟩
    | .refused reason => throw ("TLS handshake failed: " ++ reason)
    | .unheard reason => return ⟨.encrypted, some reason⟩

/-- What is made of all that arrives over a passage. -/
def Passage.heard (stack : Network.Stack) (passage : Passage) (bytes : Http.Bytes) :
    Except String String :=
  match passage.refusal with
  | some reason => .error ("request failed: " ++ reason)
  | none => ofArrived stack bytes

/-- Sends the request to a peer and reads what it answers. -/
def ask (stack : Network.Stack) (query : Query) (peer : Peer σ) :
    Timed σ (Answer (Except String String)) := do
  match query.passage stack (← now) peer with
  | .error reason => return .given (.error reason)
  | .ok passage =>
    match ← peer.respond passage.transport query.request with
    | .never => return .never
    | .given bytes => return .given (passage.heard stack bytes)

/-- Asks the far end of a connection, once it is reached. -/
def askOver (stack : Network.Stack) (query : Query) (line : Line σ) :
    Timed σ (Answer (Except String String)) :=
  overNetwork do
    match ← line with
    | .never => return .never
    | .given peer => query.ask stack peer

/-- What is told when the request timeout strikes. -/
def overdue (query : Query) : String := s!"no response within {query.requestTimeout.text}"

/-- What is had over a connection until the timer of `limit` fires. -/
def fetchOver (stack : Network.Stack) (query : Query) (limit : Nat) (line : Line σ) :
    Timed σ (Except String String) := do
  match ← within limit (query.askOver stack line) with
  | some result => return result
  | none => return .error query.overdue

/-- The catalog, or the reason why there is none. One timer cuts off the opening of the connection
and all that follows. -/
def fetchText (stack : Network.Stack) (query : Query) (dial : Dial σ) :
    Timed σ (Except String String) := do
  let limit := Clock.deadline (← now) query.requestTimeout
  match ← within limit (Functor.map (f := Timed σ) .given (dial query.localPort)) with
  | none => return .error query.overdue
  | some (.error reason) => return .error ("connection failed: " ++ reason)
  | some (.ok line) => query.fetchOver stack limit line

/-- The catalog; every failure names this query's address. -/
def fetch (query : Query) (dial : Dial σ) (stack : Network.Stack := .standard) : Attempt σ String :=
  .ofTimed do
    match ← query.fetchText stack dial with
    | .ok catalog => return .ok catalog
    | .error reason => return .error (.queryTransport query.url reason)

/-- Whether the catalog lists an index with the query's prefix. -/
def hasEntry (query : Query) (dial : Dial σ) (stack : Network.Stack := .standard) :
    Attempt σ Bool := do
  return lists (← query.fetch dial stack) query.indexPrefix

end Query

end IndexWatch.Catalog
