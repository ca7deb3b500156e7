import IndexWatch.Http.Response
import IndexWatch.Network.Tls

/-! The protocols as a machine speaks them.

How certificates are judged and how responses are read is not decided here: a `Stack` is an
implementation of both, and what is asked of one is said where it is needed. The `standard` stack
reads responses and knows no certificates. -/

namespace IndexWatch.Network

open Credentials

/-- An implementation of the protocols that a query is made with. -/
structure Stack where
  /-- Whether a client's certificates and key make up an end of a connection, or why they do not. -/
  setUp : Tls.Client → Except String Unit
  /-- What a client makes at an instant of the certificates that are shown for a host. -/
  verify : Tls.Client → String → Nat → List Der.Bytes → Except String Unit
  /-- What is told of a far end that does not speak TLS. -/
  plainFarEnd : String
  /-- The response in all that arrives until the connection is closed. -/
  readResponse : Http.Bytes → Except Http.Fault Http.Response

namespace Stack

/-- The client of a bundle, where one can be set up. -/
def client (stack : Stack) (bundle : Bundle) : Except Error Tls.Client :=
  match stack.setUp (.ofBundle bundle) with
  | .ok () => .ok (.ofBundle bundle)
  | .error reason =>
    .error (.credentialMalformed bundle.secret Entry.cert.name
      ("TLS configuration error: " ++ reason))

/-- Clients are set up if their key belongs to their certificate. No certificates are known, so none
is trusted. -/
def standard : Stack where
  setUp client :=
    match PrivateKey.publicKeyOf? client.key with
    | none => .error Bundle.unsupportedKey
    | some publicKey => (Bundle.matchKey client.chain (some publicKey)).mapError KeyFault.message
  verify _ _ _ _ := .error "invalid peer certificate: UnknownIssuer"
  plainFarEnd := "received corrupt message of type InvalidContentType"
  readResponse bytes := (Http.Response.read bytes).mapError Http.ResponseFault.told

end Stack

end IndexWatch.Network
