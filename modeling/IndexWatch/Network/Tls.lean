import IndexWatch.Credentials.Bundle

/-! The two ends of an encrypted connection: what a client brings, and what a server shows and makes
of it. -/

namespace IndexWatch.Tls

open Credentials

/-- What a client brings: the certificates it trusts and the one it shows. -/
structure Client where
  roots : List Certificate
  chain : List Der.Bytes
  key : Pem.Section
deriving DecidableEq

/-- What a server makes of a client's certificates. -/
inductive Admission where
  | admitted
  /-- The client is told so when the two agree on how to speak. -/
  | refused (reason : String)
  /-- The client is told so only after it has sent its request. -/
  | unheard (reason : String)
deriving DecidableEq

/-- What a server shows, and which clients it lets in. -/
structure Server where
  /-- The certificates that the server shows, its own first. -/
  chain : List Der.Bytes
  judges : List Der.Bytes → Admission

/-- The client of a bundle of credentials. -/
def Client.ofBundle (bundle : Bundle) : Client := ⟨bundle.roots, bundle.clientChain, bundle.clientKey⟩

end IndexWatch.Tls
