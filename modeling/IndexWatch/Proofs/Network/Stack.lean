import IndexWatch.Network.Stack
import IndexWatch.Proofs.Credentials.Loading
import IndexWatch.Proofs.Http.Message

/-! # What is asked of a stack

A `Stack` is any implementation of the protocols, so what is proved over it holds of whatever it
makes of what arrives. Two properties say what the protocols themselves demand: a stack `Delivers` a
message if it reads it as it was written, and it `Verifies` by a notion of trust if it accepts no
certificates that this notion does not. The `standard` stack delivers every message,
`standard_delivers`. -/

namespace IndexWatch.Network

open Credentials

/-- What certificates are worth: which are issued under which roots, and for which hosts. -/
structure Trust where
  IssuedUnder : List Certificate → List Der.Bytes → Prop
  IsFor : List Der.Bytes → String → Prop

namespace Stack

/-- The status and the body of a message are read, and there is no response in a part of it that
ends before the end of the message can be told. -/
structure Delivers (stack : Stack) (message : Http.Message) : Prop where
  whole : stack.readResponse message.bytes = .ok ⟨message.status, message.body⟩
  cut {part : Http.Bytes} : Http.Cut part message.bytes →
    (message.content.isDelimited = true ∨ Http.Cut part message.heads) →
    ∃ fault, stack.readResponse part = .error fault

/-- Certificates that a client accepts for a host are issued under its roots and for the host. -/
structure Verifies (stack : Stack) (trust : Trust) : Prop where
  issued {client : Tls.Client} {host : String} {now : Nat} {chain : List Der.Bytes} :
    stack.verify client host now chain = .ok () → trust.IssuedUnder client.roots chain
  isFor {client : Tls.Client} {host : String} {now : Nat} {chain : List Der.Bytes} :
    stack.verify client host now chain = .ok () → trust.IsFor chain host

/-! ## Setting up clients -/

section
variable {stack : Stack} {bundle : Bundle}

theorem client_eq_ok_iff {client : Tls.Client} :
    stack.client bundle = .ok client ↔
      stack.setUp (.ofBundle bundle) = .ok () ∧ client = .ofBundle bundle := by
  unfold Stack.client
  cases stack.setUp (.ofBundle bundle) <;> simp [eq_comm]

/-- A client that cannot be set up is told of the certificate of the secret. -/
theorem client_eq_error {e : Error} (h : stack.client bundle = .error e) :
    ∃ reason, stack.setUp (.ofBundle bundle) = .error reason ∧
      e = .credentialMalformed bundle.secret "admin-cert"
        ("TLS configuration error: " ++ reason) := by
  unfold Stack.client at h
  cases hsetUp : stack.setUp (.ofBundle bundle) with
  | error reason =>
    rw [hsetUp] at h
    exact ⟨reason, rfl, (Except.error.inj h).symm⟩
  | ok =>
    rw [hsetUp] at h
    contradiction

/-- The standard stack sets up a client with every bundle that is made of three texts. -/
theorem standard_client {secret : String} {ca cert key : Der.Bytes}
    (H : bundle.MadeOf secret ca cert key) : standard.client bundle = .ok (.ofBundle bundle) := by
  obtain ⟨publicKey, hkey, hmatch⟩ := H.key
  have hpublic : PrivateKey.publicKeyOf? bundle.clientKey = some publicKey :=
    Bundle.publicKeyOf?_of_readKey hkey
  refine client_eq_ok_iff.mpr ⟨?_, rfl⟩
  simp only [standard, Tls.Client.ofBundle, hpublic, hmatch]
  rfl

end

/-! ## Reading messages -/

theorem standard_delivers (message : Http.Message) : standard.Delivers message where
  whole := congrArg (Except.mapError Http.ResponseFault.told) message.read_bytes
  cut hcut htold := by
    obtain ⟨fault, hfault⟩ := message.exists_fault_of_cut hcut htold
    exact ⟨fault.told, congrArg (Except.mapError Http.ResponseFault.told) hfault⟩

end Stack

end IndexWatch.Network
