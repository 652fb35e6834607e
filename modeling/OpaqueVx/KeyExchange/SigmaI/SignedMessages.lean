import OpaqueVx.Reference

/-! # What is signed is what is verified

  A signature protocol has two ways to its messages: the hashes of both, at the time
  of signing, or the slices of one at a time, where the message to be verified is
  built later from the cached part. Both give the same bytes, and what one party
  signs is what the other verifies. -/

namespace OpaqueVx.SigmaI

open Lib

variable {CS : CipherSuite} {KE : Group}

namespace Message

/-- The messages of a server and a client in one login, with the same names. -/
structure Matches (server client : Message CS KE) : Prop where
  serverRole : server.role = .server
  clientRole : client.role = .client
  context : server.context.context = client.context.context
  clientIdentifier : server.identifiers.client.bytes = client.identifiers.client.bytes
  serverIdentifier : server.identifiers.server.bytes = client.identifiers.server.bytes
  cache : server.cache = client.cache

/-- The message of the party in role `signer`, with the names that `self` has. -/
def signedAs (self : Message CS KE) (signer : Role) : List Bytes :=
  self.context.iter ++ self.cache.postMessage signer
    (match signer with
    | .server => self.identifiers.server
    | .client => self.identifiers.client)

theorem signMessage_eq (m : Message CS KE) : m.signMessage = m.signedAs m.role := by
  cases m with
  | mk role context identifiers cache => cases role <;> rfl

/-- The role of the other party. -/
def otherRole : Role → Role
  | .server => .client
  | .client => .server

theorem verifyMessage_eq (m : Message CS KE) :
    m.verifyMessage = m.signedAs (otherRole m.role) := by
  cases m with
  | mk role context identifiers cache => cases role <;> rfl

variable {server client : Message CS KE}

/-- Both parties have the same idea of either message. -/
theorem Matches.signedAs_eq (h : Matches server client) (signer : Role) :
    server.signedAs signer = client.signedAs signer := by
  have hcontext : server.context = client.context := SerializedContext.ext_context h.context
  cases signer with
  | server =>
    have hidentifier := SerializedIdentifier.iter_congr h.serverIdentifier
    simp only [signedAs, CachedMessage.postMessage, hcontext, h.cache, hidentifier]
  | client =>
    have hidentifier := SerializedIdentifier.iter_congr h.clientIdentifier
    simp only [signedAs, CachedMessage.postMessage, hcontext, h.cache, hidentifier]

/-- The client verifies what the server signs. -/
theorem Matches.signed_by_server (h : Matches server client) :
    server.signMessage = client.verifyMessage := by
  rw [signMessage_eq, verifyMessage_eq, h.serverRole, h.clientRole, h.signedAs_eq]
  rfl

/-- The server verifies what the client signs. -/
theorem Matches.signed_by_client (h : Matches server client) :
    client.signMessage = server.verifyMessage := by
  rw [signMessage_eq, verifyMessage_eq, h.clientRole, h.serverRole, h.signedAs_eq]
  rfl

/-- Both hashes start with the context and go on with one of the messages. -/
theorem absorbed_hash (m : Message CS KE) (H : Hash) :
    (m.hash H).sign.absorbed = m.signMessage.flatten ∧
      (m.hash H).verify.absorbed = m.verifyMessage.flatten := by
  simp [hash, signMessage, verifyMessage]

/-- The cached part survives being written down, whatever follows it. -/
theorem cached_readBack (m : Message CS KE) (rest : Bytes) :
    CachedMessage.deserializeTake.run (m.toCached.serialize.bytes ++ rest) =
      .ok (m.toCached, rest) :=
  CachedMessage.codec_lawful.roundTrip m.toCached rest

end Message

/-- The message that is verified with a cached part, as the peer's. -/
def verifiedWith (m : Message CS KE) (cached : CachedMessage CS KE) : List Bytes :=
  (MessageBuilder.build { role := m.role, context := m.context, identifier := m.peer }
    cached).verifyMessage

theorem verifiedWith_cached (m : Message CS KE) :
    verifiedWith m m.toCached = m.verifyMessage :=
  m.build_toCached

/-- The pre-hashes are the hashes of the two messages, the message to be verified is
    the one built from the cached part, and two parties to one login sign and verify
    the same bytes in either way, also when the cached part is written down in
    between. -/
theorem signature_paths_agree (CS : CipherSuite) (KE : Group) :
    (∀ (m : Message CS KE) (H : Hash),
      (m.hash H).sign.finalize = H.digest m.signMessage.flatten ∧
      (m.hash H).verify.finalize = H.digest (verifiedWith m m.toCached).flatten) ∧
    (∀ server client : Message CS KE, Message.Matches server client →
      server.signMessage = verifiedWith client client.toCached ∧
      client.signMessage = verifiedWith server server.toCached ∧
      (∀ H : Hash, (server.hash H).sign.absorbed = (client.hash H).verify.absorbed ∧
        (client.hash H).sign.absorbed = (server.hash H).verify.absorbed) ∧
      (∀ rest, ∃ cached,
        CachedMessage.deserializeTake.run (client.toCached.serialize.bytes ++ rest) =
          .ok (cached, rest) ∧
        server.signMessage = verifiedWith client cached) ∧
      (∀ rest, ∃ cached,
        CachedMessage.deserializeTake.run (server.toCached.serialize.bytes ++ rest) =
          .ok (cached, rest) ∧
        client.signMessage = verifiedWith server cached)) ∧
    (∀ (E : Curve25519Dalek.EdwardsCurve) (V : Voprf) (H : Hash) (F : Ksf)
      (server client : Message (Ed25519.suite E V H F) KE), Message.Matches server client →
      ∀ (sk : Ed25519.SigningKey E) (pk : Ed25519.VerifyingKey E) (signature : Ed25519.Signature),
      (Ed25519.pureEddsa E V H F KE).verify pk client.messageBuilder
          ((Ed25519.pureEddsa E V H F KE).sign sk client).2 signature =
        Ed25519.verify pk false server.signMessage signature ∧
      (Ed25519.pureEddsa E V H F KE).verify pk server.messageBuilder
          ((Ed25519.pureEddsa E V H F KE).sign sk server).2 signature =
        Ed25519.verify pk false client.signMessage signature ∧
      (Ed25519.hashEddsa E V H F KE).verify pk
          ((Ed25519.hashEddsa E V H F KE).sign sk client).2 signature =
        Ed25519.verify pk true [(E.Sha512.digest server.signMessage.flatten).bytes] signature ∧
      (Ed25519.hashEddsa E V H F KE).verify pk
          ((Ed25519.hashEddsa E V H F KE).sign sk server).2 signature =
        Ed25519.verify pk true [(E.Sha512.digest client.signMessage.flatten).bytes]
          signature) := by
  refine ⟨?_, ?_, ?_⟩
  · intro m H
    rw [verifiedWith_cached]
    exact ⟨m.hash_sign H, m.hash_verify H⟩
  · intro server client h
    have hserver : server.signMessage = verifiedWith client client.toCached := by
      rw [verifiedWith_cached, h.signed_by_server]
    have hclient : client.signMessage = verifiedWith server server.toCached := by
      rw [verifiedWith_cached, h.signed_by_client]
    refine ⟨hserver, hclient, ?_, ?_, ?_⟩
    · intro H
      obtain ⟨hs, hv⟩ := server.absorbed_hash H
      obtain ⟨hs', hv'⟩ := client.absorbed_hash H
      rw [hs, hv, hs', hv', h.signed_by_server, h.signed_by_client]
      exact ⟨rfl, rfl⟩
    · intro rest
      exact ⟨client.toCached, client.cached_readBack rest, hserver⟩
    · intro rest
      exact ⟨server.toCached, server.cached_readBack rest, hclient⟩
  · intro E V H F server client h sk pk signature
    -- PureEdDSA rebuilds the message, HashEdDSA keeps the pre-hash of it.
    refine ⟨?_, ?_, ?_, ?_⟩
    · show Ed25519.verify pk false (verifiedWith client client.toCached) signature = _
      rw [verifiedWith_cached, h.signed_by_server]
    · show Ed25519.verify pk false (verifiedWith server server.toCached) signature = _
      rw [verifiedWith_cached, h.signed_by_client]
    · show Ed25519.verify pk true [((client.hash E.Sha512).verify.finalize).bytes] signature = _
      rw [client.hash_verify, h.signed_by_server]
    · show Ed25519.verify pk true [((server.hash E.Sha512).verify.finalize).bytes] signature = _
      rw [server.hash_verify, h.signed_by_client]

end OpaqueVx.SigmaI

namespace OpaqueVx.Reference

/-- The two parties of a login with Ed25519 keys, each with its message. -/
def cachedMessage : SigmaI.CachedMessage edwardsSuite group where
  credentialRequest := edwardsParties.credentialRequest
  ke1Message := ⟨.zeros _, single 12⟩
  credentialResponse := edwardsParties.credentialResponse
  serverNonce := .zeros _
  serverEPk := single 33
  serverMac := single 7

def messageOf (role : SigmaI.Role) : SigmaI.Message edwardsSuite group where
  role := role
  context := edwardsParties.context
  identifiers := edwardsParties.identifiers
  cache := cachedMessage

theorem messages_match : SigmaI.Message.Matches (messageOf .server) (messageOf .client) :=
  ⟨rfl, rfl, rfl, rfl, rfl, rfl⟩

end OpaqueVx.Reference

namespace OpaqueVx.SigmaI

open Reference (messageOf)

/-- The client hashes what the server hashes, and accepts the server's signature with what it
    has kept. -/
theorem signature_paths_agree_reference :
    ((messageOf .server).hash Reference.hash).sign.absorbed =
        ((messageOf .client).hash Reference.hash).verify.absorbed ∧
      ∀ sk : Ed25519.SigningKey Reference.edwards,
        (Ed25519.pureEddsa Reference.edwards Reference.voprf Reference.hash .identity
            Reference.group).verify sk.verifyingKey (messageOf .client).messageBuilder
          (messageOf .client).toCached (Ed25519.sign sk false (messageOf .server).signMessage) =
        .ok () := by
  obtain ⟨-, hmatched, hsigned⟩ :=
    signature_paths_agree Reference.edwardsSuite Reference.group
  refine ⟨?_, ?_⟩
  · obtain ⟨-, -, hhashes, -⟩ := hmatched _ _ Reference.messages_match
    exact (hhashes Reference.hash).1
  · intro sk
    obtain ⟨hclient, -⟩ := hsigned Reference.edwards Reference.voprf Reference.hash .identity _ _
      Reference.messages_match sk sk.verifyingKey
      (Ed25519.sign sk false (messageOf .server).signMessage)
    exact hclient.trans (Ed25519.verify_eq_ok.mpr (Ed25519.sign_valid sk false _))

end OpaqueVx.SigmaI
