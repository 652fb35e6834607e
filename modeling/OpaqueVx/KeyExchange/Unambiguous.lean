import OpaqueVx.KeyExchange.TripleDhKem
import OpaqueVx.KeyExchange.SigmaI.Message

/-! # Unambiguous encodings

  The byte strings that are hashed and signed determine everything that went into
  them. Their parts have fixed lengths, except for the context and the identifiers,
  which have length fields. A length that does not fit is refused. -/

namespace OpaqueVx

open Lib

variable {CS : CipherSuite} {KE : Group}

/-! ### Signed messages -/

namespace SigmaI

/-- What both signed messages contain, but for the server's MAC. -/
@[ext] structure CachedView (CS : CipherSuite) (KE : Group) where
  credentialRequest : SerializedCredentialRequest CS
  ke1Message : Ke1MessageIter KE
  credentialResponse : SerializedCredentialResponse CS
  serverNonce : GenericArray nonceLen
  serverEPk : GenericArray KE.PkLen

def CachedMessage.view (m : CachedMessage CS KE) : CachedView CS KE :=
  { credentialRequest := m.credentialRequest
    ke1Message := m.ke1Message
    credentialResponse := m.credentialResponse
    serverNonce := m.serverNonce
    serverEPk := m.serverEPk }

/-- The server's message determines context, server identifier and cached fields. -/
theorem signMessage_server_inj {m m' : Message CS KE} (hm : m.role = .server)
    (hm' : m'.role = .server) (h : m.signMessage.flatten = m'.signMessage.flatten) :
    m.context.context = m'.context.context ∧
      m.identifiers.server.bytes = m'.identifiers.server.bytes ∧
      m.cache.view = m'.cache.view := by
  simp only [Message.signMessage, Message.postMessage, hm, hm', CachedMessage.postMessage,
    List.flatten_append, List.append_assoc, List.flatten_cons, List.flatten_nil, List.append_nil,
    reduceCtorEq, if_false, if_true, List.nil_append] at h
  obtain ⟨hcontext, h⟩ := SerializedContext.iter_inj h
  obtain ⟨hrequest, hke1, h⟩ := request_append_inj h
  obtain ⟨hserver, h⟩ := SerializedIdentifier.iter_inj h
  rw [← List.append_nil m.cache.serverEPk.bytes, ← List.append_nil m'.cache.serverEPk.bytes] at h
  obtain ⟨hresponse, hnonce, hepk, -⟩ := response_append_inj h
  exact ⟨hcontext, hserver, CachedView.ext hrequest hke1 hresponse hnonce hepk⟩

/-- The client's message determines context, client identifier, cached fields and
    the server's MAC. -/
theorem signMessage_client_inj {m m' : Message CS KE} (hm : m.role = .client)
    (hm' : m'.role = .client) (h : m.signMessage.flatten = m'.signMessage.flatten) :
    m.context.context = m'.context.context ∧
      m.identifiers.client.bytes = m'.identifiers.client.bytes ∧ m.cache = m'.cache := by
  simp only [Message.signMessage, Message.postMessage, hm, hm', CachedMessage.postMessage,
    List.flatten_append, List.append_assoc, List.flatten_cons, List.flatten_nil, List.append_nil,
    reduceCtorEq, if_false, if_true] at h
  obtain ⟨hcontext, h⟩ := SerializedContext.iter_inj h
  obtain ⟨hclient, h⟩ := SerializedIdentifier.iter_inj h
  obtain ⟨hrequest, hke1, h⟩ := request_append_inj h
  obtain ⟨hresponse, hnonce, hepk, hmac⟩ := response_append_inj h
  exact ⟨hcontext, hclient, CachedMessage.ext hrequest hke1 hresponse hnonce hepk
    (GenericArray.bytes_injective hmac)⟩

end SigmaI

/-! ### Transcripts -/

/-- What `transcript` is called with. -/
structure TranscriptInput (CS : CipherSuite) (KE : Group) where
  context : SerializedContext
  identifiers : SerializedIdentifiers CS.KeGroup
  credentialRequest : SerializedCredentialRequest CS
  ke1Message : Ke1MessageIter KE
  credentialResponse : SerializedCredentialResponse CS
  serverNonce : GenericArray nonceLen
  serverEPk : GenericArray KE.PkLen

namespace TranscriptInput

def hasher (t : TranscriptInput CS KE) : Hasher CS.KeHash :=
  transcript t.context t.identifiers t.credentialRequest t.ke1Message t.credentialResponse
    t.serverNonce t.serverEPk

/-- The components, with the names that the identifiers stand for. -/
def view (t : TranscriptInput CS KE) : SessionView CS KE :=
  .of t.context t.identifiers t.credentialRequest t.ke1Message t.credentialResponse t.serverNonce
    t.serverEPk

/-- The hash of a key exchange with a KEM before the server's MAC. -/
def kemHasher {K : KemCoreWrapper} (t : TranscriptInput CS KE)
    (ek : GenericArray K.EncapsulationKeyLen) (ct : GenericArray K.CiphertextLen) :
    Hasher CS.KeHash :=
  (t.hasher.update ek.bytes).update ct.bytes

theorem hasher_append_inj {t t' : TranscriptInput CS KE} {x y : Bytes}
    (h : t.hasher.absorbed ++ x = t'.hasher.absorbed ++ y) : t.view = t'.view ∧ x = y :=
  transcript_append_inj h

theorem kemHasher_append_inj {K : KemCoreWrapper} {t t' : TranscriptInput CS KE}
    {ek ek' : GenericArray K.EncapsulationKeyLen} {ct ct' : GenericArray K.CiphertextLen}
    {x y : Bytes}
    (h : (t.kemHasher ek ct).absorbed ++ x = (t'.kemHasher ek' ct').absorbed ++ y) :
    t.view = t'.view ∧ ek = ek' ∧ ct = ct' ∧ x = y := by
  simp only [kemHasher, Hasher.absorbed_update, List.append_assoc] at h
  obtain ⟨hview, h⟩ := hasher_append_inj h
  obtain ⟨hek, h⟩ := GenericArray.append_inj h
  obtain ⟨hct, hxy⟩ := GenericArray.append_inj h
  exact ⟨hview, hek, hct, hxy⟩

end TranscriptInput

/-! ### Length fields -/

/-- A length field is the length, of at most two bytes. -/
theorem LengthField.exact {length : GenericArray 2} {bytes : Bytes}
    (h : LengthField length bytes) :
    bytes.length ≤ 65535 ∧ ofBeBytes length.bytes = bytes.length := by
  obtain ⟨hlt, hbytes⟩ := LengthField.iff.mp h
  refine ⟨by omega, ?_⟩
  rw [hbytes, ofBeBytes_beBytes hlt]

/-- Transcripts, also with what the KEM and the server's MAC add to them, and signed
    messages determine their components; an identifier that is absent counts as the
    static public key. Longer contexts and identifiers than a length field can tell
    are refused, and no length is truncated. -/
theorem encodings_unambiguous (CS : CipherSuite) (KE : Group) (K : KemCoreWrapper) :
    (∀ t t' : TranscriptInput CS KE, t.hasher.absorbed = t'.hasher.absorbed → t.view = t'.view) ∧
    (∀ (t t' : TranscriptInput CS KE) (mac mac' : Output CS.KeHash),
      (t.hasher.update mac.bytes).absorbed = (t'.hasher.update mac'.bytes).absorbed →
      t.view = t'.view ∧ mac = mac') ∧
    (∀ (t t' : TranscriptInput CS KE) (ek ek' : GenericArray K.EncapsulationKeyLen)
      (ct ct' : GenericArray K.CiphertextLen),
      (t.kemHasher ek ct).absorbed = (t'.kemHasher ek' ct').absorbed →
      t.view = t'.view ∧ ek = ek' ∧ ct = ct') ∧
    (∀ (t t' : TranscriptInput CS KE) (ek ek' : GenericArray K.EncapsulationKeyLen)
      (ct ct' : GenericArray K.CiphertextLen) (mac mac' : Output CS.KeHash),
      ((t.kemHasher ek ct).update mac.bytes).absorbed =
        ((t'.kemHasher ek' ct').update mac'.bytes).absorbed →
      t.view = t'.view ∧ ek = ek' ∧ ct = ct' ∧ mac = mac') ∧
    (∀ m m' : SigmaI.Message CS KE, m.role = .server → m'.role = .server →
      m.signMessage.flatten = m'.signMessage.flatten →
      m.context.context = m'.context.context ∧
        m.identifiers.server.bytes = m'.identifiers.server.bytes ∧
        m.cache.view = m'.cache.view) ∧
    (∀ m m' : SigmaI.Message CS KE, m.role = .client → m'.role = .client →
      m.signMessage.flatten = m'.signMessage.flatten →
      m.context.context = m'.context.context ∧
        m.identifiers.client.bytes = m'.identifiers.client.bytes ∧ m.cache = m'.cache) ∧
    (∀ context : Option Bytes, ∀ c, SerializedContext.fromContext context = .ok c →
      c.context = context.getD []) ∧
    (∀ (id : Option Bytes) (sPk : GenericArray CS.KeGroup.PkLen) i,
      SerializedIdentifier.fromIdentifier id sPk = .ok i → i.bytes = id.getD sPk.bytes) ∧
    (∀ context : Option Bytes, 65535 < (context.getD []).length →
      SerializedContext.fromContext context = .err .serializationError) ∧
    (∀ (id : Option Bytes) (sPk : GenericArray CS.KeGroup.PkLen),
      65535 < (id.getD sPk.bytes).length →
      SerializedIdentifier.fromIdentifier id sPk = .err .serializationError) ∧
    (∀ c : SerializedContext, c.context.length ≤ 65535 ∧
      ofBeBytes c.length.bytes = c.context.length) ∧
    ∀ i : SerializedIdentifier CS.KeGroup, i.bytes.length ≤ 65535 ∧
      ofBeBytes i.length.bytes = i.bytes.length := by
  refine ⟨?_, ?_, ?_, ?_, ?_, ?_, ?_, ?_, ?_, ?_, ?_, ?_⟩
  · intro t t' h
    rw [← List.append_nil t.hasher.absorbed, ← List.append_nil t'.hasher.absorbed] at h
    exact (TranscriptInput.hasher_append_inj h).1
  · intro t t' mac mac' h
    obtain ⟨hview, hmac⟩ := TranscriptInput.hasher_append_inj h
    exact ⟨hview, GenericArray.bytes_injective hmac⟩
  · intro t t' ek ek' ct ct' h
    rw [← List.append_nil (t.kemHasher ek ct).absorbed,
      ← List.append_nil (t'.kemHasher ek' ct').absorbed] at h
    obtain ⟨hview, hek, hct, -⟩ := TranscriptInput.kemHasher_append_inj h
    exact ⟨hview, hek, hct⟩
  · intro t t' ek ek' ct ct' mac mac' h
    obtain ⟨hview, hek, hct, hmac⟩ := TranscriptInput.kemHasher_append_inj h
    exact ⟨hview, hek, hct, GenericArray.bytes_injective hmac⟩
  · intro m m' hm hm' h
    exact SigmaI.signMessage_server_inj hm hm' h
  · intro m m' hm hm' h
    exact SigmaI.signMessage_client_inj hm hm' h
  · intro context c h
    exact (SerializedContext.fromContext_eq_ok.mp h).symm
  · intro id sPk i h
    rw [SerializedIdentifier.bytes, SerializedIdentifier.fromIdentifier_eq_ok.mp h,
      Identifier.bytes_ofOption]
  · intro context h
    exact SerializedContext.fromContext_long h
  · intro id sPk h
    exact SerializedIdentifier.fromIdentifier_long h
  · intro c
    exact c.lengthField.exact
  · intro i
    exact i.lengthField.exact

end OpaqueVx
