import OpaqueVx.Laws
import OpaqueVx.KeyExchange.SigmaI.Signatures

/-! # Wire formats of the key exchanges

  Each format is a row of fields of fixed width: the encoder of the source is
  shown to be the juxtaposition of the encoders of its fields, and the reader that
  of the readers. The laws of the fields then carry over. -/

namespace OpaqueVx

open Lib

variable {L : Codec.Law Error}

/-! ### The first message and its state -/

namespace Ke1MessageIter

variable {G : Group}

variable (G) in
/-- Serialized first messages, as they are kept for the transcript. -/
def codec : Codec Error (Ke1MessageIter G) := ⟨nonceLen + G.PkLen, serialize, deserializeTake⟩

/-- Nonce, then ephemeral key, both as bytes. -/
theorem codec_same : (codec G).Same (((arrayCodec nonceLen "client nonce").both
    (arrayCodec G.PkLen "client ephemeral public key")).imap
    (fun p => ⟨p.1, p.2⟩) (fun m => (m.clientNonce, m.clientEPk))) where
  len := rfl
  encode _ := rfl
  take := by simp [codec, deserializeTake, arrayCodec, Codec.both, Codec.imap]

theorem codec_lawful : (codec G).Lawful :=
  codec_same.lawful (((arrayCodec_lawful _ _).both (arrayCodec_lawful _ _)).imap
    (fun _ => rfl) fun _ => rfl)

end Ke1MessageIter

namespace Ke1State

variable {G : Group}

variable (G) in
/-- What a client keeps between its two steps. -/
def codec : Codec Error (Ke1State G) := ⟨G.SkLen + nonceLen, serialize, deserializeTake⟩

/-- Ephemeral secret key, then nonce. -/
theorem codec_same : (codec G).Same ((G.skCodec.both (arrayCodec nonceLen "client nonce")).imap
    (fun p => ⟨p.1, p.2⟩) (fun s => (s.clientESk, s.clientNonce))) where
  len := rfl
  encode _ := rfl
  take := by
    simp [codec, deserializeTake, arrayCodec, Group.skCodec, Codec.both, Codec.imap]

theorem codec_law (hsk : L.holds G.skCodec) : L.holds (codec G) :=
  L.same codec_same (L.imap (L.both hsk (L.ofLawful (arrayCodec_lawful _ _))) (fun _ => rfl)
    fun _ => rfl)

end Ke1State

namespace Ke1Message

variable {G : Group}

variable (G) in
/-- The first message of 3DH and of SIGMA-I. -/
def codec : Codec Error (Ke1Message G) := ⟨nonceLen + G.PkLen, serialize, deserializeTake⟩

/-- Nonce, then ephemeral key. Here the key is decoded. -/
theorem codec_same : (codec G).Same (((arrayCodec nonceLen "client nonce").both G.pkCodec).imap
    (fun p => ⟨p.1, p.2⟩) (fun m => (m.clientNonce, m.clientEPk))) where
  len := rfl
  encode _ := rfl
  take := by
    simp [codec, deserializeTake, arrayCodec, Group.pkCodec, Codec.both, Codec.imap]

theorem codec_law (hpk : L.holds G.pkCodec) : L.holds (codec G) :=
  L.same codec_same (L.imap (L.both (L.ofLawful (arrayCodec_lawful _ _)) hpk) (fun _ => rfl)
    fun _ => rfl)

end Ke1Message

/-! ### What a key exchange promises about its formats -/

namespace KeyExchange

variable {CS : CipherSuite}

/-- A law of the three messages of a key exchange. -/
structure MessageLaws (KE : KeyExchange CS) (L : Codec.Law Error) : Prop where
  ke1Message : L.holds KE.ke1Message
  ke2Message : L.holds KE.ke2Message
  ke3Message : L.holds KE.ke3Message

/-- A law of the two states that are kept between steps. -/
structure StateLaws (KE : KeyExchange CS) (L : Codec.Law Error) : Prop where
  ke1State : L.holds KE.ke1State
  ke2State : L.holds KE.ke2State

end KeyExchange

/-! ### 3DH -/

namespace TripleDh

variable {G : Group} {H : Hash}

variable (H) in
/-- What the server keeps of 3DH. -/
def Ke2State.codec : Codec Error (Ke2State H) :=
  ⟨H.outputSize + H.outputSize, serialize, deserializeTake⟩

/-- Session key, then the MAC that it waits for. -/
theorem Ke2State.codec_same : (codec H).Same (((arrayCodec H.outputSize "session key").both
    (arrayCodec H.outputSize "expected mac")).imap
    (fun p => ⟨p.1, p.2⟩) (fun s => (s.sessionKey, s.expectedMac))) where
  len := rfl
  encode _ := rfl
  take := by simp [codec, deserializeTake, arrayCodec, Codec.both, Codec.imap]

theorem Ke2State.codec_lawful : (codec H).Lawful :=
  codec_same.lawful (((arrayCodec_lawful _ _).both (arrayCodec_lawful _ _)).imap
    (fun _ => rfl) fun _ => rfl)

variable (G H) in
/-- The server's message of 3DH. -/
def Ke2Message.codec : Codec Error (Ke2Message G H) :=
  ⟨nonceLen + G.PkLen + H.outputSize, serialize, deserializeTake⟩

/-- Nonce, ephemeral key and MAC. -/
theorem Ke2Message.codec_same : (codec G H).Same ((((arrayCodec nonceLen "server nonce").both
    G.pkCodec).both (arrayCodec H.outputSize "mac")).imap
    (fun p => ⟨p.1.1, p.1.2, p.2⟩) (fun m => ((m.serverNonce, m.serverEPk), m.mac))) where
  len := rfl
  encode _ := rfl
  take := by
    simp [codec, deserializeTake, arrayCodec, Group.pkCodec, Codec.both, Codec.imap]

/-- Only the ephemeral key can be malformed. -/
theorem Ke2Message.codec_law (hpk : L.holds G.pkCodec) : L.holds (codec G H) := by
  apply L.same codec_same
  apply L.imap
  · apply L.both
    · exact L.both (L.ofLawful (arrayCodec_lawful _ _)) hpk
    · exact L.ofLawful (arrayCodec_lawful _ _)
  · intro m
    rfl
  · intro p
    rfl

variable (H) in
/-- The client's second message of 3DH, which is a MAC. -/
def Ke3Message.codec : Codec Error (Ke3Message H) := ⟨H.outputSize, serialize, deserializeTake⟩

theorem Ke3Message.codec_same :
    (codec H).Same ((arrayCodec H.outputSize "mac").imap mk mac) where
  len := rfl
  encode _ := rfl
  take := by simp [codec, deserializeTake, arrayCodec, Codec.imap]

theorem Ke3Message.codec_lawful : (codec H).Lawful :=
  codec_same.lawful ((arrayCodec_lawful _ _).imap (fun _ => rfl) fun _ => rfl)

section

variable {CS : CipherSuite} [DiffieHellman CS.KeGroup]

/-- The messages of 3DH obey the laws that public keys obey. -/
theorem messageLaws (hpk : L.holds CS.KeGroup.pkCodec) : (keyExchange CS).MessageLaws L where
  ke1Message := Ke1Message.codec_law hpk
  ke2Message := Ke2Message.codec_law hpk
  ke3Message := L.ofLawful Ke3Message.codec_lawful

/-- Its states obey those of secret keys. -/
theorem stateLaws (hsk : L.holds CS.KeGroup.skCodec) : (keyExchange CS).StateLaws L where
  ke1State := Ke1State.codec_law hsk
  ke2State := L.ofLawful Ke2State.codec_lawful

end

end TripleDh

/-! ### 3DH with a KEM -/

namespace TripleDhKem

variable {G : Group} {H : Hash} {K : KemCoreWrapper}

variable (G K) in
/-- What a client keeps with a KEM: the state of 3DH and a decapsulation key. -/
def KemKe1State.codec : Codec Error (KemKe1State G K) :=
  ⟨G.SkLen + nonceLen + K.DecapsulationKeyLen, serialize, deserializeTake⟩

theorem KemKe1State.codec_same : (codec G K).Same (((Ke1State.codec G).both
    K.decapsulationKey).imap
    (fun p => ⟨p.1, p.2⟩) (fun s => (s.dhState, s.kemDecapsulationKey))) where
  len := rfl
  encode _ := rfl
  take := by
    simp [codec, deserializeTake, Ke1State.codec, KemCoreWrapper.decapsulationKey, Codec.both,
      Codec.imap]

/-- A state is read back if its decapsulation key is. -/
theorem KemKe1State.codec_readsBack {s : KemKe1State G K}
    (hsk : G.skCodec.RoundTrip)
    (hdk : K.decapsulationKey.ReadsBack s.kemDecapsulationKey) : (codec G K).ReadsBack s := by
  apply codec_same.readsBack
  apply Codec.ReadsBack.imap
  · exact (Ke1State.codec_law (L := .roundTrip) hsk s.dhState).both hdk
  · rfl

theorem KemKe1State.codec_law (hsk : L.holds G.skCodec) (hdk : L.holds K.decapsulationKey) :
    L.holds (codec G K) :=
  L.same codec_same (L.imap (L.both (Ke1State.codec_law hsk) hdk) (fun _ => rfl) fun _ => rfl)

variable (G K) in
/-- The first message with a KEM: that of 3DH and an encapsulation key. -/
def KemKe1Message.codec : Codec Error (KemKe1Message G K) :=
  ⟨nonceLen + G.PkLen + K.EncapsulationKeyLen, serialize, deserializeTake⟩

theorem KemKe1Message.codec_same : (codec G K).Same (((Ke1Message.codec G).both
    (arrayCodec K.EncapsulationKeyLen "kem encapsulation key")).imap
    (fun p => ⟨p.1, p.2⟩) (fun m => (m.dhMessage, m.kemEncapsulationKey))) where
  len := rfl
  encode _ := rfl
  take := by
    simp [codec, deserializeTake, Ke1Message.codec, arrayCodec, Codec.both, Codec.imap]

/-- The encapsulation key is read as bytes, so it cannot be malformed here. -/
theorem KemKe1Message.codec_law (hpk : L.holds G.pkCodec) : L.holds (codec G K) :=
  L.same codec_same (L.imap (L.both (Ke1Message.codec_law hpk)
    (L.ofLawful (arrayCodec_lawful _ _))) (fun _ => rfl) fun _ => rfl)

variable (K H) in
/-- What the server keeps with a KEM: its part of the transcript as well. -/
def KemKe2State.codec : Codec Error (KemKe2State K H) :=
  ⟨H.outputSize + H.outputSize + K.EncapsulationKeyLen + K.CiphertextLen, serialize,
    deserializeTake⟩

/-- The state of 3DH, the encapsulation key and the ciphertext. -/
theorem KemKe2State.codec_same : (codec H K).Same ((((TripleDh.Ke2State.codec H).both
    (arrayCodec K.EncapsulationKeyLen "kem encapsulation key")).both
    (arrayCodec K.CiphertextLen "kem ciphertext")).imap
    (fun p => ⟨p.1.1, p.1.2, p.2⟩)
    (fun s => ((s.baseState, s.kemEncapsulationKey), s.serverKemCiphertext))) where
  len := rfl
  encode _ := rfl
  take := by
    simp [codec, deserializeTake, TripleDh.Ke2State.codec, arrayCodec, Codec.both, Codec.imap]

theorem KemKe2State.codec_lawful : (codec H K).Lawful :=
  codec_same.lawful (((TripleDh.Ke2State.codec_lawful.both (arrayCodec_lawful _ _)).both
    (arrayCodec_lawful _ _)).imap (fun _ => rfl) fun _ => rfl)

variable (G H K) in
/-- The server's message with a KEM: that of 3DH and a ciphertext. -/
def KemKe2Message.codec : Codec Error (KemKe2Message G H K) :=
  ⟨nonceLen + G.PkLen + H.outputSize + K.CiphertextLen, serialize, deserializeTake⟩

theorem KemKe2Message.codec_same : (codec G H K).Same (((TripleDh.Ke2Message.codec G H).both
    (arrayCodec K.CiphertextLen "kem ciphertext")).imap
    (fun p => ⟨p.1, p.2⟩) (fun m => (m.dhMessage, m.kemCiphertext))) where
  len := rfl
  encode _ := rfl
  take := by
    simp [codec, deserializeTake, TripleDh.Ke2Message.codec, arrayCodec, Codec.both, Codec.imap]

theorem KemKe2Message.codec_law (hpk : L.holds G.pkCodec) : L.holds (codec G H K) :=
  L.same codec_same (L.imap (L.both (TripleDh.Ke2Message.codec_law hpk)
    (L.ofLawful (arrayCodec_lawful _ _))) (fun _ => rfl) fun _ => rfl)

section

variable {CS : CipherSuite} [DiffieHellman CS.KeGroup]

/-- The messages with a KEM obey the laws that public keys obey. -/
theorem messageLaws (hpk : L.holds CS.KeGroup.pkCodec) : (keyExchange CS K).MessageLaws L where
  ke1Message := KemKe1Message.codec_law hpk
  ke2Message := KemKe2Message.codec_law hpk
  ke3Message := L.ofLawful TripleDh.Ke3Message.codec_lawful

/-- Its states obey those of secret keys and of decapsulation keys. -/
theorem stateLaws (hsk : L.holds CS.KeGroup.skCodec) (hdk : L.holds K.decapsulationKey) :
    (keyExchange CS K).StateLaws L where
  ke1State := KemKe1State.codec_law hsk hdk
  ke2State := L.ofLawful KemKe2State.codec_lawful

end

end TripleDhKem

/-! ### SIGMA-I -/

namespace SigmaI

variable {CS : CipherSuite} {KE : Group} {SIG : SignatureProtocol CS KE}

/-- The six parts of a cached message, in the order in which they are hashed. -/
theorem CachedMessage.codec_same : (codec CS KE).Same
    (((((((SerializedCredentialRequest.codec CS).both (Ke1MessageIter.codec KE)).both
      (SerializedCredentialResponse.codec CS)).both (arrayCodec nonceLen "server nonce")).both
      (arrayCodec KE.PkLen "serialized server ephemeral key")).both
      (arrayCodec CS.KeHash.outputSize "server mac")).imap
      (fun p => ⟨p.1.1.1.1.1, p.1.1.1.1.2, p.1.1.1.2, p.1.1.2, p.1.2, p.2⟩)
      (fun m => (((((m.credentialRequest, m.ke1Message), m.credentialResponse), m.serverNonce),
        m.serverEPk), m.serverMac))) where
  len := rfl
  encode _ := rfl
  take := by
    simp [codec, deserializeTake, SerializedCredentialRequest.codec, Ke1MessageIter.codec,
      SerializedCredentialResponse.codec, arrayCodec, Codec.both, Codec.imap]

theorem CachedMessage.codec_lawful : (codec CS KE).Lawful := by
  apply codec_same.lawful
  apply Codec.Lawful.imap
  · exact ((((SerializedCredentialRequest.codec_lawful.both Ke1MessageIter.codec_lawful).both
      SerializedCredentialResponse.codec_lawful).both (arrayCodec_lawful _ _)).both
      (arrayCodec_lawful _ _)).both (arrayCodec_lawful _ _)
  · intro m
    rfl
  · intro p
    rfl

/-- A pre-hash is its digest. -/
theorem PreHash.codec_lawful {H : Hash} : (codec H).Lawful := by
  have hsame : (codec H).Same ((arrayCodec H.outputSize "pre-hash").imap mk digest) :=
    ⟨rfl, fun _ => rfl, by simp [codec, deserializeTake, arrayCodec, Codec.imap]⟩
  exact hsame.lawful ((arrayCodec_lawful _ _).imap (fun _ => rfl) fun _ => rfl)

/-- A law of the encodings of a signature protocol. -/
structure SignatureProtocol.Encoding (SIG : SignatureProtocol CS KE) (L : Codec.Law Error) :
    Prop where
  signature : L.holds SIG.signature
  verifyState : L.holds SIG.verifyState

variable (SIG) in
/-- What the server keeps of SIGMA-I. -/
def Ke2State.codec : Codec Error (Ke2State CS KE SIG) := ⟨_, serialize, deserializeTake⟩

/-- Client key, session key, what it takes to verify the signature, and the MAC. -/
theorem Ke2State.codec_same : (codec SIG).Same ((((CS.KeGroup.pkCodec.both
    (arrayCodec CS.KeHash.outputSize "session key")).both SIG.verifyState).both
    (arrayCodec CS.KeHash.outputSize "expected mac")).imap
    (fun p => ⟨p.1.1.1, p.1.1.2, p.1.2, p.2⟩)
    (fun s => (((s.clientSPk, s.sessionKey), s.verifyState), s.expectedMac))) where
  len := rfl
  encode _ := rfl
  take := by
    simp [codec, deserializeTake, Group.pkCodec, arrayCodec, Codec.both, Codec.imap]

theorem Ke2State.codec_law (hpk : L.holds CS.KeGroup.pkCodec) (hstate : L.holds SIG.verifyState) :
    L.holds (codec SIG) := by
  apply L.same codec_same
  apply L.imap
  · apply L.both
    · exact L.both (L.both hpk (L.ofLawful (arrayCodec_lawful _ _))) hstate
    · exact L.ofLawful (arrayCodec_lawful _ _)
  · intro s
    rfl
  · intro p
    rfl

variable (SIG) in
/-- The server's message of SIGMA-I. -/
def Ke2Message.codec : Codec Error (Ke2Message CS KE SIG) := ⟨_, serialize, deserializeTake⟩

/-- Nonce, ephemeral key, signature and MAC. -/
theorem Ke2Message.codec_same : (codec SIG).Same (((((arrayCodec nonceLen "server nonce").both
    KE.pkCodec).both SIG.signature).both (arrayCodec CS.KeHash.outputSize "mac")).imap
    (fun p => ⟨p.1.1.1, p.1.1.2, p.1.2, p.2⟩)
    (fun m => (((m.serverNonce, m.serverEPk), m.signature), m.mac))) where
  len := rfl
  encode _ := rfl
  take := by
    simp [codec, deserializeTake, Group.pkCodec, SignatureProtocol.signature, arrayCodec,
      Codec.both, Codec.imap]

theorem Ke2Message.codec_law (hpk : L.holds KE.pkCodec) (hsig : L.holds SIG.signature) :
    L.holds (codec SIG) := by
  apply L.same codec_same
  apply L.imap
  · apply L.both
    · exact L.both (L.both (L.ofLawful (arrayCodec_lawful _ _)) hpk) hsig
    · exact L.ofLawful (arrayCodec_lawful _ _)
  · intro m
    rfl
  · intro p
    rfl

variable (SIG) in
/-- The client's second message of SIGMA-I. -/
def Ke3Message.codec : Codec Error (Ke3Message CS KE SIG) := ⟨_, serialize, deserializeTake⟩

/-- Signature, then MAC. -/
theorem Ke3Message.codec_same : (codec SIG).Same ((SIG.signature.both
    (arrayCodec CS.KeHash.outputSize "mac")).imap
    (fun p => ⟨p.1, p.2⟩) (fun m => (m.signature, m.mac))) where
  len := rfl
  encode _ := rfl
  take := by
    simp [codec, deserializeTake, SignatureProtocol.signature, arrayCodec, Codec.both, Codec.imap]

theorem Ke3Message.codec_law (hsig : L.holds SIG.signature) : L.holds (codec SIG) :=
  L.same codec_same (L.imap (L.both hsig (L.ofLawful (arrayCodec_lawful _ _))) (fun _ => rfl)
    fun _ => rfl)

section

variable [DiffieHellman KE]

/-- The messages of SIGMA-I obey the laws that ephemeral keys and signatures obey. -/
theorem messageLaws (hpk : L.holds KE.pkCodec) (hsig : L.holds SIG.signature) :
    (keyExchange CS KE SIG).MessageLaws L where
  ke1Message := Ke1Message.codec_law hpk
  ke2Message := Ke2Message.codec_law hpk hsig
  ke3Message := Ke3Message.codec_law hsig

/-- Its states obey those of static public keys, ephemeral secret keys and verification
    states. -/
theorem stateLaws (hpk : L.holds CS.KeGroup.pkCodec) (hsk : L.holds KE.skCodec)
    (hstate : L.holds SIG.verifyState) : (keyExchange CS KE SIG).StateLaws L where
  ke1State := Ke1State.codec_law hsk
  ke2State := Ke2State.codec_law hpk hstate

end

/-! ### Encodings of the signature protocols -/

namespace Ecdsa

variable {C : EcdsaCurve CS.KeGroup} {H : Hash}

/-- The ECDSA signature on the wire: parsing it is the library's. -/
theorem signature_parsed :
    (protocol C H : SignatureProtocol CS KE).signature =
      parsedCodec C.SignatureSize "signature" C.toBytes fun b =>
        .okOr .serializationError (C.fromBytes b) :=
  rfl

theorem fromBytes_never_panics (b : GenericArray C.SignatureSize) :
    (.okOr .serializationError (C.fromBytes b) : Outcome Error _) ≠ .panicked := by
  cases C.fromBytes b <;> simp

/-- When decoding undoes encoding, signatures are self-delimiting. -/
theorem encoding_selfDelimiting (hC : ∀ s, C.fromBytes (C.toBytes s) = some s) :
    (protocol C H : SignatureProtocol CS KE).Encoding .selfDelimiting where
  signature := by
    rw [signature_parsed]
    exact ⟨parsedCodec_roundTrip fun s => by rw [hC s]; rfl,
      parsedCodec_sized fromBytes_never_panics⟩
  verifyState := Codec.Law.selfDelimiting.ofLawful PreHash.codec_lawful

/-- When exactly the encodings are decoded, all laws hold. -/
theorem encoding_lawful (hC : ∀ b s, C.fromBytes b = some s ↔ b = C.toBytes s) :
    (protocol C H : SignatureProtocol CS KE).Encoding .lawful where
  signature := by
    rw [signature_parsed]
    apply parsedCodec_lawful _ fromBytes_never_panics
    intro b s
    rw [Outcome.okOr_eq_ok]
    exact hC b s
  verifyState := PreHash.codec_lawful

end Ecdsa

end SigmaI

end OpaqueVx
