import OpaqueVx.KeyExchange.WireFormat

/-! # Wire formats of messages and states

  The six messages and the five states as rows of fields. The decoders of the
  source read a value from the front of the input and drop what is left, except
  for two that hand the whole rest of the input to the OPRF library. -/

namespace OpaqueVx

open Lib

variable {CS : CipherSuite} {KE : KeyExchange CS} {L : Codec.Law OpaqueVx.Error}

/-! ### Values of the OPRF library -/

section checked

variable {α : Type} {len : Nat} {encode : α → GenericArray len}
  {decode : Bytes → Outcome VoprfError α}

/-- The format behind a length check. -/
def checkedCodec (len : Nat) (encode : α → GenericArray len)
    (decode : Bytes → Outcome VoprfError α) : Codec Error α :=
  ⟨len, encode, takeChecked len decode⟩

/-- Too short an input is refused before it is cut. -/
theorem takeChecked_short {b : Bytes} (h : b.length < len) :
    (takeChecked len decode).run b = .err .serializationError := by
  show takeChecked len decode b = _
  unfold takeChecked
  rw [if_pos h]

/-- Behind the check the slices are in range. -/
theorem takeChecked_long {b : Bytes} (h : len ≤ b.length) :
    (takeChecked len decode).run b =
      fromVoprf (decode (b.take len)) >>= fun v => .ok (v, b.drop len) := by
  show takeChecked len decode b = _
  unfold takeChecked
  rw [if_neg (by omega)]
  simp only [sliceTo, sliceFrom, if_pos h, Outcome.ok_bind]
  rfl

/-- What is read, and what is left of the input. -/
theorem takeChecked_eq_ok {b rest : Bytes} {v : α} :
    (takeChecked len decode).run b = .ok (v, rest) ↔
      len ≤ b.length ∧ decode (b.take len) = .ok v ∧ rest = b.drop len := by
  by_cases h : b.length < len
  · rw [takeChecked_short h]
    constructor
    · intro hr
      cases hr
    · intro hr
      omega
  · have hle : len ≤ b.length := by omega
    rw [takeChecked_long hle, Outcome.bind_eq_ok]
    constructor
    · rintro ⟨w, hw, hr⟩
      obtain ⟨rfl, rfl⟩ := Prod.mk.inj (Outcome.ok.inj hr)
      exact ⟨hle, fromVoprf_eq_ok.mp hw, rfl⟩
    · rintro ⟨-, hv, rfl⟩
      exact ⟨v, fromVoprf_eq_ok.mpr hv, rfl⟩

/-- The check is passed by an encoding with anything behind it. -/
theorem checkedCodec_roundTrip (hdecode : ∀ v, decode (encode v).bytes = .ok v) :
    (checkedCodec len encode decode).RoundTrip := by
  intro v rest
  apply takeChecked_eq_ok.mpr
  show len ≤ ((encode v).bytes ++ rest).length ∧
    decode (((encode v).bytes ++ rest).take len) = .ok v ∧
    rest = ((encode v).bytes ++ rest).drop len
  have htake : ((encode v).bytes ++ rest).take len = (encode v).bytes := by
    rw [List.take_append_of_le_length (by simp), List.take_of_length_le (by simp)]
  have hdrop : ((encode v).bytes ++ rest).drop len = rest := by
    rw [List.drop_append_of_le_length (by simp), List.drop_of_length_le (by simp)]
    rfl
  rw [htake, hdrop]
  exact ⟨by simp, hdecode v, rfl⟩

theorem checkedCodec_sized (hpanic : ∀ b, decode b ≠ .panicked) :
    (checkedCodec len encode decode).Sized where
  never_panics b h := by
    change (takeChecked len decode).run b = _ at h
    by_cases hlen : b.length < len
    · rw [takeChecked_short hlen] at h
      cases h
    · rw [takeChecked_long (by omega)] at h
      cases hd : decode (b.take len) with
      | ok v => rw [hd] at h; cases h
      | err e => rw [hd] at h; cases h
      | panicked => exact hpanic _ hd
  consumes b v rest h := by
    obtain ⟨hle, -, rfl⟩ := takeChecked_eq_ok.mp h
    exact ⟨hle, rfl⟩

/-- What the library decodes only from its encoding is read only from there. -/
theorem checkedCodec_canonical (hdecode : ∀ b v, decode b = .ok v → b = (encode v).bytes) :
    (checkedCodec len encode decode).Canonical := by
  intro b v rest h
  obtain ⟨-, hv, rfl⟩ := takeChecked_eq_ok.mp h
  show b = (encode v).bytes ++ b.drop len
  rw [← hdecode _ v hv, List.take_append_drop]

end checked

namespace CipherSuite

variable (CS)

/-- Elements of the OPRF group. -/
def elemCodec : Codec Error CS.OprfCs.Elem :=
  checkedCodec CS.OprfCs.ElemLen CS.OprfCs.serializeElem CS.OprfCs.deserializeElem

/-- OPRF clients, which are their blinds. -/
def oprfClientCodec : Codec Error CS.OprfCs.OprfClient :=
  checkedCodec CS.OprfCs.ScalarLen CS.OprfCs.serializeClient CS.OprfCs.deserializeClient

/-- A law of all encodings that a cipher suite brings. -/
structure Encoding (L : Codec.Law Error) : Prop where
  key : CS.KeGroup.KeyEncoding L
  elem : L.holds CS.elemCodec
  oprfClient : L.holds CS.oprfClientCodec

variable {CS}

/-- Libraries that read back what they write. -/
theorem encoding_roundTrip (hkey : CS.KeGroup.KeyEncoding .roundTrip)
    (hoprf : CS.OprfCs.Decodes) : CS.Encoding .roundTrip where
  key := hkey
  elem := checkedCodec_roundTrip hoprf.elem
  oprfClient := checkedCodec_roundTrip hoprf.client

/-- Libraries that do not panic either. -/
theorem encoding_selfDelimiting (hkey : CS.KeGroup.KeyEncoding .selfDelimiting)
    (hoprf : CS.OprfCs.Decodes) (hpanic : CS.OprfCs.NeverPanics) :
    CS.Encoding .selfDelimiting where
  key := hkey
  elem := ⟨checkedCodec_roundTrip hoprf.elem, checkedCodec_sized hpanic.elem⟩
  oprfClient := ⟨checkedCodec_roundTrip hoprf.client, checkedCodec_sized hpanic.client⟩

/-- Libraries that accept nothing but their encodings. -/
theorem encoding_lawful (hkey : CS.KeGroup.KeyEncoding .lawful) (hoprf : CS.OprfCs.Encoding)
    (hpanic : CS.OprfCs.NeverPanics) : CS.Encoding .lawful where
  key := hkey
  elem :=
    { roundTrip := checkedCodec_roundTrip hoprf.decodes.elem
      sized := checkedCodec_sized hpanic.elem
      canonical := checkedCodec_canonical fun b e => (hoprf.elem b e).mp }
  oprfClient :=
    { roundTrip := checkedCodec_roundTrip hoprf.decodes.client
      sized := checkedCodec_sized hpanic.client
      canonical := checkedCodec_canonical fun b c => (hoprf.client b c).mp }

end CipherSuite

/-! ### Messages -/

namespace RegistrationResponse

variable (CS) in
/-- `RegistrationResponse`. -/
def codec : Codec Error (RegistrationResponse CS) := ⟨_, serialize, deserializeTake⟩

/-- Element, then the server's key. -/
theorem codec_same : (codec CS).Same ((CS.elemCodec.both CS.KeGroup.pkCodec).imap
    (fun p => ⟨p.1, p.2⟩) (fun m => (m.evaluationElement, m.serverSPk))) where
  len := rfl
  encode _ := rfl
  take := by
    simp [codec, deserializeTake, takeElement, CipherSuite.elemCodec, checkedCodec, Group.pkCodec,
      Codec.both, Codec.imap]

theorem codec_law (h : CS.Encoding L) : L.holds (codec CS) :=
  L.same codec_same (L.imap (L.both h.elem h.key.pk) (fun _ => rfl) fun _ => rfl)

end RegistrationResponse

namespace RegistrationUpload

variable (CS) in
/-- `RegistrationUpload`. -/
def codec : Codec Error (RegistrationUpload CS) := ⟨_, serialize, deserializeTake⟩

/-- The client's key, masking key and envelope. -/
theorem codec_same : (codec CS).Same (((CS.KeGroup.pkCodec.both
    (arrayCodec CS.OprfHash.outputSize "masking key")).both (Envelope.codec CS)).imap
    (fun p => ⟨p.2, p.1.2, p.1.1⟩) (fun m => ((m.clientSPk, m.maskingKey), m.envelope))) where
  len := rfl
  encode _ := rfl
  take := by
    simp [codec, deserializeTake, Group.pkCodec, arrayCodec, Envelope.codec, Codec.both,
      Codec.imap]

/-- An upload with a sealed or decoded envelope is read back. -/
theorem codec_readsBack (hpk : CS.KeGroup.pkCodec.RoundTrip) {m : RegistrationUpload CS}
    (hmode : m.envelope.mode = .internal) : (codec CS).ReadsBack m := by
  apply codec_same.readsBack
  apply Codec.ReadsBack.imap
  · exact ((hpk m.clientSPk).both (arrayCodec_roundTrip _ _ _)).both
      (Envelope.codec_readsBack hmode)
  · rfl

/-- The width does not depend on the mode of the envelope. -/
theorem codec_sized (hpk : CS.KeGroup.pkCodec.Sized) : (codec CS).Sized :=
  codec_same.sized (((hpk.both (arrayCodec_sized _ _)).both Envelope.codec_sized).imap _ _)

theorem codec_canonical (hpk : CS.KeGroup.pkCodec.Canonical) : (codec CS).Canonical :=
  codec_same.canonical (((hpk.both (arrayCodec_canonical _ _)).both
    Envelope.codec_canonical).imap fun _ => rfl)

end RegistrationUpload

namespace CredentialRequest

variable (KE) in
/-- `CredentialRequest`. -/
def codec : Codec Error (CredentialRequest CS KE) := ⟨_, serialize, deserializeTake⟩

/-- Element, then the message of the key exchange. -/
theorem codec_same : (codec KE).Same ((CS.elemCodec.both KE.ke1Message).imap
    (fun p => ⟨p.1, p.2⟩) (fun m => (m.blindedElement, m.ke1Message))) where
  len := rfl
  encode _ := rfl
  take := by
    simp [codec, deserializeTake, takeElement, CipherSuite.elemCodec, checkedCodec, Codec.both,
      Codec.imap]

theorem codec_law (h : CS.Encoding L) (hke : KE.MessageLaws L) : L.holds (codec KE) :=
  L.same codec_same (L.imap (L.both h.elem hke.ke1Message) (fun _ => rfl) fun _ => rfl)

end CredentialRequest

namespace CredentialResponse

variable (KE) in
/-- `CredentialResponse`. -/
def codec : Codec Error (CredentialResponse CS KE) := ⟨_, serialize, deserializeTake⟩

/-- Element, masking nonce, masked response and the message of the key exchange. -/
theorem codec_same : (codec KE).Same ((((CS.elemCodec.both
    (arrayCodec nonceLen "masking nonce")).both (MaskedResponse.codec CS)).both
    KE.ke2Message).imap
    (fun p => ⟨p.1.1.1, p.1.1.2, p.1.2, p.2⟩)
    (fun m => (((m.evaluationElement, m.maskingNonce), m.maskedResponse), m.ke2Message))) where
  len := rfl
  encode _ := rfl
  take := by
    simp [codec, deserializeTake, takeElement, CipherSuite.elemCodec, checkedCodec, arrayCodec,
      MaskedResponse.codec, Codec.both, Codec.imap]

theorem codec_law (h : CS.Encoding L) (hke : KE.MessageLaws L) : L.holds (codec KE) := by
  apply L.same codec_same
  apply L.imap
  · apply L.both
    · exact L.both (L.both h.elem (L.ofLawful (arrayCodec_lawful _ _)))
        (L.ofLawful MaskedResponse.codec_lawful)
    · exact hke.ke2Message
  · intro m
    rfl
  · intro p
    rfl

end CredentialResponse

namespace CredentialFinalization

variable (KE) in
/-- `CredentialFinalization`, which is a message of the key exchange. -/
def codec : Codec Error (CredentialFinalization CS KE) := ⟨_, serialize, deserializeTake⟩

theorem codec_same : (codec KE).Same (KE.ke3Message.imap mk ke3Message) where
  len := rfl
  encode _ := rfl
  take := rfl

theorem codec_law (hke : KE.MessageLaws L) : L.holds (codec KE) :=
  L.same codec_same (L.imap hke.ke3Message (fun _ => rfl) fun _ => rfl)

end CredentialFinalization

/-! ### States -/

namespace ServerRegistration

variable (CS) in
/-- A record is stored as the upload it was made from. -/
def codec : Codec Error (ServerRegistration CS) := (RegistrationUpload.codec CS).imap mk upload

/-- So it is decoded as one. -/
theorem deserialize_eq (b : Bytes) : deserialize b = (codec CS).decodeFront b := by
  simp [deserialize, codec, Codec.imap, Codec.decodeFront, RegistrationUpload.deserialize,
    RegistrationUpload.codec, readFront]

end ServerRegistration

namespace ClientLogin

variable (KE) in
/-- `ClientLogin`. -/
def codec : Codec Error (ClientLogin CS KE) := ⟨_, serialize, deserializeTake⟩

/-- OPRF client, the request that was sent, and the state of the key exchange. -/
theorem codec_same : (codec KE).Same (((CS.oprfClientCodec.both (CredentialRequest.codec KE)).both
    KE.ke1State).imap
    (fun p => ⟨p.1.1, p.2, p.1.2⟩)
    (fun s => ((s.oprfClient, s.credentialRequest), s.ke1State))) where
  len := rfl
  encode _ := rfl
  take := by
    simp [codec, deserializeTake, takeOprfClient, CipherSuite.oprfClientCodec, checkedCodec,
      CredentialRequest.codec, Codec.both, Codec.imap]

/-- A client state is read back if its key exchange state is. -/
theorem codec_readsBack (h : CS.Encoding .roundTrip) {s : ClientLogin CS KE}
    (hmessage : KE.ke1Message.ReadsBack s.credentialRequest.ke1Message)
    (hstate : KE.ke1State.ReadsBack s.ke1State) : (codec KE).ReadsBack s := by
  have hrequest : (CredentialRequest.codec KE).ReadsBack s.credentialRequest := by
    apply CredentialRequest.codec_same.readsBack
    apply Codec.ReadsBack.imap
    · exact (h.elem s.credentialRequest.blindedElement).both hmessage
    · rfl
  apply codec_same.readsBack
  apply Codec.ReadsBack.imap
  · exact ((h.oprfClient s.oprfClient).both hrequest).both hstate
  · rfl

theorem codec_law (h : CS.Encoding L) (hke : KE.MessageLaws L) (hstate : KE.StateLaws L) :
    L.holds (codec KE) :=
  L.same codec_same (L.imap (L.both (L.both h.oprfClient (CredentialRequest.codec_law h hke))
    hstate.ke1State) (fun _ => rfl) fun _ => rfl)

end ClientLogin

namespace ServerLogin

variable (KE) in
/-- `ServerLogin`, which is a state of the key exchange. -/
def codec : Codec Error (ServerLogin CS KE) := ⟨_, serialize, deserializeTake⟩

theorem codec_same : (codec KE).Same (KE.ke2State.imap mk ke2State) where
  len := rfl
  encode _ := rfl
  take := rfl

theorem codec_law (hstate : KE.StateLaws L) : L.holds (codec KE) :=
  L.same codec_same (L.imap hstate.ke2State (fun _ => rfl) fun _ => rfl)

end ServerLogin

/-! ### Server setup -/

section setup

variable {SK OS : Type}

/-- Key pairs as the application stores them. -/
def PrivateKeySerialization.codec {G : Group} (S : PrivateKeySerialization G SK) :
    Codec (ProtocolError S.Error) (KeyPair G SK) :=
  ⟨S.Len, S.serializeKeyPair, S.deserializeTakeKeyPair⟩

/-- Seeds as the application stores them. -/
def OprfSeedSerialization.codec {T : Type} (O : OprfSeedSerialization T OS) :
    Codec (ProtocolError T) OS :=
  ⟨O.Len, O.serialize, O.deserializeTake⟩

/-- The key pair of a private key. -/
def KeyPair.ofSk {G : Group} (sk : PrivateKey G) : KeyPair G (PrivateKey G) :=
  ⟨G.publicKey sk, sk⟩

/-- Only the private key is stored. -/
theorem PrivateKey.codec_eq (G : Group) :
    (serialization G).codec = G.skCodec.imap KeyPair.ofSk KeyPair.sk :=
  rfl

/-- A key pair whose public key belongs to the private key is read back. -/
theorem PrivateKey.codec_readsBack {G : Group} (hsk : G.skCodec.RoundTrip)
    {kp : KeyPair G (PrivateKey G)} (hpk : kp.pk = G.publicKey kp.sk) :
    (serialization G).codec.ReadsBack kp := by
  rw [codec_eq]
  apply Codec.ReadsBack.imap
  · exact hsk kp.sk
  · rw [KeyPair.ofSk, ← hpk]

theorem PrivateKey.codec_sized {G : Group} (hsk : G.skCodec.Sized) :
    (serialization G).codec.Sized := by
  rw [codec_eq]
  exact hsk.imap _ _

theorem PrivateKey.codec_canonical {G : Group} (hsk : G.skCodec.Canonical) :
    (serialization G).codec.Canonical := by
  rw [codec_eq]
  exact hsk.imap fun _ => rfl

/-- A seed at hand is stored as it is. -/
theorem OprfSeed.codec_eq (H : Hash) (T : Type) :
    (serialization H T).codec = (arrayCodec H.outputSize "OPRF seed").mapErr .intoCustom :=
  rfl

namespace ServerSetup

variable (S : PrivateKeySerialization CS.KeGroup SK) (O : OprfSeedSerialization S.Error OS)

/-- `ServerSetup`. -/
def codec : Codec (ProtocolError S.Error) (ServerSetup CS SK OS) :=
  ⟨_, serialize S O, deserializeTake S O⟩

variable {S O}

/-- Seed, key pair and dummy key. -/
theorem codec_same : (codec S O).Same (((O.codec.both S.codec).both
    (CS.KeGroup.pkCodec.mapErr .intoCustom)).imap
    (fun p => ⟨p.1.1, p.1.2, p.2⟩) (fun s => ((s.oprfSeed, s.keypair), s.dummyPk))) where
  len := rfl
  encode _ := rfl
  take := by
    simp [codec, deserializeTake, OprfSeedSerialization.codec, PrivateKeySerialization.codec,
      Group.pkCodec, Codec.mapErr, Codec.both, Codec.imap]

/-- A setup is read back if its seed and its key pair are. -/
theorem codec_readsBack (hpk : CS.KeGroup.pkCodec.RoundTrip) {s : ServerSetup CS SK OS}
    (hseed : O.codec.ReadsBack s.oprfSeed) (hkeypair : S.codec.ReadsBack s.keypair) :
    (codec S O).ReadsBack s := by
  apply codec_same.readsBack
  apply Codec.ReadsBack.imap
  · exact (hseed.both hkeypair).both (hpk s.dummyPk).mapErr
  · rfl

theorem codec_sized (hpk : CS.KeGroup.pkCodec.Sized) (hseed : O.codec.Sized)
    (hkeypair : S.codec.Sized) : (codec S O).Sized :=
  codec_same.sized (((hseed.both hkeypair).both hpk.mapErr).imap _ _)

theorem codec_canonical (hpk : CS.KeGroup.pkCodec.Canonical) (hseed : O.codec.Canonical)
    (hkeypair : S.codec.Canonical) : (codec S O).Canonical :=
  codec_same.canonical (((hseed.both hkeypair).both hpk.mapErr).imap fun _ => rfl)

end ServerSetup

end setup

end OpaqueVx
