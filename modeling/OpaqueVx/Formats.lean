import OpaqueVx.WireFormat
import OpaqueVx.Reference
import OpaqueVx.KeyExchange.Group.Ed25519

/-! # What the deserializers accept

  A format is a serializer into a fixed number of bytes and a deserializer of
  whole strings. Every value is read back, and a string that is too short is an
  error. What follows a value is ignored by nine of the eleven deserializers, so
  there an accepted string is the encoding of the result exactly when it has the
  length of the format; the two that hand the rest of the input to the OPRF
  library accept the encodings only. -/

namespace OpaqueVx

open Lib

variable {CS : CipherSuite} {ε α : Type}

/-- A public serializer and deserializer. -/
structure Format (ε α : Type) where
  len : Nat
  serialize : α → GenericArray len
  deserialize : Bytes → Outcome ε α

namespace Format

/-- Every accepted string is the encoding of the result. -/
def AcceptsEncodings (F : Format ε α) : Prop :=
  ∀ b v, F.deserialize b = .ok v → (F.serialize v).bytes = b

/-- An accepted string is the encoding of the result exactly when it has the length
    of the format. -/
def AcceptsEncodingsAtLength (F : Format ε α) : Prop :=
  ∀ b v, F.deserialize b = .ok v → ((F.serialize v).bytes = b ↔ b.length = F.len)

/-- The value is read back, and every strict prefix of its encoding is an error. -/
def RoundTrips (F : Format ε α) (v : α) : Prop :=
  F.deserialize (F.serialize v).bytes = .ok v ∧
    ∀ p, p <+: (F.serialize v).bytes → p ≠ (F.serialize v).bytes → (F.deserialize p).IsErr

/-- A value is written down and read again. -/
def reload (F : Format ε α) (v : α) : Outcome ε α := F.deserialize (F.serialize v).bytes

/-- The format that reads with a codec and drops what is left. -/
def ofCodec (c : Codec ε α) : Format ε α := ⟨c.len, c.encode, c.decodeFront⟩

/-- What a canonical codec accepts is an encoding exactly at its length. -/
theorem acceptsEncodingsAtLength_ofCodec {c : Codec ε α} (h : c.Canonical) :
    (ofCodec c).AcceptsEncodingsAtLength :=
  fun _ _ hb => h.decodeFront_iff hb

/-- A strict prefix is shorter. -/
theorem length_lt_of_append {n : Nat} {a : GenericArray n} {p : Bytes} (hp : p <+: a.bytes)
    (hne : p ≠ a.bytes) : p.length < n := by
  obtain ⟨t, ht⟩ := hp
  have hlen := congrArg List.length ht
  rw [List.length_append, a.size] at hlen
  cases t with
  | nil => exact absurd (by simpa using ht) hne
  | cons x t =>
    simp only [List.length_cons] at hlen
    omega

/-- A value that is read back from its encoding is not read from less. -/
theorem roundTrips_ofCodec {c : Codec ε α} {v : α} (hv : c.ReadsBack v) (hsized : c.Sized) :
    (ofCodec c).RoundTrips v := by
  refine ⟨hv.decodeFront, ?_⟩
  intro p hp hne
  exact hsized.decodeFront_short (length_lt_of_append hp hne)

end Format

/-! ### The eleven formats -/

section formats

variable (CS) (KE : KeyExchange CS)

def RegistrationRequest.format : Format Error (RegistrationRequest CS) :=
  ⟨_, serialize, deserialize⟩

def RegistrationResponse.format : Format Error (RegistrationResponse CS) :=
  ⟨_, serialize, deserialize⟩

def RegistrationUpload.format : Format Error (RegistrationUpload CS) :=
  ⟨_, serialize, deserialize⟩

def CredentialRequest.format : Format Error (CredentialRequest CS KE) :=
  ⟨_, serialize, deserialize⟩

def CredentialResponse.format : Format Error (CredentialResponse CS KE) :=
  ⟨_, serialize, deserialize⟩

def CredentialFinalization.format : Format Error (CredentialFinalization CS KE) :=
  ⟨_, serialize, deserialize⟩

def ServerRegistration.format : Format Error (ServerRegistration CS) :=
  ⟨_, serialize, deserialize⟩

def ClientRegistration.format : Format Error (ClientRegistration CS) :=
  ⟨_, serialize, deserialize⟩

def ClientLogin.format : Format Error (ClientLogin CS KE) := ⟨_, serialize, deserialize⟩

def ServerLogin.format : Format Error (ServerLogin CS KE) := ⟨_, serialize, deserialize⟩

/-- A setup with its key and its seed in memory. -/
def LocalSetup.format : Format Error (LocalSetup CS) :=
  ⟨_, ServerSetup.serialize (PrivateKey.serialization CS.KeGroup)
      (OprfSeed.serialization CS.OprfHash Empty),
    ServerSetup.deserialize (PrivateKey.serialization CS.KeGroup)
      (OprfSeed.serialization CS.OprfHash Empty)⟩

theorem ServerRegistration.format_eq :
    ServerRegistration.format CS = .ofCodec (ServerRegistration.codec CS) := by
  have hdeserialize : ServerRegistration.deserialize =
      (ServerRegistration.codec CS).decodeFront := funext deserialize_eq
  rw [format, hdeserialize]
  rfl

theorem LocalSetup.format_eq :
    LocalSetup.format CS = .ofCodec (ServerSetup.codec (PrivateKey.serialization CS.KeGroup)
      (OprfSeed.serialization CS.OprfHash Empty)) :=
  rfl

end formats

/-! ### The two deserializers that look at the whole input -/

namespace RegistrationRequest

/-- The whole input goes to the decoder, so what is accepted is the encoding. -/
theorem deserialize_eq_ok (hoprf : CS.OprfCs.Encoding) {b : Bytes} {m : RegistrationRequest CS} :
    deserialize b = .ok m ↔ b = m.serialize.bytes := by
  unfold deserialize
  constructor
  · intro h
    -- The length is checked first; the library then decodes all that is left.
    by_cases hlen : b.length < CS.OprfCs.ElemLen
    · simp only [if_pos hlen] at h
      cases h
    · simp only [if_neg hlen] at h
      obtain ⟨e, he, h⟩ := Outcome.bind_eq_ok.mp h
      injection h with h
      subst h
      exact (hoprf.elem b e).mp (fromVoprf_eq_ok.mp he)
  · intro h
    have hlen : b.length = CS.OprfCs.ElemLen := by
      rw [h]
      simp [serialize]
    have he := (hoprf.elem b m.blindedElement).mpr h
    simp [hlen, he]

theorem deserialize_serialize (hoprf : CS.OprfCs.Decodes) (m : RegistrationRequest CS) :
    deserialize m.serialize.bytes = .ok m := by
  unfold deserialize
  have hlen : ¬ m.serialize.bytes.length < CS.OprfCs.ElemLen := by simp [serialize]
  simp only [if_neg hlen]
  have he : CS.OprfCs.deserializeElem m.serialize.bytes = .ok m.blindedElement :=
    hoprf.elem m.blindedElement
  rw [he]
  rfl

theorem deserialize_short {b : Bytes} (h : b.length < CS.OprfCs.ElemLen) :
    (deserialize b : Outcome Error (RegistrationRequest CS)).IsErr :=
  ⟨.serializationError, by simp [deserialize, h]⟩

theorem roundTrips (hoprf : CS.OprfCs.Decodes) (m : RegistrationRequest CS) :
    (format CS).RoundTrips m := by
  refine ⟨deserialize_serialize hoprf m, ?_⟩
  intro p hp hne
  exact deserialize_short (Format.length_lt_of_append hp hne)

end RegistrationRequest

namespace ClientRegistration

theorem deserialize_serialize (hoprf : CS.OprfCs.Decodes) (s : ClientRegistration CS) :
    deserialize s.serialize.bytes = .ok s := by
  have hc : takeOprfClient.run s.serialize.bytes =
      .ok (s.oprfClient, (CS.OprfCs.serializeElem s.blindedElement).bytes) :=
    checkedCodec_roundTrip hoprf.client s.oprfClient _
  unfold deserialize
  rw [hc]
  simp [hoprf.elem]

theorem deserialize_eq_ok (hoprf : CS.OprfCs.Encoding) {b : Bytes} {s : ClientRegistration CS} :
    deserialize b = .ok s ↔ b = s.serialize.bytes := by
  have hclient : (checkedCodec CS.OprfCs.ScalarLen CS.OprfCs.serializeClient
      CS.OprfCs.deserializeClient).Canonical :=
    checkedCodec_canonical fun b c => (hoprf.client b c).mp
  constructor
  · intro h
    obtain ⟨⟨c, rest⟩, hc, h⟩ := Outcome.bind_eq_ok.mp h
    obtain ⟨e, he, h⟩ := Outcome.bind_eq_ok.mp h
    injection h with h
    subst h
    rw [hclient b c rest hc, (hoprf.elem rest e).mp (fromVoprf_eq_ok.mp he)]
    rfl
  · intro h
    rw [h]
    exact deserialize_serialize hoprf.decodes s

end ClientRegistration

/-! ### Accepted strings -/

/-- The five formats of a login. -/
structure LoginFormatsAcceptAtLength (KE : KeyExchange CS) : Prop where
  credentialRequest : (CredentialRequest.format CS KE).AcceptsEncodingsAtLength
  credentialResponse : (CredentialResponse.format CS KE).AcceptsEncodingsAtLength
  credentialFinalization : (CredentialFinalization.format CS KE).AcceptsEncodingsAtLength
  clientLogin : (ClientLogin.format CS KE).AcceptsEncodingsAtLength
  serverLogin : (ServerLogin.format CS KE).AcceptsEncodingsAtLength

/-- The formats of a login, in any key exchange whose messages and states are lawful. -/
theorem loginFormats_accept (h : CS.Encoding .lawful) {KE : KeyExchange CS}
    (hmessage : KE.MessageLaws .lawful) (hstate : KE.StateLaws .lawful) :
    LoginFormatsAcceptAtLength KE where
  credentialRequest := Format.acceptsEncodingsAtLength_ofCodec
    (CredentialRequest.codec_law h hmessage).canonical
  credentialResponse := Format.acceptsEncodingsAtLength_ofCodec
    (CredentialResponse.codec_law h hmessage).canonical
  credentialFinalization := Format.acceptsEncodingsAtLength_ofCodec
    (CredentialFinalization.codec_law hmessage).canonical
  clientLogin := Format.acceptsEncodingsAtLength_ofCodec
    (ClientLogin.codec_law h hmessage hstate).canonical
  serverLogin := Format.acceptsEncodingsAtLength_ofCodec (ServerLogin.codec_law hstate).canonical

theorem registrationUpload_accepts (h : CS.KeGroup.KeyEncoding .lawful) :
    (RegistrationUpload.format CS).AcceptsEncodingsAtLength :=
  Format.acceptsEncodingsAtLength_ofCodec (RegistrationUpload.codec_canonical h.pk.canonical)

theorem serverRegistration_accepts (h : CS.KeGroup.KeyEncoding .lawful) :
    (ServerRegistration.format CS).AcceptsEncodingsAtLength := by
  rw [ServerRegistration.format_eq]
  apply Format.acceptsEncodingsAtLength_ofCodec
  exact (RegistrationUpload.codec_canonical h.pk.canonical).imap fun _ => rfl

theorem localSetup_accepts (h : CS.KeGroup.KeyEncoding .lawful) :
    (LocalSetup.format CS).AcceptsEncodingsAtLength := by
  rw [LocalSetup.format_eq]
  apply Format.acceptsEncodingsAtLength_ofCodec
  apply ServerSetup.codec_canonical h.pk.canonical
  · exact (arrayCodec_canonical _ _).mapErr
  · exact PrivateKey.codec_canonical h.sk.canonical

/-- What each of the eleven deserializers accepts, for each key exchange. -/
theorem deserializers_accept (hkey : CS.KeGroup.KeyEncoding .lawful)
    (hoprf : CS.OprfCs.Encoding) (hpanic : CS.OprfCs.NeverPanics) :
    (RegistrationRequest.format CS).AcceptsEncodings ∧
    (ClientRegistration.format CS).AcceptsEncodings ∧
    (RegistrationResponse.format CS).AcceptsEncodingsAtLength ∧
    (RegistrationUpload.format CS).AcceptsEncodingsAtLength ∧
    (ServerRegistration.format CS).AcceptsEncodingsAtLength ∧
    (LocalSetup.format CS).AcceptsEncodingsAtLength ∧
    (∀ [DiffieHellman CS.KeGroup], LoginFormatsAcceptAtLength (TripleDh.keyExchange CS)) ∧
    (∀ [DiffieHellman CS.KeGroup] (K : KemCoreWrapper), K.decapsulationKey.Lawful →
      LoginFormatsAcceptAtLength (TripleDhKem.keyExchange CS K)) ∧
    (∀ (KE : Group) [DiffieHellman KE] (SIG : SigmaI.SignatureProtocol CS KE),
      KE.KeyEncoding .lawful → SIG.Encoding .lawful →
      LoginFormatsAcceptAtLength (SigmaI.keyExchange CS KE SIG)) := by
  have hcs := CipherSuite.encoding_lawful hkey hoprf hpanic
  -- Two formats look at the whole input, the others are read from its front.
  refine ⟨?_, ?_, ?_, registrationUpload_accepts hkey, serverRegistration_accepts hkey,
    localSetup_accepts hkey, ?_, ?_, ?_⟩
  · intro b m hb
    exact ((RegistrationRequest.deserialize_eq_ok hoprf).mp hb).symm
  · intro b s hb
    exact ((ClientRegistration.deserialize_eq_ok hoprf).mp hb).symm
  · exact Format.acceptsEncodingsAtLength_ofCodec (RegistrationResponse.codec_law hcs).canonical
  · intro _
    exact loginFormats_accept hcs (TripleDh.messageLaws hkey.pk) (TripleDh.stateLaws hkey.sk)
  · intro _ K hdk
    exact loginFormats_accept hcs (TripleDhKem.messageLaws hkey.pk)
      (TripleDhKem.stateLaws hkey.sk hdk)
  · intro KE _ SIG hke hsig
    exact loginFormats_accept hcs (SigmaI.messageLaws hke.pk hsig.signature)
      (SigmaI.stateLaws hkey.pk hke.sk hsig.verifyState)

/-- The reference instantiation meets the conditions. -/
theorem deserializers_accept_reference :
    (RegistrationRequest.format Reference.suite).AcceptsEncodings ∧
      (LocalSetup.format Reference.suite).AcceptsEncodingsAtLength ∧
      LoginFormatsAcceptAtLength (TripleDh.keyExchange Reference.suite) ∧
      LoginFormatsAcceptAtLength (TripleDhKem.keyExchange Reference.suite Reference.mlKem.core) ∧
      LoginFormatsAcceptAtLength
        (SigmaI.keyExchange Reference.suite Reference.group Reference.ecdsa) := by
  obtain ⟨hrequest, -, -, -, -, hsetup, hdh, hkem, hsigma⟩ := @deserializers_accept
    Reference.suite Reference.group_keyEncoding Reference.voprf_encoding
    Reference.voprf_neverPanics
  refine ⟨hrequest, hsetup, hdh, hkem _ Reference.mlKem_decapsulationKey, ?_⟩
  exact hsigma Reference.group _ Reference.group_keyEncoding
    (SigmaI.Ecdsa.encoding_lawful Reference.curve_fromBytes)

/-- A finalization with a byte behind it is accepted. -/
theorem credentialFinalization_accepts_trailing :
    ¬ (CredentialFinalization.format Reference.suite
      (TripleDh.keyExchange Reference.suite)).AcceptsEncodings := by
  intro h
  have hread : (CredentialFinalization.format Reference.suite
      (TripleDh.keyExchange Reference.suite)).deserialize [5, 6] =
      .ok ⟨⟨Reference.single 5⟩⟩ := rfl
  have hbytes := h [5, 6] ⟨⟨Reference.single 5⟩⟩ hread
  exact absurd hbytes (by decide)

/-! ### Round trips -/

namespace Envelope

/-- An envelope that can travel: sealed by a client, or decoded. -/
def Transmitted (e : Envelope CS) : Prop :=
  (∃ hasher serverSPk ids clientSPk exportKey r r',
    (Envelope.seal hasher serverSPk ids).run r = .ok ((e, clientSPk, exportKey), r')) ∨
  ∃ b rest, Envelope.deserializeTake.run b = .ok (e, rest)

theorem mode_of_seal {hasher : Hkdf CS.OprfHash} {serverSPk : PublicKey CS.KeGroup}
    {ids : Identifiers} {clientSPk : PublicKey CS.KeGroup} {exportKey : Output CS.OprfHash}
    {e : Envelope CS} {r r' : Rng}
    (h : (Envelope.seal hasher serverSPk ids).run r = .ok ((e, clientSPk, exportKey), r')) :
    e.mode = .internal := by
  unfold Envelope.seal at h
  obtain ⟨nonce, r₁, -, h⟩ := run_bind_eq_ok.mp h
  obtain ⟨pk, -, h⟩ := run_lift_bind_eq_ok.mp h
  obtain ⟨identifiers, -, h⟩ := run_lift_bind_eq_ok.mp h
  obtain ⟨result, hsealed, h⟩ := run_lift_bind_eq_ok.mp h
  have hmode := mode_of_sealRaw (fromInternal_eq_ok.mp hsealed)
  simp only [StateT.run_pure, Outcome.pure_eq, Outcome.ok.injEq, Prod.mk.injEq] at h
  obtain ⟨⟨rfl, -⟩, -⟩ := h
  exact hmode

/-- Those are the envelopes of mode `Internal`. -/
theorem transmitted_iff {e : Envelope CS} : e.Transmitted ↔ e.mode = .internal := by
  constructor
  · intro h
    cases h with
    | inl h =>
      obtain ⟨_, _, _, _, _, _, _, h⟩ := h
      exact mode_of_seal h
    | inr h =>
      obtain ⟨_, _, h⟩ := h
      exact mode_of_take h
  · intro h
    exact Or.inr ⟨_, [], codec_readsBack h []⟩

end Envelope

/-- The messages of a login and the parts its key exchange contributes. -/
structure LoginMessagesRoundTrip (KE : KeyExchange CS) : Prop where
  credentialRequest : ∀ m, (CredentialRequest.format CS KE).RoundTrips m
  credentialResponse : ∀ m, (CredentialResponse.format CS KE).RoundTrips m
  credentialFinalization : ∀ m, (CredentialFinalization.format CS KE).RoundTrips m
  ke1Message : KE.ke1Message.RoundTrip
  ke2Message : KE.ke2Message.RoundTrip
  ke3Message : KE.ke3Message.RoundTrip

/-- The round trips of the messages of a login, in any key exchange whose messages are
    self-delimiting. -/
theorem loginMessages_roundTrip (h : CS.Encoding .selfDelimiting) {KE : KeyExchange CS}
    (hmessage : KE.MessageLaws .selfDelimiting) : LoginMessagesRoundTrip KE where
  credentialRequest m :=
    have hlaw := CredentialRequest.codec_law h hmessage
    Format.roundTrips_ofCodec (hlaw.1 m) hlaw.2
  credentialResponse m :=
    have hlaw := CredentialResponse.codec_law h hmessage
    Format.roundTrips_ofCodec (hlaw.1 m) hlaw.2
  credentialFinalization m :=
    have hlaw := CredentialFinalization.codec_law hmessage
    Format.roundTrips_ofCodec (hlaw.1 m) hlaw.2
  ke1Message := hmessage.ke1Message.1
  ke2Message := hmessage.ke2Message.1
  ke3Message := hmessage.ke3Message.1

/-- Every message is read back and no strict prefix of it is; every part is read
    back from the front of any string. -/
theorem messages_roundTrip (hkey : CS.KeGroup.KeyEncoding .selfDelimiting)
    (hoprf : CS.OprfCs.Decodes) (hpanic : CS.OprfCs.NeverPanics) :
    (∀ m, (RegistrationRequest.format CS).RoundTrips m) ∧
    (∀ m, (RegistrationResponse.format CS).RoundTrips m) ∧
    (∀ m, m.envelope.Transmitted → (RegistrationUpload.format CS).RoundTrips m) ∧
    (∀ e, e.Transmitted → (Envelope.codec CS).ReadsBack e) ∧
    (MaskedResponse.codec CS).RoundTrip ∧
    Ed25519.Signature.codec.RoundTrip ∧
    (∀ [DiffieHellman CS.KeGroup], LoginMessagesRoundTrip (TripleDh.keyExchange CS)) ∧
    (∀ [DiffieHellman CS.KeGroup] (K : KemCoreWrapper),
      LoginMessagesRoundTrip (TripleDhKem.keyExchange CS K)) ∧
    (∀ (KE : Group) [DiffieHellman KE] (SIG : SigmaI.SignatureProtocol CS KE),
      KE.KeyEncoding .selfDelimiting → SIG.Encoding .selfDelimiting →
      LoginMessagesRoundTrip (SigmaI.keyExchange CS KE SIG)) := by
  have hcs := CipherSuite.encoding_selfDelimiting hkey hoprf hpanic
  refine ⟨RegistrationRequest.roundTrips hoprf, ?_, ?_, ?_, MaskedResponse.codec_lawful.roundTrip,
    Ed25519.Signature.codec_lawful.roundTrip, ?_, ?_, ?_⟩
  · intro m
    have hlaw := RegistrationResponse.codec_law hcs
    exact Format.roundTrips_ofCodec (hlaw.1 m) hlaw.2
  -- The mode of the envelope is not written, so it is given here.
  · intro m hm
    have hmode := Envelope.transmitted_iff.mp hm
    exact Format.roundTrips_ofCodec (RegistrationUpload.codec_readsBack hkey.pk.1 hmode)
      (RegistrationUpload.codec_sized hkey.pk.2)
  · intro e he
    exact Envelope.codec_readsBack (Envelope.transmitted_iff.mp he)
  · intro _
    exact loginMessages_roundTrip hcs (TripleDh.messageLaws hkey.pk)
  · intro _ K
    exact loginMessages_roundTrip hcs (TripleDhKem.messageLaws hkey.pk)
  · intro KE _ SIG hke hsig
    exact loginMessages_roundTrip hcs (SigmaI.messageLaws hke.pk hsig.signature)

/-- The reference instantiation meets the conditions. -/
theorem messages_roundTrip_reference :
    (∀ m, (RegistrationRequest.format Reference.suite).RoundTrips m) ∧
      LoginMessagesRoundTrip (TripleDh.keyExchange Reference.suite) ∧
      LoginMessagesRoundTrip (TripleDhKem.keyExchange Reference.suite Reference.mlKem.core) ∧
      LoginMessagesRoundTrip
        (SigmaI.keyExchange Reference.suite Reference.group Reference.ecdsa) := by
  obtain ⟨hrequest, -, -, -, -, -, hdh, hkem, hsigma⟩ := @messages_roundTrip
    Reference.suite Reference.group_keyEncoding.of_lawful Reference.voprf_encoding.decodes
    Reference.voprf_neverPanics
  refine ⟨hrequest, hdh, hkem _, ?_⟩
  exact hsigma Reference.group _ Reference.group_keyEncoding.of_lawful
    (SigmaI.Ecdsa.encoding_selfDelimiting fun _ => rfl)

/-- The envelope of the dummy record comes back with another mode. -/
theorem envelope_dummy_not_readBack : ¬ (Envelope.codec Reference.suite).RoundTrip := by
  intro h
  have hmode := Envelope.mode_of_take (h Envelope.dummy [])
  cases hmode

end OpaqueVx
