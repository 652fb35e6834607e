import OpaqueVx.KeyExchange.Basic

/-! # Envelope

  The envelope a client leaves with the server at registration. It is sealed and
  opened with keys expanded from the randomized password; the client's static
  key is not stored but derived again from the nonce. -/

namespace OpaqueVx

open Lib

def strAuthKey : Bytes := ascii "AuthKey"
def strExportKey : Bytes := ascii "ExportKey"
def strPrivateKey : Bytes := ascii "PrivateKey"

inductive InnerEnvelopeMode where
  | zero
  | internal
  deriving DecidableEq, Repr

@[ext] structure Envelope (CS : CipherSuite) where
  mode : InnerEnvelopeMode
  nonce : GenericArray nonceLen
  hmac : Output CS.OprfHash
  deriving DecidableEq

structure OpenedEnvelope (CS : CipherSuite) where
  clientStaticKeypair : KeyPair CS.KeGroup (PrivateKey CS.KeGroup)
  exportKey : Output CS.OprfHash
  identifiers : SerializedIdentifiers CS.KeGroup

section envelope

variable {CS : CipherSuite}

/-- `build_inner_envelope_internal`. -/
def buildInnerEnvelopeInternal (randomizedPwdHasher : Hkdf CS.OprfHash)
    (nonce : GenericArray nonceLen) : Outcome Error (PublicKey CS.KeGroup) := do
  let keypairSeed ← .okOr (.libraryError .hkdfError)
    (randomizedPwdHasher.expandMultiInfo [nonce.bytes, strPrivateKey] CS.KeGroup.SkLen)
  let clientSSk ← fromInternal (CS.KeGroup.deriveScalar keypairSeed)
  return CS.KeGroup.publicKey clientSSk

/-- `recover_keys_internal`. -/
def recoverKeysInternal (randomizedPwdHasher : Hkdf CS.OprfHash)
    (nonce : GenericArray nonceLen) :
    Outcome Error (KeyPair CS.KeGroup (PrivateKey CS.KeGroup)) := do
  let keypairSeed ← .okOr (.libraryError .hkdfError)
    (randomizedPwdHasher.expandMultiInfo [nonce.bytes, strPrivateKey] CS.KeGroup.SkLen)
  let clientSSk ← fromInternal (CS.KeGroup.deriveScalar keypairSeed)
  let clientSPk := CS.KeGroup.publicKey clientSSk
  return { pk := clientSPk, sk := clientSSk }

/-- `construct_aad`. -/
def constructAad (idU idS : List Bytes) (serverSPk : Bytes) : List Bytes :=
  [serverSPk] ++ idS ++ idU

namespace Envelope

/-- `seal_raw`. -/
def sealRaw (randomizedPwdHasher : Hkdf CS.OprfHash) (nonce : GenericArray nonceLen)
    (aad : List Bytes) (mode : InnerEnvelopeMode) :
    Outcome InternalError (Envelope CS × Output CS.OprfHash) := do
  let hmacKey ← .okOr .hkdfError
    (randomizedPwdHasher.expandMultiInfo [nonce.bytes, strAuthKey] CS.OprfHash.outputSize)
  let exportKey ← .okOr .hkdfError
    (randomizedPwdHasher.expandMultiInfo [nonce.bytes, strExportKey] CS.OprfHash.outputSize)
  let hmac : SimpleHmac CS.OprfHash ← .okOr .hmacError (SimpleHmac.newFromSlice hmacKey.bytes)
  let hmac := (hmac.update nonce.bytes).updateIter aad
  return ({ mode, nonce, hmac := hmac.finalize }, exportKey)

/-- `Envelope::seal`. -/
def «seal» (randomizedPwdHasher : Hkdf CS.OprfHash) (serverSPk : PublicKey CS.KeGroup)
    (ids : Identifiers) :
    RngM Error (Envelope CS × PublicKey CS.KeGroup × Output CS.OprfHash) := do
  let nonce ← fillBytes nonceLen
  let mode := InnerEnvelopeMode.internal
  let clientSPk ← buildInnerEnvelopeInternal randomizedPwdHasher nonce
  let serverSPkBytes := CS.KeGroup.serializePk serverSPk
  let identifiers ← SerializedIdentifiers.fromIdentifiers ids
    (CS.KeGroup.serializePk clientSPk) serverSPkBytes
  let aad := constructAad identifiers.client.iter identifiers.server.iter serverSPkBytes.bytes
  let result ← fromInternal (sealRaw randomizedPwdHasher nonce aad mode)
  return (result.1, clientSPk, result.2)

/-- `open_raw`. -/
def openRaw (self : Envelope CS) (randomizedPwdHasher : Hkdf CS.OprfHash) (aad : List Bytes) :
    Outcome InternalError (Output CS.OprfHash) := do
  let hmacKey ← .okOr .hkdfError
    (randomizedPwdHasher.expandMultiInfo [self.nonce.bytes, strAuthKey] CS.OprfHash.outputSize)
  let exportKey ← .okOr .hkdfError
    (randomizedPwdHasher.expandMultiInfo [self.nonce.bytes, strExportKey] CS.OprfHash.outputSize)
  let hmac : SimpleHmac CS.OprfHash ← .okOr .hmacError (SimpleHmac.newFromSlice hmacKey.bytes)
  let hmac := (hmac.update self.nonce.bytes).updateIter aad
  if hmac.verify self.hmac then
    return exportKey
  else
    .err .sealOpenHmacError

/-- `Envelope::open`. -/
def «open» (self : Envelope CS) (randomizedPwdHasher : Hkdf CS.OprfHash)
    (serverSPk : PublicKey CS.KeGroup) (optionalIds : Identifiers) :
    Outcome Error (OpenedEnvelope CS) := do
  let clientStaticKeypair ←
    match self.mode with
    | .zero => .err (.libraryError .incompatibleEnvelopeModeError)
    | .internal => recoverKeysInternal randomizedPwdHasher self.nonce
  let serverSPkBytes := CS.KeGroup.serializePk serverSPk
  let identifiers ← SerializedIdentifiers.fromIdentifiers optionalIds
    (CS.KeGroup.serializePk clientStaticKeypair.pk) serverSPkBytes
  let aad := constructAad identifiers.client.iter identifiers.server.iter serverSPkBytes.bytes
  let exportKey ← fromInternal (self.openRaw randomizedPwdHasher aad)
  return { clientStaticKeypair, exportKey, identifiers }

/-- `Envelope::dummy`: serializes to the all-zeros byte string. -/
def dummy : Envelope CS := ⟨.zero, .zeros _, .zeros _⟩

def serialize (self : Envelope CS) : GenericArray CS.EnvelopeLen :=
  concatExt self.nonce self.hmac

/-- The mode is not transmitted: a decoded envelope is of mode `Internal`. -/
def deserializeTake : Reader Error (Envelope CS) := do
  let mode := InnerEnvelopeMode.internal
  let nonce ← takeArray nonceLen "nonce"
  let hmac ← takeArray CS.OprfHash.outputSize "hmac"
  return { mode, nonce, hmac }

variable (CS) in
def codec : Codec Error (Envelope CS) := ⟨CS.EnvelopeLen, serialize, deserializeTake⟩

theorem codec_same : (codec CS).Same (((arrayCodec nonceLen "nonce").both
    (arrayCodec CS.OprfHash.outputSize "hmac")).imap
    (fun p => ⟨.internal, p.1, p.2⟩) (fun e => (e.nonce, e.hmac))) where
  len := Nat.add_comm _ _
  encode _ := rfl
  take := by simp [codec, deserializeTake, arrayCodec, Codec.both, Codec.imap]

/-- An envelope of mode `Internal` is read back. -/
theorem codec_readsBack {e : Envelope CS} (h : e.mode = .internal) : (codec CS).ReadsBack e := by
  apply codec_same.readsBack
  apply Codec.ReadsBack.imap
  · exact (arrayCodec_roundTrip _ _ _).both (arrayCodec_roundTrip _ _ _)
  · exact Envelope.ext h.symm rfl rfl

/-- All byte strings of the length of an envelope are one. -/
theorem exists_serialize (b : GenericArray CS.EnvelopeLen) :
    ∃ e : Envelope CS, e.mode = .internal ∧ e.serialize.bytes = b.bytes := by
  have hlen : b.bytes.length = CS.OprfHash.outputSize + nonceLen := b.size
  let nonce : GenericArray nonceLen := ⟨b.bytes.take nonceLen, by rw [List.length_take]; omega⟩
  let hmac : Output CS.OprfHash := ⟨b.bytes.drop nonceLen, by rw [List.length_drop]; omega⟩
  refine ⟨⟨.internal, nonce, hmac⟩, rfl, ?_⟩
  show (concatExt nonce hmac).bytes = b.bytes
  rw [bytes_concatExt]
  exact List.take_append_drop _ _

theorem codec_sized : (codec CS).Sized :=
  codec_same.sized (((arrayCodec_sized _ _).both (arrayCodec_sized _ _)).imap _ _)

theorem codec_canonical : (codec CS).Canonical :=
  codec_same.canonical
    (((arrayCodec_canonical _ _).both (arrayCodec_canonical _ _)).imap fun _ => rfl)

/-- A decoded envelope has mode `Internal`. -/
theorem mode_of_take {b rest : Bytes} {e : Envelope CS}
    (h : (codec CS).take.run b = .ok (e, rest)) : e.mode = .internal := by
  rw [codec_same.take] at h
  obtain ⟨p, b₁, -, h⟩ := run_bind_eq_ok.mp h
  simp only [StateT.run_pure, Outcome.pure_eq, Outcome.ok.injEq, Prod.mk.injEq] at h
  rw [← h.1]

/-! ### What the functions compute -/

section closedForm

variable {randomizedPwdHasher : Hkdf CS.OprfHash} {nonce : GenericArray nonceLen}

theorem expand_nonce (randomizedPwdHasher : Hkdf CS.OprfHash) (nonce : GenericArray nonceLen)
    (label : Bytes) {n : Nat} (hn : n ≤ 255 * CS.OprfHash.outputSize) :
    randomizedPwdHasher.expandMultiInfo [nonce.bytes, label] n =
      some (CS.OprfHash.expand randomizedPwdHasher.prk (nonce.bytes ++ label) n) := by
  rw [Hkdf.expandMultiInfo_eq_some]
  exact ⟨hn, by simp⟩

/-- The key of the envelope's MAC. -/
def authKey (randomizedPwdHasher : Hkdf CS.OprfHash) (nonce : GenericArray nonceLen) :
    Output CS.OprfHash :=
  CS.OprfHash.expand randomizedPwdHasher.prk (nonce.bytes ++ strAuthKey) CS.OprfHash.outputSize

/-- The envelope's MAC over the nonce and the additional data. -/
def authTag (randomizedPwdHasher : Hkdf CS.OprfHash) (nonce : GenericArray nonceLen)
    (aad : List Bytes) : Output CS.OprfHash :=
  CS.OprfHash.hmac (authKey randomizedPwdHasher nonce).bytes (nonce.bytes ++ aad.flatten)

/-- The key left to the application. -/
def exportKey (randomizedPwdHasher : Hkdf CS.OprfHash) (nonce : GenericArray nonceLen) :
    Output CS.OprfHash :=
  CS.OprfHash.expand randomizedPwdHasher.prk (nonce.bytes ++ strExportKey) CS.OprfHash.outputSize

/-- Sealing always succeeds. -/
theorem sealRaw_eq (randomizedPwdHasher : Hkdf CS.OprfHash) (nonce : GenericArray nonceLen)
    (aad : List Bytes) (mode : InnerEnvelopeMode) :
    sealRaw randomizedPwdHasher nonce aad mode =
      .ok (⟨mode, nonce, authTag randomizedPwdHasher nonce aad⟩,
        exportKey randomizedPwdHasher nonce) := by
  have hsize : CS.OprfHash.outputSize ≤ 255 * CS.OprfHash.outputSize := by omega
  unfold sealRaw
  rw [expand_nonce _ _ _ hsize, expand_nonce _ _ _ hsize]
  simp only [SimpleHmac.updateIter_eq]
  rfl

/-- Opening compares the MAC and gives the export key of the seal. -/
theorem openRaw_eq (e : Envelope CS) (randomizedPwdHasher : Hkdf CS.OprfHash)
    (aad : List Bytes) :
    e.openRaw randomizedPwdHasher aad =
      if authTag randomizedPwdHasher e.nonce aad = e.hmac then
        .ok (exportKey randomizedPwdHasher e.nonce)
      else .err .sealOpenHmacError := by
  have hsize : CS.OprfHash.outputSize ≤ 255 * CS.OprfHash.outputSize := by omega
  unfold openRaw
  rw [expand_nonce _ _ _ hsize, expand_nonce _ _ _ hsize]
  simp only [SimpleHmac.updateIter_eq, SimpleHmac.verify, decide_eq_true_eq]
  rfl

/-- The client's private key, if the seed is not too long for HKDF. -/
theorem recoverKeysInternal_eq_ok {keypair : KeyPair CS.KeGroup (PrivateKey CS.KeGroup)} :
    recoverKeysInternal randomizedPwdHasher nonce = .ok keypair ↔
      CS.KeGroup.SkLen ≤ 255 * CS.OprfHash.outputSize ∧
        CS.KeGroup.deriveScalar (CS.OprfHash.expand randomizedPwdHasher.prk
          (nonce.bytes ++ strPrivateKey) CS.KeGroup.SkLen) = .ok keypair.sk ∧
        keypair.pk = CS.KeGroup.publicKey keypair.sk := by
  unfold recoverKeysInternal
  constructor
  · intro h
    obtain ⟨keypairSeed, hseed, h⟩ := Outcome.bind_eq_ok.mp h
    obtain ⟨hsize, rfl⟩ := Hkdf.expandMultiInfo_eq_some.mp (Outcome.okOr_eq_ok.mp hseed)
    obtain ⟨clientSSk, hsk, h⟩ := Outcome.bind_eq_ok.mp h
    injection h with h
    subst h
    refine ⟨hsize, ?_, rfl⟩
    simpa using fromInternal_eq_ok.mp hsk
  · rintro ⟨hsize, hsk, hpk⟩
    obtain ⟨pk, sk⟩ := keypair
    simp only at hsk hpk
    simp only [expand_nonce _ _ _ hsize, Outcome.okOr_some, Outcome.ok_bind, hsk, fromInternal_ok,
      hpk]
    rfl

/-- What is left at the seal is the public key of the key pair that is recovered. -/
theorem buildInnerEnvelopeInternal_eq_ok {clientSPk : PublicKey CS.KeGroup} :
    buildInnerEnvelopeInternal randomizedPwdHasher nonce = .ok clientSPk ↔
      ∃ keypair, recoverKeysInternal randomizedPwdHasher nonce = .ok keypair ∧
        keypair.pk = clientSPk := by
  unfold buildInnerEnvelopeInternal recoverKeysInternal
  simp only [Outcome.bind_eq_ok, Outcome.pure_eq, Outcome.ok.injEq]
  constructor
  · rintro ⟨seed, hseed, sk, hsk, hpk⟩
    exact ⟨⟨_, sk⟩, ⟨seed, hseed, sk, hsk, rfl⟩, hpk⟩
  · rintro ⟨keypair, ⟨seed, hseed, sk, hsk, rfl⟩, hpk⟩
    exact ⟨seed, hseed, sk, hsk, hpk⟩

end closedForm

/-- A sealed envelope has mode `Internal`. -/
theorem mode_of_sealRaw {randomizedPwdHasher : Hkdf CS.OprfHash} {nonce : GenericArray nonceLen}
    {aad : List Bytes} {mode : InnerEnvelopeMode} {e : Envelope CS} {k : Output CS.OprfHash}
    (h : sealRaw randomizedPwdHasher nonce aad mode = .ok (e, k)) : e.mode = mode := by
  rw [sealRaw_eq] at h
  injection h with h
  rw [← (Prod.mk.inj h).1]

section sealed

variable {randomizedPwdHasher : Hkdf CS.OprfHash} {serverSPk : PublicKey CS.KeGroup}
  {ids : Identifiers} {r r' : Rng} {e : Envelope CS} {clientSPk : PublicKey CS.KeGroup}
  {k : Output CS.OprfHash}

/-- The additional data: the server's key and the identifiers with their lengths. -/
def aadOf (identifiers : SerializedIdentifiers CS.KeGroup) (serverSPk : PublicKey CS.KeGroup) :
    List Bytes :=
  constructAad identifiers.client.iter identifiers.server.iter
    (CS.KeGroup.serializePk serverSPk).bytes

/-- The additional data determine the server's key and both identifiers. -/
theorem aadOf_inj {i j : SerializedIdentifiers CS.KeGroup} {pk pk' : PublicKey CS.KeGroup}
    (h : (aadOf i pk).flatten = (aadOf j pk').flatten) :
    CS.KeGroup.serializePk pk = CS.KeGroup.serializePk pk' ∧ i.client.bytes = j.client.bytes ∧
      i.server.bytes = j.server.bytes := by
  simp only [aadOf, constructAad, List.flatten_append, List.flatten_cons, List.flatten_nil,
    List.append_nil, List.append_assoc] at h
  obtain ⟨hpk, h⟩ := GenericArray.append_inj h
  obtain ⟨hserver, h⟩ := SerializedIdentifier.iter_inj h
  have hclient := @SerializedIdentifier.iter_inj _ i.client j.client [] []
  rw [List.append_nil, List.append_nil] at hclient
  exact ⟨hpk, (hclient h).1, hserver⟩

/-- A seal draws a nonce; envelope, public key and export key follow from it. -/
theorem run_seal_eq_ok :
    (Envelope.seal randomizedPwdHasher serverSPk ids).run r = .ok ((e, clientSPk, k), r') ↔
      ∃ keypair identifiers,
        recoverKeysInternal randomizedPwdHasher (r.peek nonceLen) = .ok keypair ∧
        clientSPk = keypair.pk ∧
        SerializedIdentifiers.fromIdentifiers ids (CS.KeGroup.serializePk clientSPk)
          (CS.KeGroup.serializePk serverSPk) = .ok identifiers ∧
        e = ⟨.internal, r.peek nonceLen,
          authTag randomizedPwdHasher (r.peek nonceLen) (aadOf identifiers serverSPk)⟩ ∧
        k = exportKey randomizedPwdHasher (r.peek nonceLen) ∧ r' = r.advance nonceLen := by
  constructor
  · intro h
    obtain ⟨nonce, r₁, hnonce, h⟩ := run_bind_eq_ok.mp h
    obtain ⟨rfl, rfl⟩ : r.peek nonceLen = nonce ∧ r.advance nonceLen = r₁ := by
      simpa using hnonce
    -- Only the nonce is drawn; the calls behind it do not touch the generator.
    obtain ⟨pk, hpk, h⟩ := run_lift_bind_eq_ok.mp h
    obtain ⟨keypair, hkeypair, rfl⟩ := buildInnerEnvelopeInternal_eq_ok.mp hpk
    obtain ⟨identifiers, hids, h⟩ := run_lift_bind_eq_ok.mp h
    obtain ⟨sealed, hseal, h⟩ := run_lift_bind_eq_ok.mp h
    have hseal := fromInternal_eq_ok.mp hseal
    rw [sealRaw_eq] at hseal
    injection hseal with hseal
    subst hseal
    simp only [StateT.run_pure, Outcome.pure_eq, Outcome.ok.injEq, Prod.mk.injEq] at h
    obtain ⟨⟨rfl, rfl, rfl⟩, rfl⟩ := h
    exact ⟨keypair, identifiers, hkeypair, rfl, hids, rfl, rfl, rfl⟩
  · rintro ⟨keypair, identifiers, hkeypair, rfl, hids, rfl, rfl, rfl⟩
    have hpk := buildInnerEnvelopeInternal_eq_ok.mpr ⟨keypair, hkeypair, rfl⟩
    refine run_bind_eq_ok.mpr ⟨_, _, run_fillBytes _ _, ?_⟩
    refine run_lift_bind_eq_ok.mpr ⟨_, hpk, run_lift_bind_eq_ok.mpr ⟨_, hids, ?_⟩⟩
    exact run_lift_bind_eq_ok.mpr ⟨_, fromInternal_eq_ok.mpr (sealRaw_eq _ _ _ _), rfl⟩

/-- What opens an envelope of mode `Internal`. -/
theorem open_eq_ok {opened : OpenedEnvelope CS} :
    e.open randomizedPwdHasher serverSPk ids = .ok opened ↔
      e.mode = .internal ∧
      recoverKeysInternal randomizedPwdHasher e.nonce = .ok opened.clientStaticKeypair ∧
      SerializedIdentifiers.fromIdentifiers ids
        (CS.KeGroup.serializePk opened.clientStaticKeypair.pk)
        (CS.KeGroup.serializePk serverSPk) = .ok opened.identifiers ∧
      authTag randomizedPwdHasher e.nonce (aadOf opened.identifiers serverSPk) = e.hmac ∧
      opened.exportKey = exportKey randomizedPwdHasher e.nonce := by
  unfold Envelope.open
  constructor
  · intro h
    cases hmode : e.mode with
    | zero =>
      rw [hmode] at h
      cases h
    | internal =>
      rw [hmode] at h
      obtain ⟨keypair, hkeypair, h⟩ := Outcome.bind_eq_ok.mp h
      obtain ⟨identifiers, hids, h⟩ := Outcome.bind_eq_ok.mp h
      obtain ⟨key, hopen, h⟩ := Outcome.bind_eq_ok.mp h
      have hopen := fromInternal_eq_ok.mp hopen
      -- The tag is compared last, after both fallible steps.
      rw [openRaw_eq] at hopen
      injection h with h
      subst h
      split at hopen
      · rename_i htag
        injection hopen with hopen
        exact ⟨rfl, hkeypair, hids, htag, hopen.symm⟩
      · cases hopen
  · rintro ⟨hmode, hkeypair, hids, htag, hkey⟩
    obtain ⟨keypair, key, identifiers⟩ := opened
    simp only at hkeypair hids htag hkey
    have hopen : fromInternal (e.openRaw randomizedPwdHasher (aadOf identifiers serverSPk)) =
        .ok key := by
      rw [openRaw_eq, if_pos htag, hkey]
      rfl
    simp only [hmode, hkeypair, Outcome.ok_bind, hids]
    show (fromInternal (e.openRaw randomizedPwdHasher (aadOf identifiers serverSPk)) >>= _) = _
    rw [hopen]
    rfl

/-! ### Opening a sealed envelope -/

/-- A seal succeeds when the client's key can be derived from the nonce and the
    identifiers can be encoded. -/
theorem seal_succeeds {clientSSk : PrivateKey CS.KeGroup}
    {identifiers : SerializedIdentifiers CS.KeGroup}
    (hsize : CS.KeGroup.SkLen ≤ 255 * CS.OprfHash.outputSize)
    (hsk : CS.KeGroup.deriveScalar (CS.OprfHash.expand randomizedPwdHasher.prk
      ((r.peek nonceLen).bytes ++ strPrivateKey) CS.KeGroup.SkLen) = .ok clientSSk)
    (hids : SerializedIdentifiers.fromIdentifiers ids
      (CS.KeGroup.serializePk (CS.KeGroup.publicKey clientSSk))
      (CS.KeGroup.serializePk serverSPk) = .ok identifiers) :
    ∃ e exportKey, (Envelope.seal randomizedPwdHasher serverSPk ids).run r =
      .ok ((e, CS.KeGroup.publicKey clientSSk, exportKey), r.advance nonceLen) := by
  have hkeypair : recoverKeysInternal randomizedPwdHasher (r.peek nonceLen) =
      .ok ⟨CS.KeGroup.publicKey clientSSk, clientSSk⟩ :=
    recoverKeysInternal_eq_ok.mpr ⟨hsize, hsk, rfl⟩
  exact ⟨_, _, run_seal_eq_ok.mpr ⟨_, identifiers, hkeypair, rfl, hids, rfl, rfl, rfl⟩⟩

/-- With the same password, server key and identifiers a sealed envelope opens to
    the client's key pair and the export key of the seal. -/
theorem open_seal (h : (Envelope.seal randomizedPwdHasher serverSPk ids).run r =
      .ok ((e, clientSPk, k), r')) :
    e.mode = .internal ∧ ∃ clientSSk identifiers,
      clientSPk = CS.KeGroup.publicKey clientSSk ∧
      SerializedIdentifiers.fromIdentifiers ids (CS.KeGroup.serializePk clientSPk)
        (CS.KeGroup.serializePk serverSPk) = .ok identifiers ∧
      e.open randomizedPwdHasher serverSPk ids =
        .ok ⟨⟨clientSPk, clientSSk⟩, k, identifiers⟩ := by
  obtain ⟨keypair, identifiers, hkeypair, rfl, hids, rfl, rfl, -⟩ := run_seal_eq_ok.mp h
  have hpk := (recoverKeysInternal_eq_ok.mp hkeypair).2.2
  refine ⟨rfl, keypair.sk, identifiers, hpk, hids, ?_⟩
  exact open_eq_ok.mpr ⟨rfl, hkeypair, hids, rfl, rfl⟩

end sealed

end Envelope

end envelope

end OpaqueVx
