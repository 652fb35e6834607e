import OpaqueVx.KeyExchange.Shared

/-! # Transcript and key schedule in closed form

  The helpers of the key exchanges compute fixed expressions over the hash, and
  fail for one reason only: a hash output that is too long for the one-byte
  length field of a label. The transcript determines every field that goes into
  it. -/

namespace OpaqueVx

open Lib

/-! ### The transcript -/

/-- What one side of a login takes the session to be. Identifiers are effective
    ones, keys are encoded. -/
@[ext] structure SessionView (CS : CipherSuite) (KE : Group) where
  context : Bytes
  clientIdentifier : Bytes
  serverIdentifier : Bytes
  credentialRequest : SerializedCredentialRequest CS
  ke1Message : Ke1MessageIter KE
  credentialResponse : SerializedCredentialResponse CS
  serverNonce : GenericArray nonceLen
  serverEPk : GenericArray KE.PkLen

section transcript

variable {CS : CipherSuite} {KE : Group}

/-- The view that `transcript` is called with. -/
def SessionView.of (context : SerializedContext) (identifiers : SerializedIdentifiers CS.KeGroup)
    (credentialRequest : SerializedCredentialRequest CS) (ke1Message : Ke1MessageIter KE)
    (credentialResponse : SerializedCredentialResponse CS) (serverNonce : GenericArray nonceLen)
    (serverEPk : GenericArray KE.PkLen) : SessionView CS KE :=
  { context := context.context
    clientIdentifier := identifiers.client.bytes
    serverIdentifier := identifiers.server.bytes
    credentialRequest, ke1Message, credentialResponse, serverNonce, serverEPk }

variable {context context' : SerializedContext}
  {identifiers identifiers' : SerializedIdentifiers CS.KeGroup}
  {credentialRequest credentialRequest' : SerializedCredentialRequest CS}
  {ke1Message ke1Message' : Ke1MessageIter KE}
  {credentialResponse credentialResponse' : SerializedCredentialResponse CS}
  {serverNonce serverNonce' : GenericArray nonceLen} {serverEPk serverEPk' : GenericArray KE.PkLen}

theorem absorbed_transcript :
    (transcript context identifiers credentialRequest ke1Message credentialResponse serverNonce
      serverEPk).absorbed =
      context.iter.flatten ++ (identifiers.client.iter.flatten ++
        (credentialRequest.iter.flatten ++ (ke1Message.iter.flatten ++
          (identifiers.server.iter.flatten ++ (credentialResponse.iter.flatten ++
            (serverNonce.bytes ++ serverEPk.bytes)))))) := by
  simp [transcript]

/-- The credential request and the first message determine themselves. -/
theorem request_append_inj {x y : Bytes}
    (h : credentialRequest.iter.flatten ++ (ke1Message.iter.flatten ++ x) =
      credentialRequest'.iter.flatten ++ (ke1Message'.iter.flatten ++ y)) :
    credentialRequest = credentialRequest' ∧ ke1Message = ke1Message' ∧ x = y := by
  simp only [SerializedCredentialRequest.iter, Ke1MessageIter.iter, List.flatten_cons,
    List.flatten_nil, List.append_nil, List.append_assoc] at h
  obtain ⟨hblinded, h⟩ := GenericArray.append_inj h
  obtain ⟨hnonce, h⟩ := GenericArray.append_inj h
  obtain ⟨hepk, hxy⟩ := GenericArray.append_inj h
  exact ⟨SerializedCredentialRequest.ext hblinded, Ke1MessageIter.ext hnonce hepk, hxy⟩

/-- So do the credential response, the server's nonce and its ephemeral key. -/
theorem response_append_inj {x y : Bytes}
    (h : credentialResponse.iter.flatten ++ (serverNonce.bytes ++ (serverEPk.bytes ++ x)) =
      credentialResponse'.iter.flatten ++ (serverNonce'.bytes ++ (serverEPk'.bytes ++ y))) :
    credentialResponse = credentialResponse' ∧ serverNonce = serverNonce' ∧
      serverEPk = serverEPk' ∧ x = y := by
  simp only [SerializedCredentialResponse.iter, MaskedResponse.iter, List.flatten_cons,
    List.flatten_nil, List.append_nil, List.append_assoc, List.cons_append, List.nil_append] at h
  obtain ⟨heval, h⟩ := GenericArray.append_inj h
  obtain ⟨hmask, h⟩ := GenericArray.append_inj h
  obtain ⟨hm₁, h⟩ := GenericArray.append_inj h
  obtain ⟨hm₂, h⟩ := GenericArray.append_inj h
  obtain ⟨hm₃, h⟩ := GenericArray.append_inj h
  obtain ⟨hnonce, h⟩ := GenericArray.append_inj h
  obtain ⟨hepk, hxy⟩ := GenericArray.append_inj h
  exact ⟨SerializedCredentialResponse.ext heval hmask (MaskedResponse.ext hm₁ hm₂ hm₃), hnonce,
    hepk, hxy⟩

/-- The transcript, and what is appended to it, determine the session. -/
theorem transcript_append_inj {x y : Bytes}
    (h : (transcript context identifiers credentialRequest ke1Message credentialResponse
        serverNonce serverEPk).absorbed ++ x =
      (transcript context' identifiers' credentialRequest' ke1Message' credentialResponse'
        serverNonce' serverEPk').absorbed ++ y) :
    SessionView.of context identifiers credentialRequest ke1Message credentialResponse
        serverNonce serverEPk =
      SessionView.of context' identifiers' credentialRequest' ke1Message' credentialResponse'
        serverNonce' serverEPk' ∧ x = y := by
  rw [absorbed_transcript, absorbed_transcript] at h
  simp only [List.append_assoc] at h
  obtain ⟨hcontext, h⟩ := SerializedContext.iter_inj h
  obtain ⟨hclient, h⟩ := SerializedIdentifier.iter_inj h
  obtain ⟨hrequest, hke1, h⟩ := request_append_inj h
  obtain ⟨hserver, h⟩ := SerializedIdentifier.iter_inj h
  obtain ⟨hresponse, hnonce, hepk, hxy⟩ := response_append_inj h
  exact ⟨SessionView.ext hcontext hclient hserver hrequest hke1 hresponse hnonce hepk, hxy⟩

end transcript

/-! ### What the random steps draw -/

/-- Either party begins with an ephemeral key from `SkLen` bytes and a nonce. -/
theorem run_ephemeral_eq_ok {G : Group} {α : Type} {r r' : Rng} {a : α}
    {f : KeyPair G (PrivateKey G) → GenericArray nonceLen → RngM Error α} :
    (KeyPair.deriveRandom G >>= fun kp => generateNonce >>= f kp).run r = .ok (a, r') ↔
      ∃ sk, G.deriveScalar (r.peek G.SkLen) = .ok sk ∧
        (f ⟨G.publicKey sk, sk⟩ ((r.advance G.SkLen).peek nonceLen)).run
          ((r.advance G.SkLen).advance nonceLen) = .ok (a, r') := by
  constructor
  · intro h
    obtain ⟨⟨pk, sk⟩, r₁, hkp, h⟩ := run_bind_eq_ok.mp h
    obtain ⟨hsk, hpk, rfl⟩ := KeyPair.run_deriveRandom_eq_ok.mp hkp
    -- The nonce comes from the bytes behind the seed of the key.
    obtain ⟨nonce, r₂, hnonce, h⟩ := run_bind_eq_ok.mp h
    simp only [generateNonce, run_fillBytes, Outcome.ok.injEq, Prod.mk.injEq] at hnonce
    obtain ⟨rfl, rfl⟩ := hnonce
    simp only at hsk hpk
    rw [hpk] at h
    exact ⟨sk, hsk, h⟩
  · intro h
    obtain ⟨sk, hsk, h⟩ := h
    have hkp : (KeyPair.deriveRandom G).run r = .ok (⟨G.publicKey sk, sk⟩, r.advance G.SkLen) :=
      KeyPair.run_deriveRandom_eq_ok.mpr ⟨hsk, rfl, rfl⟩
    exact run_bind_eq_ok.mpr ⟨_, _, hkp, run_bind_eq_ok.mpr ⟨_, _, run_fillBytes _ _, h⟩⟩

/-- The first client message comes from `SkLen` bytes for the ephemeral key and a
    nonce. -/
theorem run_generateKe1_eq_ok {G : Group} {r r' : Rng}
    {result : GenerateKe1Result (Ke1State G) (Ke1Message G)} :
    (generateKe1 G).run r = .ok (result, r') ↔
      ∃ sk, G.deriveScalar (r.peek G.SkLen) = .ok sk ∧
        result.state = ⟨sk, (r.advance G.SkLen).peek nonceLen⟩ ∧
        result.message = ⟨(r.advance G.SkLen).peek nonceLen, G.publicKey sk⟩ ∧
        r' = (r.advance G.SkLen).advance nonceLen := by
  unfold generateKe1
  rw [run_ephemeral_eq_ok]
  constructor
  · intro h
    obtain ⟨sk, hsk, h⟩ := h
    simp only [StateT.run_pure, Outcome.pure_eq, Outcome.ok.injEq, Prod.mk.injEq] at h
    obtain ⟨rfl, rfl⟩ := h
    exact ⟨sk, hsk, rfl, rfl, rfl⟩
  · rintro ⟨sk, hsk, hstate, hmessage, rfl⟩
    refine ⟨sk, hsk, ?_⟩
    cases result
    simp only at hstate hmessage
    rw [hstate, hmessage]
    rfl

section builder

variable {CS : CipherSuite} [DiffieHellman CS.KeGroup]

/-- What `ke2_builder_common` returns when the server's ephemeral key and nonce
    are `sk` and `nonce`. -/
def Ke2BuilderCommon.of (credentialRequest : SerializedCredentialRequest CS)
    (ke1Message : Ke1Message CS.KeGroup) (credentialResponse : SerializedCredentialResponse CS)
    (clientSPk : PublicKey CS.KeGroup) (identifiers : SerializedIdentifiers CS.KeGroup)
    (context : SerializedContext) (sk : CS.KeGroup.Sk) (nonce : GenericArray nonceLen) :
    Ke2BuilderCommon CS.KeGroup CS.KeHash where
  serverNonce := nonce
  transcriptHasher := transcript context identifiers credentialRequest ke1Message.toIter
    credentialResponse nonce (CS.KeGroup.serializePk (CS.KeGroup.publicKey sk))
  clientEPk := ke1Message.clientEPk
  serverEPk := CS.KeGroup.publicKey sk
  sharedSecret1 := DiffieHellman.diffieHellman sk ke1Message.clientEPk
  sharedSecret3 := DiffieHellman.diffieHellman sk clientSPk

theorem run_ke2BuilderCommon_eq_ok {credentialRequest : SerializedCredentialRequest CS}
    {ke1Message : Ke1Message CS.KeGroup} {credentialResponse : SerializedCredentialResponse CS}
    {clientSPk : PublicKey CS.KeGroup} {identifiers : SerializedIdentifiers CS.KeGroup}
    {context : SerializedContext} {r r' : Rng} {common : Ke2BuilderCommon CS.KeGroup CS.KeHash} :
    (ke2BuilderCommon credentialRequest ke1Message credentialResponse clientSPk identifiers
        context).run r = .ok (common, r') ↔
      ∃ sk, CS.KeGroup.deriveScalar (r.peek CS.KeGroup.SkLen) = .ok sk ∧
        common = .of credentialRequest ke1Message credentialResponse clientSPk identifiers
          context sk ((r.advance CS.KeGroup.SkLen).peek nonceLen) ∧
        r' = (r.advance CS.KeGroup.SkLen).advance nonceLen := by
  unfold ke2BuilderCommon
  rw [run_ephemeral_eq_ok]
  constructor
  · intro h
    obtain ⟨sk, hsk, h⟩ := h
    simp only [StateT.run_pure, Outcome.pure_eq, Outcome.ok.injEq, Prod.mk.injEq] at h
    obtain ⟨rfl, rfl⟩ := h
    exact ⟨sk, hsk, rfl, rfl⟩
  · rintro ⟨sk, hsk, rfl, rfl⟩
    exact ⟨sk, hsk, rfl⟩

end builder

/-! ### Labels -/

section schedule

variable {H : Hash}

/-- The info string of `hkdf_expand_label`. -/
def labelInfo (H : Hash) (label context : Bytes) : Bytes :=
  beBytes 2 H.outputSize ++ (beBytes 1 (strOpaque.length + label.length) ++ (strOpaque ++
    (label ++ (beBytes 1 context.length ++ context))))

/-- For a fixed label the info string determines the context. -/
theorem labelInfo_inj {label c c' : Bytes} (h : labelInfo H label c = labelInfo H label c')
    (hlen : c.length = c'.length) : c = c' := by
  simp only [labelInfo, List.append_cancel_left_eq] at h
  rw [hlen] at h
  simpa using h

theorem i2osp_of_lt {L n : Nat} (hL : L < sizeofUsize) (h : n < 256 ^ L) :
    i2osp L n = .ok ⟨beBytes L n, length_beBytes L n⟩ :=
  (i2osp_eq_ok hL).mpr ⟨h, rfl⟩

theorem i2osp_of_le {L n : Nat} (hL : L < sizeofUsize) (h : 256 ^ L ≤ n) :
    i2osp L n = .err .serializationError :=
  i2ospWord_err (by omega) (Or.inr hL)

/-- `hkdf_expand_label_extracted` expands with the label's info string, or
    reports that one of the three lengths does not fit. -/
theorem hkdfExpandLabelExtracted_eq (hkdf : Hkdf H) (label context : Bytes) :
    hkdfExpandLabelExtracted hkdf label context =
      if H.outputSize < 256 ^ 2 ∧ strOpaque.length + label.length < 256 ^ 1 ∧
          context.length < 256 ^ 1 then
        .ok (H.expand hkdf.prk (labelInfo H label context) H.outputSize)
      else
        .err .serializationError := by
  unfold hkdfExpandLabelExtracted
  -- The three lengths are encoded one after the other, each of which may be the first to fail.
  by_cases h₁ : H.outputSize < 256 ^ 2
  · by_cases h₂ : strOpaque.length + label.length < 256 ^ 1
    · by_cases h₃ : context.length < 256 ^ 1
      · have hlimit : ¬ H.outputSize > 255 * H.outputSize := by omega
        rw [if_pos ⟨h₁, h₂, h₃⟩, i2osp_of_lt (by decide) h₁, i2osp_of_lt (by decide) h₂,
          i2osp_of_lt (by decide) h₃]
        simp [Hkdf.expandMultiInfo, hlimit, labelInfo]
      · rw [if_neg fun h => h₃ h.2.2, i2osp_of_lt (by decide) h₁, i2osp_of_lt (by decide) h₂,
          i2osp_of_le (by decide) (Nat.le_of_not_lt h₃)]
        rfl
    · rw [if_neg fun h => h₂ h.2.1, i2osp_of_lt (by decide) h₁,
        i2osp_of_le (by decide) (Nat.le_of_not_lt h₂)]
      rfl
  · rw [if_neg fun h => h₁ h.1, i2osp_of_le (by decide) (Nat.le_of_not_lt h₁)]
    rfl

/-! ### The key schedule -/

/-- The handshake secret. -/
def handshakeSecret (H : Hash) (ikm digest : Bytes) : Output H :=
  H.expand (H.extract ikm).bytes (labelInfo H strHandshakeSecret digest) H.outputSize

/-- The keys both parties derive from the secrets and the transcript digest. -/
def keySchedule (H : Hash) (ikm digest : Bytes) : DerivedKeys H where
  sessionKey := H.expand (H.extract ikm).bytes (labelInfo H strSessionKey digest) H.outputSize
  km2 := H.expand (handshakeSecret H ikm digest).bytes (labelInfo H strServerMac []) H.outputSize
  km3 := H.expand (handshakeSecret H ikm digest).bytes (labelInfo H strClientMac []) H.outputSize

/-- `derive_keys` fails exactly when a transcript digest is too long for a label. -/
theorem deriveKeys_eq (ikms : List Bytes) (digest : Output H) :
    (deriveKeys ikms digest.bytes : Outcome Error (DerivedKeys H)) =
      if H.outputSize < 256 then .ok (keySchedule H ikms.flatten digest.bytes)
      else .err .serializationError := by
  have hfoldl : ikms.foldl HkdfExtract.inputIkm (HkdfExtract.new : HkdfExtract H) =
      ⟨ikms.flatten⟩ := by
    rw [HkdfExtract.foldl_inputIkm]
    rfl
  unfold deriveKeys deriveSecrets hkdfExpandLabel
  simp only [hfoldl, HkdfExtract.finalize, hkdfExpandLabelExtracted_eq, GenericArray.length_bytes]
  by_cases h : H.outputSize < 256
  · have h2 : H.outputSize < 256 ^ 2 := by omega
    -- The four labels are short; simp compares their lengths with a byte by itself.
    simp only [h, h2, Nat.pow_one, if_true, Outcome.ok_bind, Hkdf.fromPrk_output,
      Outcome.okOr_some, List.length_nil, Nat.zero_lt_succ]
    rfl
  · simp [h]

theorem deriveKeys_eq_ok {ikms : List Bytes} {digest : Output H} {keys : DerivedKeys H} :
    deriveKeys ikms digest.bytes = .ok keys ↔
      H.outputSize < 256 ∧ keys = keySchedule H ikms.flatten digest.bytes := by
  rw [deriveKeys_eq]
  split
  · rename_i h
    simp [h, eq_comm]
  · rename_i h
    simp [h]

/-! ### The MACs -/

@[simp] theorem macOnce_eq (key data : Bytes) :
    (macOnce key data : Outcome Error (Output H)) = .ok (H.hmac key data) := rfl

/-- `compute_ke2_macs` always succeeds. -/
theorem computeKe2Macs_eq (hasher : Hasher H) (keys : DerivedKeys H) (digest : Bytes) :
    computeKe2Macs hasher keys digest =
      .ok (H.hmac keys.km2.bytes digest,
        H.hmac keys.km3.bytes
          (H.digest (hasher.absorbed ++ (H.hmac keys.km2.bytes digest).bytes)).bytes) := rfl

/-- `finalize_ke3_transcript` accepts exactly the server's MAC over the digest. -/
theorem finalizeKe3Transcript_eq_ok {hasher : Hasher H} {secrets : List Bytes}
    {serverMac : Output H} {keys : DerivedKeys H} {clientMac : Output H} :
    finalizeKe3Transcript hasher secrets serverMac = .ok (keys, clientMac) ↔
      H.outputSize < 256 ∧ keys = keySchedule H secrets.flatten hasher.finalize.bytes ∧
        H.hmac keys.km2.bytes hasher.finalize.bytes = serverMac ∧
        clientMac = H.hmac keys.km3.bytes
          (H.digest (hasher.absorbed ++ serverMac.bytes)).bytes := by
  unfold finalizeKe3Transcript
  constructor
  · intro h
    obtain ⟨k, hk, h⟩ := Outcome.bind_eq_ok.mp h
    obtain ⟨hsize, rfl⟩ := deriveKeys_eq_ok.mp hk
    simp only [macOnce_eq, Outcome.ok_bind] at h
    split at h
    · rename_i hmac
      simp only [Outcome.pure_eq, Outcome.ok.injEq, Prod.mk.injEq] at h
      obtain ⟨rfl, rfl⟩ := h
      exact ⟨hsize, rfl, hmac, rfl⟩
    · cases h
  · rintro ⟨hsize, rfl, hmac, rfl⟩
    simp only [deriveKeys_eq, if_pos hsize, macOnce_eq, Outcome.ok_bind, if_pos hmac]
    rfl

/-- The keys and the two MACs that confirm a transcript. -/
structure MacPair (H : Hash) where
  keys : DerivedKeys H
  serverMac : Output H
  clientMac : Output H

/-- The server's MAC is over the digest, the client's over the digest of the
    transcript with the server's MAC appended. -/
def macPair (absorbed ikm : Bytes) : MacPair H :=
  let keys := keySchedule H ikm (H.digest absorbed).bytes
  let serverMac := H.hmac keys.km2.bytes (H.digest absorbed).bytes
  { keys
    serverMac
    clientMac := H.hmac keys.km3.bytes (H.digest (absorbed ++ serverMac.bytes)).bytes }

end schedule

end OpaqueVx
