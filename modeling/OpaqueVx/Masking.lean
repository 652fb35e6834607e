import OpaqueVx.Laws
import OpaqueVx.Lib.Relational

/-! # Masking

  The server's public key and the envelope travel behind a pad that is expanded
  from the masking key. Whether masking succeeds depends on the sizes only, and
  unmasking with the same key and nonce gives both back. -/

namespace OpaqueVx

open Lib

variable {CS : CipherSuite}

/-! ### Masked responses and byte strings -/

namespace MaskedResponse

/-- A masked response is a byte string of its length, cut into three fields. -/
theorem exists_serialize (b : GenericArray CS.MaskedResponseLen) :
    ∃ m : MaskedResponse CS, m.serialize = b := by
  have hlen : b.bytes.length = CS.OprfHash.outputSize + nonceLen + CS.KeGroup.PkLen := b.size
  let nonce : GenericArray nonceLen := ⟨b.bytes.take nonceLen, by rw [List.length_take]; omega⟩
  let hash : Output CS.OprfHash :=
    ⟨(b.bytes.drop nonceLen).take CS.OprfHash.outputSize, by
      rw [List.length_take, List.length_drop]; omega⟩
  let pk : GenericArray CS.KeGroup.PkLen :=
    ⟨(b.bytes.drop nonceLen).drop CS.OprfHash.outputSize, by
      rw [List.length_drop, List.length_drop]; omega⟩
  refine ⟨⟨nonce, hash, pk⟩, GenericArray.bytes_injective ?_⟩
  show b.bytes.take nonceLen ++ (b.bytes.drop nonceLen).take CS.OprfHash.outputSize ++
    (b.bytes.drop nonceLen).drop CS.OprfHash.outputSize = b.bytes
  rw [List.append_assoc, List.take_append_drop, List.take_append_drop]

/-- Reading the whole of a byte string of the right length succeeds. -/
theorem readFront_deserializeTake (m : MaskedResponse CS) :
    readFront deserializeTake m.serialize.bytes = .ok m := by
  have hread : deserializeTake.run m.serialize.bytes = .ok (m, []) :=
    (codec_lawful.roundTrip m).take_encode
  rw [readFront, hread]
  rfl

end MaskedResponse

/-! ### The pad -/

/-- The pad of a masking key and a nonce. -/
def xorPad (CS : CipherSuite) (maskingKey maskingNonce : Bytes) :
    GenericArray CS.MaskedResponseLen :=
  CS.OprfHash.expand maskingKey ([maskingNonce, strCredentialResponsePad] : List Bytes).flatten
    CS.MaskedResponseLen

/-- What is masked. -/
def clearResponse (serverSPk : PublicKey CS.KeGroup) (envelope : Envelope CS) : Bytes :=
  (CS.KeGroup.serializePk serverSPk).bytes ++ envelope.serialize.bytes

theorem length_clearResponse (maskingKey maskingNonce : Bytes) (serverSPk : PublicKey CS.KeGroup)
    (envelope : Envelope CS) :
    (clearResponse serverSPk envelope).length =
      (xorPad CS maskingKey maskingNonce).bytes.length := by
  have hpad := (xorPad CS maskingKey maskingNonce).size
  have hpk := (CS.KeGroup.serializePk serverSPk).size
  have henvelope := envelope.serialize.size
  rw [clearResponse, List.length_append, hpad, hpk, henvelope, CipherSuite.EnvelopeLen,
    CipherSuite.MaskedResponseLen]
  omega

section mask

variable {maskingKey : Output CS.OprfHash} {maskingNonce : Bytes}
  {serverSPk : PublicKey CS.KeGroup} {envelope : Envelope CS}

theorem expand_xorPad (maskingKey : Output CS.OprfHash) (maskingNonce : Bytes) :
    (Hkdf.mk maskingKey.bytes : Hkdf CS.OprfHash).expandMultiInfo
        [maskingNonce, strCredentialResponsePad] CS.MaskedResponseLen =
      if CS.MaskedResponseLen ≤ 255 * CS.OprfHash.outputSize then
        some (xorPad CS maskingKey.bytes maskingNonce)
      else none := by
  unfold Hkdf.expandMultiInfo
  by_cases h : CS.MaskedResponseLen ≤ 255 * CS.OprfHash.outputSize
  · rw [if_pos h, if_neg (by omega)]
    rfl
  · rw [if_neg h, if_pos (by omega)]

/-- Masking succeeds when the pad is not too long for HKDF. -/
theorem maskResponse_eq_ok (hsize : CS.MaskedResponseLen ≤ 255 * CS.OprfHash.outputSize)
    (maskingKey : Output CS.OprfHash) (maskingNonce : Bytes) (serverSPk : PublicKey CS.KeGroup)
    (envelope : Envelope CS) :
    ∃ m, maskResponse maskingKey.bytes maskingNonce serverSPk envelope = .ok m ∧
      m.serialize.bytes = xorZip (xorPad CS maskingKey.bytes maskingNonce).bytes
        (clearResponse serverSPk envelope) := by
  obtain ⟨m, hm⟩ := MaskedResponse.exists_serialize
    (⟨xorZip (xorPad CS maskingKey.bytes maskingNonce).bytes (clearResponse serverSPk envelope),
      by simp⟩ : GenericArray CS.MaskedResponseLen)
  have hbytes : m.serialize.bytes = xorZip (xorPad CS maskingKey.bytes maskingNonce).bytes
      (clearResponse serverSPk envelope) :=
    congrArg GenericArray.bytes hm
  refine ⟨m, ?_, hbytes⟩
  unfold maskResponse
  simp only [Hkdf.fromPrk_output, Outcome.okOr_some, Outcome.ok_bind, expand_xorPad, if_pos hsize]
  show readFront MaskedResponse.deserializeTake
    (xorZip (xorPad CS maskingKey.bytes maskingNonce).bytes (clearResponse serverSPk envelope)) = _
  rw [← hbytes]
  exact m.readFront_deserializeTake

/-- Whether masking succeeds does not depend on what is masked. -/
theorem maskResponse_rel (maskingKey maskingKey' : Output CS.OprfHash) (maskingNonce : Bytes)
    (serverSPk : PublicKey CS.KeGroup) (envelope envelope' : Envelope CS) :
    Outcome.Rel (fun _ _ => True)
      (maskResponse maskingKey.bytes maskingNonce serverSPk envelope)
      (maskResponse maskingKey'.bytes maskingNonce serverSPk envelope') := by
  by_cases hsize : CS.MaskedResponseLen ≤ 255 * CS.OprfHash.outputSize
  · obtain ⟨m, hm, -⟩ := maskResponse_eq_ok hsize maskingKey maskingNonce serverSPk envelope
    obtain ⟨m', hm', -⟩ := maskResponse_eq_ok hsize maskingKey' maskingNonce serverSPk envelope'
    rw [hm, hm']
    exact .ok trivial
  · unfold maskResponse
    simp only [Hkdf.fromPrk_output, Outcome.okOr_some, Outcome.ok_bind, expand_xorPad,
      if_neg hsize]
    exact .err _

/-- What is under the mask. -/
def unmasked (maskingKey maskingNonce : Bytes) (m : MaskedResponse CS) : Bytes :=
  xorZip (xorPad CS maskingKey maskingNonce).bytes m.serialize.bytes

theorem length_unmasked (maskingKey maskingNonce : Bytes) (m : MaskedResponse CS) :
    (unmasked maskingKey maskingNonce m).length = CS.KeGroup.PkLen + CS.EnvelopeLen := by
  rw [unmasked, length_xorZip, GenericArray.length_bytes, CipherSuite.MaskedResponseLen,
    CipherSuite.EnvelopeLen]
  omega

/-- The first bytes under the mask, as many as a public key has. -/
def unmaskedPk (maskingKey maskingNonce : Bytes) (m : MaskedResponse CS) :
    GenericArray CS.KeGroup.PkLen :=
  ⟨(unmasked maskingKey maskingNonce m).take CS.KeGroup.PkLen, by
    rw [List.length_take, length_unmasked]; omega⟩

/-- The bytes behind them always are an envelope. -/
theorem exists_unmasked (maskingKey maskingNonce : Bytes) (m : MaskedResponse CS) :
    ∃ e : Envelope CS, e.mode = .internal ∧ unmasked maskingKey maskingNonce m =
      (unmaskedPk maskingKey maskingNonce m).bytes ++ e.serialize.bytes := by
  obtain ⟨e, hmode, he⟩ := Envelope.exists_serialize
    (⟨(unmasked maskingKey maskingNonce m).drop CS.KeGroup.PkLen, by
      rw [List.length_drop, length_unmasked]; omega⟩ : GenericArray CS.EnvelopeLen)
  refine ⟨e, hmode, ?_⟩
  rw [he]
  exact (List.take_append_drop _ _).symm

/-- Unmasking is decided by the decoder of public keys, on the first bytes under the
    mask; all errors are reported as the same. -/
theorem unmaskResponse_eq (hsize : CS.MaskedResponseLen ≤ 255 * CS.OprfHash.outputSize)
    {parse : GenericArray CS.KeGroup.PkLen → Outcome Error CS.KeGroup.Pk}
    (hpk : CS.KeGroup.PkDecoder parse) {m : MaskedResponse CS} {e : Envelope CS}
    (hmode : e.mode = .internal) (he : unmasked maskingKey.bytes maskingNonce m =
      (unmaskedPk maskingKey.bytes maskingNonce m).bytes ++ e.serialize.bytes) :
    unmaskResponse maskingKey.bytes maskingNonce m =
      (parse (unmaskedPk maskingKey.bytes maskingNonce m)).mapErr (fun _ => .serializationError) >>=
        fun pk => .ok (pk, e) := by
  have henvelope : Envelope.deserializeTake.run e.serialize.bytes = .ok (e, []) :=
    (Envelope.codec_readsBack hmode).take_encode
  unfold unmaskResponse
  simp only [Hkdf.fromPrk_output, Outcome.okOr_some, Outcome.ok_bind, expand_xorPad, if_pos hsize,
    MaskedResponse.flatten_iter]
  show readFront _ (unmasked maskingKey.bytes maskingNonce m) = _
  rw [he]
  simp only [readFront, StateT.run_bind, run_mapErrM, hpk.run_append]
  -- What is left behind the key is exactly an envelope, so nothing else can fail.
  cases parse (unmaskedPk maskingKey.bytes maskingNonce m) with
  | ok pk =>
    simp only [Outcome.ok_bind, Outcome.mapErr_ok, henvelope]
    rfl
  | err err => rfl
  | panicked => rfl

/-- Unmasking a masked response gives the key and the envelope back. -/
theorem unmaskResponse_maskResponse {m : MaskedResponse CS}
    (hpk : CS.KeGroup.pkCodec.ReadsBack serverSPk) (hmode : envelope.mode = .internal)
    (h : maskResponse maskingKey.bytes maskingNonce serverSPk envelope = .ok m) :
    unmaskResponse maskingKey.bytes maskingNonce m = .ok (serverSPk, envelope) := by
  by_cases hsize : CS.MaskedResponseLen ≤ 255 * CS.OprfHash.outputSize
  · obtain ⟨m', hm', hbytes⟩ := maskResponse_eq_ok hsize maskingKey maskingNonce serverSPk envelope
    obtain rfl := Outcome.ok.inj (h.symm.trans hm')
    unfold unmaskResponse
    simp only [Hkdf.fromPrk_output, Outcome.okOr_some, Outcome.ok_bind, expand_xorPad,
      if_pos hsize, MaskedResponse.flatten_iter, hbytes]
    rw [xorZip_xorZip (length_clearResponse _ _ _ _)]
    have hpk : CS.KeGroup.deserializeTakePk.run (clearResponse serverSPk envelope) =
      .ok (serverSPk, envelope.serialize.bytes) := hpk _
    have henvelope : Envelope.deserializeTake.run envelope.serialize.bytes =
        .ok (envelope, []) :=
      (Envelope.codec_readsBack hmode).take_encode
    simp only [readFront, StateT.run_bind, run_mapErrM, hpk, Outcome.mapErr_ok, Outcome.ok_bind,
      henvelope]
    rfl
  · unfold maskResponse at h
    simp only [Hkdf.fromPrk_output, Outcome.okOr_some, Outcome.ok_bind, expand_xorPad,
      if_neg hsize] at h
    cases h

end mask

end OpaqueVx
