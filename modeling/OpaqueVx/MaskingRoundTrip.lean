import OpaqueVx.Masking
import OpaqueVx.Reference

/-! # Masking and unmasking

  Masking is exclusive or with the pad over the whole length, and unmasking undoes
  it; in the other direction too, where each public key has one encoding. The pad
  covers key, nonce and HMAC, while the fields of a masked response are cut in
  another order and have other widths. -/

namespace OpaqueVx

open Lib

variable {CS : CipherSuite} {maskingKey : Output CS.OprfHash} {maskingNonce : Bytes}

theorem MaskedResponse.serialize_inj {m m' : MaskedResponse CS}
    (h : m.serialize.bytes = m'.serialize.bytes) : m = m' :=
  (codec_lawful.roundTrip m).encode_inj (codec_lawful.roundTrip m')
    (GenericArray.bytes_injective h)

/-- Under the mask is what was masked. -/
theorem unmasked_of_mask {m : MaskedResponse CS} {serverSPk : PublicKey CS.KeGroup}
    {envelope : Envelope CS}
    (hm : m.serialize.bytes = xorZip (xorPad CS maskingKey.bytes maskingNonce).bytes
      (clearResponse serverSPk envelope)) :
    unmasked maskingKey.bytes maskingNonce m = clearResponse serverSPk envelope := by
  rw [unmasked, hm, xorZip_xorZip (length_clearResponse _ _ _ _)]

/-- What is under the mask makes the masked response when it is masked. -/
theorem mask_unmasked (m : MaskedResponse CS) :
    xorZip (xorPad CS maskingKey.bytes maskingNonce).bytes
      (unmasked maskingKey.bytes maskingNonce m) = m.serialize.bytes := by
  apply xorZip_xorZip
  rw [GenericArray.length_bytes, GenericArray.length_bytes]

section roundTrip

variable {parse : GenericArray CS.KeGroup.PkLen → Outcome Error CS.KeGroup.Pk}

/-- Unmasking a masked response gives the key back, and the envelope in mode
    `Internal`. -/
theorem unmaskResponse_of_mask (hsize : CS.MaskedResponseLen ≤ 255 * CS.OprfHash.outputSize)
    (hpk : CS.KeGroup.PkDecoder parse) {m : MaskedResponse CS}
    {serverSPk : PublicKey CS.KeGroup} {envelope : Envelope CS}
    (hm : m.serialize.bytes = xorZip (xorPad CS maskingKey.bytes maskingNonce).bytes
      (clearResponse serverSPk envelope)) :
    unmaskResponse maskingKey.bytes maskingNonce m =
      .ok (serverSPk, { envelope with mode := .internal }) := by
  obtain ⟨e, hmode, he⟩ := exists_unmasked maskingKey.bytes maskingNonce m
  have hclear := unmasked_of_mask hm
  rw [he, clearResponse] at hclear
  obtain ⟨hfirst, hrest⟩ := GenericArray.append_inj hclear
  have henvelope : e = { envelope with mode := .internal } := by
    obtain ⟨hnonce, hhmac⟩ := GenericArray.append_inj (a := e.nonce) (b := envelope.nonce)
      (x := e.hmac.bytes) (y := envelope.hmac.bytes) hrest
    exact Envelope.ext hmode hnonce (GenericArray.bytes_injective hhmac)
  rw [unmaskResponse_eq hsize hpk hmode he, hfirst, hpk.serializePk, henvelope]
  rfl

/-- Unmasking succeeds exactly where the first bytes under the mask are a public
    key, and fails with one error elsewhere. -/
theorem unmaskResponse_isOk_iff (hsize : CS.MaskedResponseLen ≤ 255 * CS.OprfHash.outputSize)
    (hpk : CS.KeGroup.PkDecoder parse) (m : MaskedResponse CS) :
    ((∃ r, unmaskResponse maskingKey.bytes maskingNonce m = .ok r) ↔
      ∃ pk, parse (unmaskedPk maskingKey.bytes maskingNonce m) = .ok pk) ∧
    ((∃ r, unmaskResponse maskingKey.bytes maskingNonce m = .ok r) ∨
      unmaskResponse maskingKey.bytes maskingNonce m = .err .serializationError) := by
  obtain ⟨e, hmode, he⟩ := exists_unmasked maskingKey.bytes maskingNonce m
  rw [unmaskResponse_eq hsize hpk hmode he]
  cases hparse : parse (unmaskedPk maskingKey.bytes maskingNonce m) with
  | ok pk => simp
  | err e => simp
  | panicked => exact absurd hparse (hpk.never_panics _)

/-- Masking what was unmasked gives the masked response back, if each key has one
    encoding. -/
theorem maskResponse_of_unmask (hsize : CS.MaskedResponseLen ≤ 255 * CS.OprfHash.outputSize)
    (hpk : CS.KeGroup.PkDecoder parse)
    (hcanonical : ∀ b pk, parse b = .ok pk → b = CS.KeGroup.serializePk pk)
    {m : MaskedResponse CS} {serverSPk : PublicKey CS.KeGroup} {envelope : Envelope CS}
    (h : unmaskResponse maskingKey.bytes maskingNonce m = .ok (serverSPk, envelope)) :
    maskResponse maskingKey.bytes maskingNonce serverSPk envelope = .ok m := by
  obtain ⟨e, hmode, he⟩ := exists_unmasked maskingKey.bytes maskingNonce m
  rw [unmaskResponse_eq hsize hpk hmode he] at h
  obtain ⟨pk, hparse, h⟩ := Outcome.bind_eq_ok.mp h
  have hfirst := hcanonical _ _ (Outcome.mapErr_eq_ok.mp hparse)
  injection h with h
  obtain ⟨rfl, rfl⟩ := Prod.mk.inj h
  obtain ⟨m', hm', hbytes⟩ := maskResponse_eq_ok hsize maskingKey maskingNonce pk e
  have hclear : clearResponse pk e = unmasked maskingKey.bytes maskingNonce m := by
    rw [he, hfirst, clearResponse]
  rw [hclear, mask_unmasked] at hbytes
  rw [hm', MaskedResponse.serialize_inj hbytes]

/-- Masking succeeds and covers key, nonce and HMAC with the pad byte by byte, none
    left over on either side; slices, bytes on the wire and their decoding are the
    same. Unmasking gives key and envelope back. It succeeds on other responses
    exactly where a public key comes first, and masking then undoes it. -/
theorem masking_roundTrip (hsize : CS.MaskedResponseLen ≤ 255 * CS.OprfHash.outputSize)
    (hpk : CS.KeGroup.PkDecoder parse) (maskingKey : Output CS.OprfHash) (maskingNonce : Bytes) :
    (∀ (serverSPk : PublicKey CS.KeGroup) (envelope : Envelope CS), ∃ m,
      let pad := (xorPad CS maskingKey.bytes maskingNonce).bytes
      let clear := (CS.KeGroup.serializePk serverSPk).bytes ++
        (envelope.nonce.bytes ++ envelope.hmac.bytes)
      maskResponse maskingKey.bytes maskingNonce serverSPk envelope = .ok m ∧
      pad.length = CS.MaskedResponseLen ∧ clear.length = CS.MaskedResponseLen ∧
      m.iter.flatten = List.zipWith (· ^^^ ·) pad clear ∧
      m.serialize.bytes = List.zipWith (· ^^^ ·) pad clear ∧
      MaskedResponse.deserializeTake.run m.serialize.bytes = .ok (m, []) ∧
      unmaskResponse maskingKey.bytes maskingNonce m =
        .ok (serverSPk, { envelope with mode := .internal })) ∧
    (∀ m : MaskedResponse CS,
      ((∃ r, unmaskResponse maskingKey.bytes maskingNonce m = .ok r) ↔
        ∃ pk, parse (unmaskedPk maskingKey.bytes maskingNonce m) = .ok pk) ∧
      ((∃ r, unmaskResponse maskingKey.bytes maskingNonce m = .ok r) ∨
        unmaskResponse maskingKey.bytes maskingNonce m = .err .serializationError)) ∧
    ((∀ b pk, parse b = .ok pk → b = CS.KeGroup.serializePk pk) →
      ∀ (m : MaskedResponse CS) serverSPk envelope,
        unmaskResponse maskingKey.bytes maskingNonce m = .ok (serverSPk, envelope) →
        maskResponse maskingKey.bytes maskingNonce serverSPk envelope = .ok m) := by
  refine ⟨?_, unmaskResponse_isOk_iff hsize hpk, ?_⟩
  · intro serverSPk envelope
    obtain ⟨m, hm, hbytes⟩ := maskResponse_eq_ok hsize maskingKey maskingNonce serverSPk envelope
    have hlength := length_clearResponse maskingKey.bytes maskingNonce serverSPk envelope
    have hclear : clearResponse serverSPk envelope = (CS.KeGroup.serializePk serverSPk).bytes ++
        (envelope.nonce.bytes ++ envelope.hmac.bytes) := by
      rw [clearResponse, Envelope.serialize, bytes_concatExt]
    have hzip := hbytes
    rw [xorZip_eq_zipWith hlength, hclear] at hzip
    have hread := (MaskedResponse.codec_lawful.roundTrip m).take_encode
    refine ⟨m, hm, GenericArray.length_bytes _, ?_, ?_, hzip, hread, ?_⟩
    · rw [← hclear, hlength, GenericArray.length_bytes]
    · rw [MaskedResponse.flatten_iter]
      exact hzip
    · exact unmaskResponse_of_mask hsize hpk hbytes
  · intro hcanonical m serverSPk envelope h
    exact maskResponse_of_unmask hsize hpk hcanonical h

end roundTrip

namespace Reference

/-- An envelope that a client seals for the server with the key 15. -/
def sealedEnvelope : Envelope suite :=
  ((Envelope.seal ⟨[5]⟩ (15 : UInt8) parties.ids).run rng).toOption.get (by decide +kernel)
    |>.1.1

end Reference

/-- A sealed envelope, masked, comes back as it was. -/
theorem masking_roundTrip_reference : ∃ m : MaskedResponse Reference.suite,
    maskResponse [9] (ascii "nonce") (15 : UInt8) Reference.sealedEnvelope = .ok m ∧
      unmaskResponse [9] (ascii "nonce") m = .ok ((15 : UInt8), Reference.sealedEnvelope) := by
  have hsize : Reference.suite.MaskedResponseLen ≤ 255 * Reference.suite.OprfHash.outputSize := by
    decide
  have hmasking := masking_roundTrip hsize Reference.group_pkDecoder (Reference.single 9)
    (ascii "nonce")
  obtain ⟨m, hm, -, -, -, -, -, hunmask⟩ := hmasking.1 (15 : UInt8) Reference.sealedEnvelope
  have hmode : Reference.sealedEnvelope.mode = .internal := by decide +kernel
  rw [← hmode] at hunmask
  exact ⟨m, hm, hunmask⟩

end OpaqueVx
