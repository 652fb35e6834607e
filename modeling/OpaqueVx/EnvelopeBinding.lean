import OpaqueVx.Agreement

/-! # Sealing and opening

  An envelope opens with what it was sealed with, and with nothing else: whatever
  opens it has the same randomized password, the same server key and the same
  identifiers, or the seal and the opening exhibit a collision of HMAC or
  HKDF-Expand. -/

namespace OpaqueVx

open Lib

namespace Envelope

variable {CS : CipherSuite} {randomizedPwdHasher randomizedPwdHasher' : Hkdf CS.OprfHash}
  {serverSPk serverSPk' : PublicKey CS.KeGroup}

/-- The calls behind the MAC of an envelope: its key, and the MAC itself. -/
def tagCalls (randomizedPwdHasher : Hkdf CS.OprfHash) (nonce : GenericArray nonceLen)
    (identifiers : SerializedIdentifiers CS.KeGroup) (serverSPk : PublicKey CS.KeGroup) :
    List PrimCall :=
  [.expand randomizedPwdHasher.prk (nonce.bytes ++ strAuthKey) CS.OprfHash.outputSize,
    .hmac (authKey randomizedPwdHasher nonce).bytes
      (nonce.bytes ++ (aadOf identifiers serverSPk).flatten)]

/-- Equal MACs are over equal data, under keys from one randomized password. -/
theorem authTag_agree {nonce : GenericArray nonceLen}
    {identifiers identifiers' : SerializedIdentifiers CS.KeGroup}
    (h : ¬ ExhibitsCollision CS.OprfHash
      (tagCalls randomizedPwdHasher nonce identifiers serverSPk)
      (tagCalls randomizedPwdHasher' nonce identifiers' serverSPk'))
    (htag : authTag randomizedPwdHasher nonce (aadOf identifiers serverSPk) =
      authTag randomizedPwdHasher' nonce (aadOf identifiers' serverSPk')) :
    randomizedPwdHasher.prk = randomizedPwdHasher'.prk ∧
      (aadOf identifiers serverSPk).flatten = (aadOf identifiers' serverSPk').flatten := by
  -- HMAC: the keys and the data agree.
  have hcall := eq_of_not_exhibits h
    (a := .hmac (authKey randomizedPwdHasher nonce).bytes
      (nonce.bytes ++ (aadOf identifiers serverSPk).flatten))
    (b := .hmac (authKey randomizedPwdHasher' nonce).bytes
      (nonce.bytes ++ (aadOf identifiers' serverSPk').flatten))
    (by simp [tagCalls]) (by simp [tagCalls]) rfl (congrArg GenericArray.bytes htag)
  injection hcall with hkey hdata
  -- HKDF-Expand: so does the key they are expanded from.
  have hcall := eq_of_not_exhibits h
    (a := .expand randomizedPwdHasher.prk (nonce.bytes ++ strAuthKey) CS.OprfHash.outputSize)
    (b := .expand randomizedPwdHasher'.prk (nonce.bytes ++ strAuthKey) CS.OprfHash.outputSize)
    (by simp [tagCalls]) (by simp [tagCalls]) rfl hkey
  injection hcall with hprk _
  exact ⟨hprk, List.append_cancel_left hdata⟩

/-- The names that encoded identifiers stand for. -/
theorem bytes_of_fromIdentifiers {G : Group} {ids : Identifiers}
    {clientSPk serverSPk : GenericArray G.PkLen} {i : SerializedIdentifiers G}
    (h : SerializedIdentifiers.fromIdentifiers ids clientSPk serverSPk = .ok i) :
    i.client.bytes = ids.client.getD clientSPk.bytes ∧
      i.server.bytes = ids.server.getD serverSPk.bytes := by
  obtain ⟨hclient, hserver⟩ := SerializedIdentifiers.fromIdentifiers_eq_ok.mp h
  rw [SerializedIdentifier.bytes, SerializedIdentifier.bytes, hclient, hserver,
    Identifier.bytes_ofOption, Identifier.bytes_ofOption]
  exact ⟨rfl, rfl⟩

/-- A sealed envelope, also after its transport as bytes, opens to the key pair,
    the export key and the identifiers of the seal. Whoever opens it has the
    randomized password of the seal, a server key with the same bytes, and goes by
    the same identifiers, or the calls of the two sides contain a collision. -/
theorem open_iff_sealed {ids : Identifiers} {r r' : Rng} {e : Envelope CS}
    {clientSPk : PublicKey CS.KeGroup} {k : Output CS.OprfHash}
    (h : (Envelope.seal randomizedPwdHasher serverSPk ids).run r =
      .ok ((e, clientSPk, k), r')) :
    ∃ clientSSk identifiers,
      CS.KeGroup.publicKey clientSSk = clientSPk ∧
      identifiers.client.bytes = ids.client.getD (CS.KeGroup.serializePk clientSPk).bytes ∧
      identifiers.server.bytes = ids.server.getD (CS.KeGroup.serializePk serverSPk).bytes ∧
      e.open randomizedPwdHasher serverSPk ids =
        .ok ⟨⟨clientSPk, clientSSk⟩, k, identifiers⟩ ∧
      (∀ rest, deserializeTake.run (e.serialize.bytes ++ rest) = .ok (e, rest)) ∧
      ∀ (randomizedPwdHasher' : Hkdf CS.OprfHash) (serverSPk' : PublicKey CS.KeGroup)
        (ids' : Identifiers) (opened : OpenedEnvelope CS),
        e.open randomizedPwdHasher' serverSPk' ids' = .ok opened →
        (randomizedPwdHasher'.prk = randomizedPwdHasher.prk ∧
          CS.KeGroup.serializePk serverSPk' = CS.KeGroup.serializePk serverSPk ∧
          ids'.client.getD (CS.KeGroup.serializePk opened.clientStaticKeypair.pk).bytes =
            ids.client.getD (CS.KeGroup.serializePk clientSPk).bytes ∧
          ids'.server.getD (CS.KeGroup.serializePk serverSPk').bytes =
            ids.server.getD (CS.KeGroup.serializePk serverSPk).bytes) ∨
        ExhibitsCollision CS.OprfHash
          (tagCalls randomizedPwdHasher' e.nonce opened.identifiers serverSPk')
          (tagCalls randomizedPwdHasher e.nonce identifiers serverSPk) := by
  obtain ⟨hmode, clientSSk, identifiers, hpk, hids, hopen⟩ := open_seal h
  obtain ⟨hclient, hserver⟩ := bytes_of_fromIdentifiers hids
  refine ⟨clientSSk, identifiers, hpk.symm, hclient, hserver, hopen, codec_readsBack hmode, ?_⟩
  intro randomizedPwdHasher' serverSPk' ids' opened hopen'
  obtain ⟨-, -, -, htag, -⟩ := open_eq_ok.mp hopen
  obtain ⟨-, -, hids', htag', -⟩ := open_eq_ok.mp hopen'
  apply or_exhibits
  intro hno
  obtain ⟨hprk, hdata⟩ := authTag_agree hno (htag'.trans htag.symm)
  obtain ⟨hserverPk, hclientBytes, hserverBytes⟩ := aadOf_inj hdata
  obtain ⟨hclient', hserver'⟩ := bytes_of_fromIdentifiers hids'
  refine ⟨hprk, hserverPk, ?_, ?_⟩
  · rw [← hclient', ← hclient, hclientBytes]
  · rw [← hserver', ← hserver, hserverBytes]

/-- A client with a name seals for a server that goes by its key, and opens. -/
theorem open_iff_sealed_reference :
    let ids : Identifiers := ⟨some (ascii "alice"), none⟩
    let hkdf : Hkdf Reference.suite.OprfHash := ⟨[5]⟩
    ∃ e clientSPk k r' opened,
      (Envelope.seal hkdf (15 : UInt8) ids).run Reference.rng = .ok ((e, clientSPk, k), r') ∧
      e.open hkdf (15 : UInt8) ids = .ok opened ∧ opened.exportKey = k := by
  intro ids hkdf
  let sk := Reference.unsingle (Reference.hash.expand hkdf.prk
    ((Reference.rng.peek nonceLen).bytes ++ strPrivateKey) 1)
  obtain ⟨i, hids⟩ := @SerializedIdentifiers.fromIdentifiers_short Reference.group ids
    (Reference.single (sk * 3)) (Reference.single 15) (by decide) (by decide)
  obtain ⟨e, k, hseal⟩ := @seal_succeeds Reference.suite hkdf (15 : UInt8) ids Reference.rng sk i
    (by decide) rfl hids
  obtain ⟨clientSSk, identifiers, -, -, -, hopen, -⟩ := open_iff_sealed hseal
  exact ⟨e, _, k, _, _, hseal, hopen, rfl⟩

end Envelope

end OpaqueVx
