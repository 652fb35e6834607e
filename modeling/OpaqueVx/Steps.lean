import OpaqueVx.Protocol

/-! # The steps of a login

  What the two parties hand to the key exchange when their steps succeed. -/

namespace OpaqueVx

open Lib

variable {CS : CipherSuite} {KE : KeyExchange CS} {SK OS : Type}

/-! ### The password -/

/-- HKDF-Extract over the output of the OPRF and what the KSF makes of it, with the
    default configuration where there is no other. -/
theorem getPasswordDerivedKey_eq_ok {input : Bytes} {oprfClient : CS.OprfCs.OprfClient}
    {evaluationElement : CS.OprfCs.Elem} {ksf : Option CS.Ksf.Config}
    {derived : Output CS.OprfHash × Hkdf CS.OprfHash} :
    getPasswordDerivedKey input oprfClient evaluationElement ksf = .ok derived ↔
      ∃ oprfOutput hardenedOutput,
        CS.OprfCs.finalize oprfClient input evaluationElement = .ok oprfOutput ∧
        CS.Ksf.hash (ksf.getD CS.Ksf.default) oprfOutput = .ok hardenedOutput ∧
        derived = (CS.OprfHash.extract (oprfOutput.bytes ++ hardenedOutput.bytes),
          ⟨(CS.OprfHash.extract (oprfOutput.bytes ++ hardenedOutput.bytes)).bytes⟩) := by
  have hsteps : getPasswordDerivedKey input oprfClient evaluationElement ksf =
      fromVoprf (CS.OprfCs.finalize oprfClient input evaluationElement) >>= fun oprfOutput =>
        fromInternal (CS.Ksf.hash (ksf.getD CS.Ksf.default) oprfOutput) >>= fun hardenedOutput =>
          .ok (CS.OprfHash.extract (oprfOutput.bytes ++ hardenedOutput.bytes),
            ⟨(CS.OprfHash.extract (oprfOutput.bytes ++ hardenedOutput.bytes)).bytes⟩) := by
    cases ksf with
    | none => rfl
    | some ksf => rfl
  rw [hsteps]
  constructor
  · intro h
    obtain ⟨oprfOutput, hfinalize, h⟩ := Outcome.bind_eq_ok.mp h
    obtain ⟨hardenedOutput, hstretch, h⟩ := Outcome.bind_eq_ok.mp h
    injection h with h
    exact ⟨oprfOutput, hardenedOutput, fromVoprf_eq_ok.mp hfinalize,
      fromInternal_eq_ok.mp hstretch, h.symm⟩
  · intro h
    obtain ⟨oprfOutput, hardenedOutput, hfinalize, hstretch, rfl⟩ := h
    rw [hfinalize, fromVoprf_ok, Outcome.ok_bind, hstretch, fromInternal_ok, Outcome.ok_bind]

/-! ### The server -/

namespace ServerLogin

/-- The client's static key: that of the record, or the dummy key where there is
    none. -/
def clientSPk (setup : ServerSetup CS SK OS) (passwordFile : Option (ServerRegistration CS)) :
    PublicKey CS.KeGroup :=
  match passwordFile with
  | some file => file.upload.clientSPk
  | none => setup.dummyPk

/-- A builder comes from the key exchange, which is given the parts of the answer
    before there is one. -/
theorem of_builderWithKeyMaterial {setup : ServerSetup CS SK OS}
    {keyMaterial : GenericArray CS.OprfCs.ScalarLen}
    {passwordFile : Option (ServerRegistration CS)} {request : CredentialRequest CS KE}
    {params : ServerLoginParameters} {r r' : Rng} {b : ServerLoginBuilder CS KE SK}
    (h : (builderWithKeyMaterial setup keyMaterial passwordFile request params).run r =
      .ok (b, r')) :
    ∃ context identifiers r₁, SerializedContext.fromContext params.context = .ok context ∧
      SerializedIdentifiers.fromIdentifiers params.identifiers
        (CS.KeGroup.serializePk (clientSPk setup passwordFile))
        (CS.KeGroup.serializePk setup.keypair.pk) = .ok identifiers ∧
      (KE.ke2Builder request.toParts request.ke1Message
        (.new b.evaluationElement b.maskingNonce b.maskedResponse) (clientSPk setup passwordFile)
        identifiers context).run r₁ = .ok (b.ke2Builder, r') := by
  obtain ⟨dummy, r₁, hdummy, h⟩ := run_bind_eq_ok.mp h
  have hpk : (passwordFile.getD dummy).upload.clientSPk = clientSPk setup passwordFile := by
    cases passwordFile with
    | some file => rfl
    | none =>
      injection hdummy with hdummy
      rw [← (Prod.mk.inj hdummy).1]
      rfl
  -- The dummy record is drawn in either case, before anything else.
  obtain ⟨context, hcontext, h⟩ := run_lift_bind_eq_ok.mp h
  obtain ⟨maskingNonce, r₂, -, h⟩ := run_bind_eq_ok.mp h
  obtain ⟨masked, -, h⟩ := run_lift_bind_eq_ok.mp h
  obtain ⟨identifiers, hids, h⟩ := run_lift_bind_eq_ok.mp h
  obtain ⟨oprfKey, -, h⟩ := run_lift_bind_eq_ok.mp h
  obtain ⟨server, -, h⟩ := run_lift_bind_eq_ok.mp h
  obtain ⟨builder, r₃, hbuilder, h⟩ := run_bind_eq_ok.mp h
  simp only [StateT.run_pure, Outcome.pure_eq, Outcome.ok.injEq, Prod.mk.injEq] at h
  obtain ⟨rfl, rfl⟩ := h
  rw [hpk] at hids hbuilder
  exact ⟨context, identifiers, r₂, hcontext, hids, hbuilder⟩

/-- The answer is the builder's parts and the message of the key exchange. -/
theorem build_eq_ok {b : ServerLoginBuilder CS KE SK} {input : KE.KE2BuilderInput}
    {result : ServerLoginStartResult CS KE} :
    build b input = .ok result ↔ ∃ ke2, KE.buildKe2 b.ke2Builder input = .ok ke2 ∧
      result = ⟨⟨b.evaluationElement, b.maskingNonce, b.maskedResponse, ke2.message⟩,
        ⟨ke2.state⟩⟩ := by
  unfold build
  rw [Outcome.bind_eq_ok]
  simp only [Outcome.pure_eq, Outcome.ok.injEq, eq_comm]

end ServerLogin

/-! ### The client -/

namespace ClientLogin

/-- The client's last step succeeds when each part of it does. -/
theorem run_finish_eq_ok {self : ClientLogin CS KE} {password : Bytes}
    {response : CredentialResponse CS KE} {params : ClientLoginFinishParameters CS}
    {r r' : Rng} {result : ClientLoginFinishResult CS KE} :
    (self.finish password response params).run r = .ok (result, r') ↔
      self.credentialRequest.blindedElement ≠ response.evaluationElement ∧
      ∃ derived maskingKey envelope opened context ke3,
        getPasswordDerivedKey password self.oprfClient response.evaluationElement params.ksf =
          .ok derived ∧
        derived.2.expand strMaskingKey CS.OprfHash.outputSize = some maskingKey ∧
        unmaskResponse maskingKey.bytes response.maskingNonce.bytes response.maskedResponse =
          .ok (result.serverSPk, envelope) ∧
        Envelope.open envelope derived.2 result.serverSPk params.identifiers = .ok opened ∧
        SerializedContext.fromContext params.context = .ok context ∧
        (KE.generateKe3 self.credentialRequest.toParts self.credentialRequest.ke1Message
          response.toParts self.ke1State response.ke2Message result.serverSPk
          opened.clientStaticKeypair.sk opened.identifiers context).run r = .ok (ke3, r') ∧
        result.message = ⟨ke3.message⟩ ∧ result.sessionKey = ke3.sessionKey ∧
        result.exportKey = opened.exportKey := by
  unfold finish
  constructor
  · intro h
    split at h
    · cases h
    · rename_i hne
      obtain ⟨derived, hderived, h⟩ := run_lift_bind_eq_ok.mp h
      obtain ⟨maskingKey, hkey, h⟩ := run_lift_bind_eq_ok.mp h
      obtain ⟨⟨serverSPk, envelope⟩, hunmask, h⟩ := run_lift_bind_eq_ok.mp h
      obtain ⟨opened, hopen, h⟩ := run_lift_bind_eq_ok.mp h
      obtain ⟨context, hcontext, h⟩ := run_lift_bind_eq_ok.mp h
      obtain ⟨ke3, r₁, hke3, h⟩ := run_bind_eq_ok.mp h
      simp only [StateT.run_pure, Outcome.pure_eq, Outcome.ok.injEq, Prod.mk.injEq] at h
      obtain ⟨rfl, rfl⟩ := h
      exact ⟨hne, derived, maskingKey, envelope, opened, context, ke3, hderived,
        Outcome.okOr_eq_ok.mp hkey, Outcome.mapErr_eq_ok.mp hunmask,
        Outcome.mapErr_eq_ok.mp hopen, hcontext, hke3, rfl, rfl, rfl⟩
  -- The other direction runs the same steps forward.
  · rintro ⟨hne, derived, maskingKey, envelope, opened, context, ke3, hderived, hkey, hunmask,
      hopen, hcontext, hke3, hmessage, hsession, hexport⟩
    rw [if_neg hne]
    refine run_lift_bind_eq_ok.mpr ⟨derived, hderived, ?_⟩
    refine run_lift_bind_eq_ok.mpr ⟨maskingKey, Outcome.okOr_eq_ok.mpr hkey, ?_⟩
    refine run_lift_bind_eq_ok.mpr ⟨_, Outcome.mapErr_eq_ok.mpr hunmask, ?_⟩
    refine run_lift_bind_eq_ok.mpr ⟨opened, Outcome.mapErr_eq_ok.mpr hopen, ?_⟩
    refine run_lift_bind_eq_ok.mpr ⟨context, hcontext, ?_⟩
    refine run_bind_eq_ok.mpr ⟨ke3, _, hke3, ?_⟩
    cases result
    simp only at hmessage hsession hexport
    rw [hmessage, hsession, hexport]
    rfl

end ClientLogin

end OpaqueVx
