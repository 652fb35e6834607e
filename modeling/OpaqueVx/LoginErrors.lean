import OpaqueVx.EndToEnd
import OpaqueVx.Lib.Failure
import OpaqueVx.MaskingRoundTrip
import OpaqueVx.Steps

/-! # Errors of a login

  A login that fails is reported as a login that fails. Whatever the server's answer
  is, the client's last step reports a reflected value or an invalid login; whatever
  the client's finalization is, the server's last step reports an invalid login. The
  other errors that the calls on the way could return are unreachable. -/

namespace OpaqueVx

open Lib

/-- A login that fails. -/
def IsInvalidLogin (e : Error) : Prop := e = .invalidLoginError

theorem isInvalidLogin : IsInvalidLogin .invalidLoginError := rfl

/-! ### Key exchanges -/

/-- The client's step of a key exchange reports nothing but an invalid login. -/
def KeyExchange.ClientReports {CS : CipherSuite} (KE : KeyExchange CS) : Prop :=
  ∀ credentialRequest ke1Message credentialResponse ke1State ke2Message serverSPk clientSSk
    identifiers context, FailsOnlyM IsInvalidLogin (KE.generateKe3 credentialRequest ke1Message
      credentialResponse ke1State ke2Message serverSPk clientSSk identifiers context)

/-- Nor does the server's last step, if the client's identifier in effect fits into its
    length field. -/
def KeyExchange.ServerReports {CS : CipherSuite} (KE : KeyExchange CS) : Prop :=
  ∀ ke2State ke3Message identifiers context,
    (∀ pk : PublicKey CS.KeGroup,
      (identifiers.client.getD (CS.KeGroup.serializePk pk).bytes).length < 256 ^ 2) →
    Outcome.FailsOnly IsInvalidLogin (KE.finishKe ke2State ke3Message identifiers context)

/-- A MAC that does not verify is the only failure behind a digest that fits. -/
theorem finalizeKe3Transcript_failsOnly {H : Hash} (hsize : H.outputSize < 256)
    (hasher : Hasher H) (secrets : List Bytes) (serverMac : Output H) :
    Outcome.FailsOnly IsInvalidLogin (finalizeKe3Transcript hasher secrets serverMac) := by
  unfold finalizeKe3Transcript
  apply Outcome.FailsOnly.bind (.of_eq_ok ⟨_, deriveKeys_eq_ok.mpr ⟨hsize, rfl⟩⟩)
  intro keys _
  simp only [macOnce_eq, Outcome.ok_bind]
  split
  · exact .ok _
  · exact .err isInvalidLogin

section tripleDh

variable {CS : CipherSuite} [DiffieHellman CS.KeGroup]

theorem TripleDh.clientReports (hsize : CS.KeHash.outputSize < 256) :
    (TripleDh.keyExchange CS).ClientReports := by
  intro credentialRequest ke1Message credentialResponse ke1State ke2Message serverSPk clientSSk
    identifiers context
  apply FailsOnlyM.lift_bind (finalizeKe3Transcript_failsOnly hsize _ _ _)
  intro result _
  exact .pure _

theorem TripleDh.serverReports : (TripleDh.keyExchange CS).ServerReports := by
  intro ke2State ke3Message identifiers context _
  exact .okOr isInvalidLogin _

/-- Decapsulation with a KEM of the `ml-kem` interface returns a secret for every
    ciphertext. -/
theorem TripleDhKem.clientReports (hsize : CS.KeHash.outputSize < 256) (K : MlKem) :
    (TripleDhKem.keyExchange CS K.core).ClientReports := by
  intro credentialRequest ke1Message credentialResponse ke1State ke2Message serverSPk clientSSk
    identifiers context
  apply FailsOnlyM.lift_bind (.ok _)
  intro kemSharedSecret _
  apply FailsOnlyM.lift_bind (finalizeKe3Transcript_failsOnly hsize _ _ _)
  intro result _
  exact .pure _

theorem TripleDhKem.serverReports (K : KemCoreWrapper) :
    (TripleDhKem.keyExchange CS K).ServerReports := by
  intro ke2State ke3Message identifiers context _
  exact .okOr isInvalidLogin _

end tripleDh

namespace SigmaI

variable {CS : CipherSuite} {KE : Group}

/-- A signature protocol always signs, and reports a signature that does not verify as
    an invalid login. -/
structure SignatureProtocol.Reports (SIG : SignatureProtocol CS KE) : Prop where
  sign : ∀ sk m, FailsOnlyM IsInvalidLogin (SIG.sign sk m)
  verify : ∀ pk builder state signature,
    Outcome.FailsOnly IsInvalidLogin (SIG.verify pk builder state signature)

theorem Ecdsa.reports (C : EcdsaCurve CS.KeGroup) (H : Hash) :
    (Ecdsa.protocol C H : SignatureProtocol CS KE).Reports where
  sign sk m := by
    intro r
    exact .ok _
  verify pk builder state signature := by
    show Outcome.FailsOnly IsInvalidLogin (Ecdsa.verify C pk state.digest.bytes signature)
    unfold Ecdsa.verify
    split
    · exact .ok _
    · exact .err isInvalidLogin

variable {SIG : SignatureProtocol CS KE}

theorem clientReports [DiffieHellman KE] (hsize : CS.KeHash.outputSize < 256)
    (hsig : SIG.Reports) : (keyExchange CS KE SIG).ClientReports := by
  intro credentialRequest ke1Message credentialResponse ke1State ke2Message serverSPk clientSSk
    identifiers context
  apply FailsOnlyM.lift_bind (.of_eq_ok ⟨_, deriveKeys_eq_ok.mpr ⟨hsize, rfl⟩⟩)
  intro keys _
  apply FailsOnlyM.lift_bind (.of_eq_ok ⟨_, identifierMac_eq _ _⟩)
  intro serverMac _
  apply FailsOnlyM.lift_bind (.okOr isInvalidLogin _)
  intro _ _
  apply FailsOnlyM.lift_bind (.of_eq_ok ⟨_, identifierMac_eq _ _⟩)
  intro clientMac _
  apply FailsOnlyM.bind (hsig.sign _ _)
  intro signed
  apply FailsOnlyM.lift_bind (hsig.verify _ _ _ _)
  intro _ _
  exact .pure _

theorem serverReports [DiffieHellman KE] (hsig : SIG.Reports) :
    (keyExchange CS KE SIG).ServerReports := by
  intro ke2State ke3Message identifiers context hclient
  apply Outcome.FailsOnly.bind
    (.of_eq_ok (SerializedIdentifier.fromIdentifier_short (hclient ke2State.clientSPk)))
  intro identifier _
  apply Outcome.FailsOnly.bind (hsig.verify _ _ _ _)
  intro _ _
  exact .okOr isInvalidLogin _

end SigmaI

namespace Ed25519

variable {E : Curve25519Dalek.EdwardsCurve}

theorem verify_failsOnly (pk : VerifyingKey E) (preHash : Bool) (message : List Bytes)
    (signature : Signature) :
    Outcome.FailsOnly IsInvalidLogin (verify pk preHash message signature) := by
  simp only [verify]
  split
  · exact .ok _
  · exact .err isInvalidLogin

variable (E) (V : Voprf) (H : Hash) (F : Ksf) (KE : Group)

theorem pureEddsa_reports :
    (SigmaI.PureEddsa.protocol (pureEddsa E V H F KE)).Reports where
  sign _ _ := .pure _
  verify _ _ _ _ := verify_failsOnly _ _ _ _

theorem hashEddsa_reports :
    (SigmaI.HashEddsa.protocol (hashEddsa E V H F KE)).Reports where
  sign _ _ := .pure _
  verify _ _ _ _ := verify_failsOnly _ _ _ _

end Ed25519

/-! ### The client's last step -/

variable {CS : CipherSuite}

/-- Hashes of at most 255 bytes, and no more than 255 hash lengths to expand to. -/
structure CipherSuite.LoginSized (CS : CipherSuite) : Prop where
  oprfHash : CS.OprfHash.outputSize ≤ 255
  keHash : CS.KeHash.outputSize ≤ 255
  maskedResponse : CS.MaskedResponseLen ≤ 255 * CS.OprfHash.outputSize
  skLen : CS.KeGroup.SkLen ≤ 255 * CS.OprfHash.outputSize

/-- Then a public key fits into the length field of an identifier. -/
theorem CipherSuite.LoginSized.pkLen (h : CS.LoginSized) : CS.KeGroup.PkLen < 256 ^ 2 := by
  have hmasked := h.maskedResponse
  have hhash := h.oprfHash
  unfold CipherSuite.MaskedResponseLen at hmasked
  omega

namespace ClientLogin

variable {KE : KeyExchange CS}

/-- The finalization of the OPRF, the KSF and the derivation of the client's key succeed
    where the last step of the client calls them. -/
structure CallsSucceed (state : ClientLogin CS KE) (password : Bytes)
    (response : CredentialResponse CS KE) (params : ClientLoginFinishParameters CS) : Prop where
  finalize : ∃ output,
    CS.OprfCs.finalize state.oprfClient password response.evaluationElement = .ok output
  ksf : ∀ output,
    CS.OprfCs.finalize state.oprfClient password response.evaluationElement = .ok output →
    ∃ hardened, CS.Ksf.hash (params.ksf.getD CS.Ksf.default) output = .ok hardened
  deriveScalar : ∀ derived maskingKey serverSPk envelope,
    getPasswordDerivedKey password state.oprfClient response.evaluationElement params.ksf =
      .ok derived →
    derived.2.expand strMaskingKey CS.OprfHash.outputSize = some maskingKey →
    unmaskResponse maskingKey.bytes response.maskingNonce.bytes response.maskedResponse =
      .ok (serverSPk, envelope) →
    ∃ sk, CS.KeGroup.deriveScalar (CS.OprfHash.expand derived.2.prk
      (envelope.nonce.bytes ++ strPrivateKey) CS.KeGroup.SkLen) = .ok sk

theorem CallsSucceed.exists_derived {state : ClientLogin CS KE} {password : Bytes}
    {response : CredentialResponse CS KE} {params : ClientLoginFinishParameters CS}
    (h : state.CallsSucceed password response params) : ∃ derived,
      getPasswordDerivedKey password state.oprfClient response.evaluationElement params.ksf =
        .ok derived := by
  obtain ⟨output, houtput⟩ := h.finalize
  obtain ⟨hardened, hhardened⟩ := h.ksf output houtput
  exact ⟨_, getPasswordDerivedKey_eq_ok.mpr ⟨output, hardened, houtput, hhardened, rfl⟩⟩

end ClientLogin

/-- Under a wrong key the bytes may or may not be a public key; in either case there is
    an envelope behind them. -/
theorem unmaskResponse_failsOnly (hsize : CS.MaskedResponseLen ≤ 255 * CS.OprfHash.outputSize)
    {parse : GenericArray CS.KeGroup.PkLen → Outcome Error CS.KeGroup.Pk}
    (hpk : CS.KeGroup.PkDecoder parse) (maskingKey : Output CS.OprfHash)
    (maskingNonce : GenericArray nonceLen) (m : MaskedResponse CS) :
    Outcome.FailsOnly (· = .serializationError)
        (unmaskResponse maskingKey.bytes maskingNonce.bytes m) ∧
      ∀ serverSPk envelope,
        unmaskResponse maskingKey.bytes maskingNonce.bytes m = .ok (serverSPk, envelope) →
        envelope.mode = .internal := by
  obtain ⟨e, hmode, he⟩ := exists_unmasked maskingKey.bytes maskingNonce.bytes m
  have hunmask := unmaskResponse_eq hsize hpk hmode he
  rw [hunmask]
  have hpanic := hpk.never_panics (unmaskedPk maskingKey.bytes maskingNonce.bytes m)
  -- Whether these bytes are a public key is left open.
  cases hparse : parse (unmaskedPk maskingKey.bytes maskingNonce.bytes m) with
  | ok pk =>
    refine ⟨.ok _, ?_⟩
    intro serverSPk envelope h
    obtain ⟨-, rfl⟩ := Prod.mk.inj (Outcome.ok.inj h)
    exact hmode
  | err err =>
    refine ⟨.err rfl, ?_⟩
    intro serverSPk envelope h
    cases h
  | panicked => exact absurd hparse hpanic

/-- An envelope that does not belong to the password fails at its MAC. -/
theorem Envelope.open_failsOnly {envelope : Envelope CS} {hasher : Hkdf CS.OprfHash}
    {serverSPk : PublicKey CS.KeGroup} {ids : Identifiers} (hsize : CS.LoginSized)
    (hids : ids.Short) (hmode : envelope.mode = .internal)
    (hsk : ∃ sk, CS.KeGroup.deriveScalar (CS.OprfHash.expand hasher.prk
      (envelope.nonce.bytes ++ strPrivateKey) CS.KeGroup.SkLen) = .ok sk) :
    Outcome.FailsOnly (· = .libraryError .sealOpenHmacError)
      (envelope.open hasher serverSPk ids) := by
  obtain ⟨sk, hsk⟩ := hsk
  have hrecover : recoverKeysInternal hasher envelope.nonce =
      .ok ⟨CS.KeGroup.publicKey sk, sk⟩ :=
    recoverKeysInternal_eq_ok.mpr ⟨hsize.skLen, hsk, rfl⟩
  unfold Envelope.open
  simp only [hmode, hrecover, Outcome.ok_bind]
  apply Outcome.FailsOnly.bind (.of_eq_ok (hids.fromIdentifiers hsize.pkLen _ _))
  intro identifiers _
  apply Outcome.FailsOnly.bind
  -- The MAC is the last to be checked and the only check that can fail.
  · apply Outcome.FailsOnly.mapErr
    rw [openRaw_eq]
    split
    · exact .ok _
    · exact .err rfl
  · intro exportKey _
    exact .ok _

namespace ClientLogin

variable {KE : KeyExchange CS}

/-- A value other than the client's own is answered with a result or an invalid login. -/
theorem finish_failsOnly (hsize : CS.LoginSized)
    {parse : GenericArray CS.KeGroup.PkLen → Outcome Error CS.KeGroup.Pk}
    (hpk : CS.KeGroup.PkDecoder parse) (hKE : KE.ClientReports) {state : ClientLogin CS KE}
    {password : Bytes} {response : CredentialResponse CS KE}
    {params : ClientLoginFinishParameters CS}
    (hne : state.credentialRequest.blindedElement ≠ response.evaluationElement)
    (hcontext : (params.context.getD []).length < 256 ^ 2) (hids : params.identifiers.Short)
    (hcalls : state.CallsSucceed password response params) :
    FailsOnlyM IsInvalidLogin (state.finish password response params) := by
  unfold finish
  rw [if_neg hne]
  apply FailsOnlyM.lift_bind (.of_eq_ok hcalls.exists_derived)
  intro derived hderived
  have hexpand := derived.2.expand_outputSize strMaskingKey
  apply FailsOnlyM.lift_bind (.of_eq_ok ⟨_, Outcome.okOr_eq_ok.mpr hexpand⟩)
  intro maskingKey hkey
  have hkey := Outcome.okOr_eq_ok.mp hkey
  obtain ⟨hunmask, hmode⟩ := unmaskResponse_failsOnly hsize.maskedResponse hpk maskingKey
    response.maskingNonce response.maskedResponse
  -- Bytes that are not a public key are reported as a wrong password.
  have hunmask : Outcome.FailsOnly IsInvalidLogin ((unmaskResponse maskingKey.bytes
      response.maskingNonce.bytes response.maskedResponse).mapErr unmaskError) := by
    apply Outcome.FailsOnly.mapErr
    apply hunmask.mono
    intro e he
    rw [he]
    exact isInvalidLogin
  apply FailsOnlyM.lift_bind hunmask
  rintro ⟨serverSPk, envelope⟩ hunmasked
  have hunmasked := Outcome.mapErr_eq_ok.mp hunmasked
  -- The key of the client is derived from the unmasked nonce, right or wrong.
  have hsk := hcalls.deriveScalar derived maskingKey serverSPk envelope hderived hkey hunmasked
  -- So is an envelope with another MAC.
  have hopen : Outcome.FailsOnly IsInvalidLogin
      ((Envelope.open envelope derived.2 serverSPk params.identifiers).mapErr openError) := by
    apply Outcome.FailsOnly.mapErr
    apply (Envelope.open_failsOnly hsize hids (hmode _ _ hunmasked) hsk).mono
    intro e he
    rw [he]
    exact isInvalidLogin
  apply FailsOnlyM.lift_bind hopen
  intro opened _
  obtain ⟨context, hok, -⟩ := SerializedContext.fromContext_short hcontext
  apply FailsOnlyM.lift_bind (.of_eq_ok ⟨context, hok⟩)
  intro context _
  apply FailsOnlyM.bind (hKE _ _ _ _ _ _ _ _ _)
  intro result
  exact .pure _

theorem run_finish_reflected {state : ClientLogin CS KE} {response : CredentialResponse CS KE}
    (password : Bytes) (params : ClientLoginFinishParameters CS) (rng : Rng)
    (h : state.credentialRequest.blindedElement = response.evaluationElement) :
    (state.finish password response params).run rng = .err .reflectedValueError := by
  unfold finish
  rw [if_pos h]
  rfl

end ClientLogin

/-- Whatever the answer is, the client's last step returns, reports a reflected value,
    which it does exactly when there is one, or reports an invalid login. -/
def KeyExchange.ClientLoginReported (KE : KeyExchange CS) : Prop :=
  ∀ (state : ClientLogin CS KE) (password : Bytes) (response : CredentialResponse CS KE)
    (params : ClientLoginFinishParameters CS) (rng : Rng),
    (params.context.getD []).length ≤ 65535 → params.identifiers.Short →
    state.CallsSucceed password response params →
    ((∃ result, (state.finish password response params).run rng = .ok result) ∨
      (state.finish password response params).run rng = .err .reflectedValueError ∨
      (state.finish password response params).run rng = .err .invalidLoginError) ∧
    ((state.finish password response params).run rng = .err .reflectedValueError ↔
      state.credentialRequest.blindedElement = response.evaluationElement)

/-- Whatever the finalization is, the server's last step returns or reports an invalid
    login. An identifier that is absent is the static public key. -/
def KeyExchange.ServerLoginReported (KE : KeyExchange CS) : Prop :=
  ∀ (state : ServerLogin CS KE) (message : CredentialFinalization CS KE)
    (params : ServerLoginParameters), (params.context.getD []).length ≤ 65535 →
    (∀ pk : PublicKey CS.KeGroup,
      (params.identifiers.client.getD (CS.KeGroup.serializePk pk).bytes).length ≤ 65535) →
    (∃ result, state.finish message params = .ok result) ∨
      state.finish message params = .err .invalidLoginError

theorem KeyExchange.ClientReports.login {KE : KeyExchange CS} (hKE : KE.ClientReports)
    (hsize : CS.LoginSized)
    {parse : GenericArray CS.KeGroup.PkLen → Outcome Error CS.KeGroup.Pk}
    (hpk : CS.KeGroup.PkDecoder parse) : KE.ClientLoginReported := by
  intro state password response params rng hcontext hids hcalls
  by_cases heq : state.credentialRequest.blindedElement = response.evaluationElement
  · have hreflected := ClientLogin.run_finish_reflected password params rng heq
    simp [hreflected, heq]
  · have hreports := ClientLogin.finish_failsOnly hsize hpk hKE heq (by omega) hids hcalls rng
    rcases hreports.cases_single with ⟨result, hok⟩ | herr
    · simp [hok, heq]
    · simp [herr, heq]

theorem KeyExchange.ServerReports.login {KE : KeyExchange CS} (hKE : KE.ServerReports) :
    KE.ServerLoginReported := by
  intro state message params hcontext hids
  have hcontext : (params.context.getD []).length < 256 ^ 2 := by omega
  obtain ⟨context, hok, -⟩ := SerializedContext.fromContext_short hcontext
  have hreports : Outcome.FailsOnly IsInvalidLogin (state.finish message params) := by
    unfold ServerLogin.finish
    apply Outcome.FailsOnly.bind (.of_eq_ok ⟨context, hok⟩)
    intro context _
    apply Outcome.FailsOnly.bind
    · apply hKE
      intro pk
      have hlen := hids pk
      omega
    · intro sessionKey _
      exact .ok _
  exact hreports.cases_single

/-! ### All key exchanges -/

/-- The client's last step reports a reflected value or an invalid login for the hashes
    that fit and the groups whose decoder cuts off a public key; the server's reports
    an invalid login. -/
theorem login_failures_reported :
    (∀ (CS : CipherSuite) (parse : GenericArray CS.KeGroup.PkLen → Outcome Error CS.KeGroup.Pk),
      CS.KeGroup.PkDecoder parse → CS.LoginSized →
      (∀ [DiffieHellman CS.KeGroup], (TripleDh.keyExchange CS).ClientLoginReported ∧
        ∀ K : MlKem, (TripleDhKem.keyExchange CS K.core).ClientLoginReported) ∧
      ∀ (KE : Group) [DiffieHellman KE] (C : SigmaI.EcdsaCurve CS.KeGroup) (H : Hash),
        (SigmaI.keyExchange CS KE (SigmaI.Ecdsa.protocol C H)).ClientLoginReported) ∧
    (∀ CS : CipherSuite,
      (∀ [DiffieHellman CS.KeGroup], (TripleDh.keyExchange CS).ServerLoginReported ∧
        ∀ K : MlKem, (TripleDhKem.keyExchange CS K.core).ServerLoginReported) ∧
      ∀ (KE : Group) [DiffieHellman KE] (C : SigmaI.EcdsaCurve CS.KeGroup) (H : Hash),
        (SigmaI.keyExchange CS KE (SigmaI.Ecdsa.protocol C H)).ServerLoginReported) ∧
    ∀ (E : Curve25519Dalek.EdwardsCurve) (V : Voprf) (H : Hash) (F : Ksf) (KE : Group)
      [DiffieHellman KE],
      let pure := SigmaI.keyExchange (Ed25519.suite E V H F) KE
        (SigmaI.PureEddsa.protocol (Ed25519.pureEddsa E V H F KE))
      let hashed := SigmaI.keyExchange (Ed25519.suite E V H F) KE
        (SigmaI.HashEddsa.protocol (Ed25519.hashEddsa E V H F KE))
      ((Ed25519.suite E V H F).LoginSized →
        pure.ClientLoginReported ∧ hashed.ClientLoginReported) ∧
      pure.ServerLoginReported ∧ hashed.ServerLoginReported := by
  refine ⟨?_, ?_, ?_⟩
  · intro CS parse hpk hsize
    have hkeHash : CS.KeHash.outputSize < 256 := by
      have h := hsize.keHash
      omega
    refine ⟨?_, ?_⟩
    · intro _
      refine ⟨(TripleDh.clientReports hkeHash).login hsize hpk, ?_⟩
      intro K
      exact (TripleDhKem.clientReports hkeHash K).login hsize hpk
    · intro KE _ C H
      exact (SigmaI.clientReports hkeHash (SigmaI.Ecdsa.reports C H)).login hsize hpk
  · intro CS
    refine ⟨?_, ?_⟩
    · intro _
      refine ⟨TripleDh.serverReports.login, ?_⟩
      intro K
      exact (TripleDhKem.serverReports K.core).login
    · intro KE _ C H
      exact (SigmaI.serverReports (SigmaI.Ecdsa.reports C H)).login
  · intro E V H F KE _ pure hashed
    have hpure := Ed25519.pureEddsa_reports E V H F KE
    have hhashed := Ed25519.hashEddsa_reports E V H F KE
    refine ⟨?_, (SigmaI.serverReports hpure).login, (SigmaI.serverReports hhashed).login⟩
    intro hsize
    have hkeHash : (Ed25519.suite E V H F).KeHash.outputSize < 256 := by
      have h := hsize.keHash
      omega
    have hpk : (Ed25519.suite E V H F).KeGroup.PkDecoder Ed25519.VerifyingKey.fromBytes :=
      Ed25519.pkDecoder E
    exact ⟨(SigmaI.clientReports hkeHash hpure).login hsize hpk,
      (SigmaI.clientReports hkeHash hhashed).login hsize hpk⟩

/-- The reference suite, at an answer that belongs to no password. -/
theorem login_failures_reported_reference :
    let KE := TripleDh.keyExchange Reference.suite
    let state : ClientLogin Reference.suite KE :=
      ⟨(1 : UInt8), ⟨(5 : UInt8), .zeros _⟩, ⟨(2 : UInt8), ⟨.zeros _, (15 : UInt8)⟩⟩⟩
    let response : CredentialResponse Reference.suite KE :=
      ⟨(7 : UInt8), .zeros _, ⟨.zeros _, .zeros _, .zeros _⟩,
        ⟨.zeros _, (3 : UInt8), .zeros _⟩⟩
    let params : ClientLoginFinishParameters Reference.suite := ⟨none, ⟨none, none⟩, none⟩
    (state.finish (ascii "password") response params).run Reference.rng =
        .err .invalidLoginError ∨
      ∃ result, (state.finish (ascii "password") response params).run Reference.rng =
        .ok result := by
  intro KE state response params
  have hsize : Reference.suite.LoginSized := ⟨by decide, by decide, by decide, by decide⟩
  have hreported := (login_failures_reported.1 Reference.suite _ Reference.group_pkDecoder
    hsize).1.1
  have hcalls : state.CallsSucceed (ascii "password") response params :=
    ⟨⟨_, rfl⟩, fun output _ => ⟨_, rfl⟩, fun _ _ _ _ _ _ _ => ⟨_, rfl⟩⟩
  obtain ⟨hresult, hreflected⟩ := hreported state (ascii "password") response params
    Reference.rng (by decide) ⟨by simp [params], by simp [params]⟩ hcalls
  have hne : state.credentialRequest.blindedElement ≠ response.evaluationElement := by decide
  rcases hresult with hok | hreflect | hinvalid
  · exact .inr hok
  · exact absurd (hreflected.mp hreflect) hne
  · exact .inl hinvalid

end OpaqueVx
