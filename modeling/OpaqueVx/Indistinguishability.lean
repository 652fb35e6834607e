import OpaqueVx.KeyExchange.SigmaI.Signatures
import OpaqueVx.Masking

/-! # What a login answer reveals

  Two logins that differ in the stored record only, where one or both records may
  be missing: they succeed together, fail with the same error, make the same
  draws, and their answers agree outside the masked and the authenticated fields.
  A missing record is treated exactly as a record made of random bytes and the
  dummy key of the setup. -/

namespace OpaqueVx

open Lib

variable {CS : CipherSuite}

/-! ### What a key exchange has to guarantee -/

/-- What of the server's message does not depend on the record. -/
structure PublicView (KE : KeyExchange CS) where
  View : Type
  message : KE.KE2Message → View

/-- A key exchange is oblivious when its steps on the server end alike on any
    responses, client keys and identifiers, up to a relation of the builders. -/
structure Oblivious (KE : KeyExchange CS) (V : PublicView KE)
    (Alike : KE.KE2Builder → KE.KE2Builder → Prop) : Prop where
  ke2Builder : ∀ request ke1Message response response' clientSPk clientSPk' identifiers identifiers'
    context, RelM Alike
      (KE.ke2Builder request ke1Message response clientSPk identifiers context)
      (KE.ke2Builder request ke1Message response' clientSPk' identifiers' context)
  generateKe2Input : ∀ b b' serverSSk, Alike b b' →
    RelM (fun _ _ => True) (KE.generateKe2Input b serverSSk) (KE.generateKe2Input b' serverSSk)
  buildKe2 : ∀ b b' input input', Alike b b' →
    Outcome.Rel (fun r r' => V.message r.message = V.message r'.message)
      (KE.buildKe2 b input) (KE.buildKe2 b' input')

/-! ### The parts of the builder -/

/-- The lengths of the identifiers decide whether they can be encoded; those of
    the public keys are the same. -/
theorem fromIdentifier_rel {G : Group} (id : Option Bytes) (sPk sPk' : GenericArray G.PkLen) :
    Outcome.Rel (fun _ _ => True) (SerializedIdentifier.fromIdentifier id sPk)
      (SerializedIdentifier.fromIdentifier id sPk') := by
  have hlen : (id.getD sPk.bytes).length = (id.getD sPk'.bytes).length := by
    cases id with
    | some id => rfl
    | none => exact sPk.size.trans sPk'.size.symm
  by_cases hshort : (id.getD sPk.bytes).length < 256 ^ 2
  · obtain ⟨i, hi⟩ := SerializedIdentifier.fromIdentifier_short hshort
    obtain ⟨j, hj⟩ := SerializedIdentifier.fromIdentifier_short
      (show (id.getD sPk'.bytes).length < 256 ^ 2 by omega)
    rw [hi, hj]
    exact .ok trivial
  · rw [SerializedIdentifier.fromIdentifier_long (by omega),
      SerializedIdentifier.fromIdentifier_long (by omega)]
    exact .err _

theorem fromIdentifiers_rel {G : Group} (ids : Identifiers)
    (clientSPk clientSPk' serverSPk : GenericArray G.PkLen) :
    Outcome.Rel (fun _ _ => True)
      (SerializedIdentifiers.fromIdentifiers ids clientSPk serverSPk)
      (SerializedIdentifiers.fromIdentifiers ids clientSPk' serverSPk) := by
  apply (fromIdentifier_rel ids.client clientSPk clientSPk').bind
  intro client client' _
  apply (fromIdentifier_rel ids.server serverSPk serverSPk).bind
  intro server server' _
  exact .ok trivial

theorem deriveKeys_rel {H : Hash} (ikms ikms' : List Bytes) (digest digest' : Output H) :
    Outcome.Rel (fun _ _ => True) (deriveKeys ikms digest.bytes : Outcome Error (DerivedKeys H))
      (deriveKeys ikms' digest'.bytes : Outcome Error (DerivedKeys H)) := by
  rw [deriveKeys_eq, deriveKeys_eq]
  by_cases hsize : H.outputSize < 256
  · rw [if_pos hsize, if_pos hsize]
    exact .ok trivial
  · rw [if_neg hsize, if_neg hsize]
    exact .err _

/-! ### The key exchanges -/

namespace TripleDh

variable [DiffieHellman CS.KeGroup]

variable (CS) in
/-- Nonce and ephemeral key are public; the MAC is not. -/
@[reducible] def publicView : PublicView (keyExchange CS) where
  View := GenericArray nonceLen × PublicKey CS.KeGroup
  message m := (m.serverNonce, m.serverEPk)

def Alike (b b' : Ke2Builder CS.KeGroup CS.KeHash) : Prop :=
  (b.serverNonce, b.serverEPk) = (b'.serverNonce, b'.serverEPk)

theorem oblivious : Oblivious (keyExchange CS) (publicView CS) Alike where
  ke2Builder := by
    intro request ke1Message response response' clientSPk clientSPk' identifiers identifiers'
      context
    show RelM Alike (ke2Builder _ _ _ _ _ _) (ke2Builder _ _ _ _ _ _)
    unfold ke2Builder ke2BuilderCommon
    simp only [bind_assoc, pure_bind]
    apply RelM.bind_same
    intro kp
    apply RelM.bind_same
    intro nonce
    exact RelM.pure rfl
  generateKe2Input := by
    intro b b' serverSSk _
    exact RelM.pure trivial
  buildKe2 := by
    intro b b' input input' halike
    -- The secrets differ, but deriving keys fails by length only.
    apply (deriveKeys_rel _ _ _ _).bind
    intro keys keys' _
    rw [computeKe2Macs_eq, computeKe2Macs_eq]
    exact .ok halike

end TripleDh

namespace TripleDhKem

variable [DiffieHellman CS.KeGroup] {K : KemCoreWrapper}

variable (CS K) in
/-- The ciphertext is public as well. -/
@[reducible] def publicView : PublicView (keyExchange CS K) where
  View := GenericArray nonceLen × PublicKey CS.KeGroup × GenericArray K.CiphertextLen
  message m := (m.dhMessage.serverNonce, m.dhMessage.serverEPk, m.kemCiphertext)

def Alike (b b' : KemKe2Builder CS.KeGroup CS.KeHash K) : Prop :=
  (b.serverNonce, b.serverEPk, b.kemCiphertext) = (b'.serverNonce, b'.serverEPk, b'.kemCiphertext)

theorem oblivious : Oblivious (keyExchange CS K) (publicView CS K) Alike where
  ke2Builder := by
    intro request ke1Message response response' clientSPk clientSPk' identifiers identifiers'
      context
    show RelM Alike (ke2Builder _ _ _ _ _ _) (ke2Builder _ _ _ _ _ _)
    unfold ke2Builder ke2BuilderCommon
    simp only [bind_assoc, pure_bind]
    apply RelM.bind_same
    intro kp
    apply RelM.bind_same
    intro nonce
    -- The encapsulation key is the client's, whatever the record is.
    apply RelM.bind_same
    intro encapsulationKey
    apply RelM.bind_same
    intro encapsulated
    exact RelM.pure rfl
  generateKe2Input := by
    intro b b' serverSSk _
    exact RelM.pure trivial
  buildKe2 := by
    intro b b' input input' halike
    apply (deriveKeys_rel _ _ _ _).bind
    intro keys keys' _
    rw [computeKe2Macs_eq, computeKe2Macs_eq]
    exact .ok halike

end TripleDhKem

namespace SigmaI

variable {KE : Group}

/-- Signing two messages with one key makes the same draws and ends alike. -/
def SignatureProtocol.DrawsAlike (SIG : SignatureProtocol CS KE) : Prop :=
  ∀ sk m m', RelM (fun _ _ => True) (SIG.sign sk m) (SIG.sign sk m')

theorem Ecdsa.drawsAlike (C : EcdsaCurve CS.KeGroup) (H : Hash) :
    (Ecdsa.protocol C H : SignatureProtocol CS KE).DrawsAlike := by
  intro sk m m'
  show RelM _ (Ecdsa.sign C sk _ >>= _) (Ecdsa.sign C sk _ >>= _)
  unfold Ecdsa.sign
  simp only [bind_assoc, pure_bind]
  apply RelM.bind_same
  intro ad
  exact RelM.pure trivial

theorem HashEddsa.drawsAlike (G : HashEddsaImpl CS KE) : (HashEddsa.protocol G).DrawsAlike :=
  fun _ _ _ => RelM.pure trivial

theorem PureEddsa.drawsAlike (G : PureEddsaImpl CS KE) : (PureEddsa.protocol G).DrawsAlike :=
  fun _ _ _ => RelM.pure trivial

variable [DiffieHellman KE] {SIG : SignatureProtocol CS KE}

variable (CS KE SIG) in
/-- Nonce and ephemeral key are public; signature and MAC are not. -/
@[reducible] def publicView : PublicView (keyExchange CS KE SIG) where
  View := GenericArray nonceLen × PublicKey KE
  message m := (m.serverNonce, m.serverEPk)

def Alike (b b' : Ke2Builder CS KE) : Prop :=
  (b.serverNonce, b.serverEPk) = (b'.serverNonce, b'.serverEPk)

theorem oblivious (hsig : SIG.DrawsAlike) :
    Oblivious (keyExchange CS KE SIG) (publicView CS KE SIG) Alike where
  ke2Builder := by
    intro request ke1Message response response' clientSPk clientSPk' identifiers identifiers'
      context
    show RelM Alike (ke2Builder _ _ _ _ _ _) (ke2Builder _ _ _ _ _ _)
    unfold ke2Builder
    apply RelM.bind_same
    intro kp
    apply RelM.bind_same
    intro nonce
    -- From here on the transcripts differ: nothing public is made of the keys.
    apply (RelM.lift (deriveKeys_rel _ _ _ _)).bind
    intro keys keys' _
    rw [identifierMac_eq, identifierMac_eq, identifierMac_eq, identifierMac_eq]
    exact RelM.pure rfl
  generateKe2Input := by
    intro b b' serverSSk _
    exact hsig serverSSk _ _
  buildKe2 := by
    intro b b' input input' halike
    exact .ok halike

end SigmaI

/-! ### The login -/

variable {KE : KeyExchange CS} {SK OS : Type}

/-- The answers agree outside the masked response and the authenticated fields. -/
def SameAnswer (V : PublicView KE) (r r' : ServerLoginStartResult CS KE) : Prop :=
  r.message.evaluationElement = r'.message.evaluationElement ∧
    r.message.maskingNonce = r'.message.maskingNonce ∧
    V.message r.message.ke2Message = V.message r'.message.ke2Message

/-- Whatever inputs the builders are given, building ends alike. -/
def SameBuilds (V : PublicView KE) (b b' : ServerLoginBuilder CS KE SK) : Prop :=
  ∀ input input',
    Outcome.Rel (SameAnswer V) (ServerLogin.build b input) (ServerLogin.build b' input')

/-- The record that stands for a missing one: the next bytes of the generator as
    masking key, the dummy key of the setup and the all-zero envelope. -/
def dummyRecord (setup : ServerSetup CS SK OS) (r : Rng) : ServerRegistration CS :=
  ⟨{ envelope := .dummy, maskingKey := r.peek CS.OprfHash.outputSize,
     clientSPk := setup.dummyPk }⟩

/-- No answer reveals the record or whether there is one. -/
structure LoginIndistinguishable (V : PublicView KE) : Prop where
  start : ∀ (setup : LocalSetup CS) p q (request : CredentialRequest CS KE) credentialIdentifier
    params, RelM (SameAnswer V)
      (ServerLogin.start setup p request credentialIdentifier params)
      (ServerLogin.start setup q request credentialIdentifier params)
  builder : ∀ {SK : Type} (setup : ServerSetup CS SK (OprfSeed CS.OprfHash)) p q
    (request : CredentialRequest CS KE) credentialIdentifier params, RelM (SameBuilds V)
      (ServerLogin.builder setup p request credentialIdentifier params)
      (ServerLogin.builder setup q request credentialIdentifier params)
  builderWithKeyMaterial : ∀ {SK OS : Type} (setup : ServerSetup CS SK OS) keyMaterial p q
    (request : CredentialRequest CS KE) params, RelM (SameBuilds V)
      (ServerLogin.builderWithKeyMaterial setup keyMaterial p request params)
      (ServerLogin.builderWithKeyMaterial setup keyMaterial q request params)
  startMissing : ∀ (setup : LocalSetup CS) (request : CredentialRequest CS KE)
    credentialIdentifier params r,
      (ServerLogin.start setup none request credentialIdentifier params).run r =
        (ServerLogin.start setup (some (dummyRecord setup r)) request credentialIdentifier
          params).run r
  builderMissing : ∀ {SK : Type} (setup : ServerSetup CS SK (OprfSeed CS.OprfHash))
    (request : CredentialRequest CS KE) credentialIdentifier params r,
      (ServerLogin.builder setup none request credentialIdentifier params).run r =
        (ServerLogin.builder setup (some (dummyRecord setup r)) request credentialIdentifier
          params).run r
  builderWithKeyMaterialMissing : ∀ {SK OS : Type} (setup : ServerSetup CS SK OS) keyMaterial
    (request : CredentialRequest CS KE) params r,
      (ServerLogin.builderWithKeyMaterial setup keyMaterial none request params).run r =
        (ServerLogin.builderWithKeyMaterial setup keyMaterial (some (dummyRecord setup r))
          request params).run r

section login

variable {V : PublicView KE} {Alike : KE.KE2Builder → KE.KE2Builder → Prop}

/-- Two builders that were made alike. -/
def BuildersAlike (Alike : KE.KE2Builder → KE.KE2Builder → Prop)
    (b b' : ServerLoginBuilder CS KE SK) : Prop :=
  b.evaluationElement = b'.evaluationElement ∧ b.maskingNonce = b'.maskingNonce ∧
    Alike b.ke2Builder b'.ke2Builder

theorem builderWithKeyMaterial_rel (hKE : Oblivious KE V Alike) (setup : ServerSetup CS SK OS)
    (keyMaterial : GenericArray CS.OprfCs.ScalarLen) (p q : Option (ServerRegistration CS))
    (request : CredentialRequest CS KE) (params : ServerLoginParameters) :
    RelM (BuildersAlike Alike)
      (ServerLogin.builderWithKeyMaterial setup keyMaterial p request params)
      (ServerLogin.builderWithKeyMaterial setup keyMaterial q request params) := by
  unfold ServerLogin.builderWithKeyMaterial
  apply RelM.bind_same
  intro dummy
  apply RelM.bind_same
  intro context
  apply RelM.bind_same
  intro maskingNonce
  -- Here the runs part: each masks its own record.
  apply (RelM.lift (maskResponse_rel _ _ _ _ _ _)).bind
  intro maskedResponse maskedResponse' _
  apply (RelM.lift (fromIdentifiers_rel _ _ _ _)).bind
  intro identifiers identifiers' _
  apply RelM.bind_same
  intro oprfKey
  apply RelM.bind_same
  intro server
  apply (hKE.ke2Builder _ _ _ _ _ _ _ _ _).bind
  intro b b' halike
  exact RelM.pure ⟨rfl, rfl, halike⟩

theorem builder_rel (hKE : Oblivious KE V Alike)
    (setup : ServerSetup CS SK (OprfSeed CS.OprfHash)) (p q : Option (ServerRegistration CS))
    (request : CredentialRequest CS KE) (credentialIdentifier : Bytes)
    (params : ServerLoginParameters) :
    RelM (BuildersAlike Alike)
      (ServerLogin.builder setup p request credentialIdentifier params)
      (ServerLogin.builder setup q request credentialIdentifier params) := by
  unfold ServerLogin.builder
  apply RelM.bind_same
  intro keyMaterial
  exact builderWithKeyMaterial_rel hKE setup keyMaterial p q request params

/-- Builders that were made alike build alike. -/
theorem BuildersAlike.sameBuilds (hKE : Oblivious KE V Alike) {b b' : ServerLoginBuilder CS KE SK}
    (h : BuildersAlike Alike b b') : SameBuilds V b b' := by
  intro input input'
  obtain ⟨helement, hnonce, halike⟩ := h
  apply (hKE.buildKe2 _ _ input input' halike).bind
  intro result result' hview
  exact .ok ⟨helement, hnonce, hview⟩

theorem start_rel (hKE : Oblivious KE V Alike) (setup : LocalSetup CS)
    (p q : Option (ServerRegistration CS)) (request : CredentialRequest CS KE)
    (credentialIdentifier : Bytes) (params : ServerLoginParameters) :
    RelM (SameAnswer V) (ServerLogin.start setup p request credentialIdentifier params)
      (ServerLogin.start setup q request credentialIdentifier params) := by
  unfold ServerLogin.start
  apply (builder_rel hKE setup p q request credentialIdentifier params).bind
  intro b b' halike
  apply (hKE.generateKe2Input _ _ setup.keypair.sk halike.2.2).bind
  intro input input' _
  exact RelM.lift (halike.sameBuilds hKE input input')

/-- A missing record is the dummy record. -/
theorem builderWithKeyMaterial_missing (setup : ServerSetup CS SK OS)
    (keyMaterial : GenericArray CS.OprfCs.ScalarLen) (request : CredentialRequest CS KE)
    (params : ServerLoginParameters) (r : Rng) :
    (ServerLogin.builderWithKeyMaterial setup keyMaterial none request params).run r =
      (ServerLogin.builderWithKeyMaterial setup keyMaterial (some (dummyRecord setup r)) request
        params).run r := by
  have hdummy : (ServerRegistration.dummy setup).run r =
      .ok (dummyRecord setup r, r.advance CS.OprfHash.outputSize) := rfl
  unfold ServerLogin.builderWithKeyMaterial
  rw [StateT.run_bind, StateT.run_bind, hdummy, Outcome.ok_bind, Outcome.ok_bind]
  rfl

theorem builder_missing (setup : ServerSetup CS SK (OprfSeed CS.OprfHash))
    (request : CredentialRequest CS KE) (credentialIdentifier : Bytes)
    (params : ServerLoginParameters) (r : Rng) :
    (ServerLogin.builder setup none request credentialIdentifier params).run r =
      (ServerLogin.builder setup (some (dummyRecord setup r)) request credentialIdentifier
        params).run r := by
  unfold ServerLogin.builder
  rw [StateT.run_bind, StateT.run_bind]
  cases oprfKeyMaterial (setup.keyMaterialInfo credentialIdentifier).ikm
      (setup.keyMaterialInfo credentialIdentifier).info with
  | ok keyMaterial =>
    exact builderWithKeyMaterial_missing setup keyMaterial request params r
  | err e => rfl
  | panicked => rfl

theorem start_missing (setup : LocalSetup CS) (request : CredentialRequest CS KE)
    (credentialIdentifier : Bytes) (params : ServerLoginParameters) (r : Rng) :
    (ServerLogin.start setup none request credentialIdentifier params).run r =
      (ServerLogin.start setup (some (dummyRecord setup r)) request credentialIdentifier
        params).run r := by
  unfold ServerLogin.start
  rw [StateT.run_bind, StateT.run_bind,
    builder_missing setup request credentialIdentifier params r]

/-- An oblivious key exchange hides the record. -/
theorem Oblivious.loginIndistinguishable (hKE : Oblivious KE V Alike) :
    LoginIndistinguishable V where
  start := start_rel hKE
  builder setup p q request credentialIdentifier params :=
    (builder_rel hKE setup p q request credentialIdentifier params).mono
      fun _ _ h => h.sameBuilds hKE
  builderWithKeyMaterial setup keyMaterial p q request params :=
    (builderWithKeyMaterial_rel hKE setup keyMaterial p q request params).mono
      fun _ _ h => h.sameBuilds hKE
  startMissing := start_missing
  builderMissing := builder_missing
  builderWithKeyMaterialMissing := builderWithKeyMaterial_missing

end login

/-- No key exchange reveals in a login answer whether the user is registered,
    except in the masked and the authenticated fields. -/
theorem login_indistinguishable (CS : CipherSuite) :
    (∀ [DiffieHellman CS.KeGroup], LoginIndistinguishable (TripleDh.publicView CS)) ∧
    (∀ [DiffieHellman CS.KeGroup] (K : KemCoreWrapper),
      LoginIndistinguishable (TripleDhKem.publicView CS K)) ∧
    (∀ (KE : Group) [DiffieHellman KE] (C : SigmaI.EcdsaCurve CS.KeGroup) (H : Hash),
      LoginIndistinguishable (SigmaI.publicView CS KE (SigmaI.Ecdsa.protocol C H))) ∧
    (∀ (KE : Group) [DiffieHellman KE] (G : SigmaI.HashEddsaImpl CS KE),
      LoginIndistinguishable (SigmaI.publicView CS KE (SigmaI.HashEddsa.protocol G))) ∧
    (∀ (KE : Group) [DiffieHellman KE] (G : SigmaI.PureEddsaImpl CS KE),
      LoginIndistinguishable (SigmaI.publicView CS KE (SigmaI.PureEddsa.protocol G))) := by
  refine ⟨?_, ?_, ?_, ?_, ?_⟩
  · intro _
    exact TripleDh.oblivious.loginIndistinguishable
  · intro _ K
    exact TripleDhKem.oblivious.loginIndistinguishable
  · intro KE _ C H
    exact (SigmaI.oblivious (SigmaI.Ecdsa.drawsAlike C H)).loginIndistinguishable
  · intro KE _ G
    exact (SigmaI.oblivious (SigmaI.HashEddsa.drawsAlike G)).loginIndistinguishable
  · intro KE _ G
    exact (SigmaI.oblivious (SigmaI.PureEddsa.drawsAlike G)).loginIndistinguishable

end OpaqueVx
