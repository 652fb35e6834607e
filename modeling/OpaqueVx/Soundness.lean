import OpaqueVx.EnvelopeBinding
import OpaqueVx.Identifiers
import OpaqueVx.ReferenceCurves
import OpaqueVx.Sessions

/-! # Soundness of a login

  A client and a server with a MAC of a login in common, of which the server answers
  with the record of a registration: then the client has the password of the
  registration, and the two agree with the registration on everything else, or the
  calls of the parties contain a collision. The argument runs from the MAC to the
  shared secrets, from these to the client's static key, and from the key back to the
  password, one call at a time. -/

namespace OpaqueVx

open Lib

variable {CS : CipherSuite}

/-! ### Calls on the way from the password -/

inductive PasswordKind where
  | prim (kind : PrimKind)
  | oprf
  | clientKey
  deriving DecidableEq

/-- A call on the way from the password to the client's static key. -/
inductive PasswordCall (CS : CipherSuite) where
  | prim (call : PrimCall)
  | oprf (keyMaterial password : Bytes)
  | clientKey (seed : GenericArray CS.KeGroup.SkLen)

namespace PasswordCall

def kind : PasswordCall CS → PasswordKind
  | prim call => .prim call.kind
  | oprf _ _ => .oprf
  | clientKey _ => .clientKey

/-- What a call returns, if it succeeds. -/
def output : PasswordCall CS → Option Bytes
  | prim call => some (call.output CS.OprfHash)
  | oprf keyMaterial password => (OpaqueVx.oprf CS keyMaterial password).toOption.map (·.bytes)
  | clientKey seed => (CS.KeGroup.deriveScalar seed).toOption.map fun sk =>
      (CS.KeGroup.serializePk (CS.KeGroup.publicKey sk)).bytes

end PasswordCall

/-- A collision among the calls of two runs from a password: of HKDF, of HMAC, of the
    OPRF, or of the derivation of a key pair. -/
abbrev ExhibitsPasswordCollision (xs ys : List (PasswordCall CS)) : Prop :=
  Exhibits PasswordCall.kind PasswordCall.output xs ys

/-- What goes into the client's static key and into the MAC of an envelope. -/
structure PasswordRun (CS : CipherSuite) where
  oprfSeed : OprfSeed CS.OprfHash
  credentialIdentifier : Bytes
  password : Bytes
  oprfOutput : Output CS.OprfHash
  hardenedOutput : Output CS.OprfHash
  nonce : GenericArray nonceLen
  identifiers : SerializedIdentifiers CS.KeGroup
  serverSPk : PublicKey CS.KeGroup

namespace PasswordRun

def keyMaterial (p : PasswordRun CS) : GenericArray CS.OprfCs.ScalarLen :=
  keyMaterialOf p.oprfSeed p.credentialIdentifier

def hasher (p : PasswordRun CS) : Hkdf CS.OprfHash := randomizedPwd p.oprfOutput p.hardenedOutput

def keypairSeed (p : PasswordRun CS) : GenericArray CS.KeGroup.SkLen :=
  CS.OprfHash.expand p.hasher.prk (p.nonce.bytes ++ strPrivateKey) CS.KeGroup.SkLen

/-- The calls, from the seed of the OPRF key to the client's public key and to the
    MAC of the envelope. -/
def calls (p : PasswordRun CS) : List (PasswordCall CS) :=
  [.prim (.expand p.oprfSeed.bytes (p.credentialIdentifier ++ strOprfKey) CS.OprfCs.ScalarLen),
    .oprf p.keyMaterial.bytes p.password,
    .prim (.extract (p.oprfOutput.bytes ++ p.hardenedOutput.bytes)),
    .prim (.expand p.hasher.prk (p.nonce.bytes ++ strPrivateKey) CS.KeGroup.SkLen),
    .clientKey p.keypairSeed,
    .prim (.hmac (Envelope.authKey p.hasher p.nonce).bytes
      (p.nonce.bytes ++ (Envelope.aadOf p.identifiers p.serverSPk).flatten))]

/-- The OPRF returned its output, and the key pair was recovered. -/
structure Returns (p : PasswordRun CS)
    (keypair : KeyPair CS.KeGroup (PrivateKey CS.KeGroup)) : Prop where
  oprf : OpaqueVx.oprf CS p.keyMaterial.bytes p.password = .ok p.oprfOutput
  keypair : recoverKeysInternal p.hasher p.nonce = .ok keypair

variable {p q : PasswordRun CS} {kp kq : KeyPair CS.KeGroup (PrivateKey CS.KeGroup)}

theorem Returns.output_clientKey (h : p.Returns kp) :
    (PasswordCall.clientKey p.keypairSeed : PasswordCall CS).output =
      some (CS.KeGroup.serializePk kp.pk).bytes := by
  obtain ⟨-, hsk, hpk⟩ := Envelope.recoverKeysInternal_eq_ok.mp h.keypair
  have hsk : CS.KeGroup.deriveScalar p.keypairSeed = .ok kp.sk := hsk
  simp only [PasswordCall.output, hsk, Outcome.toOption, Option.map_some, hpk]

theorem Returns.output_oprf (h : p.Returns kp) :
    (PasswordCall.oprf p.keyMaterial.bytes p.password : PasswordCall CS).output =
      some p.oprfOutput.bytes := by
  simp only [PasswordCall.output, h.oprf, Outcome.toOption, Option.map_some]

/-- One public key comes from one nonce and one secret. -/
theorem secret_agree (hno : ¬ ExhibitsPasswordCollision p.calls q.calls) (hp : p.Returns kp)
    (hq : q.Returns kq) (hpk : CS.KeGroup.serializePk kp.pk = CS.KeGroup.serializePk kq.pk) :
    p.hasher = q.hasher ∧ p.nonce = q.nonce := by
  -- The key pair: the seeds agree.
  have hcall := eq_of_not_exhibits hno (a := .clientKey p.keypairSeed)
    (b := .clientKey q.keypairSeed) (by simp [calls]) (by simp [calls]) rfl
    (by rw [hp.output_clientKey, hq.output_clientKey, hpk])
  injection hcall with hseed
  -- HKDF-Expand: the secrets and the nonces agree.
  have hcall := eq_of_not_exhibits hno
    (a := .prim (.expand p.hasher.prk (p.nonce.bytes ++ strPrivateKey) CS.KeGroup.SkLen))
    (b := .prim (.expand q.hasher.prk (q.nonce.bytes ++ strPrivateKey) CS.KeGroup.SkLen))
    (by simp [calls]) (by simp [calls]) rfl
    (congrArg some (congrArg GenericArray.bytes hseed))
  injection hcall with hcall
  injection hcall with hprk hinfo _
  refine ⟨?_, GenericArray.bytes_injective (List.append_cancel_right hinfo)⟩
  simp only [hasher, randomizedPwd, Hkdf.mk.injEq] at hprk ⊢
  exact hprk

/-- One secret comes from one password, one credential identifier and one seed. -/
theorem password_agree (hno : ¬ ExhibitsPasswordCollision p.calls q.calls) (hp : p.Returns kp)
    (hq : q.Returns kq) (hhasher : p.hasher = q.hasher) :
    p.password = q.password ∧ p.credentialIdentifier = q.credentialIdentifier ∧
      p.oprfSeed = q.oprfSeed := by
  -- HKDF-Extract: the outputs of the OPRF agree.
  have hcall := eq_of_not_exhibits hno
    (a := .prim (.extract (p.oprfOutput.bytes ++ p.hardenedOutput.bytes)))
    (b := .prim (.extract (q.oprfOutput.bytes ++ q.hardenedOutput.bytes)))
    (by simp [calls]) (by simp [calls]) rfl (congrArg some (congrArg Hkdf.prk hhasher))
  injection hcall with hcall
  injection hcall with hikm
  obtain ⟨houtput, -⟩ := GenericArray.append_inj hikm
  -- The OPRF: the passwords and the keys agree.
  have hcall := eq_of_not_exhibits hno (a := .oprf p.keyMaterial.bytes p.password)
    (b := .oprf q.keyMaterial.bytes q.password) (by simp [calls]) (by simp [calls]) rfl
    (by rw [hp.output_oprf, hq.output_oprf, houtput])
  injection hcall with hmaterial hpassword
  -- HKDF-Expand: the keys are of one credential identifier.
  have hcall := eq_of_not_exhibits hno
    (a := .prim (.expand p.oprfSeed.bytes (p.credentialIdentifier ++ strOprfKey)
      CS.OprfCs.ScalarLen))
    (b := .prim (.expand q.oprfSeed.bytes (q.credentialIdentifier ++ strOprfKey)
      CS.OprfCs.ScalarLen)) (by simp [calls]) (by simp [calls]) rfl (congrArg some hmaterial)
  injection hcall with hcall
  injection hcall with hseed hinfo _
  exact ⟨hpassword, List.append_cancel_right hinfo, GenericArray.bytes_injective hseed⟩

/-- One MAC of an envelope is over one server key and one pair of names. -/
theorem names_agree (hno : ¬ ExhibitsPasswordCollision p.calls q.calls)
    (htag : Envelope.authTag p.hasher p.nonce (Envelope.aadOf p.identifiers p.serverSPk) =
      Envelope.authTag q.hasher q.nonce (Envelope.aadOf q.identifiers q.serverSPk))
    (hnonce : p.nonce = q.nonce) :
    CS.KeGroup.serializePk p.serverSPk = CS.KeGroup.serializePk q.serverSPk ∧
      p.identifiers.client.bytes = q.identifiers.client.bytes ∧
      p.identifiers.server.bytes = q.identifiers.server.bytes := by
  have hcall := eq_of_not_exhibits hno
    (a := .prim (.hmac (Envelope.authKey p.hasher p.nonce).bytes
      (p.nonce.bytes ++ (Envelope.aadOf p.identifiers p.serverSPk).flatten)))
    (b := .prim (.hmac (Envelope.authKey q.hasher q.nonce).bytes
      (q.nonce.bytes ++ (Envelope.aadOf q.identifiers q.serverSPk).flatten)))
    (by simp [calls]) (by simp [calls]) rfl (congrArg some (congrArg GenericArray.bytes htag))
  injection hcall with hcall
  injection hcall with _ hdata
  rw [hnonce, List.append_cancel_left_eq] at hdata
  exact Envelope.aadOf_inj hdata

end PasswordRun

/-! ### Logins with the record of a registration -/

/-- The run from the password of a registration. -/
def Registration.passwordRun (R : Registration CS) : PasswordRun CS where
  oprfSeed := R.user.setup.oprfSeed
  credentialIdentifier := R.user.credentialIdentifier
  password := R.user.password
  oprfOutput := R.oprfOutput
  hardenedOutput := R.hardenedOutput
  nonce := R.nonce
  identifiers := R.identifiers
  serverSPk := R.user.setup.keypair.pk

/-- The run from the password of a client, with the OPRF key of the server that
    answers. -/
def ClientSession.passwordRun {KE : KeyExchange CS} (c : ClientSession KE) (s : ServerSession KE) :
    PasswordRun CS where
  oprfSeed := s.setup.oprfSeed
  credentialIdentifier := s.credentialIdentifier
  password := c.password
  oprfOutput := c.oprfOutput
  hardenedOutput := c.hardenedOutput
  nonce := c.envelope.nonce
  identifiers := c.opened.identifiers
  serverSPk := c.result.serverSPk

theorem Registration.returns (R : Registration CS) : R.passwordRun.Returns R.keypair where
  oprf := R.oprf_eq
  keypair := R.keypair_eq

/-- The names in effect, of client and server: those supplied, else the static keys. -/
def Identifiers.effective (G : Group) (ids : Identifiers) (clientSPk serverSPk : PublicKey G) :
    Bytes × Bytes :=
  (ids.client.getD (G.serializePk clientSPk).bytes, ids.server.getD (G.serializePk serverSPk).bytes)

/-- The client and the server are those of the registration, and the client is
    registered with the server. -/
structure SameLogin {KE : KeyExchange CS} (O : Confirmation KE) (R : Registration CS)
    (c : ClientSession KE) (s : ServerSession KE) : Prop where
  password : c.password = R.user.password
  credentialIdentifier : s.credentialIdentifier = R.user.credentialIdentifier
  oprfSeed : s.setup.oprfSeed = R.user.setup.oprfSeed
  clientSPk : c.opened.clientStaticKeypair.pk = R.record.upload.clientSPk
  serverSPk : c.result.serverSPk = R.result.serverSPk ∧ s.setup.keypair.pk = R.result.serverSPk
  exportKey : c.result.exportKey = R.result.exportKey
  identifiers :
    c.params.identifiers.effective CS.KeGroup R.record.upload.clientSPk R.result.serverSPk =
        R.user.ids.effective CS.KeGroup R.record.upload.clientSPk R.result.serverSPk ∧
      s.params.identifiers.effective CS.KeGroup R.record.upload.clientSPk R.result.serverSPk =
        R.user.ids.effective CS.KeGroup R.record.upload.clientSPk R.result.serverSPk
  context : c.params.context.getD [] = s.params.context.getD []
  sessionKey : c.result.sessionKey = O.stateKey s.start.state.ke2State
  clientMac : O.clientMac c.result.message.ke3Message = O.expectedMac s.start.state.ke2State

/-- Different elements of the OPRF group have different encodings. -/
theorem Voprf.Decodes.serializeElem_inj {V : Voprf} (h : V.Decodes) {e e' : V.Elem}
    (he : V.serializeElem e = V.serializeElem e') : e = e' := by
  have hd := h.elem e
  rw [he, h.elem e'] at hd
  injection hd with hd
  exact hd.symm

/-- So have different public keys. -/
theorem Group.KeyEncoding.serializePk_inj {G : Group} (h : G.KeyEncoding .roundTrip)
    {pk pk' : G.Pk} (hpk : G.serializePk pk = G.serializePk pk') : pk = pk' :=
  (h.pk pk).encode_inj (h.pk pk') hpk

section sessions

variable {KE : KeyExchange CS} {O : Confirmation KE} {R : Registration CS} {c : ClientSession KE}
  {s : ServerSession KE}

/-- In one session, the client unblinds an evaluation under the server's key. -/
theorem ClientSession.passwordRun_returns (hO : O.Lawful) (hoprf : CS.OprfCs.Unblinds)
    (hdec : CS.OprfCs.Decodes) (hone : c.startPassword = c.password)
    (hsame : c.party.session O = s.party.session O) :
    (c.passwordRun s).Returns c.opened.clientStaticKeypair where
  oprf := by
    obtain ⟨hrequest, hresponse, -⟩ := hO.parts_agree hsame
    have hrequest : c.start.message.toParts = s.run.credentialRequest := hrequest
    have hresponse : c.response.toParts = s.run.credentialResponse := hresponse
    rw [s.request_eq.1] at hrequest
    rw [s.response_eq] at hresponse
    -- The encodings that are in the transcript determine the elements.
    have hblinded := hdec.serializeElem_inj
      (congrArg SerializedCredentialRequest.blindedElement hrequest)
    have hevaluation := hdec.serializeElem_inj
      (congrArg SerializedCredentialResponse.evaluationElement hresponse)
    obtain ⟨r', hblind⟩ := c.blind_eq
    rw [hone] at hblind
    have hfinalize := c.finalize_eq
    rw [hevaluation, s.evaluation_eq, ← hblinded, s.oprfKey.oprf_eq hoprf hblind] at hfinalize
    exact hfinalize
  keypair := c.opened_eq.2.1

/-- With the secret of the registration, the client unmasks the server's key and the
    envelope of the record. -/
theorem unmasked_of_secret (hO : O.Lawful) (hkey : CS.KeGroup.KeyEncoding .roundTrip)
    (hfile : s.passwordFile = some R.record) (hsame : c.party.session O = s.party.session O)
    (hhasher : (c.passwordRun s).hasher = R.passwordRun.hasher) :
    c.result.serverSPk = s.setup.keypair.pk ∧ c.envelope = R.record.upload.envelope := by
  obtain ⟨-, hresponse, -⟩ := hO.parts_agree hsame
  have hresponse : c.response.toParts = s.run.credentialResponse := hresponse
  rw [s.response_eq] at hresponse
  have hnonce : c.response.maskingNonce = s.start.message.maskingNonce :=
    congrArg SerializedCredentialResponse.maskingNonce hresponse
  have hmasked : c.response.maskedResponse = s.start.message.maskedResponse :=
    congrArg SerializedCredentialResponse.maskedResponse hresponse
  have hupload := s.upload_eq hfile
  have hmask := s.masked_eq
  have hunmask := c.unmask_eq
  have hhasher : randomizedPwd c.oprfOutput c.hardenedOutput =
      randomizedPwd R.oprfOutput R.hardenedOutput := hhasher
  rw [hupload, R.upload_eq] at hmask
  rw [hhasher, hnonce, hmasked] at hunmask
  have hmasking := unmaskResponse_maskResponse (hkey.pk s.setup.keypair.pk) rfl hmask
  rw [hmasking] at hunmask
  injection hunmask with hunmask
  rw [R.upload_eq]
  exact ⟨(Prod.mk.inj hunmask).1.symm, (Prod.mk.inj hunmask).2.symm⟩

/-- A client and a server of one session, of which the client has the static key of
    the record that the server answers with. -/
theorem sameLogin_of_clientSPk (hO : O.Lawful) (hoprf : CS.OprfCs.Unblinds)
    (hdec : CS.OprfCs.Decodes) (hkey : CS.KeGroup.KeyEncoding .roundTrip)
    (hfile : s.passwordFile = some R.record) (hone : c.startPassword = c.password)
    (hsame : SameHandshake O c.party s.party)
    (hpk : CS.KeGroup.serializePk c.opened.clientStaticKeypair.pk =
      CS.KeGroup.serializePk R.record.upload.clientSPk)
    (hno : ¬ ExhibitsPasswordCollision (c.passwordRun s).calls R.passwordRun.calls) :
    SameLogin O R c s := by
  have hreturns := ClientSession.passwordRun_returns hO hoprf hdec hone hsame.session
  have hclientSPk : R.record.upload.clientSPk = R.keypair.pk := by rw [R.upload_eq]
  rw [hclientSPk] at hpk
  obtain ⟨hhasher, hnonce⟩ := PasswordRun.secret_agree hno hreturns R.returns hpk
  obtain ⟨hpassword, hcredential, hseed⟩ :=
    PasswordRun.password_agree hno hreturns R.returns hhasher
  obtain ⟨hserverSPk, henvelope⟩ := unmasked_of_secret hO hkey hfile hsame.session hhasher
  obtain ⟨-, -, hids, htag, hexport⟩ := c.opened_eq
  have htag : Envelope.authTag (c.passwordRun s).hasher (c.passwordRun s).nonce
      (Envelope.aadOf (c.passwordRun s).identifiers (c.passwordRun s).serverSPk) =
        Envelope.authTag R.passwordRun.hasher R.passwordRun.nonce
          (Envelope.aadOf R.passwordRun.identifiers R.passwordRun.serverSPk) := by
    have hmac : c.envelope.hmac = Envelope.authTag R.passwordRun.hasher R.passwordRun.nonce
        (Envelope.aadOf R.passwordRun.identifiers R.passwordRun.serverSPk) := by
      rw [henvelope, R.upload_eq]
      rfl
    exact htag.trans hmac
  obtain ⟨hserverBytes, hclientName, hserverName⟩ := PasswordRun.names_agree hno htag hnonce
  have hserver : c.result.serverSPk = R.user.setup.keypair.pk := hkey.serializePk_inj hserverBytes
  have hclient : c.opened.clientStaticKeypair.pk = R.keypair.pk := hkey.serializePk_inj hpk
  -- The names that the parties go by are those in the transcript and under the tag.
  obtain ⟨-, -, hclientBytes, hserverBytes, hcontext⟩ := hO.parts_agree hsame.session
  obtain ⟨hc₁, hc₂⟩ := Envelope.bytes_of_fromIdentifiers hids
  obtain ⟨hr₁, hr₂⟩ := Envelope.bytes_of_fromIdentifiers R.identifiers_eq
  obtain ⟨hs₁, hs₂⟩ := Envelope.bytes_of_fromIdentifiers s.identifiers_eq
  rw [s.upload_eq hfile, hclientSPk] at hs₁
  rw [← hserverSPk, hserver] at hs₂
  rw [hclient] at hc₁
  rw [hserver] at hc₂
  refine
    { password := hpassword
      credentialIdentifier := hcredential
      oprfSeed := hseed
      clientSPk := hclient.trans hclientSPk.symm
      serverSPk := ?_
      exportKey := ?_
      identifiers := ?_
      context := ?_
      sessionKey := ?_
      clientMac := ?_ }
  · rw [R.serverSPk_eq, ← hserverSPk]
    exact ⟨hserver, hserver⟩
  · have hnonce : c.envelope.nonce = R.nonce := hnonce
    have hhasher : randomizedPwd c.oprfOutput c.hardenedOutput =
      randomizedPwd R.oprfOutput R.hardenedOutput := hhasher
    rw [c.result_eq.2.2, hexport, R.exportKey_eq, hnonce, hhasher]
  · rw [R.serverSPk_eq, hclientSPk]
    simp only [Identifiers.effective, ← hc₁, ← hc₂, ← hr₁, ← hr₂, ← hs₁, ← hs₂]
    exact ⟨Prod.ext hclientName hserverName,
      Prod.ext (hclientBytes.symm.trans hclientName) (hserverBytes.symm.trans hserverName)⟩
  · rw [SerializedContext.fromContext_eq_ok.mp c.context_eq,
      SerializedContext.fromContext_eq_ok.mp s.context_eq]
    exact hcontext
  · rw [c.result_eq.2.1, s.state_eq]
    exact hsame.sessionKey
  · rw [c.result_eq.1, s.state_eq]
    exact hsame.mac .client

end sessions

/-! ### The client's static key -/

/-- Two parties of one handshake, of which the server holds the public key of a secret
    key: the client's secret key has the same public key. -/
def BindsClientKey {KE : KeyExchange CS} (O : Confirmation KE) : Prop :=
  ∀ (c : ClientRun KE) sent hc (s : ServerRun KE) builder made hs (sk : CS.KeGroup.Sk),
    s.clientSPk = CS.KeGroup.publicKey sk →
    SameHandshake O (.client c sent hc) (.server s builder made hs) →
    CS.KeGroup.publicKey c.clientSSk = s.clientSPk

/-- The product of the client's static key and the server's ephemeral key binds the
    client's static key. -/
theorem publicKey_of_product [DiffieHellman CS.KeGroup] (hdh : CS.KeGroup.DhCommutes)
    (hdet : CS.KeGroup.DhDetermines) {clientSSk serverESk sk : CS.KeGroup.Sk}
    {clientSPk : CS.KeGroup.Pk} (hsk : clientSPk = CS.KeGroup.publicKey sk)
    (h : DiffieHellman.diffieHellman clientSSk (CS.KeGroup.publicKey serverESk) =
      DiffieHellman.diffieHellman serverESk clientSPk) :
    CS.KeGroup.publicKey clientSSk = clientSPk := by
  rw [hdh clientSSk serverESk, hsk] at h
  rw [hsk]
  exact hdet serverESk clientSSk sk h

theorem TripleDh.bindsClientKey [DiffieHellman CS.KeGroup] (hdh : CS.KeGroup.DhCommutes)
    (hdet : CS.KeGroup.DhDetermines) (hkey : CS.KeGroup.KeyEncoding .roundTrip) :
    BindsClientKey (confirmation CS) := by
  intro c sent hc s builder made hs sk hsk hsame
  obtain ⟨⟨r, hbuilder⟩, hbuild⟩ := hs
  obtain ⟨serverESk, -, hb, -⟩ := run_ke2Builder_eq_ok.mp hbuilder
  obtain ⟨-, -, hmessage⟩ := buildKe2_eq_ok.mp hbuild
  -- The server's ephemeral key is in the transcript.
  have hepk : CS.KeGroup.serializePk c.ke2Message.serverEPk =
      CS.KeGroup.serializePk made.message.serverEPk :=
    congrArg SessionView.serverEPk hsame.session
  have hserverEPk : c.ke2Message.serverEPk = CS.KeGroup.publicKey serverESk := by
    rw [hkey.serializePk_inj hepk, hmessage, hb]
    rfl
  -- The third product is the last of the shared secrets.
  have hsecrets : clientIkm c.ke1State c.ke2Message c.serverSPk c.clientSSk =
      serverIkm builder s.input := hsame.secrets
  simp only [clientIkm, serverIkm, List.flatten_cons, List.flatten_nil, List.append_nil] at hsecrets
  obtain ⟨-, hsecrets⟩ := GenericArray.append_inj hsecrets
  obtain ⟨-, hthird⟩ := GenericArray.append_inj hsecrets
  have hthird := GenericArray.bytes_injective hthird
  rw [hserverEPk, hb] at hthird
  exact publicKey_of_product hdh hdet hsk hthird

theorem TripleDhKem.bindsClientKey [DiffieHellman CS.KeGroup] {K : KemCoreWrapper}
    (hdh : CS.KeGroup.DhCommutes) (hdet : CS.KeGroup.DhDetermines)
    (hkey : CS.KeGroup.KeyEncoding .roundTrip) : BindsClientKey (confirmation CS K) := by
  intro c sent hc s builder made hs sk hsk hsame
  obtain ⟨r', hclient⟩ := hc
  obtain ⟨ss', hss', -⟩ := run_generateKe3_eq_ok.mp hclient
  obtain ⟨⟨r, hbuilder⟩, hbuild⟩ := hs
  obtain ⟨serverESk, ek, rest, ct, ss, -, -, -, hb⟩ := run_ke2Builder_eq_ok.mp hbuilder
  obtain ⟨-, -, hmessage⟩ := buildKe2_eq_ok.mp hbuild
  have hepk : CS.KeGroup.serializePk c.ke2Message.dhMessage.serverEPk =
      CS.KeGroup.serializePk made.message.dhMessage.serverEPk :=
    congrArg (fun v => v.1.serverEPk) hsame.session
  have hserverEPk : c.ke2Message.dhMessage.serverEPk = CS.KeGroup.publicKey serverESk := by
    rw [hkey.serializePk_inj hepk, hmessage, hb]
    rfl
  have hsecrets : clientSecrets c = serverIkm builder s.input := hsame.secrets
  simp only [clientSecrets, hss', clientIkm, serverIkm, List.flatten_cons, List.flatten_nil,
    List.append_nil] at hsecrets
  obtain ⟨-, hsecrets⟩ := GenericArray.append_inj hsecrets
  obtain ⟨-, hsecrets⟩ := GenericArray.append_inj hsecrets
  obtain ⟨hthird, -⟩ := GenericArray.append_inj hsecrets
  rw [hserverEPk, hb] at hthird
  exact publicKey_of_product hdh hdet hsk hthird

/-! ### Soundness -/

/-- A client and a server with a MAC in common, of which the server answers with the
    record of a registration, are those of the registration, unless the calls of the
    two for the key exchange, or those of client and registration on the way from the
    password, contain a collision. The client is one that is given one password in both
    of its steps, and the two are given identifiers with a property. -/
def LoginSound {KE : KeyExchange CS} (O : Confirmation KE) (P : Identifiers → Prop) : Prop :=
  ∀ (R : Registration CS) (c : ClientSession KE) (s : ServerSession KE),
    s.passwordFile = some R.record → c.startPassword = c.password →
    P c.params.identifiers → P s.params.identifiers →
    O.serverMac c.response.ke2Message = O.serverMac s.start.message.ke2Message ∨
      O.clientMac c.result.message.ke3Message = O.expectedMac s.start.state.ke2State →
    SameLogin O R c s ∨ ExhibitsCollision CS.KeHash (c.party.calls O) (s.party.calls O) ∨
      ExhibitsPasswordCollision (c.passwordRun s).calls R.passwordRun.calls

section soundness

variable {KE : KeyExchange CS} {O : Confirmation KE}

/-- A MAC in common makes one handshake. -/
theorem Confirmation.Lawful.sameHandshake (hO : O.Lawful) {c : ClientSession KE}
    {s : ServerSession KE}
    (hmac : O.serverMac c.response.ke2Message = O.serverMac s.start.message.ke2Message ∨
      O.clientMac c.result.message.ke3Message = O.expectedMac s.start.state.ke2State) :
    SameHandshake O c.party s.party ∨
      ExhibitsCollision CS.KeHash (c.party.calls O) (s.party.calls O) := by
  rcases hmac with hserver | hclient
  · rw [s.message_eq] at hserver
    exact (hO.macsConfirm c.party s.party .server .server hserver).imp_left And.right
  · rw [c.result_eq.1, s.state_eq] at hclient
    exact (hO.macsConfirm c.party s.party .client .client hclient).imp_left And.right

/-- Client and server of one handshake have one static key of the client, if the server's
    is the public key of a secret key, and if the identifiers have a property. -/
def BindsStaticKey (O : Confirmation KE) (P : Identifiers → Prop) : Prop :=
  ∀ (c : ClientSession KE) (s : ServerSession KE), SameHandshake O c.party s.party →
    P c.params.identifiers → P s.params.identifiers →
    (∃ sk, s.upload.clientSPk = CS.KeGroup.publicKey sk) →
    CS.KeGroup.serializePk c.opened.clientStaticKeypair.pk =
      CS.KeGroup.serializePk s.upload.clientSPk

/-- The static key goes into the shared secrets. -/
theorem BindsClientKey.bindsStaticKey (h : BindsClientKey O) : BindsStaticKey O fun _ => True := by
  rintro c s hsame - - ⟨sk, hsk⟩
  have hopened := (Envelope.recoverKeysInternal_eq_ok.mp c.opened_eq.2.1).2.2
  have hbound := h _ _ _ _ _ _ _ sk (s.clientSPk_eq.trans hsk) hsame
  have hbound : CS.KeGroup.publicKey c.opened.clientStaticKeypair.sk = s.run.clientSPk := hbound
  rw [hopened, hbound, s.clientSPk_eq]

/-- In SIGMA-I it does not; where both parties let the client go by its key, it is in the
    transcript. -/
theorem SigmaI.bindsStaticKey {G : Group} [DiffieHellman G] {SIG : SignatureProtocol CS G} :
    BindsStaticKey (confirmation CS G SIG) fun ids => ids.client = none := by
  intro c s hsame hclient hserver _
  have hO : (confirmation CS G SIG).Lawful := confirmation_lawful
  obtain ⟨-, -, hbytes, -, -⟩ := hO.parts_agree hsame.session
  obtain ⟨hc, -⟩ := Envelope.bytes_of_fromIdentifiers c.opened_eq.2.2.1
  obtain ⟨hs, -⟩ := Envelope.bytes_of_fromIdentifiers s.identifiers_eq
  rw [hclient, Option.getD_none] at hc
  rw [hserver, Option.getD_none] at hs
  exact GenericArray.bytes_injective (hc.symm.trans (hbytes.trans hs))

theorem loginSound {P : Identifiers → Prop} (hO : O.Lawful) (hbinds : BindsStaticKey O P)
    (hoprf : CS.OprfCs.Unblinds) (hdec : CS.OprfCs.Decodes)
    (hkey : CS.KeGroup.KeyEncoding .roundTrip) : LoginSound O P := by
  intro R c s hfile hone hclient hserver hmac
  rcases hO.sameHandshake hmac with hsame | hcollision
  · -- The client's static key is that of the record.
    have hrecovered := (Envelope.recoverKeysInternal_eq_ok.mp R.keypair_eq).2.2
    have hrecord : s.upload.clientSPk = R.record.upload.clientSPk := by rw [s.upload_eq hfile]
    have hclientSPk : s.upload.clientSPk = CS.KeGroup.publicKey R.keypair.sk := by
      rw [hrecord, R.upload_eq]
      exact hrecovered
    have hpk := hbinds c s hsame hclient hserver ⟨R.keypair.sk, hclientSPk⟩
    rw [hrecord] at hpk
    rcases Classical.em (ExhibitsPasswordCollision (c.passwordRun s).calls R.passwordRun.calls)
      with hpassword | hno
    · exact .inr (.inr hpassword)
    · exact .inl (sameLogin_of_clientSPk hO hoprf hdec hkey hfile hone hsame hpk hno)
  · exact .inr (.inl hcollision)

end soundness

/-- Logins are sound with 3DH and with 3DH and a KEM, and with SIGMA-I where the client
    goes by its key. -/
theorem login_sound (CS : CipherSuite) (hoprf : CS.OprfCs.Unblinds) (hdec : CS.OprfCs.Decodes)
    (hkey : CS.KeGroup.KeyEncoding .roundTrip) :
    (∀ [DiffieHellman CS.KeGroup], CS.KeGroup.DhCommutes → CS.KeGroup.DhDetermines →
      LoginSound (TripleDh.confirmation CS) (fun _ => True) ∧
        ∀ K : KemCoreWrapper, LoginSound (TripleDhKem.confirmation CS K) (fun _ => True)) ∧
    (∀ (KE : Group) [DiffieHellman KE] (SIG : SigmaI.SignatureProtocol CS KE),
      LoginSound (SigmaI.confirmation CS KE SIG) (fun ids => ids.client = none)) := by
  refine ⟨?_, ?_⟩
  · intro _ hdh hdet
    refine ⟨?_, ?_⟩
    · exact loginSound TripleDh.confirmation_lawful
        (TripleDh.bindsClientKey hdh hdet hkey).bindsStaticKey hoprf hdec hkey
    · intro K
      exact loginSound TripleDhKem.confirmation_lawful
        (TripleDhKem.bindsClientKey hdh hdet hkey).bindsStaticKey hoprf hdec hkey
  · intro KE _ SIG
    exact loginSound SigmaI.confirmation_lawful SigmaI.bindsStaticKey hoprf hdec hkey

/-- A registration and a login with its record that succeed, as sessions. -/
theorem exists_sessions {KE : KeyExchange CS} (hoprf : CS.OprfCs.Unblinds) {u : User CS}
    {startRng finishRng : Rng}
    {registered : ClientRegistrationFinishResult CS × ServerRegistration CS} {l : LoginInput}
    {results : ClientLoginFinishResult CS KE × ServerLoginFinishResult CS}
    (hregister : register u startRng finishRng = .ok registered)
    (hlogin : login KE u registered.2 l = .ok results) :
    ∃ (R : Registration CS) (c : ClientSession KE) (s : ServerSession KE),
      R.user = u ∧ s.passwordFile = some R.record ∧ c.startPassword = c.password ∧
        c.response = s.start.message ∧ c.params.identifiers = u.ids ∧
        s.params.identifiers = u.ids := by
  obtain ⟨R, hruser, -, hrecord⟩ := exists_registration hoprf hregister
  obtain ⟨⟨clientStart, r₁⟩, hclientStart, hlogin⟩ := Outcome.bind_eq_ok.mp hlogin
  obtain ⟨⟨serverStart, r₂⟩, hserverStart, hlogin⟩ := Outcome.bind_eq_ok.mp hlogin
  obtain ⟨⟨clientFinish, r₃⟩, hclientFinish, -⟩ := Outcome.bind_eq_ok.mp hlogin
  obtain ⟨c, hc, -, -⟩ := exists_clientSession
    { startPassword := u.password
      startRng := l.clientRng
      password := u.password
      response := serverStart.message
      params := { context := l.context, identifiers := u.ids, ksf := u.ksf }
      finishRng := l.finishRng } hclientStart hclientFinish
  obtain ⟨s, hs, hstart⟩ := exists_serverSession
    { setup := u.setup
      passwordFile := some registered.2
      request := clientStart.message
      credentialIdentifier := u.credentialIdentifier
      params := { context := l.context, identifiers := u.ids }
      rng := l.serverRng } hserverStart
  refine ⟨R, c, s, hruser, ?_, ?_, ?_, ?_, ?_⟩
  · rw [hs, hrecord]
  · rw [hc]
  · rw [hc, hstart]
  · rw [hc]
  · rw [hs]

namespace Reference

/-- A secret key other than zero, on the curve of order 7. -/
def curveSecretKey (n : Nat) : EllipticCurve.SecretKey curveArithmetic where
  scalar := ⟨n % 6 + 1, by show n % 6 + 1 < 7; omega⟩
  ne_zero := by show n % 6 + 1 ≠ 0; omega

def keyGeneration : EllipticCurve.KeyGeneration curveArithmetic where
  generateFromRng _ := do
    let seed ← fillBytes 1
    return curveSecretKey (unsingle seed).toNat
  deriveKey seed info := .ok (curveSecretKey (mix (seed ++ info)).toNat).scalar

@[reducible] def curveGroup : Group := EllipticCurve.group curveArithmetic keyGeneration

instance : DiffieHellman curveGroup := EllipticCurve.instDiffieHellmanGroup keyGeneration

/-- A cipher suite over a group of prime order. -/
@[reducible] def curveSuite : CipherSuite where
  OprfCs := voprf
  KeGroup := curveGroup
  KeHash := hash
  Ksf := .identity

def curveKey : EllipticCurve.SecretKey curveArithmetic := curveSecretKey 4

def curveUser : User curveSuite where
  setup := ⟨single 9, ⟨.mulByGenerator curveKey, curveKey⟩, .mulByGenerator curveKey⟩
  password := user.password
  credentialIdentifier := user.credentialIdentifier
  ids := user.ids
  ksf := none

def curveRegistered : ClientRegistrationFinishResult curveSuite × ServerRegistration curveSuite :=
  (register curveUser rng rng).toOption.get (by decide +kernel)

theorem register_curveUser : register curveUser rng rng = .ok curveRegistered :=
  Outcome.toOption_eq_some.mp (Option.some_get _).symm

def curveResults : ClientLoginFinishResult curveSuite (TripleDh.keyExchange curveSuite) ×
    ServerLoginFinishResult curveSuite :=
  (login _ curveUser curveRegistered.2 loginInput).toOption.get (by decide +kernel)

theorem login_curveUser : login (TripleDh.keyExchange curveSuite) curveUser curveRegistered.2
    loginInput = .ok curveResults :=
  Outcome.toOption_eq_some.mp (Option.some_get _).symm

/-- The user without a name. -/
def namelessUser : User suite where
  setup := setup
  password := user.password
  credentialIdentifier := user.credentialIdentifier
  ids := ⟨none, none⟩
  ksf := none

def namelessRegistered : ClientRegistrationFinishResult suite × ServerRegistration suite :=
  (register namelessUser rng rng).toOption.get (by decide +kernel)

def namelessResults : ClientLoginFinishResult suite (SigmaI.keyExchange suite group ecdsa) ×
    ServerLoginFinishResult suite :=
  (login _ namelessUser namelessRegistered.2 loginInput).toOption.get (by decide +kernel)

theorem register_namelessUser : register namelessUser rng rng = .ok namelessRegistered :=
  Outcome.toOption_eq_some.mp (Option.some_get _).symm

theorem login_namelessUser : login (SigmaI.keyExchange suite group ecdsa) namelessUser
    namelessRegistered.2 loginInput = .ok namelessResults :=
  Outcome.toOption_eq_some.mp (Option.some_get _).symm

end Reference

/-- The user registers and logs in over the curve of order 7, and without a name with
    SIGMA-I. -/
theorem login_sound_reference :
    (∃ (R : Registration Reference.curveSuite)
      (c : ClientSession (TripleDh.keyExchange Reference.curveSuite))
      (s : ServerSession (TripleDh.keyExchange Reference.curveSuite)),
      R.user = Reference.curveUser ∧
        (SameLogin (TripleDh.confirmation Reference.curveSuite) R c s ∨
          ExhibitsCollision Reference.hash
            (c.party.calls (TripleDh.confirmation Reference.curveSuite))
            (s.party.calls (TripleDh.confirmation Reference.curveSuite)) ∨
          ExhibitsPasswordCollision (c.passwordRun s).calls R.passwordRun.calls)) ∧
    ∃ (R : Registration Reference.suite)
      (c : ClientSession (SigmaI.keyExchange Reference.suite Reference.group Reference.ecdsa))
      (s : ServerSession (SigmaI.keyExchange Reference.suite Reference.group Reference.ecdsa)),
      R.user = Reference.namelessUser ∧
        (SameLogin (SigmaI.confirmation _ _ _) R c s ∨
          ExhibitsCollision Reference.hash (c.party.calls (SigmaI.confirmation _ _ _))
            (s.party.calls (SigmaI.confirmation _ _ _)) ∨
          ExhibitsPasswordCollision (c.passwordRun s).calls R.passwordRun.calls) := by
  refine ⟨?_, ?_⟩
  · have hoprf : Reference.curveSuite.OprfCs.Unblinds := Reference.voprf_unblinds
    obtain ⟨R, c, s, hruser, hfile, hone, hresponse, -⟩ := exists_sessions hoprf
      Reference.register_curveUser Reference.login_curveUser
    have hsound := ((login_sound Reference.curveSuite hoprf Reference.voprf_encoding.decodes
      (EllipticCurve.keyEncoding _)).1 (EllipticCurve.dhCommutes _)
      (EllipticCurve.dhDetermines _)).1
    have hmac : c.response.ke2Message.mac = s.start.message.ke2Message.mac := by rw [hresponse]
    exact ⟨R, c, s, hruser, hsound R c s hfile hone trivial trivial (.inl hmac)⟩
  · have hoprf : Reference.suite.OprfCs.Unblinds := Reference.voprf_unblinds
    obtain ⟨R, c, s, hruser, hfile, hone, hresponse, hcids, hsids⟩ := exists_sessions hoprf
      Reference.register_namelessUser Reference.login_namelessUser
    have hsound := (login_sound Reference.suite hoprf Reference.voprf_encoding.decodes
      (.of_lawful Reference.group_keyEncoding)).2 Reference.group Reference.ecdsa
    have hmac : c.response.ke2Message.mac = s.start.message.ke2Message.mac := by rw [hresponse]
    have hclient : c.params.identifiers.client = none := congrArg Identifiers.client hcids
    have hserver : s.params.identifiers.client = none := congrArg Identifiers.client hsids
    exact ⟨R, c, s, hruser, hsound R c s hfile hone hclient hserver (.inl hmac)⟩

end OpaqueVx
