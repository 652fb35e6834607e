import OpaqueVx.EndToEnd
import OpaqueVx.Steps

/-! # Identifiers at the server's last step

  A login in which nothing is wrong, except that the server's last step is called
  with other identifiers than its first. Which key exchanges notice: those of 3DH
  do not look at the identifiers; SIGMA-I looks at the client's, and only PureEdDSA,
  which verifies the message itself, finds that it is not the one of the login. -/

namespace OpaqueVx

open Lib

variable {CS : CipherSuite}

/-! ### Logins -/

/-- A login up to the client's finalization, by a user with a stored record. With
    the same parameters as before, the server's last step accepts it. -/
structure LoginRun (KE : KeyExchange CS) where
  user : User CS
  record : ServerRegistration CS
  input : LoginInput
  clientStart : ClientLoginStartResult CS KE
  serverStart : ServerLoginStartResult CS KE
  clientFinish : ClientLoginFinishResult CS KE
  clientStart_eq : ∃ r, (ClientLogin.start KE user.password).run input.clientRng =
    .ok (clientStart, r)
  serverStart_eq : ∃ r, (ServerLogin.start user.setup (some record) clientStart.message
    user.credentialIdentifier ⟨input.context, user.ids⟩).run input.serverRng =
      .ok (serverStart, r)
  clientFinish_eq : ∃ r, (clientStart.state.finish user.password serverStart.message
    ⟨input.context, user.ids, user.ksf⟩).run input.finishRng = .ok (clientFinish, r)
  completes : ∃ result, serverStart.state.finish clientFinish.message
    ⟨input.context, user.ids⟩ = .ok result

/-- The login of a user, if all its steps succeed. -/
def loginRun (KE : KeyExchange CS) (u : User CS) (record : ServerRegistration CS)
    (l : LoginInput) : Option (LoginRun KE) :=
  match hclientStart : (ClientLogin.start KE u.password).run l.clientRng with
  | .ok (clientStart, _) =>
    match hserverStart : (ServerLogin.start u.setup (some record) clientStart.message
        u.credentialIdentifier ⟨l.context, u.ids⟩).run l.serverRng with
    | .ok (serverStart, _) =>
      match hclientFinish : (clientStart.state.finish u.password serverStart.message
          ⟨l.context, u.ids, u.ksf⟩).run l.finishRng with
      | .ok (clientFinish, _) =>
        match hfinish : serverStart.state.finish clientFinish.message ⟨l.context, u.ids⟩ with
        | .ok _ =>
          some
            { user := u, record, input := l, clientStart, serverStart, clientFinish
              clientStart_eq := ⟨_, hclientStart⟩
              serverStart_eq := ⟨_, hserverStart⟩
              clientFinish_eq := ⟨_, hclientFinish⟩
              completes := ⟨_, hfinish⟩ }
        | _ => none
      | _ => none
    | _ => none
  | _ => none

theorem of_loginRun {KE : KeyExchange CS} {u : User CS} {record : ServerRegistration CS}
    {l : LoginInput} {L : LoginRun KE} (h : loginRun KE u record l = some L) :
    L.user = u ∧ L.input = l := by
  unfold loginRun at h
  split at h
  · split at h
    · split at h
      · split at h
        · injection h with h
          rw [← h]
          exact ⟨rfl, rfl⟩
        · cases h
      · cases h
    · cases h
  · cases h

/-- Every login that succeeds is such a run. -/
theorem exists_loginRun {KE : KeyExchange CS} {u : User CS} {record : ServerRegistration CS}
    {l : LoginInput} {client : ClientLoginFinishResult CS KE} {server : ServerLoginFinishResult CS}
    (h : login KE u record l = .ok (client, server)) :
    ∃ L : LoginRun KE, L.user = u ∧ L.record = record ∧ L.input = l ∧
      L.clientFinish = client := by
  obtain ⟨⟨clientStart, r₁⟩, hclientStart, h⟩ := Outcome.bind_eq_ok.mp h
  obtain ⟨⟨serverStart, r₂⟩, hserverStart, h⟩ := Outcome.bind_eq_ok.mp h
  obtain ⟨⟨clientFinish, r₃⟩, hclientFinish, h⟩ := Outcome.bind_eq_ok.mp h
  obtain ⟨serverFinish, hfinish, h⟩ := Outcome.bind_eq_ok.mp h
  simp only [Outcome.pure_eq, Outcome.ok.injEq, Prod.mk.injEq] at h
  exact ⟨⟨u, record, l, clientStart, serverStart, clientFinish, ⟨r₁, hclientStart⟩,
    ⟨r₂, hserverStart⟩, ⟨r₃, hclientFinish⟩, ⟨serverFinish, hfinish⟩⟩, rfl, rfl, rfl, h.1⟩

/-- So is every login of a registered user under the conditions of completeness. -/
theorem Registered.exists_loginRun {u : User CS} {P : PasswordCalls u} {KE : KeyExchange CS}
    (hsize : CS.WellSized) (hoprf : CS.OprfCs.Unblinds)
    (hpair : u.setup.keypair.pk = CS.KeGroup.publicKey u.setup.keypair.sk)
    (hread : CS.KeGroup.pkCodec.ReadsBack u.setup.keypair.pk) {record : ServerRegistration CS}
    {exportKey : Output CS.OprfHash} (hR : Registered P record exportKey) {l : LoginInput}
    (hcontext : (l.context.getD []).length < 256 ^ 2) (B : BlindCall P l.clientRng)
    (hKE : ∀ p : HonestParties CS, p.clientRng = B.rest →
      p.serverRng = l.keyExchangeRng CS → KE.Succeeds p) :
    ∃ L : LoginRun KE, L.user = u ∧ L.record = record ∧ L.input = l := by
  obtain ⟨client, server, hlogin, -⟩ :=
    login_succeeds hsize hoprf hpair hread hR hcontext B hKE
  obtain ⟨L, huser, hrecord, hinput, -⟩ := OpaqueVx.exists_loginRun hlogin
  exact ⟨L, huser, hrecord, hinput⟩

/-! ### Other identifiers at the end -/

namespace LoginRun

variable {KE : KeyExchange CS} (L : LoginRun KE) (ids : Identifiers)

/-- The identifiers in effect, of client and server: the names that are supplied,
    else the static public keys. -/
def effective : Bytes × Bytes :=
  (ids.client.getD (CS.KeGroup.serializePk L.record.upload.clientSPk).bytes,
    ids.server.getD (CS.KeGroup.serializePk L.user.setup.keypair.pk).bytes)

/-- The identifiers are not those of the login. -/
def Mismatch : Prop := L.effective ids ≠ L.effective L.user.ids

/-- The server's last step, with these identifiers. -/
def serverFinish : Outcome Error (ServerLoginFinishResult CS) :=
  L.serverStart.state.finish L.clientFinish.message ⟨L.input.context, ids⟩

def Rejects : Prop := (L.serverFinish ids).IsErr

instance : Decidable (L.Rejects ids) := inferInstanceAs (Decidable (Outcome.IsErr _))

/-- The client's identifier is not that of the login. -/
def ClientDiffers : Prop := (L.effective ids).1 ≠ (L.effective L.user.ids).1

/-- The client's identifier does not fit into its length field. -/
def ClientTooLong : Prop := 256 ^ 2 ≤ (L.effective ids).1.length

variable {L ids}

theorem ClientDiffers.mismatch (h : L.ClientDiffers ids) : L.Mismatch ids := by
  intro heq
  exact h (congrArg Prod.fst heq)

/-- Two different names are different identifiers. -/
theorem clientDiffers_of_names {a b : Bytes} (ha : ids.client = some a)
    (hb : L.user.ids.client = some b) (hne : a ≠ b) : L.ClientDiffers ids := by
  unfold ClientDiffers effective
  rw [ha, hb]
  exact hne

end LoginRun

/-! ### What the server's steps depend on -/

/-- The first step of the server, from the record to the state that is kept. -/
theorem ServerLogin.start_eq_ok {KE : KeyExchange CS} {setup : LocalSetup CS}
    {record : ServerRegistration CS} {request : CredentialRequest CS KE}
    {credentialIdentifier : Bytes} {params : ServerLoginParameters} {r r' : Rng}
    {result : ServerLoginStartResult CS KE}
    (h : (ServerLogin.start setup (some record) request credentialIdentifier params).run r =
      .ok (result, r')) :
    ∃ response identifiers context builder input ke2 r₁ r₂,
      (KE.ke2Builder request.toParts request.ke1Message response record.upload.clientSPk
        identifiers context).run r₁ = .ok (builder, r₂) ∧
      KE.buildKe2 builder input = .ok ke2 ∧ result.state = ⟨ke2.state⟩ := by
  obtain ⟨loginBuilder, r₁, hbuilder, h⟩ := run_bind_eq_ok.mp h
  obtain ⟨input, r₂, -, h⟩ := run_bind_eq_ok.mp h
  obtain ⟨hbuild, -⟩ := run_lift_eq_ok.mp h
  obtain ⟨ke2, hke2, hresult⟩ := build_eq_ok.mp hbuild
  obtain ⟨keyMaterial, -, h⟩ := run_lift_bind_eq_ok.mp hbuilder
  obtain ⟨context, identifiers, r₃, -, -, hke2Builder⟩ := of_builderWithKeyMaterial h
  have hstate : result.state = ⟨ke2.state⟩ := by rw [hresult]
  exact ⟨_, identifiers, context, _, input, ke2, r₃, _, hke2Builder, hke2, hstate⟩

namespace LoginRun

variable {KE : KeyExchange CS} (L : LoginRun KE)

/-- With the context of the login, the last step is that of the key exchange. -/
theorem exists_context : ∃ context key,
    KE.finishKe L.serverStart.state.ke2State L.clientFinish.message.ke3Message L.user.ids
      context = .ok key ∧
    SerializedContext.fromContext L.input.context = .ok context ∧
    ∀ ids, L.Rejects ids ↔ (KE.finishKe L.serverStart.state.ke2State
      L.clientFinish.message.ke3Message ids context).IsErr := by
  obtain ⟨result, hresult⟩ := L.completes
  obtain ⟨context, hcontext, hfinish⟩ := Outcome.bind_eq_ok.mp hresult
  obtain ⟨key, hkey, -⟩ := Outcome.bind_eq_ok.mp hfinish
  have hcontext' : SerializedContext.fromContext L.input.context = .ok context := hcontext
  refine ⟨context, key, hkey, hcontext', ?_⟩
  intro ids
  unfold Rejects serverFinish ServerLogin.finish
  simp only [hcontext', Outcome.ok_bind]
  cases KE.finishKe L.serverStart.state.ke2State L.clientFinish.message.ke3Message ids context with
  | ok key => simp [Outcome.IsErr]
  | err e => simp [Outcome.IsErr]
  | panicked => simp [Outcome.IsErr]

/-- A last step that does not look at the identifiers accepts any. -/
theorem accepts_of_ignored
    (hignored : ∀ state message ids ids' context,
      KE.finishKe state message ids context = KE.finishKe state message ids' context)
    (ids : Identifiers) : ¬ L.Rejects ids := by
  obtain ⟨context, key, hkey, -, hrejects⟩ := L.exists_context
  rw [hrejects, hignored _ _ ids L.user.ids, hkey]
  intro h
  obtain ⟨e, he⟩ := h
  cases he

end LoginRun

/-! ### SIGMA-I -/

namespace SigmaI

variable {KE : Group} [DiffieHellman KE] {SIG : SignatureProtocol CS KE}

/-- The server keeps the client's static key of the record. -/
theorem clientSPk_of_start (L : LoginRun (keyExchange CS KE SIG)) :
    L.serverStart.state.ke2State.clientSPk = L.record.upload.clientSPk := by
  obtain ⟨r', hstart⟩ := L.serverStart_eq
  obtain ⟨response, identifiers, context, builder, input, ke2, r₁, r₂, hbuilder, hke2, hstate⟩ :=
    ServerLogin.start_eq_ok hstart
  obtain ⟨-, sk, -, hb, -⟩ := run_ke2Builder_eq_ok.mp hbuilder
  have hke2 : Outcome.ok (ε := Error) _ = .ok ke2 := hke2
  injection hke2 with hke2
  rw [hstate, ← hke2, hb]
  rfl

/-- What the last step does with the identifiers of the login and with others. -/
theorem exists_identifier (L : LoginRun (keyExchange CS KE SIG)) :
    ∃ context identifier,
      SerializedContext.fromContext L.input.context = .ok context ∧
      identifier.bytes = (L.effective L.user.ids).1 ∧
      SerializedIdentifier.fromIdentifier L.user.ids.client
        (CS.KeGroup.serializePk L.record.upload.clientSPk) = .ok identifier ∧
      SIG.verify L.record.upload.clientSPk ⟨.server, context, identifier⟩
        L.serverStart.state.ke2State.verifyState
        L.clientFinish.message.ke3Message.signature = .ok () ∧
      (∀ ids, L.ClientTooLong ids → L.Rejects ids) ∧
      ∀ ids other, SerializedIdentifier.fromIdentifier ids.client
        (CS.KeGroup.serializePk L.record.upload.clientSPk) = .ok other →
        (L.Rejects ids ↔ (SIG.verify L.record.upload.clientSPk ⟨.server, context, other⟩
          L.serverStart.state.ke2State.verifyState
          L.clientFinish.message.ke3Message.signature).IsErr) := by
  have hspk := clientSPk_of_start L
  obtain ⟨context, key, hkey, hcontext, hrejects⟩ := L.exists_context
  obtain ⟨identifier, hidentifier, hverify, hmac, -⟩ := finishKe_eq_ok.mp hkey
  rw [hspk] at hidentifier hverify
  have hbytes : identifier.bytes = (L.effective L.user.ids).1 := by
    have hid := SerializedIdentifier.fromIdentifier_eq_ok.mp hidentifier
    show identifier.identifier.bytes = _
    rw [hid, Identifier.bytes_ofOption]
    rfl
  refine ⟨context, identifier, hcontext, hbytes, hidentifier, hverify, ?_, ?_⟩
  -- An identifier that is too long is the one thing that is looked at here.
  · intro ids hlong
    rw [hrejects]
    show (finishKe _ _ _ _).IsErr
    have herr : SerializedIdentifier.fromIdentifier ids.client
        (CS.KeGroup.serializePk L.record.upload.clientSPk) = .err .serializationError :=
      SerializedIdentifier.fromIdentifier_long hlong
    simp only [finishKe, hspk, herr, Outcome.err_bind]
    exact ⟨_, rfl⟩
  · intro ids other hother
    rw [hrejects]
    show (finishKe _ _ _ _).IsErr ↔ _
    simp only [finishKe, hspk, hother, Outcome.ok_bind, hmac, if_true, Outcome.okOr_some]
    cases SIG.verify L.record.upload.clientSPk ⟨.server, context, other⟩
        L.serverStart.state.ke2State.verifyState L.clientFinish.message.ke3Message.signature with
    | ok u => simp [Outcome.IsErr]
    | err e => simp [Outcome.IsErr]
    | panicked => simp [Outcome.IsErr]

/-- A signature protocol that verifies a digest only checks that the client's
    identifier has an encoding. -/
theorem rejects_iff_of_ignored (L : LoginRun (keyExchange CS KE SIG))
    (hignored : ∀ pk builder builder' state signature,
      SIG.verify pk builder state signature = SIG.verify pk builder' state signature)
    (ids : Identifiers) : L.Rejects ids ↔ L.ClientTooLong ids := by
  obtain ⟨context, identifier, -, -, -, hverify, hlong, hshort⟩ := exists_identifier L
  constructor
  · intro hrejects
    by_cases hlen : L.ClientTooLong ids
    · exact hlen
    · obtain ⟨other, hother⟩ := SerializedIdentifier.fromIdentifier_short (Nat.lt_of_not_le hlen)
      have herr := (hshort ids other hother).mp hrejects
      rw [hignored _ _ ⟨.server, context, identifier⟩, hverify] at herr
      obtain ⟨e, he⟩ := herr
      cases he
  · exact hlong ids

end SigmaI

/-! ### PureEdDSA -/

namespace Ed25519

open Curve25519Dalek

variable {E : EdwardsCurve} {V : Voprf} {H : Hash} {F : Ksf} {KE : Group}

/-- A signature that is valid on one of the messages is not valid on the other if
    they are different. -/
def Separates (pk : VerifyingKey E) (signature : Signature) (m m' : List Bytes) : Prop :=
  m.flatten ≠ m'.flatten → Valid pk false m signature → ¬ Valid pk false m' signature

theorem Separates.of_invalid {pk : VerifyingKey E} {signature : Signature}
    {m m' : List Bytes} (h : verify pk false m' signature ≠ .ok ()) :
    Separates pk signature m m' := by
  intro _ _ hvalid
  exact h (verify_eq_ok.mpr hvalid)

/-- The client's message as the server assembles it. -/
def clientMessage (cache : SigmaI.CachedMessage (suite E V H F) KE) (context : SerializedContext)
    (identifier : SerializedIdentifier (group E)) : List Bytes :=
  ((⟨.server, context, identifier⟩ : SigmaI.MessageBuilder (suite E V H F)).build
    cache).verifyMessage

/-- Client's messages with different identifiers are different. -/
theorem clientMessage_inj {cache : SigmaI.CachedMessage (suite E V H F) KE}
    {context : SerializedContext} {i j : SerializedIdentifier (group E)}
    (h : (clientMessage cache context i).flatten = (clientMessage cache context j).flatten) :
    i.bytes = j.bytes := by
  simp only [clientMessage, SigmaI.VerifyMessage.verifyMessage, SigmaI.MessageBuilder.build,
    SigmaI.CachedMessage.postMessage, if_true, List.flatten_append, List.append_assoc,
    List.append_cancel_left_eq] at h
  exact (SerializedIdentifier.iter_inj h).1

theorem clientMessage_congr {cache : SigmaI.CachedMessage (suite E V H F) KE}
    {context : SerializedContext} {i j : SerializedIdentifier (group E)}
    (h : i.bytes = j.bytes) : clientMessage cache context i = clientMessage cache context j := by
  show context.iter ++ cache.postMessage .client i = context.iter ++ cache.postMessage .client j
  unfold SigmaI.CachedMessage.postMessage
  rw [SerializedIdentifier.iter_congr h]

variable [DiffieHellman KE]

/-- The client's signature is not valid on the message that the other identifiers
    lead to, unless that is the message of the login. -/
def SignatureBinds
    (L : LoginRun (SigmaI.keyExchange (suite E V H F) KE
      (SigmaI.PureEddsa.protocol (pureEddsa E V H F KE)))) (ids : Identifiers) : Prop :=
  ∀ context identifier other,
    SerializedContext.fromContext L.input.context = .ok context →
    SerializedIdentifier.fromIdentifier L.user.ids.client L.record.upload.clientSPk.compressed =
      .ok identifier →
    SerializedIdentifier.fromIdentifier ids.client L.record.upload.clientSPk.compressed =
      .ok other →
    Separates L.record.upload.clientSPk L.clientFinish.message.ke3Message.signature
      (clientMessage L.serverStart.state.ke2State.verifyState context identifier)
      (clientMessage L.serverStart.state.ke2State.verifyState context other)

theorem verify_isErr {pk : VerifyingKey E} {preHash : Bool} {message : List Bytes}
    {signature : Signature} :
    (verify pk preHash message signature).IsErr ↔ ¬ Valid pk preHash message signature := by
  rw [← verify_eq_ok]
  unfold verify
  simp only
  split
  · simp [Outcome.IsErr]
  · simp [Outcome.IsErr]

/-- PureEdDSA rejects exactly the logins with another client identifier. -/
theorem pureEddsa_rejects_iff
    (L : LoginRun (SigmaI.keyExchange (suite E V H F) KE
      (SigmaI.PureEddsa.protocol (pureEddsa E V H F KE)))) (ids : Identifiers)
    (hbinds : SignatureBinds L ids) : L.Rejects ids ↔ L.ClientDiffers ids := by
  obtain ⟨context, identifier, hcontext, hbytes, hidentifier, hverify, hlong, hshort⟩ :=
    SigmaI.exists_identifier L
  have hvalid := verify_eq_ok.mp hverify
  -- A name that is too long is refused before the signature is looked at.
  by_cases hlen : L.ClientTooLong ids
  · have hdiffers : L.ClientDiffers ids := by
      intro heq
      have hlt := identifier.bytes_lt
      rw [hbytes, ← heq] at hlt
      exact absurd hlt (Nat.not_lt.mpr hlen)
    exact ⟨fun _ => hdiffers, fun _ => hlong ids hlen⟩
  · obtain ⟨other, hother⟩ := SerializedIdentifier.fromIdentifier_short (Nat.lt_of_not_le hlen)
    have hbytes' : other.bytes = (L.effective ids).1 := by
      have hid := SerializedIdentifier.fromIdentifier_eq_ok.mp hother
      show other.identifier.bytes = _
      rw [hid, Identifier.bytes_ofOption]
      rfl
    rw [hshort ids other hother]
    show (verify _ false (clientMessage _ context other) _).IsErr ↔ _
    -- Both messages are those of one cache, so they differ exactly in the identifier.
    rw [verify_isErr, LoginRun.ClientDiffers, ← hbytes, ← hbytes']
    constructor
    · intro hinvalid heq
      apply hinvalid
      rw [clientMessage_congr heq]
      exact hvalid
    · intro hne
      apply hbinds context identifier other hcontext hidentifier hother
      · intro heq
        exact hne (clientMessage_inj heq).symm
      · exact hvalid

end Ed25519

/-! ### Logins of the reference instantiation -/

namespace Reference

/-- The server returns under another name. -/
def otherIds : Identifiers := ⟨some (ascii "bob"), none⟩

def loginInput : LoginInput := ⟨none, rng, rng, rng⟩

def record : ServerRegistration suite :=
  ((register user rng rng).toOption.get (by decide +kernel)).2

def tripleDhLogin : LoginRun (TripleDh.keyExchange suite) :=
  (loginRun _ user record loginInput).get (by decide +kernel)

def kemLogin : LoginRun (TripleDhKem.keyExchange suite mlKem.core) :=
  (loginRun _ user record loginInput).get (by decide +kernel)

def ecdsaLogin : LoginRun (SigmaI.keyExchange suite group ecdsa) :=
  (loginRun _ user record loginInput).get (by decide +kernel)

def edwardsKey : Ed25519.SigningKey edwards := .fromBytes (.zeros 32)

/-- The user at a server with an Ed25519 key. -/
def edwardsUser : User edwardsSuite where
  setup := ⟨single 9, ⟨edwardsKey.verifyingKey, edwardsKey⟩, edwardsKey.verifyingKey⟩
  password := user.password
  credentialIdentifier := user.credentialIdentifier
  ids := user.ids
  ksf := none

def edwardsRecord : ServerRegistration edwardsSuite :=
  ((register edwardsUser rng rng).toOption.get (by decide +kernel)).2

def hashEddsaLogin : LoginRun (SigmaI.keyExchange edwardsSuite group
    (SigmaI.HashEddsa.protocol (Ed25519.hashEddsa edwards voprf hash .identity group))) :=
  (loginRun _ edwardsUser edwardsRecord loginInput).get (by decide +kernel)

def pureEddsaLogin : LoginRun (SigmaI.keyExchange edwardsSuite group
    (SigmaI.PureEddsa.protocol (Ed25519.pureEddsa edwards voprf hash .identity group))) :=
  (loginRun _ edwardsUser edwardsRecord loginInput).get (by decide +kernel)

/-- The other name and the context of the login, encoded. -/
def otherIdentifier : SerializedIdentifier (Ed25519.group edwards) :=
  ⟨_, .borrowed (ascii "bob"), lengthField_short (by decide)⟩

def noContext : SerializedContext := ⟨_, [], lengthField_short (by decide)⟩

theorem pureEddsaLogin_binds : Ed25519.SignatureBinds pureEddsaLogin otherIds := by
  intro context identifier other hcontext _ hother
  obtain ⟨-, hinput⟩ := of_loginRun (Option.some_get _).symm
  obtain rfl : context = noContext := by
    apply SerializedContext.ext_context
    rw [← SerializedContext.fromContext_eq_ok.mp hcontext]
    rw [pureEddsaLogin, hinput]
    rfl
  obtain rfl : other = otherIdentifier := by
    apply SerializedIdentifier.ext_identifier
    rw [SerializedIdentifier.fromIdentifier_eq_ok.mp hother]
    rfl
  apply Ed25519.Separates.of_invalid
  decide +kernel

/-- The client's name is not the one of the login. -/
theorem otherIds_differ {CS : CipherSuite} {KE : KeyExchange CS} {u : User CS}
    {record : ServerRegistration CS} {l : LoginInput}
    (h : (loginRun KE u record l).isSome = true) (hids : u.ids.client = some (ascii "alice")) :
    ((loginRun KE u record l).get h).ClientDiffers otherIds := by
  obtain ⟨huser, -⟩ := of_loginRun (Option.some_get h).symm
  apply LoginRun.clientDiffers_of_names (b := ascii "alice") rfl
  · rw [huser]
    exact hids
  · decide

theorem otherIds_short {CS : CipherSuite} {KE : KeyExchange CS} (L : LoginRun KE) :
    ¬ L.ClientTooLong otherIds := by
  show ¬ 256 ^ 2 ≤ (ascii "bob").length
  decide

end Reference

/-! ### Which key exchanges notice -/

/-- For a login with other identifiers at the end: 3DH with or without a KEM accepts
    it; SIGMA-I with a pre-hash rejects it if and only if the client's identifier
    does not fit into its length field; SIGMA-I with PureEdDSA rejects it if and only
    if the client's identifier is another one. -/
theorem identifier_mismatch_noticed (CS : CipherSuite) :
    (∀ [DiffieHellman CS.KeGroup] (L : LoginRun (TripleDh.keyExchange CS)) (ids : Identifiers),
      L.Mismatch ids → (L.Rejects ids ↔ False)) ∧
    (∀ [DiffieHellman CS.KeGroup] (K : KemCoreWrapper)
      (L : LoginRun (TripleDhKem.keyExchange CS K)) (ids : Identifiers),
      L.Mismatch ids → (L.Rejects ids ↔ False)) ∧
    (∀ (KE : Group) [DiffieHellman KE] (C : SigmaI.EcdsaCurve CS.KeGroup) (H : Hash)
      (L : LoginRun (SigmaI.keyExchange CS KE (SigmaI.Ecdsa.protocol C H))) (ids : Identifiers),
      L.Mismatch ids → (L.Rejects ids ↔ L.ClientTooLong ids)) ∧
    (∀ (KE : Group) [DiffieHellman KE] (G : SigmaI.HashEddsaImpl CS KE)
      (L : LoginRun (SigmaI.keyExchange CS KE (SigmaI.HashEddsa.protocol G)))
      (ids : Identifiers), L.Mismatch ids → (L.Rejects ids ↔ L.ClientTooLong ids)) ∧
    (∀ (E : Curve25519Dalek.EdwardsCurve) (KE : Group) [DiffieHellman KE]
      (L : LoginRun (SigmaI.keyExchange (Ed25519.suite E CS.OprfCs CS.KeHash CS.Ksf) KE
        (SigmaI.PureEddsa.protocol (Ed25519.pureEddsa E _ _ _ KE)))) (ids : Identifiers),
      L.Mismatch ids → Ed25519.SignatureBinds L ids → (L.Rejects ids ↔ L.ClientDiffers ids)) := by
  refine ⟨?_, ?_, ?_, ?_, ?_⟩
  · intro _ L ids _
    have haccepts := L.accepts_of_ignored (fun _ _ _ _ _ => rfl) ids
    exact ⟨haccepts, False.elim⟩
  · intro _ K L ids _
    have haccepts := L.accepts_of_ignored (fun _ _ _ _ _ => rfl) ids
    exact ⟨haccepts, False.elim⟩
  · intro KE _ C H L ids _
    exact SigmaI.rejects_iff_of_ignored L (fun _ _ _ _ _ => rfl) ids
  · intro KE _ G L ids _
    exact SigmaI.rejects_iff_of_ignored L (fun _ _ _ _ _ => rfl) ids
  · intro E KE _ L ids _ hbinds
    exact Ed25519.pureEddsa_rejects_iff L ids hbinds

/-- The reference logins, with another client identifier at the end. -/
theorem identifier_mismatch_noticed_reference :
    ¬ Reference.tripleDhLogin.Rejects Reference.otherIds ∧
    ¬ Reference.kemLogin.Rejects Reference.otherIds ∧
    ¬ Reference.ecdsaLogin.Rejects Reference.otherIds ∧
    ¬ Reference.hashEddsaLogin.Rejects Reference.otherIds ∧
    Reference.pureEddsaLogin.Rejects Reference.otherIds := by
  obtain ⟨hdh, hkem, hecdsa, -, -⟩ := identifier_mismatch_noticed Reference.suite
  obtain ⟨-, -, -, hhash, hpure⟩ := identifier_mismatch_noticed Reference.edwardsSuite
  refine ⟨?_, ?_, ?_, ?_, ?_⟩
  · exact (hdh Reference.tripleDhLogin _ (Reference.otherIds_differ _ rfl).mismatch).mp
  · exact (hkem _ Reference.kemLogin _ (Reference.otherIds_differ _ rfl).mismatch).mp
  · have hiff := hecdsa _ _ _ Reference.ecdsaLogin _ (Reference.otherIds_differ _ rfl).mismatch
    rw [hiff]
    exact Reference.otherIds_short _
  · have hiff := hhash _ _ Reference.hashEddsaLogin _ (Reference.otherIds_differ _ rfl).mismatch
    rw [hiff]
    exact Reference.otherIds_short _
  · have hiff := hpure _ _ Reference.pureEddsaLogin _ (Reference.otherIds_differ _ rfl).mismatch
      Reference.pureEddsaLogin_binds
    rw [hiff]
    exact Reference.otherIds_differ _ rfl

/-- A login with 3DH whose last step is called with the name of somebody else, and
    returns the session key. -/
theorem tripleDh_accepts_mismatch :
    ¬ ∀ (L : LoginRun (TripleDh.keyExchange Reference.suite)) (ids : Identifiers),
      L.Mismatch ids → L.Rejects ids := by
  intro h
  have haccepts : ¬ Reference.tripleDhLogin.Rejects Reference.otherIds := by decide +kernel
  exact haccepts (h _ _ (Reference.otherIds_differ _ rfl).mismatch)

end OpaqueVx
