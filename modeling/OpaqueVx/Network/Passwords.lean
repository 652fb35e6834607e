import OpaqueVx.Network.Agreement
import OpaqueVx.Soundness

/-! # Passwords over an open network

  If the record that the server answers with was registered in the run, the server
  accepts only a client that has the password of the registration: so it is in every run
  of the store, unless registration, client and server have a collision among their
  calls. With 3DH the shared secrets have to determine the keys; with SIGMA-I, where no
  shared secret is made of the client's key, the client has to go by it. -/

namespace OpaqueVx

open Lib

variable {CS : CipherSuite} {KE : KeyExchange CS}

/-! ### Passwords in every run -/

/-- A user has registered in a run, and the upload is the `k`-th record. -/
structure RegisteredIn (setup : LocalSetup CS) (t : History CS KE) (k : Nat) (u : User CS)
    (registered : ClientRegistrationFinishResult CS) : Prop where
  setup : u.setup = setup
  finished : ∃ n o answer rng r', t.registrationOpenings[n]? = some o ∧ o.password = u.password ∧
    (Call.serverRegistrationStart o.result.message u.credentialIdentifier,
      Reply.serverRegistrationStart (.ok answer)) ∈ t ∧
    (Call.clientRegistrationFinish n u.password answer.message
        { identifiers := u.ids, ksf := u.ksf } rng,
      Reply.clientRegistrationFinish (.ok (registered, r'))) ∈ t
  uploaded : t.uploads[k]? = some registered.message

section passwords

variable {setup : LocalSetup CS} {calls : List (Call CS KE)}

/-- Every registration that a client has started was started by the step of the
    client. -/
theorem registrationOpening_start {o : RegistrationOpening CS}
    (h : o ∈ (runHistory KE setup calls).registrationOpenings) :
    ∃ r', (ClientRegistration.start o.password).run o.rng = .ok (o.result, r') := by
  obtain ⟨⟨c, r⟩, hmem, ho⟩ := List.mem_filterMap.mp h
  unfold History.registrationOpening at ho
  split at ho
  · rename_i password rng result r' heq
    injection heq with hc hr
    injection ho with ho
    subst hc hr ho
    obtain ⟨past, s, -, -, hreply⟩ := of_mem_runHistory hmem
    injection hreply with hreply
    exact ⟨r', hreply.symm⟩
  · cases ho

/-- A registration in a run is a registration. -/
theorem RegisteredIn.exists_registration (hoprf : CS.OprfCs.Unblinds) {k : Nat} {u : User CS}
    {registered : ClientRegistrationFinishResult CS}
    (h : RegisteredIn setup (runHistory KE setup calls) k u registered) :
    ∃ R : Registration CS, R.user = u ∧ R.result = registered ∧
      R.record = ServerRegistration.finish registered.message := by
  obtain ⟨n, o, answer, rng, r', ho, hpassword, hanswer, hfinish⟩ := h.finished
  obtain ⟨r₁, hstart⟩ := registrationOpening_start (List.mem_of_getElem? ho)
  rw [hpassword] at hstart
  obtain ⟨o', ho', hfinish⟩ := clientRegistrationFinish_opened hfinish
  obtain rfl : o = o' := Option.some.inj (ho.symm.trans ho')
  obtain ⟨past, s, -, hs, hreply⟩ := of_mem_runHistory hanswer
  injection hreply with hreply
  rw [hs.setup, ← h.setup] at hreply
  have hregister : register u o.rng rng =
      .ok (registered, ServerRegistration.finish registered.message) := by
    simp only [register, hstart, ← hreply, hfinish, Outcome.ok_bind]
    rfl
  obtain ⟨R, hruser, hrresult, hrrecord⟩ := OpaqueVx.exists_registration hoprf hregister
  exact ⟨R, hruser, hrresult, hrrecord⟩

/-- The client and the server of a login are those of a registration. -/
structure SameUser (O : Confirmation KE) (setup : LocalSetup CS) (u : User CS)
    (registered : ClientRegistrationFinishResult CS) (f : ClientClosing KE)
    (o' : ServerOpening KE) : Prop where
  password : f.password = u.password
  credentialIdentifier : o'.credentialIdentifier = u.credentialIdentifier
  serverSPk : f.result.serverSPk = setup.keypair.pk
  exportKey : f.result.exportKey = registered.exportKey
  clientNames :
    f.params.identifiers.effective CS.KeGroup registered.message.clientSPk setup.keypair.pk =
      u.ids.effective CS.KeGroup registered.message.clientSPk setup.keypair.pk
  serverNames :
    o'.params.identifiers.effective CS.KeGroup registered.message.clientSPk setup.keypair.pk =
      u.ids.effective CS.KeGroup registered.message.clientSPk setup.keypair.pk
  context : f.params.context.getD [] = o'.params.context.getD []
  sessionKey : f.result.sessionKey = O.stateKey o'.result.state.ke2State

/-- The registration, the client and the server have a collision among their calls. -/
def LoginCollides (O : Confirmation KE) (setup : LocalSetup CS) (t : History CS KE) (u : User CS)
    (registered : ClientRegistrationFinishResult CS) (o : ClientOpening KE)
    (f : ClientClosing KE) (o' : ServerOpening KE) : Prop :=
  ∃ (R : Registration CS) (c : ClientSession KE) (s : ServerSession KE),
    R.user = u ∧ R.result = registered ∧
    R.record = ServerRegistration.finish registered.message ∧ c.Of o f ∧ s.Of setup t o' ∧
    (ExhibitsCollision CS.KeHash (c.party.calls O) (s.party.calls O) ∨
      ExhibitsPasswordCollision (c.passwordRun s).calls R.passwordRun.calls)

/-- In every run: the server accepts what a client sends, with a record that was
    registered in the run, only if the client has the password of the registration. The
    client is one that is given one password in both of its steps. -/
def RunsSound (O : Confirmation KE) (P : Identifiers → Prop) : Prop :=
  ∀ (setup : LocalSetup CS) (calls : List (Call CS KE)) (k : Nat) (u : User CS)
    (registered : ClientRegistrationFinishResult CS),
    let t := runHistory KE setup calls
    RegisteredIn setup t k u registered →
    ∀ a ∈ t.serverClosings, ∀ o', t.serverOpenings[a.login]? = some o' → o'.record = some k →
    ∀ f ∈ t.clientClosings, ∀ o, t.clientOpenings[f.login]? = some o → f.password = o.password →
    P f.params.identifiers → P o'.params.identifiers →
    O.clientMac a.message.ke3Message = O.clientMac f.result.message.ke3Message →
    (SameUser O setup u registered f o' ∧ a.result.sessionKey = f.result.sessionKey) ∨
      LoginCollides O setup t u registered o f o'

theorem runsSound {O : Confirmation KE} {P : Identifiers → Prop} (hcheck : O.Checks)
    (hoprf : CS.OprfCs.Unblinds)
    (hsound : LoginSound O P) : RunsSound O P := by
  intro setup calls k u registered t hregistered a ha o' ho' hrecord f hf o ho hpassword hPf hPo'
    hmac
  obtain ⟨R, hruser, hrresult, hrrecord⟩ := hregistered.exists_registration hoprf
  obtain ⟨o₁, c, ho₁, hc, -⟩ := exists_clientParty hf
  obtain rfl : o = o₁ := Option.some.inj (ho.symm.trans ho₁)
  obtain ⟨s, hs, -⟩ := exists_serverParty (List.mem_of_getElem? ho')
  obtain ⟨o₂, ho₂, hexpected, hkey⟩ := exists_accepted hcheck ha
  obtain rfl : o' = o₂ := Option.some.inj (ho'.symm.trans ho₂)
  -- The server answers with the record of the registration.
  have hfile : s.passwordFile = some R.record := by
    rw [hs.calls, hrrecord]
    show o'.passwordFile t = _
    rw [ServerOpening.passwordFile, hrecord, Option.bind_some, hregistered.uploaded,
      Option.map_some]
  have hone : c.startPassword = c.password := by
    rw [hc.calls]
    exact hpassword.symm
  have hcparams : c.params = f.params := congrArg ClientCalls.params hc.calls
  have hsparams : s.params = o'.params := congrArg ServerCalls.params hs.calls
  have hmac : O.clientMac c.result.message.ke3Message = O.expectedMac s.start.state.ke2State := by
    rw [hc.result, hs.start, ← hmac, hexpected]
  rcases hsound R c s hfile hone (by rw [hcparams]; exact hPf) (by rw [hsparams]; exact hPo')
    (.inr hmac) with hsame | hcollision
  · left
    have hserverSPk : R.result.serverSPk = setup.keypair.pk := by
      rw [R.serverSPk_eq, hruser, hregistered.setup]
    have hclientSPk : R.record.upload.clientSPk = registered.message.clientSPk := by
      rw [hrrecord]
      rfl
    have hcpassword : c.password = f.password := congrArg ClientCalls.password hc.calls
    have hscredential : s.credentialIdentifier = o'.credentialIdentifier :=
      congrArg ServerCalls.credentialIdentifier hs.calls
    have hids := hsame.identifiers
    rw [hserverSPk, hclientSPk, hcparams, hsparams, hruser] at hids
    have hsessionKey : f.result.sessionKey = O.stateKey o'.result.state.ke2State := by
      rw [← hc.result, ← hs.start]
      exact hsame.sessionKey
    refine ⟨?_, hkey.trans hsessionKey.symm⟩
    exact
      { password := by rw [← hcpassword, hsame.password, hruser]
        credentialIdentifier := by rw [← hscredential, hsame.credentialIdentifier, hruser]
        serverSPk := by rw [← hc.result, hsame.serverSPk.1, hserverSPk]
        exportKey := by rw [← hc.result, hsame.exportKey, hrresult]
        clientNames := hids.1
        serverNames := hids.2
        context := by rw [← hcparams, ← hsparams, hsame.context]
        sessionKey := hsessionKey }
  · right
    exact ⟨R, c, s, hruser, hrresult, hrrecord, hc, hs, hcollision⟩

end passwords

/-- Runs are sound with 3DH and with 3DH and a KEM, and with SIGMA-I where the client
    goes by its key. -/
theorem runs_sound (CS : CipherSuite) (hoprf : CS.OprfCs.Unblinds) (hdec : CS.OprfCs.Decodes)
    (hkey : CS.KeGroup.KeyEncoding .roundTrip) :
    (∀ [DiffieHellman CS.KeGroup], CS.KeGroup.DhCommutes → CS.KeGroup.DhDetermines →
      RunsSound (TripleDh.confirmation CS) (fun _ => True) ∧
        ∀ K : KemCoreWrapper, RunsSound (TripleDhKem.confirmation CS K) (fun _ => True)) ∧
    (∀ (KE : Group) [DiffieHellman KE] (SIG : SigmaI.SignatureProtocol CS KE),
      RunsSound (SigmaI.confirmation CS KE SIG) (fun ids => ids.client = none)) := by
  refine ⟨?_, ?_⟩
  · intro _ hdh hdet
    refine ⟨?_, ?_⟩
    · exact runsSound TripleDh.confirmation_checks hoprf (loginSound TripleDh.confirmation_lawful
        (TripleDh.bindsClientKey hdh hdet hkey).bindsStaticKey hoprf hdec hkey)
    · intro K
      exact runsSound TripleDhKem.confirmation_checks hoprf
        (loginSound TripleDhKem.confirmation_lawful
          (TripleDhKem.bindsClientKey hdh hdet hkey).bindsStaticKey hoprf hdec hkey)
  · intro KE _ SIG
    exact runsSound SigmaI.confirmation_checks hoprf
      (loginSound SigmaI.confirmation_lawful SigmaI.bindsStaticKey hoprf hdec hkey)

/-! ### A run -/

/-- The steps of a registration and of a login with its record are a run, in which the
    server accepts the client. -/
theorem exists_run {u : User CS} {startRng finishRng : Rng}
    {registered : ClientRegistrationFinishResult CS × ServerRegistration CS} {l : LoginInput}
    {results : ClientLoginFinishResult CS KE × ServerLoginFinishResult CS}
    (hregister : register u startRng finishRng = .ok registered)
    (hlogin : login KE u registered.2 l = .ok results) :
    ∃ calls a o' f o, let t := runHistory KE u.setup calls
      RegisteredIn u.setup t 0 u registered.1 ∧ a ∈ t.serverClosings ∧
        t.serverOpenings[a.login]? = some o' ∧ o'.record = some 0 ∧ f ∈ t.clientClosings ∧
        t.clientOpenings[f.login]? = some o ∧ f.password = o.password ∧
        f.params.identifiers = u.ids ∧ o'.params.identifiers = u.ids ∧
        a.message = f.result.message ∧ f.password = u.password ∧
        f.response = o'.result.message ∧ o'.request = o.result.message ∧
        o'.credentialIdentifier = u.credentialIdentifier := by
  obtain ⟨⟨clientStart, r₁⟩, hclientStart, hregister⟩ := Outcome.bind_eq_ok.mp hregister
  obtain ⟨serverStart, hserverStart, hregister⟩ := Outcome.bind_eq_ok.mp hregister
  obtain ⟨⟨clientFinish, r₂⟩, hclientFinish, hregister⟩ := Outcome.bind_eq_ok.mp hregister
  injection hregister with hregister
  subst hregister
  obtain ⟨⟨clientLogin, r₃⟩, hclientLogin, hlogin⟩ := Outcome.bind_eq_ok.mp hlogin
  obtain ⟨⟨serverLogin, r₄⟩, hserverLogin, hlogin⟩ := Outcome.bind_eq_ok.mp hlogin
  obtain ⟨⟨loginFinish, r₅⟩, hloginFinish, hlogin⟩ := Outcome.bind_eq_ok.mp hlogin
  obtain ⟨accepted, haccepted, -⟩ := Outcome.bind_eq_ok.mp hlogin
  -- The calls in the order in which the two functions make them. Each party keeps one state
  -- of a kind, so every position is 0.
  let calls : List (Call CS KE) :=
    [.clientRegistrationStart u.password startRng,
      .serverRegistrationStart clientStart.message u.credentialIdentifier,
      .clientRegistrationFinish 0 u.password serverStart.message ⟨u.ids, u.ksf⟩ finishRng,
      .serverRegistrationFinish clientFinish.message,
      .clientLoginStart u.password l.clientRng,
      .serverLoginStart (some 0) clientLogin.message u.credentialIdentifier ⟨l.context, u.ids⟩
        l.serverRng,
      .clientLoginFinish 0 u.password serverLogin.message ⟨l.context, u.ids, u.ksf⟩ l.finishRng,
      .serverLoginFinish 0 loginFinish.message ⟨l.context, u.ids⟩]
  have hhistory : runHistory KE u.setup calls = calls.zip
      [.clientRegistrationStart (.ok (clientStart, r₁)), .serverRegistrationStart (.ok serverStart),
        .clientRegistrationFinish (.ok (clientFinish, r₂)), .serverRegistrationFinish,
        .clientLoginStart (.ok (clientLogin, r₃)), .serverLoginStart (.ok (serverLogin, r₄)),
        .clientLoginFinish (.ok (loginFinish, r₅)), .serverLoginFinish (.ok accepted)] := by
    simp [runHistory, calls, history, Store.step, Store.serverLoginStart, Store.initial, keep,
      hclientStart, hserverStart, hclientFinish, hclientLogin, hserverLogin, hloginFinish,
      haccepted]
  refine ⟨calls, ⟨0, loginFinish.message, ⟨l.context, u.ids⟩, accepted⟩,
    ⟨some 0, clientLogin.message, u.credentialIdentifier, ⟨l.context, u.ids⟩, l.serverRng,
      serverLogin⟩,
    ⟨0, u.password, serverLogin.message, ⟨l.context, u.ids, u.ksf⟩, l.finishRng, loginFinish⟩,
    ⟨u.password, l.clientRng, clientLogin⟩, ?_⟩
  rw [hhistory]
  refine ⟨⟨rfl, ?_, rfl⟩, ?_, rfl, rfl, ?_, rfl, rfl, rfl, rfl, rfl, rfl, rfl, rfl, rfl⟩
  · refine ⟨0, ⟨u.password, startRng, clientStart⟩, serverStart, finishRng, r₂, rfl, rfl, ?_, ?_⟩
    · simp [calls]
    · simp [calls]
  · simp [calls, History.serverClosings, History.serverClosing]
  · simp [calls, History.clientClosings, History.clientClosing]

/-- The user of the curve of order 7 registers and logs in, in a run. -/
theorem runs_sound_reference :
    ∃ (calls : List (Call Reference.curveSuite (TripleDh.keyExchange Reference.curveSuite)))
      (o : ClientOpening (TripleDh.keyExchange Reference.curveSuite))
      (f : ClientClosing (TripleDh.keyExchange Reference.curveSuite))
      (o' : ServerOpening (TripleDh.keyExchange Reference.curveSuite)),
      let t := runHistory _ Reference.curveUser.setup calls
      f ∈ t.clientClosings ∧ o' ∈ t.serverOpenings ∧
        (SameUser (TripleDh.confirmation Reference.curveSuite) Reference.curveUser.setup
            Reference.curveUser Reference.curveRegistered.1 f o' ∨
          LoginCollides (TripleDh.confirmation Reference.curveSuite) Reference.curveUser.setup t
            Reference.curveUser Reference.curveRegistered.1 o f o') := by
  have hoprf : Reference.curveSuite.OprfCs.Unblinds := Reference.voprf_unblinds
  have hsound := ((runs_sound Reference.curveSuite hoprf Reference.voprf_encoding.decodes
    (EllipticCurve.keyEncoding _)).1 (EllipticCurve.dhCommutes _) (EllipticCurve.dhDetermines _)).1
  obtain ⟨calls, a, o', f, o, hregistered, ha, ho', hrecord, hf, ho, hpassword, -, -, hmessage,
    -⟩ := exists_run Reference.register_curveUser Reference.login_curveUser
  have hsame := hsound _ calls 0 _ _ hregistered a ha o' ho' hrecord f hf o ho hpassword trivial
    trivial (by rw [hmessage])
  exact ⟨calls, o, f, o', hf, List.mem_of_getElem? ho', hsame.imp_left And.left⟩

end OpaqueVx
