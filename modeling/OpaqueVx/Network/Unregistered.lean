import OpaqueVx.Network.Agreement
import OpaqueVx.Soundness

/-! # Users without a record

  The server answers a user that it has no record of with a dummy record. Nobody logs in
  with one: in every run, a client that finishes on such an answer, and one that the
  server accepts after it, has derived the dummy key of the server itself, unless the two
  have a collision among their calls. What is asked of the key exchange is what soundness
  asks: that 3DH determines the keys, and that the client of SIGMA-I goes by its key. -/

namespace OpaqueVx

open Lib

variable {CS : CipherSuite} {KE : KeyExchange CS}

/-- The dummy key is a public key of which nobody keeps the secret. -/
theorem dummyPk_of_new {fuel : Nat} {keypair : KeyPair CS.KeGroup (PrivateKey CS.KeGroup)}
    {oprfSeed : OprfSeed CS.OprfHash} {setup : LocalSetup CS} {r r' : Rng}
    (h : (ServerSetup.newWithKeyPairAndSeed fuel keypair oprfSeed).run r = .ok (setup, r')) :
    ∃ sk, setup.dummyPk = CS.KeGroup.publicKey sk := by
  obtain ⟨dummy, r₁, hdummy, h⟩ := run_bind_eq_ok.mp h
  obtain ⟨sk, r₂, -, hdummy⟩ := run_bind_eq_ok.mp hdummy
  simp only [StateT.run_pure, Outcome.pure_eq, Outcome.ok.injEq, Prod.mk.injEq] at h hdummy
  exact ⟨sk, by rw [← h.1, ← hdummy.1]⟩

/-- Without a record the server answers with its dummy key. -/
theorem ServerSession.dummyPk_eq (s : ServerSession KE) (h : s.passwordFile = none) :
    s.upload.clientSPk = s.setup.dummyPk := by
  obtain ⟨dummy, r', hdummy, hupload⟩ := s.dummy_eq
  obtain ⟨upload, r₁, hmade, hdummy⟩ := run_bind_eq_ok.mp hdummy
  obtain ⟨maskingKey, r₂, -, hmade⟩ := run_bind_eq_ok.mp hmade
  simp only [StateT.run_pure, Outcome.pure_eq, Outcome.ok.injEq, Prod.mk.injEq] at hmade hdummy
  rw [hupload, h, Option.getD_none, ← hdummy.1, ← hmade.1]

/-- The client and the server of a login in a run: the client has derived the dummy key,
    or the two have a collision. -/
def DerivesDummy (O : Confirmation KE) (setup : LocalSetup CS) (t : History CS KE)
    (f : ClientClosing KE) (o' : ServerOpening KE) : Prop :=
  ∃ (o : ClientOpening KE) (c : ClientSession KE) (s : ServerSession KE),
    t.clientOpenings[f.login]? = some o ∧ c.Of o f ∧ s.Of setup t o' ∧
      (c.opened.clientStaticKeypair.pk = setup.dummyPk ∨
        ExhibitsCollision CS.KeHash (c.party.calls O) (s.party.calls O))

/-- In every run of a new server: nobody logs in without a record. -/
def RunsReject (O : Confirmation KE) (P : Identifiers → Prop) : Prop :=
  ∀ (fuel : Nat) (keypair : KeyPair CS.KeGroup (PrivateKey CS.KeGroup))
    (oprfSeed : OprfSeed CS.OprfHash) (setup : LocalSetup CS) (r r' : Rng),
    (ServerSetup.newWithKeyPairAndSeed fuel keypair oprfSeed).run r = .ok (setup, r') →
    ∀ calls : List (Call CS KE), let t := runHistory KE setup calls
    ∀ j o', t.serverOpenings[j]? = some o' → o'.record = none → P o'.params.identifiers →
    ∀ f ∈ t.clientClosings, P f.params.identifiers →
    O.serverMac f.response.ke2Message = O.serverMac o'.result.message.ke2Message ∨
      (∃ a ∈ t.serverClosings, a.login = j ∧
        O.clientMac a.message.ke3Message = O.clientMac f.result.message.ke3Message) →
    DerivesDummy O setup t f o'

theorem runsReject {O : Confirmation KE} {P : Identifiers → Prop} (hO : O.Lawful)
    (hcheck : O.Checks) (hbinds : BindsStaticKey O P)
    (hkey : CS.KeGroup.KeyEncoding .roundTrip) : RunsReject O P := by
  intro fuel keypair oprfSeed setup r r' hnew calls t j o' ho' hrecord hPo' f hf hPf hlogin
  obtain ⟨o, c, ho, hc, -⟩ := exists_clientParty hf
  obtain ⟨s, hs, -⟩ := exists_serverParty (List.mem_of_getElem? ho')
  refine ⟨o, c, s, ho, hc, hs, ?_⟩
  have hmac : O.serverMac c.response.ke2Message = O.serverMac s.start.message.ke2Message ∨
      O.clientMac c.result.message.ke3Message = O.expectedMac s.start.state.ke2State := by
    rw [hc.calls, hc.result, hs.start]
    rcases hlogin with hserver | ⟨a, ha, rfl, hclient⟩
    · exact .inl hserver
    · obtain ⟨o₁, ho₁, hexpected, -⟩ := exists_accepted hcheck ha
      obtain rfl : o' = o₁ := Option.some.inj (ho'.symm.trans ho₁)
      exact .inr (hclient.symm.trans hexpected)
  rcases hO.sameHandshake hmac with hsame | hcollision
  · left
    have hsetup : s.setup = setup := congrArg ServerCalls.setup hs.calls
    have hcparams : c.params = f.params := congrArg ClientCalls.params hc.calls
    have hsparams : s.params = o'.params := congrArg ServerCalls.params hs.calls
    have hfile : s.passwordFile = none := by
      rw [hs.calls]
      show o'.passwordFile t = none
      rw [ServerOpening.passwordFile, hrecord, Option.bind_none]
    have hdummy : s.upload.clientSPk = setup.dummyPk := by rw [s.dummyPk_eq hfile, hsetup]
    obtain ⟨sk, hsk⟩ := dummyPk_of_new hnew
    have hpk := hbinds c s hsame (by rw [hcparams]; exact hPf) (by rw [hsparams]; exact hPo')
      ⟨sk, hdummy.trans hsk⟩
    rw [hdummy] at hpk
    exact hkey.serializePk_inj hpk
  · exact .inr hcollision

/-- Runs reject users without a record with 3DH and with 3DH and a KEM, and with SIGMA-I
    where the client goes by its key. -/
theorem runs_reject (CS : CipherSuite) (hkey : CS.KeGroup.KeyEncoding .roundTrip) :
    (∀ [DiffieHellman CS.KeGroup], CS.KeGroup.DhCommutes → CS.KeGroup.DhDetermines →
      RunsReject (TripleDh.confirmation CS) (fun _ => True) ∧
        ∀ K : KemCoreWrapper, RunsReject (TripleDhKem.confirmation CS K) (fun _ => True)) ∧
    (∀ (KE : Group) [DiffieHellman KE] (SIG : SigmaI.SignatureProtocol CS KE),
      RunsReject (SigmaI.confirmation CS KE SIG) (fun ids => ids.client = none)) := by
  refine ⟨?_, ?_⟩
  · intro _ hdh hdet
    refine ⟨?_, ?_⟩
    · exact runsReject TripleDh.confirmation_lawful TripleDh.confirmation_checks
        (TripleDh.bindsClientKey hdh hdet hkey).bindsStaticKey hkey
    · intro K
      exact runsReject TripleDhKem.confirmation_lawful TripleDhKem.confirmation_checks
        (TripleDhKem.bindsClientKey hdh hdet hkey).bindsStaticKey hkey
  · intro KE _ SIG
    exact runsReject SigmaI.confirmation_lawful SigmaI.confirmation_checks SigmaI.bindsStaticKey
      hkey

/-! ### A run -/

/-- The steps of a login without a record are a run. -/
theorem exists_unregisteredRun {setup : LocalSetup CS} {password credentialIdentifier : Bytes}
    {params : ServerLoginParameters} {finishParams : ClientLoginFinishParameters CS}
    {clientStart : ClientLoginStartResult CS KE} {serverStart : ServerLoginStartResult CS KE}
    {clientFinish : ClientLoginFinishResult CS KE} {clientRng serverRng finishRng r₁ r₂ r₃ : Rng}
    (hclientStart : (ClientLogin.start KE password).run clientRng = .ok (clientStart, r₁))
    (hserverStart : (ServerLogin.start setup none clientStart.message credentialIdentifier
      params).run serverRng = .ok (serverStart, r₂))
    (hclientFinish : (clientStart.state.finish password serverStart.message finishParams).run
      finishRng = .ok (clientFinish, r₃)) :
    ∃ calls f o', let t := runHistory KE setup calls
      t.serverOpenings[0]? = some o' ∧ o'.record = none ∧ f ∈ t.clientClosings ∧
        f.response = o'.result.message := by
  let calls : List (Call CS KE) :=
    [.clientLoginStart password clientRng,
      .serverLoginStart none clientStart.message credentialIdentifier params serverRng,
      .clientLoginFinish 0 password serverStart.message finishParams finishRng]
  have hhistory : runHistory KE setup calls = calls.zip
      [.clientLoginStart (.ok (clientStart, r₁)), .serverLoginStart (.ok (serverStart, r₂)),
        .clientLoginFinish (.ok (clientFinish, r₃))] := by
    simp [runHistory, calls, history, Store.step, Store.serverLoginStart, Store.initial, keep,
      hclientStart, hserverStart, hclientFinish]
  refine ⟨calls, ⟨0, password, serverStart.message, finishParams, finishRng, clientFinish⟩,
    ⟨none, clientStart.message, credentialIdentifier, params, serverRng, serverStart⟩, ?_⟩
  rw [hhistory]
  refine ⟨rfl, rfl, ?_, rfl⟩
  simp [calls, History.clientClosings, History.clientClosing]

namespace Reference

/-- A dummy key and a masking key that the user can derive. -/
def dummyRng : Rng := ⟨fun _ => 2, []⟩

def maskingRng : Rng := ⟨fun _ => 138, []⟩

/-- A name of the server under which the MAC of the dummy envelope is zero. -/
def serverName : Identifiers := ⟨none, some [241]⟩

def dummySetup : LocalSetup curveSuite × Rng :=
  ((ServerSetup.newWithKeyPairAndSeed 1 curveUser.setup.keypair (single 9)).run
    dummyRng).toOption.get (by decide +kernel)

def dummyClientStart : ClientLoginStartResult curveSuite (TripleDh.keyExchange curveSuite) × Rng :=
  ((ClientLogin.start _ user.password).run rng).toOption.get (by decide +kernel)

def dummyServerStart : ServerLoginStartResult curveSuite (TripleDh.keyExchange curveSuite) × Rng :=
  ((ServerLogin.start dummySetup.1 none dummyClientStart.1.message user.credentialIdentifier
    ⟨none, serverName⟩).run maskingRng).toOption.get (by decide +kernel)

def dummyClientFinish :
    ClientLoginFinishResult curveSuite (TripleDh.keyExchange curveSuite) × Rng :=
  ((dummyClientStart.1.state.finish user.password dummyServerStart.1.message
    ⟨none, serverName, none⟩).run rng).toOption.get (by decide +kernel)

end Reference

/-- A client that can derive the dummy key finishes a login without a record. -/
theorem runs_reject_reference :
    ∃ (calls : List (Call Reference.curveSuite (TripleDh.keyExchange Reference.curveSuite)))
      (f : ClientClosing (TripleDh.keyExchange Reference.curveSuite))
      (o' : ServerOpening (TripleDh.keyExchange Reference.curveSuite)),
      let t := runHistory _ Reference.dummySetup.1 calls
      f ∈ t.clientClosings ∧ o' ∈ t.serverOpenings ∧ o'.record = none ∧
        DerivesDummy (TripleDh.confirmation Reference.curveSuite) Reference.dummySetup.1 t f
          o' := by
  have hreject := ((runs_reject Reference.curveSuite (EllipticCurve.keyEncoding _)).1
    (EllipticCurve.dhCommutes _) (EllipticCurve.dhDetermines _)).1
  have hnew : (ServerSetup.newWithKeyPairAndSeed 1 Reference.curveUser.setup.keypair
      (Reference.single 9)).run Reference.dummyRng =
        .ok (Reference.dummySetup.1, Reference.dummySetup.2) := by
    rw [Prod.mk.eta]
    exact Outcome.toOption_eq_some.mp (Option.some_get _).symm
  have hclientStart : (ClientLogin.start (TripleDh.keyExchange Reference.curveSuite)
      Reference.user.password).run Reference.rng =
        .ok (Reference.dummyClientStart.1, Reference.dummyClientStart.2) := by
    rw [Prod.mk.eta]
    exact Outcome.toOption_eq_some.mp (Option.some_get _).symm
  have hserverStart : (ServerLogin.start Reference.dummySetup.1 none
      Reference.dummyClientStart.1.message Reference.user.credentialIdentifier
      ⟨none, Reference.serverName⟩).run Reference.maskingRng =
        .ok (Reference.dummyServerStart.1, Reference.dummyServerStart.2) := by
    rw [Prod.mk.eta]
    exact Outcome.toOption_eq_some.mp (Option.some_get _).symm
  have hclientFinish : (Reference.dummyClientStart.1.state.finish Reference.user.password
      Reference.dummyServerStart.1.message ⟨none, Reference.serverName, none⟩).run Reference.rng =
        .ok (Reference.dummyClientFinish.1, Reference.dummyClientFinish.2) := by
    rw [Prod.mk.eta]
    exact Outcome.toOption_eq_some.mp (Option.some_get _).symm
  obtain ⟨calls, f, o', ho', hrecord, hf, hresponse⟩ :=
    exists_unregisteredRun hclientStart hserverStart hclientFinish
  refine ⟨calls, f, o', hf, List.mem_of_getElem? ho', hrecord, ?_⟩
  exact hreject 1 _ _ _ _ _ hnew calls 0 o' ho' hrecord trivial f hf trivial
    (.inl (by rw [hresponse]))

end OpaqueVx
