import OpaqueVx.Completeness
import OpaqueVx.HonestLogins
import OpaqueVx.Network.Passwords

/-! # Completeness over an open network

  A login that client and server have opened honestly can be finished from every state
  that the store reaches: no calls in between, by whomever and with whatever, keep the
  client from finishing and the server from accepting. -/

namespace OpaqueVx

open Lib

variable {CS : CipherSuite} {KE : KeyExchange CS}

/-- What the store is after a sequence of calls. -/
def storeAfter (KE : KeyExchange CS) (setup : LocalSetup CS) (calls : List (Call CS KE)) :
    Store CS KE :=
  after Store.step (Store.initial KE setup) calls

section states

variable {setup : LocalSetup CS}

theorem storeAfter_logged (calls : List (Call CS KE)) :
    (storeAfter KE setup calls).Logged setup (runHistory KE setup calls) :=
  history_invariant (fun past s c hs => Store.Logged.step (t := past) (s := s) hs c)
    (Store.initial_logged setup) calls

/-- What has been opened stays open. -/
theorem runHistory_extends (calls more : List (Call CS KE)) :
    runHistory KE setup calls <+: runHistory KE setup (calls ++ more) := by
  rw [runHistory, runHistory, history_append]
  exact List.prefix_append _ _

/-- The client's last step, in a login that was opened. -/
theorem step_clientLoginFinish {calls : List (Call CS KE)} {i : Nat} {o : ClientOpening KE}
    (h : (runHistory KE setup calls).clientOpenings[i]? = some o) (password : Bytes)
    (response : CredentialResponse CS KE) (params : ClientLoginFinishParameters CS) (rng : Rng) :
    (storeAfter KE setup calls).step (.clientLoginFinish i password response params rng) =
      (storeAfter KE setup calls,
        .clientLoginFinish ((o.result.state.finish password response params).run rng)) := by
  have hstate : (storeAfter KE setup calls).clientLogins[i]? = some o.result.state := by
    rw [(storeAfter_logged calls).clientLogins, List.getElem?_map, h]
    rfl
  simp only [Store.step, hstate]

/-- The server's. -/
theorem step_serverLoginFinish {calls : List (Call CS KE)} {j : Nat} {o : ServerOpening KE}
    (h : (runHistory KE setup calls).serverOpenings[j]? = some o)
    (message : CredentialFinalization CS KE) (params : ServerLoginParameters) :
    (storeAfter KE setup calls).step (.serverLoginFinish j message params) =
      (storeAfter KE setup calls, .serverLoginFinish (o.result.state.finish message params)) := by
  have hstate : (storeAfter KE setup calls).serverLogins[j]? = some o.result.state := by
    rw [(storeAfter_logged calls).serverLogins, List.getElem?_map, h]
    rfl
  simp only [Store.step, hstate]

end states

/-! ### Logins that are open -/

/-- A user that has registered has started a login, and the server has answered it with
    the record, without reflecting the client's element. -/
structure OpenLogin (setup : LocalSetup CS) (t : History CS KE) (k : Nat) (u : User CS)
    (registered : ClientRegistrationFinishResult CS) (i : Nat) (o : ClientOpening KE) (j : Nat)
    (o' : ServerOpening KE) : Prop where
  registeredIn : RegisteredIn setup t k u registered
  client : t.clientOpenings[i]? = some o
  password : o.password = u.password
  server : t.serverOpenings[j]? = some o'
  record : o'.record = some k
  request : o'.request = o.result.message
  credentialIdentifier : o'.credentialIdentifier = u.credentialIdentifier
  identifiers : o'.params.identifiers = u.ids
  not_reflected : o.result.message.blindedElement ≠ o'.result.message.evaluationElement

/-- From every state: a login that is open is finished by the client's next step, with
    the keys of the registration, and by the server's at any time after that, with the
    same session key. -/
def RunsComplete (KE : KeyExchange CS) : Prop :=
  ∀ (setup : LocalSetup CS), setup.keypair.pk = CS.KeGroup.publicKey setup.keypair.sk →
  ∀ (calls : List (Call CS KE)) (k : Nat) (u : User CS)
    (registered : ClientRegistrationFinishResult CS) (i : Nat) (o : ClientOpening KE) (j : Nat)
    (o' : ServerOpening KE),
    OpenLogin setup (runHistory KE setup calls) k u registered i o j o' →
    ∀ rng, ∃ result r',
      ((storeAfter KE setup calls).step (.clientLoginFinish i u.password o'.result.message
        { context := o'.params.context, identifiers := u.ids, ksf := u.ksf } rng)).2 =
          .clientLoginFinish (.ok (result, r')) ∧
      result.exportKey = registered.exportKey ∧ result.serverSPk = setup.keypair.pk ∧
      ∀ more, ((storeAfter KE setup (calls ++ more)).step
        (.serverLoginFinish j result.message o'.params)).2 =
          .serverLoginFinish (.ok { sessionKey := result.sessionKey })

/-- The client's and the server's first steps are those of an honest login. -/
theorem OpenLogin.exists_honestLogin {setup : LocalSetup CS} {calls : List (Call CS KE)} {k : Nat}
    {u : User CS} {registered : ClientRegistrationFinishResult CS} {i j : Nat}
    {o : ClientOpening KE} {o' : ServerOpening KE} (hoprf : CS.OprfCs.Unblinds)
    (hpair : setup.keypair.pk = CS.KeGroup.publicKey setup.keypair.sk)
    (h : OpenLogin setup (runHistory KE setup calls) k u registered i o j o') :
    ∃ (R : Registration CS) (s : ServerSession KE), R.user = u ∧ R.result = registered ∧
      s.Of setup (runHistory KE setup calls) o' ∧ HonestLogin R s o.result := by
  obtain ⟨R, hruser, hrresult, hrrecord⟩ := h.registeredIn.exists_registration hoprf
  obtain ⟨r', hstart⟩ := clientOpening_start (List.mem_of_getElem? h.client)
  obtain ⟨s, hs, -⟩ := exists_serverParty (List.mem_of_getElem? h.server)
  have hsetup : s.setup = setup := congrArg ServerCalls.setup hs.calls
  have hrequest : s.request = o'.request := congrArg ServerCalls.request hs.calls
  have hcredential : s.credentialIdentifier = o'.credentialIdentifier :=
    congrArg ServerCalls.credentialIdentifier hs.calls
  have hparams : s.params = o'.params := congrArg ServerCalls.params hs.calls
  refine ⟨R, s, hruser, hrresult, hs, ?_⟩
  exact
    { started := by
        rw [hruser, ← h.password]
        exact ⟨o.rng, r', hstart⟩
      setup := by rw [hsetup, hruser, h.registeredIn.setup]
      keypair := by
        rw [hsetup]
        exact hpair
      passwordFile := by
        rw [hs.calls, hrrecord]
        show o'.passwordFile (runHistory KE setup calls) = _
        rw [ServerOpening.passwordFile, h.record, Option.bind_some, h.registeredIn.uploaded,
          Option.map_some]
      request := by rw [hrequest, h.request]
      credentialIdentifier := by rw [hcredential, hruser, h.credentialIdentifier]
      identifiers := by rw [hparams, hruser, h.identifiers]
      not_reflected := by
        rw [hs.start]
        exact h.not_reflected }

theorem KeyExchange.CompletesLocally.runsComplete (hKE : KE.CompletesLocally)
    (hoprf : CS.OprfCs.Unblinds) (hkey : CS.KeGroup.KeyEncoding .roundTrip) : RunsComplete KE := by
  intro setup hpair calls k u registered i o j o' h rng
  obtain ⟨R, s, hruser, hrresult, hs, hlogin⟩ := h.exists_honestLogin hoprf hpair
  obtain ⟨result, r', hfinish, hserver, hexport, hserverSPk⟩ :=
    hlogin.completes hKE hoprf (hkey.pk _) rng
  have hparams : s.params = o'.params := congrArg ServerCalls.params hs.calls
  rw [hparams, hs.start, hruser] at hfinish
  rw [hparams, hs.start] at hserver
  refine ⟨result, r', ?_, ?_, ?_, ?_⟩
  · rw [step_clientLoginFinish h.client, hfinish]
  · rw [hexport, hrresult]
  · rw [hserverSPk, R.serverSPk_eq, hruser, h.registeredIn.setup]
  · intro more
    have hopen := getElem?_filterMap_of_extends (runHistory_extends calls more) h.server
    rw [step_serverLoginFinish hopen, hserver]

/-- Runs complete with 3DH, with 3DH and a KEM, and with SIGMA-I and each of the
    signature protocols. -/
theorem runs_complete :
    (∀ (CS : CipherSuite), CS.OprfCs.Unblinds → CS.KeGroup.KeyEncoding .roundTrip →
      (∀ [DiffieHellman CS.KeGroup], CS.KeGroup.DhCommutes →
        RunsComplete (TripleDh.keyExchange CS) ∧
        ∀ K : MlKem, K.Correct → RunsComplete (TripleDhKem.keyExchange CS K.core)) ∧
      ∀ (KE : Group) [DiffieHellman KE] (C : SigmaI.EcdsaCurve CS.KeGroup) (H : Hash),
        KE.DhCommutes → C.Verifies →
        RunsComplete (SigmaI.keyExchange CS KE (SigmaI.Ecdsa.protocol C H))) ∧
    ∀ (E : Curve25519Dalek.EdwardsCurve) (V : Voprf) (H : Hash) (F : Ksf) (KE : Group)
      [DiffieHellman KE], V.Unblinds → KE.DhCommutes →
      RunsComplete (SigmaI.keyExchange (Ed25519.suite E V H F) KE
        (SigmaI.PureEddsa.protocol (Ed25519.pureEddsa E V H F KE))) ∧
      RunsComplete (SigmaI.keyExchange (Ed25519.suite E V H F) KE
        (SigmaI.HashEddsa.protocol (Ed25519.hashEddsa E V H F KE))) := by
  refine ⟨?_, ?_⟩
  · intro CS hoprf hkey
    refine ⟨?_, ?_⟩
    · intro _ hdh
      refine ⟨(TripleDh.completesLocally hdh).runsComplete hoprf hkey, ?_⟩
      intro K hK
      exact (TripleDhKem.completesLocally hdh hK.core).runsComplete hoprf hkey
    · intro KE _ C H hdh hC
      exact (SigmaI.completesLocally (SigmaI.Ecdsa.spec hC H) hdh).runsComplete hoprf hkey
  · intro E V H F KE _ hoprf hdh
    have hkey : (Ed25519.suite E V H F).KeGroup.KeyEncoding .roundTrip :=
      .of_lawful (Ed25519.keyEncoding E)
    refine ⟨?_, ?_⟩
    · exact (SigmaI.completesLocally (Ed25519.pureEddsaSpec E V H F KE) hdh).runsComplete hoprf hkey
    · exact (SigmaI.completesLocally (Ed25519.hashEddsaSpec E V H F KE) hdh).runsComplete hoprf hkey

/-- The user of the curve of order 7 has opened a login. -/
theorem Reference.exists_openLogin :
    ∃ (calls : List (Call curveSuite (TripleDh.keyExchange curveSuite))) (i : Nat)
      (o : ClientOpening (TripleDh.keyExchange curveSuite)) (j : Nat)
      (o' : ServerOpening (TripleDh.keyExchange curveSuite)),
      OpenLogin curveUser.setup (runHistory _ curveUser.setup calls) 0 curveUser
        curveRegistered.1 i o j o' := by
  obtain ⟨calls, a, o', f, o, hregistered, -, ho', hrecord, hf, ho, hone, -, hids, -, hpassword,
    hresponse, hrequest, hcredential⟩ := exists_run register_curveUser login_curveUser
  refine ⟨calls, f.login, o, a.login, o', ?_⟩
  -- The client has finished, so nothing was reflected.
  obtain ⟨o₁, ho₁, r', hfinish⟩ := clientClosing_finish hf
  obtain rfl : o = o₁ := Option.some.inj (ho.symm.trans ho₁)
  obtain ⟨r₁, hstart⟩ := clientOpening_start (List.mem_of_getElem? ho)
  obtain ⟨c, hcalls, hcstart, -⟩ := exists_clientSession (f.calls o) hstart hfinish
  obtain ⟨hreflected, -⟩ := ClientLogin.run_finish_eq_ok.mp hfinish
  have hkept : o.result.state.credentialRequest = o.result.message := by
    rw [← hcstart]
    exact c.request_eq
  rw [hkept, hresponse] at hreflected
  exact
    { registeredIn := hregistered
      client := ho
      password := hone.symm.trans hpassword
      server := ho'
      record := hrecord
      request := hrequest
      credentialIdentifier := hcredential
      identifiers := hids
      not_reflected := hreflected }

/-- The login is finished. -/
theorem runs_complete_reference :
    ∃ (calls : List (Call Reference.curveSuite (TripleDh.keyExchange Reference.curveSuite)))
      (i j : Nat) (response : CredentialResponse Reference.curveSuite _)
      (params : ClientLoginFinishParameters Reference.curveSuite)
      (result : ClientLoginFinishResult Reference.curveSuite _) (r' : Rng),
      ((storeAfter _ Reference.curveUser.setup calls).step
        (.clientLoginFinish i Reference.curveUser.password response params Reference.rng)).2 =
          .clientLoginFinish (.ok (result, r')) ∧
      result.exportKey = Reference.curveRegistered.1.exportKey ∧
      ∃ finish, ((storeAfter _ Reference.curveUser.setup calls).step
        (.serverLoginFinish j result.message finish)).2 =
          .serverLoginFinish (.ok { sessionKey := result.sessionKey }) := by
  obtain ⟨calls, i, o, j, o', hopen⟩ := Reference.exists_openLogin
  have hcomplete := ((runs_complete.1 Reference.curveSuite Reference.voprf_unblinds
    (EllipticCurve.keyEncoding _)).1 (EllipticCurve.dhCommutes _)).1
  obtain ⟨result, r', hfinish, hexport, -, hserver⟩ := hcomplete Reference.curveUser.setup rfl calls
    0 Reference.curveUser Reference.curveRegistered.1 i o j o' hopen Reference.rng
  have hlater := hserver []
  rw [List.append_nil] at hlater
  exact ⟨calls, i, j, _, _, result, r', hfinish, hexport, _, hlater⟩

end OpaqueVx
