import OpaqueVx.Identifiers
import OpaqueVx.Network.Histories

/-! # Agreement over an open network

  A login that a party takes for confirmed by a MAC of the other party is confirmed in
  one session with one key, once, and by nobody but the other party: so it is in every
  run of the store, in whatever order the calls come and whatever they are given, unless
  two parties of the run have a collision among their calls. -/

namespace OpaqueVx

open Lib
open SigmaI (Role)

variable {CS : CipherSuite} {KE : KeyExchange CS}

/-! ### The parties of a run -/

/-- The calls of a client that starts a login and finishes it. -/
def ClientClosing.calls (f : ClientClosing KE) (o : ClientOpening KE) : ClientCalls KE where
  startPassword := o.password
  startRng := o.rng
  password := f.password
  response := f.response
  params := f.params
  finishRng := f.rng

/-- The call of the server that answers a login. -/
def ServerOpening.call (setup : LocalSetup CS) (t : History CS KE) (o : ServerOpening KE) :
    ServerCalls KE where
  setup := setup
  passwordFile := o.passwordFile t
  request := o.request
  credentialIdentifier := o.credentialIdentifier
  params := o.params
  rng := o.rng

/-- The session is the one of a client in a run. -/
structure ClientSession.Of (c : ClientSession KE) (o : ClientOpening KE) (f : ClientClosing KE) :
    Prop where
  calls : c.toClientCalls = f.calls o
  start : c.start = o.result
  result : c.result = f.result

/-- The session is the one of the server in a run. -/
structure ServerSession.Of (s : ServerSession KE) (setup : LocalSetup CS) (t : History CS KE)
    (o : ServerOpening KE) : Prop where
  calls : s.toServerCalls = o.call setup t
  start : s.start = o.result

/-- The party takes part in a run. -/
def PartyRun.TakesPart (p : PartyRun KE) (setup : LocalSetup CS) (t : History CS KE) : Prop :=
  (∃ f ∈ t.clientClosings, ∃ o, t.clientOpenings[f.login]? = some o ∧
    ∃ c : ClientSession KE, c.Of o f ∧ p = c.party) ∨
  ∃ o ∈ t.serverOpenings, ∃ s : ServerSession KE, s.Of setup t o ∧ p = s.party

section parties

variable {setup : LocalSetup CS} {calls : List (Call CS KE)}

/-- Every client that finishes a login is a party of the run. -/
theorem exists_clientParty {f : ClientClosing KE}
    (h : f ∈ (runHistory KE setup calls).clientClosings) :
    ∃ (o : ClientOpening KE) (c : ClientSession KE),
      (runHistory KE setup calls).clientOpenings[f.login]? = some o ∧ c.Of o f ∧
        c.party.TakesPart setup (runHistory KE setup calls) := by
  obtain ⟨o, ho, r', hfinish⟩ := clientClosing_finish h
  obtain ⟨r₁, hstart⟩ := clientOpening_start (List.mem_of_getElem? ho)
  obtain ⟨c, hcalls, hcstart, hcresult⟩ := exists_clientSession (f.calls o) hstart hfinish
  have hc : c.Of o f := ⟨hcalls, hcstart, hcresult⟩
  exact ⟨o, c, ho, hc, .inl ⟨f, h, o, ho, c, hc, rfl⟩⟩

/-- So is the server in every login that it has answered. -/
theorem exists_serverParty {o : ServerOpening KE}
    (h : o ∈ (runHistory KE setup calls).serverOpenings) :
    ∃ s : ServerSession KE, s.Of setup (runHistory KE setup calls) o ∧
      s.party.TakesPart setup (runHistory KE setup calls) := by
  obtain ⟨r', hstart⟩ := serverOpening_start h
  obtain ⟨s, hcalls, hsstart⟩ :=
    exists_serverSession (o.call setup (runHistory KE setup calls)) hstart
  have hs : s.Of setup (runHistory KE setup calls) o := ⟨hcalls, hsstart⟩
  exact ⟨s, hs, .inr ⟨o, h, s, hs, rfl⟩⟩

end parties

section macs

variable {O : Confirmation KE} {c : ClientSession KE} {s : ServerSession KE}

theorem ClientSession.mac_server : c.party.mac O .server = O.serverMac c.response.ke2Message := rfl

theorem ClientSession.mac_client :
    c.party.mac O .client = O.clientMac c.result.message.ke3Message := by
  rw [c.result_eq.1]
  rfl

theorem ClientSession.party_sessionKey : c.party.sessionKey O = c.result.sessionKey :=
  c.result_eq.2.1.symm

theorem ServerSession.mac_server :
    s.party.mac O .server = O.serverMac s.start.message.ke2Message := by
  rw [s.message_eq]
  rfl

theorem ServerSession.mac_client :
    s.party.mac O .client = O.expectedMac s.start.state.ke2State := by
  rw [s.state_eq]
  rfl

theorem ServerSession.party_sessionKey :
    s.party.sessionKey O = O.stateKey s.start.state.ke2State := by
  rw [s.state_eq]
  rfl

end macs

/-! ### Agreement in every run -/

/-- A client that finishes a login and the server that answers it have one session. -/
structure SameSession (O : Confirmation KE) (setup : LocalSetup CS) (t : History CS KE)
    (o : ClientOpening KE) (f : ClientClosing KE) (o' : ServerOpening KE) : Prop where
  request : o.result.message.toParts = o'.request.toParts
  response : f.response.toParts = o'.result.message.toParts
  context : f.params.context.getD [] = o'.params.context.getD []
  serverMac : O.serverMac f.response.ke2Message = O.serverMac o'.result.message.ke2Message
  clientMac : O.clientMac f.result.message.ke3Message = O.expectedMac o'.result.state.ke2State
  sessionKey : f.result.sessionKey = O.stateKey o'.result.state.ke2State
  handshake : ∃ (c : ClientSession KE) (s : ServerSession KE), c.Of o f ∧ s.Of setup t o' ∧
    SameHandshake O c.party s.party

/-- Two parties of a run have a collision among their calls. -/
def RunCollides (O : Confirmation KE) (setup : LocalSetup CS) (t : History CS KE) : Prop :=
  ∃ p q : PartyRun KE, p.TakesPart setup t ∧ q.TakesPart setup t ∧
    ExhibitsCollision CS.KeHash (p.calls O) (q.calls O)

/-- What the parties of a run can rely on, wherever their messages come from. -/
structure Agreement (O : Confirmation KE) (setup : LocalSetup CS) (t : History CS KE) : Prop where
  /-- The server accepts what a client sends only in the client's session. -/
  accepted : ∀ a ∈ t.serverClosings, ∀ f ∈ t.clientClosings,
    O.clientMac a.message.ke3Message = O.clientMac f.result.message.ke3Message →
    ∃ o o', t.clientOpenings[f.login]? = some o ∧ t.serverOpenings[a.login]? = some o' ∧
      SameSession O setup t o f o' ∧ a.result.sessionKey = f.result.sessionKey
  /-- A client finishes with what the server answers only in the server's session. -/
  finished : ∀ f ∈ t.clientClosings, ∀ o' ∈ t.serverOpenings,
    O.serverMac f.response.ke2Message = O.serverMac o'.result.message.ke2Message →
    ∃ o, t.clientOpenings[f.login]? = some o ∧ SameSession O setup t o f o'
  /-- The server does not accept a MAC of its own. -/
  server_not_reflected : ∀ a ∈ t.serverClosings, ∀ o' ∈ t.serverOpenings,
    O.clientMac a.message.ke3Message ≠ O.serverMac o'.result.message.ke2Message
  /-- A client does not finish with a MAC of a client. -/
  client_not_reflected : ∀ f ∈ t.clientClosings, ∀ f' ∈ t.clientClosings,
    O.serverMac f.response.ke2Message ≠ O.clientMac f'.result.message.ke3Message
  /-- What the server accepts in one login it does not accept in another, if its masking
      nonces are fresh. -/
  accepted_once : (t.serverOpenings.map fun o => o.result.message.maskingNonce).Nodup →
    ∀ a ∈ t.serverClosings, ∀ a' ∈ t.serverClosings,
      O.clientMac a.message.ke3Message = O.clientMac a'.message.ke3Message → a.login = a'.login
  /-- What finishes one login of a client does not finish another, if the blinded
      elements are fresh. -/
  finished_once : (t.clientOpenings.map fun o => o.result.message.toParts).Nodup →
    ∀ f ∈ t.clientClosings, ∀ f' ∈ t.clientClosings,
      O.serverMac f.response.ke2Message = O.serverMac f'.response.ke2Message → f.login = f'.login

/-- The last step of the server checks the MAC and returns the key that its state has. -/
def Confirmation.Checks (O : Confirmation KE) : Prop :=
  ∀ {state message ids context key}, KE.finishKe state message ids context = .ok key →
    O.clientMac message = O.expectedMac state ∧ key = O.stateKey state

section agreement

variable {O : Confirmation KE} {setup : LocalSetup CS} {calls : List (Call CS KE)}

/-- The server accepts only what its state expects. -/
theorem exists_accepted (hcheck : O.Checks) {a : ServerClosing KE}
    (h : a ∈ (runHistory KE setup calls).serverClosings) :
    ∃ o, (runHistory KE setup calls).serverOpenings[a.login]? = some o ∧
      O.clientMac a.message.ke3Message = O.expectedMac o.result.state.ke2State ∧
      a.result.sessionKey = O.stateKey o.result.state.ke2State := by
  obtain ⟨o, ho, hfinish⟩ := serverClosing_finish h
  obtain ⟨context, -, hfinish⟩ := Outcome.bind_eq_ok.mp hfinish
  obtain ⟨sessionKey, hkey, hresult⟩ := Outcome.bind_eq_ok.mp hfinish
  injection hresult with hresult
  obtain ⟨hmac, hstate⟩ := hcheck hkey
  refine ⟨o, ho, hmac, ?_⟩
  rw [← hresult]
  exact hstate

/-- A client and the server in one handshake have one session. -/
theorem SameHandshake.sameSession (hO : O.Lawful) {t : History CS KE} {o : ClientOpening KE}
    {f : ClientClosing KE} {o' : ServerOpening KE} {c : ClientSession KE} {s : ServerSession KE}
    (h : SameHandshake O c.party s.party) (hc : c.Of o f) (hs : s.Of setup t o') :
    SameSession O setup t o f o' := by
  obtain ⟨hrequest, hresponse, -, -, hcontext⟩ := hO.parts_agree h.session
  have hrequest : c.start.message.toParts = s.run.credentialRequest := hrequest
  have hresponse : c.response.toParts = s.run.credentialResponse := hresponse
  have hcontext : c.context.context = s.run.context.context := hcontext
  have hserver := h.mac .server
  have hclient := h.mac .client
  have hkey := h.sessionKey
  rw [c.mac_server, s.mac_server] at hserver
  rw [c.mac_client, s.mac_client] at hclient
  rw [c.party_sessionKey, s.party_sessionKey] at hkey
  rw [← SerializedContext.fromContext_eq_ok.mp c.context_eq,
    ← SerializedContext.fromContext_eq_ok.mp s.context_eq] at hcontext
  rw [s.request_eq.1] at hrequest
  rw [s.response_eq] at hresponse
  rw [hc.calls, hs.calls] at hcontext
  rw [hc.start, hs.calls] at hrequest
  rw [hc.calls, hs.start] at hresponse hserver
  rw [hc.result, hs.start] at hclient hkey
  exact
    { request := hrequest
      response := hresponse
      context := hcontext
      serverMac := hserver
      clientMac := hclient
      sessionKey := hkey
      handshake := ⟨c, s, hc, hs, h⟩ }

/-- Two positions of a list with one image under a map that has no image twice. -/
theorem eq_of_nodup_map {α β : Type} {f : α → β} {xs : List α} (hnodup : (xs.map f).Nodup)
    {i j : Nat} {x y : α} (hi : xs[i]? = some x) (hj : xs[j]? = some y) (h : f x = f y) :
    i = j := by
  obtain ⟨hilt, rfl⟩ := List.getElem?_eq_some_iff.mp hi
  obtain ⟨hjlt, rfl⟩ := List.getElem?_eq_some_iff.mp hj
  have hinj := List.nodup_iff_injective_getElem.mp hnodup
  have hfin : (⟨i, by simpa using hilt⟩ : Fin (xs.map f).length) = ⟨j, by simpa using hjlt⟩ := by
    apply hinj
    simpa using h
  exact congrArg Fin.val hfin

/-- Without a collision, parties of a run with a MAC in common are in one handshake. -/
theorem Confirmation.Lawful.agreement (hO : O.Lawful) (hcheck : O.Checks)
    (hno : ¬ RunCollides O setup (runHistory KE setup calls)) :
    Agreement O setup (runHistory KE setup calls) := by
  have hmacs : ∀ p q : PartyRun KE, p.TakesPart setup (runHistory KE setup calls) →
      q.TakesPart setup (runHistory KE setup calls) → ∀ role role',
      p.mac O role = q.mac O role' → role = role' ∧ SameHandshake O p q := by
    intro p q hp hq role role' hmac
    rcases hO.macsConfirm p q role role' hmac with hsame | hcollision
    · exact hsame
    · exact absurd ⟨p, q, hp, hq, hcollision⟩ hno
  refine ⟨?_, ?_, ?_, ?_, ?_, ?_⟩
  · intro a ha f hf hmac
    obtain ⟨o', ho', hexpected, hkey⟩ := exists_accepted hcheck ha
    obtain ⟨o, c, ho, hc, hcparty⟩ := exists_clientParty hf
    obtain ⟨s, hs, hsparty⟩ := exists_serverParty (List.mem_of_getElem? ho')
    obtain ⟨-, hsame⟩ := hmacs _ _ hcparty hsparty .client .client (by
      rw [c.mac_client, s.mac_client, hc.result, hs.start, ← hmac, hexpected])
    have hsession := hsame.sameSession hO hc hs
    exact ⟨o, o', ho, ho', hsession, hkey.trans hsession.sessionKey.symm⟩
  · intro f hf o' ho' hmac
    obtain ⟨o, c, ho, hc, hcparty⟩ := exists_clientParty hf
    obtain ⟨s, hs, hsparty⟩ := exists_serverParty ho'
    obtain ⟨-, hsame⟩ := hmacs _ _ hcparty hsparty .server .server (by
      rw [c.mac_server, s.mac_server, hc.calls, hs.start]
      exact hmac)
    exact ⟨o, ho, hsame.sameSession hO hc hs⟩
  · intro a ha o' ho' hmac
    obtain ⟨o, ho, hexpected, -⟩ := exists_accepted hcheck ha
    obtain ⟨s, hs, hsparty⟩ := exists_serverParty (List.mem_of_getElem? ho)
    obtain ⟨s', hs', hsparty'⟩ := exists_serverParty ho'
    obtain ⟨hrole, -⟩ := hmacs _ _ hsparty hsparty' .client .server (by
      rw [s.mac_client, s'.mac_server, hs.start, hs'.start, ← hexpected, hmac])
    cases hrole
  · intro f hf f' hf' hmac
    obtain ⟨o, c, -, hc, hcparty⟩ := exists_clientParty hf
    obtain ⟨o', c', -, hc', hcparty'⟩ := exists_clientParty hf'
    obtain ⟨hrole, -⟩ := hmacs _ _ hcparty hcparty' .server .client (by
      rw [c.mac_server, c'.mac_client, hc.calls, hc'.result]
      exact hmac)
    cases hrole
  · intro hnodup a ha a' ha' hmac
    obtain ⟨o, ho, hexpected, -⟩ := exists_accepted hcheck ha
    obtain ⟨o', ho', hexpected', -⟩ := exists_accepted hcheck ha'
    obtain ⟨s, hs, hsparty⟩ := exists_serverParty (List.mem_of_getElem? ho)
    obtain ⟨s', hs', hsparty'⟩ := exists_serverParty (List.mem_of_getElem? ho')
    obtain ⟨-, hsame⟩ := hmacs _ _ hsparty hsparty' .client .client (by
      rw [s.mac_client, s'.mac_client, hs.start, hs'.start, ← hexpected, ← hexpected', hmac])
    -- The masking nonce is in the transcript.
    obtain ⟨-, hresponse, -⟩ := hO.parts_agree hsame.session
    have hresponse : s.run.credentialResponse = s'.run.credentialResponse := hresponse
    rw [s.response_eq, s'.response_eq, hs.start, hs'.start] at hresponse
    exact eq_of_nodup_map hnodup ho ho'
      (congrArg SerializedCredentialResponse.maskingNonce hresponse)
  · intro hnodup f hf f' hf' hmac
    obtain ⟨o, c, ho, hc, hcparty⟩ := exists_clientParty hf
    obtain ⟨o', c', ho', hc', hcparty'⟩ := exists_clientParty hf'
    obtain ⟨-, hsame⟩ := hmacs _ _ hcparty hcparty' .server .server (by
      rw [c.mac_server, c'.mac_server, hc.calls, hc'.calls]
      exact hmac)
    -- So is the blinded element.
    obtain ⟨hrequest, -⟩ := hO.parts_agree hsame.session
    have hrequest : c.start.message.toParts = c'.start.message.toParts := hrequest
    rw [hc.start, hc'.start] at hrequest
    exact eq_of_nodup_map hnodup ho ho' hrequest

end agreement

/-! ### The key exchanges -/

theorem TripleDh.confirmation_checks [DiffieHellman CS.KeGroup] : (confirmation CS).Checks := by
  intro state message ids context key h
  obtain ⟨hmac, hkey⟩ := (finishKe_eq_ok ids context).mp h
  exact ⟨hmac.symm, hkey⟩

theorem TripleDhKem.confirmation_checks [DiffieHellman CS.KeGroup] {K : KemCoreWrapper} :
    (confirmation CS K).Checks := by
  intro state message ids context key h
  obtain ⟨hmac, hkey⟩ := (finishKe_eq_ok ids context).mp h
  exact ⟨hmac.symm, hkey⟩

theorem SigmaI.confirmation_checks {KE : Group} [DiffieHellman KE]
    {SIG : SignatureProtocol CS KE} : (confirmation CS KE SIG).Checks := by
  intro state message ids context key h
  obtain ⟨identifier, -, -, hmac, hkey⟩ := finishKe_eq_ok.mp h
  exact ⟨hmac.symm, hkey⟩

/-- Every run of logins agrees, or its parties have a collision. -/
def RunsAgree (O : Confirmation KE) : Prop :=
  ∀ (setup : LocalSetup CS) (calls : List (Call CS KE)),
    Agreement O setup (runHistory KE setup calls) ∨ RunCollides O setup (runHistory KE setup calls)

theorem Confirmation.Lawful.runsAgree {O : Confirmation KE} (hO : O.Lawful) (hcheck : O.Checks) :
    RunsAgree O := by
  intro setup calls
  by_cases hno : RunCollides O setup (runHistory KE setup calls)
  · exact .inr hno
  · exact .inl (hO.agreement hcheck hno)

/-- Runs agree in all three key exchanges. -/
theorem runs_agree (CS : CipherSuite) :
    (∀ [DiffieHellman CS.KeGroup], RunsAgree (TripleDh.confirmation CS)) ∧
    (∀ [DiffieHellman CS.KeGroup] (K : KemCoreWrapper),
      RunsAgree (TripleDhKem.confirmation CS K)) ∧
    (∀ (KE : Group) [DiffieHellman KE] (SIG : SigmaI.SignatureProtocol CS KE),
      RunsAgree (SigmaI.confirmation CS KE SIG)) := by
  refine ⟨?_, ?_, ?_⟩
  · intro _
    exact TripleDh.confirmation_lawful.runsAgree TripleDh.confirmation_checks
  · intro _ K
    exact TripleDhKem.confirmation_lawful.runsAgree TripleDhKem.confirmation_checks
  · intro KE _ SIG
    exact SigmaI.confirmation_lawful.runsAgree SigmaI.confirmation_checks

/-! ### A run -/

namespace Reference

def otherRng : Rng := ⟨fun i => UInt8.ofNat (2 * i + 5), []⟩

/-- Another login of the user. -/
def otherLogin : LoginRun (TripleDh.keyExchange suite) :=
  (loginRun _ user record ⟨none, otherRng, otherRng, otherRng⟩).get (by decide +kernel)

/-- Two logins of the user at a time. Answers and finalizations are delivered to both, and
    one finalization twice. -/
def replayCalls : List (Call suite (TripleDh.keyExchange suite)) :=
  [.serverRegistrationFinish record.upload, .clientLoginStart user.password rng,
    .clientLoginStart user.password otherRng,
    .serverLoginStart (some 0) tripleDhLogin.clientStart.message user.credentialIdentifier
      ⟨none, user.ids⟩ rng,
    .serverLoginStart (some 0) otherLogin.clientStart.message user.credentialIdentifier
      ⟨none, user.ids⟩ otherRng,
    .clientLoginFinish 0 user.password tripleDhLogin.serverStart.message ⟨none, user.ids, none⟩
      rng,
    .clientLoginFinish 1 user.password tripleDhLogin.serverStart.message ⟨none, user.ids, none⟩
      rng,
    .clientLoginFinish 1 user.password otherLogin.serverStart.message ⟨none, user.ids, none⟩
      otherRng,
    .serverLoginFinish 0 tripleDhLogin.clientFinish.message ⟨none, user.ids⟩,
    .serverLoginFinish 1 tripleDhLogin.clientFinish.message ⟨none, user.ids⟩,
    .serverLoginFinish 0 tripleDhLogin.clientFinish.message ⟨none, user.ids⟩,
    .serverLoginFinish 1 otherLogin.clientFinish.message ⟨none, user.ids⟩]

def replayHistory : History suite (TripleDh.keyExchange suite) := runHistory _ setup replayCalls

end Reference

/-- Nonces and elements of the two logins are fresh, so none of what is delivered to the other
    login is accepted there. -/
theorem runs_agree_reference :
    let t := Reference.replayHistory
    t.clientClosings.length = 2 ∧ t.serverClosings.length = 3 ∧
      ((∀ a ∈ t.serverClosings, ∀ a' ∈ t.serverClosings,
          a.message.ke3Message.mac = a'.message.ke3Message.mac → a.login = a'.login) ∧
        (∀ f ∈ t.clientClosings, ∀ f' ∈ t.clientClosings,
          f.response.ke2Message.mac = f'.response.ke2Message.mac → f.login = f'.login) ∨
        RunCollides (TripleDh.confirmation Reference.suite) Reference.setup t) := by
  intro t
  refine ⟨by decide +kernel, by decide +kernel, ?_⟩
  rcases (runs_agree Reference.suite).1 Reference.setup Reference.replayCalls with
    hagree | hcollides
  · left
    refine ⟨?_, ?_⟩
    · apply hagree.accepted_once
      apply List.Nodup.of_map GenericArray.bytes
      decide +kernel
    · apply hagree.finished_once
      apply List.Nodup.of_map (·.blindedElement.bytes)
      decide +kernel
  · exact .inr hcollides

end OpaqueVx
