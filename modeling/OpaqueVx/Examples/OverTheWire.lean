import OpaqueVx.HonestLogins
import OpaqueVx.Persistence
import OpaqueVx.Soundness

/-! # Registration and login over the wire

  The example programs run client and server in one process and hand every message
  over as bytes. Apart from the client's last step, whose error is a failed login, every
  result is unwrapped. What the two functions come down to is said here for both
  programs: a registration is one of the protocol, and a login with its record succeeds
  with the password of the registration and fails with any other. -/

namespace OpaqueVx.Examples

open Lib

/-! ### Results that are unwrapped -/

/-- `Result::unwrap` on a call that draws no random bytes. -/
def unwrap {ε ε' α : Type} (x : Outcome ε α) : RngM ε' α := liftM (x.unwrap : Outcome ε' α)

/-- `Result::unwrap` on a call that draws random bytes. -/
def unwrapM {ε ε' α : Type} (x : RngM ε α) : RngM ε' α := fun r => (x.run r).unwrap

/-- A call whose error is looked at. The calls that this is used for draw nothing
    before they fail. -/
def attempt {ε ε' α : Type} (x : RngM ε α) : RngM ε' (Except ε α) := fun r =>
  match x.run r with
  | .ok (a, r') => .ok (.ok a, r')
  | .err e => .ok (.error e, r)
  | .panicked => .panicked

theorem run_unwrapM_bind_eq_ok {ε ε' α β : Type} {x : RngM ε α} {f : α → RngM ε' β}
    {r r' : Rng} {b : β} :
    (unwrapM x >>= f).run r = .ok (b, r') ↔
      ∃ a r₁, x.run r = .ok (a, r₁) ∧ (f a).run r₁ = .ok (b, r') := by
  rw [run_bind_eq_ok]
  constructor
  · rintro ⟨a, r₁, hx, hf⟩
    exact ⟨a, r₁, Outcome.unwrap_eq_ok.mp hx, hf⟩
  · rintro ⟨a, r₁, hx, hf⟩
    exact ⟨a, r₁, Outcome.unwrap_eq_ok.mpr hx, hf⟩

theorem run_unwrap_bind_eq_ok {ε ε' α β : Type} {x : Outcome ε α} {f : α → RngM ε' β}
    {r r' : Rng} {b : β} :
    (unwrap x >>= f).run r = .ok (b, r') ↔ ∃ a, x = .ok a ∧ (f a).run r = .ok (b, r') := by
  rw [unwrap, run_lift_bind_eq_ok]
  constructor
  · rintro ⟨a, hx, hf⟩
    exact ⟨a, Outcome.unwrap_eq_ok.mp hx, hf⟩
  · rintro ⟨a, hx, hf⟩
    exact ⟨a, Outcome.unwrap_eq_ok.mpr hx, hf⟩

theorem run_attempt_bind_eq_ok {ε ε' α β : Type} {x : RngM ε α} {f : Except ε α → RngM ε' β}
    {r r' : Rng} {b : β} :
    (attempt x >>= f).run r = .ok (b, r') ↔
      (∃ a r₁, x.run r = .ok (a, r₁) ∧ (f (.ok a)).run r₁ = .ok (b, r')) ∨
        ∃ e, x.run r = .err e ∧ (f (.error e)).run r = .ok (b, r') := by
  rw [run_bind_eq_ok]
  have hattempt : (attempt x : RngM ε' (Except ε α)).run r =
      match x.run r with
      | .ok (a, r') => .ok (.ok a, r')
      | .err e => .ok (.error e, r)
      | .panicked => .panicked := rfl
  rw [hattempt]
  cases x.run r with
  | ok p =>
    obtain ⟨a, r₁⟩ := p
    simp
  | err e => simp
  | panicked => simp

/-! ### The two functions -/

section programs

variable {CS : CipherSuite} [DiffieHellman CS.KeGroup]

/-- `Identifiers::default`. -/
def noIdentifiers : Identifiers := ⟨none, none⟩

/-- What `account_registration` and `register_locker` have in common: the result of the
    client and the record on the server. -/
def registration (serverSetup : LocalSetup CS) (credentialIdentifier password : Bytes) :
    RngM Empty (ClientRegistrationFinishResult CS × ServerRegistration CS) := do
  let clientStart ← unwrapM (ClientRegistration.start password)
  let registrationRequestBytes := clientStart.message.serialize
  -- Client sends registration_request_bytes to server
  let request ← unwrap (RegistrationRequest.deserialize registrationRequestBytes.bytes)
  let serverStart ← unwrap (ServerRegistration.start serverSetup request credentialIdentifier)
  let registrationResponseBytes := serverStart.message.serialize
  -- Server sends registration_response_bytes to client
  let response ← unwrap (RegistrationResponse.deserialize registrationResponseBytes.bytes)
  let clientFinish ← unwrapM
    (clientStart.state.finish password response { identifiers := noIdentifiers, ksf := none })
  let messageBytes := clientFinish.message.serialize
  -- Client sends message_bytes to server
  let upload ← unwrap (RegistrationUpload.deserialize messageBytes.bytes)
  return (clientFinish, ServerRegistration.finish upload)

/-- What `account_login` and `open_locker` have in common: the results of client and
    server, if the client does not detect a failure. -/
def login (serverSetup : LocalSetup CS) (credentialIdentifier password passwordFileBytes : Bytes) :
    RngM Empty (Option (ClientLoginFinishResult CS (TripleDh.keyExchange CS) ×
      ServerLoginFinishResult CS)) := do
  let clientStart ← unwrapM (ClientLogin.start (TripleDh.keyExchange CS) password)
  let credentialRequestBytes := clientStart.message.serialize
  -- Client sends credential_request_bytes to server
  let passwordFile ← unwrap (ServerRegistration.deserialize passwordFileBytes)
  let request : CredentialRequest CS (TripleDh.keyExchange CS) ←
    unwrap (CredentialRequest.deserialize credentialRequestBytes.bytes)
  let serverStart ← unwrapM (ServerLogin.start serverSetup (some passwordFile) request
    credentialIdentifier { context := none, identifiers := noIdentifiers })
  let credentialResponseBytes := serverStart.message.serialize
  -- Server sends credential_response_bytes to client
  let response ← unwrap (CredentialResponse.deserialize credentialResponseBytes.bytes)
  let result ← attempt (clientStart.state.finish password response
    { context := none, identifiers := noIdentifiers, ksf := none })
  match result with
  | .error _ =>
    -- Client-detected login failure
    return none
  | .ok clientFinish =>
    let credentialFinalizationBytes := clientFinish.message.serialize
    -- Client sends credential_finalization_bytes to server
    let finalization ←
      unwrap (CredentialFinalization.deserialize credentialFinalizationBytes.bytes)
    let serverFinish ← unwrap (serverStart.state.finish finalization
      { context := none, identifiers := noIdentifiers })
    return some (clientFinish, serverFinish)

/-- The user that a registration of the programs is for. -/
def account (serverSetup : LocalSetup CS) (credentialIdentifier password : Bytes) : User CS where
  setup := serverSetup
  password := password
  credentialIdentifier := credentialIdentifier
  ids := noIdentifiers
  ksf := none

end programs

/-! ### What the libraries promise -/

/-- The laws of a cipher suite that the programs rely on. -/
structure SuiteLaws (CS : CipherSuite) [DiffieHellman CS.KeGroup] : Prop where
  dhCommutes : CS.KeGroup.DhCommutes
  dhDetermines : CS.KeGroup.DhDetermines
  unblinds : CS.OprfCs.Unblinds
  decodes : CS.OprfCs.Decodes
  keyEncoding : CS.KeGroup.KeyEncoding .roundTrip

section runs

variable {CS : CipherSuite} [DiffieHellman CS.KeGroup]

omit [DiffieHellman CS.KeGroup] in
/-- The keys of a new server belong together. -/
theorem keypair_of_new {fuel : Nat} {serverSetup : LocalSetup CS} {r r' : Rng}
    (h : (ServerSetup.new fuel).run r = .ok (serverSetup, r')) :
    serverSetup.keypair.pk = CS.KeGroup.publicKey serverSetup.keypair.sk := by
  obtain ⟨keypair, r₁, hkeypair, h⟩ := run_bind_eq_ok.mp h
  obtain ⟨seed, r₂, -, h⟩ := run_bind_eq_ok.mp h
  obtain ⟨dummy, r₃, -, h⟩ := run_bind_eq_ok.mp h
  obtain ⟨sk, r₄, -, hkeypair⟩ := run_bind_eq_ok.mp hkeypair
  simp only [StateT.run_pure, Outcome.pure_eq, Outcome.ok.injEq, Prod.mk.injEq] at h hkeypair
  rw [← h.1, ← hkeypair.1]

theorem SuiteLaws.encoding (h : SuiteLaws CS) : CS.Encoding .roundTrip :=
  CipherSuite.encoding_roundTrip h.keyEncoding h.decodes

variable {serverSetup : LocalSetup CS} {credentialIdentifier password : Bytes} {r r' : Rng}

/-- A registration over the wire that does not panic is a registration. -/
theorem exists_registration (h : SuiteLaws CS) {result : ClientRegistrationFinishResult CS}
    {record : ServerRegistration CS}
    (hrun : (registration serverSetup credentialIdentifier password).run r =
      .ok ((result, record), r')) :
    ∃ R : Registration CS, R.user = account serverSetup credentialIdentifier password ∧
      R.result = result ∧ R.record = record := by
  obtain ⟨clientStart, r₁, hclientStart, hrun⟩ := run_unwrapM_bind_eq_ok.mp hrun
  obtain ⟨request, hrequest, hrun⟩ := run_unwrap_bind_eq_ok.mp hrun
  obtain ⟨serverStart, hserverStart, hrun⟩ := run_unwrap_bind_eq_ok.mp hrun
  obtain ⟨response, hresponse, hrun⟩ := run_unwrap_bind_eq_ok.mp hrun
  obtain ⟨clientFinish, r₂, hclientFinish, hrun⟩ := run_unwrapM_bind_eq_ok.mp hrun
  obtain ⟨upload, hupload, hrun⟩ := run_unwrap_bind_eq_ok.mp hrun
  simp only [StateT.run_pure, Outcome.pure_eq, Outcome.ok.injEq, Prod.mk.injEq] at hrun
  obtain ⟨⟨rfl, rfl⟩, rfl⟩ := hrun
  -- The messages arrive as they were sent.
  obtain rfl : clientStart.message = request := by
    have hread := RegistrationRequest.deserialize_serialize h.decodes clientStart.message
    exact Outcome.ok.inj (hread.symm.trans hrequest)
  obtain rfl : serverStart.message = response := by
    have hlaw := RegistrationResponse.codec_law h.encoding
    have hread := (hlaw serverStart.message).decodeFront
    exact Outcome.ok.inj (hread.symm.trans hresponse)
  have hregister : register (account serverSetup credentialIdentifier password) r r₁ =
      .ok (clientFinish, ServerRegistration.finish clientFinish.message) := by
    simp only [register, account, hclientStart, hserverStart, hclientFinish, Outcome.ok_bind]
    rfl
  obtain ⟨R, huser, hresult, hrecord⟩ := OpaqueVx.exists_registration h.unblinds hregister
  obtain rfl : clientFinish.message = upload := by
    have hmode : clientFinish.message.envelope.mode = .internal := by
      have hmessage : R.record.upload = clientFinish.message := by rw [hrecord]; rfl
      rw [← hmessage, R.upload_eq]
    have hread := (RegistrationUpload.codec_readsBack h.keyEncoding.pk hmode).decodeFront
    exact Outcome.ok.inj (hread.symm.trans hupload)
  exact ⟨R, huser, hresult, hrecord⟩

/-- The first step of the client and that of the server in a login, which take what
    the generator has left. -/
structure Opening (serverSetup : LocalSetup CS) (credentialIdentifier password : Bytes)
    (file : ServerRegistration CS) (r : Rng) where
  clientStart : ClientLoginStartResult CS (TripleDh.keyExchange CS)
  serverStart : ServerLoginStartResult CS (TripleDh.keyExchange CS)
  serverRng : Rng
  finishRng : Rng
  client_eq : (ClientLogin.start (TripleDh.keyExchange CS) password).run r =
    .ok (clientStart, serverRng)
  server_eq : (ServerLogin.start serverSetup (some file) clientStart.message credentialIdentifier
    { context := none, identifiers := noIdentifiers }).run serverRng = .ok (serverStart, finishRng)

namespace Opening

variable {file : ServerRegistration CS}
  (o : Opening serverSetup credentialIdentifier password file r)

/-- What the client is called with. -/
def clientCalls : ClientCalls (TripleDh.keyExchange CS) where
  startPassword := password
  startRng := r
  password := password
  response := o.serverStart.message
  params := { context := none, identifiers := noIdentifiers, ksf := none }
  finishRng := o.finishRng

/-- What the server is called with. -/
def serverCalls : ServerCalls (TripleDh.keyExchange CS) where
  setup := serverSetup
  passwordFile := some file
  request := o.clientStart.message
  credentialIdentifier := credentialIdentifier
  params := { context := none, identifiers := noIdentifiers }
  rng := o.serverRng

/-- The client's last step. -/
def finish : Outcome Error (ClientLoginFinishResult CS (TripleDh.keyExchange CS) × Rng) :=
  (o.clientStart.state.finish password o.serverStart.message
    { context := none, identifiers := noIdentifiers, ksf := none }).run o.finishRng

/-- The server's last step. -/
def serverFinish (clientFinish : ClientLoginFinishResult CS (TripleDh.keyExchange CS)) :
    Outcome Error (ServerLoginFinishResult CS) :=
  o.serverStart.state.finish clientFinish.message
    { context := none, identifiers := noIdentifiers }

end Opening

/-- The record of a registration is read back. -/
theorem deserialize_record (h : SuiteLaws CS) (R : Registration CS) :
    ServerRegistration.deserialize R.record.serialize.bytes = .ok R.record := by
  have hread := ServerRegistration.reload_eq h.keyEncoding R.record
  have hsame : R.record.readBack = R.record := by
    unfold ServerRegistration.readBack
    rw [R.upload_eq]
    cases hrecord : R.record with
    | mk upload =>
      have hupload := R.upload_eq
      rw [hrecord] at hupload
      rw [← hupload]
  rw [hsame] at hread
  exact hread

/-- A login over the wire that does not panic takes the first two steps; then the client
    fails, or both parties finish. -/
theorem login_eq_ok (h : SuiteLaws CS) {R : Registration CS}
    {result : Option (ClientLoginFinishResult CS (TripleDh.keyExchange CS) ×
      ServerLoginFinishResult CS)}
    (hrun : (login serverSetup credentialIdentifier password R.record.serialize.bytes).run r =
      .ok (result, r')) :
    ∃ o : Opening serverSetup credentialIdentifier password R.record r,
      ((result = none ∧ ∃ e, o.finish = .err e) ∨
        ∃ clientFinish serverFinish, result = some (clientFinish, serverFinish) ∧
          o.finish = .ok (clientFinish, r') ∧ o.serverFinish clientFinish = .ok serverFinish) := by
  obtain ⟨clientStart, r₁, hclientStart, hrun⟩ := run_unwrapM_bind_eq_ok.mp hrun
  obtain ⟨file, hfile, hrun⟩ := run_unwrap_bind_eq_ok.mp hrun
  obtain ⟨request, hrequest, hrun⟩ := run_unwrap_bind_eq_ok.mp hrun
  obtain ⟨serverStart, r₂, hserverStart, hrun⟩ := run_unwrapM_bind_eq_ok.mp hrun
  obtain ⟨response, hresponse, hrun⟩ := run_unwrap_bind_eq_ok.mp hrun
  have hmessages : (TripleDh.keyExchange CS).MessageLaws .roundTrip :=
    TripleDh.messageLaws h.keyEncoding.pk
  -- The record and the messages arrive as they were sent.
  obtain rfl : R.record = file := Outcome.ok.inj ((deserialize_record h R).symm.trans hfile)
  obtain rfl : clientStart.message = request := by
    have hlaw := CredentialRequest.codec_law h.encoding hmessages
    have hread := (hlaw clientStart.message).decodeFront
    exact Outcome.ok.inj (hread.symm.trans hrequest)
  obtain rfl : serverStart.message = response := by
    have hlaw := CredentialResponse.codec_law h.encoding hmessages
    have hread := (hlaw serverStart.message).decodeFront
    exact Outcome.ok.inj (hread.symm.trans hresponse)
  refine ⟨⟨clientStart, serverStart, r₁, r₂, hclientStart, hserverStart⟩, ?_⟩
  rcases run_attempt_bind_eq_ok.mp hrun with ⟨clientFinish, r₃, hfinish, hrun⟩ | ⟨e, hfinish, hrun⟩
  · right
    obtain ⟨finalization, hfinalization, hrun⟩ := run_unwrap_bind_eq_ok.mp hrun
    obtain ⟨serverFinish, hserverFinish, hrun⟩ := run_unwrap_bind_eq_ok.mp hrun
    simp only [StateT.run_pure, Outcome.pure_eq, Outcome.ok.injEq, Prod.mk.injEq] at hrun
    obtain ⟨rfl, rfl⟩ := hrun
    obtain rfl : clientFinish.message = finalization := by
      have hlaw : Codec.Law.roundTrip.holds (CredentialFinalization.codec _) :=
        CredentialFinalization.codec_law hmessages
      have hread := (hlaw clientFinish.message).decodeFront
      exact Outcome.ok.inj (hread.symm.trans hfinalization)
    exact ⟨clientFinish, serverFinish, rfl, hfinish, hserverFinish⟩
  · left
    simp only [StateT.run_pure, Outcome.pure_eq, Outcome.ok.injEq, Prod.mk.injEq] at hrun
    exact ⟨hrun.1.symm, e, hfinish⟩

/-- The server answers with the element that it was sent. -/
def Reflects {file : ServerRegistration CS}
    (o : Opening serverSetup credentialIdentifier password file r) : Prop :=
  o.clientStart.message.blindedElement = o.serverStart.message.evaluationElement

/-- A login with the password of the registration succeeds, unless the server reflects
    the client's element. -/
theorem login_of_password (h : SuiteLaws CS) {R : Registration CS}
    (hR : R.user = account serverSetup credentialIdentifier password)
    (hpair : serverSetup.keypair.pk = CS.KeGroup.publicKey serverSetup.keypair.sk)
    (o : Opening serverSetup credentialIdentifier password R.record r) (hreflects : ¬ Reflects o) :
    ∃ clientFinish serverFinish r₃, o.finish = .ok (clientFinish, r₃) ∧
      o.serverFinish clientFinish = .ok serverFinish ∧
      clientFinish.sessionKey = serverFinish.sessionKey ∧
      clientFinish.exportKey = R.result.exportKey := by
  obtain ⟨s, hcalls, hsstart⟩ := exists_serverSession o.serverCalls o.server_eq
  have hpassword : R.user.password = password := by rw [hR]; rfl
  have hids : R.user.ids = noIdentifiers := by rw [hR]; rfl
  have hksf : R.user.ksf = none := by rw [hR]; rfl
  -- What the functions pass on over the wire is what an honest login asks for.
  have hlogin : HonestLogin R s o.clientStart :=
    { started := by
        rw [hpassword]
        exact ⟨r, o.serverRng, o.client_eq⟩
      setup := by
        rw [hcalls, hR]
        rfl
      keypair := by
        rw [hcalls]
        exact hpair
      passwordFile := by rw [hcalls]; rfl
      request := by rw [hcalls]; rfl
      credentialIdentifier := by
        rw [hcalls, hR]
        rfl
      identifiers := by
        rw [hcalls, hids]
        rfl
      not_reflected := by
        rw [hsstart]
        exact hreflects }
  obtain ⟨clientFinish, r₃, hfinish, hserver, hexport, -⟩ := hlogin.completes
    (TripleDh.completesLocally h.dhCommutes) h.unblinds (h.keyEncoding.pk _) o.finishRng
  rw [hsstart, hpassword, hcalls, hids, hksf] at hfinish
  rw [hsstart, hcalls] at hserver
  exact ⟨clientFinish, ⟨clientFinish.sessionKey⟩, r₃, hfinish, hserver, rfl, hexport⟩

/-- The calls of the login and those of the registration contain a collision. -/
def Collides (R : Registration CS)
    (o : Opening serverSetup credentialIdentifier password R.record r) : Prop :=
  ∃ (c : ClientSession (TripleDh.keyExchange CS)) (s : ServerSession (TripleDh.keyExchange CS)),
    (c.toClientCalls = o.clientCalls ∧ c.start = o.clientStart) ∧
      (s.toServerCalls = o.serverCalls ∧ s.start = o.serverStart) ∧
      (ExhibitsCollision CS.KeHash (c.party.calls (TripleDh.confirmation CS))
          (s.party.calls (TripleDh.confirmation CS)) ∨
        ExhibitsPasswordCollision (c.passwordRun s).calls R.passwordRun.calls)

/-- The client finishes a login with the password of the registration only, unless there
    is a collision. -/
theorem password_of_login (h : SuiteLaws CS) {R : Registration CS}
    (o : Opening serverSetup credentialIdentifier password R.record r)
    {clientFinish : ClientLoginFinishResult CS (TripleDh.keyExchange CS)} {r₃ : Rng}
    (hfinish : o.finish = .ok (clientFinish, r₃)) :
    password = R.user.password ∨ Collides R o := by
  obtain ⟨c, hccalls, hcstart, -⟩ := exists_clientSession o.clientCalls o.client_eq hfinish
  obtain ⟨s, hscalls, hsstart⟩ := exists_serverSession o.serverCalls o.server_eq
  have hfile : s.passwordFile = some R.record := by rw [hscalls]; rfl
  have hone : c.startPassword = c.password := by rw [hccalls]; rfl
  have hmac : c.response.ke2Message.mac = s.start.message.ke2Message.mac := by
    rw [hccalls, hsstart]
    rfl
  have hbinds := (TripleDh.bindsClientKey h.dhCommutes h.dhDetermines h.keyEncoding).bindsStaticKey
  have hsound := loginSound TripleDh.confirmation_lawful hbinds h.unblinds h.decodes h.keyEncoding
  -- The client has checked the server's MAC, which is the one that the server sent.
  rcases hsound R c s hfile hone trivial trivial (.inl hmac) with hsame | hcollision
  · left
    have hpassword := hsame.password
    rw [hccalls] at hpassword
    exact hpassword
  · right
    exact ⟨c, s, ⟨hccalls, hcstart⟩, ⟨hscalls, hsstart⟩, hcollision⟩

/-- What is left aside of a login: that the server reflects the client's element, or that
    there is a collision. -/
def Exceptional (serverSetup : LocalSetup CS) (credentialIdentifier password : Bytes)
    (R : Registration CS) (r : Rng) : Prop :=
  ∃ o : Opening serverSetup credentialIdentifier password R.record r, Reflects o ∨ Collides R o

/-- A login over the wire succeeds exactly with the password of the registration, and
    then the parties have one session key, and the client the export key of the
    registration. -/
theorem login_correct (h : SuiteLaws CS) {R : Registration CS} {registered : Bytes}
    (hR : R.user = account serverSetup credentialIdentifier registered)
    (hpair : serverSetup.keypair.pk = CS.KeGroup.publicKey serverSetup.keypair.sk)
    {result : Option (ClientLoginFinishResult CS (TripleDh.keyExchange CS) ×
      ServerLoginFinishResult CS)}
    (hrun : (login serverSetup credentialIdentifier password R.record.serialize.bytes).run r =
      .ok (result, r'))
    (hno : ¬ Exceptional serverSetup credentialIdentifier password R r) :
    (password = registered → ∃ clientFinish serverFinish,
      result = some (clientFinish, serverFinish) ∧
        clientFinish.sessionKey = serverFinish.sessionKey ∧
        clientFinish.exportKey = R.result.exportKey) ∧
    (password ≠ registered → result = none) := by
  obtain ⟨o, hresult⟩ := login_eq_ok h hrun
  have hreflects : ¬ Reflects o := fun hreflects => hno ⟨o, .inl hreflects⟩
  have hcollides : ¬ Collides R o := fun hcollides => hno ⟨o, .inr hcollides⟩
  refine ⟨?_, ?_⟩
  -- The steps are functions, so the login that succeeds is the one that was run.
  · rintro rfl
    obtain ⟨clientFinish, serverFinish, r₃, hfinish, hserverFinish, hkeys, hexport⟩ :=
      login_of_password h hR hpair o hreflects
    rcases hresult with ⟨-, e, herr⟩ | ⟨clientFinish', serverFinish', hsome, hfinish', hserver⟩
    · rw [herr] at hfinish
      cases hfinish
    · rw [hfinish] at hfinish'
      injection hfinish' with hfinish'
      obtain ⟨rfl, -⟩ := Prod.mk.inj hfinish'
      rw [hserverFinish] at hserver
      injection hserver with hserver
      subst hserver
      exact ⟨_, _, hsome, hkeys, hexport⟩
  · intro hne
    rcases hresult with ⟨hnone, -⟩ | ⟨clientFinish, serverFinish, -, hfinish, -⟩
    · exact hnone
    · rcases password_of_login h o hfinish with hpassword | hcollision
      · rw [hR] at hpassword
        exact absurd hpassword hne
      · exact absurd hcollision hcollides

end runs

end OpaqueVx.Examples

/-! ### A suite with keys of 32 bytes -/

namespace OpaqueVx.Reference

open Lib

def pad (b : UInt8) : GenericArray 32 := ⟨b :: List.replicate 31 0, by simp⟩

@[reducible] def wideHash : Hash where
  outputSize := 32
  digest input := pad (mix input)
  hmac key data := pad (mix (key ++ data))
  extract ikm := pad (mix ikm)
  expand := hash.expand

/-- The OPRF over bytes, with a longer output. -/
@[reducible] def wideVoprf : Voprf where
  hash := wideHash
  Elem := UInt8
  decEqElem := inferInstance
  ElemLen := 1
  Scalar := UInt8
  ScalarLen := 1
  OprfClient := UInt8
  OprfServer := UInt8
  serializeElem := single
  deserializeElem := decodeByte
  serializeScalar := single
  serializeClient := single
  deserializeClient := decodeByte
  blind := voprf.blind
  finalize client input e := .ok (pad (mix (input ++ [e - client])))
  deriveKey := voprf.deriveKey
  newWithKey := decodeByte
  blindEvaluate server e := e + server
  evaluate server input := .ok (pad (mix (input ++ [mix input + server])))

theorem wideVoprf_unblinds : wideVoprf.Unblinds := by
  intro password client blinded r r' server h
  have hsingle := voprf_unblinds password client blinded r r' server h
  have hmix : mix (password ++ [blinded + server - client]) =
      mix (password ++ [mix password + server]) :=
    congrArg unsingle (Outcome.ok.inj hsingle)
  show Outcome.ok (pad (mix (password ++ [blinded + server - client]))) =
    Outcome.ok (pad (mix (password ++ [mix password + server])))
  rw [hmix]

theorem wideVoprf_encoding : wideVoprf.Encoding where
  elem _ _ := decodeByte_eq_ok
  client _ _ := decodeByte_eq_ok

@[reducible] def wideSuite : CipherSuite where
  OprfCs := wideVoprf
  KeGroup := curveGroup
  KeHash := wideHash
  Ksf := .identity

theorem wideSuite_laws : Examples.SuiteLaws wideSuite where
  dhCommutes := EllipticCurve.dhCommutes _
  dhDetermines := EllipticCurve.dhDetermines _
  unblinds := wideVoprf_unblinds
  decodes := wideVoprf_encoding.decodes
  keyEncoding := EllipticCurve.keyEncoding _

end OpaqueVx.Reference
