import OpaqueVx.Lib.Replies
import OpaqueVx.Formats

/-! # Saved and restored states

  All states of the protocol in one store, and the calls of the protocol on them
  with any arguments and any generators. Between two calls any state may be
  serialized and replaced by what deserialization makes of it: no later reply is
  different. All states but one come back as they were; the exception is the mode
  of an envelope in a record, which no step on the server looks at. -/

namespace OpaqueVx

open Lib

variable {CS : CipherSuite}

/-! ### The store -/

structure Store (CS : CipherSuite) (KE : KeyExchange CS) where
  setup : LocalSetup CS
  clientRegistrations : List (ClientRegistration CS)
  records : List (ServerRegistration CS)
  clientLogins : List (ClientLogin CS KE)
  serverLogins : List (ServerLogin CS KE)

/-- The calls; a state is named by its position. -/
inductive Call (CS : CipherSuite) (KE : KeyExchange CS) where
  | clientRegistrationStart (password : Bytes) (rng : Rng)
  | serverRegistrationStart (message : RegistrationRequest CS) (credentialIdentifier : Bytes)
  | clientRegistrationFinish (state : Nat) (password : Bytes) (response : RegistrationResponse CS)
      (params : ClientRegistrationFinishParameters CS) (rng : Rng)
  | serverRegistrationFinish (message : RegistrationUpload CS)
  | clientLoginStart (password : Bytes) (rng : Rng)
  | serverLoginStart (record : Option Nat) (request : CredentialRequest CS KE)
      (credentialIdentifier : Bytes) (params : ServerLoginParameters) (rng : Rng)
  | clientLoginFinish (state : Nat) (password : Bytes) (response : CredentialResponse CS KE)
      (params : ClientLoginFinishParameters CS) (rng : Rng)
  | serverLoginFinish (state : Nat) (message : CredentialFinalization CS KE)
      (params : ServerLoginParameters)

/-- The result of a call, or that there is no such state. -/
inductive Reply (CS : CipherSuite) (KE : KeyExchange CS) where
  | clientRegistrationStart (result : Outcome Error (ClientRegistrationStartResult CS × Rng))
  | serverRegistrationStart (result : Outcome Error (ServerRegistrationStartResult CS))
  | clientRegistrationFinish (result : Outcome Error (ClientRegistrationFinishResult CS × Rng))
  | serverRegistrationFinish
  | clientLoginStart (result : Outcome Error (ClientLoginStartResult CS KE × Rng))
  | serverLoginStart (result : Outcome Error (ServerLoginStartResult CS KE × Rng))
  | clientLoginFinish (result : Outcome Error (ClientLoginFinishResult CS KE × Rng))
  | serverLoginFinish (result : Outcome Error (ServerLoginFinishResult CS))
  | noState

/-- Appends the state that a successful call returns. -/
def keep {α β ε : Type} (xs : List α) (state : β → α) (result : Outcome ε (β × Rng)) : List α :=
  match result with
  | .ok (value, _) => xs ++ [state value]
  | _ => xs

namespace Store

variable {KE : KeyExchange CS}

variable (KE) in
/-- Nothing but the server's setup. -/
def initial (setup : LocalSetup CS) : Store CS KE := ⟨setup, [], [], [], []⟩

def serverLoginStart (s : Store CS KE) (record : Option (ServerRegistration CS))
    (request : CredentialRequest CS KE) (credentialIdentifier : Bytes)
    (params : ServerLoginParameters) (rng : Rng) : Store CS KE × Reply CS KE :=
  let result := (ServerLogin.start s.setup record request credentialIdentifier params).run rng
  ({ s with serverLogins := keep s.serverLogins (·.state) result }, .serverLoginStart result)

/-- One call. -/
def step (s : Store CS KE) : Call CS KE → Store CS KE × Reply CS KE
  | .clientRegistrationStart password rng =>
    let result := (ClientRegistration.start password).run rng
    ({ s with clientRegistrations := keep s.clientRegistrations (·.state) result },
      .clientRegistrationStart result)
  | .serverRegistrationStart message credentialIdentifier =>
    (s, .serverRegistrationStart (ServerRegistration.start s.setup message credentialIdentifier))
  | .clientRegistrationFinish state password response params rng =>
    match s.clientRegistrations[state]? with
    | some c => (s, .clientRegistrationFinish ((c.finish password response params).run rng))
    | none => (s, .noState)
  | .serverRegistrationFinish message =>
    ({ s with records := s.records ++ [ServerRegistration.finish message] },
      .serverRegistrationFinish)
  | .clientLoginStart password rng =>
    let result := (ClientLogin.start KE password).run rng
    ({ s with clientLogins := keep s.clientLogins (·.state) result }, .clientLoginStart result)
  | .serverLoginStart none request credentialIdentifier params rng =>
    s.serverLoginStart none request credentialIdentifier params rng
  | .serverLoginStart (some record) request credentialIdentifier params rng =>
    match s.records[record]? with
    | some record => s.serverLoginStart (some record) request credentialIdentifier params rng
    | none => (s, .noState)
  | .clientLoginFinish state password response params rng =>
    match s.clientLogins[state]? with
    | some c => (s, .clientLoginFinish ((c.finish password response params).run rng))
    | none => (s, .noState)
  | .serverLoginFinish state message params =>
    match s.serverLogins[state]? with
    | some l => (s, .serverLoginFinish (l.finish message params))
    | none => (s, .noState)

end Store

/-! ### Saving and restoring -/

/-- The state that is saved and restored. -/
inductive Slot where
  | setup
  | clientRegistration (state : Nat)
  | record (state : Nat)
  | clientLogin (state : Nat)
  | serverLogin (state : Nat)

/-- Writes down the state at a position and reads it again. -/
def reloadAt {α : Type} (F : Format Error α) (xs : List α) (i : Nat) : Outcome Error (List α) :=
  match xs[i]? with
  | some x => do
    let x ← F.reload x
    return xs.set i x
  | none => .ok xs

namespace Store

variable {KE : KeyExchange CS}

/-- Saves a state and restores it. -/
def restore (s : Store CS KE) : Slot → Outcome Error (Store CS KE)
  | .setup => do
    let setup ← (LocalSetup.format CS).reload s.setup
    return { s with setup }
  | .clientRegistration i => do
    let clientRegistrations ← reloadAt (ClientRegistration.format CS) s.clientRegistrations i
    return { s with clientRegistrations }
  | .record i => do
    let records ← reloadAt (ServerRegistration.format CS) s.records i
    return { s with records }
  | .clientLogin i => do
    let clientLogins ← reloadAt (ClientLogin.format CS KE) s.clientLogins i
    return { s with clientLogins }
  | .serverLogin i => do
    let serverLogins ← reloadAt (ServerLogin.format CS KE) s.serverLogins i
    return { s with serverLogins }

/-- A run of calls with states saved and restored in between. -/
def run (s : Store CS KE) (events : List (Event (Call CS KE) Slot)) :
    Outcome Error (List (Reply CS KE)) :=
  runEvents step restore s events

end Store

/-! ### What comes back -/

theorem set_of_getElem? {α : Type} {xs : List α} {i : Nat} {x : α} (h : xs[i]? = some x) :
    xs.set i x = xs := by
  obtain ⟨hi, rfl⟩ := List.getElem?_eq_some_iff.mp h
  exact List.set_getElem_self hi

/-- Reloading an element keeps what reloading keeps of each element. -/
theorem reloadAt_map {α β : Type} {F : Format Error α} {xs : List α} (f : α → β)
    (h : ∀ x ∈ xs, ∃ y, F.reload x = .ok y ∧ f y = f x) (i : Nat) :
    ∃ ys, reloadAt F xs i = .ok ys ∧ ys.map f = xs.map f := by
  cases hx : xs[i]? with
  | none =>
    refine ⟨xs, ?_, rfl⟩
    simp only [reloadAt, hx]
  | some x =>
    obtain ⟨y, hy, hf⟩ := h x (List.mem_of_getElem? hx)
    refine ⟨xs.set i y, ?_, ?_⟩
    · simp only [reloadAt, hx, hy, Outcome.ok_bind]
      rfl
    · have hfx : (xs.map f)[i]? = some (f x) := by simp [hx]
      rw [List.map_set, hf, set_of_getElem? hfx]

/-- Elements that come back as they were leave the list as it was. -/
theorem reloadAt_self {α : Type} {F : Format Error α} {xs : List α}
    (h : ∀ x ∈ xs, F.reload x = .ok x) (i : Nat) : reloadAt F xs i = .ok xs := by
  obtain ⟨ys, hys, hmap⟩ := reloadAt_map id (fun x hx => ⟨x, h x hx, rfl⟩) i
  rw [List.map_id, List.map_id] at hmap
  rw [hys, hmap]

/-- A setup comes back if its public key belongs to its private key. -/
theorem LocalSetup.reload_eq (hkey : CS.KeGroup.KeyEncoding .roundTrip) {setup : LocalSetup CS}
    (hpair : setup.keypair.pk = CS.KeGroup.publicKey setup.keypair.sk) :
    (LocalSetup.format CS).reload setup = .ok setup := by
  rw [LocalSetup.format_eq]
  apply Codec.ReadsBack.decodeFront
  apply ServerSetup.codec_readsBack hkey.pk
  · exact (arrayCodec_roundTrip _ _ _).mapErr
  · exact PrivateKey.codec_readsBack hkey.sk hpair

/-- A record with the mode that every decoded envelope has. -/
def ServerRegistration.readBack (r : ServerRegistration CS) : ServerRegistration CS :=
  ⟨{ r.upload with envelope := { r.upload.envelope with mode := .internal } }⟩

theorem ServerRegistration.reload_eq (hkey : CS.KeGroup.KeyEncoding .roundTrip)
    (r : ServerRegistration CS) : (ServerRegistration.format CS).reload r = .ok r.readBack := by
  have hread : (ServerRegistration.codec CS).ReadsBack r.readBack := by
    apply Codec.ReadsBack.imap
    · exact RegistrationUpload.codec_readsBack hkey.pk rfl
    · rfl
  rw [ServerRegistration.format_eq]
  exact hread.decodeFront

/-- The states of a key exchange that can come up are read back. -/
structure KeyExchange.Persists (KE : KeyExchange CS) : Prop where
  ke1Message : KE.ke1Message.RoundTrip
  ke1State : ∀ {r r' result}, KE.generateKe1.run r = .ok (result, r') →
    KE.ke1State.ReadsBack result.state
  ke2State : KE.ke2State.RoundTrip

/-! ### Stores that no call can tell apart -/

section simulation

variable {KE : KeyExchange CS}

/-- The first store is the second with some states saved and restored. Of the
    second it is known that its states can be read back. -/
structure Store.Restored (s t : Store CS KE) : Prop where
  setup : s.setup = t.setup
  clientRegistrations : s.clientRegistrations = t.clientRegistrations
  records : s.records.map ServerRegistration.readBack =
    t.records.map ServerRegistration.readBack
  clientLogins : s.clientLogins = t.clientLogins
  serverLogins : s.serverLogins = t.serverLogins
  pair : t.setup.keypair.pk = CS.KeGroup.publicKey t.setup.keypair.sk
  readable : ∀ c ∈ t.clientLogins, KE.ke1State.ReadsBack c.ke1State

/-- The server does not look at the mode of an envelope. -/
theorem start_readBack (setup : LocalSetup CS) (record : ServerRegistration CS)
    (request : CredentialRequest CS KE) (credentialIdentifier : Bytes)
    (params : ServerLoginParameters) :
    ServerLogin.start setup (some record.readBack) request credentialIdentifier params =
      ServerLogin.start setup (some record) request credentialIdentifier params :=
  rfl

/-- A client state that comes from a call can be read back. -/
theorem readable_of_start (hKE : KE.Persists) {password : Bytes} {r r' : Rng}
    {result : ClientLoginStartResult CS KE}
    (h : (ClientLogin.start KE password).run r = .ok (result, r')) :
    KE.ke1State.ReadsBack result.state.ke1State := by
  obtain ⟨blinded, r₁, -, h⟩ := run_bind_eq_ok.mp h
  obtain ⟨ke1, r₂, hke1, h⟩ := run_bind_eq_ok.mp h
  simp only [StateT.run_pure, Outcome.pure_eq, Outcome.ok.injEq, Prod.mk.injEq] at h
  rw [← h.1]
  exact hKE.ke1State hke1

theorem mem_keep {α β ε : Type} {xs : List α} {state : β → α} {result : Outcome ε (β × Rng)}
    {x : α} (h : x ∈ keep xs state result) :
    x ∈ xs ∨ ∃ value r, result = .ok (value, r) ∧ x = state value := by
  cases result with
  | ok p =>
    cases List.mem_append.mp h with
    | inl hx => exact .inl hx
    | inr hx => exact .inr ⟨p.1, p.2, rfl, List.mem_singleton.mp hx⟩
  | err e => exact .inl h
  | panicked => exact .inl h

/-- A login with records that differ in the mode only. -/
theorem serverLoginStart_restored {s t : Store CS KE} (h : s.Restored t)
    {record record' : Option (ServerRegistration CS)}
    (hrecord : record.map ServerRegistration.readBack =
      record'.map ServerRegistration.readBack)
    (request : CredentialRequest CS KE) (credentialIdentifier : Bytes)
    (params : ServerLoginParameters) (rng : Rng) :
    (s.serverLoginStart record request credentialIdentifier params rng).2 =
        (t.serverLoginStart record' request credentialIdentifier params rng).2 ∧
      (s.serverLoginStart record request credentialIdentifier params rng).1.Restored
        (t.serverLoginStart record' request credentialIdentifier params rng).1 := by
  have hstart : ServerLogin.start s.setup record request credentialIdentifier params =
      ServerLogin.start t.setup record' request credentialIdentifier params := by
    rw [h.setup]
    cases record with
    | none =>
      cases record' with
      | none => rfl
      | some r' => simp at hrecord
    | some r =>
      cases record' with
      | none => simp at hrecord
      | some r' =>
        have hr : r.readBack = r'.readBack := by simpa using hrecord
        rw [← start_readBack, hr, start_readBack]
  -- The answer does not depend on the mode, so the new state is the same too.
  unfold Store.serverLoginStart
  rw [hstart, h.serverLogins]
  exact ⟨rfl, { h with serverLogins := rfl }⟩

/-- A call gets the same reply from both stores. -/
theorem step_restored (hKE : KE.Persists) (s t : Store CS KE) (c : Call CS KE)
    (h : s.Restored t) : (s.step c).2 = (t.step c).2 ∧ (s.step c).1.Restored (t.step c).1 := by
  -- Only two calls look at what a restored store may have different: the records.
  cases c with
  | clientRegistrationStart password rng =>
    simp only [Store.step, h.clientRegistrations]
    exact ⟨trivial, { h with clientRegistrations := rfl }⟩
  | serverRegistrationStart message credentialIdentifier =>
    simp only [Store.step, h.setup]
    exact ⟨trivial, h⟩
  | clientRegistrationFinish state password response params rng =>
    simp only [Store.step, h.clientRegistrations]
    cases t.clientRegistrations[state]? with
    | none => exact ⟨rfl, h⟩
    | some c => exact ⟨rfl, h⟩
  | serverRegistrationFinish message =>
    refine ⟨rfl, { h with records := ?_ }⟩
    simp only [Store.step, List.map_append, h.records]
  | clientLoginStart password rng =>
    simp only [Store.step, h.clientLogins]
    refine ⟨trivial, { h with clientLogins := rfl, readable := ?_ }⟩
    intro c hc
    rcases mem_keep hc with hold | ⟨result, r', hresult, rfl⟩
    · exact h.readable c hold
    · exact readable_of_start hKE hresult
  | serverLoginStart record request credentialIdentifier params rng =>
    cases record with
    | none => exact serverLoginStart_restored h rfl request credentialIdentifier params rng
    | some i =>
      -- The records have the same indices, and differ in the mode of the envelope.
      have hi : (s.records[i]?).map ServerRegistration.readBack =
          (t.records[i]?).map ServerRegistration.readBack := by
        rw [← List.getElem?_map, ← List.getElem?_map, h.records]
      simp only [Store.step]
      cases hs : s.records[i]? with
      | none =>
        cases ht : t.records[i]? with
        | none => exact ⟨rfl, h⟩
        | some r' => simp [hs, ht] at hi
      | some r =>
        cases ht : t.records[i]? with
        | none => simp [hs, ht] at hi
        | some r' =>
          rw [hs, ht] at hi
          exact serverLoginStart_restored h hi request credentialIdentifier params rng
  | clientLoginFinish state password response params rng =>
    simp only [Store.step, h.clientLogins]
    cases t.clientLogins[state]? with
    | none => exact ⟨rfl, h⟩
    | some c => exact ⟨rfl, h⟩
  | serverLoginFinish state message params =>
    simp only [Store.step, h.serverLogins]
    cases t.serverLogins[state]? with
    | none => exact ⟨rfl, h⟩
    | some l => exact ⟨rfl, h⟩

/-- Saving and restoring a state succeeds and leads to a restored store. -/
theorem restore_restored (hcs : CS.Encoding .roundTrip) (hoprf : CS.OprfCs.Decodes)
    (hKE : KE.Persists) (s t : Store CS KE) (slot : Slot) (h : s.Restored t) :
    ∃ s', s.restore slot = .ok s' ∧ s'.Restored t := by
  cases slot with
  | setup =>
    have hpair : s.setup.keypair.pk = CS.KeGroup.publicKey s.setup.keypair.sk := by
      rw [h.setup]
      exact h.pair
    refine ⟨s, ?_, h⟩
    simp only [Store.restore, LocalSetup.reload_eq hcs.key hpair, Outcome.ok_bind]
    rfl
  | clientRegistration i =>
    refine ⟨s, ?_, h⟩
    have hreload : reloadAt (ClientRegistration.format CS) s.clientRegistrations i =
        .ok s.clientRegistrations := by
      apply reloadAt_self
      intro c _
      exact ClientRegistration.deserialize_serialize hoprf c
    simp only [Store.restore, hreload, Outcome.ok_bind]
    rfl
  -- A restored record has mode `Internal`, whatever it had before.
  | record i =>
    obtain ⟨records, hrecords, hmap⟩ := reloadAt_map ServerRegistration.readBack
      (fun (r : ServerRegistration CS) (_ : r ∈ s.records) =>
        ⟨r.readBack, ServerRegistration.reload_eq hcs.key r, rfl⟩) i
    refine ⟨{ s with records }, ?_, { h with records := hmap.trans h.records }⟩
    simp only [Store.restore, hrecords, Outcome.ok_bind]
    rfl
  | clientLogin i =>
    refine ⟨s, ?_, h⟩
    have hreload : reloadAt (ClientLogin.format CS KE) s.clientLogins i = .ok s.clientLogins := by
      apply reloadAt_self
      intro c hc
      -- Only states that come from a call are in the list.
      rw [h.clientLogins] at hc
      exact (ClientLogin.codec_readsBack hcs (hKE.ke1Message _) (h.readable c hc)).decodeFront
    simp only [Store.restore, hreload, Outcome.ok_bind]
    rfl
  | serverLogin i =>
    refine ⟨s, ?_, h⟩
    have hread : ∀ l : ServerLogin CS KE, (ServerLogin.codec KE).ReadsBack l := by
      intro l
      apply ServerLogin.codec_same.readsBack
      apply Codec.ReadsBack.imap
      · exact hKE.ke2State l.ke2State
      · rfl
    have hreload : reloadAt (ServerLogin.format CS KE) s.serverLogins i = .ok s.serverLogins := by
      apply reloadAt_self
      intro l _
      exact (hread l).decodeFront
    simp only [Store.restore, hreload, Outcome.ok_bind]
    rfl

variable (KE) in
/-- In every run from a setup whose public key belongs to its private key, states
    can be saved and restored at any point: it always succeeds, and the calls get
    the replies that they get without it. -/
def Restorable : Prop :=
  ∀ setup : LocalSetup CS, setup.keypair.pk = CS.KeGroup.publicKey setup.keypair.sk →
    ∀ events : List (Event (Call CS KE) Slot),
      (Store.initial KE setup).run events =
        .ok (replies Store.step (Store.initial KE setup) (Event.calls events))

theorem KeyExchange.Persists.restorable (hKE : KE.Persists)
    (hkey : CS.KeGroup.KeyEncoding .roundTrip) (hoprf : CS.OprfCs.Decodes) : Restorable KE := by
  intro setup hpair events
  have hcs := CipherSuite.encoding_roundTrip hkey hoprf
  apply runEvents_eq_replies (step_restored hKE) (restore_restored hcs hoprf hKE)
  exact
    { setup := rfl
      clientRegistrations := rfl
      records := rfl
      clientLogins := rfl
      serverLogins := rfl
      pair := hpair
      readable := by
        intro c hc
        cases hc }

end simulation

/-! ### The key exchanges -/

/-- A key exchange whose formats read every value back. -/
theorem KeyExchange.Persists.of_laws {KE : KeyExchange CS} (hmessage : KE.MessageLaws .roundTrip)
    (hstate : KE.StateLaws .roundTrip) : KE.Persists where
  ke1Message := hmessage.ke1Message
  ke1State _ := hstate.ke1State _
  ke2State := hstate.ke2State

theorem TripleDh.persists [DiffieHellman CS.KeGroup] (hkey : CS.KeGroup.KeyEncoding .roundTrip) :
    (keyExchange CS).Persists :=
  .of_laws (messageLaws hkey.pk) (stateLaws hkey.sk)

/-- A decapsulation key that comes from the generator is read back. -/
theorem TripleDhKem.persists [DiffieHellman CS.KeGroup] {K : KemCoreWrapper} (hK : K.Correct)
    (hkey : CS.KeGroup.KeyEncoding .roundTrip) : (keyExchange CS K).Persists where
  ke1Message := KemKe1Message.codec_law (L := .roundTrip) hkey.pk
  ke1State := by
    intro r r' result h
    obtain ⟨base, r₁, dk, ek, -, hgen, rfl⟩ := run_generateKe1_eq_ok.mp h
    exact KemKe1State.codec_readsBack hkey.sk (hK.decapsulationKey ⟨r₁, r', hgen⟩)
  ke2State := KemKe2State.codec_lawful.roundTrip

theorem SigmaI.persists {KE : Group} [DiffieHellman KE] {SIG : SignatureProtocol CS KE}
    (hkey : CS.KeGroup.KeyEncoding .roundTrip) (hke : KE.KeyEncoding .roundTrip)
    (hstate : SIG.verifyState.Lawful) : (keyExchange CS KE SIG).Persists where
  ke1Message := Ke1Message.codec_law (L := .roundTrip) hke.pk
  ke1State _ := Ke1State.codec_law (L := .roundTrip) hke.sk _
  ke2State := Ke2State.codec_law (L := .roundTrip) hkey.pk hstate.roundTrip

/-- States can be saved and restored in all key exchanges. -/
theorem states_restorable (CS : CipherSuite) (hkey : CS.KeGroup.KeyEncoding .roundTrip)
    (hoprf : CS.OprfCs.Decodes) :
    (∀ [DiffieHellman CS.KeGroup], Restorable (TripleDh.keyExchange CS)) ∧
    (∀ [DiffieHellman CS.KeGroup] (K : MlKem), K.Correct →
      Restorable (TripleDhKem.keyExchange CS K.core)) ∧
    (∀ (KE : Group) [DiffieHellman KE] (C : SigmaI.EcdsaCurve CS.KeGroup) (H : Hash),
      KE.KeyEncoding .roundTrip →
      Restorable (SigmaI.keyExchange CS KE (SigmaI.Ecdsa.protocol C H))) ∧
    (∀ (KE : Group) [DiffieHellman KE] (G : SigmaI.PureEddsaImpl CS KE),
      KE.KeyEncoding .roundTrip →
      Restorable (SigmaI.keyExchange CS KE (SigmaI.PureEddsa.protocol G))) ∧
    (∀ (E : Curve25519Dalek.EdwardsCurve) (KE : Group) [DiffieHellman KE],
      KE.KeyEncoding .roundTrip →
      Restorable (SigmaI.keyExchange (Ed25519.suite E CS.OprfCs CS.KeHash CS.Ksf) KE
        (SigmaI.HashEddsa.protocol (Ed25519.hashEddsa E _ _ _ KE)))) := by
  refine ⟨?_, ?_, ?_, ?_, ?_⟩
  · intro _
    exact (TripleDh.persists hkey).restorable hkey hoprf
  · intro _ K hK
    exact (TripleDhKem.persists hK.core hkey).restorable hkey hoprf
  · intro KE _ C H hke
    exact (SigmaI.persists hkey hke SigmaI.PreHash.codec_lawful).restorable hkey hoprf
  · intro KE _ G hke
    exact (SigmaI.persists hkey hke SigmaI.CachedMessage.codec_lawful).restorable hkey hoprf
  · intro E KE _ hke
    have hkey := (Ed25519.keyEncoding E).of_lawful (L := .roundTrip)
    exact (SigmaI.persists hkey hke SigmaI.PreHash.codec_lawful).restorable hkey hoprf

/-- The reference instantiation meets the conditions. -/
theorem states_restorable_reference :
    Restorable (TripleDh.keyExchange Reference.suite) ∧
    Restorable (TripleDhKem.keyExchange Reference.suite Reference.mlKem.core) ∧
    Restorable (SigmaI.keyExchange Reference.suite Reference.group Reference.ecdsa) := by
  obtain ⟨hdh, hkem, hecdsa, -, -⟩ := states_restorable Reference.suite
    Reference.group_keyEncoding.of_lawful Reference.voprf_encoding.decodes
  refine ⟨hdh, hkem Reference.mlKem Reference.mlKem_correct, ?_⟩
  exact hecdsa Reference.group Reference.curve Reference.hash
    Reference.group_keyEncoding.of_lawful

end OpaqueVx
