import OpaqueVx.Lib.History
import OpaqueVx.Persistence
import OpaqueVx.Sessions

/-! # Histories of an open network

  All clients and the server in one store, and calls on it in any order with any
  arguments: whoever makes the calls reads every message, and replaces, repeats, mixes
  up and makes up messages as it likes. What the store keeps is read off the history of
  the calls, so every login in a run is one of the steps of the protocol on what earlier
  entries of the history left behind. -/

namespace OpaqueVx

open Lib

variable {CS : CipherSuite} {KE : KeyExchange CS}

/-! ### What a history says of the store -/

abbrev History (CS : CipherSuite) (KE : KeyExchange CS) := List (Call CS KE × Reply CS KE)

/-- A registration that a client has started. -/
structure RegistrationOpening (CS : CipherSuite) where
  password : Bytes
  rng : Rng
  result : ClientRegistrationStartResult CS

/-- A login that a client has started. -/
structure ClientOpening (KE : KeyExchange CS) where
  password : Bytes
  rng : Rng
  result : ClientLoginStartResult CS KE

/-- A login that the server has answered. -/
structure ServerOpening (KE : KeyExchange CS) where
  record : Option Nat
  request : CredentialRequest CS KE
  credentialIdentifier : Bytes
  params : ServerLoginParameters
  rng : Rng
  result : ServerLoginStartResult CS KE

/-- A login that a client has finished. -/
structure ClientClosing (KE : KeyExchange CS) where
  login : Nat
  password : Bytes
  response : CredentialResponse CS KE
  params : ClientLoginFinishParameters CS
  rng : Rng
  result : ClientLoginFinishResult CS KE

/-- A login that the server has accepted. -/
structure ServerClosing (KE : KeyExchange CS) where
  login : Nat
  message : CredentialFinalization CS KE
  params : ServerLoginParameters
  result : ServerLoginFinishResult CS

namespace History

def registrationOpening : Call CS KE × Reply CS KE → Option (RegistrationOpening CS)
  | (.clientRegistrationStart password rng, .clientRegistrationStart (.ok (result, _))) =>
    some { password, rng, result }
  | _ => none

def upload : Call CS KE × Reply CS KE → Option (RegistrationUpload CS)
  | (.serverRegistrationFinish message, _) => some message
  | _ => none

def clientOpening : Call CS KE × Reply CS KE → Option (ClientOpening KE)
  | (.clientLoginStart password rng, .clientLoginStart (.ok (result, _))) =>
    some { password, rng, result }
  | _ => none

def serverOpening : Call CS KE × Reply CS KE → Option (ServerOpening KE)
  | (.serverLoginStart record request credentialIdentifier params rng,
      .serverLoginStart (.ok (result, _))) =>
    some { record, request, credentialIdentifier, params, rng, result }
  | _ => none

def clientClosing : Call CS KE × Reply CS KE → Option (ClientClosing KE)
  | (.clientLoginFinish login password response params rng,
      .clientLoginFinish (.ok (result, _))) =>
    some { login, password, response, params, rng, result }
  | _ => none

def serverClosing : Call CS KE × Reply CS KE → Option (ServerClosing KE)
  | (.serverLoginFinish login message params, .serverLoginFinish (.ok result)) =>
    some { login, message, params, result }
  | _ => none

/-- The registrations that clients have started, in order. -/
def registrationOpenings (t : History CS KE) : List (RegistrationOpening CS) :=
  t.filterMap registrationOpening

/-- The uploads that the server has taken, in order. -/
def uploads (t : History CS KE) : List (RegistrationUpload CS) := t.filterMap upload

/-- The logins that clients have started, in order. -/
def clientOpenings (t : History CS KE) : List (ClientOpening KE) := t.filterMap clientOpening

/-- The logins that the server has answered, in order. -/
def serverOpenings (t : History CS KE) : List (ServerOpening KE) := t.filterMap serverOpening

/-- The logins that clients have finished, in order. -/
def clientClosings (t : History CS KE) : List (ClientClosing KE) := t.filterMap clientClosing

/-- The logins that the server has accepted, in order. -/
def serverClosings (t : History CS KE) : List (ServerClosing KE) := t.filterMap serverClosing

end History

/-- The store is what its history says. -/
structure Store.Logged (setup : LocalSetup CS) (t : History CS KE) (s : Store CS KE) : Prop where
  setup : s.setup = setup
  clientRegistrations :
    s.clientRegistrations = t.registrationOpenings.map fun o => o.result.state
  records : s.records = t.uploads.map ServerRegistration.finish
  clientLogins : s.clientLogins = t.clientOpenings.map fun o => o.result.state
  serverLogins : s.serverLogins = t.serverOpenings.map fun o => o.result.state

namespace Store

variable {setup : LocalSetup CS} {t : History CS KE} {s : Store CS KE}

theorem initial_logged (setup : LocalSetup CS) : (initial KE setup).Logged setup [] where
  setup := rfl
  clientRegistrations := rfl
  records := rfl
  clientLogins := rfl
  serverLogins := rfl

/-- A call whose entry opens nothing, on a store that stays as it is. -/
theorem Logged.unchanged (h : s.Logged setup t) {e : Call CS KE × Reply CS KE}
    (hregistration : History.registrationOpening e = none) (hupload : History.upload e = none)
    (hclient : History.clientOpening e = none) (hserver : History.serverOpening e = none) :
    s.Logged setup (t ++ [e]) where
  setup := h.setup
  clientRegistrations := by
    simp [h.clientRegistrations, History.registrationOpenings, hregistration]
  records := by simp [h.records, History.uploads, hupload]
  clientLogins := by simp [h.clientLogins, History.clientOpenings, hclient]
  serverLogins := by simp [h.serverLogins, History.serverOpenings, hserver]

/-- The state that an answer leaves is the one of its entry. -/
theorem Logged.serverLoginStart (h : s.Logged setup t) (record : Option (ServerRegistration CS))
    (index : Option Nat) (request : CredentialRequest CS KE) (credentialIdentifier : Bytes)
    (params : ServerLoginParameters) (rng : Rng) :
    let answered := s.serverLoginStart record request credentialIdentifier params rng
    answered.1.Logged setup
      (t ++ [(.serverLoginStart index request credentialIdentifier params rng, answered.2)]) := by
  simp only [Store.serverLoginStart]
  cases (ServerLogin.start s.setup record request credentialIdentifier params).run rng with
  | ok p =>
    have hkept := h.serverLogins
    exact
      { setup := h.setup
        clientRegistrations := by
          simp [h.clientRegistrations, History.registrationOpenings, History.registrationOpening]
        records := by simp [h.records, History.uploads, History.upload]
        clientLogins := by simp [h.clientLogins, History.clientOpenings, History.clientOpening]
        serverLogins := by
          simp [keep, hkept, History.serverOpenings, History.serverOpening] }
  | err e => exact h.unchanged rfl rfl rfl rfl
  | panicked => exact h.unchanged rfl rfl rfl rfl

/-- One call keeps the account right. -/
theorem Logged.step (h : s.Logged setup t) (c : Call CS KE) :
    (s.step c).1.Logged setup (t ++ [(c, (s.step c).2)]) := by
  cases c with
  | clientRegistrationStart password rng =>
    simp only [Store.step]
    cases (ClientRegistration.start password).run rng with
    | ok p =>
      have hkept := h.clientRegistrations
      exact
        { setup := h.setup
          clientRegistrations := by
            simp [keep, hkept, History.registrationOpenings, History.registrationOpening]
          records := by simp [h.records, History.uploads, History.upload]
          clientLogins := by simp [h.clientLogins, History.clientOpenings, History.clientOpening]
          serverLogins := by simp [h.serverLogins, History.serverOpenings, History.serverOpening] }
    | err e => exact h.unchanged rfl rfl rfl rfl
    | panicked => exact h.unchanged rfl rfl rfl rfl
  -- Steps that keep no state leave the lists of the account as they were.
  | serverRegistrationStart message credentialIdentifier => exact h.unchanged rfl rfl rfl rfl
  | clientRegistrationFinish state password response params rng =>
    simp only [Store.step]
    cases s.clientRegistrations[state]? with
    | none => exact h.unchanged rfl rfl rfl rfl
    | some c => exact h.unchanged rfl rfl rfl rfl
  | serverRegistrationFinish message =>
    exact
      { setup := h.setup
        clientRegistrations := by
          simp [Store.step, h.clientRegistrations, History.registrationOpenings,
            History.registrationOpening]
        records := by simp [Store.step, h.records, History.uploads, History.upload]
        clientLogins := by
          simp [Store.step, h.clientLogins, History.clientOpenings, History.clientOpening]
        serverLogins := by
          simp [Store.step, h.serverLogins, History.serverOpenings, History.serverOpening] }
  | clientLoginStart password rng =>
    simp only [Store.step]
    cases (ClientLogin.start KE password).run rng with
    | ok p =>
      have hkept := h.clientLogins
      exact
        { setup := h.setup
          clientRegistrations := by
            simp [h.clientRegistrations, History.registrationOpenings, History.registrationOpening]
          records := by simp [h.records, History.uploads, History.upload]
          clientLogins := by simp [keep, hkept, History.clientOpenings, History.clientOpening]
          serverLogins := by simp [h.serverLogins, History.serverOpenings, History.serverOpening] }
    | err e => exact h.unchanged rfl rfl rfl rfl
    | panicked => exact h.unchanged rfl rfl rfl rfl
  | serverLoginStart record request credentialIdentifier params rng =>
    cases record with
    | none => exact h.serverLoginStart none none request credentialIdentifier params rng
    | some k =>
      simp only [Store.step]
      -- Without the record there is no answer; with it the answer is that of the login with the
      -- record.
      cases s.records[k]? with
      | none => exact h.unchanged rfl rfl rfl rfl
      | some record =>
        exact h.serverLoginStart (some record) (some k) request credentialIdentifier params rng
  | clientLoginFinish state password response params rng =>
    simp only [Store.step]
    cases s.clientLogins[state]? with
    | none => exact h.unchanged rfl rfl rfl rfl
    | some c => exact h.unchanged rfl rfl rfl rfl
  | serverLoginFinish state message params =>
    simp only [Store.step]
    cases s.serverLogins[state]? with
    | none => exact h.unchanged rfl rfl rfl rfl
    | some l => exact h.unchanged rfl rfl rfl rfl

end Store

/-! ### Entries of a run -/

/-- The history of a run from a setup. -/
def runHistory (KE : KeyExchange CS) (setup : LocalSetup CS) (calls : List (Call CS KE)) :
    History CS KE :=
  history Store.step (Store.initial KE setup) calls

/-- An opening stays at its position. -/
theorem getElem?_filterMap_of_extends {α β : Type} {f : α → Option β} {past t : List α}
    (hpast : past <+: t) {i : Nat} {b : β} (h : (past.filterMap f)[i]? = some b) :
    (t.filterMap f)[i]? = some b := by
  obtain ⟨rest, rfl⟩ := hpast
  obtain ⟨hi, -⟩ := List.getElem?_eq_some_iff.mp h
  rw [List.filterMap_append, List.getElem?_append_left hi]
  exact h

/-- What is kept at a position is the state of the opening there. -/
theorem exists_opening {α β γ : Type} {f : α → Option β} {g : β → γ} {past t : List α} {i : Nat}
    {c : γ} (hpast : past <+: t) (h : ((past.filterMap f).map g)[i]? = some c) :
    ∃ b, (t.filterMap f)[i]? = some b ∧ g b = c := by
  rw [List.getElem?_map, Option.map_eq_some_iff] at h
  obtain ⟨b, hb, hgb⟩ := h
  exact ⟨b, getElem?_filterMap_of_extends hpast hb, hgb⟩

section entries

variable {setup : LocalSetup CS} {calls : List (Call CS KE)}

/-- An entry is a step of a store that the entries before it account for. -/
theorem of_mem_runHistory {c : Call CS KE} {r : Reply CS KE}
    (h : (c, r) ∈ runHistory KE setup calls) :
    ∃ (past : History CS KE) (s : Store CS KE), past <+: runHistory KE setup calls ∧
      s.Logged setup past ∧ r = (s.step c).2 := by
  obtain ⟨earlier, later, rfl, hr⟩ := of_mem_history h
  refine ⟨history Store.step (Store.initial KE setup) earlier, _, ?_, ?_, hr⟩
  · rw [runHistory, history_append]
    exact List.prefix_append _ _
  · exact history_invariant (fun past s c hs => Store.Logged.step (t := past) (s := s) hs c)
      (Store.initial_logged setup) earlier

/-- Every login that a client has started was started by the step of the client. -/
theorem clientOpening_start {o : ClientOpening KE}
    (h : o ∈ (runHistory KE setup calls).clientOpenings) :
    ∃ r', (ClientLogin.start KE o.password).run o.rng = .ok (o.result, r') := by
  obtain ⟨⟨c, r⟩, hmem, ho⟩ := List.mem_filterMap.mp h
  unfold History.clientOpening at ho
  split at ho
  · rename_i password rng result r' heq
    injection heq with hc hr
    injection ho with ho
    subst hc hr ho
    obtain ⟨past, s, -, -, hreply⟩ := of_mem_runHistory hmem
    injection hreply with hreply
    exact ⟨r', hreply.symm⟩
  · cases ho

/-- The record that the server answered with. -/
def ServerOpening.passwordFile (t : History CS KE) (o : ServerOpening KE) :
    Option (ServerRegistration CS) :=
  o.record.bind fun k => t.uploads[k]?.map ServerRegistration.finish

/-- Every login that the server has answered was answered by the step of the server,
    with a record that was uploaded before. -/
theorem serverOpening_start {o : ServerOpening KE}
    (h : o ∈ (runHistory KE setup calls).serverOpenings) :
    ∃ r', (ServerLogin.start setup (o.passwordFile (runHistory KE setup calls)) o.request
      o.credentialIdentifier o.params).run o.rng = .ok (o.result, r') := by
  obtain ⟨⟨c, r⟩, hmem, ho⟩ := List.mem_filterMap.mp h
  unfold History.serverOpening at ho
  split at ho
  · rename_i record request credentialIdentifier params rng result r' heq
    injection heq with hc hr
    injection ho with ho
    subst hc hr ho
    obtain ⟨past, s, hpast, hs, hreply⟩ := of_mem_runHistory hmem
    cases record with
    | none =>
      injection hreply with hreply
      rw [hs.setup] at hreply
      exact ⟨r', hreply.symm⟩
    | some k =>
      simp only [Store.step] at hreply
      cases hk : s.records[k]? with
      | none =>
        rw [hk] at hreply
        cases hreply
      | some file =>
        rw [hk] at hreply
        injection hreply with hreply
        rw [hs.setup] at hreply
        -- The record is one of the uploads so far.
        rw [hs.records] at hk
        obtain ⟨upload, hupload, rfl⟩ := exists_opening hpast hk
        have hupload : (runHistory KE setup calls).uploads[k]? = some upload := hupload
        refine ⟨r', ?_⟩
        simp only [ServerOpening.passwordFile, Option.bind_some, hupload, Option.map_some]
        exact hreply.symm
  · cases ho

/-- A client that finishes a login has started it. -/
theorem clientClosing_finish {f : ClientClosing KE}
    (h : f ∈ (runHistory KE setup calls).clientClosings) :
    ∃ o, (runHistory KE setup calls).clientOpenings[f.login]? = some o ∧
      ∃ r', (o.result.state.finish f.password f.response f.params).run f.rng =
        .ok (f.result, r') := by
  obtain ⟨⟨c, r⟩, hmem, hf⟩ := List.mem_filterMap.mp h
  unfold History.clientClosing at hf
  split at hf
  · rename_i login password response params rng result r' heq
    injection heq with hc hr
    injection hf with hf
    subst hc hr hf
    obtain ⟨past, s, hpast, hs, hreply⟩ := of_mem_runHistory hmem
    simp only [Store.step] at hreply
    cases hlogin : s.clientLogins[login]? with
    | none =>
      rw [hlogin] at hreply
      cases hreply
    | some state =>
      rw [hlogin] at hreply
      injection hreply with hreply
      rw [hs.clientLogins] at hlogin
      obtain ⟨o, ho, rfl⟩ := exists_opening hpast hlogin
      exact ⟨o, ho, r', hreply.symm⟩
  · cases hf

/-- A login that the server accepts is one that it has answered. -/
theorem serverClosing_finish {a : ServerClosing KE}
    (h : a ∈ (runHistory KE setup calls).serverClosings) :
    ∃ o, (runHistory KE setup calls).serverOpenings[a.login]? = some o ∧
      o.result.state.finish a.message a.params = .ok a.result := by
  obtain ⟨⟨c, r⟩, hmem, ha⟩ := List.mem_filterMap.mp h
  unfold History.serverClosing at ha
  split at ha
  · rename_i login message params result heq
    injection heq with hc hr
    injection ha with ha
    subst hc hr ha
    obtain ⟨past, s, hpast, hs, hreply⟩ := of_mem_runHistory hmem
    simp only [Store.step] at hreply
    cases hlogin : s.serverLogins[login]? with
    | none =>
      rw [hlogin] at hreply
      cases hreply
    | some state =>
      rw [hlogin] at hreply
      injection hreply with hreply
      rw [hs.serverLogins] at hlogin
      obtain ⟨o, ho, rfl⟩ := exists_opening hpast hlogin
      exact ⟨o, ho, hreply.symm⟩
  · cases ha

/-- A client that finishes a registration has started it. -/
theorem clientRegistrationFinish_opened {n : Nat} {password : Bytes}
    {response : RegistrationResponse CS} {params : ClientRegistrationFinishParameters CS}
    {rng r' : Rng} {result : ClientRegistrationFinishResult CS}
    (h : (Call.clientRegistrationFinish n password response params rng,
      Reply.clientRegistrationFinish (.ok (result, r'))) ∈ runHistory KE setup calls) :
    ∃ o, (runHistory KE setup calls).registrationOpenings[n]? = some o ∧
      (o.result.state.finish password response params).run rng = .ok (result, r') := by
  obtain ⟨past, s, hpast, hs, hreply⟩ := of_mem_runHistory h
  simp only [Store.step] at hreply
  cases hn : s.clientRegistrations[n]? with
  | none =>
    rw [hn] at hreply
    cases hreply
  | some state =>
    rw [hn] at hreply
    injection hreply with hreply
    rw [hs.clientRegistrations] at hn
    obtain ⟨o, ho, rfl⟩ := exists_opening hpast hn
    exact ⟨o, ho, hreply.symm⟩

end entries

end OpaqueVx
