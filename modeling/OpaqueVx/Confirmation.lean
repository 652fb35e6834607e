import OpaqueVx.Agreement
import OpaqueVx.KeyDerivation

/-! # What a MAC confirms

  Each party of a login makes one MAC and checks one. The MAC that it checks may come
  from anywhere: from the other party, from another login, or from a party of its own
  kind. What follows from the check is the same in each case, and so it is said once:
  two runs, of either party, in which a MAC is the same have the same session, the
  same secrets and the same key, and it is the MAC of the same party in both. -/

namespace OpaqueVx

open Lib
open SigmaI (Role)

variable {CS : CipherSuite}

/-! ### Following a MAC back to the secrets -/

section chain

variable {H : Hash} {xs ys : List PrimCall}

/-- A handshake secret comes from one transcript digest and one string of secrets. -/
theorem handshakeSecret_inj (h : ¬ ExhibitsCollision H xs ys) {ikm ikm' : Bytes}
    {digest digest' : Output H} (hx : ∀ c ∈ scheduleCalls H ikm digest.bytes, c ∈ xs)
    (hy : ∀ c ∈ scheduleCalls H ikm' digest'.bytes, c ∈ ys)
    (hsecret : handshakeSecret H ikm digest.bytes = handshakeSecret H ikm' digest'.bytes) :
    digest = digest' ∧ ikm = ikm' := by
  -- HKDF-Expand: the digests are in the infos.
  have hcall := eq_of_not_exhibits h
    (hx (.expand (H.extract ikm).bytes (labelInfo H strHandshakeSecret digest.bytes)
      H.outputSize) (by simp [scheduleCalls]))
    (hy (.expand (H.extract ikm').bytes (labelInfo H strHandshakeSecret digest'.bytes)
      H.outputSize) (by simp [scheduleCalls]))
    rfl (congrArg GenericArray.bytes hsecret)
  injection hcall with hprk hinfo _
  -- HKDF-Extract: the secrets agree as well.
  have hcall := eq_of_not_exhibits h (hx (.extract ikm) (by simp [scheduleCalls]))
    (hy (.extract ikm') (by simp [scheduleCalls])) rfl hprk
  injection hcall with hikm
  exact ⟨GenericArray.bytes_injective (labelInfo_inj hinfo (by simp)), hikm⟩

/-- The label of the key of a party's MAC. -/
def macLabel : Role → Bytes
  | .server => strServerMac
  | .client => strClientMac

theorem macLabel_length (role : Role) : (macLabel role).length = 9 := by
  cases role <;> decide

theorem macLabel_inj {role role' : Role} (h : macLabel role = macLabel role') : role = role' := by
  cases role <;> cases role' <;> first | rfl | exact absurd h (by decide)

/-- The key of a party's MAC. -/
def macKey (H : Hash) (ikm digest : Bytes) (role : Role) : Output H :=
  H.expand (handshakeSecret H ikm digest).bytes (labelInfo H (macLabel role) []) H.outputSize

theorem macKey_mem (H : Hash) (ikm digest : Bytes) (role : Role) :
    .expand (handshakeSecret H ikm digest).bytes (labelInfo H (macLabel role) []) H.outputSize ∈
      scheduleCalls H ikm digest := by
  cases role <;> simp [scheduleCalls, macLabel]

/-- The key of a MAC belongs to one party, one digest and one string of secrets. -/
theorem macKey_inj (h : ¬ ExhibitsCollision H xs ys) {role role' : Role} {ikm ikm' : Bytes}
    {digest digest' : Output H} (hx : ∀ c ∈ scheduleCalls H ikm digest.bytes, c ∈ xs)
    (hy : ∀ c ∈ scheduleCalls H ikm' digest'.bytes, c ∈ ys)
    (hkey : (macKey H ikm digest.bytes role).bytes =
      (macKey H ikm' digest'.bytes role').bytes) :
    role = role' ∧ digest = digest' ∧ ikm = ikm' := by
  have hcall := eq_of_not_exhibits h (hx _ (macKey_mem H ikm digest.bytes role))
    (hy _ (macKey_mem H ikm' digest'.bytes role')) rfl hkey
  injection hcall with hsecret hinfo _
  -- The labels differ from party to party, so the keys of the two MACs never coincide.
  have hlength := macLabel_length role
  have hlength' := macLabel_length role'
  obtain ⟨hlabel, -⟩ := Purpose.labelInfo_inj_accepted (by omega) (by omega) hinfo
  refine ⟨macLabel_inj hlabel, ?_⟩
  exact handshakeSecret_inj h hx hy (GenericArray.bytes_injective hsecret)

end chain

/-! ### What a run comes down to -/

/-- The bytes that were hashed before the first MAC, the shared secrets, and what the
    MACs of the two parties are over. -/
structure Handshake where
  absorbed : Bytes
  secrets : Bytes
  macData : Role → Bytes

namespace Handshake

variable {H : Hash}

def digest (H : Hash) (v : Handshake) : Output H := H.digest v.absorbed

def sessionKey (H : Hash) (v : Handshake) : Output H :=
  (keySchedule H v.secrets (v.digest H).bytes).sessionKey

/-- The MAC of one of the parties. -/
def mac (H : Hash) (v : Handshake) (role : Role) : Output H :=
  H.hmac (macKey H v.secrets (v.digest H).bytes role).bytes (v.macData role)

/-- The calls up to the two MACs. -/
def calls (H : Hash) (v : Handshake) : List PrimCall :=
  partyCalls H v.absorbed v.secrets (v.macData .server) (v.macData .client)

theorem mac_mem (H : Hash) (v : Handshake) (role : Role) :
    .hmac (macKey H v.secrets (v.digest H).bytes role).bytes (v.macData role) ∈ v.calls H := by
  cases role <;> simp [calls, partyCalls, macKey, macLabel, digest, keySchedule]

theorem schedule_subset (H : Hash) (v : Handshake) :
    ∀ c ∈ scheduleCalls H v.secrets (v.digest H).bytes, c ∈ v.calls H :=
  scheduleCalls_subset_party _ _ _ _

/-- A MAC belongs to one party, one transcript and one string of secrets. -/
theorem mac_inj {v w : Handshake} (h : ¬ ExhibitsCollision H (v.calls H) (w.calls H))
    {role role' : Role} (hmac : v.mac H role = w.mac H role') :
    role = role' ∧ v.absorbed = w.absorbed ∧ v.secrets = w.secrets := by
  -- HMAC: the keys agree.
  have hcall := eq_of_not_exhibits h (mac_mem H v role) (mac_mem H w role') rfl
    (congrArg GenericArray.bytes hmac)
  injection hcall with hkey _
  obtain ⟨hrole, hdigest, hsecrets⟩ := macKey_inj h (schedule_subset H v) (schedule_subset H w) hkey
  -- Hash: the transcripts agree.
  have hcall := eq_of_not_exhibits h (a := .digest v.absorbed) (b := .digest w.absorbed)
    (by simp [calls, partyCalls]) (by simp [calls, partyCalls]) rfl
    (congrArg GenericArray.bytes hdigest)
  injection hcall with habsorbed
  exact ⟨hrole, habsorbed, hsecrets⟩

/-- The handshake of 3DH: the server's MAC is over the digest, the client's over the
    digest of the transcript with the server's MAC at the end. -/
def ofMacPair (H : Hash) (absorbed ikm : Bytes) : Handshake where
  absorbed := absorbed
  secrets := ikm
  macData
    | .server => (H.digest absorbed).bytes
    | .client =>
      (H.digest (absorbed ++ (macPair absorbed ikm : MacPair H).serverMac.bytes)).bytes

/-- The handshake of SIGMA-I: the MACs are over the encoded identifiers. -/
def ofIdentifiers {G : Group} (absorbed ikm : Bytes) (identifiers : SerializedIdentifiers G) :
    Handshake where
  absorbed := absorbed
  secrets := ikm
  macData
    | .server => identifiers.server.iter.flatten
    | .client => identifiers.client.iter.flatten

end Handshake

/-! ### Runs of either party -/

/-- A run of one of the parties that returned a result. -/
inductive PartyRun (KE : KeyExchange CS) where
  | client (run : ClientRun KE) (sent : GenerateKe3Result CS.KeHash KE.KE3Message)
      (returns : run.Returns sent)
  | server (run : ServerRun KE) (builder : KE.KE2Builder)
      (made : GenerateKe2Result KE.KE2State KE.KE2Message) (returns : run.Returns builder made)

/-- Where the MACs of a key exchange are, what the runs come down to, and the part of
    a session that all key exchanges have. -/
structure Confirmation (KE : KeyExchange CS) extends Observation KE where
  view : Session → SessionView CS EphemeralGroup
  serverMac : KE.KE2Message → Output CS.KeHash
  clientMac : KE.KE3Message → Output CS.KeHash
  expectedMac : KE.KE2State → Output CS.KeHash
  stateKey : KE.KE2State → Output CS.KeHash
  clientHandshake : ClientRun KE → Handshake
  serverHandshake : ServerRun KE → KE.KE2Builder → Handshake

namespace PartyRun

variable {KE : KeyExchange CS} (O : Confirmation KE)

/-- The session that the party takes part in. -/
def session : PartyRun KE → O.Session
  | client run _ _ => O.clientSession run
  | server run _ made _ => O.serverSession run made.message

def handshake : PartyRun KE → Handshake
  | client run _ _ => O.clientHandshake run
  | server run builder _ _ => O.serverHandshake run builder

/-- The session key that the party has, or will return once the other confirms it. -/
def sessionKey : PartyRun KE → Output CS.KeHash
  | client _ sent _ => sent.sessionKey
  | server _ _ made _ => O.stateKey made.state

/-- The MAC of either party: the client finds the server's MAC in the message that it
    received, the server keeps the client's MAC in its state. -/
def mac : PartyRun KE → Role → Output CS.KeHash
  | client run _ _, .server => O.serverMac run.ke2Message
  | client _ sent _, .client => O.clientMac sent.message
  | server _ _ made _, .server => O.serverMac made.message
  | server _ _ made _, .client => O.expectedMac made.state

def calls (p : PartyRun KE) : List PrimCall := (p.handshake O).calls CS.KeHash

/-- The parts of the login that a party hands to the key exchange. -/
def parts : PartyRun KE → SerializedCredentialRequest CS × SerializedCredentialResponse CS ×
    SerializedIdentifiers CS.KeGroup × SerializedContext
  | client run _ _ =>
    (run.credentialRequest, run.credentialResponse, run.identifiers, run.context)
  | server run _ _ _ =>
    (run.credentialRequest, run.credentialResponse, run.identifiers, run.context)

end PartyRun

/-- Two runs with a MAC in common. -/
structure SameHandshake {KE : KeyExchange CS} (O : Confirmation KE) (p q : PartyRun KE) :
    Prop where
  session : p.session O = q.session O
  secrets : (p.handshake O).secrets = (q.handshake O).secrets
  sessionKey : p.sessionKey O = q.sessionKey O
  mac : ∀ role, p.mac O role = q.mac O role

/-- A MAC that occurs in two runs is the MAC of one party in both, and the runs are of
    one session and have one key, unless their calls contain a collision. -/
def MacsConfirm (KE : KeyExchange CS) (O : Confirmation KE) : Prop :=
  ∀ (p q : PartyRun KE) (role role' : Role), p.mac O role = q.mac O role' →
    (role = role' ∧ SameHandshake O p q) ∨
      ExhibitsCollision CS.KeHash (p.calls O) (q.calls O)

/-- What has to be shown of the runs of a key exchange. -/
structure Confirmation.Lawful {KE : KeyExchange CS} (O : Confirmation KE) : Prop where
  mac : ∀ (p : PartyRun KE) role, p.mac O role = (p.handshake O).mac CS.KeHash role
  sessionKey : ∀ p : PartyRun KE, p.sessionKey O = (p.handshake O).sessionKey CS.KeHash
  same : ∀ p q : PartyRun KE, (p.handshake O).absorbed = (q.handshake O).absorbed →
    (p.handshake O).secrets = (q.handshake O).secrets →
      p.session O = q.session O ∧ p.handshake O = q.handshake O
  view : ∀ p : PartyRun KE, ∃ ke1Message serverNonce serverEPk,
    O.view (p.session O) = SessionView.of p.parts.2.2.2 p.parts.2.2.1 p.parts.1 ke1Message
      p.parts.2.1 serverNonce serverEPk

theorem Confirmation.Lawful.macsConfirm {KE : KeyExchange CS} {O : Confirmation KE}
    (h : O.Lawful) : MacsConfirm KE O := by
  intro p q role role' hmac
  apply or_exhibits
  intro hno
  rw [h.mac, h.mac] at hmac
  obtain ⟨hrole, habsorbed, hsecrets⟩ := Handshake.mac_inj hno hmac
  obtain ⟨hsession, hhandshake⟩ := h.same p q habsorbed hsecrets
  refine ⟨hrole, hsession, hsecrets, ?_, ?_⟩
  · rw [h.sessionKey, h.sessionKey, hhandshake]
  · intro role
    rw [h.mac, h.mac, hhandshake]

/-- Two runs of one session have the request, the response, the identifiers and the
    context in common. -/
theorem Confirmation.Lawful.parts_agree {KE : KeyExchange CS} {O : Confirmation KE}
    (h : O.Lawful) {p q : PartyRun KE} (hsession : p.session O = q.session O) :
    p.parts.1 = q.parts.1 ∧ p.parts.2.1 = q.parts.2.1 ∧
      p.parts.2.2.1.client.bytes = q.parts.2.2.1.client.bytes ∧
      p.parts.2.2.1.server.bytes = q.parts.2.2.1.server.bytes ∧
      p.parts.2.2.2.context = q.parts.2.2.2.context := by
  obtain ⟨_, _, _, hp⟩ := h.view p
  obtain ⟨_, _, _, hq⟩ := h.view q
  have hview := congrArg O.view hsession
  rw [hp, hq] at hview
  exact ⟨congrArg SessionView.credentialRequest hview,
    congrArg SessionView.credentialResponse hview, congrArg SessionView.clientIdentifier hview,
    congrArg SessionView.serverIdentifier hview, congrArg SessionView.context hview⟩

/-! ### 3DH -/

namespace TripleDh

variable [DiffieHellman CS.KeGroup]

variable (CS) in
@[reducible] def confirmation : Confirmation (keyExchange CS) where
  toObservation := observation CS
  view v := v
  serverMac m := m.mac
  clientMac m := m.mac
  expectedMac st := st.expectedMac
  stateKey st := st.sessionKey
  clientHandshake c := .ofMacPair CS.KeHash
    (transcript c.context c.identifiers c.credentialRequest c.ke1Message.toIter
      c.credentialResponse c.ke2Message.serverNonce
      (CS.KeGroup.serializePk c.ke2Message.serverEPk)).absorbed
    (clientIkm c.ke1State c.ke2Message c.serverSPk c.clientSSk)
  serverHandshake s builder := .ofMacPair CS.KeHash builder.transcriptHasher.absorbed
    (serverIkm builder s.input)

/-- The session of a run is what its transcript encodes. -/
theorem exists_transcript (p : PartyRun (keyExchange CS)) :
    ∃ context identifiers credentialRequest ke1Message credentialResponse serverNonce serverEPk ikm,
      p.session (confirmation CS) = SessionView.of context identifiers credentialRequest
        ke1Message credentialResponse serverNonce serverEPk ∧
      p.handshake (confirmation CS) = .ofMacPair CS.KeHash
        (transcript context identifiers credentialRequest ke1Message credentialResponse serverNonce
          serverEPk).absorbed ikm := by
  cases p with
  | client c sent returns => exact ⟨_, _, _, _, _, _, _, _, rfl, rfl⟩
  | server s builder made returns =>
    obtain ⟨⟨r, hbuilder⟩, hbuild⟩ := returns
    obtain ⟨sk, -, rfl, -⟩ := run_ke2Builder_eq_ok.mp hbuilder
    obtain ⟨-, -, hmessage⟩ := buildKe2_eq_ok.mp hbuild
    refine ⟨_, _, _, _, _, _, _, _, ?_, rfl⟩
    show serverSession s made.message = _
    rw [serverSession, hmessage]
    rfl

theorem confirmation_lawful : (confirmation CS).Lawful where
  mac p role := by
    cases p with
    | client c sent returns =>
      obtain ⟨r, hclient⟩ := returns
      obtain ⟨-, -, hmac, rfl⟩ := run_generateKe3_eq_ok.mp hclient
      -- The client compares the server's MAC and makes its own.
      cases role with
      | server => exact hmac.symm
      | client => rfl
    | server s builder made returns =>
      obtain ⟨-, hbuild⟩ := returns
      obtain ⟨-, hstate, hmessage⟩ := buildKe2_eq_ok.mp hbuild
      cases role with
      | server => exact congrArg Ke2Message.mac hmessage
      | client => exact congrArg Ke2State.expectedMac hstate
  sessionKey p := by
    cases p with
    | client c sent returns =>
      obtain ⟨r, hclient⟩ := returns
      obtain ⟨-, -, -, rfl⟩ := run_generateKe3_eq_ok.mp hclient
      rfl
    | server s builder made returns =>
      obtain ⟨-, hbuild⟩ := returns
      obtain ⟨-, hstate, -⟩ := buildKe2_eq_ok.mp hbuild
      exact congrArg Ke2State.sessionKey hstate
  same p q habsorbed hsecrets := by
    obtain ⟨_, _, _, _, _, _, _, _, hp, hp'⟩ := exists_transcript p
    obtain ⟨_, _, _, _, _, _, _, _, hq, hq'⟩ := exists_transcript q
    simp only [hp', hq', Handshake.ofMacPair] at habsorbed hsecrets
    obtain ⟨hsession, -⟩ := transcript_append_inj (congrArg (· ++ []) habsorbed)
    refine ⟨by rw [hp, hq, hsession], ?_⟩
    rw [hp', hq', habsorbed, hsecrets]
  view p := by
    cases p with
    | client c sent returns => exact ⟨_, _, _, rfl⟩
    | server s builder made returns => exact ⟨_, _, _, rfl⟩

end TripleDh

/-! ### 3DH with a KEM -/

namespace TripleDhKem

variable [DiffieHellman CS.KeGroup] {K : KemCoreWrapper}

/-- The secrets of the client, with the one that it decapsulates. -/
def clientSecrets (c : ClientRun (keyExchange CS K)) : Bytes :=
  match K.decapsulate c.ke1State.kemDecapsulationKey c.ke2Message.kemCiphertext with
  | .ok ss => clientIkm c.ke1State c.ke2Message c.serverSPk c.clientSSk ss
  | _ => []

variable (CS K) in
@[reducible] def confirmation : Confirmation (keyExchange CS K) where
  toObservation := observation CS K
  view v := v.1
  serverMac m := m.dhMessage.mac
  clientMac m := m.mac
  expectedMac st := st.baseState.expectedMac
  stateKey st := st.baseState.sessionKey
  clientHandshake c := .ofMacPair CS.KeHash
    (kemTranscript c.context c.identifiers c.credentialRequest c.ke1Message c.credentialResponse
      c.ke2Message.dhMessage.serverNonce c.ke2Message.dhMessage.serverEPk
      c.ke2Message.kemCiphertext) (clientSecrets c)
  serverHandshake s builder := .ofMacPair CS.KeHash builder.transcriptHasher.absorbed
    (serverIkm builder s.input)

/-- The session of a run is what its transcript, the encapsulation key and the
    ciphertext encode. -/
theorem exists_transcript (p : PartyRun (keyExchange CS K)) :
    ∃ context identifiers credentialRequest ke1Message credentialResponse serverNonce serverEPk
        kemEncapsulationKey kemCiphertext ikm,
      p.session (confirmation CS K) = (SessionView.of context identifiers credentialRequest
        ke1Message credentialResponse serverNonce serverEPk, kemEncapsulationKey, kemCiphertext) ∧
      p.handshake (confirmation CS K) = .ofMacPair CS.KeHash
        ((transcript context identifiers credentialRequest ke1Message credentialResponse
          serverNonce serverEPk).absorbed ++
            (kemEncapsulationKey.bytes ++ kemCiphertext.bytes)) ikm := by
  cases p with
  | client c sent returns =>
    refine ⟨_, _, _, _, _, _, _, _, _, clientSecrets c, rfl, ?_⟩
    rw [← List.append_assoc]
    rfl
  | server s builder made returns =>
    obtain ⟨⟨r, hbuilder⟩, hbuild⟩ := returns
    obtain ⟨sk, ek, rest, ct, ss, -, -, -, hb⟩ := run_ke2Builder_eq_ok.mp hbuilder
    obtain ⟨-, -, hmessage⟩ := buildKe2_eq_ok.mp hbuild
    have habsorbed : builder.transcriptHasher.absorbed = (transcript s.context s.identifiers
        s.credentialRequest s.ke1Message.dhMessage.toIter s.credentialResponse
        ((s.rng.advance CS.KeGroup.SkLen).peek nonceLen)
        (CS.KeGroup.serializePk (CS.KeGroup.publicKey sk))).absorbed ++
          (s.ke1Message.kemEncapsulationKey.bytes ++ ct.bytes) := by
      rw [hb, ← List.append_assoc]
      rfl
    refine ⟨_, _, _, _, _, _, _, _, _, serverIkm builder s.input, ?_,
      congrArg (Handshake.ofMacPair CS.KeHash · _) habsorbed⟩
    show (_, _, _) = (_, _, _)
    rw [hmessage, hb]
    rfl

theorem confirmation_lawful : (confirmation CS K).Lawful where
  mac p role := by
    cases p with
    | client c sent returns =>
      obtain ⟨r, hclient⟩ := returns
      obtain ⟨ss, hss, -, -, hmac, rfl⟩ := run_generateKe3_eq_ok.mp hclient
      simp only [PartyRun.handshake, confirmation, clientSecrets, hss]
      cases role with
      | server => exact hmac.symm
      | client => rfl
    | server s builder made returns =>
      obtain ⟨-, hbuild⟩ := returns
      obtain ⟨-, hstate, hmessage⟩ := buildKe2_eq_ok.mp hbuild
      cases role with
      | server => exact congrArg (fun m => m.dhMessage.mac) hmessage
      | client => exact congrArg (fun st => st.baseState.expectedMac) hstate
  sessionKey p := by
    cases p with
    | client c sent returns =>
      obtain ⟨r, hclient⟩ := returns
      obtain ⟨ss, hss, -, -, -, rfl⟩ := run_generateKe3_eq_ok.mp hclient
      simp only [PartyRun.handshake, confirmation, clientSecrets, hss]
      rfl
    | server s builder made returns =>
      obtain ⟨-, hbuild⟩ := returns
      obtain ⟨-, hstate, -⟩ := buildKe2_eq_ok.mp hbuild
      exact congrArg (fun st => st.baseState.sessionKey) hstate
  same p q habsorbed hsecrets := by
    obtain ⟨_, _, _, _, _, _, _, _, _, _, hp, hp'⟩ := exists_transcript p
    obtain ⟨_, _, _, _, _, _, _, _, _, _, hq, hq'⟩ := exists_transcript q
    simp only [hp', hq', Handshake.ofMacPair] at habsorbed hsecrets
    obtain ⟨hsession, hkem⟩ := transcript_append_inj habsorbed
    obtain ⟨hek, hct⟩ := GenericArray.append_inj hkem
    refine ⟨?_, ?_⟩
    · rw [hp, hq, hsession, hek, GenericArray.bytes_injective hct]
    · rw [hp', hq', habsorbed, hsecrets]
  view p := by
    cases p with
    | client c sent returns => exact ⟨_, _, _, rfl⟩
    | server s builder made returns => exact ⟨_, _, _, rfl⟩

end TripleDhKem

/-! ### SIGMA-I -/

namespace SigmaI

variable {KE : Group} [DiffieHellman KE] {SIG : SignatureProtocol CS KE}

/-- The server's secret, which it has before the client's answer. -/
def serverSecret (s : ServerRun (keyExchange CS KE SIG)) : Bytes :=
  match KE.deriveScalar (s.rng.peek KE.SkLen) with
  | .ok sk => (DiffieHellman.diffieHellman sk s.ke1Message.clientEPk).bytes
  | _ => []

variable (CS KE SIG) in
@[reducible] def confirmation : Confirmation (keyExchange CS KE SIG) where
  toObservation := observation CS KE SIG
  view v := v
  serverMac m := m.mac
  clientMac m := m.mac
  expectedMac st := st.expectedMac
  stateKey st := st.sessionKey
  clientHandshake c := .ofIdentifiers
    (transcript c.context c.identifiers c.credentialRequest c.ke1Message.toIter
      c.credentialResponse c.ke2Message.serverNonce
      (KE.serializePk c.ke2Message.serverEPk)).absorbed
    (DiffieHellman.diffieHellman c.ke1State.clientESk c.ke2Message.serverEPk).bytes c.identifiers
  serverHandshake s builder := .ofIdentifiers
    (transcript s.context s.identifiers s.credentialRequest s.ke1Message.toIter
      s.credentialResponse builder.serverNonce (KE.serializePk builder.serverEPk)).absorbed
    (serverSecret s) s.identifiers

/-- The session of a run is what its transcript encodes; the identifiers under the MACs
    are those of the session. -/
theorem exists_transcript (p : PartyRun (keyExchange CS KE SIG)) :
    ∃ context identifiers credentialRequest ke1Message credentialResponse serverNonce serverEPk ikm,
      p.session (confirmation CS KE SIG) = SessionView.of context identifiers credentialRequest
        ke1Message credentialResponse serverNonce serverEPk ∧
      p.handshake (confirmation CS KE SIG) = .ofIdentifiers
        (transcript context identifiers credentialRequest ke1Message credentialResponse serverNonce
          serverEPk).absorbed ikm identifiers := by
  cases p with
  | client c sent returns => exact ⟨_, _, _, _, _, _, _, _, rfl, rfl⟩
  | server s builder made returns =>
    obtain ⟨-, hbuild⟩ := returns
    injection hbuild with hbuild
    subst hbuild
    exact ⟨_, _, _, _, _, _, _, _, rfl, rfl⟩

theorem confirmation_lawful : (confirmation CS KE SIG).Lawful where
  mac p role := by
    cases p with
    | client c sent returns =>
      obtain ⟨r, hclient⟩ := returns
      obtain ⟨-, hmac, signature, state, -, -, rfl⟩ := run_generateKe3_eq_ok.mp hclient
      cases role with
      | server => exact hmac.symm
      | client => rfl
    | server s builder made returns =>
      obtain ⟨⟨r, hbuilder⟩, hbuild⟩ := returns
      obtain ⟨-, sk, hsk, rfl, -⟩ := run_ke2Builder_eq_ok.mp hbuilder
      injection hbuild with hbuild
      subst hbuild
      simp only [PartyRun.handshake, confirmation, serverSecret, hsk]
      cases role with
      | server => rfl
      | client => rfl
  sessionKey p := by
    cases p with
    | client c sent returns =>
      obtain ⟨r, hclient⟩ := returns
      obtain ⟨-, -, signature, state, -, -, rfl⟩ := run_generateKe3_eq_ok.mp hclient
      rfl
    | server s builder made returns =>
      obtain ⟨⟨r, hbuilder⟩, hbuild⟩ := returns
      obtain ⟨-, sk, hsk, rfl, -⟩ := run_ke2Builder_eq_ok.mp hbuilder
      injection hbuild with hbuild
      subst hbuild
      simp only [PartyRun.handshake, confirmation, serverSecret, hsk]
      rfl
  same p q habsorbed hsecrets := by
    obtain ⟨_, identifiers, _, _, _, _, _, _, hp, hp'⟩ := exists_transcript p
    obtain ⟨_, identifiers', _, _, _, _, _, _, hq, hq'⟩ := exists_transcript q
    simp only [hp', hq', Handshake.ofIdentifiers] at habsorbed hsecrets
    obtain ⟨hsession, -⟩ := transcript_append_inj (congrArg (· ++ []) habsorbed)
    have hserver : identifiers.server.iter = identifiers'.server.iter :=
      SerializedIdentifier.iter_congr (congrArg SessionView.serverIdentifier hsession)
    have hclient : identifiers.client.iter = identifiers'.client.iter :=
      SerializedIdentifier.iter_congr (congrArg SessionView.clientIdentifier hsession)
    refine ⟨by rw [hp, hq, hsession], ?_⟩
    rw [hp', hq', habsorbed, hsecrets]
    simp only [Handshake.ofIdentifiers, hserver, hclient]
  view p := by
    cases p with
    | client c sent returns => exact ⟨_, _, _, rfl⟩
    | server s builder made returns => exact ⟨_, _, _, rfl⟩

end SigmaI

/-! ### All key exchanges -/

/-- A MAC of a login is the MAC of one party, one session and one key, in each of the
    three key exchanges. -/
theorem macs_confirm (CS : CipherSuite) :
    (∀ [DiffieHellman CS.KeGroup],
      MacsConfirm (TripleDh.keyExchange CS) (TripleDh.confirmation CS)) ∧
    (∀ [DiffieHellman CS.KeGroup] (K : KemCoreWrapper),
      MacsConfirm (TripleDhKem.keyExchange CS K) (TripleDhKem.confirmation CS K)) ∧
    (∀ (KE : Group) [DiffieHellman KE] (SIG : SigmaI.SignatureProtocol CS KE),
      MacsConfirm (SigmaI.keyExchange CS KE SIG) (SigmaI.confirmation CS KE SIG)) := by
  refine ⟨?_, ?_, ?_⟩
  · intro _
    exact TripleDh.confirmation_lawful.macsConfirm
  · intro _ K
    exact TripleDhKem.confirmation_lawful.macsConfirm
  · intro KE _ SIG
    exact SigmaI.confirmation_lawful.macsConfirm

/-- An accepting run of the reference instantiation, whose client and server have the
    client's MAC in common. -/
theorem macs_confirm_reference :
    ∃ p q : PartyRun (TripleDh.keyExchange Reference.suite),
      p.mac (TripleDh.confirmation Reference.suite) .client =
        q.mac (TripleDh.confirmation Reference.suite) .client ∧
      (SameHandshake (TripleDh.confirmation Reference.suite) p q ∨
        ExhibitsCollision Reference.hash (p.calls (TripleDh.confirmation Reference.suite))
          (q.calls (TripleDh.confirmation Reference.suite))) := by
  obtain ⟨a⟩ := (TripleDh.completes Reference.group_dhCommutes Reference.tripleDhRun rfl
    Reference.rng).exists_acceptance
  obtain ⟨hmac, -⟩ := (TripleDh.finishKe_eq_ok a.ids a.context).mp a.accepts
  let p := PartyRun.client a.client a.sent a.clientReturns
  let q := PartyRun.server a.server a.builder a.made a.serverReturns
  have hpq : p.mac (TripleDh.confirmation Reference.suite) .client =
      q.mac (TripleDh.confirmation Reference.suite) .client := hmac.symm
  exact ⟨p, q, hpq, ((macs_confirm Reference.suite).1 p q .client .client hpq).imp_left And.right⟩

end OpaqueVx
