import OpaqueVx.KeyExchange.Group.Curve25519
import OpaqueVx.KeyExchange.Group.Eddsa
import OpaqueVx.Network.RemoteKeys
import OpaqueVx.Pkcs11.SharedSecret

/-! # A server with a PKCS#11 token

  The token holds the OPRF seed and the private key, and is the device of the server: for
  3DH over the curves of the traits and over Curve25519, and for SIGMA-I with PureEdDSA.
  A run of the server with the token is a run of a server with the keys. -/

namespace OpaqueVx.Pkcs11

open Lib

variable {Handle : Type}

/-- What the token holds, and what the server has in its own setup. -/
structure InToken {CS : CipherSuite} (session : Session Handle)
    (HoldsSk : Handle → PrivateKey CS.KeGroup → Prop) (setup : ServerSetup CS Handle Handle)
    (L : LocalSetup CS) : Prop where
  serverSPk : setup.keypair.pk = L.keypair.pk
  dummyPk : setup.dummyPk = L.dummyPk
  pair : L.keypair.pk = CS.KeGroup.publicKey L.keypair.sk
  seed : HoldsSeed session CS.OprfHash setup.oprfSeed L.oprfSeed.bytes
  key : HoldsSk setup.keypair.sk L.keypair.sk

/-- The token as a device, which is given the input of a builder by the key exchange. -/
def Session.device {CS : CipherSuite} {KE : KeyExchange CS} (session : Session Handle)
    (ke2Input : Handle → PublicKey CS.KeGroup → KE.KE2BuilderData →
      Outcome Error KE.KE2BuilderInput) : Device KE Handle Handle where
  keyMaterial info :=
    pkcs11Hkdf session CS.OprfHash.outputSize CS.OprfCs.ScalarLen info.ikm info.info.flatten
  ke2Input serverSSk serverSPk data := ke2Input serverSSk serverSPk data

/-- The seed and the key are used by the token as by the server. -/
theorem InToken.serves {CS : CipherSuite} {KE : KeyExchange CS} {session : Session Handle}
    {HoldsSk : Handle → PrivateKey CS.KeGroup → Prop} {setup : ServerSetup CS Handle Handle}
    {L : LocalSetup CS} (h : InToken session HoldsSk setup L)
    (hexpand : ExpandsByHmac CS.OprfHash) (hsize : 0 < CS.OprfHash.outputSize)
    {ke2Input : Handle → PublicKey CS.KeGroup → KE.KE2BuilderData →
      Outcome Error KE.KE2BuilderInput}
    (hinput : ∀ builder input,
      ke2Input setup.keypair.sk setup.keypair.pk (KE.ke2BuilderData builder) = .ok input →
      KE.generateKe2Input builder L.keypair.sk = pure input) :
    (session.device ke2Input).Serves setup L where
  serverSPk := h.serverSPk
  dummyPk := h.dummyPk
  keyMaterial credentialIdentifier keyMaterial hmaterial :=
    keyMaterial_sound hexpand hsize h.seed hmaterial
  ke2Input builder r input r' hrun := by
    obtain ⟨hok, rfl⟩ := run_lift_eq_ok.mp hrun
    rw [hinput builder input hok]
    rfl

/-! ### 3DH over a curve of the traits -/

section curve

open EllipticCurve

variable {C : CurveArithmetic}

/-- The cipher suites with such a curve. -/
@[reducible] def curveSuite (K : KeyGeneration C) (V : Voprf) (H : Hash) (F : Ksf) :
    CipherSuite where
  OprfCs := V
  KeGroup := group C K
  KeHash := H
  Ksf := F

variable {K : KeyGeneration C} {V : Voprf} {H : Hash} {F : Ksf}

instance : DiffieHellman (curveSuite K V H F).KeGroup := instDiffieHellmanGroup K

/-- `pkcs11_key_exchange` for `TripleDh` over NIST curves. -/
def curveDevice (K : KeyGeneration C) (V : Voprf) (H : Hash) (F : Ksf) (A : AffineCurve C)
    (session : Session Handle) :
    Device (TripleDh.keyExchange (curveSuite K V H F)) Handle Handle :=
  session.device fun serverSSk serverSPk clientEPk =>
    pkcs11EcdsaDeriveSecret session A serverSSk serverSPk clientEPk

/-- The test does not fail if the double of the server's key does not have the coordinate
    of the identity. -/
theorem not_undecided {A : AffineCurve C} {sk : SecretKey C}
    (hdouble : A.x ((NonIdentity.mulByGenerator sk).point + (NonIdentity.mulByGenerator sk).point) ≠
      .zeros C.FieldBytesSize) (clientPk : NonIdentity C) : ¬ Undecided A sk clientPk := by
  rintro ⟨-, -, hzero⟩
  exact hdouble hzero

theorem curveDevice_serves {A : AffineCurve C} {session : Session Handle}
    {setup : ServerSetup (curveSuite K V H F) Handle Handle} {L : LocalSetup (curveSuite K V H F)}
    (hexpand : ExpandsByHmac V.hash) (hsize : 0 < V.hash.outputSize)
    (h : InToken session (HoldsKey session A) setup L)
    (hdouble : A.x (L.keypair.pk.point + L.keypair.pk.point) ≠ .zeros C.FieldBytesSize) :
    (curveDevice K V H F A session).Serves setup L := by
  apply h.serves hexpand hsize
  intro builder secret hsecret
  rw [h.serverSPk, h.pair] at hsecret
  rw [h.pair] at hdouble
  have hbytes := (pkcs11EcdsaDeriveSecret_sound h.key hsecret).mpr (not_undecided hdouble _)
  have hproduct : secret = DiffieHellman.diffieHellman L.keypair.sk builder.clientEPk :=
    GenericArray.bytes_injective hbytes
  rw [hproduct]
  rfl

end curve

/-! ### 3DH over Curve25519 -/

section curve25519

open Curve25519Dalek

variable {M : MontgomeryCurve} {V : Voprf} {H : Hash} {F : Ksf}

/-- The cipher suites with Curve25519. -/
@[reducible] def curve25519Suite (M : MontgomeryCurve) (V : Voprf) (H : Hash) (F : Ksf) :
    CipherSuite where
  OprfCs := V
  KeGroup := Curve25519.group M
  KeHash := H
  Ksf := F

instance : DiffieHellman (curve25519Suite M V H F).KeGroup :=
  Curve25519.instDiffieHellmanGroup

/-- `pkcs11_key_exchange` for `TripleDh` over Curve25519. -/
def curve25519Device (M : MontgomeryCurve) (V : Voprf) (H : Hash) (F : Ksf)
    (session : Session Handle) :
    Device (TripleDh.keyExchange (curve25519Suite M V H F)) Handle Handle :=
  session.device fun serverSSk _ clientEPk => do
    let sharedSecret ← pkcs11DhDeriveSecret session serverSSk clientEPk.point.bytes
    cloneFromSlice 32 sharedSecret

/-- The token has a scalar of Curve25519. It may fail. -/
def HoldsScalar (session : Session Handle) (M : MontgomeryCurve) (serverSk : Handle)
    (sk : Curve25519.Scalar) : Prop :=
  ∀ (point : GenericArray 32) out, session.ecdh1Derive serverSk point.bytes = some out →
    out = (M.mulClamped point sk.bytes).bytes

theorem curve25519Device_serves {session : Session Handle}
    {setup : ServerSetup (curve25519Suite M V H F) Handle Handle}
    {L : LocalSetup (curve25519Suite M V H F)} (hexpand : ExpandsByHmac V.hash)
    (hsize : 0 < V.hash.outputSize)
    (h : InToken session (HoldsScalar session M) setup L) :
    (curve25519Device M V H F session).Serves setup L := by
  apply h.serves hexpand hsize
  intro builder secret hsecret
  obtain ⟨product, hproduct, hsecret⟩ := Outcome.bind_eq_ok.mp hsecret
  have hvalue := h.key _ _ (unwrap_eq_ok.mp hproduct)
  subst hvalue
  have hclone : (cloneFromSlice 32 (M.mulClamped builder.clientEPk.point L.keypair.sk.bytes).bytes :
      Outcome Error _) = .ok (M.mulClamped builder.clientEPk.point L.keypair.sk.bytes) :=
    dif_pos (GenericArray.size _)
  obtain rfl := Outcome.ok.inj (hclone.symm.trans hsecret)
  rfl

end curve25519

/-! ### SIGMA-I with PureEdDSA -/

section eddsa

open Curve25519Dalek Ed25519

variable {ε : Type} {E : EdwardsCurve} {V : Voprf} {H : Hash} {F : Ksf} {KE : Group}

/-- `pkcs_11_eddsa_sign`. -/
def pkcs11EddsaSign (session : Session Handle) (sk : Handle)
    (message : SigmaI.Message (suite E V H F) KE) :
    Outcome ε (Signature × SigmaI.CachedMessage (suite E V H F) KE) := do
  let messageBytes := message.signMessage.flatten
  let signature ← unwrap (session.eddsa sk messageBytes)
  let signature ← (readFront Signature.deserializeTake signature).unwrap
  return (signature, message.toCached)

/-- `pkcs11_key_exchange` for `SigmaI` with PureEdDSA. -/
def eddsaDevice (E : EdwardsCurve) (V : Voprf) (H : Hash) (F : Ksf) (KE : Group)
    [DiffieHellman KE] (session : Session Handle) :
    Device (SigmaI.keyExchange (suite E V H F) KE
      (SigmaI.PureEddsa.protocol (pureEddsa E V H F KE))) Handle Handle :=
  session.device fun serverSSk _ message => pkcs11EddsaSign session serverSSk message

/-- The token has a signing key, and signs as RFC 8032 says. It may fail. -/
def HoldsSigningKey (session : Session Handle) (serverSk : Handle) (sk : SigningKey E) : Prop :=
  ∀ data out, session.eddsa serverSk data = some out →
    out = rfc8032 E sk.scalar.val sk.hashPrefix.bytes false data

/-- What comes from the token is the signature of the manual implementation. -/
theorem pkcs11EddsaSign_sound {session : Session Handle} {serverSk : Handle} {sk : SigningKey E}
    (hkey : HoldsSigningKey session serverSk sk) {message : SigmaI.Message (suite E V H F) KE}
    {signed : Signature × SigmaI.CachedMessage (suite E V H F) KE}
    (h : pkcs11EddsaSign session serverSk message = (.ok signed : Outcome ε _)) :
    signed = (sign sk false message.signMessage, message.toCached) := by
  obtain ⟨bytes, hbytes, h⟩ := Outcome.bind_eq_ok.mp h
  obtain ⟨signature, hsignature, hsigned⟩ := Outcome.bind_eq_ok.mp h
  injection hsigned with hsigned
  have hvalue := hkey _ _ (unwrap_eq_ok.mp hbytes)
  have hscalar : sk.scalar.val = sk.scalar.val % groupOrder :=
    (Nat.mod_eq_of_lt sk.scalar.isLt).symm
  rw [← serialize_sign sk hscalar] at hvalue
  subst hvalue
  have hread : readFront Signature.deserializeTake
      (sign sk false message.signMessage).serialize.bytes =
        .ok (sign sk false message.signMessage) :=
    (Signature.codec_lawful.roundTrip _).decodeFront
  rw [hread] at hsignature
  injection hsignature with hsignature
  rw [← hsigned, ← hsignature]

theorem eddsaDevice_serves [DiffieHellman KE] {session : Session Handle}
    {setup : ServerSetup (suite E V H F) Handle Handle} {L : LocalSetup (suite E V H F)}
    (hexpand : ExpandsByHmac V.hash) (hsize : 0 < V.hash.outputSize)
    (h : InToken session (HoldsSigningKey session) setup L) :
    (eddsaDevice E V H F KE session).Serves setup L := by
  apply h.serves hexpand hsize
  intro builder signed hsigned
  rw [pkcs11EddsaSign_sound h.key hsigned]
  rfl

end eddsa

/-! ### Runs -/

/-- For each of the three key exchanges, a run of the server with a token is seen as a run
    of a server that has the keys at hand: for a curve of the traits if the double of the
    server's key does not have the coordinate of the identity. The token has a session of
    its own in each call: what it fails at in one call it may answer in another. -/
theorem pkcs11_refines (V : Voprf) (H : Hash) (F : Ksf) (Handle : Type)
    (hexpand : ExpandsByHmac V.hash) (hsize : 0 < V.hash.outputSize) :
    (∀ {C : EllipticCurve.CurveArithmetic} (K : EllipticCurve.KeyGeneration C)
        (A : AffineCurve C) (setup : ServerSetup (curveSuite K V H F) Handle Handle) L
        (calls : List (Session Handle ×
          RemoteCall _ (TripleDh.keyExchange (curveSuite K V H F)))),
      A.x (L.keypair.pk.point + L.keypair.pk.point) ≠ .zeros C.FieldBytesSize →
      (∀ c ∈ calls, InToken c.1 (HoldsKey c.1 A) setup L) →
      ∃ localCalls, runHistory (TripleDh.keyExchange (curveSuite K V H F)) L localCalls =
        remoteView setup (calls.map fun c => (curveDevice K V H F A c.1, c.2))) ∧
    (∀ (M : Curve25519Dalek.MontgomeryCurve)
        (setup : ServerSetup (curve25519Suite M V H F) Handle Handle) L
        (calls : List (Session Handle ×
          RemoteCall _ (TripleDh.keyExchange (curve25519Suite M V H F)))),
      (∀ c ∈ calls, InToken c.1 (HoldsScalar c.1 M) setup L) →
      ∃ localCalls, runHistory (TripleDh.keyExchange (curve25519Suite M V H F)) L localCalls =
        remoteView setup (calls.map fun c => (curve25519Device M V H F c.1, c.2))) ∧
    (∀ (E : Curve25519Dalek.EdwardsCurve) (KE : Group) [DiffieHellman KE]
        (setup : ServerSetup (Ed25519.suite E V H F) Handle Handle) L
        (calls : List (Session Handle × RemoteCall _ (SigmaI.keyExchange (Ed25519.suite E V H F) KE
          (SigmaI.PureEddsa.protocol (Ed25519.pureEddsa E V H F KE))))),
      (∀ c ∈ calls, InToken c.1 (HoldsSigningKey c.1) setup L) →
      ∃ localCalls, runHistory (SigmaI.keyExchange (Ed25519.suite E V H F) KE
          (SigmaI.PureEddsa.protocol (Ed25519.pureEddsa E V H F KE))) L localCalls =
        remoteView setup (calls.map fun c => (eddsaDevice E V H F KE c.1, c.2))) := by
  refine ⟨?_, ?_, ?_⟩
  · intro C K A setup L calls hdouble h
    apply exists_localRun_map (curveDevice K V H F A)
    intro c hc
    exact curveDevice_serves hexpand hsize (h c hc) hdouble
  · intro M setup L calls h
    apply exists_localRun_map (curve25519Device M V H F)
    intro c hc
    exact curve25519Device_serves hexpand hsize (h c hc)
  · intro E KE _ setup L calls h
    apply exists_localRun_map (eddsaDevice E V H F KE)
    intro c hc
    exact eddsaDevice_serves hexpand hsize (h c hc)

end OpaqueVx.Pkcs11

/-! ### A server with the reference token -/

namespace OpaqueVx.Reference

open EllipticCurve

@[reducible] def signedSuite : CipherSuite :=
  Pkcs11.curveSuite signedKeyGeneration expandingVoprf expandingHash .identity

def signedPk : NonIdentity signedArithmetic := .mulByGenerator signedKey

def signedSetup : LocalSetup signedSuite := ⟨single 9, ⟨signedPk, signedKey⟩, signedPk⟩

def tokenSetup : ServerSetup signedSuite Unit Unit := ⟨(), ⟨signedPk, ()⟩, signedPk⟩

theorem inToken : Pkcs11.InToken token (Pkcs11.HoldsKey token signedCurve) tokenSetup
    signedSetup where
  serverSPk := rfl
  dummyPk := rfl
  pair := rfl
  seed data out hout := by
    injection hout with hout
    exact hout.symm
  key p out hout := by
    rw [token_coordinate] at hout
    exact hout

def tokenRequest : CredentialRequest signedSuite (TripleDh.keyExchange signedSuite) :=
  ⟨3, ⟨.zeros _, signedPk⟩⟩

/-- The same token while it is out of its slot. -/
def absentToken : Pkcs11.Session Unit := ⟨fun _ _ => none, fun _ _ => none, fun _ _ => none⟩

theorem inToken_absent : Pkcs11.InToken absentToken (Pkcs11.HoldsKey absentToken signedCurve)
    tokenSetup signedSetup where
  serverSPk := rfl
  dummyPk := rfl
  pair := rfl
  seed _ _ hout := by cases hout
  key _ _ hout := by cases hout

/-- The server makes a builder, is asked for a registration and builds an answer, at the
    second attempt. -/
def tokenCalls :
    List (Pkcs11.Session Unit × RemoteCall signedSuite (TripleDh.keyExchange signedSuite)) :=
  [(token, .serverLoginBuilder none tokenRequest user.credentialIdentifier ⟨none, serverName⟩
      maskingRng),
    (token, .call (.serverRegistrationStart ⟨3⟩ user.credentialIdentifier)),
    (absentToken, .serverLoginBuild 0), (token, .serverLoginBuild 0)]

end OpaqueVx.Reference

namespace OpaqueVx.Pkcs11

/-- The token has a part in both answers. -/
theorem pkcs11_refines_reference :
    ∃ localCalls, runHistory (TripleDh.keyExchange Reference.signedSuite) Reference.signedSetup
        localCalls = remoteView Reference.tokenSetup (Reference.tokenCalls.map fun c =>
          (curveDevice Reference.signedKeyGeneration Reference.expandingVoprf
            Reference.expandingHash .identity Reference.signedCurve c.1, c.2)) ∧
      (runHistory (TripleDh.keyExchange Reference.signedSuite) Reference.signedSetup
        localCalls).length = 2 := by
  obtain ⟨hcurve, -⟩ := pkcs11_refines Reference.expandingVoprf Reference.expandingHash .identity
    Unit Reference.expandingHash_expands (by decide)
  have hcalls : ∀ c ∈ Reference.tokenCalls,
      InToken c.1 (HoldsKey c.1 Reference.signedCurve) Reference.tokenSetup
        Reference.signedSetup := by
    simp [Reference.tokenCalls, Reference.inToken, Reference.inToken_absent]
  obtain ⟨localCalls, hsame⟩ := hcurve Reference.signedKeyGeneration Reference.signedCurve
    Reference.tokenSetup Reference.signedSetup Reference.tokenCalls (by decide) hcalls
  refine ⟨localCalls, hsame, ?_⟩
  rw [hsame]
  decide +kernel

end OpaqueVx.Pkcs11
