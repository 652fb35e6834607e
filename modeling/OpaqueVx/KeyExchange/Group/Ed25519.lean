import OpaqueVx.KeyExchange.Group.Curve25519Dalek
import OpaqueVx.KeyExchange.SigmaI.Completeness
import OpaqueVx.KeyExchange.WireFormat

/-! # Ed25519

  The group of SIGMA-I with EdDSA: keys, the manual implementation of signing and
  verification, and the two signature protocols over it. A verifying key carries
  the proof that its bytes decode to its point, a signing key the proof that its
  parts are computed from its seed. -/

namespace OpaqueVx.Ed25519

open Lib Curve25519Dalek EdwardsCurve

variable {E : EdwardsCurve}

/-! ### Keys -/

structure VerifyingKey (E : EdwardsCurve) where
  point : E.EdwardsPoint
  compressed : GenericArray 32
  decompressed : E.decompress compressed = some point
  notIdentity : isIdentity point = false

namespace VerifyingKey

/-- A verifying key is determined by its bytes. -/
theorem ext_compressed {a b : VerifyingKey E} (h : a.compressed = b.compressed) : a = b := by
  cases a with
  | mk p c hp hi =>
    cases b with
    | mk q d hq hj =>
      simp only at h
      subst h
      obtain rfl := Option.some.inj (hp.symm.trans hq)
      rfl

/-- `VerifyingKey::from_bytes`. -/
def fromBytes (bytes : GenericArray 32) : Outcome Error (VerifyingKey E) :=
  match h : E.decompress bytes with
  | some point =>
    if hid : isIdentity point = false then .ok ⟨point, bytes, h, hid⟩
    else .err .serializationError
  | none => .err .serializationError

theorem fromBytes_eq_ok {b : GenericArray 32} {k : VerifyingKey E} :
    fromBytes b = .ok k ↔ b = k.compressed := by
  unfold fromBytes
  constructor
  · intro h
    split at h
    · obtain ⟨hid, rfl⟩ := Outcome.dite_eq_ok.mp h
      rfl
    · cases h
  · rintro rfl
    split
    · rename_i point hpoint
      obtain rfl := Option.some.inj (hpoint.symm.trans k.decompressed)
      rw [dif_pos k.notIdentity]
    · rename_i hnone
      cases hnone.symm.trans k.decompressed

theorem fromBytes_never_panics (b : GenericArray 32) :
    (fromBytes b : Outcome Error (VerifyingKey E)) ≠ .panicked := by
  unfold fromBytes
  split
  · split <;> simp
  · simp

end VerifyingKey

structure SigningKey (E : EdwardsCurve) where
  sk : GenericArray 32
  verifyingKey : VerifyingKey E
  scalar : Scalar
  hashPrefix : GenericArray 32
  expanded : E.expandedSecretKey sk = (scalar, hashPrefix)
  point_eq : verifyingKey.point = mulBase scalar
  compressed_eq : verifyingKey.compressed = E.compress verifyingKey.point

namespace SigningKey

/-- A signing key is determined by its seed. -/
theorem ext_sk {a b : SigningKey E} (h : a.sk = b.sk) : a = b := by
  have hexpanded := a.expanded
  rw [h, b.expanded] at hexpanded
  have hscalar : b.scalar = a.scalar := congrArg Prod.fst hexpanded
  have hprefix : b.hashPrefix = a.hashPrefix := congrArg Prod.snd hexpanded
  have hpoint : a.verifyingKey.point = b.verifyingKey.point := by
    rw [a.point_eq, b.point_eq, hscalar]
  have hkey : a.verifyingKey = b.verifyingKey := by
    apply VerifyingKey.ext_compressed
    rw [a.compressed_eq, b.compressed_eq, hpoint]
  cases a
  cases b
  simp only at h hscalar hprefix hkey
  subst h hscalar hprefix hkey
  rfl

/-- `SigningKey::from_bytes`. -/
def fromBytes (sk : GenericArray 32) : SigningKey E :=
  let expanded := E.expandedSecretKey sk
  let scalar := expanded.1
  let hashPrefix := expanded.2
  let point := mulBase scalar
  let verifyingKey :=
    { point
      compressed := E.compress point
      decompressed := E.decompress_compress point
      notIdentity := mulBase_not_identity (E.scalar_ne_zero sk) }
  { sk, verifyingKey, scalar, hashPrefix, expanded := rfl, point_eq := rfl, compressed_eq := rfl }

@[simp] theorem sk_fromBytes (sk : GenericArray 32) : (fromBytes sk : SigningKey E).sk = sk := rfl

theorem fromBytes_sk (k : SigningKey E) : fromBytes k.sk = k := ext_sk rfl

end SigningKey

/-! ### The group -/

variable (E) in
/-- `Group for Ed25519`. -/
@[reducible] def group : Group where
  Pk := VerifyingKey E
  PkLen := 32
  Sk := SigningKey E
  SkLen := 32
  serializePk pk := pk.compressed
  deserializeTakePk := do
    let bytes ← takeArray 32 "public key"
    (VerifyingKey.fromBytes bytes : Outcome Error _)
  randomSk _ := do
    let sk ← fillBytes 32
    return SigningKey.fromBytes sk
  deriveScalar seed := .ok (SigningKey.fromBytes seed)
  publicKey sk := sk.verifyingKey
  serializeSk sk := sk.sk
  deserializeTakeSk := do
    let bytes ← takeArray 32 "secret key"
    return SigningKey.fromBytes bytes

variable (E) in
theorem pkDecoder : (group E).PkDecoder VerifyingKey.fromBytes where
  run_append := run_takeArray_parse
  never_panics := VerifyingKey.fromBytes_never_panics
  serializePk _ := VerifyingKey.fromBytes_eq_ok.mpr rfl

variable (E) in
theorem keyEncoding : (group E).KeyEncoding .lawful where
  pk := parsedCodec_lawful (fun _ _ => VerifyingKey.fromBytes_eq_ok)
    VerifyingKey.fromBytes_never_panics
  sk := (arrayCodec_lawful 32 "secret key").imap SigningKey.fromBytes_sk fun _ => rfl

/-! ### Signatures -/

@[ext] structure Signature where
  R : GenericArray 32
  s : Scalar
  deriving DecidableEq

namespace Signature

def serialize (self : Signature) : GenericArray 64 := self.R.cat (Scalar.toBytes self.s)

def deserializeTake : Reader Error Signature := do
  let R ← takeArray 32 "signature R"
  let s ← takeArray 32 "signature s"
  let s ← (.okOr .serializationError (Scalar.fromCanonicalBytes s) : Outcome Error _)
  return { R, s }

def codec : Codec Error Signature := ⟨64, serialize, deserializeTake⟩

theorem codec_same : codec.Same (((arrayCodec 32 "signature R").both
    (parsedCodec 32 "signature s" Scalar.toBytes fun s =>
      .okOr .serializationError (Scalar.fromCanonicalBytes s))).imap
    (fun p => ⟨p.1, p.2⟩) (fun s => (s.R, s.s))) where
  len := rfl
  encode _ := rfl
  take := by simp [codec, deserializeTake, arrayCodec, parsedCodec, Codec.both, Codec.imap]

theorem codec_lawful : codec.Lawful := by
  apply codec_same.lawful
  apply Codec.Lawful.imap
  · apply (arrayCodec_lawful _ _).both
    apply parsedCodec_lawful
    · intro b s
      rw [Outcome.okOr_eq_ok]
      exact Scalar.fromCanonicalBytes_eq_some
    · intro b
      cases Scalar.fromCanonicalBytes b <;> simp
  · intro s
    rfl
  · intro p
    rfl

end Signature

/-- The prefix of Ed25519ph: `if pre_hash { … }`. -/
def hasher (E : EdwardsCurve) (preHash : Bool) : Hasher E.Sha512 :=
  if preHash then
    ((Hasher.new.update (ascii "SigEd25519 no Ed25519 collisions")).update [1]).update [0]
  else
    Hasher.new

/-- The challenge: hash of commitment, public key and message. -/
def challenge (pk : VerifyingKey E) (preHash : Bool) (message : List Bytes)
    (R : GenericArray 32) : Scalar :=
  let h := (hasher E preHash).update R.bytes
  let h := h.update pk.compressed.bytes
  let h := h.chainIter message
  Scalar.fromBytesModOrder h.finalize.bytes

/-- `sign`. -/
def sign (sk : SigningKey E) (preHash : Bool) (message : List Bytes) : Signature :=
  let h := (hasher E preHash).update sk.hashPrefix.bytes
  let h := h.chainIter message
  let r := Scalar.fromBytesModOrder h.finalize.bytes
  let R := E.compress (mulBase r)
  let k := challenge sk.verifyingKey preHash message R
  let s := k * sk.scalar + r
  { R, s }

/-- `verify`. -/
def verify (pk : VerifyingKey E) (preHash : Bool) (message : List Bytes)
    (signature : Signature) : Outcome Error Unit :=
  let k := challenge pk preHash message signature.R
  let minusA := -pk.point
  let expectedR := E.compress (vartimeDoubleScalarMulBasepoint k minusA signature.s)
  if expectedR = signature.R then .ok () else .err .invalidLoginError

/-- The verification equation of EdDSA. -/
def Valid (pk : VerifyingKey E) (preHash : Bool) (message : List Bytes)
    (signature : Signature) : Prop :=
  ∃ R : E.EdwardsPoint, E.compress R = signature.R ∧
    mulBase signature.s = R + (challenge pk preHash message signature.R).val • pk.point

theorem verify_eq_ok {pk : VerifyingKey E} {preHash : Bool} {message : List Bytes}
    {signature : Signature} :
    verify pk preHash message signature = .ok () ↔ Valid pk preHash message signature := by
  have hequation : ∀ (k : Scalar) (R : E.EdwardsPoint),
      vartimeDoubleScalarMulBasepoint k (-pk.point) signature.s = R ↔
        mulBase signature.s = R + k.val • pk.point := by
    intro k R
    show k.val • (-pk.point) + signature.s.val • E.basepoint = R ↔
      signature.s.val • E.basepoint = R + k.val • pk.point
    rw [neg_nsmul, neg_add_eq_iff_eq_add, add_comm R]
  constructor
  · intro h
    simp only [verify] at h
    split at h
    · rename_i hR
      exact ⟨_, hR, (hequation _ _).mp rfl⟩
    · cases h
  · rintro ⟨R, hR, hs⟩
    have hexpected := (hequation _ R).mpr hs
    simp only [verify, hexpected, hR, if_true]

/-- Signing then verifying the same bytes under the matching key succeeds. -/
theorem sign_valid (sk : SigningKey E) (preHash : Bool) (message : List Bytes) :
    Valid sk.verifyingKey preHash message (sign sk preHash message) := by
  apply verify_eq_ok.mp
  simp only [verify, sign, sk.point_eq, EdwardsCurve.verification, if_true]

/-! ### The signature protocols -/

section protocols

variable (E) (V : Voprf) (H : Hash) (F : Ksf) (KE : Group)

/-- A cipher suite whose static keys are Ed25519 keys. -/
@[reducible] def suite : CipherSuite where
  OprfCs := V
  KeGroup := group E
  KeHash := H
  Ksf := F

/-- `PureEddsaImpl for Ed25519`. -/
@[reducible] def pureEddsa : SigmaI.PureEddsaImpl (suite E V H F) KE where
  Signature := Signature
  SignatureLen := 64
  sign sk message := (sign sk false message.signMessage, message.toCached)
  verify pk messageBuilder state signature :=
    verify pk false (messageBuilder.build state).verifyMessage signature
  serializeSignature := Signature.serialize
  deserializeTakeSignature := Signature.deserializeTake

/-- `HashEddsaImpl for Ed25519`. -/
@[reducible] def hashEddsa : SigmaI.HashEddsaImpl (suite E V H F) KE where
  Signature := Signature
  SignatureLen := 64
  VerifyState := SigmaI.PreHash E.Sha512
  sign sk message :=
    let hash := message.hash E.Sha512
    (sign sk true [hash.sign.finalize.bytes], ⟨hash.verify.finalize⟩)
  verify pk state signature := verify pk true [state.digest.bytes] signature
  serializeSignature := Signature.serialize
  deserializeTakeSignature := Signature.deserializeTake
  verifyState := SigmaI.PreHash.codec E.Sha512

/-- PureEdDSA signs the message itself and keeps the cached part. -/
def pureEddsaSpec : SigmaI.SignatureSpec (SigmaI.PureEddsa.protocol (pureEddsa E V H F KE)) where
  Valid pk message signature := Valid pk false message signature
  verifyState m := m.toCached
  sign_valid sk m r := ⟨_, r, rfl, sign_valid sk false m.signMessage⟩
  verify_iff pk m signature := by
    rw [← m.build_toCached]
    exact verify_eq_ok

/-- HashEdDSA signs the pre-hash and keeps the pre-hash of the message to be
    verified. -/
def hashEddsaSpec : SigmaI.SignatureSpec (SigmaI.HashEddsa.protocol (hashEddsa E V H F KE)) where
  Valid pk message signature :=
    Valid pk true [(E.Sha512.digest message.flatten).bytes] signature
  verifyState m := ⟨(m.hash E.Sha512).verify.finalize⟩
  sign_valid sk m r := by
    refine ⟨_, r, rfl, ?_⟩
    rw [← m.hash_sign]
    exact sign_valid sk true _
  verify_iff pk m signature := by
    rw [← m.hash_verify]
    exact verify_eq_ok

end protocols

end OpaqueVx.Ed25519
