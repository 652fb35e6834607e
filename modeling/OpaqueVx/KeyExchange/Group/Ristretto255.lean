import OpaqueVx.KeyExchange.Group.Curve25519Dalek
import OpaqueVx.Laws

/-! # Ristretto255

  Keys over the Ristretto group. The wrappers carry what their constructors check
  or rely on: a public key is not the identity, a secret key is not zero. Products
  of the two are public keys again, since the group has prime order. -/

namespace OpaqueVx.Ristretto255

open Lib Curve25519Dalek

variable {R : RistrettoGroup}

/-! ### Keys -/

/-- `NonIdentity`. -/
structure NonIdentity (R : RistrettoGroup) where
  point : R.RistrettoPoint
  ne_zero : point ≠ 0

/-- `NonIdentity::from_point`. -/
def NonIdentity.fromPoint (point : R.RistrettoPoint) : Outcome Error (NonIdentity R) :=
  if h : point = 0 then .err .serializationError else .ok ⟨point, h⟩

theorem NonIdentity.fromPoint_eq_ok {p : R.RistrettoPoint} {k : NonIdentity R} :
    fromPoint p = .ok k ↔ p = k.point := by
  unfold fromPoint
  rw [Outcome.dite_not_eq_ok]
  constructor
  · intro h
    obtain ⟨hcheck, rfl⟩ := h
    rfl
  · intro h
    subst h
    exact ⟨k.ne_zero, rfl⟩

theorem NonIdentity.fromPoint_never_panics (p : R.RistrettoPoint) :
    (fromPoint p : Outcome Error (NonIdentity R)) ≠ .panicked := by
  unfold fromPoint
  split <;> simp

/-- `NonZeroScalar`. -/
structure NonZeroScalar where
  scalar : Scalar
  ne_zero : scalar ≠ 0

/-- `NonZeroScalar::from_scalar`. -/
def NonZeroScalar.fromScalar (scalar : Scalar) : Outcome Error NonZeroScalar :=
  if h : scalar = 0 then .err .serializationError else .ok ⟨scalar, h⟩

theorem NonZeroScalar.fromScalar_eq_ok {s : Scalar} {k : NonZeroScalar} :
    fromScalar s = .ok k ↔ s = k.scalar := by
  unfold fromScalar
  rw [Outcome.dite_not_eq_ok]
  constructor
  · intro h
    obtain ⟨hcheck, rfl⟩ := h
    rfl
  · intro h
    subst h
    exact ⟨k.ne_zero, rfl⟩

theorem NonZeroScalar.fromScalar_never_panics (s : Scalar) :
    fromScalar s ≠ (.panicked : Outcome Error NonZeroScalar) := by
  unfold fromScalar
  split <;> simp

/-! ### The group -/

/-- `voprf::derive_key` in mode `Oprf`, of a seed and an info. It never returns
    zero. -/
structure DeriveKey where
  deriveKey : Bytes → Bytes → Outcome VoprfError Scalar
  ne_zero : ∀ {seed info s}, deriveKey seed info = .ok s → s ≠ 0

/-- Draws until the scalar is not zero. -/
def randomSk : Nat → RngM Error NonZeroScalar
  | 0 => (.panicked : Outcome Error NonZeroScalar)
  | rounds + 1 => do
    let bytes ← fillBytes 64
    let scalar := Scalar.fromBytesModOrder bytes.bytes
    if h : scalar = 0 then
      randomSk rounds
    else
      return ⟨scalar, h⟩

def deriveScalar (D : DeriveKey) (seed : GenericArray 32) : Outcome InternalError NonZeroScalar :=
  match h : D.deriveKey seed.bytes strOpaqueDeriveAuthKeyPair with
  | .ok scalar => .ok ⟨scalar, D.ne_zero h⟩
  | .err e => .err (.oprfError e)
  | .panicked => .panicked

/-- `public_key`. -/
def publicKey (sk : NonZeroScalar) : NonIdentity R where
  point := sk.scalar.val • R.basepoint
  ne_zero := RistrettoGroup.nsmul_ne_zero sk.ne_zero R.basepoint_ne_zero

variable (R) in
/-- `Group for Ristretto255`. -/
@[reducible] def group (D : DeriveKey) : Group where
  Pk := NonIdentity R
  PkLen := 32
  Sk := NonZeroScalar
  SkLen := 32
  serializePk pk := R.compress pk.point
  deserializeTakePk := do
    let bytes ← takeArray 32 "public key"
    (do
      let point ← .okOr .serializationError (R.decompress bytes)
      NonIdentity.fromPoint point : Outcome Error _)
  randomSk := randomSk
  deriveScalar := deriveScalar D
  publicKey := publicKey
  serializeSk sk := Scalar.toBytes sk.scalar
  deserializeTakeSk := do
    let bytes ← takeArray 32 "secret key"
    (do
      let scalar ← .okOr .serializationError (Scalar.fromCanonicalBytes bytes)
      NonZeroScalar.fromScalar scalar : Outcome Error _)

/-- The product of a public key and a secret key, wrapped without a check. -/
def sharedPoint (sk : NonZeroScalar) (pk : NonIdentity R) : NonIdentity R where
  point := sk.scalar.val • pk.point
  ne_zero := RistrettoGroup.nsmul_ne_zero sk.ne_zero pk.ne_zero

instance (D : DeriveKey) : DiffieHellman (group R D) where
  diffieHellman sk pk := (group R D).serializePk (sharedPoint sk pk)

/-! ### Laws -/

theorem dhCommutes (D : DeriveKey) : (group R D).DhCommutes := by
  intro a b
  show R.compress (a.scalar.val • b.scalar.val • R.basepoint) =
    R.compress (b.scalar.val • a.scalar.val • R.basepoint)
  rw [nsmul_left_comm]

theorem dhDetermines (D : DeriveKey) : (group R D).DhDetermines := by
  intro a b c h
  have hpoint := RistrettoGroup.compress_inj h
  have hndvd : ¬ groupOrder ∣ a.scalar.val := by
    intro hdvd
    exact a.ne_zero (Fin.ext (Nat.eq_zero_of_dvd_of_lt hdvd a.scalar.isLt))
  have hbc := PrimeOrder.nsmul_left_inj groupOrder_prime (R.annihilates _) (R.annihilates _) hndvd
    hpoint
  show (publicKey b : NonIdentity R) = publicKey c
  simp only [publicKey, NonIdentity.mk.injEq]
  exact hbc

theorem parsePk_eq_ok {b : GenericArray 32} {k : NonIdentity R} :
    (Outcome.okOr .serializationError (R.decompress b) >>= NonIdentity.fromPoint) = .ok k ↔
      b = R.compress k.point := by
  rw [Outcome.bind_eq_ok]
  simp only [Outcome.okOr_eq_ok, NonIdentity.fromPoint_eq_ok, exists_eq_right]
  exact R.decompress_eq_some b k.point

theorem parseSk_eq_ok {b : GenericArray 32} {k : NonZeroScalar} :
    (Outcome.okOr .serializationError (Scalar.fromCanonicalBytes b) >>=
      NonZeroScalar.fromScalar) = .ok k ↔ b = Scalar.toBytes k.scalar := by
  rw [Outcome.bind_eq_ok]
  simp only [Outcome.okOr_eq_ok, NonZeroScalar.fromScalar_eq_ok, exists_eq_right]
  exact Scalar.fromCanonicalBytes_eq_some

theorem parsePk_never_panics (b : GenericArray 32) :
    (Outcome.okOr .serializationError (R.decompress b) >>= NonIdentity.fromPoint :
      Outcome Error (NonIdentity R)) ≠ .panicked := by
  cases R.decompress b with
  | none => simp
  | some p => exact NonIdentity.fromPoint_never_panics p

theorem pkDecoder (D : DeriveKey) : (group R D).PkDecoder fun b =>
    Outcome.okOr .serializationError (R.decompress b) >>= NonIdentity.fromPoint where
  run_append := run_takeArray_parse
  never_panics := parsePk_never_panics
  serializePk _ := parsePk_eq_ok.mpr rfl

theorem keyEncoding (D : DeriveKey) : (group R D).KeyEncoding .lawful where
  pk := parsedCodec_lawful (fun _ _ => parsePk_eq_ok) parsePk_never_panics
  sk := by
    apply parsedCodec_lawful (fun _ _ => parseSk_eq_ok)
    intro b
    cases Scalar.fromCanonicalBytes b with
    | none => simp
    | some s => exact NonZeroScalar.fromScalar_never_panics s

/-- Different secret keys make different products with a public key. -/
theorem sharedPoint_inj {a b : NonZeroScalar} {pk : NonIdentity R}
    (h : (sharedPoint a pk).point = (sharedPoint b pk).point) : a.scalar = b.scalar := by
  apply Fin.ext
  exact PrimeOrder.nsmul_inj groupOrder_prime (R.annihilates pk.point) pk.ne_zero a.scalar.isLt
    b.scalar.isLt h

end OpaqueVx.Ristretto255
