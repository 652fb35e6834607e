import OpaqueVx.Lib.PrimeOrder
import OpaqueVx.Laws

/-! # Curves of the `elliptic_curve` traits

  The blanket implementation for every curve with arithmetic. The curve is a
  parameter: a group of prime order with encodings of its points and scalars. The
  library's own wrappers carry their invariants as they do there: a `NonIdentity`
  is not the identity, a `SecretKey` holds a scalar other than zero. -/

namespace OpaqueVx.EllipticCurve

open Lib

/-! ### The library -/

/-- `CurveArithmetic`, with the encodings of the `sec1` and `group` traits. -/
structure CurveArithmetic where
  ProjectivePoint : Type
  group : AddCommGroup ProjectivePoint
  decEq : DecidableEq ProjectivePoint
  ORDER : ℕ
  prime : ORDER.Prime
  annihilates : ∀ p : ProjectivePoint, ORDER • p = 0
  generator : ProjectivePoint
  generator_ne_zero : generator ≠ 0
  FieldBytesSize : Nat
  /-- `to_sec1_point(true)`: a tag and a coordinate, except for the identity. -/
  toSec1Point : ProjectivePoint → Bytes
  length_toSec1Point : ∀ {p}, p ≠ 0 → (toSec1Point p).length = FieldBytesSize + 1
  /-- `GroupEncoding::from_bytes` -/
  fromBytes : GenericArray (FieldBytesSize + 1) → Option ProjectivePoint
  fromBytes_toSec1Point : ∀ {p} b, p ≠ 0 → b.bytes = toSec1Point p → fromBytes b = some p
  /-- `Scalar::to_repr` -/
  toRepr : Fin ORDER → GenericArray FieldBytesSize
  /-- `Scalar::from_repr` -/
  fromRepr : GenericArray FieldBytesSize → Option (Fin ORDER)
  fromRepr_toRepr : ∀ s, fromRepr (toRepr s) = some s

variable (C : CurveArithmetic)

instance : AddCommGroup C.ProjectivePoint := C.group

instance : DecidableEq C.ProjectivePoint := C.decEq

abbrev CurveArithmetic.Scalar := Fin C.ORDER

/-- `<FieldBytesSize as ModulusSize>::CompressedPointSize`. -/
abbrev CurveArithmetic.CompressedPointSize : Nat := C.FieldBytesSize + 1

/-- `NonIdentity<ProjectivePoint>`. -/
structure NonIdentity where
  point : C.ProjectivePoint
  ne_zero : point ≠ 0

/-- `NonZeroScalar`. -/
structure NonZeroScalar where
  scalar : C.Scalar
  ne_zero : scalar.val ≠ 0

/-- `SecretKey` holds a `NonZeroScalar`. -/
abbrev SecretKey := NonZeroScalar C

variable {C}

/-- `NonIdentity::new`. -/
def NonIdentity.new (point : C.ProjectivePoint) : Option (NonIdentity C) :=
  if h : point ≠ 0 then some ⟨point, h⟩ else none

theorem NonIdentity.new_point (key : NonIdentity C) : new key.point = some key :=
  dif_pos key.ne_zero

/-- `NonZeroScalar::new`. -/
def NonZeroScalar.new (scalar : C.Scalar) : Option (NonZeroScalar C) :=
  if h : scalar.val ≠ 0 then some ⟨scalar, h⟩ else none

theorem NonZeroScalar.new_scalar (s : NonZeroScalar C) : new s.scalar = some s :=
  dif_pos s.ne_zero

/-- `NonIdentity::from_bytes`. -/
def NonIdentity.fromBytes (bytes : GenericArray C.CompressedPointSize) : Option (NonIdentity C) :=
  C.fromBytes bytes >>= new

/-- `SecretKey::from_bytes`. -/
def SecretKey.fromBytes (bytes : GenericArray C.FieldBytesSize) : Option (SecretKey C) :=
  C.fromRepr bytes >>= NonZeroScalar.new

/-- Points other than the identity are told apart by their encodings. -/
theorem NonIdentity.toSec1Point_inj {p q : NonIdentity C}
    (h : C.toSec1Point p.point = C.toSec1Point q.point) : p.point = q.point := by
  have hp := C.fromBytes_toSec1Point ⟨_, C.length_toSec1Point p.ne_zero⟩ p.ne_zero rfl
  have hq := C.fromBytes_toSec1Point ⟨_, C.length_toSec1Point p.ne_zero⟩ q.ne_zero h
  exact Option.some.inj (hp.symm.trans hq)

/-- `NonIdentity * NonZeroScalar`: the order is prime. -/
def NonIdentity.mul (p : NonIdentity C) (s : NonZeroScalar C) : NonIdentity C where
  point := s.scalar.val • p.point
  ne_zero := by
    intro h
    rcases (PrimeOrder.nsmul_eq_zero_iff C.prime (C.annihilates p.point)).mp h with hzero | hdvd
    · exact p.ne_zero hzero
    · exact s.ne_zero (Nat.eq_zero_of_dvd_of_lt hdvd s.scalar.isLt)

variable (C) in
/-- The generator. -/
def NonIdentity.generator : NonIdentity C := ⟨C.generator, C.generator_ne_zero⟩

/-- `mul_by_generator`. -/
def NonIdentity.mulByGenerator (s : NonZeroScalar C) : NonIdentity C := (generator C).mul s

variable (C) in
/-- Key generation: `SecretKey::generate_from_rng`, given up after so many rounds,
    and `voprf::derive_key` in mode `Oprf`, of a seed and an info. -/
structure KeyGeneration where
  generateFromRng : Nat → RngM Error (SecretKey C)
  deriveKey : Bytes → Bytes → Outcome VoprfError C.Scalar

/-! ### The group -/

/-- `derive_scalar`. The `expect` panics on zero. -/
def deriveScalar (K : KeyGeneration C) (seed : GenericArray C.FieldBytesSize) :
    Outcome InternalError (SecretKey C) := do
  let scalar ← (K.deriveKey seed.bytes strOpaqueDeriveAuthKeyPair).mapErr .oprfError
  match NonZeroScalar.new scalar with
  | some scalar => return scalar
  | none => .panicked

variable (C) in
/-- `Group for G`. -/
@[reducible] def group (K : KeyGeneration C) : Group where
  Pk := NonIdentity C
  PkLen := C.CompressedPointSize
  Sk := SecretKey C
  SkLen := C.FieldBytesSize
  serializePk pk := ⟨C.toSec1Point pk.point, C.length_toSec1Point pk.ne_zero⟩
  deserializeTakePk := do
    let bytes ← takeArray C.CompressedPointSize "public key"
    (Outcome.okOr .serializationError (NonIdentity.fromBytes bytes) : Outcome Error _)
  randomSk := K.generateFromRng
  deriveScalar := deriveScalar K
  publicKey sk := .mulByGenerator sk
  serializeSk sk := C.toRepr sk.scalar
  deserializeTakeSk := do
    let bytes ← takeArray C.FieldBytesSize "secret key"
    (Outcome.okOr .serializationError (SecretKey.fromBytes bytes) : Outcome Error _)

instance (K : KeyGeneration C) : DiffieHellman (group C K) where
  diffieHellman sk pk := (group C K).serializePk (pk.mul sk)

/-! ### Laws -/

theorem dhCommutes (K : KeyGeneration C) : (group C K).DhCommutes := by
  intro a b
  have hmul : (NonIdentity.mulByGenerator b).mul a = (NonIdentity.mulByGenerator a).mul b := by
    simp only [NonIdentity.mulByGenerator, NonIdentity.mul, NonIdentity.mk.injEq]
    exact nsmul_left_comm _ _ _
  show (group C K).serializePk _ = (group C K).serializePk _
  rw [hmul]

theorem dhDetermines (K : KeyGeneration C) : (group C K).DhDetermines := by
  intro a b c h
  have hpoint := NonIdentity.toSec1Point_inj (congrArg GenericArray.bytes h)
  have hndvd : ¬ C.ORDER ∣ a.scalar.val := by
    intro hdvd
    exact a.ne_zero (Nat.eq_zero_of_dvd_of_lt hdvd a.scalar.isLt)
  have hbc := PrimeOrder.nsmul_left_inj C.prime (C.annihilates _) (C.annihilates _) hndvd hpoint
  show NonIdentity.mulByGenerator b = NonIdentity.mulByGenerator c
  simp only [NonIdentity.mulByGenerator, NonIdentity.mul, NonIdentity.mk.injEq]
  exact hbc

theorem pkDecoder (K : KeyGeneration C) : (group C K).PkDecoder fun b =>
    Outcome.okOr .serializationError (NonIdentity.fromBytes b) where
  run_append := run_takeArray_parse
  never_panics b := by
    cases NonIdentity.fromBytes b <;> simp
  serializePk pk := by
    have hpoint := C.fromBytes_toSec1Point
      ⟨C.toSec1Point pk.point, C.length_toSec1Point pk.ne_zero⟩ pk.ne_zero rfl
    rw [NonIdentity.fromBytes, hpoint]
    show Outcome.okOr _ (NonIdentity.new pk.point) = _
    rw [pk.new_point]
    rfl

/-- Keys are read back. Points may have more than one encoding. -/
theorem keyEncoding (K : KeyGeneration C) : (group C K).KeyEncoding .roundTrip where
  pk := parsedCodec_roundTrip (pkDecoder K).serializePk
  sk := by
    apply parsedCodec_roundTrip
    intro sk
    rw [SecretKey.fromBytes, C.fromRepr_toRepr]
    show Outcome.okOr _ (NonZeroScalar.new sk.scalar) = _
    rw [sk.new_scalar]
    rfl

/-- Different secret keys make different products with a public key. -/
theorem mul_inj {a b : SecretKey C} {pk : NonIdentity C}
    (h : (pk.mul a).point = (pk.mul b).point) : a = b := by
  have hval : a.scalar.val = b.scalar.val :=
    PrimeOrder.nsmul_inj C.prime (C.annihilates pk.point) pk.ne_zero a.scalar.isLt b.scalar.isLt h
  cases a
  cases b
  simp only [NonZeroScalar.mk.injEq]
  exact Fin.ext hval

end OpaqueVx.EllipticCurve
