import OpaqueVx.KeyExchange.Group.Curve25519Dalek
import OpaqueVx.Laws

/-! # Curve25519

  Keys over coordinates of Curve25519. Secret keys are clamped integers; public
  keys are all coordinates but 0. That leaves the coordinates of small order,
  which a clamped integer takes to the identity: the product of a secret key and
  a public key is a bare coordinate, not a public key. -/

namespace OpaqueVx.Curve25519

open Lib Curve25519Dalek

variable {M : MontgomeryCurve}

/-! ### Keys -/

/-- `NonIdentity`. -/
structure NonIdentity (M : MontgomeryCurve) where
  point : GenericArray 32
  notIdentity : M.isIdentity point = false

/-- `NonIdentity::from_bytes`. -/
def NonIdentity.fromBytes (bytes : GenericArray 32) : Outcome Error (NonIdentity M) :=
  if h : M.isIdentity bytes = false then .ok ⟨bytes, h⟩ else .err .serializationError

theorem NonIdentity.fromBytes_eq_ok {b : GenericArray 32} {k : NonIdentity M} :
    fromBytes b = .ok k ↔ b = k.point := by
  unfold fromBytes
  rw [Outcome.dite_eq_ok]
  constructor
  · intro h
    obtain ⟨hcheck, rfl⟩ := h
    rfl
  · intro h
    subst h
    exact ⟨k.notIdentity, rfl⟩

theorem NonIdentity.fromBytes_never_panics (b : GenericArray 32) :
    (fromBytes b : Outcome Error (NonIdentity M)) ≠ .panicked := by
  unfold fromBytes
  split <;> simp

/-- `Scalar`. -/
structure Scalar where
  bytes : GenericArray 32
  clamped : clampInteger bytes = bytes

/-- `Scalar::from_bytes`. -/
def Scalar.fromBytes (bytes : GenericArray 32) : Outcome Error Scalar :=
  if h : clampInteger bytes = bytes then .ok ⟨bytes, h⟩ else .err .serializationError

theorem Scalar.fromBytes_eq_ok {b : GenericArray 32} {k : Scalar} :
    fromBytes b = .ok k ↔ b = k.bytes := by
  unfold fromBytes
  rw [Outcome.dite_eq_ok]
  constructor
  · intro h
    obtain ⟨hcheck, rfl⟩ := h
    rfl
  · intro h
    subst h
    exact ⟨k.clamped, rfl⟩

theorem Scalar.fromBytes_never_panics (b : GenericArray 32) :
    fromBytes b ≠ (.panicked : Outcome Error Scalar) := by
  unfold fromBytes
  split <;> simp

/-- `Scalar(clamp_integer(bytes))`. -/
def Scalar.ofClamped (bytes : GenericArray 32) : Scalar :=
  ⟨clampInteger bytes, clampInteger_clampInteger bytes⟩

/-! ### The group -/

/-- `public_key`, wrapped without a check. -/
def publicKey (sk : Scalar) : NonIdentity M where
  point := M.mulBaseClamped sk.bytes
  notIdentity := by
    rw [← Bool.not_eq_true]
    intro h
    exact MontgomeryCurve.basepoint_large ((MontgomeryCurve.isIdentity_mulClamped _ _).mp h)

variable (M) in
/-- `Group for Curve25519`. -/
@[reducible] def group : Group where
  Pk := NonIdentity M
  PkLen := 32
  Sk := Scalar
  SkLen := 32
  serializePk pk := pk.point
  deserializeTakePk := do
    let bytes ← takeArray 32 "public key"
    (NonIdentity.fromBytes bytes : Outcome Error _)
  randomSk _ := do
    let bytes ← fillBytes 32
    return .ofClamped bytes
  deriveScalar seed := .ok (.ofClamped seed)
  publicKey := publicKey
  serializeSk sk := sk.bytes
  deserializeTakeSk := do
    let bytes ← takeArray 32 "secret key"
    (Scalar.fromBytes bytes : Outcome Error _)

/-- The product of a public key and a secret key. The source wraps it in
    `NonIdentity` without a check and takes its bytes; it need not be one. -/
def sharedPoint (sk : Scalar) (pk : NonIdentity M) : GenericArray 32 :=
  M.mulClamped pk.point sk.bytes

instance : DiffieHellman (group M) where
  diffieHellman sk pk := sharedPoint sk pk

/-! ### Laws -/

theorem dhCommutes : (group M).DhCommutes := by
  intro a b
  show M.mulClamped (M.mulClamped M.basepoint b.bytes) a.bytes =
    M.mulClamped (M.mulClamped M.basepoint a.bytes) b.bytes
  rw [MontgomeryCurve.mulClamped_comm]

theorem dhDetermines : (group M).DhDetermines := by
  intro a b c h
  have hpoint := MontgomeryCurve.mulClamped_mulBaseClamped_inj (M := M) h
  show (publicKey b : NonIdentity M) = publicKey c
  simp only [publicKey, NonIdentity.mk.injEq]
  exact hpoint

theorem pkDecoder : (group M).PkDecoder NonIdentity.fromBytes where
  run_append := run_takeArray_parse
  never_panics := NonIdentity.fromBytes_never_panics
  serializePk _ := NonIdentity.fromBytes_eq_ok.mpr rfl

theorem keyEncoding : (group M).KeyEncoding .lawful where
  pk := parsedCodec_lawful (fun _ _ => NonIdentity.fromBytes_eq_ok)
    NonIdentity.fromBytes_never_panics
  sk := parsedCodec_lawful (fun _ _ => Scalar.fromBytes_eq_ok) Scalar.fromBytes_never_panics

/-! ### Points of small order -/

/-- The secret is 0 exactly where the public key is of small order, whatever the
    secret key. -/
theorem sharedPoint_eq_zeros (sk : Scalar) (pk : NonIdentity M) :
    sharedPoint sk pk = .zeros 32 ↔ M.SmallOrder pk.point :=
  MontgomeryCurve.mulClamped_eq_zeros _ _

theorem isIdentity_sharedPoint (sk : Scalar) (pk : NonIdentity M) :
    M.isIdentity (sharedPoint sk pk) = true ↔ M.SmallOrder pk.point :=
  MontgomeryCurve.isIdentity_mulClamped _ _

/-- Only with a public key of small order all secret keys make the same secret. -/
theorem sharedPoint_depends (pk : NonIdentity M) :
    (∃ a b : Scalar, sharedPoint a pk ≠ sharedPoint b pk) ↔ ¬ M.SmallOrder pk.point := by
  constructor
  · rintro ⟨a, b, hne⟩ hsmall
    rw [(sharedPoint_eq_zeros a pk).mpr hsmall, (sharedPoint_eq_zeros b pk).mpr hsmall] at hne
    exact hne rfl
  · intro hlarge
    refine ⟨.ofClamped (MontgomeryCurve.smallClamped 0),
      .ofClamped (MontgomeryCurve.smallClamped 8), ?_⟩
    have hne := MontgomeryCurve.mulClamped_ne hlarge
    simp only [sharedPoint, Scalar.ofClamped, MontgomeryCurve.mulClamped_clampInteger]
    exact hne

end OpaqueVx.Curve25519
