import OpaqueVx.KeyExchange.Group.Ristretto255
import OpaqueVx.KeyExchange.Group.Curve25519
import OpaqueVx.Reference

/-! # Keys in serde

  The serde implementations of the six key types over Curve25519, next to the byte
  formats of their groups. All six are newtype structs around 32 bytes. A format
  may hand a newtype struct to the visitor as such or as a sequence. -/

namespace OpaqueVx.Serde

open Lib Curve25519Dalek

/-! ### Newtype structs -/

/-- An error of a deserializer. -/
inductive DeError where
  /-- `Error::custom` -/
  | custom (e : Error)
  /-- `Error::invalid_length` -/
  | invalidLength (len : Nat) (expected : String)
  /-- An error of the curve library. -/
  | library
  deriving DecidableEq, Repr

/-- What a format hands to the visitor of a newtype struct around 32 bytes. -/
inductive Form where
  | newtypeStruct (name : String) (value : GenericArray 32)
  | seq (elements : List (GenericArray 32))

/-- The form holds these bytes and nothing else. -/
inductive Form.Holds (b : GenericArray 32) : Form → Prop
  | newtypeStruct (name : String) : Form.Holds b (.newtypeStruct name b)
  | seq : Form.Holds b (.seq [b])

/-- `Serialize` and `Deserialize` of a key type. -/
structure Impl (K : Type) where
  serialize : K → Form
  deserialize : Form → Outcome DeError K

/-- `visit_newtype_struct` and `visit_seq`, with a decoder for the inner value. -/
def visit {K : Type} (name : String) (decode : GenericArray 32 → Outcome DeError K) :
    Form → Outcome DeError K
  | .newtypeStruct _ value => decode value
  | .seq (element :: _) => decode element
  | .seq [] => .err (.invalidLength 0 ("tuple struct " ++ name ++ " with 1 element"))

theorem visit_holds {K : Type} {name : String} {decode : GenericArray 32 → Outcome DeError K}
    {b : GenericArray 32} {form : Form} (h : form.Holds b) : visit name decode form = decode b := by
  cases h with
  | newtypeStruct name => rfl
  | seq => rfl

/-! ### Values of the curve library -/

/-- `Scalar::deserialize`: the bytes have to be canonical. -/
def deserializeScalar (b : GenericArray 32) : Outcome DeError Scalar :=
  .okOr .library (Scalar.fromCanonicalBytes b)

/-- `RistrettoPoint::deserialize`. -/
def deserializeRistrettoPoint (R : RistrettoGroup) (b : GenericArray 32) :
    Outcome DeError R.RistrettoPoint :=
  .okOr .library (R.decompress b)

/-- `CompressedEdwardsY::deserialize`, `MontgomeryPoint::deserialize` and
    `<[u8; 32]>::deserialize`: any bytes. -/
def deserializeBytes (b : GenericArray 32) : Outcome DeError (GenericArray 32) := .ok b

/-! ### The implementations -/

/-- `VerifyingKey` of Ed25519. -/
def verifyingKey (E : EdwardsCurve) : Impl (Ed25519.VerifyingKey E) where
  serialize key := .newtypeStruct "VerifyingKey" key.compressed
  deserialize := visit "VerifyingKey" fun value => do
    let compressed ← deserializeBytes value
    (Ed25519.VerifyingKey.fromBytes compressed).mapErr .custom

/-- `SigningKey` of Ed25519: the seed is written, a scalar is read. -/
def signingKey (E : EdwardsCurve) : Impl (Ed25519.SigningKey E) where
  serialize key := .newtypeStruct "SigningKey" key.sk
  deserialize := visit "SigningKey" fun value => do
    let sk ← deserializeScalar value
    return Ed25519.SigningKey.fromBytes (Scalar.toBytes sk)

/-- `NonIdentity` of Ristretto255, with `serde_deserialize_pk`. -/
def ristrettoNonIdentity (R : RistrettoGroup) : Impl (Ristretto255.NonIdentity R) where
  serialize key := .newtypeStruct "NonIdentity" (R.compress key.point)
  deserialize := visit "NonIdentity" fun value => do
    let point ← deserializeRistrettoPoint R value
    (Ristretto255.NonIdentity.fromPoint point).mapErr .custom

/-- `NonZeroScalar` of Ristretto255, with `serde_deserialize_sk`. -/
def nonZeroScalar : Impl Ristretto255.NonZeroScalar where
  serialize key := .newtypeStruct "NonZeroScalar" (Scalar.toBytes key.scalar)
  deserialize := visit "NonZeroScalar" fun value => do
    let scalar ← deserializeScalar value
    (Ristretto255.NonZeroScalar.fromScalar scalar).mapErr .custom

/-- `NonIdentity` of Curve25519, with `serde_deserialize_pk`. -/
def curveNonIdentity (M : MontgomeryCurve) : Impl (Curve25519.NonIdentity M) where
  serialize key := .newtypeStruct "NonIdentity" key.point
  deserialize := visit "NonIdentity" fun value => do
    let point ← deserializeBytes value
    (Curve25519.NonIdentity.fromBytes point).mapErr .custom

/-- `Scalar` of Curve25519, with `serde_deserialize_sk`. -/
def curveScalar : Impl Curve25519.Scalar where
  serialize key := .newtypeStruct "Scalar" key.bytes
  deserialize := visit "Scalar" fun value => do
    let bytes ← deserializeBytes value
    (Curve25519.Scalar.fromBytes bytes).mapErr .custom

/-! ### Agreement with the byte format -/

namespace Impl

variable {K : Type} (S : Impl K) (take : Reader Error K)

/-- The key comes back. -/
def RoundTrips (key : K) : Prop := S.deserialize (S.serialize key) = .ok key

/-- The bytes are accepted in every form if and only if the byte format accepts
    them, and as the same key. -/
def AgreesAt (b : GenericArray 32) : Prop :=
  ∀ form : Form, form.Holds b → ∀ key,
    S.deserialize form = .ok key ↔ take.run b.bytes = .ok (key, [])

/-- Both for all keys and all bytes. -/
structure Agrees : Prop where
  roundTrips : ∀ key, S.RoundTrips key
  agreesAt : ∀ b, S.AgreesAt take b

end Impl

/-- A reader of 32 bytes on 32 bytes is their parser. -/
theorem run_parse_eq_ok {K : Type} {name : String} {parse : GenericArray 32 → Outcome Error K}
    {b : GenericArray 32} {key : K} :
    (do let bytes ← takeArray 32 name
        (parse bytes : Outcome Error K) : Reader Error K).run b.bytes = .ok (key, []) ↔
      parse b = .ok key := by
  have hrun := @run_takeArray_parse K 32 name parse b []
  rw [List.append_nil] at hrun
  rw [hrun, Outcome.bind_eq_ok]
  simp

/-- A newtype struct whose decoder and whose parser accept the same bytes, namely
    the encodings. -/
theorem agrees_of_parsers {K : Type} {name label : String} (encode : K → GenericArray 32)
    {decode : GenericArray 32 → Outcome DeError K} {parse : GenericArray 32 → Outcome Error K}
    (hdecode : ∀ b key, decode b = .ok key ↔ b = encode key)
    (hparse : ∀ b key, parse b = .ok key ↔ b = encode key) :
    (⟨fun key => .newtypeStruct name (encode key), visit name decode⟩ : Impl K).Agrees
      (do let bytes ← takeArray 32 label
          (parse bytes : Outcome Error K)) where
  roundTrips key := (hdecode _ _).mpr rfl
  agreesAt b form hform key := by
    show visit name decode form = .ok key ↔ _
    rw [visit_holds hform, hdecode, run_parse_eq_ok, hparse]

theorem deserializeScalar_eq_ok {b : GenericArray 32} {s : Scalar} :
    deserializeScalar b = .ok s ↔ b = Scalar.toBytes s := by
  rw [deserializeScalar, Outcome.okOr_eq_ok]
  exact Scalar.fromCanonicalBytes_eq_some

theorem verifyingKey_agrees (E : EdwardsCurve) :
    (verifyingKey E).Agrees (Ed25519.group E).deserializeTakePk := by
  apply agrees_of_parsers Ed25519.VerifyingKey.compressed
  · intro b key
    exact Outcome.mapErr_eq_ok.trans Ed25519.VerifyingKey.fromBytes_eq_ok
  · intro b key
    exact Ed25519.VerifyingKey.fromBytes_eq_ok

theorem ristrettoNonIdentity_agrees (R : RistrettoGroup) (D : Ristretto255.DeriveKey) :
    (ristrettoNonIdentity R).Agrees (Ristretto255.group R D).deserializeTakePk := by
  apply agrees_of_parsers fun key : Ristretto255.NonIdentity R => R.compress key.point
  · intro b key
    rw [Outcome.bind_eq_ok]
    simp only [deserializeRistrettoPoint, Outcome.okOr_eq_ok, Outcome.mapErr_eq_ok,
      Ristretto255.NonIdentity.fromPoint_eq_ok, exists_eq_right]
    exact R.decompress_eq_some b key.point
  · intro b key
    exact Ristretto255.parsePk_eq_ok

theorem nonZeroScalar_agrees (R : RistrettoGroup) (D : Ristretto255.DeriveKey) :
    nonZeroScalar.Agrees (Ristretto255.group R D).deserializeTakeSk := by
  apply agrees_of_parsers fun key : Ristretto255.NonZeroScalar => Scalar.toBytes key.scalar
  · intro b key
    rw [Outcome.bind_eq_ok]
    simp only [deserializeScalar_eq_ok, Outcome.mapErr_eq_ok,
      Ristretto255.NonZeroScalar.fromScalar_eq_ok, exists_eq_right]
  · intro b key
    exact Ristretto255.parseSk_eq_ok

theorem curveNonIdentity_agrees (M : MontgomeryCurve) :
    (curveNonIdentity M).Agrees (Curve25519.group M).deserializeTakePk := by
  apply agrees_of_parsers Curve25519.NonIdentity.point
  · intro b key
    exact Outcome.mapErr_eq_ok.trans Curve25519.NonIdentity.fromBytes_eq_ok
  · intro b key
    exact Curve25519.NonIdentity.fromBytes_eq_ok

theorem curveScalar_agrees (M : MontgomeryCurve) :
    curveScalar.Agrees (Curve25519.group M).deserializeTakeSk := by
  apply agrees_of_parsers Curve25519.Scalar.bytes
  · intro b key
    exact Outcome.mapErr_eq_ok.trans Curve25519.Scalar.fromBytes_eq_ok
  · intro b key
    exact Curve25519.Scalar.fromBytes_eq_ok

/-! ### The signing key of Ed25519 -/

section signingKey

variable (E : EdwardsCurve)

/-- The bytes are those of an integer below the group order. -/
def Canonical (b : GenericArray 32) : Prop := ofLeBytes b.bytes < groupOrder

instance (b : GenericArray 32) : Decidable (Canonical b) := inferInstanceAs (Decidable (_ < _))

variable {E}

/-- Seeds that are not canonical are refused by the curve library. -/
theorem signingKey_err {b : GenericArray 32} {form : Form} (hform : form.Holds b)
    (hb : ¬ Canonical b) : (signingKey E).deserialize form = .err .library := by
  have hnone := Scalar.fromCanonicalBytes_eq_none.mpr (Nat.le_of_not_lt hb)
  show visit _ _ form = _
  rw [visit_holds hform, deserializeScalar, hnone]
  rfl

/-- Of all seeds the deserializer accepts the canonical ones. -/
theorem signingKey_eq_ok {b : GenericArray 32} {form : Form} (hform : form.Holds b)
    {key : Ed25519.SigningKey E} :
    (signingKey E).deserialize form = .ok key ↔
      Canonical b ∧ key = Ed25519.SigningKey.fromBytes b := by
  by_cases hb : Canonical b
  · obtain ⟨s, hs⟩ : ∃ s, Scalar.fromCanonicalBytes b = some s := ⟨_, dif_pos hb⟩
    have hbytes := Scalar.fromCanonicalBytes_eq_some.mp hs
    have hok : (signingKey E).deserialize form = .ok (Ed25519.SigningKey.fromBytes b) := by
      show visit _ _ form = _
      rw [visit_holds hform, deserializeScalar, hs, hbytes]
      rfl
    rw [hok, Outcome.ok.injEq]
    simp [hb, eq_comm]
  · simp [signingKey_err hform hb, hb]

theorem signingKey_roundTrips_iff (key : Ed25519.SigningKey E) :
    (signingKey E).RoundTrips key ↔ Canonical key.sk := by
  have hform : ((signingKey E).serialize key).Holds key.sk := .newtypeStruct _
  rw [Impl.RoundTrips, signingKey_eq_ok hform]
  simp [Ed25519.SigningKey.fromBytes_sk]

theorem signingKey_agreesAt_iff (b : GenericArray 32) :
    (signingKey E).AgreesAt (Ed25519.group E).deserializeTakeSk b ↔ Canonical b := by
  have htake : ∀ key, (Ed25519.group E).deserializeTakeSk.run b.bytes = .ok (key, []) ↔
      Ed25519.SigningKey.fromBytes b = key := by
    intro key
    have hparse := @run_parse_eq_ok _ "secret key" (fun b => .ok (Ed25519.SigningKey.fromBytes b))
      b key
    rw [Outcome.ok.injEq] at hparse
    exact hparse
  constructor
  · intro h
    have haccepts := (h _ (.seq) _).mpr ((htake _).mpr rfl)
    exact ((signingKey_eq_ok .seq).mp haccepts).1
  · intro hcanonical form hform key
    rw [signingKey_eq_ok hform, htake]
    simp [hcanonical, eq_comm]

end signingKey

/-! ### All key types -/

/-- For five of the key types serde reads what it writes, and of all bytes what the
    byte format reads. For the signing keys of Ed25519 both hold exactly where the
    seed happens to be a canonical scalar. -/
theorem serde_agrees (E : EdwardsCurve) (R : RistrettoGroup) (D : Ristretto255.DeriveKey)
    (M : MontgomeryCurve) :
    (verifyingKey E).Agrees (Ed25519.group E).deserializeTakePk ∧
      (ristrettoNonIdentity R).Agrees (Ristretto255.group R D).deserializeTakePk ∧
      nonZeroScalar.Agrees (Ristretto255.group R D).deserializeTakeSk ∧
      (curveNonIdentity M).Agrees (Curve25519.group M).deserializeTakePk ∧
      curveScalar.Agrees (Curve25519.group M).deserializeTakeSk ∧
      (∀ key, (signingKey E).RoundTrips key ↔ Canonical key.sk) ∧
      ∀ b, (signingKey E).AgreesAt (Ed25519.group E).deserializeTakeSk b ↔ Canonical b :=
  ⟨verifyingKey_agrees E, ristrettoNonIdentity_agrees R D, nonZeroScalar_agrees R D,
    curveNonIdentity_agrees M, curveScalar_agrees M, signingKey_roundTrips_iff,
    signingKey_agreesAt_iff⟩

/-- A seed of ones: the byte format restores the key, serde refuses what it wrote. -/
theorem signingKey_not_restored :
    let seed : GenericArray 32 := ⟨List.replicate 32 255, by decide⟩
    let key : Ed25519.SigningKey Reference.edwards := .fromBytes seed
    (Ed25519.group Reference.edwards).deserializeTakeSk.run seed.bytes = .ok (key, []) ∧
      (signingKey Reference.edwards).deserialize ((signingKey _).serialize key) =
        .err .library := by
  intro seed key
  have hseed : ¬ Canonical seed := by
    rw [Canonical, groupOrder_eq]
    decide +kernel
  exact ⟨rfl, signingKey_err (.newtypeStruct _) hseed⟩

end OpaqueVx.Serde
