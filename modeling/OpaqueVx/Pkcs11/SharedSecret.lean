import OpaqueVx.Pkcs11.Hkdf
import OpaqueVx.Soundness

/-! # Shared secrets with a PKCS#11 token

  A token that holds the server's key gives the coordinate of a product, which leaves two
  points to choose from. The server takes one of them and asks for the coordinate of
  another product, of the client's key shifted by the generator: shifting the server's key
  by the right point gives a point with that coordinate, and shifting it by the wrong one
  does not. -/

namespace OpaqueVx.Pkcs11

open Lib EllipticCurve

variable {ε Handle : Type} {C : CurveArithmetic}

/-! ### Coordinates -/

variable (C) in
/-- `AffineCoordinates` and `DecompressPoint`: a coordinate, which two points share that
    are each other's negatives, and a sign. The identity has the coordinate zero. -/
structure AffineCurve where
  x : C.ProjectivePoint → GenericArray C.FieldBytesSize
  yIsOdd : C.ProjectivePoint → Bool
  decompress : GenericArray C.FieldBytesSize → Bool → Option C.ProjectivePoint
  x_zero : x 0 = .zeros C.FieldBytesSize
  x_eq_iff : ∀ {p q}, p ≠ 0 → q ≠ 0 → (x p = x q ↔ p = q ∨ p = -q)
  yIsOdd_neg : ∀ {p}, p ≠ 0 → yIsOdd (-p) = !yIsOdd p
  decompress_eq_some : ∀ {b odd p},
    decompress b odd = some p ↔ p ≠ 0 ∧ x p = b ∧ yIsOdd p = odd
  toSec1Point_eq : ∀ {p}, p ≠ 0 →
    C.toSec1Point p = (if yIsOdd p then 3 else 2) :: (x p).bytes

section coordinates

variable {p q : C.ProjectivePoint}

/-- No point but the identity is its own negative. -/
theorem AffineCurve.add_self_ne_zero (A : AffineCurve C) (hp : p ≠ 0) : p + p ≠ 0 := by
  intro h
  have hneg : -p = p := neg_eq_of_add_eq_zero_left h
  have hodd := A.yIsOdd_neg hp
  rw [hneg] at hodd
  exact absurd hodd (by cases A.yIsOdd p <;> simp)

variable (A : AffineCurve C)

theorem AffineCurve.x_neg (hp : p ≠ 0) : A.x (-p) = A.x p :=
  (A.x_eq_iff (neg_ne_zero.mpr hp) hp).mpr (.inr rfl)

/-- The even point of a coordinate. -/
def AffineCurve.even (p : C.ProjectivePoint) : C.ProjectivePoint := if A.yIsOdd p then -p else p

theorem AffineCurve.decompress_even (hp : p ≠ 0) :
    A.decompress (A.x p) false = some (A.even p) := by
  apply A.decompress_eq_some.mpr
  unfold even
  by_cases hodd : A.yIsOdd p = true
  · rw [if_pos hodd]
    refine ⟨neg_ne_zero.mpr hp, A.x_neg hp, ?_⟩
    rw [A.yIsOdd_neg hp, hodd]
    rfl
  · rw [if_neg hodd]
    exact ⟨hp, rfl, by simpa using hodd⟩

/-- The test tells the signs apart, except where the server's key is shifted to the
    identity and the identity's coordinate is that of another point. -/
theorem AffineCurve.x_shifted_iff (hp : p ≠ 0) (hq : q ≠ 0) (hsum : p + q ≠ 0) :
    A.x (p + q) = A.x (q + A.even p) ↔
      ¬ (A.yIsOdd p = true ∧ ¬ (p = q ∧ A.x (q + q) = .zeros C.FieldBytesSize)) := by
  unfold even
  by_cases hodd : A.yIsOdd p = true
  · rw [if_pos hodd]
    by_cases hpq : p = q
    -- The wrong point is then the negative of the server's key, and the shift is the identity.
    · subst hpq
      rw [add_neg_cancel, A.x_zero]
      simp [hodd]
    · have hdiff : q + -p ≠ 0 := by
        intro h
        rw [← sub_eq_add_neg] at h
        exact hpq (sub_eq_zero.mp h).symm
      have hne : ¬ A.x (p + q) = A.x (q + -p) := by
        intro h
        -- Two points with one coordinate are the same or negatives; either makes a point its own
        -- negative.
        rcases (A.x_eq_iff hsum hdiff).mp h with hsame | hneg
        · apply A.add_self_ne_zero hp
          rw [add_comm p q] at hsame
          exact add_eq_zero_iff_eq_neg.mpr (add_left_cancel hsame)
        · apply A.add_self_ne_zero hq
          rw [neg_add, neg_neg, add_comm (-q) p] at hneg
          exact add_eq_zero_iff_eq_neg.mpr (add_left_cancel hneg)
      simp [hodd, hpq, hne]
  · rw [if_neg hodd, add_comm p q]
    simp [hodd]

/-- The tag that the test chooses is that of the point, except there. -/
theorem AffineCurve.tag_iff (hp : p ≠ 0) (hq : q ≠ 0) (hsum : p + q ≠ 0) :
    (if (A.x (p + q)).bytes ≠ (A.x (q + A.even p)).bytes then (3 : UInt8) else 2) =
        (if A.yIsOdd p then 3 else 2) ↔
      ¬ (A.yIsOdd p = true ∧ p = q ∧ A.x (q + q) = .zeros C.FieldBytesSize) := by
  have htest := A.x_shifted_iff hp hq hsum
  have hbytes : (A.x (p + q)).bytes = (A.x (q + A.even p)).bytes ↔
      A.x (p + q) = A.x (q + A.even p) :=
    ⟨GenericArray.bytes_injective, congrArg GenericArray.bytes⟩
  simp only [ne_eq, hbytes, htest, not_not]
  by_cases hodd : A.yIsOdd p = true
  · by_cases hzero : p = q ∧ A.x (q + q) = .zeros C.FieldBytesSize
    · simp [hzero]
    · simp [hzero]
  · simp [hodd]

end coordinates

/-! ### The product -/

/-- `OctetStringRef::to_der`: a tag, the length and the bytes. -/
def octetString (bytes : Bytes) : Bytes :=
  let n := bytes.length
  let size := if n < 256 then 1 else if n < 256 ^ 2 then 2 else if n < 256 ^ 3 then 3 else 4
  4 :: (if n < 128 then [UInt8.ofNat n] else UInt8.ofNat (128 + size) :: beBytes size n) ++ bytes

/-- `pkcs_11_dh_derive_secret`. -/
def pkcs11DhDeriveSecret (session : Session Handle) (sk : Handle) (pk : Bytes) :
    Outcome ε Bytes :=
  unwrap (session.ecdh1Derive sk pk)

/-- `GenericArray::clone_from_slice`. -/
def cloneFromSlice (n : Nat) (slice : Bytes) : Outcome ε (GenericArray n) :=
  if h : slice.length = n then .ok ⟨slice, h⟩ else .panicked

/-- `pkcs_11_ecdsa_derive_secret`. -/
def pkcs11EcdsaDeriveSecret (session : Session Handle) (A : AffineCurve C) (serverSk : Handle)
    (serverPk clientPk : NonIdentity C) : Outcome ε (GenericArray C.CompressedPointSize) := do
  let clientPkDer := octetString (C.toSec1Point clientPk.point)
  let sharedSecretBytes ← pkcs11DhDeriveSecret session serverSk clientPkDer
  let sharedSecret ← cloneFromSlice C.FieldBytesSize sharedSecretBytes
  let sharedSecretPoint ← unwrap (A.decompress sharedSecret false)
  let shiftedClientPk := clientPk.point + C.generator
  let shiftedClientPkDer := octetString (C.toSec1Point shiftedClientPk)
  let checkPoint ← pkcs11DhDeriveSecret session serverSk shiftedClientPkDer
  let shiftedServerPk := serverPk.point + sharedSecretPoint
  let tag := if checkPoint ≠ (A.x shiftedServerPk).bytes then 3 else 2
  return ⟨tag :: sharedSecret.bytes, by simp⟩

/-- The coordinate of a product with a key, which a token gives for every point but the
    identity. -/
def sharedCoordinate (A : AffineCurve C) (sk : SecretKey C) (p : C.ProjectivePoint) :
    Option Bytes :=
  if p = 0 then none else some (A.x (sk.scalar.val • p)).bytes

section product

variable {session : Session Handle} {A : AffineCurve C} {serverSk : Handle} {sk : SecretKey C}
  {clientPk : NonIdentity C}

/-- Where the test fails: the client's key is the generator, and the product of the
    server's keys, of which nothing is known, is odd and its double has the coordinate of
    the identity. -/
def Undecided (A : AffineCurve C) (sk : SecretKey C) (clientPk : NonIdentity C) : Prop :=
  let serverPk := (NonIdentity.mulByGenerator sk).point
  clientPk.point = C.generator ∧ A.yIsOdd serverPk = true ∧
    A.x (serverPk + serverPk) = .zeros C.FieldBytesSize

/-- A product with the server's key. -/
theorem nsmul_ne_zero {p : C.ProjectivePoint} (hp : p ≠ 0) : sk.scalar.val • p ≠ 0 :=
  (NonIdentity.mul ⟨p, hp⟩ sk).ne_zero

theorem nsmul_eq_generator_iff {p : C.ProjectivePoint} :
    sk.scalar.val • p = sk.scalar.val • C.generator ↔ p = C.generator := by
  constructor
  · intro h
    have hndvd : ¬ C.ORDER ∣ sk.scalar.val := fun hdvd =>
      sk.ne_zero (Nat.eq_zero_of_dvd_of_lt hdvd sk.scalar.isLt)
    exact PrimeOrder.nsmul_left_inj C.prime (C.annihilates _) (C.annihilates _) hndvd h
  · intro h
    rw [h]

/-- With both answers of the token: the product, with its own tag unless the test fails. -/
theorem pkcs11EcdsaDeriveSecret_eq (hshift : clientPk.point + C.generator ≠ 0)
    (hproduct : session.ecdh1Derive serverSk (octetString (C.toSec1Point clientPk.point)) =
      some (A.x (sk.scalar.val • clientPk.point)).bytes)
    (hcheck : session.ecdh1Derive serverSk
      (octetString (C.toSec1Point (clientPk.point + C.generator))) =
        some (A.x (sk.scalar.val • (clientPk.point + C.generator))).bytes) :
    ∃ secret : GenericArray C.CompressedPointSize,
      pkcs11EcdsaDeriveSecret session A serverSk (.mulByGenerator sk) clientPk =
        (.ok secret : Outcome ε _) ∧
      (secret.bytes = C.toSec1Point (clientPk.mul sk).point ↔ ¬ Undecided A sk clientPk) := by
  have hS : sk.scalar.val • clientPk.point ≠ 0 := nsmul_ne_zero clientPk.ne_zero
  have hP : sk.scalar.val • C.generator ≠ 0 := nsmul_ne_zero C.generator_ne_zero
  have hsum : sk.scalar.val • clientPk.point + sk.scalar.val • C.generator ≠ 0 := by
    rw [← nsmul_add]
    exact nsmul_ne_zero hshift
  have htest := A.x_shifted_iff hS hP hsum
  have hclone : (cloneFromSlice C.FieldBytesSize (A.x (sk.scalar.val • clientPk.point)).bytes :
      Outcome ε _) = .ok (A.x (sk.scalar.val • clientPk.point)) :=
    dif_pos (A.x (sk.scalar.val • clientPk.point)).size
  rw [nsmul_add] at hcheck
  unfold pkcs11EcdsaDeriveSecret pkcs11DhDeriveSecret
  simp only [hproduct, hcheck, unwrap, Outcome.ok_bind, hclone, A.decompress_even hS]
  refine ⟨_, rfl, ?_⟩
  -- `Undecided` speaks of the client's key, the test of its product.
  have hundecided : Undecided A sk clientPk ↔
      A.yIsOdd (sk.scalar.val • clientPk.point) = true ∧
        sk.scalar.val • clientPk.point = sk.scalar.val • C.generator ∧
        A.x (sk.scalar.val • C.generator + sk.scalar.val • C.generator) =
          .zeros C.FieldBytesSize := by
    constructor
    · rintro ⟨hgenerator, hodd, hzero⟩
      rw [hgenerator]
      exact ⟨hodd, rfl, hzero⟩
    · rintro ⟨hodd, hsame, hzero⟩
      rw [hsame] at hodd
      exact ⟨nsmul_eq_generator_iff.mp hsame, hodd, hzero⟩
  rw [hundecided, ← A.tag_iff hS hP hsum]
  show (if _ then 3 else 2) :: _ = C.toSec1Point (sk.scalar.val • clientPk.point) ↔ _
  rw [A.toSec1Point_eq hS, List.cons.injEq, and_iff_left rfl]
  rfl

/-- The token has a secret key of the curve. It may fail. -/
def HoldsKey (session : Session Handle) (A : AffineCurve C) (serverSk : Handle)
    (sk : SecretKey C) : Prop :=
  ∀ p out, session.ecdh1Derive serverSk (octetString (C.toSec1Point p)) = some out →
    sharedCoordinate A sk p = some out

/-- What comes from the token is the product, except where the test fails. -/
theorem pkcs11EcdsaDeriveSecret_sound (hkey : HoldsKey session A serverSk sk)
    {secret : GenericArray C.CompressedPointSize}
    (h : pkcs11EcdsaDeriveSecret session A serverSk (.mulByGenerator sk) clientPk =
      (.ok secret : Outcome ε _)) :
    secret.bytes = C.toSec1Point (clientPk.mul sk).point ↔ ¬ Undecided A sk clientPk := by
  have hanswers := h
  obtain ⟨product, hproduct, hanswers⟩ := Outcome.bind_eq_ok.mp hanswers
  obtain ⟨_, -, hanswers⟩ := Outcome.bind_eq_ok.mp hanswers
  obtain ⟨_, -, hanswers⟩ := Outcome.bind_eq_ok.mp hanswers
  obtain ⟨check, hcheck, -⟩ := Outcome.bind_eq_ok.mp hanswers
  have hproduct := unwrap_eq_ok.mp hproduct
  have hcheck := unwrap_eq_ok.mp hcheck
  have hcoordinate := hkey _ _ hproduct
  have hcheckCoordinate := hkey _ _ hcheck
  -- The token gives nothing for the identity, so it was not asked for it.
  have hshift : clientPk.point + C.generator ≠ 0 := by
    intro hzero
    rw [sharedCoordinate, if_pos hzero] at hcheckCoordinate
    cases hcheckCoordinate
  rw [sharedCoordinate, if_neg clientPk.ne_zero] at hcoordinate
  rw [sharedCoordinate, if_neg hshift] at hcheckCoordinate
  rw [← hcoordinate] at hproduct
  rw [← hcheckCoordinate] at hcheck
  obtain ⟨secret', hsecret, hiff⟩ := pkcs11EcdsaDeriveSecret_eq hshift hproduct hcheck
  obtain rfl : secret' = secret := Outcome.ok.inj (hsecret.symm.trans h)
  exact hiff

end product

/-- The shared secret that comes from a token is the one that the key makes, except where
    the test fails, and a token that does not fail gives one for every key of a client but
    the negative of the generator. -/
theorem pkcs11_ecdsa_derive_secret_exact (C : CurveArithmetic) (K : KeyGeneration C)
    (A : AffineCurve C) {Handle : Type} (session : Session Handle) (serverSk : Handle)
    (sk : SecretKey C) :
    (HoldsKey session A serverSk sk → ∀ (clientPk : NonIdentity C) secret,
      pkcs11EcdsaDeriveSecret session A serverSk (.mulByGenerator sk) clientPk =
        (.ok secret : Outcome Error _) →
      (secret = @DiffieHellman.diffieHellman (group C K) _ sk clientPk ↔
        ¬ Undecided A sk clientPk)) ∧
    ((∀ p, session.ecdh1Derive serverSk (octetString (C.toSec1Point p)) =
        sharedCoordinate A sk p) →
      ∀ clientPk : NonIdentity C,
        (∃ secret, pkcs11EcdsaDeriveSecret session A serverSk (.mulByGenerator sk) clientPk =
          (.ok secret : Outcome Error _)) ↔ clientPk.point ≠ -C.generator) := by
  refine ⟨?_, ?_⟩
  · intro hkey clientPk secret h
    rw [← pkcs11EcdsaDeriveSecret_sound hkey h]
    exact ⟨congrArg GenericArray.bytes, fun hbytes => GenericArray.bytes_injective hbytes⟩
  · intro hkey clientPk
    have hshift : clientPk.point + C.generator = 0 ↔ clientPk.point = -C.generator :=
      add_eq_zero_iff_eq_neg
    constructor
    · rintro ⟨secret, h⟩ hneg
      -- The token refuses the identity.
      obtain ⟨_, -, h⟩ := Outcome.bind_eq_ok.mp h
      obtain ⟨_, -, h⟩ := Outcome.bind_eq_ok.mp h
      obtain ⟨_, -, h⟩ := Outcome.bind_eq_ok.mp h
      obtain ⟨check, hcheck, -⟩ := Outcome.bind_eq_ok.mp h
      have hcheck := unwrap_eq_ok.mp hcheck
      rw [hkey, sharedCoordinate, if_pos (hshift.mpr hneg)] at hcheck
      cases hcheck
    · intro hne
      have hsum : clientPk.point + C.generator ≠ 0 := fun h => hne (hshift.mp h)
      obtain ⟨secret, hsecret, -⟩ := pkcs11EcdsaDeriveSecret_eq hsum
        (by rw [hkey, sharedCoordinate, if_neg clientPk.ne_zero])
        (by rw [hkey, sharedCoordinate, if_neg hsum])
      exact ⟨secret, hsecret⟩

end OpaqueVx.Pkcs11

/-! ### A curve with signs -/

namespace OpaqueVx.Reference

open Lib EllipticCurve

/-- The integers modulo 7 without their signs: 4, 5 and 6 are the negatives. -/
def magnitude (p : Fin 7) : UInt8 := UInt8.ofNat (min p.val (7 - p.val))

def encodeSigned (p : Fin 7) : Bytes :=
  if p.val = 0 then [0] else [if 3 < p.val then 3 else 2, magnitude p]

def unsigned (x : UInt8) : Fin 7 := ⟨x.toNat % 7, Nat.mod_lt _ (Nat.zero_lt_succ 6)⟩

def decodeSigned : Bytes → Option (Fin 7)
  | [3, x] => some (-unsigned x)
  | [_, x] => some (unsigned x)
  | _ => none

@[reducible] def signedArithmetic : CurveArithmetic where
  ProjectivePoint := Fin 7
  group := curveArithmetic.group
  decEq := curveArithmetic.decEq
  ORDER := 7
  prime := Nat.prime_seven
  annihilates := curveArithmetic.annihilates
  generator := curveArithmetic.generator
  generator_ne_zero := curveArithmetic.generator_ne_zero
  FieldBytesSize := 1
  toSec1Point := encodeSigned
  length_toSec1Point := by decide
  fromBytes b := decodeSigned b.bytes
  fromBytes_toSec1Point {p} b hp hb := by
    have hall : ∀ p : Fin 7, p ≠ 0 → decodeSigned (encodeSigned p) = some p := by decide
    rw [hb]
    exact hall p hp
  toRepr := curveArithmetic.toRepr
  fromRepr := curveArithmetic.fromRepr
  fromRepr_toRepr := curveArithmetic.fromRepr_toRepr

/-- The point of a magnitude and a sign. -/
def decompressSigned (x : UInt8) (odd : Bool) : Option (Fin 7) :=
  if x = 1 ∨ x = 2 ∨ x = 3 then some (if odd then -unsigned x else unsigned x) else none

theorem decompressSigned_eq_some {x : UInt8} {odd : Bool} {p : Fin 7} :
    decompressSigned x odd = some p ↔ p ≠ 0 ∧ magnitude p = x ∧ decide (3 < p.val) = odd := by
  have hpoint : ∀ p : Fin 7, p ≠ 0 →
      decompressSigned (magnitude p) (decide (3 < p.val)) = some p := by decide
  constructor
  · intro h
    by_cases hx : x = 1 ∨ x = 2 ∨ x = 3
    · rcases hx with rfl | rfl | rfl
      · revert odd p
        decide
      · revert odd p
        decide
      · revert odd p
        decide
    · rw [decompressSigned, if_neg hx] at h
      cases h
  · rintro ⟨hp, rfl, rfl⟩
    exact hpoint p hp

def signedCurve : Pkcs11.AffineCurve signedArithmetic where
  x p := single (magnitude p)
  yIsOdd p := decide (3 < p.val)
  decompress b odd := decompressSigned (unsingle b) odd
  x_zero := rfl
  x_eq_iff := by decide
  yIsOdd_neg := by decide
  decompress_eq_some {b odd p} := by
    rw [decompressSigned_eq_some]
    have hbyte : magnitude p = unsingle b ↔ single (magnitude p) = b := by
      constructor
      · intro h
        rw [h, single_unsingle]
      · intro h
        rw [← h, unsingle_single]
    rw [hbyte]
  toSec1Point_eq := by decide

def signedSecretKey (n : Nat) : SecretKey signedArithmetic :=
  ⟨(curveSecretKey n).scalar, (curveSecretKey n).ne_zero⟩

def signedKeyGeneration : KeyGeneration signedArithmetic where
  generateFromRng _ := do
    let seed ← fillBytes 1
    return signedSecretKey (unsingle seed).toNat
  deriveKey seed info := .ok (signedSecretKey (mix (seed ++ info)).toNat).scalar

@[reducible] def signedGroup : Group := EllipticCurve.group signedArithmetic signedKeyGeneration

instance : DiffieHellman signedGroup := EllipticCurve.instDiffieHellmanGroup signedKeyGeneration

def signedKey : SecretKey signedArithmetic := signedSecretKey 4

/-- A token that holds one seed and one key. -/
def token : Pkcs11.Session Unit :=
  { seedToken with
    ecdh1Derive := fun _ data =>
      (List.finRange 7).find? (fun p => Pkcs11.octetString (encodeSigned p) = data) >>=
        Pkcs11.sharedCoordinate signedCurve signedKey }

theorem token_coordinate (p : Fin 7) :
    token.ecdh1Derive () (Pkcs11.octetString (signedArithmetic.toSec1Point p)) =
      Pkcs11.sharedCoordinate signedCurve signedKey p := by
  revert p
  decide

end OpaqueVx.Reference

namespace OpaqueVx.Pkcs11

open EllipticCurve

/-- A client's key of which the product is odd. -/
theorem pkcs11_ecdsa_derive_secret_exact_reference :
    let clientPk : NonIdentity Reference.signedArithmetic := ⟨(3 : Fin 7), by decide⟩
    ∃ secret, pkcs11EcdsaDeriveSecret Reference.token Reference.signedCurve ()
        (.mulByGenerator Reference.signedKey) clientPk = (.ok secret : Lib.Outcome Error _) ∧
      secret = @DiffieHellman.diffieHellman Reference.signedGroup _ Reference.signedKey
        clientPk := by
  intro clientPk
  obtain ⟨hsound, hcomplete⟩ := pkcs11_ecdsa_derive_secret_exact Reference.signedArithmetic
    Reference.signedKeyGeneration Reference.signedCurve Reference.token () Reference.signedKey
  have hkey : HoldsKey Reference.token Reference.signedCurve () Reference.signedKey := by
    intro p out hout
    rw [Reference.token_coordinate] at hout
    exact hout
  obtain ⟨secret, hsecret⟩ := (hcomplete Reference.token_coordinate clientPk).mpr (by decide)
  refine ⟨secret, hsecret, (hsound hkey clientPk secret hsecret).mpr ?_⟩
  exact fun h => absurd h.1 (by decide)

end OpaqueVx.Pkcs11
