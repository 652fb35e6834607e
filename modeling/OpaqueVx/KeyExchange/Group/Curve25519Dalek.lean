import OpaqueVx.KeyPair
import OpaqueVx.Lib.Schnorr
import OpaqueVx.Lib.Pratt
import OpaqueVx.Lib.PrimeOrder

/-! # The curve library

  What the groups over Curve25519 use of `curve25519-dalek` and `ed25519-dalek`.
  Scalars are integers modulo the group order; points are the elements of an
  abstract commutative group with a base point of that order. Encodings of points
  and the expansion of an Ed25519 secret key are parameters, with the documented
  facts about them as fields. -/

namespace OpaqueVx.Curve25519Dalek

open Lib

/-! ### Scalars -/

/-- The order of the base point. -/
@[irreducible] def groupOrder : Nat := 2 ^ 252 + 27742317777372353535851937790883648493

theorem groupOrder_eq : groupOrder = 2 ^ 252 + 27742317777372353535851937790883648493 := by
  rw [groupOrder]

instance : NeZero groupOrder := ⟨by rw [groupOrder_eq]; decide⟩

theorem groupOrder_lt : groupOrder < 256 ^ 32 := by
  rw [groupOrder_eq]
  decide

/-- `Scalar`: an integer modulo the group order. -/
abbrev Scalar := Fin groupOrder

namespace Scalar

/-- `Scalar::to_bytes`: 32 bytes, least significant first. -/
def toBytes (s : Scalar) : GenericArray 32 := ⟨leBytes 32 s.val, length_leBytes 32 _⟩

/-- `Scalar::from_canonical_bytes`: refuses integers from the group order on. -/
def fromCanonicalBytes (b : GenericArray 32) : Option Scalar :=
  if h : ofLeBytes b.bytes < groupOrder then some ⟨ofLeBytes b.bytes, h⟩ else none

/-- The integer a byte string stands for, reduced: `Scalar::from_hash` and
    `Scalar::from_bytes_mod_order_wide`. -/
def fromBytesModOrder (b : Bytes) : Scalar := Fin.ofNat groupOrder (ofLeBytes b)

/-- Canonical bytes are exactly the encodings. -/
theorem fromCanonicalBytes_eq_some {b : GenericArray 32} {s : Scalar} :
    fromCanonicalBytes b = some s ↔ b = toBytes s := by
  unfold fromCanonicalBytes
  constructor
  · intro h
    split at h
    · have hval : ofLeBytes b.bytes = s.val := congrArg Fin.val (Option.some.inj h)
      -- 32 bytes are determined by their integer.
      have hwidth := leBytes_ofLeBytes b.bytes
      rw [b.size, hval] at hwidth
      exact GenericArray.bytes_injective hwidth.symm
    · cases h
  · intro h
    have hs : s.val < 256 ^ 32 := Nat.lt_trans s.isLt groupOrder_lt
    have hval : ofLeBytes b.bytes = s.val := by
      rw [h]
      exact ofLeBytes_leBytes hs
    rw [dif_pos (by rw [hval]; exact s.isLt)]
    exact congrArg some (Fin.ext hval)

theorem fromCanonicalBytes_toBytes (s : Scalar) : fromCanonicalBytes (toBytes s) = some s :=
  fromCanonicalBytes_eq_some.mpr rfl

theorem fromCanonicalBytes_eq_none {b : GenericArray 32} :
    fromCanonicalBytes b = none ↔ groupOrder ≤ ofLeBytes b.bytes := by
  unfold fromCanonicalBytes
  split
  · rename_i h
    simp [h]
  · rename_i h
    simp [Nat.le_of_not_lt h]

end Scalar

/-! ### Primes -/

/-- The order of the large subgroup of the twist. -/
@[irreducible] def twistOrder : Nat := 2 ^ 253 - 55484635554744707071703875581767296995

/-- The two orders, with the primes that certify them. -/
def orders : List Pratt.Link :=
  [⟨14474011154664524427946373126085988481603263447650325797860494125407373907997, 2, [2, 2, 79,
      117223, 6418733, 2220636239, 27413359092552162435694767700453926735143482401279781]⟩,
    ⟨27413359092552162435694767700453926735143482401279781, 2, [2, 2, 3, 5, 4363,
      104719073621178708975837602950775180438320278101]⟩,
    ⟨104719073621178708975837602950775180438320278101, 2, [2, 2, 5, 5, 11, 467,
      203852586375664218368381551393371968928013]⟩,
    ⟨203852586375664218368381551393371968928013, 2, [2, 2, 3, 743104567, 1013266244677,
      22561162540501040539]⟩,
    ⟨22561162540501040539, 3, [2, 3, 727169, 5171003929967]⟩,
    ⟨5171003929967, 5, [2, 7, 31, 181, 2281, 28859]⟩,
    ⟨727169, 3, [2, 2, 2, 2, 2, 2, 2, 13, 19, 23]⟩,
    ⟨1013266244677, 2, [2, 2, 3, 7, 383, 3911, 8053]⟩,
    ⟨743104567, 6, [2, 3, 3, 3637, 11351]⟩,
    ⟨2220636239, 23, [2, 1110318119]⟩,
    ⟨1110318119, 7, [2, 7, 13, 487, 12527]⟩,
    ⟨6418733, 2, [2, 2, 19, 84457]⟩,
    ⟨84457, 5, [2, 2, 2, 3, 3, 3, 17, 23]⟩,
    ⟨117223, 3, [2, 3, 7, 2791]⟩,
    ⟨7237005577332262213973186563042994240857116359379907606001950938285454250989, 2, [2, 2, 3, 11,
      198211423230930754013084525763697, 276602624281642239937218680557139826668747]⟩,
    ⟨276602624281642239937218680557139826668747, 2, [2, 7,
      19757330305831588566944191468367130476339]⟩,
    ⟨19757330305831588566944191468367130476339, 2, [2, 269, 213441916511,
      172054593956031949258510691]⟩,
    ⟨172054593956031949258510691, 2, [2, 5, 1361, 2851, 4434155615661930479]⟩,
    ⟨4434155615661930479, 17, [2, 41, 43, 1257559732178653]⟩,
    ⟨1257559732178653, 2, [2, 2, 3, 7, 23, 531581, 1224481]⟩,
    ⟨1224481, 13, [2, 2, 2, 2, 2, 3, 5, 2551]⟩,
    ⟨531581, 2, [2, 2, 5, 7, 3797]⟩,
    ⟨213441916511, 13, [2, 5, 73, 292386187]⟩,
    ⟨292386187, 2, [2, 3, 3, 3, 3, 307, 5879]⟩,
    ⟨198211423230930754013084525763697, 5, [2, 2, 2, 2, 3, 23, 58964693, 3044861653679985063343]⟩,
    ⟨3044861653679985063343, 5, [2, 3, 11, 30703, 82163, 132667, 137849]⟩,
    ⟨137849, 3, [2, 2, 2, 17231]⟩,
    ⟨132667, 5, [2, 3, 22111]⟩,
    ⟨82163, 2, [2, 41081]⟩,
    ⟨58964693, 2, [2, 2, 14741173]⟩,
    ⟨14741173, 2, [2, 2, 3, 3, 409477]⟩,
    ⟨409477, 2, [2, 2, 3, 34123]⟩]

theorem orders_prime : ∀ l ∈ orders, l.number.Prime :=
  Pratt.prime_of_valid (by decide +kernel)

theorem groupOrder_prime : groupOrder.Prime := by
  have hmem : ∃ l ∈ orders, l.number = groupOrder := by
    rw [groupOrder_eq]
    decide +kernel
  obtain ⟨l, hl, hnumber⟩ := hmem
  rw [← hnumber]
  exact orders_prime l hl

theorem twistOrder_eq : twistOrder = 2 ^ 253 - 55484635554744707071703875581767296995 := by
  rw [twistOrder]

theorem twistOrder_prime : twistOrder.Prime := by
  have hmem : ∃ l ∈ orders, l.number = twistOrder := by
    rw [twistOrder_eq]
    decide +kernel
  obtain ⟨l, hl, hnumber⟩ := hmem
  rw [← hnumber]
  exact orders_prime l hl

/-! ### Clamping -/

/-- `clamp_integer`: clears the three lowest bits and the highest, and sets the
    second highest. -/
def clampInteger (b : GenericArray 32) : GenericArray 32 :=
  ⟨(b.bytes.modify 0 (· &&& 248)).modify 31 (fun x => (x &&& 127) ||| 64), by simp⟩

/-- Clamping on the single bytes. -/
theorem clampInteger_bytes {b : GenericArray 32} {x y : UInt8} {mid : Bytes}
    (hmid : mid.length = 30) (h : b.bytes = x :: (mid ++ [y])) :
    (clampInteger b).bytes = (x &&& 248) :: (mid ++ [(y &&& 127) ||| 64]) := by
  have hlast : (mid ++ [y]).modify 30 (fun x => (x &&& 127) ||| 64) =
      mid ++ [(y &&& 127) ||| 64] := by
    rw [← hmid, List.modify_eq_take_drop]
    simp
  simp only [clampInteger, h, List.modify_zero_cons, List.modify_succ_cons, hlast]

/-- Every array of 32 bytes has a first byte, a last byte and 30 in between. -/
theorem exists_ends (b : GenericArray 32) :
    ∃ x mid y, mid.length = 30 ∧ b.bytes = x :: (mid ++ [y]) := by
  obtain ⟨x, rest, hb⟩ := List.exists_cons_of_length_eq_add_one b.size
  have hrest : rest.length = 31 := by
    have hsize := b.size
    rw [hb, List.length_cons] at hsize
    omega
  have hne : rest ≠ [] := by
    intro hnil
    rw [hnil] at hrest
    cases hrest
  refine ⟨x, rest.dropLast, rest.getLast hne, by simp [hrest], ?_⟩
  rw [List.dropLast_append_getLast]
  exact hb

theorem lowByte_spec (x : UInt8) : (x &&& 248) &&& 248 = x &&& 248 ∧ (x &&& 248).toNat % 8 = 0 := by
  -- A byte at a time: the 256 cases are evaluated.
  have hall : ∀ n < 256, UInt8.ofNat n &&& 248 &&& 248 = UInt8.ofNat n &&& 248 ∧
      (UInt8.ofNat n &&& 248).toNat % 8 = 0 := by decide +kernel
  have hx := hall x.toNat x.toNat_lt
  rw [UInt8.ofNat_toNat] at hx
  exact hx

theorem highByte_spec (y : UInt8) :
    ((((y &&& 127) ||| 64) &&& 127) ||| 64) = (y &&& 127) ||| 64 ∧
      64 ≤ ((y &&& 127) ||| 64).toNat ∧ ((y &&& 127) ||| 64).toNat < 128 := by
  have hall : ∀ n < 256, ((((UInt8.ofNat n &&& 127) ||| 64) &&& 127) ||| 64) =
      (UInt8.ofNat n &&& 127) ||| 64 ∧ 64 ≤ ((UInt8.ofNat n &&& 127) ||| 64).toNat ∧
        ((UInt8.ofNat n &&& 127) ||| 64).toNat < 128 := by decide +kernel
  have hy := hall y.toNat y.toNat_lt
  rw [UInt8.ofNat_toNat] at hy
  exact hy

/-- Clamping twice is clamping once. -/
theorem clampInteger_clampInteger (b : GenericArray 32) :
    clampInteger (clampInteger b) = clampInteger b := by
  obtain ⟨x, mid, y, hmid, hb⟩ := exists_ends b
  have hclamp := clampInteger_bytes hmid hb
  apply GenericArray.bytes_injective
  rw [clampInteger_bytes hmid hclamp, hclamp, (lowByte_spec x).1, (highByte_spec y).1]

/-- A clamped integer is eight times a number below the order. -/
theorem clampInteger_value (b : GenericArray 32) :
    ∃ k, 0 < k ∧ k < 2 ^ 252 ∧ ofLeBytes (clampInteger b).bytes = 8 * k := by
  obtain ⟨x, mid, y, hmid, hb⟩ := exists_ends b
  have hlow := (lowByte_spec x).2
  obtain ⟨-, hge, hlt⟩ := highByte_spec y
  have hmidlt := ofLeBytes_lt mid
  have hxlt : (x &&& 248).toNat < 256 := UInt8.toNat_lt _
  have hvalue : ofLeBytes (clampInteger b).bytes =
      (x &&& 248).toNat + 256 * (ofLeBytes mid + 256 ^ 30 * ((y &&& 127) ||| 64).toNat) := by
    have hone : ofLeBytes [(y &&& 127) ||| 64] = ((y &&& 127) ||| 64).toNat := by
      rw [ofLeBytes_cons, ofLeBytes]
      rfl
    rw [clampInteger_bytes hmid hb, ofLeBytes_cons, ofLeBytes_append, hmid, hone]
  rw [hmid] at hmidlt
  rw [hvalue]
  -- What is left is arithmetic: a low byte, 30 bytes and a high byte in [64, 128).
  generalize (x &&& 248).toNat = low at hlow hxlt ⊢
  generalize ((y &&& 127) ||| 64).toNat = high at hge hlt ⊢
  generalize ofLeBytes mid = m at hmidlt ⊢
  norm_num at hmidlt ⊢
  refine ⟨(low + 256 * (m + 256 ^ 30 * high)) / 8, ?_, ?_, ?_⟩
  · omega
  · omega
  · omega

/-- A prime above `2 ^ 252` divides no multiple of a smaller number by a power of
    two. -/
theorem not_dvd_two_pow_mul {q k : ℕ} (hq : q.Prime) (hlarge : 2 ^ 252 < q) (hpos : 0 < k)
    (hlt : k < 2 ^ 252) (j : ℕ) : ¬ q ∣ 2 ^ j * k := by
  intro hdvd
  rcases (Nat.Prime.dvd_mul hq).mp hdvd with hpow | hk
  · have hle := Nat.le_of_dvd (by decide) (hq.dvd_of_dvd_pow hpow)
    omega
  · have hle := Nat.le_of_dvd hpos hk
    omega

/-- A clamped scalar is not zero. -/
theorem clampedScalar_ne_zero (b : GenericArray 32) :
    Scalar.fromBytesModOrder (clampInteger b).bytes ≠ 0 := by
  obtain ⟨k, hpos, hlt, hvalue⟩ := clampInteger_value b
  have horder : 2 ^ 252 < groupOrder := by
    rw [groupOrder_eq]
    decide
  intro hzero
  have hmod : ofLeBytes (clampInteger b).bytes % groupOrder = 0 := congrArg Fin.val hzero
  rw [hvalue] at hmod
  exact not_dvd_two_pow_mul groupOrder_prime horder hpos hlt 3 (Nat.dvd_of_mod_eq_zero hmod)

/-! ### The Edwards form -/

structure EdwardsCurve where
  EdwardsPoint : Type
  group : AddCommGroup EdwardsPoint
  decEq : DecidableEq EdwardsPoint
  basepoint : EdwardsPoint
  /-- The base point has the group order. -/
  order : ∀ n : ℕ, n • basepoint = 0 ↔ groupOrder ∣ n
  /-- `EdwardsPoint::compress` -/
  compress : EdwardsPoint → GenericArray 32
  /-- `CompressedEdwardsY::decompress` -/
  decompress : GenericArray 32 → Option EdwardsPoint
  decompress_compress : ∀ p, decompress (compress p) = some p
  /-- `ExpandedSecretKey::from`: the scalar and the hash prefix. -/
  expandedSecretKey : GenericArray 32 → Scalar × GenericArray 32
  scalar_ne_zero : ∀ sk, (expandedSecretKey sk).1 ≠ 0
  /-- `Sha512` -/
  Sha512 : Hash

namespace EdwardsCurve

variable (E : EdwardsCurve)

instance : AddCommGroup E.EdwardsPoint := E.group

instance : DecidableEq E.EdwardsPoint := E.decEq

variable {E}

/-- `EdwardsPoint::mul_base`. -/
def mulBase (s : Scalar) : E.EdwardsPoint := s.val • E.basepoint

/-- `EdwardsPoint::vartime_double_scalar_mul_basepoint`: `a * A + b * B`. -/
def vartimeDoubleScalarMulBasepoint (a : Scalar) (A : E.EdwardsPoint) (b : Scalar) :
    E.EdwardsPoint :=
  a.val • A + b.val • E.basepoint

/-- `is_identity`. -/
def isIdentity (p : E.EdwardsPoint) : Bool := p = 0

/-- The public key of a scalar other than zero is not the identity. -/
theorem mulBase_not_identity {s : Scalar} (hs : s ≠ 0) :
    isIdentity (mulBase s : E.EdwardsPoint) = false := by
  apply decide_eq_false
  intro h
  have hdvd : groupOrder ∣ s.val := (E.order s.val).mp h
  have hzero : s.val = 0 := Nat.eq_zero_of_dvd_of_lt hdvd s.isLt
  exact hs (Fin.ext hzero)

/-- An honest answer to a challenge gives the commitment back. -/
theorem verification (k a r : Scalar) :
    vartimeDoubleScalarMulBasepoint k (-mulBase a) (k * a + r) =
      (mulBase r : E.EdwardsPoint) := by
  have horder : groupOrder • E.basepoint = 0 := (E.order groupOrder).mpr (Nat.dvd_refl _)
  have hval : (k * a + r).val = (k.val * a.val + r.val) % groupOrder := by
    rw [Fin.val_add, Fin.val_mul, Nat.mod_add_mod]
  show k.val • (-(a.val • E.basepoint)) + (k * a + r).val • E.basepoint = r.val • E.basepoint
  rw [hval]
  exact Schnorr.verification horder k.val a.val r.val

end EdwardsCurve

/-! ### The Ristretto group -/

/-- A group of prime order whose elements have one encoding each. -/
structure RistrettoGroup where
  RistrettoPoint : Type
  group : AddCommGroup RistrettoPoint
  decEq : DecidableEq RistrettoPoint
  annihilates : ∀ p : RistrettoPoint, groupOrder • p = 0
  /-- `RISTRETTO_BASEPOINT_POINT` -/
  basepoint : RistrettoPoint
  basepoint_ne_zero : basepoint ≠ 0
  /-- `RistrettoPoint::compress` -/
  compress : RistrettoPoint → GenericArray 32
  /-- `CompressedRistretto::decompress` -/
  decompress : GenericArray 32 → Option RistrettoPoint
  decompress_eq_some : ∀ b p, decompress b = some p ↔ b = compress p

namespace RistrettoGroup

variable (R : RistrettoGroup)

instance : AddCommGroup R.RistrettoPoint := R.group

instance : DecidableEq R.RistrettoPoint := R.decEq

variable {R}

/-- Points have one encoding each. -/
theorem compress_inj {p q : R.RistrettoPoint} (h : R.compress p = R.compress q) : p = q := by
  have hp := (R.decompress_eq_some _ p).mpr rfl
  have hq := (R.decompress_eq_some _ q).mpr h
  exact Option.some.inj (hp.symm.trans hq)

/-- A scalar other than zero moves every point but the identity to such a point. -/
theorem nsmul_ne_zero {s : Scalar} {p : R.RistrettoPoint} (hs : s ≠ 0) (hp : p ≠ 0) :
    s.val • p ≠ 0 := by
  intro h
  rcases (PrimeOrder.nsmul_eq_zero_iff groupOrder_prime (R.annihilates p)).mp h with hzero | hdvd
  · exact hp hzero
  · exact hs (Fin.ext (Nat.eq_zero_of_dvd_of_lt hdvd s.isLt))

end RistrettoGroup

/-! ### The Montgomery form -/

/-- Multiplication of coordinates, as `MontgomeryPoint` does it: a coordinate
    stands for a point of the curve, or of its twist, up to sign. The curve has
    cofactor 8 and the twist has cofactor 4. -/
structure MontgomeryCurve where
  Point : Type
  group : AddCommGroup Point
  /-- A point with this coordinate. -/
  lift : GenericArray 32 → Point
  order : ∀ u, (8 * groupOrder) • lift u = 0 ∨ (4 * twistOrder) • lift u = 0
  /-- The coordinate of a point; the identity has the coordinate 0. -/
  coordinate : Point → GenericArray 32
  coordinate_neg : ∀ p, coordinate (-p) = coordinate p
  /-- Of the point the coordinate keeps all but the sign; that of the identity is
      shared with a point of order two. -/
  lift_coordinate : ∀ u, ∀ n : ℕ,
    2 • lift (coordinate (n • lift u)) = 2 • n • lift u ∨
      2 • lift (coordinate (n • lift u)) = (-(2 • n • lift u : Point) : Point)
  /-- The coordinate 0 is that of the points of order at most two. -/
  coordinate_eq_zeros : ∀ u, ∀ n : ℕ,
    coordinate (n • lift u) = .zeros 32 ↔ 2 • (n • lift u) = 0
  /-- `IsIdentity for MontgomeryPoint`: the coordinate is 0 in the field. -/
  isIdentity : GenericArray 32 → Bool
  isIdentity_iff : ∀ u, isIdentity u = true ↔ 2 • lift u = 0
  isIdentity_coordinate : ∀ u, ∀ n : ℕ,
    isIdentity (coordinate (n • lift u)) = true ↔ 2 • (n • lift u) = 0
  /-- `X25519_BASEPOINT` -/
  basepoint : GenericArray 32
  basepoint_order : groupOrder • lift basepoint = 0
  basepoint_ne_zero : lift basepoint ≠ 0

namespace MontgomeryCurve

variable (M : MontgomeryCurve)

instance : AddCommGroup M.Point := M.group

/-- `MontgomeryPoint::mul_clamped`. -/
def mulClamped (u bytes : GenericArray 32) : GenericArray 32 :=
  M.coordinate (ofLeBytes (clampInteger bytes).bytes • M.lift u)

/-- `MontgomeryPoint::mul_base_clamped`. -/
def mulBaseClamped (bytes : GenericArray 32) : GenericArray 32 := M.mulClamped M.basepoint bytes

/-- A point of small order: the clamped integers, being multiples of 8, all lead to
    the identity. -/
def SmallOrder (u : GenericArray 32) : Prop := 8 • M.lift u = 0

variable {M}

/-- A multiple of 8 that no large order divides leads to the identity only from a
    point of small order. -/
theorem nsmul_eq_zero_iff_smallOrder (u : GenericArray 32) {j : ℕ} (hcurve : ¬ groupOrder ∣ j)
    (htwist : ¬ twistOrder ∣ 2 * j) : (8 * j) • M.lift u = 0 ↔ M.SmallOrder u := by
  rw [SmallOrder]
  rcases M.order u with horder | horder
  · exact PrimeOrder.nsmul_cofactor_eq_zero_iff groupOrder_prime horder hcurve
  · have htwo : ¬ twistOrder ∣ 2 := by
      intro hdvd
      exact htwist (Dvd.dvd.mul_right hdvd j)
    have hmul : 8 * j = 4 * (2 * j) := by omega
    have height : (4 * 2) • M.lift u = 0 ↔ 4 • M.lift u = 0 :=
      PrimeOrder.nsmul_cofactor_eq_zero_iff twistOrder_prime horder htwo
    rw [hmul, height]
    exact PrimeOrder.nsmul_cofactor_eq_zero_iff twistOrder_prime horder htwist

/-- A clamped multiple of a point is of order two only if the point is of small
    order. -/
theorem clamped_order (u bytes : GenericArray 32) :
    2 • (ofLeBytes (clampInteger bytes).bytes • M.lift u) = 0 ↔ M.SmallOrder u := by
  obtain ⟨k, hpos, hlt, hvalue⟩ := clampInteger_value bytes
  have horder : 2 ^ 252 < groupOrder := by
    rw [groupOrder_eq]
    decide
  have htwist : 2 ^ 252 < twistOrder := by
    rw [twistOrder_eq]
    decide
  have hndvd : ∀ q : ℕ, q.Prime → 2 ^ 252 < q → ∀ j, ¬ q ∣ 2 ^ j * k :=
    fun q hq hlarge j => not_dvd_two_pow_mul hq hlarge hpos hlt j
  have hmul : 2 * (8 * k) = 8 * (2 ^ 1 * k) := by omega
  rw [← mul_nsmul', hvalue, hmul]
  apply nsmul_eq_zero_iff_smallOrder u (hndvd _ groupOrder_prime horder 1)
  rw [← mul_assoc]
  exact hndvd _ twistOrder_prime htwist 2

/-- The product is the identity exactly for a point of small order. -/
theorem isIdentity_mulClamped (u bytes : GenericArray 32) :
    M.isIdentity (M.mulClamped u bytes) = true ↔ M.SmallOrder u := by
  rw [mulClamped, M.isIdentity_coordinate, clamped_order]

theorem mulClamped_eq_zeros (u bytes : GenericArray 32) :
    M.mulClamped u bytes = .zeros 32 ↔ M.SmallOrder u := by
  rw [mulClamped, M.coordinate_eq_zeros, clamped_order]

/-- The base point is not of small order. -/
theorem basepoint_large : ¬ M.SmallOrder M.basepoint := by
  intro hsmall
  rcases (PrimeOrder.nsmul_eq_zero_iff groupOrder_prime M.basepoint_order).mp hsmall
    with hzero | hdvd
  · exact M.basepoint_ne_zero hzero
  · have hle := Nat.le_of_dvd (by decide) hdvd
    rw [groupOrder_eq] at hle
    omega

/-- Clamped multiples of the base point are not of small order either. -/
theorem mulBaseClamped_large (bytes : GenericArray 32) :
    ¬ M.SmallOrder (M.mulBaseClamped bytes) := by
  obtain ⟨k, hpos, hlt, hvalue⟩ := clampInteger_value bytes
  have horder : 2 ^ 252 < groupOrder := by
    rw [groupOrder_eq]
    decide
  intro hsmall
  -- The coordinate determines the point up to sign, which does not matter for being zero.
  have hquadruple : 4 • 2 • (8 * k) • M.lift M.basepoint = 0 := by
    have hdouble := M.lift_coordinate M.basepoint (8 * k)
    rw [SmallOrder, mulBaseClamped, mulClamped, hvalue,
      show (8 : ℕ) = 2 * 4 from rfl, mul_nsmul] at hsmall
    rcases hdouble with h | h
    · rw [h] at hsmall
      exact hsmall
    · rw [h, neg_nsmul] at hsmall
      exact neg_eq_zero.mp hsmall
  rw [← mul_nsmul', ← mul_nsmul'] at hquadruple
  rcases (PrimeOrder.nsmul_eq_zero_iff groupOrder_prime M.basepoint_order).mp hquadruple
    with hzero | hdvd
  · exact M.basepoint_ne_zero hzero
  · have hmul : 4 * 2 * (8 * k) = 2 ^ 6 * k := by omega
    -- The order of the base point is a prime above all factors.
    rw [hmul] at hdvd
    exact not_dvd_two_pow_mul groupOrder_prime horder hpos hlt 6 hdvd

/-- An even multiple does not depend on the sign that was lost. -/
theorem coordinate_nsmul (u : GenericArray 32) {m : ℕ} (hm : 2 ∣ m) (n : ℕ) :
    M.coordinate (m • M.lift (M.coordinate (n • M.lift u))) = M.coordinate (m • n • M.lift u) := by
  obtain ⟨k, rfl⟩ := hm
  rw [mul_nsmul, mul_nsmul]
  rcases M.lift_coordinate u n with h | h
  · rw [h]
  · rw [h, neg_nsmul, M.coordinate_neg]

/-- Points with one coordinate have the same doubles up to sign. -/
theorem coordinate_inj {u : GenericArray 32} {m n : ℕ}
    (h : M.coordinate (m • M.lift u) = M.coordinate (n • M.lift u)) :
    2 • m • M.lift u = 2 • n • M.lift u ∨ 2 • m • M.lift u + 2 • n • M.lift u = 0 := by
  have hm := M.lift_coordinate u m
  rw [h] at hm
  rcases hm with hm | hm <;> rcases M.lift_coordinate u n with hn | hn
  · exact .inl (hm.symm.trans hn)
  · right
    rw [← hm, hn, neg_add_cancel]
  · right
    rw [← hn, hm, add_neg_cancel]
  · left
    exact neg_injective (hm.symm.trans hn)

@[simp] theorem mulClamped_clampInteger (u bytes : GenericArray 32) :
    M.mulClamped u (clampInteger bytes) = M.mulClamped u bytes := by
  rw [mulClamped, mulClamped, clampInteger_clampInteger]

/-- The clamped integer `2 ^ 254 + low`, for a multiple `low` of 8. -/
def smallClamped (low : UInt8) : GenericArray 32 := ⟨low :: (List.replicate 30 0 ++ [64]), rfl⟩

/-- Multiples of a point that is not of small order depend on the integer. -/
theorem mulClamped_ne {u : GenericArray 32} (hu : ¬ M.SmallOrder u) :
    M.mulClamped u (smallClamped 0) ≠ M.mulClamped u (smallClamped 8) := by
  intro h
  have hfirst : ofLeBytes (clampInteger (smallClamped 0)).bytes = 8 * 2 ^ 251 := by decide +kernel
  have hsecond : ofLeBytes (clampInteger (smallClamped 8)).bytes = 8 * (2 ^ 251 + 1) := by
    decide +kernel
  have hcurve : ¬ groupOrder ∣ 2 ∧ ¬ groupOrder ∣ 2 * (2 ^ 252 + 1) := by
    rw [groupOrder_eq]
    decide
  have htwist : ¬ twistOrder ∣ 2 * 2 ∧ ¬ twistOrder ∣ 2 * (2 * (2 ^ 252 + 1)) := by
    rw [twistOrder_eq]
    decide
  -- A coordinate loses the sign, so two cases are to be excluded.
  rw [mulClamped, mulClamped, hfirst, hsecond] at h
  rcases coordinate_inj h with heq | hsum
  · -- Equal doubles: their difference is 16 times the point.
    have hdiff : 2 * (8 * (2 ^ 251 + 1)) = 8 * 2 + 2 * (8 * 2 ^ 251) := by omega
    rw [← mul_nsmul', ← mul_nsmul', hdiff, add_nsmul] at heq
    exact hu ((nsmul_eq_zero_iff_smallOrder u hcurve.1 htwist.1).mp (right_eq_add.mp heq))
  · -- Opposite doubles: their sum is 16 times `2 ^ 252 + 1` times the point.
    have hadd : 2 * (8 * 2 ^ 251) + 2 * (8 * (2 ^ 251 + 1)) = 8 * (2 * (2 ^ 252 + 1)) := by omega
    rw [← mul_nsmul', ← mul_nsmul', ← add_nsmul, hadd] at hsum
    exact hu ((nsmul_eq_zero_iff_smallOrder u hcurve.2 htwist.2).mp hsum)

/-- Two clamped multiplications commute. -/
theorem mulClamped_comm (u a b : GenericArray 32) :
    M.mulClamped (M.mulClamped u a) b = M.mulClamped (M.mulClamped u b) a := by
  have heven : ∀ c : GenericArray 32, 2 ∣ ofLeBytes (clampInteger c).bytes := by
    intro c
    obtain ⟨k, -, -, hvalue⟩ := clampInteger_value c
    rw [hvalue]
    omega
  simp only [mulClamped]
  rw [coordinate_nsmul _ (heven b), coordinate_nsmul _ (heven a), nsmul_left_comm]

/-- Clamped multiples of the base point are told apart by their clamped multiples. -/
theorem mulClamped_mulBaseClamped_inj {a b c : GenericArray 32}
    (h : M.mulClamped (M.mulBaseClamped b) a = M.mulClamped (M.mulBaseClamped c) a) :
    M.mulBaseClamped b = M.mulBaseClamped c := by
  obtain ⟨k, hpos, hlt, ha⟩ := clampInteger_value a
  have horder : 2 ^ 252 < groupOrder := by
    rw [groupOrder_eq]
    decide
  have hndvd := not_dvd_two_pow_mul groupOrder_prime horder hpos hlt 4
  have heven : 2 ∣ 8 * k := by omega
  have hkilled : ∀ n : ℕ, groupOrder • n • M.lift M.basepoint = 0 := by
    intro n
    rw [nsmul_left_comm, M.basepoint_order, smul_zero]
  have hmul : ∀ n : ℕ, 2 • (8 * k * n) • M.lift M.basepoint =
      (2 ^ 4 * k) • n • M.lift M.basepoint := by
    intro n
    rw [← mul_nsmul', ← mul_nsmul']
    congr 1
    ring
  simp only [mulClamped, mulBaseClamped, ha] at h ⊢
  rw [coordinate_nsmul _ heven, coordinate_nsmul _ heven, ← mul_nsmul', ← mul_nsmul'] at h
  -- The products agree up to sign, and the multiplier can be taken away.
  rcases coordinate_inj h with heq | hsum
  · rw [hmul, hmul] at heq
    rw [PrimeOrder.nsmul_left_inj groupOrder_prime (hkilled _) (hkilled _) hndvd heq]
  · rw [hmul, hmul] at hsum
    have hneg := eq_neg_of_add_eq_zero_left hsum
    rw [← neg_nsmul] at hneg
    have hkilled' :
        groupOrder • (-(ofLeBytes (clampInteger c).bytes • M.lift M.basepoint)) = 0 := by
      rw [neg_nsmul, hkilled, neg_zero]
    rw [PrimeOrder.nsmul_left_inj groupOrder_prime (hkilled _) hkilled' hndvd hneg,
      M.coordinate_neg]

end MontgomeryCurve

end OpaqueVx.Curve25519Dalek
