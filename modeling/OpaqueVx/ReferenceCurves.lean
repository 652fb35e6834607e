import OpaqueVx.Reference
import OpaqueVx.KeyExchange.Group.Ristretto255
import OpaqueVx.KeyExchange.Group.Curve25519
import OpaqueVx.KeyExchange.Group.EllipticCurve

/-! # Reference curves

  The other curves of the key exchange, over integers modulo the group order. They
  satisfy the laws of the curve libraries; the Montgomery curve also has the points
  of small order that Curve25519 has. -/

namespace OpaqueVx.Reference

open Lib Curve25519Dalek

/-! ### Ristretto group -/

theorem nsmul_groupOrder (s : Scalar) : groupOrder • s = 0 := by
  have hcard : Fintype.card Scalar • s = 0 := card_nsmul_eq_zero
  rw [Fintype.card_fin] at hcard
  exact hcard

/-- A scalar other than zero has no double that is zero. -/
theorem two_nsmul_eq_zero (s : Scalar) : 2 • s = 0 ↔ s = 0 := by
  have htwo : ¬ groupOrder ∣ 2 := by
    rw [groupOrder_eq]
    decide
  rw [PrimeOrder.nsmul_eq_zero_iff groupOrder_prime (nsmul_groupOrder s)]
  simp [htwo]

theorem one_ne_zero : (1 : Scalar) ≠ 0 := by
  have hone := nonzero_ne_zero 0
  rw [nonzero, if_pos rfl] at hone
  exact hone

/-- The same integers as elements of the Ristretto group: they meet the laws that are asked
    of it. -/
@[reducible] def ristretto : RistrettoGroup where
  RistrettoPoint := Scalar
  group := edwards.group
  decEq := inferInstance
  annihilates p := by
    apply Fin.ext
    show (groupOrder * p.val) % groupOrder = 0
    exact Nat.mul_mod_right _ _
  basepoint := 1
  basepoint_ne_zero := one_ne_zero
  compress := Scalar.toBytes
  decompress := Scalar.fromCanonicalBytes
  decompress_eq_some _ _ := Scalar.fromCanonicalBytes_eq_some

def deriveKey : Ristretto255.DeriveKey where
  deriveKey seed _ := .ok (nonzero (Scalar.fromBytesModOrder seed))
  ne_zero h := by
    injection h with h
    rw [← h]
    exact nonzero_ne_zero _

/-! ### Montgomery curve -/

/-- The coordinate of the points of order four. -/
def one : GenericArray 32 := ⟨1 :: List.replicate 31 0, rfl⟩

theorem ofLeBytes_zeros : ofLeBytes (GenericArray.zeros 32).bytes = 0 := by decide +kernel

theorem ofLeBytes_one : ofLeBytes one.bytes = 1 := by decide +kernel

/-- One of a scalar and its negation. -/
def canon (s : Scalar) : Scalar := if s.val ≤ (-s).val then s else -s

theorem canon_eq (s : Scalar) : canon s = s ∨ canon s = -s := by
  unfold canon
  split
  · exact .inl rfl
  · exact .inr rfl

/-- It does not tell a scalar from its negation. -/
theorem canon_neg (s : Scalar) : canon (-s) = canon s := by
  unfold canon
  rw [neg_neg]
  split <;> split
  · exact Fin.ext (by omega)
  · rfl
  · rfl
  · omega

/-- The coordinate of a scalar, out of the range of the other coordinates. -/
def far (s : Scalar) : GenericArray 32 :=
  ⟨leBytes 32 (s.val + groupOrder), length_leBytes _ _⟩

theorem ofLeBytes_far (s : Scalar) : ofLeBytes (far s).bytes = s.val + groupOrder := by
  have hs := s.isLt
  have hsmall : 2 * groupOrder < 256 ^ 32 := by
    rw [groupOrder_eq]
    decide
  exact ofLeBytes_leBytes (by omega)

theorem far_ne (s : Scalar) : far s ≠ .zeros 32 ∧ far s ≠ one := by
  have hvalue := ofLeBytes_far s
  have hlarge : 1 < groupOrder := by
    rw [groupOrder_eq]
    decide
  constructor
  · intro h
    rw [h, ofLeBytes_zeros] at hvalue
    omega
  · intro h
    rw [h, ofLeBytes_one] at hvalue
    omega

/-- Scalars, with a component for the points of small order. -/
abbrev MontgomeryPoint := Scalar × Fin 4

def lift (u : GenericArray 32) : MontgomeryPoint :=
  if u = .zeros 32 then (0, 2)
  else if u = one then (0, 1)
  else (nonzero (Scalar.fromBytesModOrder u.bytes), 0)

def coordinate (p : MontgomeryPoint) : GenericArray 32 :=
  if p.1 ≠ 0 then far (canon p.1)
  else if p.2 = 0 ∨ p.2 = 2 then .zeros 32
  else one

theorem lift_zeros : lift (.zeros 32) = (0, 2) := rfl

theorem lift_one : lift one = (0, 1) := by decide +kernel

theorem lift_far {s : Scalar} (hs : s ≠ 0) : lift (far s) = (s, 0) := by
  have hvalue : Scalar.fromBytesModOrder (far s).bytes = s := by
    apply Fin.ext
    rw [Scalar.fromBytesModOrder, ofLeBytes_far]
    show (s.val + groupOrder) % groupOrder = s.val
    rw [Nat.add_mod_right, Nat.mod_eq_of_lt s.isLt]
  rw [lift, if_neg (far_ne s).1, if_neg (far_ne s).2, hvalue, nonzero, if_neg hs]

/-- Of the two components one is zero: so it is for all multiples of points that a
    coordinate stands for. -/
def OnAxis (p : MontgomeryPoint) : Prop := p.1 = 0 ∨ p.2 = 0

theorem onAxis_nsmul_lift (u : GenericArray 32) (n : ℕ) : OnAxis (n • lift u) := by
  have hlift : OnAxis (lift u) := by
    unfold lift OnAxis
    split
    · exact .inl rfl
    · split
      · exact .inl rfl
      · exact .inr rfl
  rcases hlift with h | h
  · left
    rw [Prod.smul_fst, h, smul_zero]
  · right
    rw [Prod.smul_snd, h, smul_zero]

/-- The double of a point on an axis is known from its coordinate, up to its sign. -/
theorem lift_coordinate {p : MontgomeryPoint} (hp : OnAxis p) :
    2 • lift (coordinate p) = 2 • p ∨
      2 • lift (coordinate p) = (-(2 • p : MontgomeryPoint) : MontgomeryPoint) := by
  obtain ⟨s, t⟩ := p
  by_cases hs : s = 0
  · subst hs
    left
    -- The four points with first part 0 are looked at one by one.
    have hall : ∀ t : Fin 4, (2 • (2 : Fin 4) = 2 • t ∨ ¬ (t = 0 ∨ t = 2)) ∧
        (2 • (1 : Fin 4) = 2 • t ∨ (t = 0 ∨ t = 2)) := by decide
    unfold coordinate
    rw [if_neg (by simp)]
    split
    · rename_i ht
      rw [lift_zeros]
      exact Prod.ext rfl ((hall t).1.resolve_right (not_not_intro ht))
    · rename_i ht
      rw [lift_one]
      exact Prod.ext rfl ((hall t).2.resolve_right ht)
  · obtain rfl : t = 0 := hp.resolve_left hs
    have hcoordinate : coordinate (s, 0) = far (canon s) := if_pos hs
    rw [hcoordinate]
    rcases canon_eq s with hcanon | hcanon
    · left
      rw [hcanon, lift_far hs]
    · right
      rw [hcanon, lift_far (neg_ne_zero.mpr hs)]
      exact Prod.ext (neg_nsmul s 2) (by simp)

theorem coordinate_eq_zeros {p : MontgomeryPoint} (hp : OnAxis p) :
    coordinate p = .zeros 32 ↔ 2 • p = 0 := by
  obtain ⟨s, t⟩ := p
  by_cases hs : s = 0
  · subst hs
    have hall : ∀ t : Fin 4, t = 0 ∨ t = 2 ↔ 2 • t = 0 := by decide
    have hone : one ≠ .zeros 32 := by decide +kernel
    have hcoordinate : coordinate (0, t) = .zeros 32 ↔ t = 0 ∨ t = 2 := by
      unfold coordinate
      rw [if_neg (by simp)]
      split
      · simp_all
      · simp_all
    rw [hcoordinate, hall]
    simp [Prod.ext_iff]
  · have hcoordinate : coordinate (s, t) = far (canon s) := if_pos hs
    rw [hcoordinate]
    -- A first part other than 0 has odd order, so it is no coordinate of a small point.
    have htwo : 2 • s ≠ 0 := (two_nsmul_eq_zero s).not.mpr hs
    simp [Prod.ext_iff, htwo, (far_ne _).1]

/-- Only the coordinate 0 stands for a point of order two. -/
theorem two_nsmul_lift (u : GenericArray 32) : u = .zeros 32 ↔ 2 • lift u = 0 := by
  have htwo : 2 • (2 : Fin 4) = 0 ∧ 2 • (1 : Fin 4) ≠ 0 := by decide
  unfold lift
  split
  · rename_i hu
    simp [hu, Prod.ext_iff, htwo.1]
  · rename_i hu
    split
    · simp [hu, Prod.ext_iff, htwo.2]
    · simp [hu, Prod.ext_iff, two_nsmul_eq_zero, nonzero_ne_zero]

theorem coordinate_neg (p : MontgomeryPoint) : coordinate (-p) = coordinate p := by
  obtain ⟨s, t⟩ := p
  have hall : ∀ t : Fin 4, -t = 0 ∨ -t = 2 ↔ t = 0 ∨ t = 2 := by decide
  simp only [coordinate, Prod.fst_neg, Prod.snd_neg, canon_neg, neg_ne_zero, hall]

/-- Scalars and a group of four points, two of which are on the curve; the coordinate
    1 stands for points of order four, as it does on Curve25519. -/
@[reducible] def montgomery : MontgomeryCurve where
  Point := MontgomeryPoint
  group := inferInstance
  lift := lift
  order u := by
    left
    have hcard : Fintype.card MontgomeryPoint • lift u = 0 := card_nsmul_eq_zero
    rw [Fintype.card_prod, Fintype.card_fin, Fintype.card_fin] at hcard
    have hmul : 8 * groupOrder = groupOrder * 4 * 2 := by omega
    rw [hmul, mul_nsmul, hcard, smul_zero]
  coordinate := coordinate
  coordinate_neg := coordinate_neg
  lift_coordinate u n := lift_coordinate (onAxis_nsmul_lift u n)
  coordinate_eq_zeros u n := coordinate_eq_zeros (onAxis_nsmul_lift u n)
  isIdentity u := u = .zeros 32
  isIdentity_iff u := by
    rw [decide_eq_true_iff]
    exact two_nsmul_lift u
  isIdentity_coordinate u n := by
    rw [decide_eq_true_iff]
    exact coordinate_eq_zeros (onAxis_nsmul_lift u n)
  basepoint := far 1
  basepoint_order := by
    rw [lift_far one_ne_zero]
    refine Prod.ext (nsmul_groupOrder 1) ?_
    rw [Prod.smul_snd, smul_zero]
    rfl
  basepoint_ne_zero := by
    rw [lift_far one_ne_zero]
    intro h
    exact one_ne_zero (congrArg Prod.fst h)

/-! ### A curve of the traits -/

/-- The integers modulo 7, with a tag before each but zero. -/
@[reducible] def curveArithmetic : EllipticCurve.CurveArithmetic where
  ProjectivePoint := Fin 7
  group := inferInstance
  decEq := inferInstance
  ORDER := 7
  prime := Nat.prime_seven
  annihilates := by decide
  generator := 1
  generator_ne_zero := by decide
  FieldBytesSize := 1
  toSec1Point p := if p = 0 then [0] else [2, UInt8.ofNat p.val]
  length_toSec1Point h := by rw [if_neg h]; rfl
  fromBytes b :=
    match b.bytes with
    | [2, x] => some (Fin.ofNat 7 x.toNat)
    | _ => none
  fromBytes_toSec1Point {p} b hp hb := by
    rw [if_neg hp] at hb
    simp only [hb]
    have hall : ∀ p : Fin 7, Fin.ofNat 7 (UInt8.ofNat p.val).toNat = p := by decide
    rw [hall]
  toRepr s := single (UInt8.ofNat s.val)
  fromRepr b := some (Fin.ofNat 7 (unsingle b).toNat)
  fromRepr_toRepr := by decide

end OpaqueVx.Reference
