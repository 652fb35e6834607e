import OpaqueVx.ReferenceCurves

/-! # Shared secrets

  Which shared secrets are the identity. In the groups of prime order none is, so
  the wrappers that are built without a check hold what they say, and different
  secret keys share different secrets with a peer. On Curve25519 public keys of
  small order are accepted, and with these every secret key shares the secret 0. -/

namespace OpaqueVx

open Lib Curve25519Dalek

/-- No multiplication of the key exchange ends in the identity. Keys stand for
    points: `mul` is the multiplication that public keys and shared secrets come
    from, and `encode` makes a point a shared secret. -/
structure NeverIdentity (G : Group) [DiffieHellman G] {Point : Type} [Zero Point]
    (generator : Point) (point : G.Pk → Point) (mul : G.Sk → Point → Point)
    (encode : Point → Bytes) : Prop where
  publicKey : ∀ sk : G.Sk, point (G.publicKey sk) = mul sk generator ∧ mul sk generator ≠ 0
  sharedSecret : ∀ (sk : G.Sk) (pk : G.Pk),
    (DiffieHellman.diffieHellman sk pk).bytes = encode (mul sk (point pk)) ∧
      mul sk (point pk) ≠ 0
  /-- No peer decides the secret alone. -/
  depends : ∀ (a b : G.Sk) (pk : G.Pk),
    DiffieHellman.diffieHellman a pk = DiffieHellman.diffieHellman b pk → a = b

theorem Ristretto255.neverIdentity (R : RistrettoGroup) (D : Ristretto255.DeriveKey) :
    NeverIdentity (Ristretto255.group R D) R.basepoint (fun pk => pk.point)
      (fun sk p => sk.scalar.val • p) (fun p => (R.compress p).bytes) where
  publicKey sk := ⟨rfl, (Ristretto255.publicKey sk : Ristretto255.NonIdentity R).ne_zero⟩
  sharedSecret sk pk := ⟨rfl, (Ristretto255.sharedPoint sk pk).ne_zero⟩
  depends a b pk h := by
    have hscalar := Ristretto255.sharedPoint_inj (RistrettoGroup.compress_inj h)
    cases a
    cases b
    simp only at hscalar
    subst hscalar
    rfl

theorem EllipticCurve.neverIdentity (C : EllipticCurve.CurveArithmetic)
    (K : EllipticCurve.KeyGeneration C) :
    NeverIdentity (EllipticCurve.group C K) C.generator (fun pk => pk.point)
      (fun sk p => sk.scalar.val • p) C.toSec1Point where
  publicKey sk := ⟨rfl, (EllipticCurve.NonIdentity.mulByGenerator sk).ne_zero⟩
  sharedSecret sk pk := ⟨rfl, (pk.mul sk).ne_zero⟩
  depends a b pk h := by
    have hbytes := congrArg GenericArray.bytes h
    exact EllipticCurve.mul_inj (EllipticCurve.NonIdentity.toSec1Point_inj hbytes)

/-- In the groups of prime order no product is the identity. On Curve25519 the
    shared secret is 0 exactly where the accepted public key is of small order;
    then, and only then, it does not depend on the secret key. No public key that
    is made from a secret key is of that kind. -/
theorem sharedSecret_not_identity (R : RistrettoGroup) (D : Ristretto255.DeriveKey)
    (C : EllipticCurve.CurveArithmetic) (K : EllipticCurve.KeyGeneration C)
    (M : MontgomeryCurve) :
    NeverIdentity (Ristretto255.group R D) R.basepoint (fun pk => pk.point)
        (fun sk p => sk.scalar.val • p) (fun p => (R.compress p).bytes) ∧
      NeverIdentity (EllipticCurve.group C K) C.generator (fun pk => pk.point)
        (fun sk p => sk.scalar.val • p) C.toSec1Point ∧
      ∀ pk : (Curve25519.group M).Pk,
        (∀ sk : (Curve25519.group M).Sk,
          (DiffieHellman.diffieHellman sk pk ≠ .zeros 32 ↔ ¬ M.SmallOrder pk.point) ∧
          (M.isIdentity (DiffieHellman.diffieHellman sk pk) = false ↔
            ¬ M.SmallOrder pk.point) ∧
          ¬ M.SmallOrder ((Curve25519.group M).publicKey sk).point) ∧
        ((∃ a b : (Curve25519.group M).Sk,
          DiffieHellman.diffieHellman a pk ≠ DiffieHellman.diffieHellman b pk) ↔
            ¬ M.SmallOrder pk.point) := by
  refine ⟨Ristretto255.neverIdentity R D, EllipticCurve.neverIdentity C K, fun pk => ⟨?_, ?_⟩⟩
  · intro sk
    refine ⟨(Curve25519.sharedPoint_eq_zeros sk pk).not, ?_, ?_⟩
    · rw [← Bool.not_eq_true]
      exact (Curve25519.isIdentity_sharedPoint sk pk).not
    · exact MontgomeryCurve.mulBaseClamped_large sk.bytes
  · exact Curve25519.sharedPoint_depends pk

/-- A public key of order four is accepted, and every secret key shares the secret 0
    with it. -/
theorem smallOrder_accepted :
    ∃ pk : (Curve25519.group Reference.montgomery).Pk,
      (Curve25519.group Reference.montgomery).deserializeTakePk.run Reference.one.bytes =
        .ok (pk, []) ∧
      ∀ sk : (Curve25519.group Reference.montgomery).Sk,
        DiffieHellman.diffieHellman sk pk = .zeros 32 ∧
          Reference.montgomery.isIdentity (DiffieHellman.diffieHellman sk pk) = true := by
  have hidentity : Reference.montgomery.isIdentity Reference.one = false := by decide +kernel
  have hsmall : Reference.montgomery.SmallOrder Reference.one := by
    show 8 • Reference.lift Reference.one = 0
    rw [Reference.lift_one]
    exact Prod.ext (smul_zero 8) (by decide)
  refine ⟨⟨Reference.one, hidentity⟩, ?_, fun sk => ⟨?_, ?_⟩⟩
  · exact ((Curve25519.keyEncoding (M := Reference.montgomery)).pk.roundTrip
      ⟨Reference.one, hidentity⟩).take_encode
  · exact (Curve25519.sharedPoint_eq_zeros sk _).mpr hsmall
  · exact (Curve25519.isIdentity_sharedPoint sk _).mpr hsmall

end OpaqueVx
