import OpaqueVx.Reference

/-! # The manual EdDSA

  What is signed verifies, whichever way the message is cut into slices; the signature
  is that of RFC 8032; and for a commitment there is one answer that verifies. -/

namespace OpaqueVx

open Lib

namespace Curve25519Dalek

variable {E : EdwardsCurve}

theorem EdwardsCurve.compress_inj {p q : E.EdwardsPoint} (h : E.compress p = E.compress q) :
    p = q := by
  have hp := E.decompress_compress p
  rw [h, E.decompress_compress q] at hp
  exact (Option.some.inj hp).symm

/-- Multiples of the base point determine their scalar. -/
theorem EdwardsCurve.mulBase_inj {s t : Scalar}
    (h : (EdwardsCurve.mulBase s : E.EdwardsPoint) = EdwardsCurve.mulBase t) : s = t := by
  have horder : groupOrder • E.basepoint = 0 := (E.order groupOrder).mpr (Nat.dvd_refl _)
  have hne : E.basepoint ≠ 0 := by
    intro hzero
    have hdvd : groupOrder ∣ 1 := (E.order 1).mp (by rw [hzero, nsmul_zero])
    exact groupOrder_prime.one_lt.ne' (Nat.dvd_one.mp hdvd)
  exact Fin.ext (PrimeOrder.nsmul_inj groupOrder_prime horder hne s.isLt t.isLt h)

end Curve25519Dalek

namespace Ed25519

open Curve25519Dalek EdwardsCurve

variable {E : EdwardsCurve}

/-! ### RFC 8032 -/

/-- `dom2(flag, context)`. -/
def dom2 (flag : UInt8) (context : Bytes) : Bytes :=
  ascii "SigEd25519 no Ed25519 collisions" ++ flag :: UInt8.ofNat context.length :: context

/-- The signature of RFC 8032 on `m`, which is a pre-hash or a message, for a secret
    scalar and a hash prefix. Integers are not reduced before the last step. -/
def rfc8032 (E : EdwardsCurve) (a : ℕ) (hashPrefix : Bytes) (preHash : Bool) (m : Bytes) :
    Bytes :=
  let dom := if preHash then dom2 1 [] else []
  let A := (E.compress (a • E.basepoint)).bytes
  let r := ofLeBytes (E.Sha512.digest (dom ++ hashPrefix ++ m)).bytes
  let R := (E.compress (r • E.basepoint)).bytes
  let k := ofLeBytes (E.Sha512.digest (dom ++ R ++ A ++ m)).bytes
  R ++ leBytes 32 ((r + k * a) % groupOrder)

/-- The documented expansion of a seed: the hash of the seed is a clamped scalar and
    a prefix. -/
def ExpandsTo (E : EdwardsCurve) (seed low high : GenericArray 32) : Prop :=
  (E.Sha512.digest seed.bytes).bytes = low.bytes ++ high.bytes ∧
    E.expandedSecretKey seed = (Scalar.fromBytesModOrder (clampInteger low).bytes, high)

/-! ### The hashes -/

/-- `dom2` is in front exactly of what is signed in pre-hash mode. -/
theorem absorbed_hasher (preHash : Bool) :
    (hasher E preHash).absorbed = if preHash then dom2 1 [] else [] := by
  cases preHash with
  | false => rfl
  | true => simp [hasher, dom2]

theorem challenge_eq (pk : VerifyingKey E) (preHash : Bool) (message : List Bytes)
    (R : GenericArray 32) :
    challenge pk preHash message R = Scalar.fromBytesModOrder (E.Sha512.digest
      ((if preHash then dom2 1 [] else []) ++ R.bytes ++ pk.compressed.bytes ++
        message.flatten)).bytes := by
  simp [challenge, Hasher.finalize, absorbed_hasher]

/-- The nonce of a signature. -/
def nonce (sk : SigningKey E) (preHash : Bool) (message : List Bytes) : Scalar :=
  Scalar.fromBytesModOrder ((hasher E preHash).update sk.hashPrefix.bytes
    |>.chainIter message).finalize.bytes

theorem nonce_eq (sk : SigningKey E) (preHash : Bool) (message : List Bytes) :
    nonce sk preHash message = Scalar.fromBytesModOrder (E.Sha512.digest
      ((if preHash then dom2 1 [] else []) ++ sk.hashPrefix.bytes ++ message.flatten)).bytes := by
  simp [nonce, Hasher.finalize, absorbed_hasher]

theorem sign_eq (sk : SigningKey E) (preHash : Bool) (message : List Bytes) :
    sign sk preHash message =
      { R := E.compress (mulBase (nonce sk preHash message))
        s := challenge sk.verifyingKey preHash message
            (E.compress (mulBase (nonce sk preHash message))) * sk.scalar +
          nonce sk preHash message } := rfl

/-! ### Slices -/

section slices

variable {message message' : List Bytes}

theorem challenge_congr (h : message.flatten = message'.flatten) (pk : VerifyingKey E)
    (preHash : Bool) (R : GenericArray 32) :
    challenge pk preHash message R = challenge pk preHash message' R := by
  rw [challenge_eq, challenge_eq, h]

theorem sign_congr (h : message.flatten = message'.flatten) (sk : SigningKey E)
    (preHash : Bool) : sign sk preHash message = sign sk preHash message' := by
  have hnonce : nonce sk preHash message = nonce sk preHash message' := by
    rw [nonce_eq, nonce_eq, h]
  rw [sign_eq, sign_eq, hnonce, challenge_congr h]

theorem verify_congr (h : message.flatten = message'.flatten) (pk : VerifyingKey E)
    (preHash : Bool) (signature : Signature) :
    verify pk preHash message signature = verify pk preHash message' signature := by
  unfold verify
  rw [challenge_congr h]

end slices

/-! ### The equations -/

/-- Reduction does not change a multiple of the base point. -/
theorem mulBase_fromBytesModOrder (b : Bytes) :
    (mulBase (Scalar.fromBytesModOrder b) : E.EdwardsPoint) = ofLeBytes b • E.basepoint := by
  have horder : groupOrder • E.basepoint = 0 := (E.order groupOrder).mpr (Nat.dvd_refl _)
  show (ofLeBytes b % groupOrder) • E.basepoint = _
  rw [Schnorr.mod_nsmul horder]

/-- A signature is that of RFC 8032, for any integer that the secret scalar is the
    residue of. -/
theorem serialize_sign (sk : SigningKey E) {a : ℕ} (ha : sk.scalar.val = a % groupOrder)
    (preHash : Bool) (message : List Bytes) :
    (sign sk preHash message).serialize.bytes =
      rfc8032 E a sk.hashPrefix.bytes preHash message.flatten := by
  have horder : groupOrder • E.basepoint = 0 := (E.order groupOrder).mpr (Nat.dvd_refl _)
  have hkey : sk.verifyingKey.compressed = E.compress (a • E.basepoint) := by
    rw [sk.compressed_eq, sk.point_eq, mulBase, ha, Schnorr.mod_nsmul horder]
  have hscalar : ∀ k r : ℕ,
      (Fin.ofNat groupOrder k * sk.scalar + Fin.ofNat groupOrder r : Scalar).val =
        (r + k * a) % groupOrder := by
    intro k r
    rw [Fin.val_add, Fin.val_mul, ha]
    simp [Nat.add_comm, Nat.mul_mod, Nat.add_mod]
  rw [sign_eq, nonce_eq, mulBase_fromBytesModOrder, challenge_eq, hkey]
  simp only [Signature.serialize, GenericArray.bytes_cat, Scalar.toBytes,
    Scalar.fromBytesModOrder, hscalar]
  rfl

/-! ### One answer -/

/-- For a commitment at most one answer verifies. -/
theorem answer_unique {pk : VerifyingKey E} {preHash : Bool} {message message' : List Bytes}
    {signature signature' : Signature} (hmessage : message.flatten = message'.flatten)
    (hR : signature.R = signature'.R)
    (h : verify pk preHash message signature = .ok ())
    (h' : verify pk preHash message' signature' = .ok ()) : signature = signature' := by
  obtain ⟨R, hcommitment, hanswer⟩ := verify_eq_ok.mp h
  obtain ⟨R', hcommitment', hanswer'⟩ := verify_eq_ok.mp h'
  have hpoint : R = R' := by
    apply EdwardsCurve.compress_inj
    rw [hcommitment, hcommitment', hR]
  have hs : signature.s = signature'.s := by
    apply EdwardsCurve.mulBase_inj (E := E)
    rw [hanswer, hanswer', hpoint, hR, challenge_congr hmessage]
  exact Signature.ext hR hs

/-! ### Encodings -/

/-- An accepted string of 64 bytes is the encoding of the signature. -/
theorem signature_of_take {b : GenericArray 64} {s : Signature} {rest : Bytes}
    (h : Signature.deserializeTake.run b.bytes = .ok (s, rest)) :
    b.bytes = s.serialize.bytes := by
  have hb : b.bytes = s.serialize.bytes ++ rest :=
    Signature.codec_lawful.canonical b.bytes s rest h
  have hlen := congrArg List.length hb
  simp only [List.length_append, GenericArray.length_bytes] at hlen
  have hrest : rest = [] := List.eq_nil_of_length_eq_zero (by omega)
  rw [hb, hrest, List.append_nil]

theorem take_serialize (s : Signature) : s.serialize.bytes.take 32 = s.R.bytes := by
  rw [Signature.serialize, GenericArray.bytes_cat, List.take_append_of_le_length (by simp),
    List.take_of_length_le (by simp)]

end Ed25519

/-! ### The reference instantiation -/

namespace Reference

open Curve25519Dalek Ed25519

/-- One half of a digest. -/
def half (b : Bytes) : GenericArray 32 := ⟨List.replicate 32 (mix b), by simp⟩

/-- The reference curve with a hash of 64 bytes, by which seeds are expanded as
    documented. -/
@[reducible] def expandingEdwards : EdwardsCurve :=
  { edwards with
    expandedSecretKey := fun seed =>
      (Scalar.fromBytesModOrder (clampInteger (half seed.bytes)).bytes, half seed.bytes)
    scalar_ne_zero := fun seed => clampedScalar_ne_zero (half seed.bytes)
    Sha512 :=
      { outputSize := 64
        digest := fun input => (half input).cat (half input)
        hmac := fun key data => (half (key ++ data)).cat (half (key ++ data))
        extract := fun ikm => (half ikm).cat (half ikm)
        expand := hash.expand } }

theorem expandsTo (seed : GenericArray 32) :
    ExpandsTo expandingEdwards seed (half seed.bytes) (half seed.bytes) := by
  refine ⟨?_, rfl⟩
  show ((half seed.bytes).cat (half seed.bytes)).bytes = _
  rw [GenericArray.bytes_cat]

end Reference

/-! ### Correctness -/

namespace Ed25519

open Curve25519Dalek

/-- The manual EdDSA is correct in both modes: what a key signs verifies under it, cut
    into slices in any way; the signature is that of RFC 8032, from the expanded key and,
    with the documented expansion, from the seed; of two encodings with one commitment
    at most one verifies; and the encoding of signatures is canonical. -/
theorem eddsa_correct (E : EdwardsCurve) :
    (∀ (seed : GenericArray 32) (preHash : Bool) (message message' : List Bytes),
      message.flatten = message'.flatten →
      verify (SigningKey.fromBytes seed : SigningKey E).verifyingKey preHash message'
        (sign (SigningKey.fromBytes seed : SigningKey E) preHash message) = .ok ()) ∧
    (∀ (sk : SigningKey E) (preHash : Bool) (message message' : List Bytes),
      message.flatten = message'.flatten → sign sk preHash message = sign sk preHash message') ∧
    (∀ (pk : VerifyingKey E) (preHash : Bool) (message message' : List Bytes)
      (signature : Signature), message.flatten = message'.flatten →
      verify pk preHash message signature = verify pk preHash message' signature) ∧
    (∀ (seed : GenericArray 32) (preHash : Bool) (message : List Bytes),
      (sign (SigningKey.fromBytes seed : SigningKey E) preHash message).serialize.bytes =
        rfc8032 E (E.expandedSecretKey seed).1.val (E.expandedSecretKey seed).2.bytes preHash
          message.flatten) ∧
    (∀ (seed low high : GenericArray 32) (preHash : Bool) (message : List Bytes),
      ExpandsTo E seed low high →
      (sign (SigningKey.fromBytes seed : SigningKey E) preHash message).serialize.bytes =
        rfc8032 E (ofLeBytes (clampInteger low).bytes) high.bytes preHash message.flatten) ∧
    (∀ (pk : VerifyingKey E) (preHash : Bool) (message : List Bytes) (b₁ b₂ : GenericArray 64)
      (s₁ s₂ : Signature) (rest₁ rest₂ : Bytes), b₁.bytes.take 32 = b₂.bytes.take 32 →
      Signature.deserializeTake.run b₁.bytes = .ok (s₁, rest₁) →
      Signature.deserializeTake.run b₂.bytes = .ok (s₂, rest₂) →
      verify pk preHash message s₁ = .ok () → verify pk preHash message s₂ = .ok () →
      b₁ = b₂) ∧
    (∀ (s : Signature) (rest : Bytes),
      Signature.deserializeTake.run (s.serialize.bytes ++ rest) = .ok (s, rest)) ∧
    (∀ (b : Bytes) (s : Signature) (rest : Bytes),
      Signature.deserializeTake.run b = .ok (s, rest) → b = s.serialize.bytes ++ rest) := by
  refine ⟨?_, ?_, ?_, ?_, ?_, ?_, ?_, ?_⟩
  · intro seed preHash message message' h
    rw [← verify_congr h]
    exact verify_eq_ok.mpr (sign_valid _ preHash message)
  · intro sk preHash message message' h
    exact sign_congr h sk preHash
  · intro pk preHash message message' signature h
    exact verify_congr h pk preHash signature
  · intro seed preHash message
    exact serialize_sign _ (Nat.mod_eq_of_lt (E.expandedSecretKey seed).1.isLt).symm _ _
  · intro seed low high preHash message hexpands
    -- The documented expansion gives the scalar and the prefix of the standard.
    have hscalar : (SigningKey.fromBytes seed : SigningKey E).scalar =
        Scalar.fromBytesModOrder (clampInteger low).bytes := by
      show (E.expandedSecretKey seed).1 = _
      rw [hexpands.2]
    have hhigh : (SigningKey.fromBytes seed : SigningKey E).hashPrefix = high := by
      show (E.expandedSecretKey seed).2 = _
      rw [hexpands.2]
    rw [serialize_sign _ (by rw [hscalar]; rfl), hhigh]
  · intro pk preHash message b₁ b₂ s₁ s₂ rest₁ rest₂ hfirst h₁ h₂ hv₁ hv₂
    -- The first half of an encoding is the commitment, and it fixes the answer.
    have hb₁ := signature_of_take h₁
    have hb₂ := signature_of_take h₂
    have hR : s₁.R = s₂.R := by
      rw [hb₁, hb₂, take_serialize, take_serialize] at hfirst
      exact GenericArray.bytes_injective hfirst
    have hs := answer_unique rfl hR hv₁ hv₂
    apply GenericArray.bytes_injective
    rw [hb₁, hb₂, hs]
  · intro s rest
    exact Signature.codec_lawful.roundTrip s rest
  · intro b s rest h
    exact Signature.codec_lawful.canonical b s rest h

/-- A signature of the reference curve, from its seed. -/
theorem eddsa_correct_reference :
    (sign (SigningKey.fromBytes (.zeros 32) : SigningKey Reference.expandingEdwards) true
        [[1], [2, 3]]).serialize.bytes =
      rfc8032 Reference.expandingEdwards
        (ofLeBytes (clampInteger (Reference.half (.zeros 32 : GenericArray 32).bytes)).bytes)
        (Reference.half (.zeros 32 : GenericArray 32).bytes).bytes true [1, 2, 3] := by
  obtain ⟨-, -, -, -, hseed, -⟩ := eddsa_correct Reference.expandingEdwards
  exact hseed (.zeros 32) _ _ true [[1], [2, 3]] (Reference.expandsTo _)

end Ed25519

end OpaqueVx
