import OpaqueVx.Primitives

/-! # Groups and key pairs

  The group interface of the key exchange, and the key types over it. Public and
  private keys are the group's own types: the wrappers of the source add nothing
  but method names. -/

namespace OpaqueVx

open Lib

/-- The group trait. `randomSk` takes the number of rounds after which a
    rejection loop is given up. -/
structure Group where
  Pk : Type
  PkLen : Nat
  Sk : Type
  SkLen : Nat
  serializePk : Pk → GenericArray PkLen
  deserializeTakePk : Reader Error Pk
  randomSk : Nat → RngM Error Sk
  deriveScalar : GenericArray SkLen → Outcome InternalError Sk
  publicKey : Sk → Pk
  serializeSk : Sk → GenericArray SkLen
  deserializeTakeSk : Reader Error Sk

/-- `G::Sk: DiffieHellman<G>`. -/
class DiffieHellman (G : Group) where
  diffieHellman : G.Sk → G.Pk → GenericArray G.PkLen

abbrev PublicKey (G : Group) := G.Pk

abbrev PrivateKey (G : Group) := G.Sk

/-- `STR_OPAQUE_DERIVE_AUTH_KEY_PAIR`. -/
def strOpaqueDeriveAuthKeyPair : Bytes := ascii "OPAQUE-DeriveDiffieHellmanKeyPair"

namespace Group

variable (G : Group)

def pkCodec : Codec Error G.Pk := ⟨G.PkLen, G.serializePk, G.deserializeTakePk⟩

def skCodec : Codec Error G.Sk := ⟨G.SkLen, G.serializeSk, G.deserializeTakeSk⟩

end Group

/-! ### Key pairs -/

structure KeyPair (G : Group) (SK : Type) where
  pk : PublicKey G
  sk : SK

namespace KeyPair

variable (G : Group)

/-- `KeyPair::random`. -/
def random (fuel : Nat) : RngM Error (KeyPair G (PrivateKey G)) := do
  let sk ← G.randomSk fuel
  let pk := G.publicKey sk
  return { pk, sk }

/-- `KeyPair::derive_random`. -/
def deriveRandom : RngM Error (KeyPair G (PrivateKey G)) := do
  let scalarBytes ← fillBytes G.SkLen
  let sk ← ((G.deriveScalar scalarBytes).unwrap : Outcome Error G.Sk)
  let pk := G.publicKey sk
  return { pk, sk }

variable {G}

/-- A derived key pair comes from the next `SkLen` random bytes. -/
theorem run_deriveRandom_eq_ok {r r' : Rng} {kp : KeyPair G (PrivateKey G)} :
    (deriveRandom G).run r = .ok (kp, r') ↔
      G.deriveScalar (r.peek G.SkLen) = .ok kp.sk ∧ kp.pk = G.publicKey kp.sk ∧
        r' = r.advance G.SkLen := by
  unfold deriveRandom
  constructor
  · intro h
    obtain ⟨seed, r₁, hseed, h⟩ := run_bind_eq_ok.mp h
    obtain ⟨rfl, rfl⟩ : r.peek G.SkLen = seed ∧ r.advance G.SkLen = r₁ := by
      simpa using hseed
    obtain ⟨sk, r₂, hsk, h⟩ := run_bind_eq_ok.mp h
    obtain ⟨hderive, rfl⟩ := run_lift_eq_ok.mp hsk
    simp only [StateT.run_pure, Outcome.pure_eq, Outcome.ok.injEq, Prod.mk.injEq] at h
    obtain ⟨rfl, rfl⟩ := h
    exact ⟨Outcome.unwrap_eq_ok.mp hderive, rfl, rfl⟩
  · rintro ⟨hsk, hpk, rfl⟩
    cases kp with
    | mk pk sk =>
      simp only at hsk hpk
      simp [hsk, hpk]

end KeyPair

/-! ### Serialization of a server's key pair and seed -/

/-- `PrivateKeySerialization`: how a custom private key type is stored. -/
structure PrivateKeySerialization (G : Group) (SK : Type) where
  Error : Type
  Len : Nat
  serializeKeyPair : KeyPair G SK → GenericArray Len
  deserializeTakeKeyPair : Reader (ProtocolError Error) (KeyPair G SK)

/-- `OprfSeedSerialization`. -/
structure OprfSeedSerialization (E OS : Type) where
  Len : Nat
  serialize : OS → GenericArray Len
  deserializeTake : Reader (ProtocolError E) OS

/-- `PrivateKeySerialization for PrivateKey`: the public key is recomputed. -/
@[reducible] def PrivateKey.serialization (G : Group) :
    PrivateKeySerialization G (PrivateKey G) where
  Error := Empty
  Len := G.SkLen
  serializeKeyPair keyPair := G.serializeSk keyPair.sk
  deserializeTakeKeyPair := do
    let sk ← G.deserializeTakeSk
    let pk := G.publicKey sk
    return { pk, sk }

/-- `OprfSeed`: a local seed of hash length. -/
abbrev OprfSeed (H : Hash) := Output H

/-- `OprfSeedSerialization for OprfSeed`. -/
@[reducible] def OprfSeed.serialization (H : Hash) (E : Type) :
    OprfSeedSerialization E (OprfSeed H) where
  Len := H.outputSize
  serialize seed := seed
  deserializeTake := mapErrM .intoCustom (takeArray H.outputSize "OPRF seed")

end OpaqueVx
