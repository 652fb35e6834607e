import OpaqueVx.KeyExchange.TripleDhKem
import OpaqueVx.Protocol

/-! # Laws of the libraries

  What the protocol relies on. Each law is a property of one library interface,
  and states documented behaviour of the library: none mentions the protocol. -/

namespace OpaqueVx

open Lib

/-! ### Key exchange group -/

namespace Group

variable (G : Group)

/-- Diffie-Hellman: both parties arrive at the same product. -/
def DhCommutes [DiffieHellman G] : Prop :=
  ∀ a b : G.Sk, DiffieHellman.diffieHellman a (G.publicKey b) =
    DiffieHellman.diffieHellman b (G.publicKey a)

/-- The product with a key tells the public keys of other keys apart. -/
def DhDetermines [DiffieHellman G] : Prop :=
  ∀ a b c : G.Sk, DiffieHellman.diffieHellman a (G.publicKey b) =
    DiffieHellman.diffieHellman a (G.publicKey c) → G.publicKey b = G.publicKey c

/-- A law of the encodings of public and secret keys. -/
structure KeyEncoding (L : Codec.Law Error) : Prop where
  pk : L.holds G.pkCodec
  sk : L.holds G.skCodec

/-- The decoder of public keys takes as many bytes as a key has, and `parse` decides
    on these alone. It accepts all encodings. -/
structure PkDecoder (parse : GenericArray G.PkLen → Outcome Error G.Pk) : Prop where
  run_append : ∀ a rest, G.deserializeTakePk.run (a.bytes ++ rest) =
    parse a >>= fun pk => .ok (pk, rest)
  never_panics : ∀ a, parse a ≠ .panicked
  serializePk : ∀ pk, parse (G.serializePk pk) = .ok pk

variable {G}

theorem PkDecoder.readsBack {parse : GenericArray G.PkLen → Outcome Error G.Pk}
    (h : G.PkDecoder parse) (pk : G.Pk) : G.pkCodec.ReadsBack pk := by
  intro rest
  show G.deserializeTakePk.run ((G.serializePk pk).bytes ++ rest) = _
  rw [h.run_append, h.serializePk, Outcome.ok_bind]

theorem KeyEncoding.of_lawful {L : Codec.Law Error} (h : G.KeyEncoding .lawful) :
    G.KeyEncoding L where
  pk := L.ofLawful h.pk
  sk := L.ofLawful h.sk

end Group

/-! ### OPRF -/

namespace Voprf

variable (V : Voprf)

/-- What the client computes from the server's evaluation of a blinded password
    is the OPRF of the password. -/
def Unblinds : Prop :=
  ∀ (password : Bytes) (client : V.OprfClient) (blinded : V.Elem) (r r' : Rng)
    (server : V.OprfServer), (V.blind password).run r = .ok ((client, blinded), r') →
    V.finalize client password (V.blindEvaluate server blinded) = V.evaluate server password

/-- Decoding undoes encoding. -/
structure Decodes : Prop where
  elem : ∀ e, V.deserializeElem (V.serializeElem e).bytes = .ok e
  client : ∀ c, V.deserializeClient (V.serializeClient c).bytes = .ok c

/-- Decoders return an error for what they do not accept. -/
structure NeverPanics : Prop where
  elem : ∀ b, V.deserializeElem b ≠ .panicked
  client : ∀ b, V.deserializeClient b ≠ .panicked

/-- Decoders accept exactly the fixed-length encodings. -/
structure Encoding : Prop where
  elem : ∀ b e, V.deserializeElem b = .ok e ↔ b = (V.serializeElem e).bytes
  client : ∀ b c, V.deserializeClient b = .ok c ↔ b = (V.serializeClient c).bytes

variable {V}

theorem Encoding.decodes (h : V.Encoding) : V.Decodes where
  elem e := (h.elem _ e).mpr rfl
  client c := (h.client _ c).mpr rfl

end Voprf

/-! ### KEM -/

namespace KemCoreWrapper

variable (K : KemCoreWrapper)

def encapsulationKey : Codec Error K.EncapsulationKey :=
  ⟨_, K.serializeEncapsulationKey, K.deserializeEncapsulationKey⟩

def decapsulationKey : Codec Error K.DecapsulationKey :=
  ⟨_, K.serializeDecapsulationKey, K.deserializeDecapsulationKey⟩

/-- The key pair comes out of the generator. -/
def Generated (dk : K.DecapsulationKey) (ek : K.EncapsulationKey) : Prop :=
  ∃ r r', K.generate.run r = .ok ((dk, ek), r')

/-- Decapsulation recovers the secret, and generated keys can be stored. -/
structure Correct : Prop where
  decapsulates : ∀ {dk ek ct ss r r'}, K.Generated dk ek →
    (K.encapsulate ek).run r = .ok ((ct, ss), r') → K.decapsulate dk ct = .ok ss
  encapsulationKey : ∀ {dk ek}, K.Generated dk ek → K.encapsulationKey.ReadsBack ek
  decapsulationKey : ∀ {dk ek}, K.Generated dk ek → K.decapsulationKey.ReadsBack dk

end KemCoreWrapper

namespace MlKem

variable (K : MlKem)

/-- The laws of a KEM of the `ml-kem` interface. -/
structure Correct : Prop where
  decapsulates : ∀ {dk ek ct ss r r'}, K.core.Generated dk ek →
    (K.encapsulateWithRng ek).run r = .ok ((ct, ss), r') → K.decapsulate dk ct = ss
  encapsulationKey : ∀ {dk ek}, K.core.Generated dk ek →
    K.tryNewEncapsulationKey (K.encapsulationKeyToBytes ek) = some ek
  decapsulationKey : ∀ {dk ek}, K.core.Generated dk ek →
    K.newDecapsulationKey (K.decapsulationKeyToBytes dk) = dk

/-- The blanket implementation inherits the laws of the KEM. -/
theorem Correct.core {K : MlKem} (h : K.Correct) : K.core.Correct where
  decapsulates hgen hct := by
    show Outcome.ok _ = Outcome.ok _
    rw [h.decapsulates hgen hct]
  encapsulationKey {dk ek} hgen := by
    intro rest
    show (K.deserializeEncapsulationKey).run ((K.encapsulationKeyToBytes ek).bytes ++ rest) = _
    unfold deserializeEncapsulationKey
    rw [StateT.run_bind, takeArray_append, Outcome.ok_bind, h.encapsulationKey hgen]
    rfl
  decapsulationKey {dk ek} hgen := by
    intro rest
    show (K.deserializeDecapsulationKey).run ((K.decapsulationKeyToBytes dk).bytes ++ rest) = _
    unfold deserializeDecapsulationKey
    rw [StateT.run_bind, takeArray_append, Outcome.ok_bind, h.decapsulationKey hgen]
    rfl

end MlKem

end OpaqueVx
