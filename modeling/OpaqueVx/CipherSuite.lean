import OpaqueVx.KeyPair

/-! # Cipher suites

  A cipher suite names the OPRF, the group and the hash of the key exchange, and
  the KSF. The key exchange itself is an interface over a cipher suite. -/

namespace OpaqueVx

open Lib

/-- `CipherSuite`, with the group and the hash of its key exchange in place of that. -/
structure CipherSuite where
  OprfCs : Voprf
  KeGroup : Group
  KeHash : Hash
  Ksf : Ksf

/-- Length of every nonce. -/
def nonceLen : Nat := 32

namespace CipherSuite

variable (CS : CipherSuite)

/-- The hash of everything but the key exchange. -/
abbrev OprfHash : Hash := CS.OprfCs.hash

abbrev EnvelopeLen : Nat := CS.OprfHash.outputSize + nonceLen

abbrev MaskedResponseLen : Nat := CS.OprfHash.outputSize + nonceLen + CS.KeGroup.PkLen

/-- The sizes stay within the limits of HKDF and of the length fields: labels
    and contexts of `hkdf_expand_label` are counted in one byte, identifiers in
    two, and HKDF expands to at most 255 hash lengths. -/
structure WellSized : Prop where
  keHash : CS.KeHash.outputSize ≤ 255
  pkLen : CS.KeGroup.PkLen < 256 ^ 2
  maskedResponse : CS.MaskedResponseLen ≤ 255 * CS.OprfHash.outputSize
  skLen : CS.KeGroup.SkLen ≤ 255 * CS.OprfHash.outputSize
  scalarLen : CS.OprfCs.ScalarLen ≤ 255 * CS.OprfHash.outputSize

end CipherSuite

/-- `Identifiers`: the names the application supplies. -/
structure Identifiers where
  client : Option Bytes
  server : Option Bytes
  deriving DecidableEq

/-! ### The masked part of a credential response -/

/-- `MaskedResponse`. The field names are those of the source; what the three
    fields hold is the mask over public key, envelope nonce and envelope HMAC. -/
@[ext] structure MaskedResponse (CS : CipherSuite) where
  nonce : GenericArray nonceLen
  hash : Output CS.OprfHash
  pk : GenericArray CS.KeGroup.PkLen
  deriving DecidableEq

namespace MaskedResponse

variable {CS : CipherSuite}

def serialize (m : MaskedResponse CS) : GenericArray CS.MaskedResponseLen :=
  (concatExt m.nonce m.hash).cat m.pk

def deserializeTake : Reader Error (MaskedResponse CS) := do
  let nonce ← takeArray nonceLen "masked nonce"
  let hash ← takeArray CS.OprfHash.outputSize "masked hash"
  let pk ← takeArray CS.KeGroup.PkLen "masked public key"
  return { nonce, hash, pk }

/-- The slices that are hashed. -/
def iter (m : MaskedResponse CS) : List Bytes := [m.nonce.bytes, m.hash.bytes, m.pk.bytes]

variable (CS) in
def codec : Codec Error (MaskedResponse CS) := ⟨CS.MaskedResponseLen, serialize, deserializeTake⟩

variable (CS) in
/-- The format field by field. -/
def fields : Codec Error (MaskedResponse CS) :=
  (((arrayCodec nonceLen "masked nonce").both
    (arrayCodec CS.OprfHash.outputSize "masked hash")).both
    (arrayCodec CS.KeGroup.PkLen "masked public key")).imap
    (fun p => ⟨p.1.1, p.1.2, p.2⟩) (fun m => ((m.nonce, m.hash), m.pk))

theorem codec_same : (codec CS).Same (fields CS) where
  len := by
    simp only [codec, fields, arrayCodec, Codec.both, Codec.imap, CipherSuite.MaskedResponseLen]
    omega
  encode _ := rfl
  take := by simp [codec, fields, deserializeTake, arrayCodec, Codec.both, Codec.imap]

/-- Any string of the right length is a masked response. -/
theorem codec_lawful : (codec CS).Lawful := by
  apply codec_same.lawful
  apply Codec.Lawful.imap
  · exact ((arrayCodec_lawful _ _).both (arrayCodec_lawful _ _)).both (arrayCodec_lawful _ _)
  · intro m
    rfl
  · intro p
    rfl

theorem flatten_iter (m : MaskedResponse CS) : m.iter.flatten = m.serialize.bytes := by
  simp [iter, serialize]

end MaskedResponse

end OpaqueVx
