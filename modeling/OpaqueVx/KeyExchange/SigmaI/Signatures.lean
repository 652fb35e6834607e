import OpaqueVx.KeyExchange.SigmaI.Basic

/-! # Signature protocols

  ECDSA and the two EdDSA protocols over an implementation of the signature
  scheme. Protocols with a pre-hash keep the digest of the message to be
  verified; PureEdDSA keeps the message. -/

namespace OpaqueVx.SigmaI

open Lib

variable {CS : CipherSuite} {KE : Group}

/-! ### ECDSA -/

/-- The `ecdsa` library at one curve, the keys being those of the group. -/
structure EcdsaCurve (G : Group) where
  Signature : Type
  SignatureSize : Nat
  FieldBytesSize : Nat
  /-- `sign_prehashed_rfc6979`: key, pre-hash, additional data. -/
  signPrehashedRfc6979 : G.Sk → Bytes → GenericArray FieldBytesSize → Signature
  verifyPrehashed : G.Pk → Bytes → Signature → Bool
  toBytes : Signature → GenericArray SignatureSize
  fromBytes : GenericArray SignatureSize → Option Signature

namespace Ecdsa

variable {G : Group} (C : EcdsaCurve G)

/-- `ecdsa::sign`. -/
def sign (sk : G.Sk) (preHash : Bytes) : RngM Error C.Signature := do
  let ad ← fillBytes C.FieldBytesSize
  return C.signPrehashedRfc6979 sk preHash ad

/-- `ecdsa::verify`. -/
def verify (pk : G.Pk) (preHash : Bytes) (signature : C.Signature) : Outcome Error Unit :=
  if C.verifyPrehashed pk preHash signature then .ok () else .err .invalidLoginError

def deserializeTakeSignature : Reader Error C.Signature := do
  let bytes ← takeArray C.SignatureSize "signature"
  (.okOr .serializationError (C.fromBytes bytes) : Outcome Error _)

/-- `SignatureProtocol for Ecdsa`. -/
@[reducible] def protocol (C : EcdsaCurve CS.KeGroup) (H : Hash) : SignatureProtocol CS KE where
  Signature := C.Signature
  SignatureLen := C.SignatureSize
  VerifyState := PreHash H
  sign sk message := do
    let hash := message.hash H
    let signature ← sign C sk hash.sign.finalize.bytes
    return (signature, ⟨hash.verify.finalize⟩)
  verify pk _ state signature := verify C pk state.digest.bytes signature
  serializeSignature := C.toBytes
  deserializeTakeSignature := deserializeTakeSignature C
  verifyState := PreHash.codec H

end Ecdsa

/-! ### HashEdDSA -/

/-- `HashEddsaImpl`. -/
structure HashEddsaImpl (CS : CipherSuite) (KE : Group) where
  Signature : Type
  SignatureLen : Nat
  VerifyState : Type
  sign : PrivateKey CS.KeGroup → Message CS KE → Signature × VerifyState
  verify : PublicKey CS.KeGroup → VerifyState → Signature → Outcome Error Unit
  serializeSignature : Signature → GenericArray SignatureLen
  deserializeTakeSignature : Reader Error Signature
  verifyState : Codec Error VerifyState

/-- `SignatureProtocol for HashEddsa`. -/
@[reducible] def HashEddsa.protocol (G : HashEddsaImpl CS KE) : SignatureProtocol CS KE where
  Signature := G.Signature
  SignatureLen := G.SignatureLen
  VerifyState := G.VerifyState
  sign sk message := return G.sign sk message
  verify pk _ state signature := G.verify pk state signature
  serializeSignature := G.serializeSignature
  deserializeTakeSignature := G.deserializeTakeSignature
  verifyState := G.verifyState

/-! ### PureEdDSA -/

/-- `PureEddsaImpl`. -/
structure PureEddsaImpl (CS : CipherSuite) (KE : Group) where
  Signature : Type
  SignatureLen : Nat
  sign : PrivateKey CS.KeGroup → Message CS KE → Signature × CachedMessage CS KE
  verify : PublicKey CS.KeGroup → MessageBuilder CS → CachedMessage CS KE → Signature →
    Outcome Error Unit
  serializeSignature : Signature → GenericArray SignatureLen
  deserializeTakeSignature : Reader Error Signature

/-- `SignatureProtocol for PureEddsa`. -/
@[reducible] def PureEddsa.protocol (G : PureEddsaImpl CS KE) : SignatureProtocol CS KE where
  Signature := G.Signature
  SignatureLen := G.SignatureLen
  VerifyState := CachedMessage CS KE
  sign sk message := return G.sign sk message
  verify := G.verify
  serializeSignature := G.serializeSignature
  deserializeTakeSignature := G.deserializeTakeSignature
  verifyState := CachedMessage.codec CS KE

end OpaqueVx.SigmaI
