import OpaqueVx.KeyExchange.Group.Ed25519
import Mathlib.Algebra.Group.Fin.Basic

/-! # A reference instantiation

  Every interface instantiated over single bytes, with addition and
  multiplication modulo 256 for the groups. It has no security, but it satisfies
  the laws that the protocol relies on and runs in a moment, so it shows that
  the laws can be met together and serves to run the protocol on small inputs. -/

namespace OpaqueVx.Reference

open Lib

/-! ### Bytes as arrays -/

def single (b : UInt8) : GenericArray 1 := ⟨[b], rfl⟩

def unsingle (a : GenericArray 1) : UInt8 := a.bytes.headD 0

@[simp] theorem unsingle_single (b : UInt8) : unsingle (single b) = b := rfl

@[simp] theorem single_unsingle (a : GenericArray 1) : single (unsingle a) = a := by
  cases a with
  | mk bytes size =>
    obtain ⟨b, rfl⟩ := List.length_eq_one_iff.mp size
    rfl

/-- A single byte on the wire. -/
def byte (name : String) : Codec Error UInt8 := (arrayCodec 1 name).imap unsingle single

theorem byte_lawful (name : String) : (byte name).Lawful :=
  (arrayCodec_lawful 1 name).imap unsingle_single single_unsingle

/-! ### Hash -/

/-- A checksum of a byte string. -/
def mix (b : Bytes) : UInt8 := b.foldl (fun acc x => acc * 31 + x + 1) 7

@[reducible] def hash : Hash where
  outputSize := 1
  digest input := single (mix input)
  hmac key data := single (mix (key ++ data))
  extract ikm := single (mix ikm)
  expand prk info n := ⟨List.replicate n (mix (prk ++ info)), by simp⟩

/-! ### Key exchange group -/

/-- Secret keys act by multiplication; the generator is 3. -/
@[reducible] def group : Group where
  Pk := UInt8
  PkLen := 1
  Sk := UInt8
  SkLen := 1
  serializePk := single
  deserializeTakePk := (byte "public key").take
  randomSk _ := unsingle <$> fillBytes 1
  deriveScalar seed := .ok (unsingle seed)
  publicKey sk := sk * 3
  serializeSk := single
  deserializeTakeSk := (byte "secret key").take

instance : DiffieHellman group where
  diffieHellman sk pk := single (sk * pk)

/-- Products of bytes commute. -/
theorem group_dhCommutes : group.DhCommutes := by
  intro a b
  show single (a * (b * 3)) = single (b * (a * 3))
  rw [← UInt8.mul_assoc, ← UInt8.mul_assoc, UInt8.mul_comm a b]

theorem group_keyEncoding : group.KeyEncoding .lawful where
  pk := byte_lawful "public key"
  sk := byte_lawful "secret key"

theorem group_pkDecoder : group.PkDecoder fun b => .ok (unsingle b) where
  run_append a rest := by
    have hread := group_keyEncoding.pk.roundTrip (unsingle a) rest
    rw [← single_unsingle a]
    exact hread
  never_panics a := by simp
  serializePk _ := rfl

/-! ### OPRF -/

/-- Accepts a string of one byte. -/
def decodeByte : Bytes → Outcome VoprfError UInt8
  | [b] => .ok b
  | _ => .err ⟨0⟩

theorem decodeByte_eq_ok {b : Bytes} {e : UInt8} : decodeByte b = .ok e ↔ b = [e] := by
  unfold decodeByte
  split
  · simp
  · rename_i hne
    constructor
    · intro h
      cases h
    · intro h
      exact absurd h (hne e)

theorem decodeByte_never_panics (b : Bytes) : decodeByte b ≠ .panicked := by
  unfold decodeByte
  split <;> simp

/-- Blinding adds a random byte to the checksum of the password, evaluation adds
    the key, and the client subtracts its byte again. -/
@[reducible] def voprf : Voprf where
  hash := hash
  Elem := UInt8
  decEqElem := inferInstance
  ElemLen := 1
  Scalar := UInt8
  ScalarLen := 1
  OprfClient := UInt8
  OprfServer := UInt8
  serializeElem := single
  deserializeElem := decodeByte
  serializeScalar := single
  serializeClient := single
  deserializeClient := decodeByte
  blind input := do
    let blind ← fillBytes 1
    return (unsingle blind, mix input + unsingle blind)
  finalize client input e := .ok (single (mix (input ++ [e - client])))
  deriveKey seed info := .ok (mix (seed ++ info))
  newWithKey := decodeByte
  blindEvaluate server e := e + server
  evaluate server input := .ok (single (mix (input ++ [mix input + server])))

/-- What is added by blinding is subtracted again. -/
theorem voprf_unblinds : voprf.Unblinds := by
  intro password client blinded r r' server h
  have hblind : unsingle (r.peek 1) = client ∧ mix password + unsingle (r.peek 1) = blinded := by
    have h' : Outcome.ok (ε := VoprfError)
        ((unsingle (r.peek 1), mix password + unsingle (r.peek 1)), r.advance 1) =
        .ok ((client, blinded), r') := h
    simp only [Outcome.ok.injEq, Prod.mk.injEq] at h'
    exact h'.1
  obtain ⟨rfl, rfl⟩ := hblind
  have hsub : mix password + unsingle (r.peek 1) + server - unsingle (r.peek 1) =
      mix password + server := by
    rw [UInt8.add_assoc, UInt8.add_comm _ server, ← UInt8.add_assoc, UInt8.add_sub_cancel]
  show Outcome.ok (single (mix (password ++ [_]))) = Outcome.ok (single (mix (password ++ [_])))
  rw [hsub]

theorem voprf_encoding : voprf.Encoding where
  elem _ _ := decodeByte_eq_ok
  client _ _ := decodeByte_eq_ok

theorem voprf_neverPanics : voprf.NeverPanics where
  elem := decodeByte_never_panics
  client := decodeByte_never_panics

/-! ### Cipher suite -/

@[reducible] def suite : CipherSuite where
  OprfCs := voprf
  KeGroup := group
  KeHash := hash
  Ksf := .identity

theorem suite_wellSized : suite.WellSized where
  keHash := by decide
  pkLen := by decide
  maskedResponse := by decide
  skLen := by decide
  scalarLen := by decide

/-! ### KEM -/

/-- Encapsulation multiplies the generator and the encapsulation key with a random
    byte. -/
@[reducible] def mlKem : MlKem where
  EncapsulationKey := UInt8
  DecapsulationKey := UInt8
  EncapsulationKeyLen := 1
  DecapsulationKeyLen := 1
  CiphertextLen := 1
  SharedSecretLen := 1
  generateKeypairFromRng := do
    let seed ← fillBytes 1
    return (unsingle seed, unsingle seed * 3)
  encapsulationKeyToBytes := single
  tryNewEncapsulationKey b := some (unsingle b)
  decapsulationKeyToBytes := single
  newDecapsulationKey := unsingle
  encapsulateWithRng ek := do
    let seed ← fillBytes 1
    return (single (unsingle seed * 3), single (unsingle seed * ek))
  decapsulate dk ct := single (dk * unsingle ct)

/-- Both sides multiply the same three bytes. -/
theorem mlKem_correct : mlKem.Correct where
  decapsulates := by
    intro dk ek ct ss r r' hgen hct
    obtain ⟨s, s', hgen⟩ := hgen
    have hgen' : Outcome.ok (ε := Error) ((unsingle (s.peek 1), unsingle (s.peek 1) * 3),
        s.advance 1) = .ok ((dk, ek), s') := hgen
    have hct' : Outcome.ok (ε := Error) ((single (unsingle (r.peek 1) * 3),
        single (unsingle (r.peek 1) * ek)), r.advance 1) = .ok ((ct, ss), r') := hct
    simp only [Outcome.ok.injEq, Prod.mk.injEq] at hgen' hct'
    obtain ⟨⟨rfl, rfl⟩, -⟩ := hgen'
    obtain ⟨⟨rfl, rfl⟩, -⟩ := hct'
    have hcomm : ∀ a b : UInt8, a * (b * 3) = b * (a * 3) := by
      intro a b
      rw [← UInt8.mul_assoc, ← UInt8.mul_assoc, UInt8.mul_comm a b]
    show single _ = single _
    rw [unsingle_single, hcomm]
  encapsulationKey := by
    intro dk ek _
    rfl
  decapsulationKey := by
    intro dk ek _
    rfl

theorem mlKem_decapsulationKey : mlKem.core.decapsulationKey.Lawful :=
  (arrayCodec_lawful 1 "kem decapsulation key").imap unsingle_single single_unsingle

/-! ### Signatures -/

/-- A signature adds the public key to the checksum of the pre-hash. -/
@[reducible] def curve : SigmaI.EcdsaCurve group where
  Signature := UInt8
  SignatureSize := 1
  FieldBytesSize := 1
  signPrehashedRfc6979 sk preHash _ := sk * 3 + mix preHash
  verifyPrehashed pk preHash signature := signature = pk + mix preHash
  toBytes := single
  fromBytes b := some (unsingle b)

theorem curve_fromBytes (b : GenericArray 1) (s : UInt8) :
    curve.fromBytes b = some s ↔ b = curve.toBytes s := by
  show some (unsingle b) = some s ↔ b = single s
  constructor
  · intro h
    injection h with h
    rw [← h, single_unsingle]
  · rintro rfl
    rfl

theorem curve_verifyPrehashed {pk signature : UInt8} {preHash : Bytes} :
    curve.verifyPrehashed pk preHash signature = true ↔ signature = pk + mix preHash :=
  decide_eq_true_iff

/-- The public key is three times the secret key, as in a signature. -/
theorem curve_verifies : curve.Verifies := by
  intro sk preHash ad
  exact curve_verifyPrehashed.mpr rfl

@[reducible] def ecdsa : SigmaI.SignatureProtocol suite group := SigmaI.Ecdsa.protocol curve hash

def ecdsaSpec : SigmaI.SignatureSpec ecdsa := SigmaI.Ecdsa.spec curve_verifies hash

/-! ### Edwards curve -/

section edwards

open Curve25519Dalek

/-- Multiples of a point, computed in one multiplication. -/
def nsmul (n : ℕ) (s : Scalar) : Scalar := Fin.ofNat groupOrder (n * s.val)

theorem nsmul_zero (s : Scalar) : nsmul 0 s = 0 := by
  simp [nsmul]

theorem nsmul_succ (n : ℕ) (s : Scalar) : nsmul (n + 1) s = nsmul n s + s := by
  apply Fin.ext
  rw [Fin.val_add]
  simp [nsmul, Nat.succ_mul]

theorem nsmul_one_eq_zero (n : ℕ) : nsmul n 1 = 0 ↔ groupOrder ∣ n := by
  have hval : (nsmul n 1).val = n % groupOrder := by
    simp [nsmul]
  rw [Nat.dvd_iff_mod_eq_zero, ← hval]
  exact Fin.ext_iff

/-- A scalar other than zero. -/
def nonzero (s : Scalar) : Scalar := if s = 0 then 1 else s

theorem nonzero_ne_zero (s : Scalar) : nonzero s ≠ 0 := by
  unfold nonzero
  split
  · intro h
    have hone : nsmul 1 1 = 1 := by
      rw [← Nat.zero_add 1, nsmul_succ, nsmul_zero, zero_add]
    have hdvd : groupOrder ∣ 1 := (nsmul_one_eq_zero 1).mp (by rw [hone, h])
    have hle := Nat.le_of_dvd Nat.one_pos hdvd
    rw [groupOrder_eq] at hle
    omega
  · assumption

/-- The integers modulo the group order as points. -/
@[reducible] def edwards : EdwardsCurve where
  EdwardsPoint := Scalar
  group :=
    { (inferInstance : AddCommGroup (Fin groupOrder)) with
      nsmul := nsmul
      nsmul_zero := nsmul_zero
      nsmul_succ := nsmul_succ }
  decEq := inferInstance
  basepoint := 1
  order := nsmul_one_eq_zero
  compress := Scalar.toBytes
  decompress := Scalar.fromCanonicalBytes
  decompress_compress := Scalar.fromCanonicalBytes_toBytes
  expandedSecretKey sk := (nonzero (Scalar.fromBytesModOrder sk.bytes), sk)
  scalar_ne_zero _ := nonzero_ne_zero _
  Sha512 := hash

end edwards

/-- A cipher suite with keys over this curve. -/
@[reducible] def edwardsSuite : CipherSuite := Ed25519.suite edwards voprf hash .identity

/-! ### Honest runs -/

/-- Counts up from 1. -/
def rng : Rng := ⟨fun i => UInt8.ofNat (i + 1), []⟩

/-- Two parties; the client has a name of its own, the server goes by its key. -/
def parties : HonestParties suite where
  credentialRequest := ⟨single 1⟩
  credentialResponse := ⟨single 2, .zeros _, .zeros _, .zeros _, .zeros _⟩
  ids := ⟨some (ascii "alice"), none⟩
  identifiers :=
    ⟨⟨_, .borrowed (ascii "alice"), lengthField_short (by decide)⟩,
      ⟨_, .owned (single (5 * 3)), lengthField_short (by decide)⟩⟩
  context := ⟨_, ascii "login", lengthField_short (by decide)⟩
  clientSSk := 4
  serverSSk := 5
  clientRng := rng
  serverRng := rng
  identifiers_eq := SerializedIdentifiers.fromIdentifiers_eq_ok.mpr ⟨rfl, rfl⟩

/-- A run of 3DH between the two parties. -/
def tripleDhRun : HonestRun (TripleDh.keyExchange suite) :=
  TripleDh.honestRun parties (by decide) rfl rfl

/-- The same with a KEM. -/
def kemRun : HonestRun (TripleDhKem.keyExchange suite mlKem.core) :=
  TripleDhKem.honestRun parties mlKem_correct.core (by decide) rfl rfl rfl rfl

/-- The server signs as the protocol documents. -/
def signer (m : SigmaI.Message suite group) : UInt8 × SigmaI.PreHash hash :=
  let preHash := m.hash hash
  (parties.serverSPk + mix preHash.sign.finalize.bytes, ⟨preHash.verify.finalize⟩)

/-- The same with SIGMA-I. -/
def sigmaRun : HonestRun (SigmaI.keyExchange suite group ecdsa) :=
  SigmaI.honestRun parties (by decide) rfl rfl signer

theorem signer_valid (m : SigmaI.Message suite group) :
    ecdsaSpec.Valid parties.serverSPk m.signMessage (signer m).1 := by
  have hsign : (m.hash hash).sign.finalize = hash.digest m.signMessage.flatten := m.hash_sign hash
  apply curve_verifyPrehashed.mpr
  rw [← hsign]
  rfl

theorem sigmaRun_honest : SigmaI.HonestInput ecdsaSpec sigmaRun :=
  SigmaI.honestRun_honest ecdsaSpec parties (by decide) rfl rfl fun m => ⟨signer_valid m, rfl⟩

/-- Two parties with Ed25519 keys and names of their own. -/
def edwardsParties : HonestParties edwardsSuite where
  credentialRequest := ⟨single 1⟩
  credentialResponse := ⟨single 2, .zeros _, .zeros _, .zeros _, .zeros _⟩
  ids := ⟨some (ascii "alice"), some (ascii "server")⟩
  identifiers :=
    ⟨⟨_, .borrowed (ascii "alice"), lengthField_short (by decide)⟩,
      ⟨_, .borrowed (ascii "server"), lengthField_short (by decide)⟩⟩
  context := ⟨_, ascii "login", lengthField_short (by decide)⟩
  clientSSk := Ed25519.SigningKey.fromBytes (.zeros 32)
  serverSSk := Ed25519.SigningKey.fromBytes (.zeros 32)
  clientRng := rng
  serverRng := rng
  identifiers_eq := SerializedIdentifiers.fromIdentifiers_eq_ok.mpr ⟨rfl, rfl⟩

/-- SIGMA-I with HashEdDSA. -/
def hashEddsaRun : HonestRun (SigmaI.keyExchange edwardsSuite group
    (SigmaI.HashEddsa.protocol (Ed25519.hashEddsa edwards voprf hash .identity group))) :=
  SigmaI.honestRun edwardsParties (by decide) rfl rfl
    ((Ed25519.hashEddsa edwards voprf hash .identity group).sign edwardsParties.serverSSk)

/-- SIGMA-I with PureEdDSA. -/
def pureEddsaRun : HonestRun (SigmaI.keyExchange edwardsSuite group
    (SigmaI.PureEddsa.protocol (Ed25519.pureEddsa edwards voprf hash .identity group))) :=
  SigmaI.honestRun edwardsParties (by decide) rfl rfl
    ((Ed25519.pureEddsa edwards voprf hash .identity group).sign edwardsParties.serverSSk)

/-! ### A user -/

/-- A server with its key and its seed. -/
def setup : LocalSetup suite where
  oprfSeed := single 9
  keypair := ⟨group.publicKey 5, 5⟩
  dummyPk := 21

end OpaqueVx.Reference
