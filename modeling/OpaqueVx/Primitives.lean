import OpaqueVx.Serialization

/-! # Primitives

  The interfaces of the libraries below the protocol: the random number
  generator, the hash function with HMAC and HKDF over it, the OPRF and the key
  stretching function. A library function is a function of its arguments and,
  where it takes a generator, of the bytes it draws. -/

namespace OpaqueVx

open Lib

/-! ### Random number generator -/

/-- A generator is an infinite stream of bytes together with the sizes of the
    draws made so far, the latest first. -/
structure Rng where
  stream : Nat → UInt8
  draws : List Nat

namespace Rng

/-- Number of bytes drawn so far. -/
def pos (r : Rng) : Nat := r.draws.sum

/-- The next `n` bytes. -/
def peek (r : Rng) (n : Nat) : GenericArray n :=
  ⟨(List.range n).map fun i => r.stream (r.pos + i), by simp⟩

/-- The generator after a draw of `n` bytes. -/
def advance (r : Rng) (n : Nat) : Rng := { r with draws := n :: r.draws }

end Rng

/-- Computations that draw random bytes and may fail. -/
abbrev RngM (ε α : Type) := StateT Rng (Outcome ε) α

/-- `rng.fill_bytes` on an array of `n` bytes. -/
def fillBytes {ε : Type} (n : Nat) : RngM ε (GenericArray n) :=
  fun r => .ok (r.peek n, r.advance n)

@[simp] theorem run_fillBytes {ε : Type} (n : Nat) (r : Rng) :
    (fillBytes n : RngM ε _).run r = .ok (r.peek n, r.advance n) := rfl

/-! ### Hash functions -/

/-- A hash function with the HMAC and HKDF built on it. `extract` is HKDF-Extract
    with the default salt. -/
structure Hash where
  outputSize : Nat
  digest : Bytes → GenericArray outputSize
  hmac : Bytes → Bytes → GenericArray outputSize
  extract : Bytes → GenericArray outputSize
  expand : Bytes → Bytes → (n : Nat) → GenericArray n

/-- The output of a hash function. -/
abbrev Output (H : Hash) := GenericArray H.outputSize

section hashing

variable {H : Hash}

/-- A running hash: the bytes absorbed so far. -/
@[ext] structure Hasher (H : Hash) where
  absorbed : Bytes
  deriving DecidableEq

namespace Hasher

def new : Hasher H := ⟨[]⟩

/-- `Update::update`, and `Update::chain` which returns the hasher. -/
def update (h : Hasher H) (bytes : Bytes) : Hasher H := ⟨h.absorbed ++ bytes⟩

/-- `UpdateExt::update_iter` and `UpdateExt::chain_iter`. -/
def chainIter (h : Hasher H) (iter : List Bytes) : Hasher H := iter.foldl update h

def finalize (h : Hasher H) : Output H := H.digest h.absorbed

@[simp] theorem absorbed_new : (new : Hasher H).absorbed = [] := rfl

@[simp] theorem absorbed_update (h : Hasher H) (bytes : Bytes) :
    (h.update bytes).absorbed = h.absorbed ++ bytes := rfl

/-- Absorbing slice by slice is absorbing the concatenation. -/
@[simp] theorem absorbed_chainIter (h : Hasher H) (iter : List Bytes) :
    (h.chainIter iter).absorbed = h.absorbed ++ iter.flatten := by
  induction iter generalizing h with
  | nil => simp [chainIter]
  | cons b bs ih =>
    show ((h.update b).chainIter bs).absorbed = _
    rw [ih]
    simp

end Hasher

/-! ### HMAC -/

/-- A running HMAC. -/
structure SimpleHmac (H : Hash) where
  key : Bytes
  absorbed : Bytes

namespace SimpleHmac

/-- HMAC takes a key of any length. -/
def newFromSlice (key : Bytes) : Option (SimpleHmac H) := some ⟨key, []⟩

def update (m : SimpleHmac H) (bytes : Bytes) : SimpleHmac H :=
  { m with absorbed := m.absorbed ++ bytes }

def updateIter (m : SimpleHmac H) (iter : List Bytes) : SimpleHmac H := iter.foldl update m

/-- `finalize().into_bytes()`. -/
def finalize (m : SimpleHmac H) : Output H := H.hmac m.key m.absorbed

/-- `verify`: the tag is the HMAC of what was absorbed. -/
def verify (m : SimpleHmac H) (tag : Output H) : Bool := m.finalize = tag

@[simp] theorem finalize_update (k b : Bytes) :
    ((⟨k, []⟩ : SimpleHmac H).update b).finalize = H.hmac k b := rfl

theorem updateIter_eq (m : SimpleHmac H) (iter : List Bytes) :
    m.updateIter iter = ⟨m.key, m.absorbed ++ iter.flatten⟩ := by
  induction iter generalizing m with
  | nil => simp [updateIter]
  | cons b bs ih =>
    show (m.update b).updateIter bs = _
    rw [ih]
    simp [update]

end SimpleHmac

/-! ### HKDF -/

/-- An HKDF with its pseudorandom key. -/
@[ext] structure Hkdf (H : Hash) where
  prk : Bytes

namespace Hkdf

/-- `Hkdf::from_prk`: refuses a key shorter than the hash output. -/
def fromPrk (prk : Bytes) : Option (Hkdf H) :=
  if prk.length < H.outputSize then none else some ⟨prk⟩

/-- `Hkdf::expand_multi_info`: refuses more than 255 hash lengths of output. -/
def expandMultiInfo (hkdf : Hkdf H) (info : List Bytes) (n : Nat) : Option (GenericArray n) :=
  if n > 255 * H.outputSize then none else some (H.expand hkdf.prk info.flatten n)

/-- `Hkdf::expand`. -/
def expand (hkdf : Hkdf H) (info : Bytes) (n : Nat) : Option (GenericArray n) :=
  hkdf.expandMultiInfo [info] n

@[simp] theorem fromPrk_output (prk : Output H) :
    (fromPrk prk.bytes : Option (Hkdf H)) = some ⟨prk.bytes⟩ := by
  simp [fromPrk]

theorem expandMultiInfo_eq_some {hkdf : Hkdf H} {info : List Bytes} {n : Nat}
    {okm : GenericArray n} :
    hkdf.expandMultiInfo info n = some okm ↔
      n ≤ 255 * H.outputSize ∧ okm = H.expand hkdf.prk info.flatten n := by
  unfold expandMultiInfo
  split
  · simp; omega
  · simp only [Option.some.injEq]
    constructor
    · intro h
      exact ⟨by omega, h.symm⟩
    · rintro ⟨-, h⟩
      exact h.symm

/-- One hash length is never too long. -/
theorem expand_outputSize (hkdf : Hkdf H) (info : Bytes) :
    hkdf.expand info H.outputSize = some (H.expand hkdf.prk info H.outputSize) := by
  rw [expand, expandMultiInfo_eq_some]
  refine ⟨by omega, ?_⟩
  simp

end Hkdf

/-- `HkdfExtract` with the default salt: the input key material so far. -/
structure HkdfExtract (H : Hash) where
  ikm : Bytes

namespace HkdfExtract

def new : HkdfExtract H := ⟨[]⟩

def inputIkm (h : HkdfExtract H) (ikm : Bytes) : HkdfExtract H := ⟨h.ikm ++ ikm⟩

def finalize (h : HkdfExtract H) : Output H × Hkdf H :=
  let prk := H.extract h.ikm
  (prk, ⟨prk.bytes⟩)

/-- `for ikm in ikms { hkdf.input_ikm(ikm) }`. -/
theorem foldl_inputIkm (h : HkdfExtract H) (ikms : List Bytes) :
    ikms.foldl inputIkm h = ⟨h.ikm ++ ikms.flatten⟩ := by
  induction ikms generalizing h with
  | nil => simp
  | cons b bs ih =>
    rw [List.foldl_cons, ih]
    simp [inputIkm]

end HkdfExtract

end hashing

/-! ### OPRF -/

/-- The `voprf` library at one OPRF ciphersuite, in the mode without
    verification. Blinded and evaluation elements are both group elements. -/
structure Voprf where
  hash : Hash
  Elem : Type
  decEqElem : DecidableEq Elem
  ElemLen : Nat
  Scalar : Type
  ScalarLen : Nat
  /-- `OprfClient`: the blind. -/
  OprfClient : Type
  /-- `OprfServer`: the key. -/
  OprfServer : Type
  serializeElem : Elem → GenericArray ElemLen
  deserializeElem : Bytes → Outcome VoprfError Elem
  serializeScalar : Scalar → GenericArray ScalarLen
  serializeClient : OprfClient → GenericArray ScalarLen
  deserializeClient : Bytes → Outcome VoprfError OprfClient
  blind : Bytes → RngM VoprfError (OprfClient × Elem)
  finalize : OprfClient → Bytes → Elem → Outcome VoprfError (Output hash)
  deriveKey : Bytes → Bytes → Outcome VoprfError Scalar
  newWithKey : Bytes → Outcome VoprfError OprfServer
  blindEvaluate : OprfServer → Elem → Elem
  /-- `OprfServer::evaluate`: the OPRF computed without blinding. -/
  evaluate : OprfServer → Bytes → Outcome VoprfError (Output hash)

instance (V : Voprf) : DecidableEq V.Elem := V.decEqElem

/-! ### Key stretching function -/

structure Ksf where
  Config : Type
  default : Config
  hash : Config → {L : Nat} → GenericArray L → Outcome InternalError (GenericArray L)

/-- A KSF that returns its input. -/
def Ksf.identity : Ksf where
  Config := Unit
  default := ()
  hash _ _ input := .ok input

end OpaqueVx
