import OpaqueVx.Lib.Expansion
import OpaqueVx.Reference

/-! # HKDF with a PKCS#11 token

  A token that holds the OPRF seed has HMAC, but not HKDF. The server makes the expansion
  of HKDF out of HMACs, and so gets the key material that it would get from the seed. -/

namespace OpaqueVx.Pkcs11

open Lib Lib.Expansion

variable {ε Handle : Type}

/-- A session with a token. A call that fails gives nothing. -/
structure Session (Handle : Type) where
  /-- `sign` with a mechanism of HMAC. -/
  hmac : Handle → Bytes → Option Bytes
  /-- `derive_key` with `Ecdh1Derive` and no KDF, and the value of the key. -/
  ecdh1Derive : Handle → Bytes → Option Bytes
  /-- `sign` with `Eddsa`, pure. -/
  eddsa : Handle → Bytes → Option Bytes

/-- `unwrap` -/
def unwrap {α : Type} : Option α → Outcome ε α
  | some a => .ok a
  | none => .panicked

theorem unwrap_eq_ok {α : Type} {x : Option α} {a : α} :
    (unwrap x : Outcome ε α) = .ok a ↔ x = some a := by
  cases x <;> simp [unwrap]

/-! ### HKDF -/

/-- `RangeFrom<u8>::next` with overflow checks: the item, and where the range goes on. -/
def rangeNext (start : UInt8) : Outcome ε (UInt8 × UInt8) :=
  if start = 255 then .panicked else .ok (start, start + 1)

/-- The loop of `pkcs11_hkdf`. The range is asked for an item before the chunks are. -/
def pkcs11HkdfLoop (sign : Bytes → Outcome ε Bytes) (info : Bytes) :
    UInt8 → Option Bytes → List Nat → Outcome ε Bytes
  | start, _, [] => do
    let _ ← rangeNext start
    return []
  | start, prev, len :: lens => do
    let (blockN, start) ← rangeNext start
    let output ← sign (prev.getD [] ++ info ++ [blockN + 1])
    let block ← sliceTo output len
    let rest ← pkcs11HkdfLoop sign info start (some output) lens
    return block ++ rest

/-- `pkcs11_hkdf`, with the length of a hash and the length of the output. -/
def pkcs11Hkdf (session : Session Handle) (chunkLen n : Nat) (hmac : Handle) (info : Bytes) :
    Outcome ε (GenericArray n) := do
  if n > chunkLen * 255 then
    .panicked
  else
    let okm ← pkcs11HkdfLoop (fun data => unwrap (session.hmac hmac data)) info 0 none
      (chunkSizes chunkLen n)
    -- The chunks fill the array.
    if h : okm.length = n then .ok ⟨okm, h⟩ else .panicked

section hkdf

variable {sign : Bytes → Outcome ε Bytes} {mac : Bytes → Bytes} {info : Bytes} {size : Nat}

theorem ofNat_eq_255 {i : Nat} (hi : i ≤ 255) : UInt8.ofNat i = 255 ↔ i = 255 := by
  constructor
  · intro h
    have hval := congrArg UInt8.toNat h
    rw [UInt8.toNat_ofNat'] at hval
    have hlt : i < 2 ^ 8 := by omega
    rw [Nat.mod_eq_of_lt hlt] at hval
    exact hval
  · intro h
    rw [h]
    rfl

theorem ofNat_add_one (i : Nat) : UInt8.ofNat i + 1 = UInt8.ofNat (i + 1) := by
  rw [UInt8.ofNat_add]
  rfl

/-- The loop cuts its chunks from the blocks, and ends unless the range runs out. -/
theorem pkcs11HkdfLoop_eq (hsign : ∀ d, sign d = .ok (mac d))
    (hmac : ∀ d, (mac d).length = size) {lens : List Nat} (hlens : ∀ len ∈ lens, len ≤ size)
    {i : Nat} (hi : i ≤ 255) {prev : Option Bytes} (hprev : prev.getD [] = block mac info i) :
    pkcs11HkdfLoop sign info (UInt8.ofNat i) prev lens =
      if i + lens.length ≤ 254 then .ok (cut mac info i lens) else .panicked := by
  -- Over the chunks that are left; `i` counts the blocks that are done, and is what the range
  -- has come to.
  induction lens generalizing i prev with
  | nil =>
    by_cases hlast : i = 255
    -- The range has no item after 254, whether or not a chunk is left.
    · subst hlast
      rfl
    · have hne : UInt8.ofNat i ≠ 255 := fun h => hlast ((ofNat_eq_255 hi).mp h)
      have hlt : i + ([] : List Nat).length ≤ 254 := by
        rw [List.length_nil]
        omega
      rw [pkcs11HkdfLoop, rangeNext, if_neg hne, if_pos hlt]
      rfl
  | cons len lens ih =>
    by_cases hlast : i = 255
    · subst hlast
      have hlong : ¬ 255 + (len :: lens).length ≤ 254 := by omega
      rw [if_neg hlong]
      rfl
    · have hne : UInt8.ofNat i ≠ 255 := fun h => hlast ((ofNat_eq_255 hi).mp h)
      have hblock : sign (prev.getD [] ++ info ++ [UInt8.ofNat (i + 1)]) =
          .ok (block mac info (i + 1)) := by
        rw [hsign, hprev, block]
      have hslice : (sliceTo (block mac info (i + 1)) len : Outcome ε Bytes) =
          .ok ((block mac info (i + 1)).take len) := by
        apply if_pos
        rw [length_block hmac]
        exact hlens len List.mem_cons_self
      have hrest : pkcs11HkdfLoop sign info (UInt8.ofNat (i + 1)) (some (block mac info (i + 1)))
          lens =
            if i + 1 + lens.length ≤ 254 then .ok (cut mac info (i + 1) lens) else .panicked :=
        ih (fun l hl => hlens l (List.mem_cons_of_mem len hl)) (by omega) rfl
      have hcount : i + (len :: lens).length = i + 1 + lens.length := by
        rw [List.length_cons]
        omega
      rw [pkcs11HkdfLoop, rangeNext, if_neg hne, hcount, cut]
      simp only [Outcome.ok_bind, ofNat_add_one, hblock, hslice, hrest]
      by_cases hfits : i + 1 + lens.length ≤ 254
      · rw [if_pos hfits, if_pos hfits]
        rfl
      · rw [if_neg hfits, if_neg hfits]
        rfl

/-- A token that fails now and then makes no other chunks. -/
theorem pkcs11HkdfLoop_sound (hsign : ∀ d out, sign d = .ok out → out = mac d) {lens : List Nat}
    {i : Nat} {prev : Option Bytes} (hprev : prev.getD [] = block mac info i) {okm : Bytes}
    (h : pkcs11HkdfLoop sign info (UInt8.ofNat i) prev lens = .ok okm) :
    okm = cut mac info i lens := by
  induction lens generalizing i prev okm with
  | nil =>
    obtain ⟨item, -, h⟩ := Outcome.bind_eq_ok.mp h
    injection h with h
    exact h.symm
  | cons len lens ih =>
    obtain ⟨⟨blockN, start⟩, hnext, h⟩ := Outcome.bind_eq_ok.mp h
    obtain ⟨output, houtput, h⟩ := Outcome.bind_eq_ok.mp h
    obtain ⟨chunk, hchunk, h⟩ := Outcome.bind_eq_ok.mp h
    obtain ⟨rest, hrest, h⟩ := Outcome.bind_eq_ok.mp h
    injection h with h
    have hitem : blockN = UInt8.ofNat i ∧ start = UInt8.ofNat (i + 1) := by
      unfold rangeNext at hnext
      split at hnext
      · cases hnext
      · injection hnext with hnext
        injection hnext with hitem hstart
        rw [ofNat_add_one] at hstart
        exact ⟨hitem.symm, hstart.symm⟩
    have hblock : output = block mac info (i + 1) := by
      have hmac := hsign _ _ houtput
      rw [hprev, hitem.1, ofNat_add_one] at hmac
      exact hmac
    have hcut : chunk = output.take len := by
      unfold sliceTo at hchunk
      split at hchunk
      · injection hchunk with hchunk
        exact hchunk.symm
      · cases hchunk
    rw [hitem.2] at hrest
    have hlater := ih (by rw [hblock]; rfl) hrest
    rw [← h, hcut, hblock, hlater, cut]

end hkdf

/-- HKDF as it is documented: the expansion by HMAC. -/
def ExpandsByHmac (H : Hash) : Prop :=
  ∀ prk info n, n ≤ 255 * H.outputSize →
    (H.expand prk info n).bytes = expand (fun d => (H.hmac prk d).bytes) info H.outputSize n

/-- The token has a key of HMAC. It may fail. -/
def HoldsSeed (session : Session Handle) (H : Hash) (hmac : Handle) (seed : Bytes) : Prop :=
  ∀ data out, session.hmac hmac data = some out → out = (H.hmac seed data).bytes

section material

variable {H : Hash} {session : Session Handle} {handle : Handle} {seed : Bytes}

/-- The chunks of an output are the output. -/
theorem cut_expand (hexpand : ExpandsByHmac H) (hsize : 0 < H.outputSize) {info : Bytes} {n : Nat}
    (hn : n ≤ 255 * H.outputSize) :
    cut (fun d => (H.hmac seed d).bytes) info 0 (chunkSizes H.outputSize n) =
      (H.expand seed info n).bytes := by
  have hmac : ∀ d, (H.hmac seed d).bytes.length = H.outputSize := fun d => (H.hmac seed d).size
  rw [cut_chunkSizes hsize hmac, hexpand seed info n hn]

/-- What comes from the token is the output. -/
theorem pkcs11Hkdf_sound (hexpand : ExpandsByHmac H) (hsize : 0 < H.outputSize)
    (hseed : HoldsSeed session H handle seed) {info : Bytes} {n : Nat} {okm : GenericArray n}
    (h : pkcs11Hkdf session H.outputSize n handle info = (.ok okm : Outcome ε _)) :
    n ≤ 255 * H.outputSize ∧ okm = H.expand seed info n := by
  unfold pkcs11Hkdf at h
  split at h
  · cases h
  · rename_i hlong
    have hn : n ≤ 255 * H.outputSize := by omega
    refine ⟨hn, ?_⟩
    obtain ⟨bytes, hloop, h⟩ := Outcome.bind_eq_ok.mp h
    have hsign : ∀ d out, (unwrap (session.hmac handle d) : Outcome ε Bytes) = .ok out →
        out = (H.hmac seed d).bytes := fun d out hout => hseed d out (unwrap_eq_ok.mp hout)
    have hcut := pkcs11HkdfLoop_sound (i := 0) hsign rfl hloop
    split at h
    · injection h with h
      subst h
      apply GenericArray.bytes_injective
      show bytes = _
      rw [hcut, cut_expand hexpand hsize hn]
    · cases h

/-- A token that does not fail makes every output of less than 255 blocks. The range runs
    out after the last block of the longest one. -/
theorem pkcs11Hkdf_eq (hexpand : ExpandsByHmac H) (hsize : 0 < H.outputSize)
    (hseed : ∀ data, session.hmac handle data = some (H.hmac seed data).bytes) (info : Bytes)
    (n : Nat) :
    pkcs11Hkdf session H.outputSize n handle info =
      if n ≤ 254 * H.outputSize then .ok (H.expand seed info n)
      else (.panicked : Outcome ε (GenericArray n)) := by
  have hsign : ∀ d, (unwrap (session.hmac handle d) : Outcome ε Bytes) =
      .ok (H.hmac seed d).bytes := fun d => unwrap_eq_ok.mpr (hseed d)
  have hmac : ∀ d, (H.hmac seed d).bytes.length = H.outputSize := fun d => (H.hmac seed d).size
  have hloop : pkcs11HkdfLoop (fun d => (unwrap (session.hmac handle d) : Outcome ε Bytes)) info 0
      none (chunkSizes H.outputSize n) =
        if 0 + (chunkSizes H.outputSize n).length ≤ 254 then
          .ok (cut (fun d => (H.hmac seed d).bytes) info 0 (chunkSizes H.outputSize n))
        else .panicked :=
    pkcs11HkdfLoop_eq hsign hmac (fun len hl => le_of_mem_chunkSizes hsize hl) (Nat.zero_le 255) rfl
  have hcount : 0 + (chunkSizes H.outputSize n).length ≤ 254 ↔ n ≤ 254 * H.outputSize := by
    rw [length_chunkSizes hsize, blockCount, Nat.zero_add, Nat.div_le_iff_le_mul hsize]
    omega
  unfold pkcs11Hkdf
  by_cases hfits : n ≤ 254 * H.outputSize
  · have hshort : ¬ n > H.outputSize * 255 := by omega
    have hbytes : cut (fun d => (H.hmac seed d).bytes) info 0 (chunkSizes H.outputSize n) =
        (H.expand seed info n).bytes := cut_expand hexpand hsize (by omega)
    rw [if_neg hshort, if_pos hfits, hloop, if_pos (hcount.mpr hfits), hbytes, Outcome.ok_bind,
      dif_pos (H.expand seed info n).size]
  -- Too long for the guard, or for the range only.
  · rw [if_neg hfits]
    by_cases hlong : n > H.outputSize * 255
    · rw [if_pos hlong]
    · rw [if_neg hlong, hloop, if_neg (fun h => hfits (hcount.mp h))]
      rfl

end material

/-- The server's key material is an output. -/
theorem oprfKeyMaterial_expand {CS : CipherSuite} (seed : Output CS.OprfHash) (info : List Bytes)
    (hn : CS.OprfCs.ScalarLen ≤ 255 * CS.OprfHash.outputSize) :
    (oprfKeyMaterial seed info : Outcome InternalError (GenericArray CS.OprfCs.ScalarLen)) =
      .ok (CS.OprfHash.expand seed.bytes info.flatten CS.OprfCs.ScalarLen) := by
  have hexpand : (Hkdf.mk seed.bytes : Hkdf CS.OprfHash).expandMultiInfo info CS.OprfCs.ScalarLen =
      some (CS.OprfHash.expand seed.bytes info.flatten CS.OprfCs.ScalarLen) :=
    Hkdf.expandMultiInfo_eq_some.mpr ⟨hn, rfl⟩
  simp only [oprfKeyMaterial, Hkdf.fromPrk_output, Option.bind_some, hexpand, Outcome.okOr_some]

/-- Key material that comes from a token is that of the seed. -/
theorem keyMaterial_sound {CS : CipherSuite} (hexpand : ExpandsByHmac CS.OprfHash)
    (hsize : 0 < CS.OprfHash.outputSize) {session : Session Handle} {handle : Handle}
    {seed : Output CS.OprfHash} (hseed : HoldsSeed session CS.OprfHash handle seed.bytes)
    {info : List Bytes} {keyMaterial : GenericArray CS.OprfCs.ScalarLen}
    (h : pkcs11Hkdf session CS.OprfHash.outputSize CS.OprfCs.ScalarLen handle info.flatten =
      (.ok keyMaterial : Outcome ε _)) :
    fromInternal (oprfKeyMaterial seed info) = .ok keyMaterial := by
  obtain ⟨hn, hmaterial⟩ := pkcs11Hkdf_sound hexpand hsize hseed h
  rw [oprfKeyMaterial_expand seed info hn, hmaterial]
  rfl

/-- Key material that comes from a token is that of the seed, and a token that does not
    fail gives it, unless it takes all 255 blocks: there the range runs out. -/
theorem pkcs11_hkdf_expands (CS : CipherSuite) (hexpand : ExpandsByHmac CS.OprfHash)
    (hsize : 0 < CS.OprfHash.outputSize) {Handle : Type} (session : Session Handle)
    (handle : Handle) (seed : Output CS.OprfHash) (info : List Bytes) :
    (HoldsSeed session CS.OprfHash handle seed.bytes →
      ∀ keyMaterial : GenericArray CS.OprfCs.ScalarLen,
        pkcs11Hkdf session CS.OprfHash.outputSize CS.OprfCs.ScalarLen handle info.flatten =
          (.ok keyMaterial : Outcome Error _) →
        fromInternal (oprfKeyMaterial seed info) = .ok keyMaterial) ∧
    ((∀ data, session.hmac handle data = some (CS.OprfHash.hmac seed.bytes data).bytes) →
      pkcs11Hkdf session CS.OprfHash.outputSize CS.OprfCs.ScalarLen handle info.flatten =
        if CS.OprfCs.ScalarLen ≤ 254 * CS.OprfHash.outputSize then
          fromInternal (oprfKeyMaterial seed info)
        else .panicked) := by
  refine ⟨?_, ?_⟩
  · intro hseed keyMaterial h
    exact keyMaterial_sound hexpand hsize hseed h
  · intro hseed
    rw [pkcs11Hkdf_eq hexpand hsize hseed]
    by_cases hfits : CS.OprfCs.ScalarLen ≤ 254 * CS.OprfHash.outputSize
    · rw [if_pos hfits, if_pos hfits, oprfKeyMaterial_expand seed info (by omega)]
      rfl
    · rw [if_neg hfits, if_neg hfits]

end OpaqueVx.Pkcs11

/-! ### A hash whose outputs are expanded as documented -/

namespace OpaqueVx.Reference

open Lib

/-- A checksum of one byte, with the expansion of HKDF. -/
@[reducible] def expandingHash : Hash where
  outputSize := 1
  digest := hash.digest
  hmac := hash.hmac
  extract := hash.extract
  expand prk info n :=
    ⟨Expansion.expand (fun d => (hash.hmac prk d).bytes) info 1 n,
      Expansion.length_expand Nat.one_pos (fun _ => rfl) n⟩

theorem expandingHash_expands : Pkcs11.ExpandsByHmac expandingHash := fun _ _ _ _ => rfl

/-- The reference OPRF with this hash and with scalars of three bytes, of which the first
    is the key. -/
@[reducible] def expandingVoprf : Voprf :=
  { voprf with
    hash := expandingHash
    ScalarLen := 3
    serializeScalar := fun s => ((single s).cat (single s)).cat (single s)
    serializeClient := fun c => ((single c).cat (single c)).cat (single c)
    deserializeClient := fun b => decodeByte (b.take 1)
    newWithKey := fun b => decodeByte (b.take 1) }

@[reducible] def expandingSuite : CipherSuite := { suite with OprfCs := expandingVoprf }

/-- A token that holds one seed. -/
def seedToken : Pkcs11.Session Unit where
  hmac _ data := some (hash.hmac [9] data).bytes
  ecdh1Derive _ _ := none
  eddsa _ _ := none

end OpaqueVx.Reference

namespace OpaqueVx.Pkcs11

/-- Key material of the reference token, in three blocks. -/
theorem pkcs11_hkdf_expands_reference :
    pkcs11Hkdf Reference.seedToken 1 3 () [1, 2, 3] =
      fromInternal (@oprfKeyMaterial Reference.expandingSuite (Reference.single 9)
        [[1, 2], [3]]) :=
  (pkcs11_hkdf_expands Reference.expandingSuite Reference.expandingHash_expands (by decide)
    Reference.seedToken () (Reference.single 9) [[1, 2], [3]]).2 fun _ => rfl

end OpaqueVx.Pkcs11
