import OpaqueVx.Errors
import OpaqueVx.Lib.Codec

/-! # Serialization helpers

  Length-prefix encoding, reads from the front of the input, and the two
  concatenations of fixed-length arrays. -/

namespace OpaqueVx

open Lib

/-! ### I2OSP and OS2IP -/

/-- Bytes of a machine word. -/
def sizeofUsize : Nat := 8

/-- `usize::leading_zeros` for a word of `w` bytes. -/
def leadingZeros (w n : Nat) : Nat :=
  if n = 0 then 8 * w else 8 * w - (Nat.log2 n + 1)

/-- `dst[start..].copy_from_slice(src)`: aborts when `start` is out of range or
    the lengths differ. -/
def copyIntoTail {L : Nat} (dst : GenericArray L) (start : Nat) (src : Bytes) :
    Outcome Error (GenericArray L) :=
  if h : start ≤ L ∧ L - start = src.length then
    .ok ⟨dst.bytes.take start ++ src, by simp; omega⟩
  else
    .panicked

/-- `i2osp` on a machine with words of `w` bytes. -/
def i2ospWord (w L input : Nat) : Outcome Error (GenericArray L) :=
  -- Make sure input fits in output.
  if w - leadingZeros w input / 8 > L then
    .err .serializationError
  else
    let output := GenericArray.zeros L
    copyIntoTail output (L - w) ((beBytes w input).drop (w - L))

def i2osp (L input : Nat) : Outcome Error (GenericArray L) :=
  i2ospWord sizeofUsize L input

/-- `os2ip` on a machine with words of `w` bytes. -/
def os2ipWord (w : Nat) (input : Bytes) : Outcome Error Nat :=
  if input.length > w then
    .err .serializationError
  else do
    let outputArray ← copyIntoTail (GenericArray.zeros w) (w - input.length) input
    return ofBeBytes outputArray.bytes

def os2ip (input : Bytes) : Outcome Error Nat := os2ipWord sizeofUsize input

/-- The number of significant bytes of `n`, as the source computes it, is at most
    `L` exactly when `n` fits in `L` bytes. -/
theorem significantBytes_le {w n L : Nat} (hn : n < 256 ^ w) :
    w - leadingZeros w n / 8 ≤ L ↔ n < 256 ^ L := by
  have hpow : ∀ k : Nat, 256 ^ k = 2 ^ (8 * k) := fun k => by
    rw [Nat.pow_mul]
  unfold leadingZeros
  by_cases h0 : n = 0
  · subst h0
    rw [if_pos rfl, Nat.mul_div_cancel_left w (by decide), Nat.sub_self]
    have : 0 < 256 ^ L := Nat.pow_pos (by decide)
    omega
  · rw [if_neg h0]
    have hlog : Nat.log2 n < 8 * w := (Nat.log2_lt h0).mpr (by rw [← hpow]; exact hn)
    -- Whole bytes of leading zeros are counted, so it is the rounding that matters.
    rw [hpow L, ← Nat.log2_lt h0]
    omega

/-- The copy in `i2osp` never aborts: both ranges have `min w L` bytes. -/
theorem i2ospWord_copy (w L n : Nat) :
    copyIntoTail (GenericArray.zeros L) (L - w) ((beBytes w n).drop (w - L)) =
      .ok ⟨List.replicate (L - w) 0 ++ (beBytes w n).drop (w - L), by simp; omega⟩ := by
  have hrange : L - w ≤ L ∧ L - (L - w) = ((beBytes w n).drop (w - L)).length := by
    simp only [List.length_drop, length_beBytes]
    omega
  unfold copyIntoTail
  rw [dif_pos hrange]
  simp [GenericArray.zeros, List.take_replicate]

/-- What the copy leaves in the output is the `L`-byte big-endian form. -/
theorem i2ospWord_bytes {w L n : Nat} (hw : n < 256 ^ w) (hL : n < 256 ^ L) :
    List.replicate (L - w) 0 ++ (beBytes w n).drop (w - L) = beBytes L n := by
  -- The output is longer than a word and padded, or shorter and cut.
  rcases Nat.le_total w L with hle | hle
  · obtain ⟨v, rfl⟩ := Nat.exists_eq_add_of_le' hle
    have hdiv : n / 256 ^ w = 0 := Nat.div_eq_of_lt hw
    rw [beBytes_add, hdiv, beBytes_zero]
    simp
  · obtain ⟨v, rfl⟩ := Nat.exists_eq_add_of_le' hle
    have hdiv : n / 256 ^ L = 0 := Nat.div_eq_of_lt hL
    rw [beBytes_add, hdiv]
    simp

/-- An input that needs more than `L` bytes is refused, also one that does not
    fit in a machine word. -/
theorem i2ospWord_err {w L n : Nat} (hL : ¬ n < 256 ^ L) (hw : n < 256 ^ w ∨ L < w) :
    i2ospWord w L n = .err .serializationError := by
  unfold i2ospWord
  rw [if_pos]
  by_cases hn : n < 256 ^ w
  · have := mt (significantBytes_le (L := L) hn).mp hL
    omega
  · have hLw : L < w := hw.resolve_left hn
    have h0 : n ≠ 0 := by
      rintro rfl
      exact hn (Nat.pow_pos (by decide))
    have hlog : 8 * w ≤ Nat.log2 n := by
      rw [Nat.le_log2 h0]
      have hpow : 2 ^ (8 * w) = 256 ^ w := by rw [Nat.pow_mul]
      omega
    unfold leadingZeros
    rw [if_neg h0]
    omega

theorem i2ospWord_ok {w L n : Nat} (hw : n < 256 ^ w) (hL : n < 256 ^ L) :
    i2ospWord w L n = .ok ⟨beBytes L n, length_beBytes L n⟩ := by
  unfold i2ospWord
  rw [if_neg (by have := (significantBytes_le (L := L) hw).mpr hL; omega), i2ospWord_copy]
  congr 1
  exact GenericArray.ext (i2ospWord_bytes hw hL)

/-- Inversion of a length prefix: it is the big-endian form of a number that
    fits. -/
theorem i2osp_eq_ok {L n : Nat} (hLw : L < sizeofUsize) {a : GenericArray L} :
    i2osp L n = .ok a ↔ n < 256 ^ L ∧ a.bytes = beBytes L n := by
  unfold i2osp
  by_cases hL : n < 256 ^ L
  · have hw : n < 256 ^ sizeofUsize :=
      Nat.lt_of_lt_of_le hL (Nat.pow_le_pow_right (by decide) (by omega))
    rw [i2ospWord_ok hw hL]
    constructor
    · intro h
      injection h with h
      exact ⟨hL, by rw [← h]⟩
    · rintro ⟨-, h⟩
      congr 1
      exact GenericArray.ext h.symm
  · rw [i2ospWord_err hL (Or.inr hLw)]
    simp [hL]

/-- Byte strings no longer than a word are numbers; the copy never aborts. -/
theorem os2ipWord_eq {w : Nat} {b : Bytes} (hb : b.length ≤ w) :
    os2ipWord w b = .ok (ofBeBytes b) := by
  have hrange : w - b.length ≤ w ∧ w - (w - b.length) = b.length := by omega
  unfold os2ipWord copyIntoTail
  rw [if_neg (by omega), dif_pos hrange, Outcome.ok_bind]
  simp [GenericArray.zeros, List.take_replicate, ofBeBytes_replicate_append]

/-- `i2osp` computes the big-endian form for every length and every machine word
    that fits, and refuses the others; both ranges of its copy have one length.
    So `os2ip` undoes it, and is undone by it, up to the size of a word. The words
    may have any number `w` of bytes. -/
theorem i2osp_exact (w : Nat) :
    (∀ (L : Nat) (n : Fin (256 ^ w)), i2ospWord w L n.val =
      if n.val < 256 ^ L then .ok ⟨beBytes L n.val, length_beBytes L n.val⟩
      else .err .serializationError) ∧
    (∀ (L : Nat) (n : Fin (256 ^ w)), ((GenericArray.zeros L).bytes.drop (L - w)).length =
      ((beBytes w n.val).drop (w - L)).length) ∧
    (∀ (L : Nat) (n : Fin (256 ^ w)) (a : GenericArray L), L ≤ w →
      i2ospWord w L n.val = .ok a → os2ipWord w a.bytes = .ok n.val) ∧
    ∀ b : Bytes, b.length ≤ w → ∃ n : Fin (256 ^ w), os2ipWord w b = .ok n.val ∧
      i2ospWord w b.length n.val = .ok ⟨b, rfl⟩ := by
  refine ⟨?_, ?_, ?_, ?_⟩
  · intro L n
    split
    · rename_i hL
      exact i2ospWord_ok n.isLt hL
    · rename_i hL
      exact i2ospWord_err hL (.inl n.isLt)
  · intro L n
    simp only [List.length_drop, GenericArray.length_bytes, length_beBytes]
    omega
  · intro L n a hLw ha
    by_cases hL : n.val < 256 ^ L
    · rw [i2ospWord_ok n.isLt hL] at ha
      injection ha with ha
      rw [← ha, os2ipWord_eq (by rw [length_beBytes]; exact hLw), ofBeBytes_beBytes hL]
    · rw [i2ospWord_err hL (.inl n.isLt)] at ha
      cases ha
  · intro b hb
    have hshort := ofBeBytes_lt b
    have hword : ofBeBytes b < 256 ^ w :=
      Nat.lt_of_lt_of_le hshort (Nat.pow_le_pow_right (by decide) hb)
    refine ⟨⟨ofBeBytes b, hword⟩, os2ipWord_eq hb, ?_⟩
    rw [i2ospWord_ok hword hshort]
    congr 1
    exact GenericArray.ext (beBytes_ofBeBytes b)

/-! ### Reads from the front -/

/-- `SliceExt::take_array`. -/
def takeArray (L : Nat) (name : String) : Reader Error (GenericArray L) := fun input =>
  if h : L > input.length then
    .err (.sizeError name L input.length)
  else
    .ok (⟨input.take L, by simp; omega⟩, input.drop L)

/-- `take_array` of a field, as a codec. -/
def arrayCodec (L : Nat) (name : String) : Codec Error (GenericArray L) where
  len := L
  encode := id
  take := takeArray L name

@[simp] theorem takeArray_append {L : Nat} (name : String) (a : GenericArray L) (rest : Bytes) :
    (takeArray L name).run (a.bytes ++ rest) = .ok (a, rest) := by
  show takeArray L name (a.bytes ++ rest) = .ok (a, rest)
  unfold takeArray
  rw [dif_neg (by simp)]
  simp

theorem takeArray_eq_ok {L : Nat} {name : String} {b rest : Bytes} {a : GenericArray L} :
    (takeArray L name).run b = .ok (a, rest) ↔ b = a.bytes ++ rest := by
  constructor
  · intro h
    change takeArray L name b = .ok (a, rest) at h
    unfold takeArray at h
    split at h
    · cases h
    · injection h with h
      obtain ⟨rfl, rfl⟩ := Prod.mk.inj h
      simp
  · rintro rfl
    exact takeArray_append name a rest

theorem takeArray_short {L : Nat} (name : String) {b : Bytes} (h : b.length < L) :
    (takeArray L name).run b = .err (.sizeError name L b.length) := by
  show takeArray L name b = _
  unfold takeArray
  rw [dif_pos h]

theorem arrayCodec_roundTrip (L : Nat) (name : String) : (arrayCodec L name).RoundTrip :=
  fun v rest => takeArray_append name v rest

theorem arrayCodec_canonical (L : Nat) (name : String) : (arrayCodec L name).Canonical :=
  fun _ _ _ h => takeArray_eq_ok.mp h

theorem arrayCodec_sized (L : Nat) (name : String) : (arrayCodec L name).Sized where
  never_panics b := by
    show takeArray L name b ≠ .panicked
    unfold takeArray
    split <;> simp
  consumes b v rest h := by
    have hb := takeArray_eq_ok.mp h
    rw [hb]
    simp [arrayCodec]

theorem arrayCodec_lawful (L : Nat) (name : String) : (arrayCodec L name).Lawful where
  roundTrip := arrayCodec_roundTrip L name
  sized := arrayCodec_sized L name
  canonical := arrayCodec_canonical L name

/-- A reader that takes an array and parses it decides on the array alone. -/
theorem run_takeArray_parse {α : Type} {L : Nat} {name : String}
    {parse : GenericArray L → Outcome Error α} (a : GenericArray L) (rest : Bytes) :
    (do let bytes ← takeArray L name
        (parse bytes : Outcome Error α) : Reader Error α).run (a.bytes ++ rest) =
      parse a >>= fun v => .ok (v, rest) := by
  rw [StateT.run_bind, takeArray_append, Outcome.ok_bind]
  rfl

/-- `take_array` of a field that is then parsed. -/
def parsedCodec {α : Type} (L : Nat) (name : String) (encode : α → GenericArray L)
    (parse : GenericArray L → Outcome Error α) : Codec Error α where
  len := L
  encode := encode
  take := do
    let bytes ← takeArray L name
    (parse bytes : Outcome Error α)

section parsed

variable {α : Type} {L : Nat} {name : String} {encode : α → GenericArray L}
  {parse : GenericArray L → Outcome Error α}

theorem parsedCodec_roundTrip (hparse : ∀ v, parse (encode v) = .ok v) :
    (parsedCodec L name encode parse).RoundTrip := by
  intro v rest
  show (takeArray L name >>= fun bytes => liftM (parse bytes)).run ((encode v).bytes ++ rest) = _
  rw [run_takeArray_parse, hparse v, Outcome.ok_bind]

/-- A parser that does not abort leaves the length to `take_array`. -/
theorem parsedCodec_sized (hpanic : ∀ b, parse b ≠ .panicked) :
    (parsedCodec L name encode parse).Sized where
  never_panics := by
    intro b h
    change (takeArray L name >>= fun bytes => liftM (parse bytes)).run b = _ at h
    rw [StateT.run_bind] at h
    -- Too short an input is refused before the parser is called.
    by_cases hlen : b.length < L
    · rw [takeArray_short name hlen] at h
      cases h
    · cases hr : (takeArray L name).run b with
      | err e => rw [hr] at h; cases h
      | panicked => exact (arrayCodec_sized L name).never_panics b hr
      | ok p =>
        rw [hr, Outcome.ok_bind] at h
        cases hp : parse p.1 with
        | err e => rw [hp] at h; cases h
        | panicked => exact hpanic p.1 hp
        | ok v => rw [hp] at h; cases h
  consumes := by
    intro b v rest h
    obtain ⟨a, b₁, hb, h⟩ := run_bind_eq_ok.mp h
    obtain ⟨-, rfl⟩ := run_lift_eq_ok.mp h
    exact (arrayCodec_sized L name).consumes b a _ hb

theorem parsedCodec_canonical (hparse : ∀ b v, parse b = .ok v → b = encode v) :
    (parsedCodec L name encode parse).Canonical := by
  intro b v rest h
  obtain ⟨a, b₁, hb, h⟩ := run_bind_eq_ok.mp h
  obtain ⟨hv, rfl⟩ := run_lift_eq_ok.mp h
  rw [takeArray_eq_ok.mp hb, hparse a v hv]
  rfl

/-- A parser that accepts exactly the encodings. -/
theorem parsedCodec_lawful (hparse : ∀ b v, parse b = .ok v ↔ b = encode v)
    (hpanic : ∀ b, parse b ≠ .panicked) : (parsedCodec L name encode parse).Lawful where
  roundTrip := parsedCodec_roundTrip fun v => (hparse _ v).mpr rfl
  sized := parsedCodec_sized hpanic
  canonical := parsedCodec_canonical fun b v => (hparse b v).mp

end parsed

/-! ### Concatenation -/

/-- `GenericArrayExt::concat_ext`: the data is `self` then `other`, the length is
    the sum in the other order. -/
def concatExt {L O : Nat} (self : GenericArray L) (other : GenericArray O) :
    GenericArray (O + L) :=
  ⟨self.bytes ++ other.bytes, by simp; omega⟩

@[simp] theorem bytes_concatExt {L O : Nat} (a : GenericArray L) (b : GenericArray O) :
    (concatExt a b).bytes = a.bytes ++ b.bytes := rfl

end OpaqueVx
