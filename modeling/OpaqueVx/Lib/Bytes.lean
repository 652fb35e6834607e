import Mathlib.Algebra.Ring.Nat

/-! # Byte strings and fixed-length byte arrays

  `Bytes` is a byte string of any length. `GenericArray n` carries the proof
  that it holds exactly `n` bytes, so a field of fixed width can be cut off the
  front of a longer string without a length check (`append_inj`), and an
  encoding of several fields can be taken apart again.
-/

namespace Lib

/-- A byte string. -/
abbrev Bytes := List UInt8

/-- The bytes of an ASCII text. -/
def ascii (s : String) : Bytes := s.toList.map fun c => UInt8.ofNat c.toNat

/-- A byte string of length `n`. -/
@[ext] structure GenericArray (n : Nat) where
  bytes : Bytes
  size : bytes.length = n
  deriving DecidableEq

namespace GenericArray

variable {n m : Nat}

@[simp] theorem length_bytes (a : GenericArray n) : a.bytes.length = n := a.size

/-- `GenericArray::default`: all bytes zero. -/
def zeros (n : Nat) : GenericArray n := ⟨List.replicate n 0, by simp⟩

/-- Concatenation. -/
def cat (a : GenericArray n) (b : GenericArray m) : GenericArray (n + m) :=
  ⟨a.bytes ++ b.bytes, by simp⟩

@[simp] theorem bytes_cat (a : GenericArray n) (b : GenericArray m) :
    (a.cat b).bytes = a.bytes ++ b.bytes := rfl

theorem bytes_injective {a b : GenericArray n} (h : a.bytes = b.bytes) : a = b :=
  GenericArray.ext h

/-- A fixed-width field at the front of a string, and what follows it, are
    determined by the string. -/
theorem append_inj {a b : GenericArray n} {x y : Bytes}
    (h : a.bytes ++ x = b.bytes ++ y) : a = b ∧ x = y := by
  obtain ⟨hab, hxy⟩ := List.append_inj h (by simp)
  exact ⟨bytes_injective hab, hxy⟩

/-- The same for two strings of which the first ends in a fixed-width field. -/
theorem append_inj' {a b : GenericArray n} {x y : Bytes}
    (h : x ++ a.bytes = y ++ b.bytes) : x = y ∧ a = b := by
  obtain ⟨hxy, hab⟩ := List.append_inj' h (by simp)
  exact ⟨hxy, bytes_injective hab⟩

end GenericArray

/-! ### Exclusive or -/

/-- `for (x, y) in xs.iter_mut().zip(ys) { *x ^= y }`: bytes of `xs` beyond the
    length of `ys` stay as they are, bytes of `ys` beyond that of `xs` are not
    read. -/
def xorZip : Bytes → Bytes → Bytes
  | x :: xs, y :: ys => (x ^^^ y) :: xorZip xs ys
  | xs, _ => xs

@[simp] theorem length_xorZip (xs ys : Bytes) : (xorZip xs ys).length = xs.length := by
  induction xs generalizing ys with
  | nil => simp [xorZip]
  | cons x xs ih =>
    cases ys with
    | nil => simp [xorZip]
    | cons y ys => simp [xorZip, ih]

/-- Masking twice with the same pad gives the data back. -/
theorem xorZip_xorZip {pad data : Bytes} (h : data.length = pad.length) :
    xorZip pad (xorZip pad data) = data := by
  induction pad generalizing data with
  | nil =>
    have hnil : data = [] := List.length_eq_zero_iff.mp h
    rw [hnil]
    rfl
  | cons p pad ih =>
    cases data with
    | nil => simp at h
    | cons d data =>
      have hlen : data.length = pad.length := by simpa using h
      have hd : p ^^^ (p ^^^ d) = d := by rw [← UInt8.xor_assoc]; simp
      simp only [xorZip, ih hlen, hd]

/-- On strings of one length nothing is left over on either side. -/
theorem xorZip_eq_zipWith {pad data : Bytes} (h : data.length = pad.length) :
    xorZip pad data = List.zipWith (· ^^^ ·) pad data := by
  induction pad generalizing data with
  | nil => rfl
  | cons x xs ih =>
    cases data with
    | nil => cases h
    | cons y ys =>
      have hys : ys.length = xs.length := by simpa using h
      rw [xorZip, List.zipWith_cons_cons, ih hys]

/-! ### Big-endian numbers -/

/-- The low `w` bytes of `n`, most significant byte first. -/
def beBytes : Nat → Nat → Bytes
  | 0, _ => []
  | w + 1, n => beBytes w (n / 256) ++ [UInt8.ofNat (n % 256)]

@[simp] theorem length_beBytes (w n : Nat) : (beBytes w n).length = w := by
  induction w generalizing n with
  | zero => rfl
  | succ w ih => simp [beBytes, ih]

/-- The number a byte string stands for, most significant byte first. -/
def ofBeBytes (b : Bytes) : Nat := b.foldl (fun acc x => acc * 256 + x.toNat) 0

theorem ofBeBytes_concat (b : Bytes) (x : UInt8) :
    ofBeBytes (b ++ [x]) = ofBeBytes b * 256 + x.toNat := by
  simp [ofBeBytes]

theorem ofBeBytes_beBytes {w n : Nat} (hn : n < 256 ^ w) : ofBeBytes (beBytes w n) = n := by
  induction w generalizing n with
  | zero =>
    have h0 : n = 0 := by simpa using hn
    rw [h0]
    rfl
  | succ w ih =>
    have hdiv : n / 256 < 256 ^ w := by
      rw [Nat.pow_succ] at hn
      exact Nat.div_lt_of_lt_mul (by rw [Nat.mul_comm]; exact hn)
    have hlow : (UInt8.ofNat (n % 256)).toNat = n % 256 := by
      rw [UInt8.toNat_ofNat']
      omega
    rw [beBytes, ofBeBytes_concat, ih hdiv, hlow]
    omega

/-- Below the range of the width the big-endian form is injective. -/
theorem beBytes_inj {w n m : Nat} (hn : n < 256 ^ w) (hm : m < 256 ^ w)
    (h : beBytes w n = beBytes w m) : n = m := by
  rw [← ofBeBytes_beBytes hn, h, ofBeBytes_beBytes hm]

/-- A string behind its length in a field of `w` bytes, and what follows it, can
    be told apart. -/
theorem lengthPrefix_inj {w : Nat} {a b x y : Bytes} (ha : a.length < 256 ^ w)
    (hb : b.length < 256 ^ w)
    (h : beBytes w a.length ++ (a ++ x) = beBytes w b.length ++ (b ++ y)) : a = b ∧ x = y := by
  obtain ⟨hlen, hrest⟩ := List.append_inj h (by simp)
  exact List.append_inj hrest (beBytes_inj ha hb hlen)

/-- A wider field starts with the bytes of the quotient. -/
theorem beBytes_add (v w n : Nat) :
    beBytes (v + w) n = beBytes v (n / 256 ^ w) ++ beBytes w n := by
  induction w generalizing n with
  | zero => simp [beBytes]
  | succ w ih =>
    have hdiv : n / 256 / 256 ^ w = n / 256 ^ (w + 1) := by
      rw [Nat.div_div_eq_div_mul, Nat.pow_succ, Nat.mul_comm]
    rw [← Nat.add_assoc, beBytes, ih, hdiv, beBytes, List.append_assoc]

@[simp] theorem beBytes_zero (w : Nat) : beBytes w 0 = List.replicate w 0 := by
  induction w with
  | zero => rfl
  | succ w ih =>
    rw [beBytes, Nat.zero_div, ih, List.replicate_succ']
    rfl

/-- Reading on after a number `n` gives a number below the next multiple. -/
theorem ofBeBytes_replicate_append (k : Nat) (b : Bytes) :
    ofBeBytes (List.replicate k 0 ++ b) = ofBeBytes b := by
  induction k with
  | zero => rfl
  | succ k ih =>
    rw [List.replicate_succ, List.cons_append]
    exact ih

theorem foldl_bytes_lt (b : Bytes) (n : Nat) :
    b.foldl (fun acc x => acc * 256 + x.toNat) n < (n + 1) * 256 ^ b.length := by
  induction b generalizing n with
  | nil => simp
  | cons x b ih =>
    have hx : x.toNat < 256 := x.toNat_lt
    have hstep : n * 256 + x.toNat + 1 ≤ (n + 1) * 256 := by omega
    calc (x :: b).foldl (fun acc x => acc * 256 + x.toNat) n
        < (n * 256 + x.toNat + 1) * 256 ^ b.length := ih _
      _ ≤ (n + 1) * 256 * 256 ^ b.length := Nat.mul_le_mul_right _ hstep
      _ = (n + 1) * 256 ^ (x :: b).length := by
        rw [List.length_cons, Nat.pow_succ, Nat.mul_assoc, Nat.mul_comm 256]

theorem ofBeBytes_lt (b : Bytes) : ofBeBytes b < 256 ^ b.length := by
  have h := foldl_bytes_lt b 0
  rw [Nat.zero_add, Nat.one_mul] at h
  exact h

/-- Writing a number that was read on after `n` gives `n` and the bytes read. -/
theorem beBytes_foldl (b : Bytes) (w n : Nat) :
    beBytes (w + b.length) (b.foldl (fun acc x => acc * 256 + x.toNat) n) = beBytes w n ++ b := by
  induction b generalizing w n with
  | nil => simp
  | cons x b ih =>
    have hx : x.toNat < 256 := x.toNat_lt
    have hdiv : (n * 256 + x.toNat) / 256 = n := by omega
    have hlow : UInt8.ofNat ((n * 256 + x.toNat) % 256) = x := by
      have hmod : (n * 256 + x.toNat) % 256 = x.toNat := by omega
      rw [hmod, UInt8.ofNat_toNat]
    have hstep := ih (w + 1) (n * 256 + x.toNat)
    rw [List.length_cons, Nat.add_comm b.length, ← Nat.add_assoc, List.foldl_cons, hstep, beBytes,
      hdiv, hlow, List.append_assoc]
    rfl

/-- The big-endian form of the number a string stands for is the string. -/
theorem beBytes_ofBeBytes (b : Bytes) : beBytes b.length (ofBeBytes b) = b := by
  have h := beBytes_foldl b 0 0
  rw [Nat.zero_add] at h
  exact h

/-! ### Little-endian numbers -/

/-- The low `w` bytes of `n`, least significant byte first. -/
@[irreducible] def leBytes (w n : Nat) : Bytes := (beBytes w n).reverse

/-- The number a byte string stands for, least significant byte first. -/
@[irreducible] def ofLeBytes (b : Bytes) : Nat := ofBeBytes b.reverse

@[simp] theorem length_leBytes (w n : Nat) : (leBytes w n).length = w := by
  simp [leBytes]

theorem ofLeBytes_lt (b : Bytes) : ofLeBytes b < 256 ^ b.length := by
  have h := ofBeBytes_lt b.reverse
  rw [List.length_reverse] at h
  rw [ofLeBytes]
  exact h

theorem ofLeBytes_cons (x : UInt8) (b : Bytes) :
    ofLeBytes (x :: b) = x.toNat + 256 * ofLeBytes b := by
  rw [ofLeBytes, ofLeBytes, List.reverse_cons, ofBeBytes_concat]
  omega

theorem ofLeBytes_append (a b : Bytes) :
    ofLeBytes (a ++ b) = ofLeBytes a + 256 ^ a.length * ofLeBytes b := by
  induction a with
  | nil => simp [ofLeBytes, ofBeBytes]
  | cons x a ih =>
    rw [List.cons_append, ofLeBytes_cons, ih, ofLeBytes_cons, List.length_cons, Nat.pow_succ,
      Nat.mul_add, ← Nat.mul_assoc, Nat.mul_comm 256 (256 ^ a.length)]
    omega

theorem ofLeBytes_leBytes {w n : Nat} (hn : n < 256 ^ w) : ofLeBytes (leBytes w n) = n := by
  rw [ofLeBytes, leBytes, List.reverse_reverse, ofBeBytes_beBytes hn]

theorem leBytes_ofLeBytes (b : Bytes) : leBytes b.length (ofLeBytes b) = b := by
  have h := beBytes_ofBeBytes b.reverse
  rw [List.length_reverse] at h
  rw [leBytes, ofLeBytes, h, List.reverse_reverse]

end Lib
