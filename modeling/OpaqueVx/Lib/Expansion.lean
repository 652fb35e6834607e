import OpaqueVx.Lib.Bytes

/-! # Expansion by blocks

  A keyed function of byte strings with outputs of one size makes outputs of any size:
  each block is the function of the block before it, of an info and of a counter in one
  byte, and the output is as many of the bytes of the blocks as are asked for. This is
  the expansion of HKDF. A program makes the output chunk by chunk, the last one cut off
  from its block, and gets the same bytes. -/

namespace Lib.Expansion

variable (mac : Bytes → Bytes) (info : Bytes)

/-- The blocks count from one; there is nothing before the first one. -/
def block : Nat → Bytes
  | 0 => []
  | i + 1 => mac (block i ++ info ++ [UInt8.ofNat (i + 1)])

/-- The `k` blocks after the `i`-th. -/
def blocks (i : Nat) : Nat → Bytes
  | 0 => []
  | k + 1 => block mac info (i + 1) ++ blocks (i + 1) k

/-- The number of blocks that `n` bytes take. -/
def blockCount (size n : Nat) : Nat := (n + (size - 1)) / size

def expand (size n : Nat) : Bytes := (blocks mac info 0 (blockCount size n)).take n

/-- The sizes of the chunks of `n` bytes: all full but the last one. -/
def chunkSizes (size n : Nat) : List Nat :=
  List.replicate (n / size) size ++ if n % size = 0 then [] else [n % size]

/-- Chunks cut off from the blocks after the `i`-th, one from each. -/
def cut (i : Nat) : List Nat → Bytes
  | [] => []
  | len :: lens => (block mac info (i + 1)).take len ++ cut (i + 1) lens

variable {mac info} {size : Nat}

theorem length_block (hmac : ∀ d, (mac d).length = size) (i : Nat) :
    (block mac info (i + 1)).length = size := hmac _

theorem blocks_add (i j k : Nat) :
    blocks mac info i (j + k) = blocks mac info i j ++ blocks mac info (i + j) k := by
  induction j generalizing i with
  | zero => rw [Nat.zero_add, Nat.add_zero, blocks, List.nil_append]
  | succ j ih =>
    have hnext : i + 1 + j = i + (j + 1) := by omega
    rw [Nat.add_right_comm, blocks, ih, blocks, List.append_assoc, hnext]

theorem length_blocks (hmac : ∀ d, (mac d).length = size) (i k : Nat) :
    (blocks mac info i k).length = k * size := by
  induction k generalizing i with
  | zero => rw [blocks, List.length_nil, Nat.zero_mul]
  | succ k ih => rw [blocks, List.length_append, length_block hmac, ih, Nat.succ_mul, Nat.add_comm]

/-- Full chunks are the blocks. -/
theorem cut_full (hmac : ∀ d, (mac d).length = size) (i k : Nat) (lens : List Nat) :
    cut mac info i (List.replicate k size ++ lens) =
      blocks mac info i k ++ cut mac info (i + k) lens := by
  induction k generalizing i with
  | zero => rfl
  | succ k ih =>
    have hnext : i + 1 + k = i + (k + 1) := by omega
    have hfull : (block mac info (i + 1)).take size = block mac info (i + 1) :=
      List.take_of_length_le (Nat.le_of_eq (length_block hmac i))
    rw [List.replicate_succ, List.cons_append, cut, ih, hfull, blocks, List.append_assoc, hnext]

theorem blockCount_eq (hsize : 0 < size) (n : Nat) :
    blockCount size n = n / size + if n % size = 0 then 0 else 1 := by
  have hn := Nat.div_add_mod n size
  have hlt := Nat.mod_lt n hsize
  by_cases hmod : n % size = 0
  · have hsum : n + (size - 1) = size - 1 + size * (n / size) := by omega
    rw [blockCount, hsum, Nat.add_mul_div_left _ _ hsize, Nat.div_eq_of_lt (by omega), if_pos hmod]
    omega
  · have hsum : n + (size - 1) = n % size - 1 + size * (n / size + 1) := by
      rw [Nat.mul_add]
      omega
    rw [blockCount, hsum, Nat.add_mul_div_left _ _ hsize, Nat.div_eq_of_lt (by omega), if_neg hmod]
    omega

theorem length_chunkSizes (hsize : 0 < size) (n : Nat) :
    (chunkSizes size n).length = blockCount size n := by
  rw [chunkSizes, List.length_append, List.length_replicate, blockCount_eq hsize]
  by_cases hmod : n % size = 0
  · rw [if_pos hmod, if_pos hmod, List.length_nil]
  · rw [if_neg hmod, if_neg hmod, List.length_singleton]

theorem le_of_mem_chunkSizes (hsize : 0 < size) {n len : Nat} (h : len ∈ chunkSizes size n) :
    len ≤ size := by
  have hlt := Nat.mod_lt n hsize
  rcases List.mem_append.mp h with hfull | hlast
  · exact Nat.le_of_eq (List.eq_of_mem_replicate hfull)
  · by_cases hmod : n % size = 0
    · rw [if_pos hmod] at hlast
      cases hlast
    · rw [if_neg hmod, List.mem_singleton] at hlast
      omega

theorem length_expand (hsize : 0 < size) (hmac : ∀ d, (mac d).length = size) (n : Nat) :
    (expand mac info size n).length = n := by
  have hn := Nat.div_add_mod n size
  have hlt := Nat.mod_lt n hsize
  rw [expand, List.length_take, length_blocks hmac, blockCount_eq hsize, Nat.add_mul,
    Nat.mul_comm (n / size)]
  by_cases hmod : n % size = 0
  · rw [if_pos hmod]
    omega
  · rw [if_neg hmod]
    omega

/-- The chunks are the output. -/
theorem cut_chunkSizes (hsize : 0 < size) (hmac : ∀ d, (mac d).length = size) (n : Nat) :
    cut mac info 0 (chunkSizes size n) = expand mac info size n := by
  have hn := Nat.div_add_mod n size
  have hlen : (blocks mac info 0 (n / size)).length = n / size * size := length_blocks hmac 0 _
  rw [Nat.mul_comm] at hlen
  rw [chunkSizes, cut_full hmac, Nat.zero_add, expand, blockCount_eq hsize]
  by_cases hmod : n % size = 0
  · -- The last chunk is full.
    rw [if_pos hmod, if_pos hmod, Nat.add_zero, cut, List.append_nil,
      List.take_of_length_le (by omega)]
  · rw [if_neg hmod, if_neg hmod, blocks_add, Nat.zero_add]
    have htake : n = (blocks mac info 0 (n / size)).length + n % size := by omega
    have hcut : (blocks mac info 0 (n / size) ++ blocks mac info (n / size) 1).take
        ((blocks mac info 0 (n / size)).length + n % size) =
          blocks mac info 0 (n / size) ++ (blocks mac info (n / size) 1).take (n % size) :=
      List.take_length_add_append _
    rw [← htake] at hcut
    rw [hcut]
    simp only [cut, blocks, List.append_nil]

end Lib.Expansion
