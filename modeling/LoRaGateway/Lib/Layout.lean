/-
  LoRaGateway.Lib.Layout
  ──────────────────────
  **PACKED ARRAYS IN A BLOCK OF BYTES.**

  A `Codec α` writes every value of `α` in the same number of bytes and reads it
  back.  `load` and `put` are `p[i]` and `p[i] = x` on an array of such values in
  an allocated block; both give nothing when the cell is not inside the block.
  `Holds block xs` says that the block starts with the values `xs`, one cell each;
  every access under it is the access to the list.

    • `Holds.load`, `Holds.put`, `Holds.put_new` — the accesses,
    • `Holds.realloc` — a block that is not cut below its values keeps them.
-/
import Mathlib.Data.List.Basic

namespace LoRaGateway.Lib

/-! ## §1. Blocks. -/

/-- `calloc`: `n` zero bytes. -/
def calloc (n : Nat) : List UInt8 := List.replicate n 0

/-- `realloc(block, n)`: the first bytes stay, up to the smaller of the two
sizes; the bytes after them are whatever `junk` is. -/
def realloc (block : List UInt8) (n : Nat) (junk : Nat → UInt8) : List UInt8 :=
  block.take n ++ (List.range (n - block.length)).map junk

/-- Pieces of one length, one after the other. -/
theorem length_flatMap_of_length {α β : Type} {f : α → List β} {k : Nat} {xs : List α}
    (h : ∀ x ∈ xs, (f x).length = k) : (xs.flatMap f).length = k * xs.length := by
  rw [List.length_flatMap, List.map_congr_left h, List.map_const', List.sum_replicate_nat,
    Nat.mul_comm]

theorem length_realloc (block : List UInt8) (n : Nat) (junk : Nat → UInt8) :
    (realloc block n junk).length = n := by
  unfold realloc
  rw [List.length_append, List.length_take, List.length_map, List.length_range]
  omega

/-! ## §2. Formats of a fixed size. -/

/-- A format that writes each value in `size` bytes and reads it back. -/
structure Codec (α : Type) where
  size : Nat
  encode : α → List UInt8
  decode : List UInt8 → α
  length_encode : ∀ x, (encode x).length = size
  decode_encode : ∀ x, decode (encode x) = x

/-- A 32-bit word, least significant byte first. -/
def word : Codec UInt32 where
  size := 4
  encode x :=
    [x.toUInt8, (x >>> 8).toUInt8, (x >>> 16).toUInt8, (x >>> 24).toUInt8]
  decode
    | [a, b, c, d] =>
        UInt32.ofNat (a.toNat + 256 * b.toNat + 65536 * c.toNat + 16777216 * d.toNat)
    | _ => 0
  length_encode _ := rfl
  decode_encode x := by
    apply UInt32.toNat.inj
    have hx := x.toNat_lt
    simp only [UInt32.toNat_toUInt8, UInt32.toNat_shiftRight, Nat.shiftRight_eq_div_pow,
      UInt32.toNat_ofNat']
    simp
    omega

namespace Codec

variable {α : Type} (c : Codec α)

/-- `p[i]`. -/
def load (block : List UInt8) (i : Nat) : Option α :=
  if c.size * (i + 1) ≤ block.length then
    some (c.decode ((block.drop (c.size * i)).take c.size))
  else none

/-- `p[i] = x`. -/
def put (block : List UInt8) (i : Nat) (x : α) : Option (List UInt8) :=
  if c.size * (i + 1) ≤ block.length then
    some (block.take (c.size * i) ++ (c.encode x ++ block.drop (c.size * (i + 1))))
  else none

/-- The block starts with the values `xs`. -/
def Holds (block : List UInt8) (xs : List α) : Prop := xs.flatMap c.encode <+: block

theorem load_eq_none {block : List UInt8} {i : Nat} (h : block.length < c.size * (i + 1)) :
    c.load block i = none := by
  unfold load
  rw [if_neg (by omega)]

theorem length_put {block block' : List UInt8} {i : Nat} {x : α}
    (h : c.put block i x = some block') : block'.length = block.length := by
  unfold put at h
  split at h
  next hle =>
      rw [← Option.some.inj h]
      simp only [List.length_append, List.length_take, List.length_drop, c.length_encode]
      rw [Nat.mul_add_one] at hle ⊢
      omega
  next => exact absurd h (by simp)

theorem length_flatMap (xs : List α) : (xs.flatMap c.encode).length = c.size * xs.length :=
  length_flatMap_of_length (fun x _ => c.length_encode x)

/-! ## §3. Accesses to a block that holds a list. -/

variable {c} {block : List UInt8} {xs : List α}

theorem Holds.nil (block : List UInt8) : c.Holds block [] := List.nil_prefix

theorem Holds.self (xs : List α) : c.Holds (xs.flatMap c.encode) xs := List.prefix_refl _

theorem Holds.length_le (h : c.Holds block xs) : c.size * xs.length ≤ block.length := by
  rw [← c.length_flatMap xs]
  exact List.IsPrefix.length_le h

/-- The values before `i`, the value at `i`, and the values after it. -/
theorem Holds.split (h : c.Holds block xs) {i : Nat} (hi : i < xs.length) :
    ∃ rest, block = (xs.take i).flatMap c.encode
        ++ (c.encode xs[i] ++ ((xs.drop (i + 1)).flatMap c.encode ++ rest)) := by
  obtain ⟨rest, hrest⟩ := h
  refine ⟨rest, ?_⟩
  have hxs : xs = xs.take i ++ xs[i] :: xs.drop (i + 1) := by
    rw [← List.drop_eq_getElem_cons hi, List.take_append_drop]
  have hflat : xs.flatMap c.encode = (xs.take i).flatMap c.encode
      ++ (c.encode xs[i] ++ (xs.drop (i + 1)).flatMap c.encode) := by
    conv_lhs => rw [hxs]
    rw [List.flatMap_append, List.flatMap_cons]
  rw [← hrest, hflat]
  simp only [List.append_assoc]

theorem length_flatMap_take {i : Nat} (hi : i < xs.length) :
    ((xs.take i).flatMap c.encode).length = c.size * i := by
  rw [c.length_flatMap, List.length_take, Nat.min_eq_left (Nat.le_of_lt hi)]

/-- **Reading a cell reads the list.** -/
theorem Holds.load (h : c.Holds block xs) {i : Nat} (hi : i < xs.length) :
    c.load block i = some xs[i] := by
  have hlen : c.size * (i + 1) ≤ block.length :=
    Nat.le_trans (Nat.mul_le_mul_left _ hi) h.length_le
  obtain ⟨rest, hblock⟩ := h.split hi
  unfold Codec.load
  rw [if_pos hlen, hblock, ← length_flatMap_take hi, List.drop_left, ← c.length_encode xs[i],
    List.take_left, c.decode_encode]

/-- Outside the block and outside the list: the two reads agree everywhere. -/
theorem load_flatMap (hsize : 0 < c.size) (xs : List α) (i : Nat) :
    c.load (xs.flatMap c.encode) i = xs[i]? := by
  by_cases hi : i < xs.length
  · rw [(Holds.self xs).load hi, List.getElem?_eq_getElem hi]
  · rw [List.getElem?_eq_none (by omega)]
    apply c.load_eq_none
    rw [c.length_flatMap]
    exact Nat.mul_lt_mul_of_pos_left (by omega) hsize

/-- **Writing a cell writes the list.** -/
theorem Holds.put (h : c.Holds block xs) {i : Nat} (hi : i < xs.length) (x : α) :
    ∃ block', c.put block i x = some block' ∧ c.Holds block' (xs.set i x) := by
  have hlen : c.size * (i + 1) ≤ block.length :=
    Nat.le_trans (Nat.mul_le_mul_left _ hi) h.length_le
  obtain ⟨rest, hblock⟩ := h.split hi
  refine ⟨_, if_pos hlen, rest, ?_⟩
  have htake : block.take (c.size * i) = (xs.take i).flatMap c.encode := by
    rw [hblock, ← length_flatMap_take (c := c) hi, List.take_left]
  have hdrop : block.drop (c.size * (i + 1)) = (xs.drop (i + 1)).flatMap c.encode ++ rest := by
    have hcut : c.size * (i + 1)
        = ((xs.take i).flatMap c.encode ++ c.encode xs[i]).length := by
      rw [List.length_append, length_flatMap_take hi, c.length_encode, Nat.mul_add_one]
    rw [hblock, ← List.append_assoc, hcut, List.drop_left]
  rw [htake, hdrop, List.set_eq_take_append_cons_drop, if_pos hi, List.flatMap_append,
    List.flatMap_cons]
  simp only [List.append_assoc]

/-- Writing the cell after the values adds one. -/
theorem Holds.put_new (h : c.Holds block xs) (hlen : c.size * (xs.length + 1) ≤ block.length)
    (x : α) : ∃ block', c.put block xs.length x = some block' ∧ c.Holds block' (xs ++ [x]) := by
  refine ⟨_, if_pos hlen, block.drop (c.size * (xs.length + 1)), ?_⟩
  have htake : block.take (c.size * xs.length) = xs.flatMap c.encode := by
    obtain ⟨rest, hrest⟩ := h
    rw [← hrest, ← c.length_flatMap xs, List.take_left]
  rw [htake, List.flatMap_append, List.flatMap_singleton, List.append_assoc]

/-- **A block that is not cut below its values keeps them.** -/
theorem Holds.realloc (h : c.Holds block xs) {n : Nat} (hn : c.size * xs.length ≤ n)
    (junk : Nat → UInt8) : c.Holds (Lib.realloc block n junk) xs := by
  unfold Codec.Holds Lib.realloc
  apply List.prefix_append_of_prefix
  rw [List.prefix_take_iff]
  exact ⟨h, by rw [c.length_flatMap]; exact hn⟩

end Codec

end LoRaGateway.Lib
