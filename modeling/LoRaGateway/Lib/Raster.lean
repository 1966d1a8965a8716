/-
  LoRaGateway.Lib.Raster
  ──────────────────────
  **BITS PACKED INTO BYTES**: a bit of a byte that is set in place in an array, and
  a row of bits, most significant bit first, that is read through a shift register.

    • `bit_or_shift` — or-ing a shifted one sets its bit and no other,
    • `getD_modify` — an update in place changes its cell and no other,
    • `InStep.next`, `inStep_load` — the register stays in step with the row,
    • `InStep.top` — its top bit is the bit of the row.
-/
import LoRaGateway.Lib.CBuffer
import Mathlib.Data.Nat.Bitwise

namespace LoRaGateway.Lib

/-! ## §1. Bits of a byte. -/

/-- Bit `k`; bit 0 is the lowest. -/
def bit (b : UInt8) (k : Nat) : Bool := b.toBitVec.getLsbD k

theorem bit_or (a b : UInt8) (k : Nat) : bit (a ||| b) k = (bit a k || bit b k) := by
  unfold bit
  rw [UInt8.toBitVec_or, BitVec.getLsbD_or]

/-- A shift by one moves each bit up. -/
theorem bit_shift_one {b : UInt8} {k : Nat} (hk : k + 1 < 8) : bit (b <<< 1) (k + 1) = bit b k := by
  unfold bit
  rw [UInt8.toBitVec_shiftLeft]
  show (b.toBitVec <<< 1).getLsbD (k + 1) = b.toBitVec.getLsbD k
  rw [BitVec.getLsbD_shiftLeft]
  simp [hk]

theorem bit_one_shift {k : UInt8} (hk : k.toNat < 8) (j : Nat) :
    bit (1 <<< k) j = decide (j = k.toNat) := by
  have hmod : (k.toBitVec % 8).toNat = k.toNat := by
    rw [BitVec.toNat_umod]
    show k.toNat % 8 = k.toNat
    omega
  unfold bit
  rw [UInt8.toBitVec_shiftLeft, BitVec.shiftLeft_eq', hmod, BitVec.getLsbD_shiftLeft]
  show (decide (j < 8) && !decide (j < k.toNat) && (1#8).getLsbD (j - k.toNat)) = _
  rw [BitVec.getLsbD_one]
  by_cases hj : j = k.toNat
  · simp [hj, hk]
  · by_cases hlt : j < k.toNat
    · simp [hj, hlt]
    · have hpos : j - k.toNat ≠ 0 := by omega
      simp [hj, hpos]

/-- **One bit is set**, and the others stay. -/
theorem bit_or_shift (b : UInt8) {k : UInt8} (hk : k.toNat < 8) (j : Nat) :
    bit (b ||| (1 <<< k)) j = (bit b j || decide (j = k.toNat)) := by
  rw [bit_or, bit_one_shift hk]

/-- The test of the top bit. -/
theorem and_top_ne_zero_iff (b : UInt8) : b &&& 0x80 ≠ 0 ↔ bit b 7 = true := by
  have hbits : (b &&& 0x80).toBitVec = if bit b 7 = true then BitVec.twoPow 8 7 else 0#8 := by
    rw [UInt8.toBitVec_and]
    exact BitVec.and_twoPow b.toBitVec 7
  rw [ne_eq, ← UInt8.toBitVec_inj, hbits]
  by_cases h : bit b 7 = true
  · rw [if_pos h]
    exact iff_of_true (by decide) h
  · rw [if_neg h]
    exact iff_of_false (by simp) h

/-! ## §2. A cell of an array. -/

namespace Buffer

variable {n : Nat}

/-- `b[i] = f(b[i])`; nothing outside the array. -/
def modify (b : Buffer n) (i : Nat) (f : UInt8 → UInt8) : Option (Buffer n) :=
  if i < n then some ⟨b.bytes.modify i f, by rw [List.length_modify]; exact b.size⟩ else none

theorem isSome_modify_iff {b : Buffer n} {i : Nat} {f : UInt8 → UInt8} :
    (b.modify i f).isSome = true ↔ i < n := by
  unfold modify
  split
  next h => exact iff_of_true rfl h
  next h => exact iff_of_false (by simp) h

/-- **The cell is changed**, and the others stay. -/
theorem getD_modify {b b' : Buffer n} {i : Nat} {f : UInt8 → UInt8} (h : b.modify i f = some b')
    {j : Nat} (hj : j < n) :
    b'.bytes.getD j 0 = if j = i then f (b.bytes.getD j 0) else b.bytes.getD j 0 := by
  have hlt : j < b.bytes.length := by
    rw [b.size]
    exact hj
  unfold modify at h
  split at h
  next =>
    rw [← Option.some.inj h]
    show (b.bytes.modify i f).getD j 0 = _
    rw [List.getD_eq_getElem?_getD, List.getElem?_modify, List.getElem?_eq_getElem hlt,
      List.getD_eq_getElem?_getD, List.getElem?_eq_getElem hlt]
    by_cases hij : j = i
    · simp [hij]
    · simp [hij, Ne.symm hij]
  next => exact absurd h (by simp)

end Buffer

/-! ## §3. A row, most significant bit first. -/

/-- Bit `i` of a row. -/
def msbFirst (row : Nat → UInt8) (i : Nat) : Bool := bit (row (i / 8)) (7 - i % 8)

/-- The register has bit `i` of the row at its top, and the rest of the byte behind it. -/
def InStep (row : Nat → UInt8) (i : Nat) (r : UInt8) : Prop :=
  ∀ k, i % 8 + k < 8 → bit r (7 - k) = msbFirst row (i + k)

section InStep

variable {row : Nat → UInt8} {i : Nat} {r : UInt8}

/-- Every eight bits the register is loaded. -/
theorem inStep_load (h : i % 8 = 0) : InStep row i (row (i / 8)) := by
  intro k hk
  unfold msbFirst
  rw [show (i + k) / 8 = i / 8 by omega, show (i + k) % 8 = k by omega]

/-- **In between it is shifted.** -/
theorem InStep.next (hr : InStep row i r) (h : (i + 1) % 8 ≠ 0) : InStep row (i + 1) (r <<< 1) := by
  intro k hk
  rw [show 7 - k = 6 - k + 1 by omega, bit_shift_one (by omega), show 6 - k = 7 - (k + 1) by omega,
    hr (k + 1) (by omega)]
  congr 1
  omega

theorem InStep.top (hr : InStep row i r) : bit r 7 = msbFirst row i := hr 0 (by omega)

end InStep

end LoRaGateway.Lib
