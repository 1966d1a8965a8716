/-
  LoRaGateway.Lib.BitField
  ────────────────────────
  **FIELDS OF A BYTE**, and the read-mask-or that sets one of them.

  A field is a mask.  `put keep v x` keeps the bits of `x` under `keep` and ors `v`
  in; nothing asks whether `v` stays off the bits that are kept.

    • `put_frame` — the bits that are kept, where `v` has none,
    • `put_field` — the bits that are set,
    • `put_comm` — two fields can be set in either order when each value stays off
      the other field.
-/
import Mathlib.Logic.Basic

namespace LoRaGateway.Lib

theorem or_and_byte (x y z : UInt8) : (x ||| y) &&& z = x &&& z ||| y &&& z :=
  UInt8.toBitVec_inj.1 BitVec.and_or_distrib_right

/-- `x & keep | v`. -/
def put (keep v x : UInt8) : UInt8 := (x &&& keep) ||| v

section Put

variable {keep keep' v v' x mask : UInt8}

theorem put_and (keep v x mask : UInt8) :
    put keep v x &&& mask = (x &&& (keep &&& mask)) ||| (v &&& mask) := by
  unfold put
  rw [or_and_byte, UInt8.and_assoc]

/-- Bits that are kept, and that the value does not have, do not change. -/
theorem put_frame (hkeep : keep &&& mask = mask) (hv : v &&& mask = 0) :
    put keep v x &&& mask = x &&& mask := by
  rw [put_and, hkeep, hv, UInt8.or_zero]

/-- Bits that are not kept are those of the value. -/
theorem put_field (hkeep : keep &&& mask = 0) : put keep v x &&& mask = v &&& mask := by
  rw [put_and, hkeep, UInt8.and_zero, UInt8.zero_or]

/-- **Two fields, in either order.** -/
theorem put_comm (hv : v &&& keep' = v) (hv' : v' &&& keep = v') :
    put keep v (put keep' v' x) = put keep' v' (put keep v x) := by
  have hone : ∀ {k v k' v' : UInt8}, v' &&& k = v' →
      put k v (put k' v' x) = (x &&& (k' &&& k)) ||| v' ||| v := by
    intro k v k' v' h
    show (put k' v' x &&& k) ||| v = _
    rw [put_and, h]
  rw [hone hv', hone hv, UInt8.and_comm keep keep', UInt8.or_assoc, UInt8.or_assoc,
    UInt8.or_comm v' v]

end Put

end LoRaGateway.Lib
