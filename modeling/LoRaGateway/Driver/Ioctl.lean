/-
  LoRaGateway.Driver.Ioctl
  ────────────────────────
  **THE MODEM `ioctl`S AS STEPS ON THE REGISTERS.**

  An `ioctl` for the bandwidth, the coding rate or the spreading factor stores the
  value in its field of `struct LoRa`, sets its bits in `RegModemConfig1` or
  `RegModemConfig2`, and sets the low-data-rate bit of `RegModemConfig3` anew from
  the fields.

    • `Modem.step_bandWidth`, `Modem.step_codingRate`, `Modem.step_spreadingFactor` —
      what one of them does.
-/
import LoRaGateway.Driver.Registers

namespace LoRaGateway

open LoRaGateway.Lib

/-- The registers, and the fields that the driver computes from. -/
structure Modem where
  radio : Radio
  settings : ModemSettings
  deriving DecidableEq

/-- One `ioctl`.  No register that it reads changes by itself, so the answers of the
chip play no part. -/
def Modem.step (w : Modem) (a : ModemIoctl) : Option Modem :=
  let m := a.store w.settings
  (w.radio.run (a.program m) (fun _ => 0)).map (fun out => ⟨out.2, m⟩)

/-- Every index into the table `BW` is in range. -/
def InRange (w : Modem) : ModemIoctl → Prop
  | .bandWidth bw => bw.toNat < bwTable.length
  | .codingRate _ => True
  | .spreadingFactor _ => w.settings.bandWidth.toNat < bwTable.length

/-- `RegModemConfig3` with the low-data-rate bit set or cleared. -/
def setLdo (value : Bool) (x : UInt8) : UInt8 := if value then x ||| 0x08 else x &&& 0xF7

theorem setLdo_bit (value : Bool) (x : UInt8) : setLdo value x &&& 0x08 ≠ 0 ↔ value = true := by
  cases value with
  | true =>
      refine ⟨fun _ => rfl, fun _ h => ?_⟩
      have hor : (x ||| 0x08) &&& 0x08 = x &&& 0x08 ||| 0x08 := or_and_byte x 0x08 0x08
      rw [setLdo, if_pos rfl, hor] at h
      exact absurd (UInt8.or_eq_zero_iff.mp h).2 (by decide)
  | false =>
      refine ⟨fun h => absurd ?_ h, fun h => (by cases h)⟩
      show x &&& 0xF7 &&& 0x08 = 0
      rw [UInt8.and_assoc]
      exact UInt8.and_zero

theorem setLdo_others (value : Bool) (x : UInt8) : setLdo value x &&& 0xF7 = x &&& 0xF7 := by
  cases value with
  | true =>
      show (x ||| 0x08) &&& 0xF7 = _
      rw [or_and_byte]
      exact UInt8.or_zero
  | false =>
      show x &&& 0xF7 &&& 0xF7 = _
      rw [UInt8.and_assoc]
      rfl

theorem run_setAutoLDO (r : Radio) (m : ModemSettings) (answers : Nat → UInt8) :
    r.run (loRaSetAutoLDO m) answers
      = (calculatedBW m.spreadingFactor m.bandWidth).map (fun c =>
          ((), { r with modemConfig3 := setLdo (decide (c > 16)) r.modemConfig3 })) := by
  unfold Radio.run loRaSetAutoLDO
  cases calculatedBW m.spreadingFactor m.bandWidth with
  | none => rfl
  | some c => rfl

variable {w w' : Modem}

/-- `BAND_WIDTH` sets the upper half of `RegModemConfig1`. -/
theorem Modem.step_bandWidth (w : Modem) (bw : UInt32) :
    w.step (.bandWidth bw) = (calculatedBW w.settings.spreadingFactor bw).map (fun c =>
      ⟨{ w.radio with
          modemConfig1 := put 0x0F (bw <<< 4).toUInt8 w.radio.modemConfig1
          modemConfig3 := setLdo (decide (c > 16)) w.radio.modemConfig3 },
        { w.settings with bandWidth := bw }⟩) := by
  have hrun := run_setAutoLDO
    { w.radio with modemConfig1 := put 0x0F (bw <<< 4).toUInt8 w.radio.modemConfig1 }
    { w.settings with bandWidth := bw } (fun _ => 0)
  refine (congrArg (Option.map (fun out => (⟨out.2, { w.settings with bandWidth := bw }⟩ : Modem)))
    hrun).trans ?_
  rw [Option.map_map]
  rfl

/-- `CODING_RATE` clears three bits of it and ors the value in. -/
theorem Modem.step_codingRate (w : Modem) (cd : UInt32) :
    w.step (.codingRate cd) = some
      ⟨{ w.radio with modemConfig1 := put 0xF1 (cd <<< 1).toUInt8 w.radio.modemConfig1 },
        { w.settings with codingRate := cd }⟩ := rfl

/-- `SPREADING_FACTOR` sets the upper half of `RegModemConfig2`, to the clamped value. -/
theorem Modem.step_spreadingFactor (w : Modem) (sf : UInt32) :
    w.step (.spreadingFactor sf) = (calculatedBW sf w.settings.bandWidth).map (fun c =>
      ⟨{ w.radio with
          modemConfig2 := put 0x0F (clampSF sf <<< 4).toUInt8 w.radio.modemConfig2
          modemConfig3 := setLdo (decide (c > 16)) w.radio.modemConfig3 },
        { w.settings with spreadingFactor := sf }⟩) := by
  have hor : (clampSF sf <<< 4).toUInt8 ||| (w.radio.modemConfig2 &&& (0x0F : UInt8))
      = put 0x0F (clampSF sf <<< 4).toUInt8 w.radio.modemConfig2 := UInt8.or_comm _ _
  have hrun := run_setAutoLDO
    { w.radio with
      modemConfig2 := (clampSF sf <<< 4).toUInt8 ||| (w.radio.modemConfig2 &&& (0x0F : UInt8)) }
    { w.settings with spreadingFactor := sf } (fun _ => 0)
  refine (congrArg (Option.map (fun out =>
    (⟨out.2, { w.settings with spreadingFactor := sf }⟩ : Modem))) hrun).trans ?_
  rw [Option.map_map, hor]
  rfl

/-- The division has a result for a shift that stays inside an `int` and a bandwidth
of the table. -/
theorem calculatedBW_isSome_iff {sf bw : UInt32} :
    (calculatedBW sf bw).isSome = true ↔ sf < 32 ∧ bw.toNat < bwTable.length := by
  unfold calculatedBW
  by_cases hsf : sf < 32
  · rw [if_pos hsf]
    by_cases hbw : bw.toNat < bwTable.length
    · rw [List.getElem?_eq_getElem hbw]
      exact ⟨fun _ => ⟨hsf, hbw⟩, fun _ => rfl⟩
    · rw [List.getElem?_eq_none (Nat.le_of_not_lt hbw)]
      exact ⟨fun h => (by cases h), fun h => absurd h.2 hbw⟩
  · rw [if_neg hsf]
    simp [hsf]

/-- A step that happens indexed the table inside it. -/
theorem inRange_of_step {a : ModemIoctl} (hs : w.step a = some w') : InRange w a := by
  cases a with
  | bandWidth bw =>
      rw [w.step_bandWidth bw] at hs
      obtain ⟨c, hc, -⟩ := Option.map_eq_some_iff.mp hs
      exact (calculatedBW_isSome_iff.mp (Option.isSome_iff_exists.mpr ⟨c, hc⟩)).2
  | codingRate cd => trivial
  | spreadingFactor sf =>
      rw [w.step_spreadingFactor sf] at hs
      obtain ⟨c, hc, -⟩ := Option.map_eq_some_iff.mp hs
      exact (calculatedBW_isSome_iff.mp (Option.isSome_iff_exists.mpr ⟨c, hc⟩)).2

/-- The value that `CODING_RATE` ors in stays off the bits of the bandwidth. -/
theorem codingRate_bits {cd : UInt32} :
    (cd <<< 1).toUInt8 &&& (0xF0 : UInt8) = 0 ↔ cd &&& 0x78 = 0 := by
  have hmask : (cd <<< 1).toUInt8 &&& (0xF0 : UInt8) = ((cd &&& 0x78) <<< 1).toUInt8 := by
    rw [UInt32.shiftLeft_and, UInt32.toUInt8_and]
    rfl
  have hlt : (cd &&& 0x78).toNat ≤ 0x78 := by
    rw [UInt32.toNat_and]
    exact Nat.and_le_right
  rw [hmask, ← UInt8.toNat_inj, ← UInt32.toNat_inj, UInt32.toNat_toUInt8, UInt32.toNat_shiftLeft]
  generalize (cd &&& 0x78).toNat = y at *
  show y <<< 1 % 2 ^ 32 % 2 ^ 8 = 0 ↔ y = 0
  rw [Nat.shiftLeft_eq]
  omega

end LoRaGateway
