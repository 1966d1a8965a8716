/-
  LoRaGateway.Driver.Modem — the modem settings of `Driver/sx1278.c`.

  `LoRa_init` and the setters that `sx1278_ioctl` calls: which registers of the chip
  they read and write, from the fields of `struct LoRa`.  The fields change only in
  `sx1278_probe` and `sx1278_ioctl`, so a setter is given their values.

  `int` arithmetic wraps around, as the kernel is compiled; a shift by 32 or more
  and an index outside the table `BW` have no result.
-/
import LoRaGateway.Driver.Spi

namespace LoRaGateway

open LoRaGateway.Lib

/-! ## §1. Registers and settings. -/

namespace Reg

/-- `RegFrMsb`. -/
def frMsb : UInt8 := 0x06
/-- `RegFrMid`. -/
def frMid : UInt8 := 0x07
/-- `RegFrLsb`. -/
def frLsb : UInt8 := 0x08
/-- `RegPaConfig`. -/
def paConfig : UInt8 := 0x09
/-- `RegOcp`. -/
def ocp : UInt8 := 0x0B
/-- `RegLna`. -/
def lna : UInt8 := 0x0C
/-- `RegModemConfig1`: bandwidth and coding rate. -/
def modemConfig1 : UInt8 := 0x1D
/-- `RegModemConfig2`: spreading factor, CRC, and the timeout's upper bits. -/
def modemConfig2 : UInt8 := 0x1E
/-- `RegSymbTimeoutL`. -/
def symbTimeoutL : UInt8 := 0x1F
/-- `RegPreambleMsb`. -/
def preambleMsb : UInt8 := 0x20
/-- `RegPreambleLsb`. -/
def preambleLsb : UInt8 := 0x21
/-- `RegModemConfig3`: the low-data-rate bit. -/
def modemConfig3 : UInt8 := 0x26
/-- `RegDioMapping1`. -/
def dioMapping1 : UInt8 := 0x40
/-- `RegVersion`. -/
def version : UInt8 := 0x42

end Reg

/-- The fields of `struct LoRa` that set up the modem.  The enumerations are 32-bit,
and `ioctl` stores any value in them. -/
structure ModemSettings where
  frequency : Int32
  spreadingFactor : UInt32
  bandWidth : UInt32
  codingRate : UInt32
  power : UInt32
  overCurrentProtection : UInt8
  preamble : UInt16
  deriving DecidableEq

/-- As `sx1278_probe` sets them: 433 MHz, `SF_7`, `BW_125_KHZ`, `CR_4_5`,
`POWER_20db`, 100 mA, 8 symbols. -/
def ModemSettings.probed : ModemSettings := ⟨433, 7, 7, 1, 0xFF, 100, 8⟩

/-- `status_t`, as far as `LoRa_isValid` and `LoRa_init` return it; `-1` when the
interrupt cannot be requested. -/
inductive LoRaStatus where
  | ok
  | notFound
  | noIrq
  deriving DecidableEq

/-! ## §2. Setters. -/

/-- `LoRa_setFrequency`. -/
def loRaSetFrequency (f : Int32) : Driver Unit := do
  let fr : UInt32 := (f.toUInt32 * 524288) >>> 5
  loRaWrite Reg.frMsb (fr >>> 16).toUInt8
  loRaWrite Reg.frMid (fr >>> 8).toUInt8
  loRaWrite Reg.frLsb fr.toUInt8

/-- `LoRa_setPower`. -/
def loRaSetPower (power : UInt32) : Driver Unit := loRaWrite Reg.paConfig power.toUInt8

/-- `LoRa_setOCP`; the division is one of `int`s. -/
def loRaSetOCP (cur : UInt8) : Driver Unit :=
  let cur := if cur < 45 then 45 else cur
  let cur := if cur > 240 then 240 else cur
  let ocpTrim := if cur ≤ 120 then (cur.toNat - 45) / 5 else (cur.toNat + 30) / 10
  loRaWrite Reg.ocp (UInt8.ofNat ocpTrim ||| 0x20)

/-- `LoRa_setTOMsb_setCRCon`. -/
def loRaSetTOMsbSetCRCon : Driver Unit := do
  let read : UInt8 ← loRaRead Reg.modemConfig2
  loRaWrite Reg.modemConfig2 (read ||| 0x07)

/-- `LoRa_setLowDaraRateOptimization`. -/
def loRaSetLowDaraRateOptimization (value : Bool) : Driver Unit := do
  let read : UInt8 ← loRaRead Reg.modemConfig3
  loRaWrite Reg.modemConfig3 (if value then read ||| 0x08 else read &&& 0xF7)

/-- `BW` in `LoRa_setAutoLDO`: the bandwidths in tenths of a kHz. -/
def bwTable : List Nat := [78, 104, 156, 208, 313, 417, 625, 1250, 2500, 5000]

/-- `calculatedBW` in `LoRa_setAutoLDO`. -/
def calculatedBW (spreadingFactor bandWidth : UInt32) : Option Int :=
  if spreadingFactor < 32 then
    let symbol : Int32 := ((1 : Int32) <<< spreadingFactor.toInt32) * 10
    bwTable[bandWidth.toNat]?.map (fun width => symbol.toInt.tdiv width)
  else none

/-- `LoRa_setAutoLDO`, from the fields. -/
def loRaSetAutoLDO (m : ModemSettings) : Driver Unit := do
  let calculated ← defined (calculatedBW m.spreadingFactor m.bandWidth)
  loRaSetLowDaraRateOptimization (calculated > 16)

/-- The argument of `LoRa_setSpreadingFactor`, clamped. -/
def clampSF (sf : UInt32) : UInt32 :=
  let sf := if sf > 12 then 12 else sf
  if sf < 7 then 7 else sf

/-- `LoRa_setSpreadingFactor`. -/
def loRaSetSpreadingFactor (m : ModemSettings) (sf : UInt32) : Driver Unit := do
  let read : UInt8 ← loRaRead Reg.modemConfig2
  loRaWrite Reg.modemConfig2 ((clampSF sf <<< 4).toUInt8 ||| (read &&& 0x0F))
  loRaSetAutoLDO m

/-- `LoRa_setBandWidth`. -/
def loRaSetBandWidth (m : ModemSettings) (bw : UInt32) : Driver Unit := do
  let data : UInt8 ← loRaRead Reg.modemConfig1
  loRaWrite Reg.modemConfig1 ((data &&& (0x0F : UInt8)) ||| (bw <<< 4).toUInt8)
  loRaSetAutoLDO m

/-- `LoRa_setCodingRate`. -/
def loRaSetCodingRate (cdRate : UInt32) : Driver Unit := do
  let data : UInt8 ← loRaRead Reg.modemConfig1
  loRaWrite Reg.modemConfig1 ((data &&& (0xF1 : UInt8)) ||| (cdRate <<< 1).toUInt8)

/-! ## §3. The `ioctl`s. -/

/-- `BAND_WIDTH`, `CODING_RATE` and `SPREADING_FACTOR`, with the value that the user
passes. -/
inductive ModemIoctl where
  | bandWidth (bw : UInt32)
  | codingRate (cdRate : UInt32)
  | spreadingFactor (sf : UInt32)
  deriving DecidableEq

/-- `copy_from_user` into the field. -/
def ModemIoctl.store (m : ModemSettings) : ModemIoctl → ModemSettings
  | .bandWidth bw => { m with bandWidth := bw }
  | .codingRate cdRate => { m with codingRate := cdRate }
  | .spreadingFactor sf => { m with spreadingFactor := sf }

/-- The case of `sx1278_ioctl`, after the field is stored; `m` are the fields. -/
def ModemIoctl.program (m : ModemSettings) : ModemIoctl → Driver Unit
  | .bandWidth bw => loRaSetBandWidth m bw
  | .codingRate cdRate => loRaSetCodingRate cdRate
  | .spreadingFactor sf => loRaSetSpreadingFactor m sf

/-- The case `GOTO_MODE`: the value is in `current_mode` before it is looked at. -/
def gotoModeIoctl (mode : UInt32) : Driver Unit := do
  perform (.setMode mode)
  loRaGotoMode mode

/-! ## §4. `LoRa_init`. -/

/-- `LoRa_isValid`. -/
def loRaIsValid : Driver LoRaStatus := do
  let read : UInt8 ← loRaRead Reg.version
  pure (if read = 0x12 then .ok else .notFound)

/-- The registers that `LoRa_init` sets, from the sleep mode on. -/
def loRaConfigure (m : ModemSettings) : Driver Unit := do
  loRaGotoMode Mode.sleep
  -- turn on LoRa mode
  let read : UInt8 ← loRaRead Reg.opMode
  loRaWrite Reg.opMode (read ||| 0x80)
  loRaSetFrequency m.frequency
  loRaSetPower m.power
  loRaSetOCP m.overCurrentProtection
  loRaWrite Reg.lna 0x23
  loRaSetTOMsbSetCRCon
  loRaSetSpreadingFactor m m.spreadingFactor
  loRaWrite Reg.symbTimeoutL 0xFF
  -- bandwidth, coding rate and explicit mode
  let data : UInt8 ← loRaRead Reg.modemConfig1
  loRaWrite Reg.modemConfig1
    ((data &&& (0x01 : UInt8)) ||| ((m.bandWidth <<< 4) ||| (m.codingRate <<< 1)).toUInt8)
  loRaSetAutoLDO m
  loRaWrite Reg.preambleMsb (m.preamble >>> 8).toUInt8
  loRaWrite Reg.preambleLsb m.preamble.toUInt8
  let read : UInt8 ← loRaRead Reg.dioMapping1
  loRaWrite Reg.dioMapping1 (read ||| 0x3F)
  loRaGotoMode Mode.standby

/-- `LoRa_init` of the driver, from `request_irq` on; the pulse on the reset line is no transfer. -/
def sx1278LoRaInit (irq : Bool) (m : ModemSettings) : Driver LoRaStatus :=
  if irq then do
    let valid ← loRaIsValid
    if valid = .ok then
      loRaConfigure m
      let read : UInt8 ← loRaRead Reg.version
      pure (if read = 0x12 then .ok else .notFound)
    else loRaIsValid
  else pure .noIrq

end LoRaGateway
