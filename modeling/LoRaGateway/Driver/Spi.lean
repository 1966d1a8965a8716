/-
  LoRaGateway.Driver.Spi — register access of `Driver/sx1278.c`.

  The driver reaches the SX1278 chip by SPI transfers: one address byte, with its
  top bit set for a write, and then the data.  A transfer holds the driver's
  mutex, so it is one operation of a `Program`; the fields of `struct LoRa` that
  other code of the driver may touch in between are read and written by
  operations of their own.  Delays are not modelled.
-/
import LoRaGateway.Types
import LoRaGateway.Lib.Program

namespace LoRaGateway

open LoRaGateway.Lib

/-! ## §1. Registers and modes. -/

namespace Reg

/-- `RegFifo`: the bytes of a packet, one after the other. -/
def fifo : UInt8 := 0x00
/-- `RegOpMode`: the mode, and the LoRa-mode bit. -/
def opMode : UInt8 := 0x01
/-- `RegFiFoAddPtr`. -/
def fiFoAddPtr : UInt8 := 0x0D
/-- `RegFiFoTxBaseAddr`. -/
def fiFoTxBaseAddr : UInt8 := 0x0E
/-- `RegFiFoRxCurrentAddr`. -/
def fiFoRxCurrentAddr : UInt8 := 0x10
/-- `RegIrqFlags`; a flag is cleared by a one. -/
def irqFlags : UInt8 := 0x12
/-- `RegRxNbBytes`: the length of the packet that was received. -/
def rxNbBytes : UInt8 := 0x13
/-- `RegPayloadLength`. -/
def payloadLength : UInt8 := 0x22

end Reg

/-! `lora_mode_t`; an `ioctl` can pass any 32-bit value for it. -/

namespace Mode

/-- `SLEEP_MODE`. -/
def sleep : UInt32 := 0
/-- `STANDBY_MODE`. -/
def standby : UInt32 := 1
/-- `TRANSMIT_MODE`. -/
def transmit : UInt32 := 3
/-- `RXCONTINUOUS_MODE`. -/
def rxContinuous : UInt32 := 5
/-- `RXSINGLE_MODE`. -/
def rxSingle : UInt32 := 6
/-- `CAD_MODE`. -/
def cad : UInt32 := 7

/-- The cases of the `switch` in `LoRa_gotoMode`. -/
def handled : List UInt32 := [sleep, standby, transmit, rxContinuous, rxSingle, cad]

end Mode

/-! ## §2. The driver's data. -/

/-- The fields of `struct LoRa` that packets go through; `task` is the process
that registered for the signal. -/
structure LoRaDev where
  receiveBuffer : Buffer packetSize
  transmitBuffer : Buffer packetSize
  cacheBuffer : Buffer packetSize
  task : Option Nat
  deriving DecidableEq

/-! ## §3. Operations of the driver. -/

/-- Why a run of the driver ends early: undefined behaviour (an access outside an
array), or the bound on the rounds of a waiting loop is used up. -/
inductive Stop where
  | undefined
  | unfinished
  deriving DecidableEq

/-- An SPI transfer, an access to `struct LoRa`, or reading a local variable that
was never set. -/
inductive DriverOp where
  | spiWrite (bytes : List UInt8)
  | spiWriteThenRead (address : UInt8)
  | getMode
  | setMode (mode : UInt32)
  | setTransmitBuffer (b : Buffer packetSize)
  | uninitialised

/-- What each operation answers. -/
def DriverOp.Resp : DriverOp → Type
  | .spiWrite _ => Unit
  | .spiWriteThenRead _ => UInt8
  | .getMode => UInt32
  | .setMode _ => Unit
  | .setTransmitBuffer _ => Unit
  | .uninitialised => UInt8

/-- Driver code. -/
abbrev Driver (α : Type) := Program DriverOp DriverOp.Resp Stop α

/-- One operation. -/
def perform (o : DriverOp) : Driver o.Resp := Program.perform o

/-- A step that is undefined when it has no result. -/
def defined {α : Type} (o : Option α) : Driver α := Program.ofOption .undefined o

/-! ## §4. Access functions. -/

/-- `LoRa_Write`. -/
def loRaWrite (address value : UInt8) : Driver Unit :=
  perform (.spiWrite [address ||| 0x80, value])

/-- `LoRa_Read`. -/
def loRaRead (address : UInt8) : Driver UInt8 :=
  perform (.spiWriteThenRead (address &&& 0x7F))

/-- `LoRa_gotoMode`.  For a mode without a case, `data` is written as it was found
on the stack. -/
def loRaGotoMode (mode : UInt32) : Driver Unit := do
  let read ← loRaRead Reg.opMode
  if mode ∈ Mode.handled then
    perform (.setMode mode)
    loRaWrite Reg.opMode ((read &&& 0xF8) ||| mode.toUInt8)
  else
    let data : UInt8 ← perform .uninitialised
    loRaWrite Reg.opMode data

/-- `LoRa_BurstWrite`: both lengths are `strlen`s. -/
def loRaBurstWrite (address : UInt8) (value : Buffer packetSize) : Driver Unit := do
  let length ← defined (strlen value.bytes)
  let toSend ← defined ((Buffer.zero packetSize).store 0 [address ||| 0x80])
  let toSend ← defined (toSend.store 1 (value.bytes.take length))
  let size ← defined (strlen toSend.bytes)
  perform (.spiWrite (toSend.bytes.take size))

end LoRaGateway
