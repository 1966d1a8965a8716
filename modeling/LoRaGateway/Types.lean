/-
  LoRaGateway.Types — the data of `Inc/gateway.h` and `Inc/oled.h`.

  Integers keep the width the header gives them.  A C `float` is its 32-bit
  pattern: the gateway stores, copies and prints readings, it never computes
  with them.  An `int` that `%d` prints is an `Int32`; an id is a `uint32_t`
  that `%d` prints through the same conversion.
-/
import LoRaGateway.Lib.CBuffer
import LoRaGateway.Lib.Tokens

namespace LoRaGateway

open LoRaGateway.Lib

/-! ## §1. Constants. -/

/-- `BASE_DATA`: the bytes of a packet before its data. -/
def baseData : Nat := 10

/-- `PACKET_SIZE`. -/
def packetSize : Nat := 60

/-- `GATEWAY_ID`. -/
def gatewayId : UInt32 := 20021163

/-- `SCAN_DURATION`: the inner iterations of one round, plus one. -/
def scanDuration : Nat := 60000

/-! The request codes, which also tag the texts sent to the client. -/

namespace Code

/-- `ADD_DEVICE`: a node is to be registered. -/
def addDevice : UInt8 := 0
/-- `DATA_AVAILABLE`: a node has answered. -/
def dataAvailable : UInt8 := 1
/-- `GOT_SOCK`: a client has connected. -/
def gotSock : UInt8 := 2
/-- `CTL_SOCK`: the client has gone. -/
def ctlSock : UInt8 := 3
/-- `REMOVE_DEVICE`: a node is to be removed. -/
def removeDevice : UInt8 := 4
/-- `DISCONNECTED`: a node has not answered. -/
def disconnected : UInt8 := 5
/-- `MODE_MANUAL`: a node gets a schedule. -/
def modeManual : UInt8 := 6
/-- `MODE_AUTO`: a node goes back to its sensor. -/
def modeAuto : UInt8 := 7

/-- Packet types; they share the numbers `2` and `3` with two request codes. -/
def requestData : UInt8 := 2
/-- The answer of a node. -/
def responseData : UInt8 := 3

end Code

/-- `NOT_DONE`. -/
def notDone : UInt8 := 0

/-- `HANDLED`. -/
def handled : UInt8 := 1

/-! ## §2. Records. -/

/-- `struct time_set`, in the order of the header. -/
structure TimeSet where
  hStart0 : Int32
  hStop0 : Int32
  mStart0 : Int32
  mStop0 : Int32
  hStart50 : Int32
  hStop50 : Int32
  mStart50 : Int32
  mStop50 : Int32
  hStart75 : Int32
  hStop75 : Int32
  mStart75 : Int32
  mStop75 : Int32
  hStart100 : Int32
  hStop100 : Int32
  mStart100 : Int32
  mStop100 : Int32
  deriving DecidableEq

/-- All fields zero, as `calloc` and a fresh shared memory object give them. -/
def TimeSet.zero : TimeSet := ⟨0, 0, 0, 0, 0, 0, 0, 0, 0, 0, 0, 0, 0, 0, 0, 0⟩

/-- `struct LoRa_node`. -/
structure LoRaNode where
  currentMode : UInt32
  id : UInt32
  lightSensorValue : UInt32
  illuminance : UInt32
  voltage : UInt32
  current : UInt32
  workingTime : TimeSet
  deriving DecidableEq

/-- `struct handling`: the node of this round and whether it answered. -/
structure Handling where
  idHandling : UInt32
  status : UInt8
  deriving DecidableEq

/-- `struct LoRa_packet`. -/
structure LoRaPacket where
  uid : UInt32
  destinationId : UInt32
  pktType : UInt8
  dataLength : UInt8
  data : Buffer (packetSize - baseData)
  deriving DecidableEq

/-- `struct device_command`, the memory that parent and child share.  The text
in `data_to_send` is kept without the zeros that `memset` leaves after it. -/
structure DeviceCommand where
  request : UInt8
  ack : UInt8
  dataToSend : List UInt8
  idToHandler : UInt32
  userSet : TimeSet
  deriving DecidableEq

/-- `struct node_info`, what the OLED driver is given (`mode`: 0 auto, 1 manual). -/
structure NodeInfo where
  id : UInt32
  mode : UInt32
  nodeCount : UInt32
  illuminance : UInt8
  deriving DecidableEq

/-- The part of `struct tm` that the gateway prints, with the ranges `localtime`
keeps (a leap second makes `tm_sec` reach 60). -/
structure Tm where
  hour : Fin 24
  min : Fin 60
  sec : Fin 61
  deriving DecidableEq

/-! ## §3. Texts. -/

/-- `%d` applied to an unsigned field. -/
def printId (id : UInt32) : List UInt8 := decimal id.toInt32.toInt

/-- `"%d %d"` with a request code and an id. -/
def codeText (code : UInt8) (id : UInt32) : List UInt8 :=
  decimal code.toNat ++ 32 :: printId id

/-- `"%d %d %d"` with the time of day. -/
def timeText (tm : Tm) : List UInt8 :=
  decimal tm.hour.val ++ 32 :: decimal tm.min.val ++ 32 :: decimal tm.sec.val

/-- An id prints as a token: not empty, and without a space. -/
theorem printId_token (id : UInt32) : printId id ≠ [] ∧ (32 : UInt8) ∉ printId id :=
  ⟨decimal_ne_nil _, space_not_mem_decimal _⟩

theorem tokens_codeText (code : UInt8) (id : UInt32) :
    tokens 32 (codeText code id) = [decimal code.toNat, printId id] := by
  obtain ⟨hne, hsp⟩ := printId_token id
  unfold codeText
  rw [tokens_append (decimal_ne_nil _) (space_not_mem_decimal _), tokens_single hne hsp]

/-- **`atoi` gives back the id that `%d` printed**, the top half of the range
through a negative number included. -/
theorem atoi_printId (id : UInt32) : (atoi (printId id)).toUInt32 = id := by
  unfold printId
  rw [atoi_decimal]
  exact UInt32.toUInt32_toInt32 id

end LoRaGateway
