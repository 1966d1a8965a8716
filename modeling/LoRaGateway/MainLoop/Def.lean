/-
  LoRaGateway.MainLoop.Def
  ────────────────────────
  **THE PARENT PROCESS OF `main.c`** as a machine of small steps: the endless
  loop with its polls, the wait loop, the handling of a response and of a request
  of the client, and the eight places that post a text and wait for its
  acknowledgement.

  One step is the code between two points at which a signal, a packet or the
  other process can make a difference.  The parent's own steps are `mainStep`;
  what happens to it from outside is the rest of `step`: a packet at the radio,
  a write of the child to the shared memory, the child's SIGUSR2.

  `sscanf` and the printing of `%f` are left to the C library (`Libc`).  A step
  has no result where C leaves the behaviour undefined.
-/
import LoRaGateway.Registry.Def
import LoRaGateway.Driver.Transmit
import LoRaGateway.Driver.Receive

namespace LoRaGateway

open LoRaGateway.Lib

/-! ## §1. What the parent is given. -/

/-- The five values of a response: two of them are floats. -/
structure Reading where
  light : UInt32
  ill : UInt32
  vol : UInt32
  curr : UInt32
  mode : UInt32
  deriving DecidableEq

/-- `sscanf(text, "%d %d %f %f %d", …)` when it converts all five values, and `%f`. -/
structure Libc where
  sscanf : List UInt8 → Option Reading
  printF : UInt32 → List UInt8

/-- What the kernel answers in one step: the time of day, whether the radio's
device opens, and what the registry's calls find. -/
structure Io where
  tm : Tm
  opens : Bool
  host : Host

/-! ## §2. The state. -/

/-- The places that post a text for the client and wait. -/
inductive Post where
  | addFailed
  | added
  | removeFailed
  | removed
  | nodeList (k : Nat)
  | nodeData (k : Nat)
  | dataAvailable (uid : UInt32) (data : List UInt8)
  | disconnected
  deriving DecidableEq

/-- The steps of such a place: the text, `ack = 0`, SIGUSR2, and the wait loop. -/
inductive Stage where
  | fill
  | clearAck
  | signal
  | wait
  deriving DecidableEq

/-- The two orders that the client can give to a node. -/
inductive ModeKind where
  | manual
  | auto
  deriving DecidableEq

/-- Where the parent is. -/
inductive Pc where
  /-- the top of `while (1)` -/
  | outer
  /-- after the poll is sent, before `i` moves on -/
  | polled
  /-- `while (--timeout)` and the test of `raspi.status` -/
  | head
  /-- `if (rx_sig)` -/
  | rxTest
  /-- `get_data_from_node` from `block_sigusr1()` on -/
  | rxBlocked
  | rxRecv
  | rxHandle (buff : Buffer packetSize)
  /-- the search for the sender never ends -/
  | rxSearch
  | rxStatus (uid : UInt32)
  | rxUnblock
  | rxClear
  /-- `if (socket_flag)` and the `switch` -/
  | sock
  | addDev
  | removeDev
  | scanList (k : Nat)
  | scanData (k : Nat)
  | modeLoop (kind : ModeKind) (tmp : Nat)
  /-- `socket_flag = 0` -/
  | clear
  /-- after the wait loop -/
  | tail
  | post (p : Post) (stage : Stage)
  deriving DecidableEq

/-- The parent process, the memory it shares, and the driver it uses. -/
structure Gateway where
  reg : Registry
  i : Nat
  timeout : Nat
  raspi : Handling
  sockStatus : UInt8
  rxSig : Bool
  socketFlag : Bool
  usr1Blocked : Bool
  usr1Pending : Bool
  childUsr2 : Bool
  share : DeviceCommand
  dev : LoRaDev
  screen : Option NodeInfo
  pc : Pc
  deriving DecidableEq

namespace Gateway

/-- `node_count`. -/
def nodeCount (s : Gateway) : Nat := s.reg.nodeCount

/-- `timeout = SCAN_DURATION` and back to the top. -/
def endRound (s : Gateway) : Gateway := { s with timeout := scanDuration, pc := .outer }

/-! ## §3. The poll. -/

/-- The polling branch, up to and including `lora_transmit`. -/
def poll (io : Io) (s : Gateway) : Option Gateway := do
  let node ← s.reg.newLoRa[s.i]?
  let tx ← (MainPacket.requestData io.tm).format node.id
  let dev ← s.dev.transmit io.opens tx
  some { s with raspi := ⟨node.id, notDone⟩, dev := dev, pc := .polled }

/-- `i = (i == node_count - 1) ? 0 : (i + 1)`. -/
def nextIndex (i nodeCount : Nat) : Nat := if i = nodeCount - 1 then 0 else i + 1

/-- `while (--timeout) { if (raspi.status == HANDLED) break; …`; `timeout` is not
zero here, since every round starts from `SCAN_DURATION`. -/
def headStep (s : Gateway) : Gateway :=
  let timeout := s.timeout - 1
  if timeout = 0 ∨ s.raspi.status = handled then { s with timeout := timeout, pc := .tail }
  else { s with timeout := timeout, pc := .rxTest }

/-! ## §4. Receiving. -/

/-- The record with the values of a response. -/
def stored (r : Reading) (node : LoRaNode) : LoRaNode :=
  { node with
    lightSensorValue := r.light
    illuminance := r.ill
    voltage := r.vol
    current := r.curr
    currentMode := r.mode }

/-- What `put_data_to_screen` is given. -/
def nodeInfo (node : LoRaNode) (nodeCount : Nat) : NodeInfo :=
  ⟨node.id, if node.currentMode = Code.modeManual.toUInt32 then 1 else 0,
    UInt32.ofNat nodeCount, node.illuminance.toUInt8⟩

/-- `handler_rx_data`, up to the place that posts.  Its index is a `uint8_t`: it
passes the records 0 to 255, and with more records than that it starts again, for
ever if the sender is not among them. -/
def handlerRxData (libc : Libc) (buff : Buffer packetSize) (s : Gateway) : Option Gateway :=
  if buff.bytes.getD 0 0 ≠ Code.responseData then some { s with pc := .rxUnblock }
  else do
    let foo ← unpack buff
    -- not for this gateway
    if foo.destinationId ≠ gatewayId then some { s with pc := .rxUnblock }
    else
      match findLoop (fun n => decide (n.id = foo.uid)) s.reg.newLoRa (min s.nodeCount 256) 0 with
      | none => some { s with pc := if s.nodeCount < 256 then .rxUnblock else .rxSearch }
      | some k => do
          let length ← strlen foo.data.bytes
          let text := foo.data.bytes.take length
          -- fewer than five values: nothing is stored
          match libc.sscanf text with
          | none => some { s with pc := .rxUnblock }
          | some r => do
              let node ← s.reg.newLoRa[k]?
              let node := stored r node
              some { s with
                reg := { s.reg with newLoRa := s.reg.newLoRa.set k node }
                screen := some (nodeInfo node s.nodeCount)
                pc := if s.sockStatus ≠ 0 then .post (.dataAvailable foo.uid text) .fill
                  else .rxStatus foo.uid }

/-- `unblock_sigusr1`: a SIGUSR1 that waited is handled now. -/
def unblock (s : Gateway) : Gateway :=
  { s with
    usr1Blocked := false
    usr1Pending := false
    rxSig := s.rxSig || s.usr1Pending
    pc := .rxClear }

/-! ## §5. Requests. -/

/-- The `switch` on `share_device->request`. -/
def dispatch (s : Gateway) : Gateway :=
  let request := s.share.request
  if request = Code.addDevice then { s with pc := .addDev }
  else if request = Code.removeDevice then { s with pc := .removeDev }
  else if request = Code.gotSock then { s with pc := .scanList 0 }
  else if request = Code.ctlSock then { s with sockStatus := 0, pc := .clear }
  else if request = Code.modeManual then { s with pc := .modeLoop .manual 0 }
  else if request = Code.modeAuto then { s with pc := .modeLoop .auto 0 }
  else { s with pc := .clear }

/-- `case ADD_DEVICE:` up to the text for the client. -/
def addStep (io : Io) (s : Gateway) : Gateway :=
  let out := addDevice io.host s.share.idToHandler s.reg
  { s with reg := out.2, pc := .post (if out.1 < 0 then .addFailed else .added) .fill }

/-- `case REMOVE_DEVICE:` up to the text for the client. -/
def removeStep (io : Io) (s : Gateway) : Gateway :=
  let out := removeDevice io.host s.share.idToHandler s.reg
  { s with reg := out.2, pc := .post (if out.1 < 0 then .removeFailed else .removed) .fill }

/-- `scan_node_list`, then `scand_node_data`, then `sock_status = 1`. -/
def scanListStep (k : Nat) (s : Gateway) : Gateway :=
  if k < s.nodeCount then { s with pc := .post (.nodeList k) .clearAck }
  else { s with pc := .scanData 0 }

/-- One record of `scand_node_data`, or its end. -/
def scanDataStep (k : Nat) (s : Gateway) : Gateway :=
  if k < s.nodeCount then { s with pc := .post (.nodeData k) .fill }
  else { s with sockStatus := 1, pc := .clear }

/-- The packet of an order, and the record of the node that gets it. -/
def modePacket (io : Io) (s : Gateway) (node : LoRaNode) : ModeKind → MainPacket × LoRaNode
  | .manual => (.modeManual (manualText s.share.userSet),
      { node with workingTime := s.share.userSet })
  | .auto => (.modeAuto io.tm, node)

/-- One round of the loops of `MODE_MANUAL` and `MODE_AUTO`. -/
def modeStep (io : Io) (kind : ModeKind) (tmp : Nat) (s : Gateway) : Option Gateway :=
  if tmp < s.nodeCount then do
    let node ← s.reg.newLoRa[tmp]?
    if s.share.idToHandler = node.id then do
      let out := modePacket io s node kind
      let tx ← out.1.format node.id
      let dev ← s.dev.transmit io.opens tx
      -- the first node with the id ends the loop
      some { s with
        reg := { s.reg with newLoRa := s.reg.newLoRa.set tmp out.2 }, dev := dev, pc := .clear }
    else some { s with pc := .modeLoop kind (tmp + 1) }
  else some { s with pc := .clear }

/-! ## §6. Posting a text. -/

/-- `"%d %d %d %d %f %f %d"` with the data of a record. -/
def nodeDataText (libc : Libc) (node : LoRaNode) : List UInt8 :=
  spaced [decimal Code.dataAvailable.toNat, printId node.id, printId node.lightSensorValue,
    printId node.illuminance, libc.printF node.voltage, libc.printF node.current,
    printId node.currentMode]

/-- `"Failed"`. -/
def failedText : List UInt8 := [70, 97, 105, 108, 101, 100]

/-- The text that a place writes to `data_to_send`. -/
def text (libc : Libc) (s : Gateway) : Post → Option (List UInt8)
  | .addFailed => some failedText
  | .added => some (codeText Code.addDevice s.share.idToHandler)
  | .removeFailed => some failedText
  | .removed => some (codeText Code.removeDevice s.share.idToHandler)
  | .nodeList k => (s.reg.newLoRa[k]?).map (fun n => codeText Code.addDevice n.id)
  | .nodeData k => (s.reg.newLoRa[k]?).map (nodeDataText libc)
  | .dataAvailable uid data => some (codeText Code.dataAvailable uid ++ 32 :: data)
  | .disconnected => some (codeText Code.disconnected s.raspi.idHandling)

/-- Where the parent goes on after the wait. -/
def afterPost (s : Gateway) : Post → Gateway
  | .nodeList k => { s with pc := .scanList (k + 1) }
  | .nodeData k => { s with pc := .scanData (k + 1) }
  | .dataAvailable uid _ => { s with pc := .rxStatus uid }
  | .disconnected => s.endRound
  | _ => { s with pc := .clear }

/-- One step of a place that posts; `scan_node_list` clears `ack` before it
writes the text, the others after. -/
def postStep (libc : Libc) (p : Post) (stage : Stage) (s : Gateway) : Option Gateway :=
  match stage with
  | .fill => do
      let text ← s.text libc p
      some { s with
        share := { s.share with dataToSend := text }
        pc := .post p (match p with | .nodeList _ => .signal | _ => .clearAck) }
  | .clearAck =>
      some { s with
        share := { s.share with ack := 0 }
        pc := .post p (match p with | .nodeList _ => .fill | _ => .signal) }
  | .signal => some { s with childUsr2 := true, pc := .post p .wait }
  | .wait => if s.share.ack = 0 then some s else some (s.afterPost p)

/-! ## §7. A step of the parent. -/

/-- One step of the parent. -/
def mainStep (libc : Libc) (io : Io) (s : Gateway) : Option Gateway :=
  match s.pc with
  | .outer => if s.nodeCount > 0 then s.poll io else some { s with pc := .head }
  | .polled => some { s with i := nextIndex s.i s.nodeCount, pc := .head }
  | .head => some s.headStep
  | .rxTest =>
      if s.rxSig then some { s with usr1Blocked := true, pc := .rxBlocked }
      else some { s with pc := .sock }
  | .rxBlocked =>
      -- returns without unblocking, but the loop has just tested the status
      if s.raspi.status = handled then some { s with rxSig := false, pc := .sock }
      else some { s with pc := .rxRecv }
  | .rxRecv => do
      let out ← loraReceive s.dev io.opens (Buffer.zero packetSize)
      some { s with pc := .rxHandle out.2 }
  | .rxHandle buff => s.handlerRxData libc buff
  -- `uint8_t i` never reaches a `node_count` above 255
  | .rxSearch => some s
  | .rxStatus uid =>
      some { s with
        raspi := if uid = s.raspi.idHandling then { s.raspi with status := handled } else s.raspi
        pc := .rxUnblock }
  | .rxUnblock => some s.unblock
  | .rxClear => some { s with rxSig := false, pc := .sock }
  | .sock => if s.socketFlag then some s.dispatch else some { s with pc := .head }
  | .addDev => some (s.addStep io)
  | .removeDev => some (s.removeStep io)
  | .scanList k => some (s.scanListStep k)
  | .scanData k => some (s.scanDataStep k)
  | .modeLoop kind tmp => s.modeStep io kind tmp
  | .clear => some { s with socketFlag := false, pc := .head }
  | .tail =>
      -- the node has not answered, and there is a client to be told
      if s.raspi.status ≠ handled ∧ s.sockStatus ≠ 0 ∧ s.nodeCount > 0 then
        some { s with pc := .post .disconnected .fill }
      else some s.endRound
  | .post p stage => s.postStep libc p stage

/-! ## §8. What happens to the parent. -/

/-- SIGUSR1 from the driver: the handler runs, or the signal waits. -/
def raiseUsr1 (s : Gateway) : Gateway :=
  if s.usr1Blocked then { s with usr1Pending := true } else { s with rxSig := true }

/-- The radio receives a packet. -/
def packetStep (p : List UInt8) (s : Gateway) : Option Gateway := do
  let (dev, signalled) ← s.dev.hear p
  let s := { s with dev := dev }
  some (if signalled then s.raiseUsr1 else s)

end Gateway

/-- A step of the parent, or an event outside it. -/
inductive Action where
  | main (io : Io)
  | packet (p : List UInt8)
  /-- the child writes the request, its arguments or `ack` -/
  | childWrite (request ack : UInt8) (id : UInt32) (userSet : TimeSet)
  /-- the child's SIGUSR2 arrives -/
  | usr2

/-- The machine. -/
def step (libc : Libc) (s : Gateway) : Action → Option Gateway
  | .main io => s.mainStep libc io
  | .packet p => s.packetStep p
  | .childWrite request ack id userSet =>
      some { s with share := ⟨request, ack, s.share.dataToSend, id, userSet⟩ }
  | .usr2 => some { s with socketFlag := true }

/-- The parent when it enters the endless loop: after `setup_node`, with the
signals installed; `raspi` is not initialised. -/
structure Gateway.Started (s : Gateway) : Prop where
  pc : s.pc = .outer
  i : s.i = 0
  timeout : s.timeout = scanDuration
  sockStatus : s.sockStatus = 0
  usr1Blocked : s.usr1Blocked = false

end LoRaGateway
