/-
  LoRaGateway.Driver.Transmit
  ───────────────────────────
  **SENDING A PACKET**: from `lora_transmit` in user space through `sx1278_write`
  and `LoRa_transmit` to the radio's FIFO.

  The packet is binary, but its length is taken by `strlen` four times on the
  way.  What reaches the radio is therefore the text of the packet buffer — the
  bytes before its first zero — and the length register agrees with that text:

    • `loraTransmit_shows` — for every buffer, whatever the chip answers,
    • `transmit_faithful_iff` — for the packets of the main loop: the whole packet
      exactly when no byte of the receiver's id is zero.
-/
import LoRaGateway.Packet
import LoRaGateway.Driver.Spi

namespace LoRaGateway

open LoRaGateway.Lib
open LoRaGateway.Lib.Program (shows_ret shows_perform shows_silent shows_bind
  shows_bind_silent shows_bind_last ends_bind)

/-! ## §1. `LoRa_transmit`. -/

/-- `TX_TIME_OUT`. -/
def txTimeOut : UInt16 := 1000

/-- `while (!(LoRa_Read(RegIrqFlags) >> 2 & 1)) msleep(1);` -/
def cadDoneLoop : Nat → Driver Unit
  | 0 => .stop .unfinished
  | fuel + 1 => do
      let read ← loRaRead Reg.irqFlags
      if (read >>> 2) &&& 0x01 = 0 then cadDoneLoop fuel else pure ()

/-- Channel activity detection: scan until a scan detects nothing. -/
def cadLoop : Nat → Driver Unit
  | 0 => .stop .unfinished
  | fuel + 1 => do
      loRaGotoMode Mode.cad
      cadDoneLoop fuel
      let read ← loRaRead Reg.irqFlags
      loRaWrite Reg.irqFlags 0xFF
      -- CadDetected: the channel is busy, scan again
      if read &&& 0x01 ≠ 0 then cadLoop fuel else pure ()

/-- Wait for `TxDone`; `k` rounds are left after this one. -/
def txDoneLoop (mode : UInt32) : Nat → Driver UInt8
  | 0 => do
      let read ← loRaRead Reg.irqFlags
      if read &&& 0x08 ≠ 0 then
        loRaWrite Reg.irqFlags 0xFF
        loRaGotoMode mode
        pure 1
      else
        loRaGotoMode mode
        pure 0
  | k + 1 => do
      let read ← loRaRead Reg.irqFlags
      if read &&& 0x08 ≠ 0 then
        loRaWrite Reg.irqFlags 0xFF
        loRaGotoMode mode
        pure 1
      else
        txDoneLoop mode k

/-- `LoRa_transmit`; the counter is decremented before it is compared with zero. -/
def loRaTransmit (fuel : Nat) (data : Buffer packetSize) (length : UInt8) (timeout : UInt16) :
    Driver UInt8 := do
  -- the mode to go back to at the end
  let mode ← perform .getMode
  loRaGotoMode Mode.standby
  cadLoop fuel
  loRaGotoMode Mode.standby
  let read ← loRaRead Reg.fiFoTxBaseAddr
  loRaWrite Reg.fiFoAddPtr read
  loRaWrite Reg.payloadLength length
  loRaBurstWrite Reg.fifo data
  loRaGotoMode Mode.transmit
  txDoneLoop mode (timeout - 1).toNat

/-- `LoRa_transmit` after the scan; `mode` is the one to go back to. -/
def sendData (data : Buffer packetSize) (length : UInt8) (timeout : UInt16) (mode : UInt32) :
    Driver UInt8 := do
  loRaGotoMode Mode.standby
  let read ← loRaRead Reg.fiFoTxBaseAddr
  loRaWrite Reg.fiFoAddPtr read
  loRaWrite Reg.payloadLength length
  loRaBurstWrite Reg.fifo data
  loRaGotoMode Mode.transmit
  txDoneLoop mode (timeout - 1).toNat

theorem loRaTransmit_eq (fuel : Nat) (data : Buffer packetSize) (length : UInt8)
    (timeout : UInt16) :
    loRaTransmit fuel data length timeout = (do
      let mode ← perform .getMode
      loRaGotoMode Mode.standby
      cadLoop fuel
      sendData data length timeout mode) := rfl

/-- `sx1278_write`, for a readable user buffer. -/
def sx1278Write (fuel : Nat) (userBuff : List UInt8) : Driver Nat := do
  -- `memset` and `copy_from_user`; more than the buffer holds is undefined
  let transmitBuffer ← defined ((Buffer.zero packetSize).store 0 userBuff)
  perform (.setTransmitBuffer transmitBuffer)
  let length ← defined (strlen transmitBuffer.bytes)
  let _ ← loRaTransmit fuel transmitBuffer (UInt8.ofNat length) txTimeOut
  pure userBuff.length

/-- `lora_transmit`. -/
def loraTransmit (fuel : Nat) (opens : Bool) (data : Buffer packetSize) : Driver Int :=
  if opens then do
    let length ← defined (strlen data.bytes)
    -- `write(fd, data, strlen(data))`
    let _ ← sx1278Write fuel (data.bytes.take length)
    pure 0
  else pure (-1)

/-! ## §2. Observers of a transmission. -/

/-- A waiting loop may be cut off; nothing may be undefined. -/
def IsWaiting (e : Stop) : Prop := e = .unfinished

/-- An observer who looks at most at the packet to send: at the stores to
`transmit_buffer`, and at the writes of the FIFO and of `RegPayloadLength`. -/
structure Ignores {γ : Type} (see : DriverOp → List γ) : Prop where
  read : ∀ address, see (.spiWriteThenRead address) = []
  getMode : see .getMode = []
  setMode : ∀ mode, see (.setMode mode) = []
  uninitialised : see .uninitialised = []
  write : ∀ address value, address ≠ Reg.fifo ||| 0x80 → address ≠ Reg.payloadLength ||| 0x80 →
    see (.spiWrite [address, value]) = []

section Silent

variable {γ : Type} {see : DriverOp → List γ}

theorem perform_shows (o : DriverOp) : (perform o).Shows see IsWaiting (see o) :=
  shows_perform o

theorem loRaWrite_shows (address value : UInt8) :
    (loRaWrite address value).Shows see IsWaiting (see (.spiWrite [address ||| 0x80, value])) :=
  shows_perform _

/-- Such an observer sees nothing of the mode changes and the waiting loops. -/
theorem Ignores.loRaRead (h : Ignores see) (address : UInt8) :
    (loRaRead address).Shows see IsWaiting [] := shows_silent (h.read _)

theorem Ignores.loRaWrite (h : Ignores see) {address : UInt8}
    (ha : address ||| 0x80 ≠ Reg.fifo ||| 0x80 ∧ address ||| 0x80 ≠ Reg.payloadLength ||| 0x80)
    (value : UInt8) : (loRaWrite address value).Shows see IsWaiting [] :=
  shows_silent (h.write _ _ ha.1 ha.2)

theorem Ignores.loRaGotoMode (h : Ignores see) (mode : UInt32) :
    (loRaGotoMode mode).Shows see IsWaiting [] := by
  unfold LoRaGateway.loRaGotoMode
  apply shows_bind_silent (h.loRaRead _)
  intro read
  split
  · exact shows_bind_silent (shows_silent (h.setMode _)) (fun _ => h.loRaWrite (by decide) _)
  · exact shows_bind_silent (shows_silent h.uninitialised) (fun _ => h.loRaWrite (by decide) _)

theorem Ignores.cadDoneLoop (h : Ignores see) (fuel : Nat) :
    (cadDoneLoop fuel).Shows see IsWaiting [] := by
  induction fuel with
  | zero => rfl
  | succ fuel ih =>
      unfold LoRaGateway.cadDoneLoop
      apply shows_bind_silent (h.loRaRead _)
      intro read
      split
      · exact ih
      · exact shows_ret ()

theorem Ignores.cadLoop (h : Ignores see) (fuel : Nat) :
    (cadLoop fuel).Shows see IsWaiting [] := by
  induction fuel with
  | zero => rfl
  | succ fuel ih =>
      unfold LoRaGateway.cadLoop
      apply shows_bind_silent (h.loRaGotoMode _)
      intro _
      apply shows_bind_silent (h.cadDoneLoop fuel)
      intro _
      apply shows_bind_silent (h.loRaRead _)
      intro read
      apply shows_bind_silent (h.loRaWrite (by decide) _)
      intro _
      split
      · exact ih
      · exact shows_ret ()

theorem Ignores.txDoneLoop (h : Ignores see) (mode : UInt32) (k : Nat) :
    (txDoneLoop mode k).Shows see IsWaiting [] := by
  -- the branch on `TxDone` is the same in every round
  have hdone : Program.Shows see IsWaiting
      (do LoRaGateway.loRaWrite Reg.irqFlags 0xFF
          LoRaGateway.loRaGotoMode mode
          pure (1 : UInt8)) [] :=
    shows_bind_silent (h.loRaWrite (by decide) _)
      (fun _ => shows_bind_silent (h.loRaGotoMode mode) (fun _ => shows_ret 1))
  induction k with
  | zero =>
      unfold LoRaGateway.txDoneLoop
      apply shows_bind_silent (h.loRaRead _)
      intro read
      split
      · exact hdone
      · exact shows_bind_silent (h.loRaGotoMode mode) (fun _ => shows_ret 0)
  | succ k ih =>
      unfold LoRaGateway.txDoneLoop
      apply shows_bind_silent (h.loRaRead _)
      intro read
      split
      · exact hdone
      · exact ih

/-! ## §3. What a transmission shows. -/

/-- `to_send`: the address byte and the text of the buffer, and zeros after them. -/
theorem loRaBurstWrite_toSend {value : Buffer packetSize} (hz : (0 : UInt8) ∈ value.bytes) :
    ∃ hfit : ((Reg.fifo ||| 0x80) :: cstr value.bytes).length ≤ packetSize,
      loRaBurstWrite Reg.fifo value = (do
        let toSend := Buffer.pad packetSize ((Reg.fifo ||| 0x80) :: cstr value.bytes) hfit
        let size ← defined (strlen toSend.bytes)
        perform (.spiWrite (toSend.bytes.take size))) := by
  have hone : ([Reg.fifo ||| 0x80] : List UInt8).length ≤ packetSize := by decide
  have hfit : ((Reg.fifo ||| 0x80) :: cstr value.bytes).length ≤ packetSize :=
    length_cstr_lt hz
  have hstore : (Buffer.pad packetSize [Reg.fifo ||| 0x80] hone).store 1 (cstr value.bytes)
      = some (Buffer.pad packetSize ((Reg.fifo ||| 0x80) :: cstr value.bytes) hfit) := by
    rw [← Buffer.store_zero hfit]
    exact Buffer.store_store (Buffer.store_zero hone)
  refine ⟨hfit, ?_⟩
  unfold loRaBurstWrite
  rw [strlen_of_mem hz, Buffer.store_zero hone]
  show (defined ((Buffer.pad packetSize [Reg.fifo ||| 0x80] hone).store 1
    (value.bytes.take (cstr value.bytes).length)) >>= _) = _
  rw [take_cstr_length, hstore]
  rfl

/-- The address byte is not zero, so neither is a byte before the end of the text. -/
theorem zero_not_mem_toSend (value : Buffer packetSize) :
    (0 : UInt8) ∉ (Reg.fifo ||| 0x80) :: cstr value.bytes := by
  rw [List.mem_cons, not_or]
  exact ⟨by decide, zero_not_mem_cstr _⟩

/-- The burst is the text of the buffer. -/
theorem loRaBurstWrite_eq {value : Buffer packetSize} (hz : (0 : UInt8) ∈ value.bytes)
    (hlen : (cstr value.bytes).length ≤ 58) :
    loRaBurstWrite Reg.fifo value
      = perform (.spiWrite ((Reg.fifo ||| 0x80) :: cstr value.bytes)) := by
  obtain ⟨hfit, heq⟩ := loRaBurstWrite_toSend hz
  -- `strlen(to_send)` takes in the whole text
  have hstrlen : strlen (Buffer.pad packetSize ((Reg.fifo ||| 0x80) :: cstr value.bytes) hfit).bytes
      = some ((Reg.fifo ||| 0x80) :: cstr value.bytes).length :=
    strlen_pad (by rw [List.length_cons]; show _ < 60; omega) (zero_not_mem_toSend value)
  rw [heq]
  show (defined (strlen (Buffer.pad packetSize _ hfit).bytes) >>= _) = _
  rw [hstrlen]
  show perform (.spiWrite (List.take _ (_ ++ _))) = _
  rw [List.take_left]

/-- A longer text, or none, is undefined. -/
theorem loRaBurstWrite_undefined {value : Buffer packetSize}
    (h : ¬ ((0 : UInt8) ∈ value.bytes ∧ (cstr value.bytes).length ≤ 58)) :
    loRaBurstWrite Reg.fifo value = .stop .undefined := by
  by_cases hz : (0 : UInt8) ∈ value.bytes
  · obtain ⟨hfit, heq⟩ := loRaBurstWrite_toSend hz
    -- the text fills `to_send`, so `strlen(to_send)` runs off its end
    have hfull : packetSize - ((Reg.fifo ||| 0x80) :: cstr value.bytes).length = 0 := by
      have hgt : ¬ (cstr value.bytes).length ≤ 58 := fun hle => h ⟨hz, hle⟩
      rw [List.length_cons]
      show 60 - _ = 0
      omega
    have hnone : strlen (Buffer.pad packetSize ((Reg.fifo ||| 0x80) :: cstr value.bytes) hfit).bytes
        = none := by
      apply strlen_of_not_mem
      show (0 : UInt8) ∉ ((Reg.fifo ||| 0x80) :: cstr value.bytes) ++ List.replicate _ 0
      rw [hfull, List.replicate_zero, List.append_nil]
      exact zero_not_mem_toSend value
    rw [heq]
    show (defined (strlen (Buffer.pad packetSize _ hfit).bytes) >>= _) = _
    rw [hnone]
    rfl
  · unfold loRaBurstWrite
    rw [strlen_of_not_mem hz]
    rfl

theorem loRaBurstWrite_shows {value : Buffer packetSize} (hz : (0 : UInt8) ∈ value.bytes)
    (hlen : (cstr value.bytes).length ≤ 58) :
    (loRaBurstWrite Reg.fifo value).Shows see IsWaiting
      (see (.spiWrite ((Reg.fifo ||| 0x80) :: cstr value.bytes))) := by
  rw [loRaBurstWrite_eq hz hlen]
  exact shows_perform _

theorem loRaTransmit_shows (h : Ignores see) {data : Buffer packetSize}
    (hz : (0 : UInt8) ∈ data.bytes) (hlen : (cstr data.bytes).length ≤ 58) (fuel : Nat)
    (length : UInt8) (timeout : UInt16) :
    (loRaTransmit fuel data length timeout).Shows see IsWaiting
      (see (.spiWrite [Reg.payloadLength ||| 0x80, length])
        ++ see (.spiWrite ((Reg.fifo ||| 0x80) :: cstr data.bytes))) := by
  unfold loRaTransmit
  apply shows_bind_silent (shows_silent h.getMode)
  intro mode
  apply shows_bind_silent (h.loRaGotoMode _)
  intro _
  apply shows_bind_silent (h.cadLoop fuel)
  intro _
  apply shows_bind_silent (h.loRaGotoMode _)
  intro _
  apply shows_bind_silent (h.loRaRead _)
  intro read
  apply shows_bind_silent (h.loRaWrite (by decide) _)
  intro _
  -- from here on the packet itself
  apply shows_bind (loRaWrite_shows _ _)
  intro _
  apply shows_bind_last (loRaBurstWrite_shows hz hlen)
  intro _
  apply shows_bind_silent (h.loRaGotoMode _)
  intro _
  exact h.txDoneLoop mode _

/-- `sx1278_write` of data that fit the buffer, with their text before its end. -/
theorem sx1278Write_shows (h : Ignores see) {userBuff : List UInt8} {b : Buffer packetSize}
    (hb : (Buffer.zero packetSize).store 0 userBuff = some b) (hz : (0 : UInt8) ∈ b.bytes)
    (hlen : (cstr b.bytes).length ≤ 58) (fuel : Nat) :
    (sx1278Write fuel userBuff).Shows see IsWaiting
      (see (.setTransmitBuffer b)
        ++ (see (.spiWrite [Reg.payloadLength ||| 0x80, UInt8.ofNat (cstr b.bytes).length])
          ++ see (.spiWrite ((Reg.fifo ||| 0x80) :: cstr b.bytes)))) := by
  unfold sx1278Write
  rw [hb]
  show Program.Shows _ _ (perform (.setTransmitBuffer b) >>= fun _ =>
    (defined (strlen b.bytes) >>= _)) _
  rw [strlen_of_mem hz]
  apply shows_bind (perform_shows _)
  intro _
  show Program.Shows _ _ (loRaTransmit fuel b (UInt8.ofNat (cstr b.bytes).length) txTimeOut
    >>= _) _
  exact shows_bind_last (loRaTransmit_shows h hz hlen fuel _ _) (fun _ => shows_ret _)

/-- The text of a buffer, stored into the zeroed `transmit_buffer`. -/
def stored (data : Buffer packetSize) (hlen : (cstr data.bytes).length ≤ 58) :
    Buffer packetSize :=
  Buffer.pad packetSize (cstr data.bytes) (Nat.le_trans hlen (by decide))

/-- **What `lora_transmit` does**: it stores the bytes of the buffer before its
first zero, writes their number as the payload length, and then these bytes. -/
theorem loraTransmit_shows (h : Ignores see) {data : Buffer packetSize}
    (hz : (0 : UInt8) ∈ data.bytes) (hlen : (cstr data.bytes).length ≤ 58) (fuel : Nat) :
    (loraTransmit fuel true data).Shows see IsWaiting
      (see (.setTransmitBuffer (stored data hlen))
        ++ (see (.spiWrite [Reg.payloadLength ||| 0x80, UInt8.ofNat (cstr data.bytes).length])
          ++ see (.spiWrite ((Reg.fifo ||| 0x80) :: cstr data.bytes)))) := by
  have hfit : (cstr data.bytes).length < packetSize := by
    show _ < 60
    omega
  -- storing the text once more changes nothing, so the driver works on the same text
  have htext : cstr (stored data hlen).bytes = cstr data.bytes := by
    unfold stored
    rw [cstr_pad, cstr_eq_self (zero_not_mem_cstr data.bytes)]
  have hwrite := sx1278Write_shows h (Buffer.store_zero (Nat.le_of_lt hfit))
    (zero_mem_pad (Nat.le_of_lt hfit) (Or.inr hfit))
    (show (cstr (stored data hlen).bytes).length ≤ 58 by rw [htext]; exact hlen) fuel
  change Program.Shows _ _ _ (_ ++ (see (.spiWrite [_, UInt8.ofNat
    (cstr (stored data hlen).bytes).length]) ++ see (.spiWrite
    ((Reg.fifo ||| 0x80) :: cstr (stored data hlen).bytes)))) at hwrite
  rw [htext] at hwrite
  unfold loraTransmit
  rw [if_pos rfl, strlen_of_mem hz]
  show Program.Shows _ _ (sx1278Write fuel (data.bytes.take (cstr data.bytes).length) >>= _) _
  rw [take_cstr_length]
  exact shows_bind_last hwrite (fun _ => shows_ret 0)

end Silent

/-! ## §4. A chip on which it returns. -/

/-- A chip that finds the channel free, is done at once, and was receiving. -/
def quietChip : (o : DriverOp) → o.Resp
  | .spiWrite _ => ()
  | .spiWriteThenRead _ => (0x0C : UInt8)
  | .getMode => Mode.rxContinuous
  | .setMode _ => ()
  | .setTransmitBuffer _ => ()
  | .uninitialised => (0 : UInt8)

/-- The program returns on that chip, unless something in it is undefined. -/
abbrev Quick {α : Type} (p : Driver α) : Prop := p.Ends quietChip IsWaiting

theorem quick_read {α : Type} {address : UInt8} {f : UInt8 → Driver α} (h : Quick (f 0x0C)) :
    Quick (loRaRead address >>= f) := h

theorem quick_perform (o : DriverOp) : Quick (perform o) := trivial

theorem quick_loRaWrite (address value : UInt8) : Quick (loRaWrite address value) := trivial

theorem quick_defined {α : Type} (o : Option α) : Quick (defined o) := by
  cases o with
  | none => exact fun h => nomatch h
  | some a => trivial

theorem quick_loRaGotoMode (mode : UInt32) : Quick (loRaGotoMode mode) := by
  unfold loRaGotoMode
  apply quick_read
  split <;> trivial

theorem quick_cadLoop : Quick (cadLoop 2) := by
  unfold cadLoop
  apply ends_bind (quick_loRaGotoMode _)
  intro _
  apply ends_bind (show Quick (cadDoneLoop 1) from trivial)
  intro _
  apply quick_read
  trivial

theorem quick_txDoneLoop (mode : UInt32) (k : Nat) : Quick (txDoneLoop mode k) := by
  have hdone : Quick (do loRaWrite Reg.irqFlags 0xFF; loRaGotoMode mode; pure (1 : UInt8)) :=
    ends_bind (quick_loRaWrite _ _)
      (fun _ => ends_bind (quick_loRaGotoMode mode) (fun _ => trivial))
  cases k with
  | zero => exact hdone
  | succ k => exact hdone

theorem quick_loRaBurstWrite (address : UInt8) (value : Buffer packetSize) :
    Quick (loRaBurstWrite address value) := by
  unfold loRaBurstWrite
  apply ends_bind (quick_defined _)
  intro _
  apply ends_bind (quick_defined _)
  intro _
  apply ends_bind (quick_defined _)
  intro _
  apply ends_bind (quick_defined _)
  intro _
  trivial

theorem quick_loRaTransmit (data : Buffer packetSize) (length : UInt8) (timeout : UInt16) :
    Quick (loRaTransmit 2 data length timeout) := by
  unfold loRaTransmit
  apply ends_bind (quick_perform _)
  intro mode
  apply ends_bind (quick_loRaGotoMode _)
  intro _
  apply ends_bind quick_cadLoop
  intro _
  apply ends_bind (quick_loRaGotoMode _)
  intro _
  apply quick_read
  apply ends_bind (quick_loRaWrite _ _)
  intro _
  apply ends_bind (quick_loRaWrite _ _)
  intro _
  apply ends_bind (quick_loRaBurstWrite _ _)
  intro _
  apply ends_bind (quick_loRaGotoMode _)
  intro _
  exact quick_txDoneLoop mode _

/-- On the quiet chip a write comes to its end, or something in it is undefined. -/
theorem quick_sx1278Write (data : List UInt8) : Quick (sx1278Write 2 data) := by
  unfold sx1278Write
  apply ends_bind (quick_defined _)
  intro transmitBuffer
  apply ends_bind (quick_perform _)
  intro _
  apply ends_bind (quick_defined _)
  intro length
  exact ends_bind (quick_loRaTransmit _ _ _) (fun _ => trivial)

theorem quick_loraTransmit (data : Buffer packetSize) : Quick (loraTransmit 2 true data) := by
  unfold loraTransmit
  rw [if_pos rfl]
  apply ends_bind (quick_defined _)
  intro length
  exact ends_bind (quick_sx1278Write _) (fun _ => trivial)

/-! ## §5. What the radio is told to send. -/

/-- A value for `RegPayloadLength`, or bytes for the FIFO. -/
inductive TxEvent where
  | payloadLength (v : UInt8)
  | fifo (bytes : List UInt8)
  deriving DecidableEq

/-- The part of an SPI transfer that concerns the packet to send. -/
def txEvents : DriverOp → List TxEvent
  | .spiWrite (address :: bytes) =>
      if address = Reg.fifo ||| 0x80 then [.fifo bytes]
      else if address = Reg.payloadLength ||| 0x80 then bytes.map .payloadLength
      else []
  | _ => []

theorem ignores_txEvents : Ignores txEvents where
  read _ := rfl
  getMode := rfl
  setMode _ := rfl
  uninitialised := rfl
  write address value h h' := by
    show (if _ then _ else if _ then _ else _) = _
    rw [if_neg h, if_neg h']

/-- The buffers that the driver stores in `transmit_buffer`. -/
def bufferStores : DriverOp → List (Buffer packetSize)
  | .setTransmitBuffer b => [b]
  | _ => []

theorem ignores_bufferStores : Ignores bufferStores :=
  ⟨fun _ => rfl, rfl, fun _ => rfl, rfl, fun _ _ _ _ => rfl⟩

/-- `transmit_buffer` after `lora_transmit`, for a packet that fits `to_send`. -/
def LoRaDev.transmit (d : LoRaDev) (opens : Bool) (data : Buffer packetSize) : Option LoRaDev :=
  if opens then
    if h : (0 : UInt8) ∈ data.bytes ∧ (cstr data.bytes).length ≤ 58 then
      some { d with transmitBuffer := stored data h.2 }
    else none
  else some d

/-- That is the one store which every run of `lora_transmit` makes. -/
theorem LoRaDev.transmit_shows {d d' : LoRaDev} {opens : Bool} {data : Buffer packetSize}
    (h : d.transmit opens data = some d') (fuel : Nat) :
    (loraTransmit fuel opens data).Shows bufferStores IsWaiting
      (if opens then [d'.transmitBuffer] else []) := by
  unfold LoRaDev.transmit at h
  cases opens with
  | false => exact shows_ret (-1)
  | true =>
      rw [if_pos rfl] at h ⊢
      split at h
      next hd =>
          rw [← Option.some.inj h]
          exact loraTransmit_shows ignores_bufferStores hd.1 hd.2 fuel
      next => exact absurd h (by simp)

/-! ## §6. When the whole packet is sent. -/

/-- Every run of `lora_transmit` on this buffer puts exactly `payload` into the
FIFO and its length into `RegPayloadLength`, or a first part of this as long as
it has not returned; nothing in it is undefined. -/
def Sends (data : Buffer packetSize) (payload : List UInt8) : Prop :=
  ∀ (fuel : Nat) (t : List (Sigma DriverOp.Resp)) (out : Program.Outcome Stop Int),
    Program.Trace (loraTransmit fuel true data) t out →
      Program.seen txEvents t <+: [.payloadLength (UInt8.ofNat payload.length), .fifo payload]
        ∧ (∀ r, out = .returned r → Program.seen txEvents t
            = [.payloadLength (UInt8.ofNat payload.length), .fifo payload])
        ∧ out ≠ .stopped .undefined

theorem sends_cstr {data : Buffer packetSize} (hz : (0 : UInt8) ∈ data.bytes)
    (hlen : (cstr data.bytes).length ≤ 58) : Sends data (cstr data.bytes) := by
  intro fuel t out ht
  obtain ⟨hpre, hret, hstop⟩ := (loraTransmit_shows ignores_txEvents hz hlen fuel).sound ht
  exact ⟨hpre, hret, fun h => nomatch hstop _ h⟩

/-- Since one run returns, only one payload can be the one that is sent. -/
theorem sends_iff {data : Buffer packetSize} (hz : (0 : UInt8) ∈ data.bytes)
    (hlen : (cstr data.bytes).length ≤ 58) (payload : List UInt8) :
    Sends data payload ↔ payload = cstr data.bytes := by
  constructor
  · intro h
    obtain ⟨t, r, ht⟩ := (loraTransmit_shows ignores_txEvents hz hlen 2).returns (quick_loraTransmit data)
    -- on the quiet chip the run returns, and it has sent the text and the payload
    have hthis := (h 2 t _ ht).2.1 r rfl
    have htext := (sends_cstr hz hlen 2 t _ ht).2.1 r rfl
    rw [hthis] at htext
    simp only [List.cons.injEq, TxEvent.fifo.injEq, and_true] at htext
    exact htext.2
  · rintro rfl
    exact sends_cstr hz hlen

/-- A packet that the main loop sends: a schedule has a text of 1 to 47 characters. -/
def MainPacket.Sendable : MainPacket → Prop
  | .requestData _ => True
  | .modeAuto _ => True
  | .modeManual text => 1 ≤ text.length ∧ text.length ≤ 47 ∧ (0 : UInt8) ∉ text

theorem MainPacket.text_of_sendable {p : MainPacket} (h : p.Sendable) :
    1 ≤ p.text.length ∧ p.text.length ≤ 47 ∧ (0 : UInt8) ∉ p.text := by
  cases p with
  | requestData tm =>
      have := length_timeText tm
      exact ⟨by show 1 ≤ (timeText tm).length; omega, by show (timeText tm).length ≤ 47; omega,
        zero_not_mem_timeText tm⟩
  | modeAuto tm =>
      have := length_timeText tm
      exact ⟨by show 1 ≤ (timeText tm).length; omega, by show (timeText tm).length ≤ 47; omega,
        zero_not_mem_timeText tm⟩
  | modeManual text => exact h

theorem MainPacket.pktType_ne_zero (p : MainPacket) : p.pktType ≠ 0 := by
  cases p with
  | requestData _ => exact (by decide : Code.requestData ≠ 0)
  | modeAuto _ => exact (by decide : Code.modeAuto ≠ 0)
  | modeManual _ => exact (by decide : Code.modeManual ≠ 0)

/-- What should go on air: the first `BASE_DATA + data_length` bytes of the
formatted packet. -/
def TransmitsPacket (p : MainPacket) (id : UInt32) : Prop :=
  ∃ pkt buff, p.build id = some pkt ∧ formatPkt pkt = some buff
    ∧ Sends buff (buff.bytes.take (baseData + pkt.dataLength.toNat))

/-- The formatted packet: the frame, which is what should be sent, and zeros. -/
theorem MainPacket.format_spec {p : MainPacket} (h : p.Sendable) (id : UInt32) :
    ∃ pkt buff, p.build id = some pkt ∧ formatPkt pkt = some buff
      ∧ buff.bytes.take (baseData + pkt.dataLength.toNat) = frame p.pktType id p.text
      ∧ cstr buff.bytes = cstr (frame p.pktType id p.text)
      ∧ (0 : UInt8) ∈ buff.bytes := by
  obtain ⟨-, hlen, hz⟩ := text_of_sendable h
  obtain ⟨pkt, buff, hbuild, hdlen, hformat, hbytes⟩ : ∃ pkt b, p.build id = some pkt
      ∧ pkt.dataLength = UInt8.ofNat p.text.length ∧ formatPkt pkt = some b
      ∧ b.bytes = frame p.pktType id p.text ++ List.replicate (50 - p.text.length) 0 :=
    formatPkt_gatewayPacket (by omega) hz
  refine ⟨pkt, buff, hbuild, hformat, ?_, ?_, ?_⟩
  · have hbyte : pkt.dataLength.toNat = p.text.length := by
      rw [hdlen, UInt8.toNat_ofNat']
      omega
    rw [hbytes, hbyte, ← length_frame p.pktType id p.text, List.take_left]
  · rw [hbytes, cstr_append_replicate]
  · rw [hbytes]
    apply List.mem_append_right
    rw [List.mem_replicate]
    exact ⟨by omega, rfl⟩

/-- The formatted packet is short enough for `to_send`, whatever the id. -/
theorem MainPacket.sends_iff {p : MainPacket} (hp : p.Sendable) (id : UInt32) :
    TransmitsPacket p id
      ↔ frame p.pktType id p.text = cstr (frame p.pktType id p.text) := by
  obtain ⟨pkt, buff, hbuild, hformat, htake, hcstr, hnul⟩ := MainPacket.format_spec hp id
  -- 10 bytes of header and at most 47 of text fit `to_send`
  have hshort : (cstr buff.bytes).length ≤ 58 := by
    have hle := (cstr_isPrefixOf (frame p.pktType id p.text)).length_le
    have hlen := (text_of_sendable hp).2.1
    rw [length_frame] at hle
    rw [hcstr]
    exact Nat.le_trans hle (by show 10 + _ ≤ 58; omega)
  have hsends := LoRaGateway.sends_iff hnul hshort (frame p.pktType id p.text)
  rw [hcstr] at hsends
  rw [← hsends]
  constructor
  -- the packet and its buffer are functions of `p` and `id`
  · rintro ⟨pkt', buff', hbuild', hformat', hsends'⟩
    obtain rfl := Option.some.inj (hbuild.symm.trans hbuild')
    obtain rfl := Option.some.inj (hformat.symm.trans hformat')
    rw [htake] at hsends'
    exact hsends'
  · intro h
    refine ⟨pkt, buff, hbuild, hformat, ?_⟩
    rw [htake]
    exact h

/-- **A PACKET GOES ON AIR WHOLE EXACTLY WHEN NO BYTE OF THE RECEIVER'S ID IS ZERO.** -/
theorem transmit_faithful_iff (p : MainPacket) (hp : p.Sendable) (id : UInt32) :
    TransmitsPacket p id ↔ (0 : UInt8) ∉ be32 id := by
  -- neither the type, the gateway's id, the length nor the text has a zero byte
  obtain ⟨hpos, hlen, hz⟩ := MainPacket.text_of_sendable hp
  rw [MainPacket.sends_iff hp, ← zero_mem_frame p.pktType_ne_zero hpos (by omega) hz]
  constructor
  · intro h
    rw [h]
    exact zero_not_mem_cstr _
  · intro h
    exact (cstr_eq_self h).symm

/-- Noon, for a poll. -/
def noon : Tm := ⟨12, 0, 0⟩

/-- A poll of the node 1 ends on air before the first byte of its id. -/
theorem transmit_cut_at_zero :
    MainPacket.Sendable (.requestData noon) ∧ ¬ TransmitsPacket (.requestData noon) 1 := by
  refine ⟨trivial, ?_⟩
  rw [MainPacket.sends_iff (p := .requestData noon) trivial]
  decide

theorem transmit_faithful_poll :
    MainPacket.Sendable (.requestData noon)
      ∧ (TransmitsPacket (.requestData noon) 0x01020304 ↔ (0 : UInt8) ∉ be32 0x01020304) :=
  ⟨trivial, transmit_faithful_iff (.requestData noon) trivial 0x01020304⟩

end LoRaGateway
