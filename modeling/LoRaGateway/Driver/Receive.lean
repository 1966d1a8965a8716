/-
  LoRaGateway.Driver.Receive
  ──────────────────────────
  **RECEIVING A PACKET**: from the chip through the interrupt (`get_message`,
  `LoRa_receive`), the deferred work (`workqueue_fn`) and `sx1278_read` to
  `lora_receive` in user space.

  The three buffers of the driver are arrays of `PACKET_SIZE` bytes; a `strlen`
  or `strncmp` that runs off one of them has no result.

    • `exec_getMessage` — what the interrupt leaves in `cache_buffer`,
    • `workqueueFn_drops`, `workqueueFn_delivers` — what the work does with it,
    • `receive_faithful_iff` — when user space reads back the packet of the radio.
-/
import LoRaGateway.Packet
import LoRaGateway.Driver.Spi

namespace LoRaGateway

open LoRaGateway.Lib

/-! ## §1. The interrupt. -/

/-- `for (i = 0; i < min; i++) data[i] = LoRa_Read(RegFifo);` -/
def fifoLoop : Nat → Nat → Buffer packetSize → Driver (Buffer packetSize)
  | 0, _, data => pure data
  | k + 1, i, data => do
      let b ← loRaRead Reg.fifo
      let data ← defined (data.store i [b])
      fifoLoop k (i + 1) data

/-- The branch of `LoRa_receive` for a packet that is there (`RxDone`). -/
def readPacket (length : UInt8) : Driver (UInt8 × Buffer packetSize) := do
  loRaWrite Reg.irqFlags 0xFF
  let dataLen ← loRaRead Reg.rxNbBytes
  let read ← loRaRead Reg.fiFoRxCurrentAddr
  loRaWrite Reg.fiFoAddPtr read
  let min := if length ≥ dataLen then dataLen else length
  let data ← fifoLoop min.toNat 0 (Buffer.zero packetSize)
  pure (min, data)

/-- `LoRa_receive`: how many bytes, and the buffer with them. -/
def loRaReceive (data : Buffer packetSize) (length : UInt8) :
    Driver (UInt8 × Buffer packetSize) := do
  loRaGotoMode Mode.standby
  let read ← loRaRead Reg.irqFlags
  let out ← ite (read &&& 0x40 ≠ 0) (readPacket length) (pure (0, data))
  loRaGotoMode Mode.rxContinuous
  pure out

/-- `get_message`: whether the work is scheduled, and the cache buffer. -/
def getMessage (cacheBuffer : Buffer packetSize) : Driver (Bool × Buffer packetSize) := do
  let out ← loRaReceive cacheBuffer (UInt8.ofNat packetSize)
  pure (out.1 ≠ 0, out.2)

/-! ## §2. The work. -/

/-- `workqueue_fn`: the driver afterwards, and whether the signal was sent. -/
def workqueueFn (d : LoRaDev) : Option (LoRaDev × Bool) := do
  let length ← strlen d.cacheBuffer.bytes
  let sent ← strncmp d.cacheBuffer.bytes d.transmitBuffer.bytes length
  if sent = 0 then
    some ({ d with cacheBuffer := Buffer.zero packetSize }, false)
  else
    let known ← strncmp d.cacheBuffer.bytes d.receiveBuffer.bytes length
    -- new to the driver: hand it over; `cache_buffer` is left as it is
    if known ≠ 0 then
      let receiveBuffer ← strncpy (Buffer.zero packetSize) d.cacheBuffer.bytes length
      some ({ d with receiveBuffer := receiveBuffer }, d.task.isSome)
    else
      some ({ d with cacheBuffer := Buffer.zero packetSize }, false)

/-! ## §3. Reading from user space. -/

/-- `sx1278_read` into a user buffer: the result, the buffer and the new offset.
The copy takes the whole text, whatever `size` is. -/
def sx1278Read {n : Nat} (d : LoRaDev) (userBuff : Buffer n) (size offset : UInt64) :
    Option (Int32 × Buffer n × UInt64) := do
  let length ← strlen d.receiveBuffer.bytes
  let left := UInt64.ofNat length - offset
  let toRead : Int32 := (if size > left then left else size).toUInt32.toInt32
  -- `copy_to_user` takes `length` bytes, not `to_read`
  let userBuff ← userBuff.store 0 (d.receiveBuffer.bytes.take length)
  some (toRead, userBuff, offset + toRead.toInt64.toUInt64)

/-- `lora_receive`; the file is opened anew, so the offset is zero. -/
def loraReceive (d : LoRaDev) (opens : Bool) (rx : Buffer packetSize) :
    Option (Int × Buffer packetSize) :=
  if opens then do
    let (_, rx, _) ← sx1278Read d rx (UInt64.ofNat packetSize) 0
    some (0, rx)
  else some (-1, rx)

/-! ## §4. A chip that hands over a packet. -/

/-- The bytes waiting in the FIFO, their number as the chip reports it, and the
values of the other registers. -/
structure RxChip where
  fifo : List UInt8
  nbBytes : UInt8
  others : UInt8 → UInt8
  currentMode : UInt32

/-- Each read of the FIFO takes one byte. -/
def RxChip.answer (c : RxChip) : (o : DriverOp) → o.Resp × RxChip
  | .spiWrite _ => ((), c)
  | .spiWriteThenRead address =>
      if address = Reg.fifo then
        match c.fifo with
        | [] => (c.others Reg.fifo, c)
        | b :: rest => (b, { c with fifo := rest })
      else if address = Reg.rxNbBytes then (c.nbBytes, c)
      else (c.others address, c)
  | .getMode => (c.currentMode, c)
  | .setMode mode => ((), { c with currentMode := mode })
  | .setTransmitBuffer _ => ((), c)
  | .uninitialised => (c.others 0, c)

/-- The chip signals the packet `p`. -/
structure RxChip.Hands (c : RxChip) (p : List UInt8) : Prop where
  fifo : c.fifo = p
  nbBytes : c.nbBytes.toNat = p.length
  rxDone : c.others Reg.irqFlags &&& 0x40 ≠ 0

/-- The interrupt, and the work that it schedules. -/
def deliver (d : LoRaDev) (c : RxChip) : Option (LoRaDev × Bool) :=
  match (getMessage d.cacheBuffer).exec RxChip.answer c with
  | none => none
  | some ((scheduled, cacheBuffer), _) =>
      let d := { d with cacheBuffer := cacheBuffer }
      if scheduled then workqueueFn d else some (d, false)

/-- A packet as `LoRa_receive` stores it. -/
def cached (p : List UInt8) : Buffer packetSize :=
  Buffer.pad packetSize (p.take packetSize) (by
    rw [List.length_take]
    exact Nat.min_le_left _ _)

/-- What the interrupt and the work make of a packet: the driver afterwards, and
whether the registered process is signalled. -/
def LoRaDev.hear (d : LoRaDev) (p : List UInt8) : Option (LoRaDev × Bool) :=
  let d := { d with cacheBuffer := cached p }
  if p = [] then some (d, false) else workqueueFn d

/-! ## §5. The cache buffer. -/

theorem exec_defined {α : Type} {o : Option α} {a : α} (h : o = some a) (c : RxChip) :
    (defined o).exec RxChip.answer c = some (a, c) := by
  rw [h]
  rfl

theorem exec_loRaWrite (address value : UInt8) (c : RxChip) :
    (loRaWrite address value).exec RxChip.answer c = some ((), c) := rfl

theorem exec_read_fifo {c : RxChip} {b : UInt8} {rest : List UInt8} (h : c.fifo = b :: rest) :
    (loRaRead Reg.fifo).exec RxChip.answer c = some (b, { c with fifo := rest }) := by
  have hfifo : Reg.fifo &&& 0x7F = Reg.fifo := by decide
  have hanswer : c.answer (.spiWriteThenRead (Reg.fifo &&& 0x7F))
      = (b, { c with fifo := rest }) := by
    simp only [RxChip.answer, h, hfifo, if_true]
    rfl
  exact congrArg some hanswer

theorem exec_read_nbBytes (c : RxChip) :
    (loRaRead Reg.rxNbBytes).exec RxChip.answer c = some (c.nbBytes, c) := rfl

theorem exec_read_other {address : UInt8} (c : RxChip)
    (h : address &&& 0x7F ≠ Reg.fifo ∧ address &&& 0x7F ≠ Reg.rxNbBytes) :
    (loRaRead address).exec RxChip.answer c = some (c.others (address &&& 0x7F), c) := by
  have hanswer : c.answer (.spiWriteThenRead (address &&& 0x7F))
      = (c.others (address &&& 0x7F), c) := by
    simp only [RxChip.answer]
    rw [if_neg h.1, if_neg h.2]
    rfl
  exact congrArg some hanswer

theorem exec_loRaGotoMode (mode : UInt32) (c : RxChip) :
    ∃ mode', (loRaGotoMode mode).exec RxChip.answer c
      = some ((), { c with currentMode := mode' }) := by
  unfold loRaGotoMode
  rw [Program.exec_bind (exec_read_other c (by decide))]
  split
  · exact ⟨mode, rfl⟩
  · exact ⟨c.currentMode, rfl⟩

/-- Reading `k` bytes that wait in the FIFO. -/
theorem exec_fifoLoop :
    ∀ (k i : Nat) (data : Buffer packetSize) (c : RxChip), k ≤ c.fifo.length →
      i + k ≤ packetSize →
        ∃ data', data.store i (c.fifo.take k) = some data'
          ∧ (fifoLoop k i data).exec RxChip.answer c
              = some (data', { c with fifo := c.fifo.drop k }) := by
  intro k
  induction k with
  | zero =>
      intro i data c _ hi
      refine ⟨data, ?_, rfl⟩
      unfold Buffer.store
      rw [dif_pos (by simpa using hi)]
      congr 1
      apply Buffer.ext
      simp
  | succ k ih =>
      intro i data c hk hi
      cases hf : c.fifo with
      | nil => simp [hf] at hk
      | cons b rest =>
          have hlen : i + ([b] : List UInt8).length ≤ packetSize := by
            rw [List.length_singleton]
            omega
          -- one byte leaves the FIFO and lands at place `i`, the others behind it
          obtain ⟨data₁, hone⟩ : ∃ data₁, data.store i [b] = some data₁ := ⟨_, dif_pos hlen⟩
          obtain ⟨data', hstore, hloop⟩ := ih (i + 1) data₁ { c with fifo := rest }
            (by simpa [hf] using hk) (by omega)
          refine ⟨data', ?_, ?_⟩
          · rw [List.take_succ_cons, ← hstore]
            exact (Buffer.store_store hone).symm
          · rw [fifoLoop, Program.exec_bind (exec_read_fifo hf),
              Program.exec_bind (exec_defined hone _), hloop]
            rfl

/-- `min`, as `LoRa_receive` computes it. -/
theorem toNat_min (n : UInt8) :
    (if UInt8.ofNat packetSize ≥ n then n else UInt8.ofNat packetSize).toNat
      = min packetSize n.toNat := by
  show (if n ≤ (60 : UInt8) then n else 60).toNat = min 60 n.toNat
  by_cases h : n ≤ (60 : UInt8)
  · rw [if_pos h]
    have : n.toNat ≤ 60 := UInt8.le_iff_toNat_le.mp h
    omega
  · rw [if_neg h]
    have : ¬ n.toNat ≤ 60 := fun hn => h (UInt8.le_iff_toNat_le.mpr hn)
    show 60 = min 60 n.toNat
    omega

theorem exec_loRaReceive {c : RxChip} {p : List UInt8} (hc : c.Hands p)
    (data : Buffer packetSize) :
    ∃ n c', (loRaReceive data (UInt8.ofNat packetSize)).exec RxChip.answer c
        = some ((n, cached p), c')
      ∧ n.toNat = min packetSize p.length := by
  obtain ⟨m, hmode⟩ := exec_loRaGotoMode Mode.standby c
  -- standby changes the mode register only, so the packet is still there
  let c₁ : RxChip := { c with currentMode := m }
  let n := if UInt8.ofNat packetSize ≥ c.nbBytes then c.nbBytes else UInt8.ofNat packetSize
  have hn : n.toNat = min packetSize p.length := by
    rw [← hc.nbBytes]
    exact toNat_min c.nbBytes
  have hle : n.toNat ≤ c₁.fifo.length := by
    show n.toNat ≤ c.fifo.length
    rw [hn, hc.fifo]
    exact Nat.min_le_right _ _
  obtain ⟨data', hstore, hloop⟩ := exec_fifoLoop n.toNat 0 (Buffer.zero packetSize) c₁ hle
    (by rw [hn, Nat.zero_add]; exact Nat.min_le_left _ _)
  have hdata : data' = cached p := by
    have htake : c₁.fifo.take n.toNat = p.take packetSize := by
      show c.fifo.take n.toNat = _
      rw [hc.fifo, hn, List.take_eq_take_iff]
      omega
    rw [htake] at hstore
    exact (Option.some.inj ((Buffer.store_zero _).symm.trans hstore)).symm
  -- back to receiving, with the packet taken out
  obtain ⟨m', hmode'⟩ :=
    exec_loRaGotoMode Mode.rxContinuous { c₁ with fifo := c₁.fifo.drop n.toNat }
  have hread : (readPacket (UInt8.ofNat packetSize)).exec RxChip.answer c₁
      = some ((n, data'), { c₁ with fifo := c₁.fifo.drop n.toNat }) := by
    unfold readPacket
    rw [Program.exec_bind (exec_loRaWrite _ _ _), Program.exec_bind (exec_read_nbBytes _),
      Program.exec_bind (exec_read_other _ (by decide)),
      Program.exec_bind (exec_loRaWrite _ _ _), Program.exec_bind hloop]
    rfl
  have hbranch : Program.exec RxChip.answer
      (ite (c₁.others (Reg.irqFlags &&& 0x7F) &&& 0x40 ≠ 0)
        (readPacket (UInt8.ofNat packetSize)) (pure (0, data))) c₁
      = some ((n, data'), { c₁ with fifo := c₁.fifo.drop n.toNat }) := by
    have hdone : c₁.others (Reg.irqFlags &&& 0x7F) &&& 0x40 ≠ 0 := hc.rxDone
    rw [if_pos hdone]
    exact hread
  -- the whole function is these steps, one after the other
  refine ⟨n, { c₁ with fifo := c₁.fifo.drop n.toNat, currentMode := m' }, ?_, hn⟩
  unfold loRaReceive
  rw [Program.exec_bind hmode, Program.exec_bind (exec_read_other _ (by decide))]
  refine (Program.exec_bind hbranch).trans ?_
  rw [Program.exec_bind hmode', hdata]
  rfl

/-- **The interrupt stores the first `PACKET_SIZE` bytes** of the packet, zeros
after them, and schedules the work unless there are none. -/
theorem exec_getMessage {c : RxChip} {p : List UInt8} (hc : c.Hands p)
    (cacheBuffer : Buffer packetSize) :
    ∃ c', (getMessage cacheBuffer).exec RxChip.answer c
      = some ((decide (p ≠ []), cached p), c') := by
  obtain ⟨n, c', hexec, hn⟩ := exec_loRaReceive hc cacheBuffer
  -- `get_message` schedules the work for a result other than 0
  have hzero : n = 0 ↔ p = [] := by
    rw [← UInt8.toNat_inj, hn, ← List.length_eq_zero_iff]
    show min 60 p.length = 0 ↔ _
    omega
  refine ⟨c', ?_⟩
  unfold getMessage
  rw [Program.exec_bind hexec]
  show some ((decide (n ≠ 0), cached p), c') = _
  rw [decide_eq_decide.mpr (not_congr hzero)]

theorem deliver_eq (d : LoRaDev) {c : RxChip} {p : List UInt8} (hc : c.Hands p) :
    deliver d c = d.hear p := by
  obtain ⟨c', hget⟩ := exec_getMessage hc d.cacheBuffer
  unfold deliver LoRaDev.hear
  rw [hget]
  by_cases hp : p = []
  · simp [hp]
  · simp [hp]

/-! ## §6. The work on a cached packet. -/

section Work

variable {d : LoRaDev}

/-- The text of a full buffer without a NUL has no end. -/
theorem workqueueFn_undefined (hz : (0 : UInt8) ∉ d.cacheBuffer.bytes) :
    workqueueFn d = none := by
  unfold workqueueFn
  rw [strlen_of_not_mem hz]
  rfl

/-- Comparing the cached text with another buffer is asking whether that buffer
begins with it. -/
theorem strncmp_cache (b : Buffer packetSize) :
    ∃ k, strncmp d.cacheBuffer.bytes b.bytes (cstr d.cacheBuffer.bytes).length = some k
      ∧ (k = 0 ↔ cstr d.cacheBuffer.bytes <+: b.bytes) := by
  have hle := (cstr_isPrefixOf d.cacheBuffer.bytes).length_le
  obtain ⟨k, hk, hiff⟩ := strncmp_eq_zero (b := b.bytes)
    (by rw [take_cstr_length]; exact zero_not_mem_cstr d.cacheBuffer.bytes) hle
    (hle.trans_eq (d.cacheBuffer.size.trans b.size.symm))
  refine ⟨k, hk, ?_⟩
  rw [hiff, take_cstr_length, List.prefix_iff_eq_take]

/-- A text with which the last sent or the last delivered packet begins is dropped. -/
theorem workqueueFn_drops (hz : (0 : UInt8) ∈ d.cacheBuffer.bytes)
    (h : cstr d.cacheBuffer.bytes <+: d.transmitBuffer.bytes
      ∨ cstr d.cacheBuffer.bytes <+: d.receiveBuffer.bytes) :
    workqueueFn d = some ({ d with cacheBuffer := Buffer.zero packetSize }, false) := by
  obtain ⟨sent, hsent, hsent0⟩ := strncmp_cache (d := d) d.transmitBuffer
  obtain ⟨known, hknown, hknown0⟩ := strncmp_cache (d := d) d.receiveBuffer
  unfold workqueueFn
  rw [strlen_of_mem hz]
  simp only [Option.bind_eq_bind, Option.bind_some, hsent, hknown]
  by_cases hs : sent = 0
  · rw [if_pos hs]
  -- not the last sent packet, so the last delivered one
  · have hk : known = 0 := by
      rcases h with h | h
      · exact absurd (hsent0.mpr h) hs
      · exact hknown0.mpr h
    rw [if_neg hs, if_neg (by simpa using hk)]

/-- Any other text is copied, and the registered process is signalled. -/
theorem workqueueFn_delivers (hz : (0 : UInt8) ∈ d.cacheBuffer.bytes)
    (hsent : ¬ cstr d.cacheBuffer.bytes <+: d.transmitBuffer.bytes)
    (hknown : ¬ cstr d.cacheBuffer.bytes <+: d.receiveBuffer.bytes) :
    workqueueFn d = some ({ d with
        receiveBuffer := Buffer.pad packetSize (cstr d.cacheBuffer.bytes)
          (Nat.le_of_lt (length_cstr_lt hz)) }, d.task.isSome) := by
  obtain ⟨sent, hs, hs0⟩ := strncmp_cache (d := d) d.transmitBuffer
  obtain ⟨known, hk, hk0⟩ := strncmp_cache (d := d) d.receiveBuffer
  unfold workqueueFn
  rw [strlen_of_mem hz]
  simp only [Option.bind_eq_bind, Option.bind_some, hs, hk]
  rw [if_neg (fun h => hsent (hs0.mp h)), if_pos (fun h => hknown (hk0.mp h)),
    strncpy_zero (Nat.le_of_lt (length_cstr_lt hz))]
  rfl

end Work

/-! ## §7. What user space reads. -/

/-- `lora_receive` into a zeroed buffer gives the text of the receive buffer. -/
theorem loraReceive_eq {d : LoRaDev} {text : List UInt8} (hlen : text.length < packetSize)
    (hz : (0 : UInt8) ∉ text)
    (hd : d.receiveBuffer = Buffer.pad packetSize text (Nat.le_of_lt hlen)) :
    loraReceive d true (Buffer.zero packetSize) = some (0, d.receiveBuffer) := by
  have hstrlen : strlen d.receiveBuffer.bytes = some text.length := by
    rw [hd]
    exact strlen_pad hlen hz
  have htake : d.receiveBuffer.bytes.take text.length = text := by
    rw [hd]
    exact List.take_left
  unfold loraReceive sx1278Read
  rw [if_pos rfl, hstrlen]
  simp only [Option.bind_eq_bind, Option.bind_some, htake, Buffer.store_zero (Nat.le_of_lt hlen),
    ← hd]

/-- Cutting a packet at its first zero byte loses nothing exactly when only zeros
follow. -/
theorem pad_cstr_eq {p : List UInt8} (hlen : p.length ≤ packetSize)
    (hfit : (cstr p).length ≤ packetSize) :
    Buffer.pad packetSize (cstr p) hfit = Buffer.pad packetSize p hlen
      ↔ ∀ b ∈ p.drop (cstr p).length, b = 0 := by
  have hsplit : p = cstr p ++ p.drop (cstr p).length := by
    conv_lhs => rw [← List.take_append_drop (cstr p).length p, take_cstr_length]
  have hdrop : (p.drop (cstr p).length).length = p.length - (cstr p).length := List.length_drop
  have hle := (cstr_isPrefixOf p).length_le
  -- the text is common to both sides: compare what stands behind it
  have hbytes : Buffer.pad packetSize (cstr p) hfit = Buffer.pad packetSize p hlen
      ↔ List.replicate (packetSize - (cstr p).length) 0
        = p.drop (cstr p).length ++ List.replicate (packetSize - p.length) 0 := by
    rw [Buffer.ext_iff]
    show cstr p ++ _ = p ++ _ ↔ _
    conv_lhs => rhs; lhs; rw [hsplit]
    rw [List.append_assoc, List.append_cancel_left_eq]
  rw [hbytes]
  constructor
  · intro h b hb
    have hmem : b ∈ List.replicate (packetSize - (cstr p).length) 0 := by
      rw [h]
      exact List.mem_append_left _ hb
    exact List.eq_of_mem_replicate hmem
  · intro h
    have hzeros := List.eq_replicate_of_mem h
    rw [hzeros, List.replicate_append_replicate, hdrop]
    congr 1
    omega

/-- After the interrupt and the work have run, without anything undefined: if the
packet was delivered, user space reads exactly its bytes, and zeros after them. -/
def ReadsBack (d : LoRaDev) (c : RxChip) (p : List UInt8) : Prop :=
  ∃ d' signalled, deliver d c = some (d', signalled)
    ∧ (signalled = true → loraReceive d' true (Buffer.zero packetSize) = some (0, cached p))

/-- The packet ends before the end of a buffer, and either it is not delivered or
it has nothing but zeros after its first zero. -/
def Readable (d : LoRaDev) (p : List UInt8) : Prop :=
  (p.length < packetSize ∨ (0 : UInt8) ∈ p)
    ∧ (d.task = none ∨ cstr p <+: d.transmitBuffer.bytes ∨ cstr p <+: d.receiveBuffer.bytes
      ∨ ∀ b ∈ p.drop (cstr p).length, b = 0)

theorem cached_eq {p : List UInt8} (hlen : p.length ≤ packetSize) :
    cached p = Buffer.pad packetSize p hlen := by
  apply Buffer.ext
  simp only [cached, Buffer.pad, List.take_of_length_le hlen]

theorem text_cached {p : List UInt8} (hlen : p.length ≤ packetSize) :
    cstr (cached p).bytes = cstr p := by
  rw [cached_eq hlen, cstr_pad]

theorem zero_mem_cached_iff {p : List UInt8} (hlen : p.length ≤ packetSize) :
    (0 : UInt8) ∈ (cached p).bytes ↔ p.length < packetSize ∨ (0 : UInt8) ∈ p := by
  rw [cached_eq hlen, zero_mem_pad_iff]

section Deliver

variable {d : LoRaDev} {p : List UInt8}

/-- 60 bytes without a zero: `strlen` runs off `cache_buffer`. -/
theorem hear_undefined (hne : p ≠ []) (hz : (0 : UInt8) ∉ (cached p).bytes) : d.hear p = none := by
  rw [LoRaDev.hear, if_neg hne]
  exact workqueueFn_undefined hz

/-- The filter drops the packet: nothing is signalled. -/
theorem hear_drops (hne : p ≠ []) (hlen : p.length ≤ packetSize)
    (hz : (0 : UInt8) ∈ (cached p).bytes)
    (hdup : cstr p <+: d.transmitBuffer.bytes ∨ cstr p <+: d.receiveBuffer.bytes) :
    ∃ d', d.hear p = some (d', false) := by
  rw [LoRaDev.hear, if_neg hne, workqueueFn_drops hz (by rw [text_cached hlen]; exact hdup)]
  exact ⟨_, rfl⟩

/-- The copy is the text of the packet, and that is what user space gets. -/
theorem hear_delivers (hne : p ≠ []) (hlen : p.length ≤ packetSize)
    (hz : (0 : UInt8) ∈ (cached p).bytes) (hsent : ¬ cstr p <+: d.transmitBuffer.bytes)
    (hknown : ¬ cstr p <+: d.receiveBuffer.bytes) :
    ∃ d', d.hear p = some (d', d.task.isSome)
      ∧ (loraReceive d' true (Buffer.zero packetSize) = some (0, cached p)
          ↔ ∀ b ∈ p.drop (cstr p).length, b = 0) := by
  have hfit := Nat.le_of_lt (length_cstr_lt hz)
  rw [LoRaDev.hear, if_neg hne, workqueueFn_delivers hz (by rw [text_cached hlen]; exact hsent)
    (by rw [text_cached hlen]; exact hknown)]
  refine ⟨_, rfl, ?_⟩
  rw [loraReceive_eq (length_cstr_lt hz) (zero_not_mem_cstr _) rfl]
  have hpad : Buffer.pad packetSize (cstr (cached p).bytes) hfit = cached p
      ↔ ∀ b ∈ p.drop (cstr p).length, b = 0 := by
    rw [← pad_cstr_eq hlen (text_cached hlen ▸ hfit), ← cached_eq hlen]
    simp only [text_cached hlen]
  constructor
  · intro h
    exact hpad.mp (Prod.mk.inj (Option.some.inj h)).2
  · intro h
    rw [hpad.mpr h]

end Deliver

/-- **USER SPACE READS BACK A DELIVERED PACKET EXACTLY WHEN IT IS READABLE.** -/
theorem receive_faithful_iff (d : LoRaDev) (c : RxChip) (p : List UInt8) (hpos : 1 ≤ p.length)
    (hlen : p.length ≤ packetSize) (hc : c.Hands p) : ReadsBack d c p ↔ Readable d p := by
  have hne : p ≠ [] := List.ne_nil_of_length_pos hpos
  unfold ReadsBack Readable
  rw [deliver_eq d hc, ← zero_mem_cached_iff hlen]
  by_cases hz : (0 : UInt8) ∈ (cached p).bytes
  · by_cases hdup : cstr p <+: d.transmitBuffer.bytes ∨ cstr p <+: d.receiveBuffer.bytes
    · obtain ⟨d', hhear⟩ := hear_drops hne hlen hz hdup
      exact iff_of_true ⟨d', false, hhear, fun h => absurd h (by simp)⟩
        ⟨hz, Or.inr (hdup.imp_right Or.inl)⟩
    · obtain ⟨hsent, hknown⟩ := not_or.mp hdup
      obtain ⟨d', hhear, hread⟩ := hear_delivers hne hlen hz hsent hknown
      rw [hhear]
      constructor
      · intro h
        obtain ⟨d'', signalled, hd, hback⟩ := h
        obtain ⟨rfl, rfl⟩ := Prod.mk.inj (Option.some.inj hd)
        refine ⟨hz, ?_⟩
        -- nobody registered, nobody is signalled
        cases htask : d.task with
        | none => exact Or.inl rfl
        | some pid => exact Or.inr (Or.inr (Or.inr (hread.mp (hback (by simp [htask])))))
      · intro h
        refine ⟨_, _, rfl, fun hsig => ?_⟩
        rcases h.2 with hnone | hpre | hpre | hzeros
        · simp [hnone] at hsig
        · exact absurd hpre hsent
        · exact absurd hpre hknown
        · exact hread.mpr hzeros
  · rw [hear_undefined hne hz]
    refine iff_of_false (fun h => ?_) (fun h => hz h.1)
    obtain ⟨d', signalled, hd, -⟩ := h
    cases hd

/-- `"1 2 3 4 7"`. -/
def sampleText : List UInt8 := [49, 32, 50, 32, 51, 32, 52, 32, 55]

/-- The answer of the node 1. -/
def answerOfNode1 : List UInt8 := response 1 sampleText

/-- A chip that has received this packet. -/
def answerChip (p : List UInt8) : RxChip := ⟨p, UInt8.ofNat p.length, fun _ => 0x40, 1⟩

/-- A driver that has seen no packet, with a registered process. -/
def freshDev : LoRaDev := ⟨Buffer.zero _, Buffer.zero _, Buffer.zero _, some 1⟩

theorem answerChip_hands {p : List UInt8} (h : p.length ≤ packetSize) : (answerChip p).Hands p := by
  refine ⟨rfl, ?_, (by decide : (0x40 : UInt8) &&& 0x40 ≠ 0)⟩
  show (UInt8.ofNat p.length).toNat = p.length
  rw [UInt8.toNat_ofNat']
  have : p.length ≤ 60 := h
  omega

/-- Of the answer of the node 1, user space reads the type only. -/
theorem receive_cut_at_zero :
    (answerChip answerOfNode1).Hands answerOfNode1
      ∧ ¬ ReadsBack freshDev (answerChip answerOfNode1) answerOfNode1 := by
  refine ⟨answerChip_hands (by decide), ?_⟩
  rintro ⟨d', signalled, hd, hback⟩
  rw [deliver_eq _ (answerChip_hands (by decide))] at hd
  -- `workqueue_fn` copies one byte, the type, since the id begins with a zero
  have hwork : freshDev.hear answerOfNode1
      = some ({ freshDev with
          receiveBuffer := cached [Code.responseData], cacheBuffer := cached answerOfNode1 },
        true) := by decide
  rw [hwork] at hd
  obtain ⟨rfl, rfl⟩ := Prod.mk.inj (Option.some.inj hd)
  exact absurd (hback rfl) (by decide)

/-- A full answer without a zero byte comes back whole. -/
theorem receive_faithful_answer :
    ReadsBack freshDev (answerChip [3, 1, 2]) [3, 1, 2] ↔ Readable freshDev [3, 1, 2] :=
  receive_faithful_iff freshDev (answerChip [3, 1, 2]) [3, 1, 2] (by decide) (by decide)
    (answerChip_hands (by decide))

end LoRaGateway
