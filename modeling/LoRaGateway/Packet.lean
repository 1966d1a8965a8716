/-
  LoRaGateway.Packet
  ──────────────────
  **PACKETS ON THE RADIO**: `format_pkt` of `Src/lora.c`, the packets that the
  main loop builds, and the unpacking at the start of `handler_rx_data`.

  A packet is ten bytes of header (type, sender and receiver with the most
  significant byte first, length of the data) and the data.  An access outside
  `data`, or outside the packet buffer, has no result.

    • `formatPkt_eq` — the bytes that `format_pkt` writes,
    • `formatPkt_gatewayPacket` — what it makes of a packet of the main loop,
    • `zero_mem_frame` — which of its bytes can be zero,
    • `unpack_response` — what is found in the answer of a node.
-/
import LoRaGateway.Types

namespace LoRaGateway

open LoRaGateway.Lib

/-! ## §1. `format_pkt`. -/

/-- The four bytes of an id, the most significant one first. -/
def be32 (x : UInt32) : List UInt8 :=
  [(x >>> 24).toUInt8, ((x >>> 16) &&& 0xFF).toUInt8, ((x >>> 8) &&& 0xFF).toUInt8,
   (x &&& 0xFF).toUInt8]

/-- Bytes `0` to `9` of a packet. -/
def header (pkt : LoRaPacket) : List UInt8 :=
  pkt.pktType :: (be32 pkt.uid ++ (be32 pkt.destinationId ++ [pkt.dataLength]))

/-- `format_pkt`. -/
def formatPkt (pkt : LoRaPacket) : Option (Buffer packetSize) := do
  let buff ← (Buffer.zero packetSize).store 0 (header pkt)
  copyLoop pkt.data.bytes 0 baseData pkt.dataLength.toNat 0 buff

/-! ## §2. The packets of the main loop. -/

/-- A packet of the gateway with this text: `sprintf` into the zeroed `data`, and
`data_length = strlen(data)`. -/
def gatewayPacket (pktType : UInt8) (destinationId : UInt32) (text : List UInt8) :
    Option LoRaPacket := do
  let data ← (Buffer.zero (packetSize - baseData)).store 0 (text ++ [0])
  let length ← strlen data.bytes
  some ⟨gatewayId, destinationId, pktType, UInt8.ofNat length, data⟩

/-- Words with one space between them. -/
def spaced : List (List UInt8) → List UInt8
  | [] => []
  | [w] => w
  | w :: w' :: ws => w ++ 32 :: spaced (w' :: ws)

/-- The sixteen numbers of a schedule, in the order of the `sprintf` of `MODE_MANUAL`. -/
def TimeSet.numbers (t : TimeSet) : List Int32 :=
  [t.hStart0, t.mStart0, t.hStop0, t.mStop0, t.hStart50, t.mStart50, t.hStop50, t.mStop50,
   t.hStart75, t.mStart75, t.hStop75, t.mStop75, t.hStart100, t.mStart100, t.hStop100, t.mStop100]

/-- `sprintf` of a schedule: the sixteen numbers, with blanks between them. -/
def manualText (t : TimeSet) : List UInt8 := spaced (t.numbers.map (fun x => decimal x.toInt))

/-- A packet that the main loop sends: a poll, an order to run by itself, or a
schedule to follow. -/
inductive MainPacket where
  | requestData (tm : Tm)
  | modeAuto (tm : Tm)
  | modeManual (text : List UInt8)

/-- `pkt.pkt_type`. -/
def MainPacket.pktType : MainPacket → UInt8
  | .requestData _ => Code.requestData
  | .modeAuto _ => Code.modeAuto
  | .modeManual _ => Code.modeManual

/-- `pkt.data`. -/
def MainPacket.text : MainPacket → List UInt8
  | .requestData tm => timeText tm
  | .modeAuto tm => timeText tm
  | .modeManual text => text

/-- The packet for the node `id`, and its bytes in `tx_buff`. -/
def MainPacket.build (p : MainPacket) (id : UInt32) : Option LoRaPacket :=
  gatewayPacket p.pktType id p.text

/-- The packet on the air, for the node `id`. -/
def MainPacket.format (p : MainPacket) (id : UInt32) : Option (Buffer packetSize) :=
  (p.build id).bind formatPkt

/-- The packet with which a node answers. -/
def response (id : UInt32) (text : List UInt8) : List UInt8 :=
  Code.responseData :: (be32 id ++ (be32 gatewayId ++ [UInt8.ofNat text.length])) ++ text

/-! ## §3. Unpacking. -/

/-- `buff[o] << 24 | buff[o + 1] << 16 | buff[o + 2] << 8 | buff[o + 3]`. -/
def word32 (buff : List UInt8) (o : Nat) : UInt32 :=
  let byte := fun i => (buff.getD i 0).toUInt32
  byte o <<< 24 ||| byte (o + 1) <<< 16 ||| byte (o + 2) <<< 8 ||| byte (o + 3)

/-- The packet in `buff`. -/
def unpack (buff : Buffer packetSize) : Option LoRaPacket := do
  let dataLength := buff.bytes.getD 9 0
  let data ← copyLoop buff.bytes baseData 0 dataLength.toNat 0 (Buffer.zero (packetSize - baseData))
  some ⟨word32 buff.bytes 1, word32 buff.bytes 5, buff.bytes.getD 0 0, dataLength, data⟩

/-! ## §4. The bytes of a packet of the main loop. -/

@[simp] theorem length_be32 (x : UInt32) : (be32 x).length = 4 := rfl

@[simp] theorem length_header (pkt : LoRaPacket) : (header pkt).length = baseData := rfl

/-- The header and the text: what should go on air. -/
def frame (pktType : UInt8) (id : UInt32) (text : List UInt8) : List UInt8 :=
  pktType :: (be32 gatewayId ++ (be32 id ++ [UInt8.ofNat text.length])) ++ text

theorem length_frame (pktType : UInt8) (id : UInt32) (text : List UInt8) :
    (frame pktType id text).length = baseData + text.length := by
  simp only [frame, List.length_append, List.length_cons, length_be32, List.length_nil, baseData]

/-- The text of a packet, as the main loop stores it. -/
theorem gatewayPacket_eq {pktType : UInt8} {id : UInt32} {text : List UInt8}
    (hlen : text.length ≤ 49) (hz : (0 : UInt8) ∉ text) :
    ∃ data, gatewayPacket pktType id text
        = some ⟨gatewayId, id, pktType, UInt8.ofNat text.length, data⟩
      ∧ data.bytes.take text.length = text := by
  have hfit : (text ++ [0]).length ≤ packetSize - baseData := by
    rw [List.length_append]
    show text.length + 1 ≤ 50
    omega
  -- `sprintf` ends the text with a NUL, and the text has none
  have hstrlen : strlen (Buffer.pad (packetSize - baseData) (text ++ [0]) hfit).bytes
      = some text.length := by
    rw [strlen_of_mem (zero_mem_pad hfit (Or.inl (by simp))), cstr_pad, cstr_append hz]
    simp [cstr_cons]
  refine ⟨Buffer.pad _ (text ++ [0]) hfit, ?_, ?_⟩
  · unfold gatewayPacket
    rw [Buffer.store_zero hfit]
    show (strlen _).bind _ = _
    rw [hstrlen]
    rfl
  · show ((text ++ [0]) ++ _).take text.length = text
    rw [List.append_assoc, List.take_left]

/-- **The bytes of a packet**: the header, the data up to the length, and zeros. -/
theorem formatPkt_eq {pkt : LoRaPacket} (h : pkt.dataLength.toNat ≤ packetSize - baseData) :
    ∃ b, formatPkt pkt = some b
      ∧ b.bytes = header pkt ++ pkt.data.bytes.take pkt.dataLength.toNat
        ++ List.replicate (packetSize - baseData - pkt.dataLength.toNat) 0 := by
  have hle : pkt.dataLength.toNat ≤ 50 := h
  have hsize : pkt.data.bytes.length = 50 := pkt.data.size
  have hhead : (header pkt).length ≤ packetSize := by
    rw [length_header]
    decide
  have hboth : (header pkt ++ pkt.data.bytes.take pkt.dataLength.toNat).length
      = 10 + pkt.dataLength.toNat := by
    rw [List.length_append, List.length_take, hsize, length_header]
    show 10 + min _ 50 = _
    omega
  have hfit : (header pkt ++ pkt.data.bytes.take pkt.dataLength.toNat).length ≤ packetSize := by
    rw [hboth]
    show 10 + _ ≤ 60
    omega
  -- the header goes to the start of the buffer and the data right behind it
  have hcopy : formatPkt pkt = (Buffer.zero packetSize).store 0
      (header pkt ++ pkt.data.bytes.take pkt.dataLength.toNat) := by
    unfold formatPkt
    rw [Buffer.store_zero hhead]
    show copyLoop pkt.data.bytes 0 baseData pkt.dataLength.toNat 0 _ = _
    rw [copyLoop_eq _ _ _ (by omega) (by show 10 + 0 + _ ≤ 60; omega),
      ← Buffer.store_store (Buffer.store_zero hhead), length_header]
    simp only [Nat.zero_add, Nat.add_zero, List.drop_zero]
  refine ⟨Buffer.pad packetSize _ hfit, hcopy.trans (Buffer.store_zero hfit), ?_⟩
  show _ ++ List.replicate (packetSize - _) 0 = _
  rw [hboth]
  congr 2
  show 60 - (10 + _) = 50 - _
  omega

/-- **The bytes of a packet of the main loop**: the frame, and zeros after it. -/
theorem formatPkt_gatewayPacket {pktType : UInt8} {id : UInt32} {text : List UInt8}
    (hlen : text.length ≤ 49) (hz : (0 : UInt8) ∉ text) :
    ∃ pkt b, gatewayPacket pktType id text = some pkt
      ∧ pkt.dataLength = UInt8.ofNat text.length
      ∧ formatPkt pkt = some b
      ∧ b.bytes = frame pktType id text ++ List.replicate (50 - text.length) 0 := by
  obtain ⟨data, hpkt, hdata⟩ : ∃ data, gatewayPacket pktType id text
      = some ⟨gatewayId, id, pktType, UInt8.ofNat text.length, data⟩
    ∧ data.bytes.take text.length = text := gatewayPacket_eq hlen hz
  have hbyte : (UInt8.ofNat text.length).toNat = text.length := by
    rw [UInt8.toNat_ofNat']
    omega
  have hfit : (UInt8.ofNat text.length).toNat ≤ packetSize - baseData := by
    rw [hbyte]
    exact Nat.le_succ_of_le hlen
  obtain ⟨b, hb, hbytes⟩ :=
    @formatPkt_eq ⟨gatewayId, id, pktType, UInt8.ofNat text.length, data⟩ hfit
  refine ⟨_, b, hpkt, rfl, hb, ?_⟩
  rw [hbytes]
  show header _ ++ data.bytes.take (UInt8.ofNat text.length).toNat
    ++ List.replicate (50 - (UInt8.ofNat text.length).toNat) 0 = _
  rw [hbyte, hdata]
  rfl

/-! ## §5. Zero bytes. -/

/-- The id of the gateway and the packet types have no zero byte, so a zero byte
of a packet of the main loop is one of the receiver's id. -/
theorem zero_mem_frame {pktType : UInt8} {id : UInt32} {text : List UInt8} (htype : pktType ≠ 0)
    (hpos : 0 < text.length) (hlen : text.length ≤ 49) (hz : (0 : UInt8) ∉ text) :
    (0 : UInt8) ∈ frame pktType id text ↔ (0 : UInt8) ∈ be32 id := by
  have hgate : (0 : UInt8) ∉ be32 gatewayId := by decide
  -- the length byte is zero only for an empty text
  have hone : (0 : UInt8) ≠ UInt8.ofNat text.length := by
    intro h
    have := congrArg UInt8.toNat h
    rw [UInt8.toNat_ofNat'] at this
    simp at this
    omega
  simp only [frame, List.mem_append, List.mem_cons, List.not_mem_nil, or_false, hgate, hz, hone,
    htype.symm, false_or]

theorem zero_not_mem_timeText (tm : Tm) : (0 : UInt8) ∉ timeText tm := by
  have h := fun z => zero_not_mem_decimal z
  simp [timeText, h]

theorem zero_not_mem_spaced {ws : List (List UInt8)} (h : ∀ w ∈ ws, (0 : UInt8) ∉ w) :
    (0 : UInt8) ∉ spaced ws := by
  induction ws with
  | nil => simp [spaced]
  | cons w ws ih =>
      have hw := h w List.mem_cons_self
      have hws := ih (fun x hx => h x (List.mem_cons_of_mem w hx))
      cases ws with
      | nil => exact hw
      | cons w' ws => simp [spaced, hw, hws]

/-- A schedule prints without a NUL. -/
theorem zero_not_mem_manualText (t : TimeSet) : (0 : UInt8) ∉ manualText t := by
  apply zero_not_mem_spaced
  intro w hw
  obtain ⟨x, -, rfl⟩ := List.mem_map.mp hw
  exact zero_not_mem_decimal _

/-- A number below 100 prints in one or two digits. -/
theorem length_decimal_lt {n : Nat} (h : n < 100) :
    0 < (decimal (n : Int)).length ∧ (decimal (n : Int)).length ≤ 2 := by
  have hall : ∀ m : Fin 100, 0 < (decimal ((m : Nat) : Int)).length
      ∧ (decimal ((m : Nat) : Int)).length ≤ 2 := by decide
  exact hall ⟨n, h⟩

/-- The time of day prints in 5 to 8 characters. -/
theorem length_timeText (tm : Tm) : 5 ≤ (timeText tm).length ∧ (timeText tm).length ≤ 8 := by
  have hh := length_decimal_lt (Nat.lt_of_lt_of_le tm.hour.isLt (by decide))
  have hm := length_decimal_lt (Nat.lt_of_lt_of_le tm.min.isLt (by decide))
  have hs := length_decimal_lt (Nat.lt_of_lt_of_le tm.sec.isLt (by decide))
  simp only [timeText, List.length_append, List.length_cons]
  omega

/-! ## §6. Unpacking what was packed. -/

/-- Four bytes next to each other make up a number. -/
theorem or_bytes {n : Nat} (h : n < 4294967296) :
    (n / 16777216 % 256) <<< 24 ||| (n / 65536 % 256) <<< 16 ||| (n / 256 % 256) <<< 8
      ||| n % 256 = n := by
  -- the four parts do not overlap, so `|` is `+`
  rw [Nat.or_assoc, Nat.or_assoc, ← Nat.shiftLeft_add_eq_or_of_lt (i := 8) (by omega),
    ← Nat.shiftLeft_add_eq_or_of_lt (i := 16), ← Nat.shiftLeft_add_eq_or_of_lt (i := 24)]
  all_goals
    simp only [Nat.shiftLeft_eq]
    omega

theorem toNat_byte (x : UInt32) : (x &&& 0xFF).toUInt8.toUInt32.toNat = x.toNat % 256 := by
  have hmask : x.toNat &&& (2 ^ 8 - 1) = x.toNat % 2 ^ 8 := Nat.and_two_pow_sub_one_eq_mod _ _
  have hand : (x &&& 0xFF).toNat = x.toNat &&& (2 ^ 8 - 1) := UInt32.toNat_and _ _
  rw [UInt8.toNat_toUInt32, UInt32.toNat_toUInt8, hand, hmask]
  omega

theorem toNat_shiftLeft_byte {x k : UInt32} (hk : k.toNat ≤ 24) (hx : x.toNat < 256) :
    (x <<< k).toNat = x.toNat <<< k.toNat := by
  have hpow : 2 ^ k.toNat ≤ 2 ^ 24 := Nat.pow_le_pow_right (by decide) hk
  have hlt : x.toNat * 2 ^ k.toNat < 256 * 2 ^ 24 := by
    calc x.toNat * 2 ^ k.toNat ≤ 255 * 2 ^ 24 := Nat.mul_le_mul (by omega) hpow
      _ < 256 * 2 ^ 24 := by omega
  rw [UInt32.toNat_shiftLeft, Nat.mod_eq_of_lt (show k.toNat < 32 by omega), Nat.shiftLeft_eq]
  exact Nat.mod_eq_of_lt hlt

/-- **The bytes of an id make up the id again.** -/
theorem word32_be32 (x : UInt32) (rest : List UInt8) : word32 (be32 x ++ rest) 0 = x := by
  show (x >>> 24).toUInt8.toUInt32 <<< 24 ||| ((x >>> 16) &&& 0xFF).toUInt8.toUInt32 <<< 16
    ||| ((x >>> 8) &&& 0xFF).toUInt8.toUInt32 <<< 8 ||| (x &&& 0xFF).toUInt8.toUInt32 = x
  have hx := x.toNat_lt
  have htop : (x >>> 24).toUInt8.toUInt32.toNat = x.toNat / 16777216 % 256 := by
    rw [UInt8.toNat_toUInt32, UInt32.toNat_toUInt8, UInt32.toNat_shiftRight, Nat.shiftRight_eq_div_pow]
    rfl
  have hsecond : ((x >>> 16) &&& 0xFF).toUInt8.toUInt32.toNat = x.toNat / 65536 % 256 := by
    rw [toNat_byte, UInt32.toNat_shiftRight, Nat.shiftRight_eq_div_pow]
    rfl
  have hthird : ((x >>> 8) &&& 0xFF).toUInt8.toUInt32.toNat = x.toNat / 256 % 256 := by
    rw [toNat_byte, UInt32.toNat_shiftRight, Nat.shiftRight_eq_div_pow]
    rfl
  -- no shift loses a bit: it is a statement about numbers
  apply UInt32.toNat_inj.mp
  rw [UInt32.toNat_or, UInt32.toNat_or, UInt32.toNat_or,
    toNat_shiftLeft_byte (by decide) (by rw [htop]; omega),
    toNat_shiftLeft_byte (by decide) (by rw [hsecond]; omega),
    toNat_shiftLeft_byte (by decide) (by rw [hthird]; omega), htop, hsecond, hthird, toNat_byte]
  exact or_bytes hx

theorem length_response (id : UInt32) (text : List UInt8) :
    (response id text).length = baseData + text.length := by
  simp only [response, List.length_append, List.length_cons, length_be32, List.length_nil, baseData]

/-- **`handler_rx_data` finds in an answer what the node put in it.** -/
theorem unpack_response {b : Buffer packetSize} {id : UInt32} {text rest : List UInt8}
    (hlen : text.length ≤ 50) (hb : b.bytes = response id text ++ rest) :
    ∃ data, unpack b = some ⟨id, gatewayId, Code.responseData, UInt8.ofNat text.length, data⟩
      ∧ data.bytes = text ++ List.replicate (50 - text.length) 0 := by
  have hbyte : (UInt8.ofNat text.length).toNat = text.length := by
    rw [UInt8.toNat_ofNat']
    omega
  have hfit : text.length ≤ packetSize - baseData := hlen
  have hdrop : (b.bytes.drop (baseData + 0)).take text.length = text := by
    rw [hb]
    show (text ++ rest).take text.length = text
    exact List.take_left
  -- `data_length` bytes from `BASE_DATA` on
  have hcopy : copyLoop b.bytes baseData 0 text.length 0 (Buffer.zero (packetSize - baseData))
      = some (Buffer.pad _ text hfit) := by
    have hbl := b.size
    rw [hb, List.length_append, length_response] at hbl
    rw [copyLoop_eq _ _ _ (by rw [hb, List.length_append, length_response]; omega) (by omega), hdrop]
    exact Buffer.store_zero hfit
  refine ⟨Buffer.pad _ text hfit, ?_, rfl⟩
  unfold unpack
  have hlength : b.bytes.getD 9 0 = UInt8.ofNat text.length := by
    rw [hb]
    rfl
  have huid : word32 b.bytes 1 = id := by
    rw [hb]
    exact word32_be32 id (be32 gatewayId ++ [UInt8.ofNat text.length] ++ text ++ rest)
  have hdest : word32 b.bytes 5 = gatewayId := by
    rw [hb]
    exact word32_be32 gatewayId ([UInt8.ofNat text.length] ++ text ++ rest)
  have htype : b.bytes.getD 0 0 = Code.responseData := by
    rw [hb]
    rfl
  simp only [hlength, huid, hdest, htype, hbyte, hcopy]
  rfl

end LoRaGateway
