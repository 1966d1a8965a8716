/-
  LoRaGateway.MainLoop.Decode
  ───────────────────────────
  **HOW FAR `handler_rx_data` READS AND WRITES.**

  The length of the data is a byte of the packet, so the radio chooses how far the
  copy into `foo.data` goes: over `buff` (60 bytes) on one side and `foo.data` (50
  bytes) on the other.  `sscanf` and `sprintf` then look for a NUL in `foo.data`.

    • `rxReads`, `rxWrites` — the cells that are touched,
    • `handlerRxData_isSome_iff` — the handler has a result exactly when they exist
      and the text ends,
    • `decode_bounds_iff` — for which packets that is.
-/
import LoRaGateway.MainLoop.PollIndex

namespace LoRaGateway

open LoRaGateway.Lib

/-! ## §1. The cells. -/

/-- The length that the packet claims. -/
def claimedLength (buff : Buffer packetSize) : Nat := (buff.bytes.getD 9 0).toNat

/-- `foo.data[i] = buff[BASE_DATA + i]` for `i < foo.data_length`. -/
def rxTouches (buff : Buffer packetSize) : List (Nat × Nat) :=
  copyTouches baseData 0 (claimedLength buff) 0

/-- What is read of `buff`: the type, and of a response the header and the data. -/
def rxReads (buff : Buffer packetSize) : List Nat :=
  if buff.bytes.getD 0 0 ≠ Code.responseData then [0]
  else List.range baseData ++ (rxTouches buff).map Prod.fst

/-- What is written of `foo.data`: the `memset`, and the data. -/
def rxWrites (buff : Buffer packetSize) : List Nat :=
  if buff.bytes.getD 0 0 ≠ Code.responseData then []
  else List.range (packetSize - baseData) ++ (rxTouches buff).map Prod.snd

/-- The text goes to `sscanf`: it is for this gateway, and its sender is found. -/
def Gateway.Parses (s : Gateway) (uid destinationId : UInt32) : Prop :=
  destinationId = gatewayId ∧ (s.findSender uid).isSome = true

/-- Every access of `handler_rx_data` is to a cell that exists, and what it hands to
the string functions has an end. -/
structure DecodesInBounds (s : Gateway) (buff : Buffer packetSize) : Prop where
  reads : ∀ i ∈ rxReads buff, i < packetSize
  writes : ∀ i ∈ rxWrites buff, i < packetSize - baseData
  terminated : buff.bytes.getD 0 0 = Code.responseData → ∀ foo, unpack buff = some foo →
    s.Parses foo.uid foo.destinationId → (0 : UInt8) ∈ foo.data.bytes

/-! ## §2. The copy. -/

section Copy

variable {buff : Buffer packetSize}

theorem mem_rxTouches {c : Nat × Nat} :
    c ∈ rxTouches buff ↔ ∃ j < claimedLength buff, c = (baseData + j, j) := by
  unfold rxTouches
  rw [mem_copyTouches]
  constructor
  · rintro ⟨j, -, hj, rfl⟩
    exact ⟨j, by omega, by rw [Nat.zero_add]⟩
  · rintro ⟨j, hj, rfl⟩
    exact ⟨j, Nat.zero_le _, by omega, by rw [Nat.zero_add]⟩

/-- The two arrays end at the same byte of the data. -/
theorem rxTouches_inside :
    (∀ c ∈ rxTouches buff, c.1 < packetSize ∧ c.2 < packetSize - baseData)
      ↔ claimedLength buff ≤ packetSize - baseData := by
  constructor
  · intro h
    by_contra hgt
    have hlast : (baseData + (packetSize - baseData), packetSize - baseData) ∈ rxTouches buff :=
      mem_rxTouches.mpr ⟨_, by omega, rfl⟩
    exact absurd (h _ hlast).2 (Nat.lt_irrefl _)
  · intro h c hc
    obtain ⟨j, hj, rfl⟩ := mem_rxTouches.mp hc
    have hle : j < 50 := Nat.lt_of_lt_of_le hj h
    exact ⟨show 10 + j < 60 by omega, hle⟩

theorem unpack_isSome_iff :
    (unpack buff).isSome = true ↔ claimedLength buff ≤ packetSize - baseData := by
  rw [← rxTouches_inside]
  have hcopy : (copyLoop buff.bytes baseData 0 (claimedLength buff) 0
      (Buffer.zero (packetSize - baseData))).isSome = true
      ↔ ∀ c ∈ rxTouches buff, c.1 < buff.bytes.length ∧ c.2 < packetSize - baseData :=
    copyLoop_isSome_iff
  rw [buff.size] at hcopy
  refine Iff.trans ?_ hcopy
  unfold unpack
  show ((copyLoop _ _ _ (claimedLength buff) _ _).bind _).isSome = true ↔ _
  rw [Option.isSome_bind]
  cases copyLoop buff.bytes baseData 0 (claimedLength buff) 0 (Buffer.zero _) with
  | none => simp
  | some data => simp

/-- The packet that is unpacked: the header as it stands there, and the data with
zeros after it. -/
theorem unpack_eq (h : claimedLength buff ≤ packetSize - baseData) :
    ∃ data, unpack buff = some ⟨word32 buff.bytes 1, word32 buff.bytes 5, buff.bytes.getD 0 0,
        buff.bytes.getD 9 0, data⟩
      ∧ data.bytes = (buff.bytes.drop baseData).take (claimedLength buff)
        ++ List.replicate (packetSize - baseData - claimedLength buff) 0 := by
  have hle : claimedLength buff ≤ 50 := h
  have hsize : buff.bytes.length = 60 := buff.size
  have hlen : ((buff.bytes.drop baseData).take (claimedLength buff)).length
      = claimedLength buff := by
    rw [List.length_take, List.length_drop, hsize]
    show min _ (60 - 10) = _
    omega
  have hfit : ((buff.bytes.drop baseData).take (claimedLength buff)).length
      ≤ packetSize - baseData := by
    rw [hlen]
    exact h
  have hcopy : copyLoop buff.bytes baseData 0 (claimedLength buff) 0
      (Buffer.zero (packetSize - baseData)) = some (Buffer.pad _ _ hfit) := by
    rw [copyLoop_eq _ _ _ (by rw [hsize]; show 10 + 0 + _ ≤ 60; omega) (by omega)]
    exact Buffer.store_zero hfit
  refine ⟨Buffer.pad _ _ hfit, ?_, ?_⟩
  · unfold unpack
    show (copyLoop _ _ _ (claimedLength buff) _ _).bind _ = _
    rw [hcopy]
    rfl
  · show _ ++ List.replicate (packetSize - baseData - _) 0 = _
    rw [hlen]

/-- The data end in a zero when the `memset` leaves one, or when the packet has one. -/
theorem zero_mem_unpacked {data : Buffer (packetSize - baseData)} (h : claimedLength buff ≤ 50)
    (hdata : data.bytes = (buff.bytes.drop baseData).take (claimedLength buff)
      ++ List.replicate (packetSize - baseData - claimedLength buff) 0) :
    (0 : UInt8) ∈ data.bytes
      ↔ claimedLength buff ≤ 49 ∨ (claimedLength buff = 50 ∧ 0 ∈ buff.bytes.drop baseData) := by
  rw [hdata]
  by_cases h50 : claimedLength buff = 50
  · have hall : (buff.bytes.drop baseData).length = 50 := by
      rw [List.length_drop, buff.size]
      rfl
    -- 50 bytes fill `foo.data`
    rw [h50, show packetSize - baseData - 50 = 0 from rfl, List.replicate_zero, List.append_nil,
      ← hall, List.take_length]
    simp [hall]
  · have hleft : packetSize - baseData - claimedLength buff ≠ 0 := by
      show ¬ 50 - claimedLength buff = 0
      omega
    refine iff_of_true ?_ (Or.inl (by omega))
    exact List.mem_append_right _ (List.mem_replicate.mpr ⟨hleft, rfl⟩)

end Copy

/-! ## §3. The handler. -/

section Handler

variable {libc : Libc} {s : Gateway} {buff : Buffer packetSize}

/-- The handler of a packet of another type looks at its first byte only. -/
theorem decodes_of_other_type (h : buff.bytes.getD 0 0 ≠ Code.responseData) :
    DecodesInBounds s buff := by
  refine ⟨fun i hi => ?_, fun i hi => ?_, fun htype => absurd htype h⟩
  · rw [rxReads, if_pos h, List.mem_singleton] at hi
    rw [hi]
    decide
  · rw [rxWrites, if_pos h] at hi
    exact absurd hi List.not_mem_nil

/-- The cells of a response exist exactly when its length fits. -/
theorem cells_of_response (htype : buff.bytes.getD 0 0 = Code.responseData) :
    ((∀ i ∈ rxReads buff, i < packetSize) ∧ ∀ i ∈ rxWrites buff, i < packetSize - baseData)
      ↔ claimedLength buff ≤ packetSize - baseData := by
  have hne : ¬ buff.bytes.getD 0 0 ≠ Code.responseData := fun h => h htype
  rw [← rxTouches_inside, rxReads, rxWrites, if_neg hne, if_neg hne]
  constructor
  · rintro ⟨hreads, hwrites⟩ c hc
    exact ⟨hreads c.1 (List.mem_append_right _ (List.mem_map_of_mem hc)),
      hwrites c.2 (List.mem_append_right _ (List.mem_map_of_mem hc))⟩
  · intro h
    constructor
    · intro i hi
      rcases List.mem_append.mp hi with hi | hi
      · exact Nat.lt_of_lt_of_le (List.mem_range.mp hi) (by decide)
      · obtain ⟨c, hc, rfl⟩ := List.mem_map.mp hi
        exact (h c hc).1
    · intro i hi
      rcases List.mem_append.mp hi with hi | hi
      · exact List.mem_range.mp hi
      · obtain ⟨c, hc, rfl⟩ := List.mem_map.mp hi
        exact (h c hc).2

/-- A response that can be unpacked is in bounds, but for the end of its text. -/
theorem decodes_iff_terminated (htype : buff.bytes.getD 0 0 = Code.responseData)
    {foo : LoRaPacket} (hunpack : unpack buff = some foo) :
    DecodesInBounds s buff ↔ (s.Parses foo.uid foo.destinationId → (0 : UInt8) ∈ foo.data.bytes) := by
  have hlen := unpack_isSome_iff.mp (Option.isSome_iff_exists.mpr ⟨foo, hunpack⟩)
  obtain ⟨hreads, hwrites⟩ := (cells_of_response htype).mpr hlen
  constructor
  · intro h
    exact h.terminated htype foo hunpack
  · intro h
    refine ⟨hreads, hwrites, fun _ foo' hfoo => ?_⟩
    rw [hunpack] at hfoo
    rw [← Option.some.inj hfoo]
    exact h

/-- **The handler has a result exactly when it stays inside its arrays.** -/
theorem handlerRxData_isSome_iff :
    (s.handlerRxData libc buff).isSome = true ↔ DecodesInBounds s buff := by
  have hout := Gateway.handlerRxData_outcome libc s buff
  generalize s.handlerRxData libc buff = out at hout
  cases hout with
  | otherType htype => exact iff_of_true rfl (decodes_of_other_type htype)
  | overrun htype hfoo =>
      refine iff_of_false (by simp) (fun h => ?_)
      have hsome := unpack_isSome_iff.mpr ((cells_of_response htype).mp ⟨h.reads, h.writes⟩)
      rw [hfoo] at hsome
      exact absurd hsome (by simp)
  | elsewhere htype hfoo hdest =>
      refine iff_of_true rfl ((decodes_iff_terminated htype hfoo).mpr (fun hparses => ?_))
      exact absurd hparses.1 hdest
  | unknown htype hfoo hdest hfind =>
      refine iff_of_true rfl ((decodes_iff_terminated htype hfoo).mpr (fun hparses => ?_))
      exact absurd hparses.2 (by simp [hfind])
  | unterminated htype hfoo hdest hfind hzero =>
      refine iff_of_false (by simp) (fun h => hzero ?_)
      exact (decodes_iff_terminated htype hfoo).mp h ⟨hdest, by simp [hfind]⟩
  | unreadable htype hfoo hdest hfind hzero =>
      exact iff_of_true rfl ((decodes_iff_terminated htype hfoo).mpr (fun _ => hzero))
  | stores htype hfoo hdest hfind hzero =>
      exact iff_of_true rfl ((decodes_iff_terminated htype hfoo).mpr (fun _ => hzero))

end Handler

/-! ## §4. The packets. -/

/-- A packet that is no response, or claims at most 49 bytes, or 50 that are not
looked at or have a zero among them. -/
def StaysInside (s : Gateway) (buff : Buffer packetSize) : Prop :=
  buff.bytes.getD 0 0 ≠ Code.responseData ∨ claimedLength buff ≤ 49
    ∨ (claimedLength buff = 50
      ∧ (s.Parses (word32 buff.bytes 1) (word32 buff.bytes 5) →
        (0 : UInt8) ∈ buff.bytes.drop baseData))

/-- **THE DECODER STAYS INSIDE ITS ARRAYS EXACTLY FOR THESE PACKETS.** -/
theorem decode_bounds_iff (s : Gateway) (buff : Buffer packetSize) :
    DecodesInBounds s buff ↔ StaysInside s buff := by
  unfold StaysInside
  by_cases htype : buff.bytes.getD 0 0 = Code.responseData
  · by_cases hlen : claimedLength buff ≤ 50
    · obtain ⟨data, hunpack, hdata⟩ := unpack_eq hlen
      have hzero := zero_mem_unpacked hlen hdata
      rw [decodes_iff_terminated htype hunpack]
      constructor
      · intro h
        by_cases h49 : claimedLength buff ≤ 49
        · exact Or.inr (Or.inl h49)
        · refine Or.inr (Or.inr ⟨by omega, fun hparses => ?_⟩)
          exact ((hzero.mp (h hparses)).resolve_left h49).2
      · rintro (h | h | ⟨h50, h⟩) hparses
        · exact absurd htype h
        · exact hzero.mpr (Or.inl h)
        · exact hzero.mpr (Or.inr ⟨h50, h hparses⟩)
    · -- the copy leaves both arrays
      refine iff_of_false (fun h => hlen ?_) ?_
      · exact (cells_of_response htype).mp ⟨h.reads, h.writes⟩
      · rintro (h | h | ⟨h, -⟩)
        · exact h htype
        · omega
        · omega
  · exact ⟨fun _ => Or.inl htype, fun _ => decodes_of_other_type htype⟩

/-- A response that claims 200 bytes of data, as the driver hands it to user space. -/
def overlong : Buffer packetSize :=
  cached (Code.responseData :: be32 0x01020304 ++ be32 gatewayId ++ [200] ++ sampleText)

/-- `handler_rx_data` reads behind its buffer, and writes behind `foo.data`. -/
theorem decode_escapes :
    loraReceive { freshDev with receiveBuffer := overlong } true (Buffer.zero packetSize)
        = some (0, overlong)
      ∧ ¬ DecodesInBounds (startWith [0x01020304]) overlong := by
  refine ⟨by decide, fun h => ?_⟩
  have hread : 209 ∈ rxReads overlong := by decide
  exact absurd (h.reads 209 hread) (by decide)

end LoRaGateway
