/-
  LoRaGateway.Driver.WriteBounds
  ──────────────────────────────
  **HOW LONG A WRITTEN PACKET MAY BE.**

  `transmit_buffer` holds the payload and the NUL that its length is found by,
  `to_send` the address byte, the payload and a NUL; both have `PACKET_SIZE` bytes, and
  `copy_from_user` copies whatever size user space names.

    • `sendTransfers` — the SPI transfers that carry the length and the payload,
    • `WritesInBounds` — no access outside an array, no `strlen` without a NUL, and a
      text goes to the chip as it is,
    • `writesInBounds_iff` — for which data that is.
-/
import LoRaGateway.Driver.Transmit

namespace LoRaGateway

open LoRaGateway.Lib
open LoRaGateway.Lib.Program (neverReturns_bind neverReturns_bind_left)

/-! ## §1. What a write should do. -/

/-- The transfers to `RegPayloadLength` and to the FIFO, with their address byte. -/
def sendTransfers : DriverOp → List (List UInt8)
  | .spiWrite (address :: bytes) =>
      if address = Reg.fifo ||| 0x80 ∨ address = Reg.payloadLength ||| 0x80 then [address :: bytes]
      else []
  | _ => []

/-- The two transfers for a payload. -/
def payloadTransfers (payload : List UInt8) : List (List UInt8) :=
  [[Reg.payloadLength ||| 0x80, UInt8.ofNat payload.length], 0x80 :: payload]

/-- Whatever the chip answers: every copy of a `write` of these bytes stays inside
`transmit_buffer` and `to_send`, every `strlen` finds a NUL, and a text of 1 to 59
bytes is sent as it is, with its length. -/
structure WritesInBounds (data : List UInt8) : Prop where
  inside : ∀ (fuel : Nat) (t : List (Sigma DriverOp.Resp)) (out : Program.Outcome Stop Nat),
    Program.Trace (sx1278Write fuel data) t out → out ≠ .stopped .undefined
  payload : (0 : UInt8) ∉ data → 1 ≤ data.length → data.length ≤ packetSize - 1 →
    ∀ (fuel : Nat) (t : List (Sigma DriverOp.Resp)) (out : Program.Outcome Stop Nat),
      Program.Trace (sx1278Write fuel data) t out →
        Program.seen sendTransfers t <+: payloadTransfers data
          ∧ ∀ r, out = .returned r → Program.seen sendTransfers t = payloadTransfers data

/-! ## §2. Data that fit. -/

theorem ignores_sendTransfers : Ignores sendTransfers where
  read _ := rfl
  getMode := rfl
  setMode _ := rfl
  uninitialised := rfl
  write address value h h' := by
    show (if _ then _ else _) = _
    rw [if_neg (fun hor => hor.elim h h')]

/-- `transmit_buffer` after the copy. -/
theorem store_eq_pad {data : List UInt8} (hsize : data.length ≤ packetSize) :
    (Buffer.zero packetSize).store 0 data = some (Buffer.pad packetSize data hsize) :=
  Buffer.store_zero hsize

/-- A text of at most 58 bytes is followed by a NUL. -/
theorem zero_mem_of_short {data : List UInt8} (hsize : data.length ≤ packetSize)
    (hlen : (cstr data).length ≤ 58) : (0 : UInt8) ∈ (Buffer.pad packetSize data hsize).bytes := by
  apply (zero_mem_pad_iff hsize).mpr
  by_cases hz : (0 : UInt8) ∈ data
  · exact Or.inr hz
  · rw [cstr_eq_self hz] at hlen
    exact Or.inl (Nat.lt_of_le_of_lt hlen (by decide))

theorem writesInBounds_of_short {data : List UInt8} (hsize : data.length ≤ packetSize)
    (hlen : (cstr data).length ≤ 58) : WritesInBounds data := by
  have hz := zero_mem_of_short hsize hlen
  have htext : cstr (Buffer.pad packetSize data hsize).bytes = cstr data := cstr_pad hsize
  have hshows := sx1278Write_shows ignores_sendTransfers (store_eq_pad hsize) hz
    (by rw [htext]; exact hlen)
  rw [htext] at hshows
  constructor
  · intro fuel t out ht hout
    exact nomatch ((hshows fuel).sound ht).2.2 _ hout
  · intro hnul _ _ fuel t out ht
    obtain ⟨hpre, hret, -⟩ := (hshows fuel).sound ht
    -- the store of the buffer is no transfer
    rw [cstr_eq_self hnul] at hpre hret
    exact ⟨hpre, hret⟩

/-! ## §3. Data that do not. -/

/-- A packet with a text that leaves room for the address byte and a NUL. -/
def FitsToSend (data : Buffer packetSize) : Prop :=
  (0 : UInt8) ∈ data.bytes ∧ (cstr data.bytes).length ≤ packetSize - 2

/-- A packet that does not fit gets no further than the burst. -/
theorem sendData_undefined {data : Buffer packetSize} (h : ¬ FitsToSend data) (length : UInt8)
    (timeout : UInt16) (mode : UInt32) : (sendData data length timeout mode).NeverReturns := by
  unfold sendData
  rw [loRaBurstWrite_undefined h]
  apply neverReturns_bind
  intro _
  apply neverReturns_bind
  intro read
  apply neverReturns_bind
  intro _
  apply neverReturns_bind
  intro _
  trivial

/-- More than `PACKET_SIZE` bytes are copied behind `transmit_buffer`. -/
theorem sx1278Write_long {data : List UInt8} (h : packetSize < data.length) (fuel : Nat) :
    (sx1278Write fuel data).NeverReturns := by
  unfold sx1278Write
  apply neverReturns_bind_left
  rw [Buffer.store_eq_none (by omega)]
  trivial

/-- A text without such room has no end in one of the two arrays. -/
theorem sx1278Write_full {data : List UInt8} (hsize : data.length ≤ packetSize)
    (hlen : ¬ (cstr data).length ≤ 58) (fuel : Nat) : (sx1278Write fuel data).NeverReturns := by
  have hfits : ¬ FitsToSend (Buffer.pad packetSize data hsize) := by
    intro h
    have htext := h.2
    rw [cstr_pad hsize] at htext
    exact hlen htext
  unfold sx1278Write
  rw [store_eq_pad hsize]
  show Program.NeverReturns
    (perform (.setTransmitBuffer (Buffer.pad packetSize data hsize)) >>= _)
  apply neverReturns_bind
  intro _
  apply neverReturns_bind
  intro length
  apply neverReturns_bind_left
  rw [loRaTransmit_eq]
  apply neverReturns_bind
  intro mode
  apply neverReturns_bind
  intro _
  apply neverReturns_bind
  intro _
  exact sendData_undefined hfits _ _ mode

/-- A write that never returns does something undefined on the quiet chip. -/
theorem not_inside_of_neverReturns {data : List UInt8}
    (h : (sx1278Write 2 data).NeverReturns) : ¬ WritesInBounds data := by
  intro hin
  obtain ⟨t, out, ht, hout⟩ := (quick_sx1278Write data).exists_trace
  rcases hout with ⟨r, rfl⟩ | ⟨e, he, rfl⟩
  · exact h.sound ht
  · cases e with
    | undefined => exact hin.inside 2 t _ ht rfl
    | unfinished => exact he rfl

/-- **A WRITE STAYS IN BOUNDS EXACTLY WHEN** it has at most 60 bytes and at most 58 of
them come before the first zero. -/
theorem writesInBounds_iff (data : List UInt8) :
    WritesInBounds data ↔ data.length ≤ packetSize ∧ (cstr data).length ≤ packetSize - 2 := by
  constructor
  · intro h
    have hsize : data.length ≤ packetSize := by
      by_contra hlong
      exact not_inside_of_neverReturns (sx1278Write_long (Nat.lt_of_not_le hlong) 2) h
    refine ⟨hsize, ?_⟩
    by_contra hfull
    exact not_inside_of_neverReturns (sx1278Write_full hsize hfull 2) h
  · intro h
    obtain ⟨hsize, hlen⟩ := h
    exact writesInBounds_of_short hsize hlen

/-- 59 bytes without a zero fill `to_send`, and 61 bytes do not fit `transmit_buffer`. -/
theorem write_escapes :
    ¬ WritesInBounds (List.replicate 59 65) ∧ ¬ WritesInBounds (List.replicate 61 0) := by
  constructor
  · exact not_inside_of_neverReturns (sx1278Write_full (by decide) (by decide) 2)
  · exact not_inside_of_neverReturns (sx1278Write_long (by decide) 2)

end LoRaGateway
