/-
  LoRaGateway.MainLoop.Codec
  ──────────────────────────
  **THE PACKET CODEC.**

  `format_pkt` shifts and masks the bytes out of the ids of a packet, and the start of
  `handler_rx_data` shifts and ors them together again; both copy the data in a loop
  that the length byte bounds.  The two are written apart from each other, so that one
  undoes the other is shown both ways.

    • `toNat_word32` — the number that four bytes make up,
    • `unpack_formatPkt`, `formatPkt_unpack` — one way and the other,
    • `codec_round_trip` — the two together, for the answers of the nodes.
-/
import LoRaGateway.MainLoop.Decode

namespace LoRaGateway

open LoRaGateway.Lib

/-! ## §1. Four bytes and a number. -/

/-- The number that four bytes make up, the most significant one first. -/
theorem toNat_word32 (buff : List UInt8) (o : Nat) :
    (word32 buff o).toNat = ((buff.getD o 0).toNat * 256 + (buff.getD (o + 1) 0).toNat) * 65536
      + (buff.getD (o + 2) 0).toNat * 256 + (buff.getD (o + 3) 0).toNat := by
  have ha := (buff.getD o 0).toNat_lt
  have hb := (buff.getD (o + 1) 0).toNat_lt
  have hc := (buff.getD (o + 2) 0).toNat_lt
  have hd := (buff.getD (o + 3) 0).toNat_lt
  unfold word32
  simp only [UInt32.toNat_or]
  rw [toNat_shiftLeft_byte (by decide) (by rw [UInt8.toNat_toUInt32]; exact ha),
    toNat_shiftLeft_byte (by decide) (by rw [UInt8.toNat_toUInt32]; exact hb),
    toNat_shiftLeft_byte (by decide) (by rw [UInt8.toNat_toUInt32]; exact hc)]
  simp only [UInt8.toNat_toUInt32]
  generalize (buff.getD o 0).toNat = a at ha ⊢
  generalize (buff.getD (o + 1) 0).toNat = b at hb ⊢
  generalize (buff.getD (o + 2) 0).toNat = c at hc ⊢
  generalize (buff.getD (o + 3) 0).toNat = d at hd ⊢
  have hall := or_bytes (n := (a * 256 + b) * 65536 + c * 256 + d) (by omega)
  rw [show ((a * 256 + b) * 65536 + c * 256 + d) / 16777216 % 256 = a by omega,
    show ((a * 256 + b) * 65536 + c * 256 + d) / 65536 % 256 = b by omega,
    show ((a * 256 + b) * 65536 + c * 256 + d) / 256 % 256 = c by omega,
    show ((a * 256 + b) * 65536 + c * 256 + d) % 256 = d by omega] at hall
  exact hall

/-- The byte of a number that is shifted down by `k` bits. -/
theorem toNat_shifted_byte {x k : UInt32} (hk : k.toNat < 32) :
    ((x >>> k) &&& 0xFF).toUInt8.toNat = x.toNat / 2 ^ k.toNat % 256 := by
  have h := toNat_byte (x >>> k)
  rw [UInt8.toNat_toUInt32, UInt32.toNat_shiftRight, Nat.mod_eq_of_lt hk,
    Nat.shiftRight_eq_div_pow] at h
  exact h

/-- **The number that four bytes make up has these bytes.** -/
theorem be32_word32 (buff : List UInt8) (o : Nat) :
    be32 (word32 buff o)
      = [buff.getD o 0, buff.getD (o + 1) 0, buff.getD (o + 2) 0, buff.getD (o + 3) 0] := by
  have ha := (buff.getD o 0).toNat_lt
  have hb := (buff.getD (o + 1) 0).toNat_lt
  have hc := (buff.getD (o + 2) 0).toNat_lt
  have hd := (buff.getD (o + 3) 0).toNat_lt
  have hword := toNat_word32 buff o
  have htop : (word32 buff o >>> 24).toUInt8 = buff.getD o 0 := by
    apply UInt8.toNat_inj.mp
    rw [UInt32.toNat_toUInt8, UInt32.toNat_shiftRight, hword, Nat.shiftRight_eq_div_pow]
    show _ / 2 ^ 24 % 256 = _
    omega
  have hsecond : ((word32 buff o >>> 16) &&& 0xFF).toUInt8 = buff.getD (o + 1) 0 := by
    apply UInt8.toNat_inj.mp
    rw [toNat_shifted_byte (by decide), hword]
    show _ / 2 ^ 16 % 256 = _
    omega
  have hthird : ((word32 buff o >>> 8) &&& 0xFF).toUInt8 = buff.getD (o + 2) 0 := by
    apply UInt8.toNat_inj.mp
    rw [toNat_shifted_byte (by decide), hword]
    show _ / 2 ^ 8 % 256 = _
    omega
  have hlast : (word32 buff o &&& 0xFF).toUInt8 = buff.getD (o + 3) 0 := by
    apply UInt8.toNat_inj.mp
    have h := toNat_byte (word32 buff o)
    rw [UInt8.toNat_toUInt32, hword] at h
    omega
  show [_, _, _, _] = _
  rw [htop, hsecond, hthird, hlast]

/-! ## §2. The header. -/

/-- The header of the packet in `buff` is the first ten bytes of `buff`. -/
theorem header_unpacked (buff : Buffer packetSize) (data : Buffer (packetSize - baseData)) :
    header ⟨word32 buff.bytes 1, word32 buff.bytes 5, buff.bytes.getD 0 0, buff.bytes.getD 9 0, data⟩
      = buff.bytes.take baseData := by
  have hsize : buff.bytes.length = 60 := buff.size
  show buff.bytes.getD 0 0 :: (be32 (word32 buff.bytes 1)
    ++ (be32 (word32 buff.bytes 5) ++ [buff.bytes.getD 9 0])) = _
  rw [be32_word32, be32_word32]
  show (List.range 10).map (fun i => buff.bytes.getD i 0) = _
  apply List.ext_getElem
  · rw [List.length_map, List.length_range, List.length_take, hsize]
    rfl
  · intro i hi _
    rw [List.length_map, List.length_range] at hi
    rw [List.getElem_map, List.getElem_range, List.getElem_take]
    exact (List.getElem_eq_getD 0).symm

/-- The fields that are found behind the header of a packet. -/
theorem fields_of_header {buff : Buffer packetSize} {pkt : LoRaPacket} {rest : List UInt8}
    (h : buff.bytes = header pkt ++ rest) :
    word32 buff.bytes 1 = pkt.uid ∧ word32 buff.bytes 5 = pkt.destinationId
      ∧ buff.bytes.getD 0 0 = pkt.pktType ∧ buff.bytes.getD 9 0 = pkt.dataLength := by
  rw [h]
  refine ⟨?_, ?_, rfl, rfl⟩
  · exact word32_be32 pkt.uid (be32 pkt.destinationId ++ [pkt.dataLength] ++ rest)
  · exact word32_be32 pkt.destinationId ([pkt.dataLength] ++ rest)

/-! ## §3. One way and the other. -/

/-- **What is unpacked is what was packed**, and zeros behind the data. -/
theorem unpack_formatPkt {pkt : LoRaPacket} (h : pkt.dataLength.toNat ≤ packetSize - baseData) :
    ∃ data, (formatPkt pkt).bind unpack
        = some ⟨pkt.uid, pkt.destinationId, pkt.pktType, pkt.dataLength, data⟩
      ∧ data.bytes = pkt.data.bytes.take pkt.dataLength.toNat
        ++ List.replicate (packetSize - baseData - pkt.dataLength.toNat) 0 := by
  have hle : pkt.dataLength.toNat ≤ 50 := h
  obtain ⟨buff, hbuff, hbytes⟩ := formatPkt_eq h
  rw [List.append_assoc] at hbytes
  obtain ⟨huid, hdest, htype, hlength⟩ := fields_of_header hbytes
  have hclaimed : claimedLength buff = pkt.dataLength.toNat := congrArg UInt8.toNat hlength
  have hclaim : claimedLength buff ≤ packetSize - baseData := by
    rw [hclaimed]
    exact h
  obtain ⟨data, hunpack, hdata⟩ := unpack_eq hclaim
  have htake : (buff.bytes.drop baseData).take pkt.dataLength.toNat
      = pkt.data.bytes.take pkt.dataLength.toNat := by
    have hlen : (pkt.data.bytes.take pkt.dataLength.toNat).length = pkt.dataLength.toNat := by
      rw [List.length_take, pkt.data.size]
      show min _ 50 = _
      omega
    rw [hbytes, List.drop_left' (length_header pkt)]
    exact List.take_left' hlen
  refine ⟨data, ?_, ?_⟩
  · rw [hbuff, Option.bind_some, hunpack, huid, hdest, htype, hlength]
  · rw [hdata, hclaimed, htake]

/-- **What is packed again is what was unpacked**, when zeros follow the data. -/
theorem formatPkt_unpack {buff : Buffer packetSize}
    (h : claimedLength buff ≤ packetSize - baseData)
    (hzero : ∀ i, baseData + claimedLength buff ≤ i → i < packetSize → buff.bytes.getD i 0 = 0) :
    (unpack buff).bind formatPkt = some buff := by
  have hle : claimedLength buff ≤ 50 := h
  have hsize : buff.bytes.length = 60 := buff.size
  obtain ⟨data, hunpack, hdata⟩ := unpack_eq h
  rw [hunpack, Option.bind_some]
  obtain ⟨b, hb, hbytes⟩ := @formatPkt_eq ⟨word32 buff.bytes 1, word32 buff.bytes 5,
    buff.bytes.getD 0 0, buff.bytes.getD 9 0, data⟩ h
  rw [hb]
  congr 1
  apply Buffer.ext
  -- header, data and the zeros behind them are the buffer cut at 10 and at the end of the data
  have hlen : ((buff.bytes.drop baseData).take (claimedLength buff)).length
      = claimedLength buff := by
    rw [List.length_take, List.length_drop, hsize]
    show min _ (60 - 10) = _
    omega
  have htail : buff.bytes.drop (baseData + claimedLength buff)
      = List.replicate (packetSize - baseData - claimedLength buff) 0 := by
    apply List.eq_replicate_iff.mpr
    constructor
    · rw [List.length_drop, hsize]
      show 60 - (10 + _) = 60 - 10 - _
      omega
    · intro x hx
      obtain ⟨j, hj, rfl⟩ := List.getElem_of_mem hx
      rw [List.length_drop, hsize] at hj
      rw [List.getElem_drop, List.getElem_eq_getD 0]
      exact hzero _ (Nat.le_add_right _ _) (by show _ < 60; omega)
  rw [hbytes, header_unpacked]
  show _ ++ data.bytes.take (claimedLength buff)
    ++ List.replicate (packetSize - baseData - claimedLength buff) 0 = _
  rw [hdata, List.take_left' hlen, ← htail, ← List.drop_drop, List.append_assoc,
    List.take_append_drop, List.take_append_drop]

/-- **THE PACKET CODEC.**  The handler finds in the buffer of an answer its uid, its
receiver, its type, its length and its data with zeros behind them; and an answer whose
bytes behind the data are zero is the buffer of what the handler found in it. -/
theorem codec_round_trip :
    (∀ pkt : LoRaPacket, pkt.pktType = Code.responseData →
      pkt.dataLength.toNat ≤ packetSize - baseData →
      ∃ buff foo, formatPkt pkt = some buff ∧ unpack buff = some foo
        ∧ foo.uid = pkt.uid ∧ foo.destinationId = pkt.destinationId
        ∧ foo.pktType = pkt.pktType ∧ foo.dataLength = pkt.dataLength
        ∧ foo.data.bytes = pkt.data.bytes.take pkt.dataLength.toNat
          ++ List.replicate (packetSize - baseData - pkt.dataLength.toNat) 0)
    ∧ ∀ buff : Buffer packetSize, buff.bytes.getD 0 0 = Code.responseData →
      claimedLength buff ≤ packetSize - baseData →
      (∀ i, baseData + claimedLength buff ≤ i → i < packetSize → buff.bytes.getD i 0 = 0) →
      ∃ foo, unpack buff = some foo ∧ formatPkt foo = some buff := by
  constructor
  · intro pkt _ hlen
    obtain ⟨data, hround, hdata⟩ := unpack_formatPkt hlen
    obtain ⟨buff, hbuff, hfoo⟩ := Option.bind_eq_some_iff.mp hround
    exact ⟨buff, _, hbuff, hfoo, rfl, rfl, rfl, rfl, hdata⟩
  · intro buff _ hlen hzero
    exact Option.bind_eq_some_iff.mp (formatPkt_unpack hlen hzero)

/-- An answer with an id whose top bit is set. -/
def highAnswer : LoRaPacket :=
  ⟨0xF1020384, gatewayId, Code.responseData, 3, Buffer.pad _ [49, 0, 255, 7] (by decide)⟩

/-- The fourth byte of its data is not sent. -/
theorem codec_round_trip_highAnswer :
    highAnswer.dataLength.toNat ≤ packetSize - baseData
      ∧ ∃ buff foo, formatPkt highAnswer = some buff ∧ unpack buff = some foo
        ∧ foo.uid = 0xF1020384 ∧ foo.data.bytes = [49, 0, 255] ++ List.replicate 47 0 := by
  refine ⟨by decide, ?_⟩
  obtain ⟨buff, foo, hbuff, hfoo, huid, -, -, -, hdata⟩ :=
    codec_round_trip.1 highAnswer rfl (by decide)
  exact ⟨buff, foo, hbuff, hfoo, huid, hdata⟩

end LoRaGateway
