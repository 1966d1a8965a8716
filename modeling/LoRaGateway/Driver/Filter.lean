/-
  LoRaGateway.Driver.Filter
  ─────────────────────────
  **THE FILTER FOR PACKETS THAT ARE ALREADY KNOWN.**

  `workqueue_fn` compares a new packet with the last one that was sent and with the last
  one that was delivered, with `strncmp` and over the `strlen` of the new one.  A packet
  is binary: its text ends at its first zero byte, and a text is also found at the
  beginning of a longer packet.

    • `LoRaDev.Discards` — the new packet is dropped,
    • `FilterExact` — what the filter is for,
    • `filter_exact_iff` — for which three packets it does this.
-/
import LoRaGateway.Driver.Receive

namespace LoRaGateway

open LoRaGateway.Lib

/-! ## §1. The filter. -/

/-- The bytes of a packet on the radio. -/
structure RadioPacket where
  bytes : List UInt8
  fits : bytes.length ≤ packetSize

/-- The packet in one of the driver's buffers. -/
def RadioPacket.buffer (p : RadioPacket) : Buffer packetSize := Buffer.pad packetSize p.bytes p.fits

/-- The driver when the work runs: the last packet sent, the last one delivered, and the
new one. -/
def filtering (task : Option Nat) (sent delivered new : RadioPacket) : LoRaDev :=
  ⟨delivered.buffer, sent.buffer, new.buffer, task⟩

/-- The new packet is dropped: `cache_buffer` is cleared, and that is all. -/
def LoRaDev.Discards (d : LoRaDev) : Prop :=
  workqueueFn d = some ({ d with cacheBuffer := Buffer.zero packetSize }, false)

/-- Only a packet that was sent or delivered last is dropped; any other one is in
`receive_buffer` afterwards, and the registered process is signalled. -/
structure FilterExact (task : Option Nat) (sent delivered new : RadioPacket) : Prop where
  drops : (filtering task sent delivered new).Discards →
    new.bytes = sent.bytes ∨ new.bytes = delivered.bytes
  delivers : ¬ (filtering task sent delivered new).Discards →
    ∃ d, workqueueFn (filtering task sent delivered new) = some (d, task.isSome)
      ∧ d.receiveBuffer = new.buffer

/-- The packet ends inside a buffer, and either it was sent or delivered last, or neither of
these begins with its text and only zeros follow its first zero. -/
def Distinguishable (sent delivered new : RadioPacket) : Prop :=
  (new.bytes.length < packetSize ∨ (0 : UInt8) ∈ new.bytes)
    ∧ (new.bytes = sent.bytes ∨ new.bytes = delivered.bytes
      ∨ (¬ cstr new.bytes <+: sent.bytes ∧ ¬ cstr new.bytes <+: delivered.bytes
        ∧ ∀ b ∈ new.bytes.drop (cstr new.bytes).length, b = 0))

/-! ## §2. What it does. -/

section Filter

variable {task : Option Nat} {sent delivered new : RadioPacket}

theorem RadioPacket.cstr_buffer (p : RadioPacket) : cstr p.buffer.bytes = cstr p.bytes :=
  cstr_pad p.fits

theorem RadioPacket.zero_mem_buffer (p : RadioPacket) :
    (0 : UInt8) ∈ p.buffer.bytes ↔ p.bytes.length < packetSize ∨ (0 : UInt8) ∈ p.bytes :=
  zero_mem_pad_iff p.fits

/-- A buffer begins with a text when its packet does. -/
theorem RadioPacket.prefix_buffer (p q : RadioPacket) :
    cstr q.bytes <+: p.buffer.bytes ↔ cstr q.bytes <+: p.bytes :=
  prefix_pad_iff p.fits (zero_not_mem_cstr q.bytes)

/-- A packet that fills `cache_buffer` without a zero byte. -/
theorem filter_undefined (hz : ¬ (new.bytes.length < packetSize ∨ (0 : UInt8) ∈ new.bytes)) :
    workqueueFn (filtering task sent delivered new) = none :=
  workqueueFn_undefined (fun h => hz (new.zero_mem_buffer.mp h))

/-- A text with which one of the other two begins. -/
theorem filter_discards (hz : new.bytes.length < packetSize ∨ (0 : UInt8) ∈ new.bytes)
    (h : cstr new.bytes <+: sent.bytes ∨ cstr new.bytes <+: delivered.bytes) :
    (filtering task sent delivered new).Discards := by
  apply workqueueFn_drops (new.zero_mem_buffer.mpr hz)
  show cstr new.buffer.bytes <+: sent.buffer.bytes
    ∨ cstr new.buffer.bytes <+: delivered.buffer.bytes
  rw [new.cstr_buffer, sent.prefix_buffer, delivered.prefix_buffer]
  exact h

/-- Any other one is delivered up to its first zero, and `cache_buffer` is left as it is. -/
theorem filter_delivers (hz : new.bytes.length < packetSize ∨ (0 : UInt8) ∈ new.bytes)
    (hsent : ¬ cstr new.bytes <+: sent.bytes) (hdelivered : ¬ cstr new.bytes <+: delivered.bytes) :
    ∃ hfit : (cstr new.bytes).length ≤ packetSize,
      workqueueFn (filtering task sent delivered new)
        = some ({ filtering task sent delivered new with
          receiveBuffer := Buffer.pad packetSize (cstr new.bytes) hfit }, task.isSome) := by
  have htext := new.cstr_buffer
  have hwork := workqueueFn_delivers (d := filtering task sent delivered new)
    (new.zero_mem_buffer.mpr hz)
    (by
      show ¬ cstr new.buffer.bytes <+: sent.buffer.bytes
      rw [htext, sent.prefix_buffer]
      exact hsent)
    (by
      show ¬ cstr new.buffer.bytes <+: delivered.buffer.bytes
      rw [htext, delivered.prefix_buffer]
      exact hdelivered)
  refine ⟨(cstr_isPrefixOf new.bytes).length_le.trans new.fits, ?_⟩
  rw [hwork]
  congr 3
  apply Buffer.ext
  show cstr new.buffer.bytes ++ List.replicate (packetSize - (cstr new.buffer.bytes).length) 0 = _
  rw [htext]
  rfl

/-- A packet with a text is not dropped by being delivered. -/
theorem filter_not_discards (hz : new.bytes.length < packetSize ∨ (0 : UInt8) ∈ new.bytes)
    (hsent : ¬ cstr new.bytes <+: sent.bytes) (hdelivered : ¬ cstr new.bytes <+: delivered.bytes) :
    ¬ (filtering task sent delivered new).Discards := by
  intro h
  obtain ⟨hfit, hwork⟩ := @filter_delivers task _ _ _ hz hsent hdelivered
  unfold LoRaDev.Discards at h
  rw [hwork] at h
  -- the cache would be empty, and the empty text is at the beginning of every packet
  have hcache : new.buffer = Buffer.zero packetSize :=
    congrArg (fun out => LoRaDev.cacheBuffer out.1) (Option.some.inj h)
  have htext := new.cstr_buffer
  rw [hcache, show cstr (Buffer.zero packetSize).bytes = [] from cstr_replicate _] at htext
  rw [← htext] at hsent
  exact hsent List.nil_prefix

end Filter

/-- **THE FILTER IS EXACT EXACTLY ON THESE PACKETS.** -/
theorem filter_exact_iff (task : Option Nat) (sent delivered new : RadioPacket) :
    FilterExact task sent delivered new ↔ Distinguishable sent delivered new := by
  unfold Distinguishable
  by_cases hz : new.bytes.length < packetSize ∨ (0 : UInt8) ∈ new.bytes
  · by_cases hdup : cstr new.bytes <+: sent.bytes ∨ cstr new.bytes <+: delivered.bytes
    · have hdiscards : (filtering task sent delivered new).Discards := filter_discards hz hdup
      constructor
      · intro h
        exact ⟨hz, (h.drops hdiscards).imp_right Or.inl⟩
      · intro hnew
        obtain ⟨-, h⟩ := hnew
        refine ⟨fun _ => ?_, fun hnot => absurd hdiscards hnot⟩
        rcases h with h | h | ⟨hsent, hdelivered, -⟩
        · exact Or.inl h
        · exact Or.inr h
        · exact absurd hdup (not_or.mpr ⟨hsent, hdelivered⟩)
    · rw [not_or] at hdup
      obtain ⟨hfit, hwork⟩ := @filter_delivers task _ _ _ hz hdup.1 hdup.2
      have hnot : ¬ (filtering task sent delivered new).Discards :=
        filter_not_discards hz hdup.1 hdup.2
      have hpad := pad_cstr_eq new.fits hfit
      constructor
      · intro h
        obtain ⟨d, hd, hbuffer⟩ := h.delivers hnot
        rw [hwork] at hd
        obtain ⟨rfl, -⟩ := Prod.mk.inj (Option.some.inj hd)
        exact ⟨hz, Or.inr (Or.inr ⟨hdup.1, hdup.2, hpad.mp hbuffer⟩)⟩
      · intro hnew
        obtain ⟨-, h⟩ := hnew
        refine ⟨fun hdiscards => absurd hdiscards hnot, fun _ => ⟨_, hwork, ?_⟩⟩
        rcases h with h | h | ⟨-, -, h⟩
        · exact absurd (h ▸ cstr_isPrefixOf new.bytes) hdup.1
        · exact absurd (h ▸ cstr_isPrefixOf new.bytes) hdup.2
        · exact hpad.mpr h
  -- 60 bytes without a zero: `strlen` runs off `cache_buffer`
  · have hwork : workqueueFn (filtering task sent delivered new) = none := filter_undefined hz
    refine iff_of_false (fun h => ?_) (fun h => hz h.1)
    have hnot : ¬ (filtering task sent delivered new).Discards := by
      unfold LoRaDev.Discards
      rw [hwork]
      exact fun hnone => nomatch hnone
    obtain ⟨d, hd, -⟩ := h.delivers hnot
    rw [hwork] at hd
    cases hd

/-- A packet that is the beginning of the last delivered one is dropped, and of one with a
zero byte the rest is lost. -/
theorem filter_drops_prefix :
    ¬ FilterExact (some 1) ⟨[2], by decide⟩ ⟨[3, 1, 2], by decide⟩ ⟨[3, 1], by decide⟩
      ∧ ¬ FilterExact (some 1) ⟨[2], by decide⟩ ⟨[3, 1, 2], by decide⟩ ⟨[4, 0, 5], by decide⟩ := by
  constructor
  · intro h
    have hdrops := h.drops (filter_discards (by decide) (by decide))
    exact absurd hdrops (by decide)
  · intro h
    obtain ⟨d, hd, hbuffer⟩ := h.delivers (filter_not_discards (by decide) (by decide) (by decide))
    obtain ⟨hfit, hwork⟩ := @filter_delivers (some 1) ⟨[2], by decide⟩ ⟨[3, 1, 2], by decide⟩
      ⟨[4, 0, 5], by decide⟩ (by decide) (by decide) (by decide)
    rw [hwork] at hd
    obtain ⟨rfl, -⟩ := Prod.mk.inj (Option.some.inj hd)
    have hbytes : ([4] ++ List.replicate 59 0 : List UInt8) = [4, 0, 5] ++ List.replicate 57 0 :=
      congrArg Buffer.bytes hbuffer
    exact absurd hbytes (by decide)

end LoRaGateway
