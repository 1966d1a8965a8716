/-
  LoRaGateway.Driver.Chip
  ───────────────────────
  **THE CHIP AS THE DRIVER SEES IT**: its operating mode, the FIFO with its address
  pointer, the IRQ flags and the lengths, together with `current_mode` of the driver.

  One SPI transfer is one step.  By itself the chip ends a scan or a transmission and
  goes to standby, and in receive mode it takes a packet in.

    • `window_fill` — bytes written to the FIFO read back,
    • `meets_read`, `meets_write`, `meets_gotoMode` — what one access needs and leaves,
    • `kept_calm`, `kept_still` — what survives in the modes without events.
-/
import LoRaGateway.Driver.Spi
import LoRaGateway.Lib.BitField
import LoRaGateway.Lib.Interleave

namespace LoRaGateway

open LoRaGateway.Lib
open LoRaGateway.Lib.Program (Setting Wp Meets KeptBy meets_perform meets_bind)

/-! ## §1. The FIFO. -/

/-- `n` bytes from an address on, which wraps around. -/
def window (fifo : UInt8 → UInt8) (address : UInt8) : Nat → List UInt8
  | 0 => []
  | n + 1 => fifo address :: window fifo (address + 1) n

/-- Bytes written one after the other. -/
def fill (fifo : UInt8 → UInt8) (address : UInt8) : List UInt8 → UInt8 → UInt8
  | [] => fifo
  | b :: bytes => fill (Function.update fifo address b) (address + 1) bytes

theorem fill_other {x : UInt8} :
    ∀ (bytes : List UInt8) (fifo : UInt8 → UInt8) (address : UInt8),
      (∀ i < bytes.length, x ≠ address + UInt8.ofNat i) → fill fifo address bytes x = fifo x := by
  intro bytes
  induction bytes with
  | nil =>
      intro fifo address _
      rfl
  | cons b bytes ih =>
      intro fifo address hx
      have hfirst : x ≠ address := by
        have h := hx 0 (Nat.zero_lt_succ _)
        rwa [show UInt8.ofNat 0 = 0 from rfl, UInt8.add_zero] at h
      rw [fill, ih, Function.update_of_ne hfirst]
      intro i hi
      have h := hx (i + 1) (Nat.succ_lt_succ hi)
      rwa [UInt8.ofNat_add, UInt8.add_comm (UInt8.ofNat i), ← UInt8.add_assoc] at h

/-- **What is written to the FIFO is read back**, as long as it fits. -/
theorem window_fill :
    ∀ (bytes : List UInt8) (fifo : UInt8 → UInt8) (address : UInt8), bytes.length ≤ 256 →
      window (fill fifo address bytes) address bytes.length = bytes := by
  intro bytes
  induction bytes with
  | nil =>
      intro fifo address _
      rfl
  | cons b bytes ih =>
      intro fifo address hlen
      rw [List.length_cons] at hlen
      rw [List.length_cons, window, fill, ih _ _ (by omega)]
      -- the other bytes do not come round to the first one
      have hkept : fill (Function.update fifo address b) (address + 1) bytes address = b := by
        rw [fill_other, Function.update_self]
        intro i hi heq
        have hnat := congrArg UInt8.toNat heq
        rw [UInt8.add_assoc, UInt8.toNat_add, UInt8.toNat_add, UInt8.toNat_ofNat'] at hnat
        have hone : (1 : UInt8).toNat = 1 := rfl
        have hlt := address.toNat_lt
        rw [hone] at hnat
        omega
      rw [hkept]

/-- A shorter window is the first part of a longer one. -/
theorem window_take (fifo : UInt8 → UInt8) :
    ∀ (m n : Nat) (address : UInt8), n ≤ m →
      window fifo address n = (window fifo address m).take n := by
  intro m
  induction m with
  | zero =>
      intro n address h
      rw [Nat.le_zero.mp h]
      rfl
  | succ m ih =>
      intro n address h
      cases n with
      | zero => rfl
      | succ n => rw [window, window, List.take_succ_cons, ih n _ (by omega)]

/-! ## §2. The chip. -/

/-- The registers that a transfer of a packet goes through, the FIFO, the field
`current_mode` of the driver, and the payloads that have gone on air. -/
structure Chip where
  opMode : UInt8
  fifoAddrPtr : UInt8
  fifo : UInt8 → UInt8
  irqFlags : UInt8
  payloadLength : UInt8
  fifoTxBaseAddr : UInt8
  fifoRxCurrentAddr : UInt8
  rxNbBytes : UInt8
  currentMode : UInt32
  air : List (List UInt8)

/-- The mode bits of `RegOpMode`. -/
def Chip.mode (c : Chip) : UInt8 := c.opMode &&& 0x07

/-- A register; the others hold zero. -/
def Chip.register (c : Chip) (address : UInt8) : UInt8 :=
  if address = Reg.opMode then c.opMode
  else if address = Reg.fiFoAddPtr then c.fifoAddrPtr
  else if address = Reg.fiFoTxBaseAddr then c.fifoTxBaseAddr
  else if address = Reg.fiFoRxCurrentAddr then c.fifoRxCurrentAddr
  else if address = Reg.irqFlags then c.irqFlags
  else if address = Reg.rxNbBytes then c.rxNbBytes
  else if address = Reg.payloadLength then c.payloadLength
  else 0

/-- A write of one byte; an IRQ flag is cleared by writing a one. -/
def Chip.set (c : Chip) (address value : UInt8) : Chip :=
  if address = Reg.opMode ||| 0x80 then { c with opMode := value }
  else if address = Reg.fiFoAddPtr ||| 0x80 then { c with fifoAddrPtr := value }
  else if address = Reg.irqFlags ||| 0x80 then { c with irqFlags := c.irqFlags &&& ~~~value }
  else if address = Reg.payloadLength ||| 0x80 then { c with payloadLength := value }
  else c

/-- One SPI transfer, or one access to `current_mode`.  The FIFO is read and written
at its address pointer, which moves on. -/
def Chip.answer (c : Chip) : (o : DriverOp) → o.Resp × Chip
  | .spiWriteThenRead address =>
      if address = Reg.fifo then
        (c.fifo c.fifoAddrPtr, { c with fifoAddrPtr := c.fifoAddrPtr + 1 })
      else (c.register address, c)
  | .spiWrite [] => ((), c)
  | .spiWrite (address :: data) =>
      if address = Reg.fifo ||| 0x80 then
        ((), { c with
          fifo := fill c.fifo c.fifoAddrPtr data
          fifoAddrPtr := c.fifoAddrPtr + UInt8.ofNat data.length })
      else
        match data with
        | [value] => ((), c.set address value)
        | _ => ((), c)
  | .getMode => (c.currentMode, c)
  | .setMode mode => ((), { c with currentMode := mode })
  | .setTransmitBuffer _ => ((), c)
  | .uninitialised => ((0 : UInt8), c)

/-! ## §3. What it does by itself. -/

/-- A scan for channel activity ends, or a transmission does. -/
inductive ChipEvent where
  | cadDone (detected : Bool)
  | txDone

/-- What the chip does on its own: a scan ends, or a packet has been sent. -/
def Chip.event (c : Chip) : ChipEvent → Option Chip
  | .cadDone detected =>
      if c.mode = 7 then
        some { c with
          opMode := c.opMode &&& 0xF8 ||| 1
          irqFlags := c.irqFlags ||| (if detected then 0x05 else 0x04) }
      else none
  | .txDone =>
      if c.mode = 3 then
        some { c with
          opMode := c.opMode &&& 0xF8 ||| 1
          irqFlags := c.irqFlags ||| 0x08
          air := c.air ++ [window c.fifo c.fifoTxBaseAddr c.payloadLength.toNat] }
      else none

/-- A packet, and where in the FIFO the chip puts it. -/
structure RxPacket where
  address : UInt8
  bytes : List UInt8
  deriving DecidableEq

/-- In receive mode a packet of at most 255 bytes comes in: `RxDone`. -/
def Chip.arrive (c : Chip) (p : RxPacket) : Option Chip :=
  if c.mode = 5 ∧ p.bytes.length < 256 then
    some { c with
      fifo := fill c.fifo p.address p.bytes
      fifoRxCurrentAddr := p.address
      rxNbBytes := UInt8.ofNat p.bytes.length
      irqFlags := c.irqFlags ||| 0x40 }
  else none

/-- The chip has done one of these. -/
def Chip.Quiet (c c' : Chip) : Prop := ∃ e, c.event e = some c'

/-! ## §4. Bits. -/

/-- The mode bits after a mode was put in. -/
theorem mode_bits (read mode : UInt8) : (read &&& 0xF8 ||| mode) &&& 0x07 = mode &&& 0x07 := by
  rw [or_and_byte, UInt8.and_assoc, show (0xF8 &&& 0x07 : UInt8) = 0 from rfl, UInt8.and_zero,
    UInt8.zero_or]

/-- A scan ends without touching the flag of a transmission. -/
theorem txDone_bit (flags : UInt8) (detected : Bool) :
    (flags ||| (if detected then 0x05 else 0x04)) &&& 0x08 = flags &&& 0x08 := by
  rw [or_and_byte]
  cases detected
  · exact UInt8.or_zero
  · exact UInt8.or_zero

theorem rxDone_bit (flags : UInt8) : (flags ||| 0x40) &&& 0x40 ≠ 0 := by
  rw [or_and_byte]
  intro h
  exact absurd (UInt8.or_eq_zero_iff.mp h).2 (by decide)

/-! ## §5. Modes in which nothing happens. -/

/-- What a chip does by itself, it does in one of two modes. -/
theorem Chip.Quiet.cases {c c' : Chip} (h : c.Quiet c') :
    (c.mode = 7 ∧ ∃ detected : Bool, c' = { c with
        opMode := c.opMode &&& 0xF8 ||| 1
        irqFlags := c.irqFlags ||| (if detected then 0x05 else 0x04) })
      ∨ (c.mode = 3 ∧ c' = { c with
        opMode := c.opMode &&& 0xF8 ||| 1
        irqFlags := c.irqFlags ||| 0x08
        air := c.air ++ [window c.fifo c.fifoTxBaseAddr c.payloadLength.toNat] }) := by
  obtain ⟨e, he⟩ := h
  cases e with
  | cadDone detected =>
      rw [Chip.event] at he
      split at he
      next hmode => exact Or.inl ⟨hmode, detected, (Option.some.inj he).symm⟩
      next => exact absurd he (by simp)
  | txDone =>
      rw [Chip.event] at he
      split at he
      next hmode => exact Or.inr ⟨hmode, (Option.some.inj he).symm⟩
      next => exact absurd he (by simp)

/-- Receiving or in standby, with these payloads on air. -/
def Calm (air : List (List UInt8)) (c : Chip) : Prop :=
  (c.mode = 5 ∨ c.mode = 1) ∧ c.air = air

/-- In a mode without events the chip stays as it is. -/
theorem kept_still {P : Chip → Prop} (h : ∀ c, P c → c.mode = 5 ∨ c.mode = 1) :
    KeptBy Chip.Quiet P := by
  intro c c' hP hquiet
  have hmode := h c hP
  rcases hquiet.cases with ⟨h7, -⟩ | ⟨h3, -⟩
  · rw [h7] at hmode
    exact absurd hmode (by decide)
  · rw [h3] at hmode
    exact absurd hmode (by decide)

/-- What else may happen to a chip whose packet is being read out: `current_mode` and
the mode change, the latter to standby. -/
def Meddle (c c' : Chip) : Prop :=
  c.Quiet c' ∨ ∃ opMode currentMode, (opMode = c.opMode ∨ opMode &&& 0x07 = 1)
    ∧ c' = { c with opMode := opMode, currentMode := currentMode }

/-- That leaves the chip calm, and what does not depend on the two. -/
theorem kept_calm {air : List (List UInt8)} {R : Chip → Prop}
    (hR : ∀ c opMode currentMode, R c →
      R { c with opMode := opMode, currentMode := currentMode }) :
    KeptBy Meddle (fun c => Calm air c ∧ R c) := by
  rintro c c' hP (hquiet | ⟨opMode, currentMode, hop, rfl⟩)
  · exact kept_still (P := fun c => Calm air c ∧ R c) (fun c h => h.1.1) c c' hP hquiet
  · refine ⟨⟨?_, hP.1.2⟩, hR c opMode currentMode hP.2⟩
    rcases hop with rfl | hop
    · exact hP.1.1
    · exact Or.inr hop

/-! ## §6. One access. -/

/-- The chip among others that change it by `rely`. -/
def onChip (rely : Chip → Chip → Prop) (inside : Chip → Prop) (stops : Stop → Prop) :
    Setting DriverOp DriverOp.Resp Stop Chip := ⟨Chip.answer, rely, inside, stops⟩

section Access

variable {rely : Chip → Chip → Prop} {inside : Chip → Prop} {stops : Stop → Prop}
  {P : Chip → Prop}

/-- Reading a register other than the FIFO. -/
theorem meets_read {address : UInt8} {Q : UInt8 → Chip → Prop}
    (ha : address &&& 0x7F ≠ Reg.fifo) (hP : KeptBy rely P) (hQ : ∀ r, KeptBy rely (Q r))
    (hin : ∀ c, P c → inside c) (h : ∀ c, P c → Q (c.register (address &&& 0x7F)) c) :
    Meets (onChip rely inside stops) P (loRaRead address) Q := by
  apply meets_perform hP hQ
  intro c hc
  refine ⟨hin c hc, ?_⟩
  have hanswer : c.answer (.spiWriteThenRead (address &&& 0x7F))
      = (c.register (address &&& 0x7F), c) := by
    simp only [Chip.answer]
    rw [if_neg ha]
    rfl
  show Q (c.answer (.spiWriteThenRead (address &&& 0x7F))).1
    (c.answer (.spiWriteThenRead (address &&& 0x7F))).2
  rw [hanswer]
  exact h c hc

/-- Writing a register other than the FIFO. -/
theorem meets_write {address value : UInt8} {Q : Chip → Prop}
    (ha : address ||| 0x80 ≠ Reg.fifo ||| 0x80) (hP : KeptBy rely P) (hQ : KeptBy rely Q)
    (hin : ∀ c, P c → inside c) (h : ∀ c, P c → Q (c.set (address ||| 0x80) value)) :
    Meets (onChip rely inside stops) P (loRaWrite address value) (fun _ => Q) := by
  apply meets_perform hP (fun _ => hQ)
  intro c hc
  refine ⟨hin c hc, ?_⟩
  have hanswer : c.answer (.spiWrite [address ||| 0x80, value])
      = ((), c.set (address ||| 0x80) value) := by
    simp only [Chip.answer]
    rw [if_neg ha]
    rfl
  show Q (c.answer (.spiWrite [address ||| 0x80, value])).2
  rw [hanswer]
  exact h c hc

theorem loRaGotoMode_eq {mode : UInt32} (h : mode ∈ Mode.handled) :
    loRaGotoMode mode = (do
      let read ← loRaRead Reg.opMode
      perform (.setMode mode)
      loRaWrite Reg.opMode ((read &&& 0xF8) ||| mode.toUInt8)) := by
  unfold loRaGotoMode
  simp only [if_pos h]

/-- A change of mode is two writes: `current_mode`, and then the register. -/
theorem meets_gotoMode {mode : UInt32} {R Q : Chip → Prop} (hmode : mode ∈ Mode.handled)
    (hP : KeptBy rely P) (hR : KeptBy rely R) (hQ : KeptBy rely Q)
    (hin : ∀ c, P c → inside c) (hin' : ∀ c, R c → inside c)
    (hfield : ∀ c, P c → R { c with currentMode := mode })
    (hregister : ∀ c read, R c →
      Q { c with opMode := (read &&& 0xF8) ||| mode.toUInt8 }) :
    Meets (onChip rely inside stops) P (loRaGotoMode mode) (fun _ => Q) := by
  rw [loRaGotoMode_eq hmode]
  apply meets_bind (R := fun _ => P)
  · exact meets_read (by decide) hP (fun _ => hP) hin (fun c hc => hc)
  · intro read
    apply meets_bind (R := fun _ => R)
    · exact meets_perform hP (fun _ => hR) (fun c hc => ⟨hin c hc, hfield c hc⟩)
    · intro _
      exact meets_write (by decide) hR hQ hin' (fun c hc => hregister c read hc)

end Access

end LoRaGateway
