/-
  LoRaGateway.Driver.Serial
  ─────────────────────────
  **A TRANSMISSION AND AN INTERRUPT.**

  `LoRa_transmit` runs in the process that writes to the device, `LoRa_receive` in
  the interrupt of a packet that has come in.  The mutex covers one SPI transfer, so
  their transfers and their accesses to `current_mode` interleave in every order.

    • `receive_meets` — `LoRa_receive` reads the packet out, whatever happens
      meanwhile to the mode,
    • `transmit_prelude`, `sendData_meets` — `LoRa_transmit` up to the scan of the
      channel, and after it,
    • `transmit_receive_serialisable` — both give what they give one after the other,
      when the scan does not begin, and no other mode is saved, during `LoRa_receive`,
    • `transmission_leaves_standby`, `packet_lost_by_scan` — what happens otherwise.
-/
import LoRaGateway.Driver.Chip
import LoRaGateway.Driver.Receive
import LoRaGateway.Driver.Transmit

namespace LoRaGateway

open LoRaGateway.Lib
open LoRaGateway.Lib.Program (Setting Wp Meets KeptBy meets_ret meets_stop meets_perform
  meets_bind meets_fact)

/-! ## §1. The handler. -/

/-- Where the interrupt runs: the mode may be changed under it. -/
abbrev meddled (air : List (List UInt8)) : Setting DriverOp DriverOp.Resp Stop Chip :=
  onChip Meddle (Calm air) (fun _ => False)

/-- The same, with nobody else at work. -/
abbrev quiet : Setting DriverOp DriverOp.Resp Stop Chip :=
  onChip Chip.Quiet (fun _ => True) (fun _ => False)

theorem quiet_narrows (air : List (List UInt8)) : quiet.Narrows (meddled air) :=
  ⟨rfl, fun _ _ h => Or.inl h, fun _ _ => trivial, fun _ h => h⟩

/-- The packet lies in the FIFO, and the chip tells where and how long. -/
def InFifo (p : List UInt8) (c : Chip) : Prop :=
  window c.fifo c.fifoRxCurrentAddr p.length = p ∧ c.rxNbBytes = UInt8.ofNat p.length

/-- It has been signalled and not read yet. -/
def Signalled (air : List (List UInt8)) (p : List UInt8) (c : Chip) : Prop :=
  (Calm air c ∧ InFifo p c ∧ c.irqFlags &&& 0x40 ≠ 0) ∧ p.length < 256

/-- What `LoRa_receive` gives of a packet: its first `PACKET_SIZE` bytes. -/
def Fetched (p : List UInt8) (out : UInt8 × Buffer packetSize) : Prop :=
  out.1.toNat = min packetSize p.length ∧ out.2 = cached p

/-- A packet that comes in is waiting. -/
theorem signalled_of_arrive {c c' : Chip} {p : RxPacket} (h : c.arrive p = some c') :
    Signalled c.air p.bytes c' := by
  unfold Chip.arrive at h
  split at h
  next hc =>
    obtain rfl := Option.some.inj h
    refine ⟨⟨⟨Or.inl hc.1, rfl⟩, ⟨?_, rfl⟩, rxDone_bit _⟩, hc.2⟩
    exact window_fill p.bytes c.fifo p.address (Nat.le_of_lt hc.2)
  next => exact absurd h (by simp)

section Receive

variable {air : List (List UInt8)} {p : List UInt8}

theorem kept_signalled : KeptBy Meddle (Signalled air p) :=
  (kept_calm (R := fun c => InFifo p c ∧ c.irqFlags &&& 0x40 ≠ 0) (fun _ _ _ h => h)).and_fact _

/-- Calm, with the bytes `rest` from the address pointer on. -/
def Unread (air : List (List UInt8)) (k : Nat) (rest : List UInt8) (c : Chip) : Prop :=
  Calm air c ∧ window c.fifo c.fifoAddrPtr k = rest

theorem kept_unread {k : Nat} {rest : List UInt8} : KeptBy Meddle (Unread air k rest) :=
  kept_calm (R := fun c => window c.fifo c.fifoAddrPtr k = rest) (fun _ _ _ h => h)

theorem kept_only_calm : KeptBy Meddle (Calm air) := by
  intro c c' hc hm
  exact (kept_calm (R := fun _ => True) (fun _ _ _ h => h) c c' ⟨hc, trivial⟩ hm).1

/-- One byte of the FIFO, and the address pointer moves on. -/
theorem fifo_meets {k : Nat} {b : UInt8} {rest : List UInt8} :
    Meets (meddled air) (Unread air (k + 1) (b :: rest)) (loRaRead Reg.fifo)
      (fun r c => Unread air k rest c ∧ r = b) := by
  apply meets_perform kept_unread (fun r => kept_unread.and_fact (r = b))
  intro c hc
  obtain ⟨hb, hrest⟩ := List.cons.inj hc.2
  refine ⟨hc.1, ⟨hc.1, ?_⟩, ?_⟩
  · exact hrest
  · exact hb

/-- The FIFO, read from its address pointer on. -/
theorem fifoLoop_meets :
    ∀ (k i : Nat) (data : Buffer packetSize) (rest : List UInt8), i + k ≤ packetSize →
      rest.length = k →
        Meets (meddled air) (Unread air k rest) (fifoLoop k i data)
          (fun out c => Calm air c ∧ data.store i rest = some out) := by
  intro k
  induction k with
  | zero =>
      intro i data rest hi hlen
      obtain rfl := List.eq_nil_of_length_eq_zero hlen
      have hstore : data.store i [] = some data := by
        unfold Buffer.store
        rw [dif_pos (by simpa using hi)]
        congr 1
        apply Buffer.ext
        simp
      exact meets_ret kept_unread (fun c hc => ⟨hc.1, hstore⟩)
  | succ k ih =>
      intro i data rest hi hlen
      cases rest with
      | nil => exact absurd hlen (by simp)
      | cons b rest =>
          have hfit : i + ([b] : List UInt8).length ≤ packetSize := by
            rw [List.length_singleton]
            omega
          -- one byte lands at place `i`, the others behind it
          obtain ⟨data₁, hone⟩ : ∃ data₁, data.store i [b] = some data₁ := ⟨_, dif_pos hfit⟩
          rw [fifoLoop]
          apply meets_bind fifo_meets
          intro r
          apply meets_fact
          rintro rfl
          rw [hone]
          apply Meets.post (ih (i + 1) data₁ rest (by omega) (by simpa using hlen))
          rintro out c ⟨hcalm, hstore⟩
          refine ⟨hcalm, ?_⟩
          rw [← hstore]
          exact (Buffer.store_store hone).symm

/-- Reading out a packet that is waiting. -/
theorem readPacket_meets :
    Meets (meddled air) (Signalled air p) (readPacket (UInt8.ofNat packetSize))
      (fun out c => Calm air c ∧ Fetched p out) := by
  apply meets_fact
  intro hlen
  have hnb : (UInt8.ofNat p.length).toNat = p.length := by
    rw [UInt8.toNat_ofNat', Nat.mod_eq_of_lt hlen]
  -- the flags are cleared, the packet stays
  have hlanded : KeptBy Meddle (fun c => Calm air c ∧ InFifo p c) := kept_calm (fun _ _ _ h => h)
  unfold readPacket
  apply meets_bind (R := fun _ c => Calm air c ∧ InFifo p c)
  · exact meets_write (by decide) (kept_calm (fun _ _ _ h => h)) hlanded (fun _ hc => hc.1)
      (fun c hc => ⟨hc.1, hc.2.1⟩)
  intro _
  apply meets_bind (R := fun r c => (Calm air c ∧ InFifo p c) ∧ r = UInt8.ofNat p.length)
  · exact meets_read (by decide) hlanded (fun r => hlanded.and_fact _) (fun _ hc => hc.1)
      (fun c hc => ⟨hc, hc.2.2⟩)
  intro dataLen
  apply meets_fact
  rintro rfl
  -- from here on only the bytes at the address that was read
  apply meets_bind (R := fun r c => Calm air c ∧ window c.fifo r p.length = p)
  · exact meets_read (by decide) hlanded (fun r => kept_calm (fun _ _ _ h => h))
      (fun _ hc => hc.1) (fun c hc => ⟨hc.1, hc.2.1⟩)
  intro read
  apply meets_bind (R := fun _ => Unread air p.length p)
  · exact meets_write (by decide) (kept_calm (fun _ _ _ h => h)) kept_unread
      (fun _ hc => hc.1) (fun c hc => hc)
  intro _
  have hmin := toNat_min (UInt8.ofNat p.length)
  rw [hnb] at hmin
  apply meets_bind
  · apply Meets.pre (fifoLoop_meets _ 0 (Buffer.zero packetSize) (p.take packetSize) ?_ ?_)
    · intro c hc
      refine ⟨hc.1, ?_⟩
      rw [hmin, window_take c.fifo p.length _ _ (Nat.min_le_right _ _), hc.2,
        List.take_eq_take_iff]
      omega
    · rw [hmin]
      omega
    · rw [hmin, List.length_take]
  · intro data
    apply meets_fact
    intro hstore
    refine meets_ret (E := meddled air) kept_only_calm ?_
    intro c hc
    refine ⟨hc, hmin, ?_⟩
    exact (Option.some.inj ((Buffer.store_zero _).symm.trans hstore)).symm

/-- **`LoRa_receive` reads the packet out**, and leaves the chip as its last change of
mode does. -/
theorem receive_meets {E : Setting DriverOp DriverOp.Resp Stop Chip} (hE : E.Narrows (meddled air))
    {F : Chip → Prop} (hF : KeptBy E.rely F)
    (hlast : Meets E (Calm air) (loRaGotoMode Mode.rxContinuous) (fun _ => F))
    (data : Buffer packetSize) :
    Meets E (Signalled air p) (loRaReceive data (UInt8.ofNat packetSize))
      (fun out c => Fetched p out ∧ F c) := by
  unfold loRaReceive
  apply meets_bind (R := fun _ => Signalled air p)
  · apply Meets.narrow _ hE
    exact meets_gotoMode (by decide) kept_signalled kept_signalled kept_signalled
      (fun _ hc => hc.1.1) (fun _ hc => hc.1.1) (fun c hc => hc)
      (fun c read hc => ⟨⟨⟨Or.inr (mode_bits read 1), hc.1.1.2⟩, hc.1.2⟩, hc.2⟩)
  intro _
  apply meets_bind (R := fun r c => Signalled air p c ∧ r &&& 0x40 ≠ 0)
  · apply Meets.narrow _ hE
    exact meets_read (by decide) kept_signalled (fun r => kept_signalled.and_fact _)
      (fun _ hc => hc.1.1) (fun c hc => ⟨hc, hc.1.2.2⟩)
  intro read
  apply meets_fact
  intro hdone
  rw [if_pos hdone]
  apply meets_bind (readPacket_meets.narrow hE)
  intro out
  apply meets_fact
  intro hout
  apply meets_bind hlast
  intro _
  exact meets_ret hF (fun c hc => ⟨hout, hc⟩)

end Receive

/-! ## §2. The transmission. -/

/-- One round of the scan, after the change of mode. -/
def cadRound (fuel : Nat) : Driver Unit := do
  cadDoneLoop fuel
  let read ← loRaRead Reg.irqFlags
  loRaWrite Reg.irqFlags 0xFF
  if read &&& 0x01 ≠ 0 then cadLoop fuel else pure ()

theorem cadLoop_succ (fuel : Nat) :
    cadLoop (fuel + 1) = loRaGotoMode Mode.cad >>= fun _ => cadRound fuel := rfl

/-- Where the transmission runs once it has begun to scan: the chip does not receive,
so no interrupt comes in between. -/
abbrev transmitting : Setting DriverOp DriverOp.Resp Stop Chip :=
  onChip Chip.Quiet (fun c => c.mode ≠ 5) (fun _ => True)

/-- A scan is under way, or it is over. -/
def Scanning (c : Chip) : Prop := (c.mode = 7 ∨ c.mode = 1) ∧ c.air = []

/-- In addition no transmission is signalled as done. -/
def Cleared (c : Chip) : Prop := Scanning c ∧ c.irqFlags &&& 0x08 = 0

/-- In standby, with nothing sent yet. -/
def Standing (c : Chip) : Prop := c.mode = 1 ∧ c.air = [] ∧ c.irqFlags &&& 0x08 = 0

/-- The payload is in the FIFO. -/
def Loaded (text : List UInt8) (c : Chip) : Prop :=
  Standing c ∧ window c.fifo c.fifoTxBaseAddr c.payloadLength.toNat = text

/-- The payload has gone on air. -/
def Aired (text : List UInt8) (c : Chip) : Prop := c.mode = 1 ∧ c.air = [text]

/-- It is going on air, or it has gone. -/
def Airing (text : List UInt8) (c : Chip) : Prop :=
  (c.mode = 3 ∧ c.air = [] ∧ c.irqFlags &&& 0x08 = 0
      ∧ window c.fifo c.fifoTxBaseAddr c.payloadLength.toNat = text)
    ∨ Aired text c

/-- Back in receive mode. -/
def Listening (air : List (List UInt8)) (c : Chip) : Prop :=
  c.mode = 5 ∧ c.currentMode = Mode.rxContinuous ∧ c.air = air

/-- Nothing but the payload is on air, and it is there if `LoRa_transmit` says so. -/
def OnAir (text : List UInt8) (status : UInt8) (air : List (List UInt8)) : Prop :=
  (air = [] ∨ air = [text]) ∧ (status = 1 → air = [text])

/-- How a transmission leaves the chip. -/
def Done (text : List UInt8) (status : UInt8) (c : Chip) : Prop :=
  Listening c.air c ∧ OnAir text status c.air

/-- A packet that was received meanwhile changes nothing of it. -/
theorem Done.of_listening {text : List UInt8} {status : UInt8} {c t : Chip}
    (h : Done text status c) (ht : Listening c.air t) : Done text status t := by
  unfold Done
  rw [ht.2.2]
  exact ⟨ht, h.2⟩

theorem kept_scanning : KeptBy Chip.Quiet Scanning := by
  intro c c' hc hquiet
  rcases hquiet.cases with ⟨-, detected, rfl⟩ | ⟨h3, -⟩
  · exact ⟨Or.inr (mode_bits _ 1), hc.2⟩
  · have hmode := hc.1
    rw [h3] at hmode
    exact absurd hmode (by decide)

theorem kept_cleared : KeptBy Chip.Quiet Cleared := by
  intro c c' hc hquiet
  refine ⟨kept_scanning c c' hc.1 hquiet, ?_⟩
  rcases hquiet.cases with ⟨-, detected, rfl⟩ | ⟨h3, -⟩
  · exact (txDone_bit _ _).trans hc.2
  · have hmode := hc.1.1
    rw [h3] at hmode
    exact absurd hmode (by decide)

theorem kept_airing {text : List UInt8} : KeptBy Chip.Quiet (Airing text) := by
  rintro c c' (⟨h3, hair, -, hwin⟩ | haired) hquiet
  · rcases hquiet.cases with ⟨h7, -⟩ | ⟨-, rfl⟩
    · rw [h3] at h7
      exact absurd h7 (by decide)
    -- `TxDone`: what goes on air is the window of the FIFO
    · refine Or.inr ⟨mode_bits _ 1, ?_⟩
      show c.air ++ [window c.fifo c.fifoTxBaseAddr c.payloadLength.toNat] = [text]
      rw [hair, hwin]
      rfl
  · exact Or.inr (kept_still (P := Aired text) (fun c h => Or.inr h.1) c c' haired hquiet)

/-- A scan can not be taken for receiving. -/
theorem Scanning.inside {c : Chip} (h : Scanning c) : c.mode ≠ 5 := by
  rcases h.1 with h | h
  · rw [h]; decide
  · rw [h]; decide

theorem Standing.inside {c : Chip} (h : Standing c) : c.mode ≠ 5 := by
  rw [h.1]
  decide

theorem Airing.inside {text : List UInt8} {c : Chip} (h : Airing text c) : c.mode ≠ 5 := by
  rcases h with h | h
  · rw [h.1]; decide
  · rw [h.1]; decide

theorem cadDoneLoop_meets (fuel : Nat) :
    Meets transmitting Scanning (cadDoneLoop fuel) (fun _ => Scanning) := by
  induction fuel with
  | zero => exact meets_stop trivial
  | succ fuel ih =>
      unfold cadDoneLoop
      apply meets_bind (R := fun _ => Scanning)
      · exact meets_read (by decide) kept_scanning (fun _ => kept_scanning)
          (fun _ hc => hc.inside) (fun _ hc => hc)
      intro read
      split
      · exact ih
      · exact meets_ret (E := transmitting) kept_scanning (fun _ hc => hc)

/-- A round of the scan clears the flags, and a busy channel is scanned again. -/
theorem cadRound_meets {fuel : Nat}
    (hloop : Meets transmitting Cleared (cadLoop fuel) (fun _ => Cleared)) :
    Meets transmitting Scanning (cadRound fuel) (fun _ => Cleared) := by
  unfold cadRound
  apply meets_bind (cadDoneLoop_meets fuel)
  intro _
  apply meets_bind (R := fun _ => Scanning)
  · exact meets_read (by decide) kept_scanning (fun _ => kept_scanning)
      (fun _ hc => hc.inside) (fun _ hc => hc)
  intro read
  apply meets_bind (R := fun _ => Cleared)
  · apply meets_write (by decide) kept_scanning kept_cleared (fun _ hc => hc.inside)
    intro c hc
    refine ⟨hc, ?_⟩
    show (c.irqFlags &&& ~~~0xFF) &&& 0x08 = 0
    rw [show (~~~0xFF : UInt8) = 0 from rfl, UInt8.and_zero, UInt8.zero_and]
  intro _
  split
  · exact hloop
  · exact meets_ret (E := transmitting) kept_cleared (fun _ hc => hc)

theorem cadLoop_meets (fuel : Nat) :
    Meets transmitting Cleared (cadLoop fuel) (fun _ => Cleared) := by
  induction fuel with
  | zero => exact meets_stop trivial
  | succ fuel ih =>
      rw [cadLoop_succ]
      apply meets_bind (R := fun _ => Scanning)
      · exact meets_gotoMode (R := Scanning) (by decide) kept_cleared kept_scanning
          kept_scanning (fun _ hc => hc.1.inside) (fun _ hc => hc.inside) (fun _ hc => hc.1)
          (fun c read hc => ⟨Or.inl (mode_bits read 7), hc.2⟩)
      · intro _
        exact cadRound_meets ih

theorem kept_currentMode (mode : UInt32) :
    KeptBy Chip.Quiet (fun c => c.currentMode = mode) := by
  intro c c' hc hquiet
  rcases hquiet.cases with ⟨-, detected, rfl⟩ | ⟨-, rfl⟩
  · exact hc
  · exact hc

/-- **Back to receiving**, from whatever does not speak of `current_mode`. -/
theorem goBack_meets {inside : Chip → Prop} {stops : Stop → Prop} {P : Chip → Prop}
    {A : List (List UInt8) → Prop} (hP : KeptBy Chip.Quiet P) (hin : ∀ c, P c → inside c)
    (hfield : ∀ c mode, P c → P { c with currentMode := mode }) (hair : ∀ c, P c → A c.air) :
    Meets (onChip Chip.Quiet inside stops) P (loRaGotoMode Mode.rxContinuous)
      (fun _ c => Listening c.air c ∧ A c.air) :=
  meets_gotoMode (R := fun c => P c ∧ c.currentMode = Mode.rxContinuous) (by decide) hP
    (hP.and (kept_currentMode _)) (kept_still (fun _ hc => Or.inl hc.1.1)) hin
    (fun c hc => hin c hc.1) (fun c hc => ⟨hfield c _ hc, rfl⟩)
    (fun c read hc => ⟨⟨mode_bits read 5, hc.2, rfl⟩, hair c hc.1⟩)

section Send

variable {text : List UInt8}

/-- The branch of the waiting loop for a transmission that is done. -/
theorem txDone_meets :
    Meets transmitting (Aired text)
      (do loRaWrite Reg.irqFlags 0xFF
          loRaGotoMode Mode.rxContinuous
          pure (1 : UInt8)) (Done text) := by
  have haired : KeptBy Chip.Quiet (Aired text) := kept_still (fun _ hc => Or.inr hc.1)
  have hin : ∀ c, Aired text c → c.mode ≠ 5 := fun c hc => Airing.inside (Or.inr hc)
  apply meets_bind (R := fun _ => Aired text)
  · exact meets_write (by decide) haired haired hin (fun _ hc => hc)
  intro _
  apply meets_bind (goBack_meets (A := fun air => air = [text]) haired hin (fun _ _ hc => hc)
    (fun _ hc => hc.2))
  intro _
  refine meets_ret (E := transmitting) (kept_still (fun _ hc => Or.inl hc.1.1)) ?_
  intro c hc
  exact ⟨hc.1, Or.inr hc.2, fun _ => hc.2⟩

/-- And for a timeout, whether or not the payload is on air. -/
theorem timeout_meets :
    Meets transmitting (Airing text)
      (do loRaGotoMode Mode.rxContinuous
          pure (0 : UInt8)) (Done text) := by
  apply meets_bind (goBack_meets (A := fun air => air = [] ∨ air = [text]) kept_airing
    (fun _ hc => hc.inside) (fun _ _ hc => hc) ?_)
  · intro _
    refine meets_ret (E := transmitting) (kept_still (fun _ hc => Or.inl hc.1.1)) ?_
    intro c hc
    exact ⟨hc.1, hc.2, fun h => absurd h (by decide)⟩
  · rintro c (hc | hc)
    · exact Or.inl hc.2.1
    · exact Or.inr hc.2

theorem txDoneLoop_meets (k : Nat) :
    Meets transmitting (Airing text) (txDoneLoop Mode.rxContinuous k) (Done text) := by
  -- the flag is seen only when the payload has gone
  have hread : Meets transmitting (Airing text) (loRaRead Reg.irqFlags)
      (fun r c => Airing text c ∧ (r &&& 0x08 ≠ 0 → Aired text c)) := by
    apply meets_read (by decide) kept_airing
    · intro r
      apply kept_airing.and
      intro c c' hc hquiet hr
      exact kept_still (P := Aired text) (fun _ h => Or.inr h.1) c c' (hc hr) hquiet
    · exact fun _ hc => hc.inside
    · rintro c (hc | hc)
      · exact ⟨Or.inl hc, fun h => absurd hc.2.2.1 h⟩
      · exact ⟨Or.inr hc, fun _ => hc⟩
  induction k with
  | zero =>
      unfold txDoneLoop
      apply meets_bind hread
      intro read
      split
      next h => exact txDone_meets.pre (fun c hc => hc.2 h)
      next => exact timeout_meets.pre (fun c hc => hc.1)
  | succ k ih =>
      unfold txDoneLoop
      apply meets_bind hread
      intro read
      split
      next h => exact txDone_meets.pre (fun c hc => hc.2 h)
      next => exact ih.pre (fun c hc => hc.1)

/-- The burst puts the text where the transmitter takes it from. -/
theorem burst_meets (data : Buffer packetSize) :
    Meets transmitting
      (fun c => Standing c ∧ c.fifoAddrPtr = c.fifoTxBaseAddr
        ∧ c.payloadLength = UInt8.ofNat (cstr data.bytes).length)
      (loRaBurstWrite Reg.fifo data) (fun _ => Loaded (cstr data.bytes)) := by
  by_cases h : (0 : UInt8) ∈ data.bytes ∧ (cstr data.bytes).length ≤ 58
  · have hlen := h.2
    rw [loRaBurstWrite_eq h.1 hlen]
    apply meets_perform (kept_still (fun _ hc => Or.inr hc.1.1))
      (fun _ => kept_still (fun _ hc => Or.inr hc.1.1))
    rintro c ⟨hstanding, hptr, hlength⟩
    refine ⟨hstanding.inside, hstanding, ?_⟩
    show window (fill c.fifo c.fifoAddrPtr (cstr data.bytes)) c.fifoTxBaseAddr
      c.payloadLength.toNat = cstr data.bytes
    rw [hlength, hptr, UInt8.toNat_ofNat', Nat.mod_eq_of_lt (show _ < 256 by omega)]
    exact window_fill _ _ _ (by omega)
  · rw [loRaBurstWrite_undefined h]
    exact meets_stop trivial

/-- In standby nothing happens by itself. -/
theorem kept_standing (R : Chip → Prop) : KeptBy Chip.Quiet (fun c => Standing c ∧ R c) :=
  kept_still (fun _ hc => Or.inr hc.1.1)

/-- A register is set in standby. -/
theorem standing_write {R R' : Chip → Prop} {address value : UInt8}
    (ha : address ||| 0x80 ≠ Reg.fifo ||| 0x80)
    (h : ∀ c, Standing c → R c →
      Standing (c.set (address ||| 0x80) value) ∧ R' (c.set (address ||| 0x80) value)) :
    Meets transmitting (fun c => Standing c ∧ R c) (loRaWrite address value)
      (fun _ c => Standing c ∧ R' c) :=
  meets_write ha (kept_standing R) (kept_standing R') (fun _ hc => hc.1.inside)
    (fun c hc => h c hc.1 hc.2)

/-- **The transmission proper.** -/
theorem sendData_meets (data : Buffer packetSize) (timeout : UInt16) :
    Meets transmitting Cleared
      (sendData data (UInt8.ofNat (cstr data.bytes).length) timeout Mode.rxContinuous)
      (Done (cstr data.bytes)) := by
  have hloaded : KeptBy Chip.Quiet (Loaded (cstr data.bytes)) := kept_standing _
  unfold sendData
  apply meets_bind (R := fun _ c => Standing c ∧ True)
  · exact meets_gotoMode (R := Cleared) (by decide) kept_cleared kept_cleared
      (kept_standing _) (fun _ hc => hc.1.inside) (fun _ hc => hc.1.inside) (fun _ hc => hc)
      (fun c read hc => ⟨⟨mode_bits read 1, hc.1.2, hc.2⟩, trivial⟩)
  intro _
  apply meets_bind (R := fun r c => Standing c ∧ r = c.fifoTxBaseAddr)
  · exact meets_read (by decide) (kept_standing _) (fun _ => kept_standing _)
      (fun _ hc => hc.1.inside) (fun c hc => ⟨hc.1, rfl⟩)
  -- the address pointer and the length, and then the payload
  intro read
  apply meets_bind (R := fun _ c => Standing c ∧ c.fifoAddrPtr = c.fifoTxBaseAddr)
  · exact standing_write (by decide) (fun c hc hread => ⟨hc, hread⟩)
  intro _
  apply meets_bind (R := fun _ c => Standing c ∧ c.fifoAddrPtr = c.fifoTxBaseAddr
    ∧ c.payloadLength = UInt8.ofNat (cstr data.bytes).length)
  · exact standing_write (by decide) (fun c hc hptr => ⟨hc, hptr, rfl⟩)
  intro _
  apply meets_bind (burst_meets data)
  intro _
  apply meets_bind (R := fun _ => Airing (cstr data.bytes))
  · exact meets_gotoMode (R := Loaded (cstr data.bytes)) (by decide) hloaded hloaded
      kept_airing (fun _ hc => hc.1.inside) (fun _ hc => hc.1.inside) (fun _ hc => hc)
      (fun c read hc => Or.inl ⟨mode_bits read 3, hc.1.2.1, hc.1.2.2, hc.2⟩)
  · intro _
    exact txDoneLoop_meets _

end Send

/-! ## §3. The transmission before it scans. -/

/-- The operation that takes the chip out of receiving for good: the first one that
starts a scan. -/
def entersCad : DriverOp → Bool
  | .spiWrite [address, value] => address == Reg.opMode ||| 0x80 && value &&& 0x07 == 7
  | _ => false

/-- What `LoRa_transmit` may do while a packet is being read out: it saves
`current_mode` only when it is `RXCONTINUOUS_MODE`, and it does not start a scan. -/
def careful (c : Chip) : DriverOp → Bool
  | .getMode => c.currentMode == Mode.rxContinuous
  | o => !entersCad o

/-- `careful` allows the operation. -/
def Careful (c : Chip) (o : DriverOp) : Prop := careful c o = true

theorem Careful.not_entersCad {c : Chip} {o : DriverOp} (h : Careful c o) :
    entersCad o = false := by
  cases o with
  | getMode => rfl
  | _ => simpa [Careful, careful] using h

/-- The rest of a transmission from some place on. -/
abbrev Goes (text : List UInt8) (p : Driver UInt8) (c : Chip) : Prop :=
  p.Wp transmitting (Done text) c

/-- Up to the first scan the transmission reads and writes the mode only. -/
theorem transmit_prelude (fuel : Nat) (data : Buffer packetSize) (timeout : UInt16) :
    Prelude Chip.answer Meddle (fun o => entersCad o = false) (Calm []) (Goes (cstr data.bytes))
      (do loRaGotoMode Mode.standby
          cadLoop fuel
          sendData data (UInt8.ofNat (cstr data.bytes).length) timeout Mode.rxContinuous) := by
  -- reading the mode, and writing `current_mode`
  have hread : ∀ c, Calm [] c → Meddle c (c.answer (.spiWriteThenRead (Reg.opMode &&& 0x7F))).2 :=
    fun c _ => Or.inr ⟨c.opMode, c.currentMode, Or.inl rfl, rfl⟩
  have hset : ∀ mode c, Calm [] c → Meddle c (c.answer (.setMode mode)).2 :=
    fun mode c _ => Or.inr ⟨c.opMode, mode, Or.inl rfl, rfl⟩
  rw [loRaGotoMode_eq (by decide)]
  simp only [Program.bind_assoc]
  apply prelude_perform hread
  intro (read : UInt8)
  apply prelude_perform (hset _)
  intro _
  apply prelude_perform
  · intro c _
    exact Or.inr ⟨_, c.currentMode, Or.inr (mode_bits read 1), rfl⟩
  intro _
  cases fuel with
  | zero => trivial
  | succ fuel =>
      rw [cadLoop_succ, loRaGotoMode_eq (by decide)]
      simp only [Program.bind_assoc]
      apply prelude_perform hread
      intro (read : UInt8)
      apply prelude_perform (hset _)
      intro _
      -- the write that starts the scan; from here on no packet comes in
      have hmode : (read &&& 0xF8 ||| Mode.cad.toUInt8) &&& 0x07 = 7 := mode_bits read 7
      apply prelude_last
      · simp [entersCad, hmode]
      · intro c hc
        exact meets_bind (cadRound_meets (cadLoop_meets fuel))
          (fun _ => sendData_meets data timeout) _ ⟨Or.inl hmode, hc.2⟩

/-! ## §4. Both of them. -/

/-- The chip, and the interrupt: `get_message` calls `LoRa_receive` with its buffer. -/
def driverPlant (cacheBuffer : Buffer packetSize) :
    Plant DriverOp DriverOp.Resp Stop (UInt8 × Buffer packetSize) Chip ChipEvent RxPacket where
  device := Chip.answer
  event := Chip.event
  arrive := Chip.arrive
  handler := loRaReceive cacheBuffer (UInt8.ofNat packetSize)

/-- `LoRa_transmit`, `LoRa_receive` and the chip. -/
abbrev DriverPair :=
  Pair DriverOp DriverOp.Resp Stop UInt8 (UInt8 × Buffer packetSize) Chip RxPacket

/-- `LoRa_transmit`, as `sx1278_write` calls it: with the length of the text. -/
def transmission (fuel : Nat) (data : Buffer packetSize) : Driver UInt8 :=
  loRaTransmit fuel data (UInt8.ofNat (cstr data.bytes).length) txTimeOut

/-- What the handler gives for the packet that started it. -/
abbrev Good (p : RxPacket) (out : UInt8 × Buffer packetSize) : Prop := Fetched p.bytes out

/-- How far the transmission has come, and in each phase what the handler works on:
before `current_mode` is saved, before the scan, up to the end, and after it. -/
inductive Progress (fuel : Nat) (data : Buffer packetSize) : DriverPair → Prop where
  | saving {w} : w.left = transmission fuel data →
      Serves quiet (Listening []) Good w.state w.right →
      Serves (meddled []) (Calm []) Good w.state w.right → Progress fuel data w
  | scanning {w} :
      Prelude Chip.answer Meddle (fun o => entersCad o = false) (Calm []) (Goes (cstr data.bytes))
        w.left →
      Serves (meddled []) (Calm []) Good w.state w.right → Progress fuel data w
  | sending {w} : Goes (cstr data.bytes) w.left w.state → Rests Good w.right → Progress fuel data w
  | finished {w} (status : UInt8) : w.left = .ret status →
      Serves quiet (Done (cstr data.bytes) status) Good w.state w.right → Progress fuel data w
  | stopped {w} (e : Stop) : w.left = .stop e → Progress fuel data w

section Progress

variable {fuel : Nat} {data cacheBuffer : Buffer packetSize} {w w' : DriverPair}

theorem kept_listening {A : List (List UInt8) → Prop} :
    KeptBy Chip.Quiet (fun c => Listening c.air c ∧ A c.air) :=
  kept_still (fun _ hc => Or.inl hc.1.1)

/-- A handler that nobody disturbs leaves the chip listening. -/
theorem serves_quiet {F : Chip → Prop} {c c' : Chip} {p : RxPacket}
    (hF : ∀ t, Listening c.air t → F t) (h : c.arrive p = some c') :
    Serves quiet F Good c' (some (p, (driverPlant cacheBuffer).handler)) := by
  have hlast : Meets quiet (Calm c.air) (loRaGotoMode Mode.rxContinuous)
      (fun _ t => Listening t.air t ∧ t.air = c.air) :=
    goBack_meets (A := fun air => air = c.air) (kept_still (fun _ hc => hc.1))
      (fun _ _ => trivial) (fun _ _ hc => hc) (fun _ hc => hc.2)
  have hmeets := receive_meets (p := p.bytes) (quiet_narrows c.air)
    (kept_listening (A := fun air => air = c.air)) hlast cacheBuffer
  apply Meets.post hmeets _ c' (signalled_of_arrive h)
  rintro out t ⟨hout, hlisten, hair⟩
  rw [hair] at hlisten
  exact ⟨hout, hF t hlisten⟩

/-- In any case it leaves it calm. -/
theorem serves_meddled {air : List (List UInt8)} {c c' : Chip} {p : RxPacket}
    (hc : Calm air c) (h : c.arrive p = some c') :
    Serves (meddled air) (Calm air) Good c' (some (p, (driverPlant cacheBuffer).handler)) := by
  have hlast : Meets (meddled air) (Calm air) (loRaGotoMode Mode.rxContinuous)
      (fun _ => Calm air) :=
    meets_gotoMode (R := Calm air) (by decide) kept_only_calm kept_only_calm kept_only_calm
      (fun _ hc => hc) (fun _ hc => hc) (fun _ hc => hc)
      (fun c read hc => ⟨Or.inl (mode_bits read 5), hc.2⟩)
  have hsignalled := signalled_of_arrive h
  rw [hc.2] at hsignalled
  exact receive_meets ⟨rfl, fun _ _ h => h, fun _ h => h, fun _ h => h⟩ kept_only_calm hlast
    cacheBuffer c' hsignalled

/-- While the handler is not done the chip is calm. -/
theorem calm_of_serves {right : Option (RxPacket × Driver (UInt8 × Buffer packetSize))}
    {c : Chip} (h : Serves (meddled []) (Calm []) Good c right) : Calm [] c :=
  h.inside (fun _ hc => hc) (fun _ he => he)

/-- **A step of the transmission.**  Saving `current_mode` is harmless while it is
`RXCONTINUOUS_MODE`, and only a handler that rests lets the scan begin. -/
theorem progress_left (h : Progress fuel data w)
    (hok : Undisturbed Careful w (.left : PairMove ChipEvent RxPacket))
    (hstep : pairStep (driverPlant cacheBuffer) w .left = some w') : Progress fuel data w' := by
  obtain ⟨o, k, hleft, rfl⟩ := pairStep_left hstep
  cases h with
  | saving heq hquiet hmeddled =>
      have hsaves : Program.op DriverOp.getMode (fun mode => (do
          loRaGotoMode Mode.standby
          cadLoop fuel
          sendData data (UInt8.ofNat (cstr data.bytes).length) txTimeOut mode)) = Program.op o k :=
        (loRaTransmit_eq fuel data _ txTimeOut).symm.trans (heq.symm.trans hleft)
      cases hsaves
      have hmode : w.state.currentMode = Mode.rxContinuous := by
        by_cases hbusy : Busy w
        · exact beq_iff_eq.mp (hok hbusy _ _ hleft)
        · exact (hquiet.rests hbusy).2.2.1
      apply Progress.scanning
      · show Prelude _ _ _ _ _ (do
          loRaGotoMode Mode.standby
          cadLoop fuel
          sendData data (UInt8.ofNat (cstr data.bytes).length) txTimeOut w.state.currentMode)
        rw [hmode]
        exact transmit_prelude fuel data txTimeOut
      · exact hmeddled
  | scanning hprelude hserves =>
      rw [hleft] at hprelude
      rcases hprelude with hmeddles | ⟨hcad, hgoes⟩
      · obtain ⟨hmeddle, hrest⟩ := hmeddles w.state (calm_of_serves hserves)
        exact Progress.scanning hrest (hserves.later kept_only_calm hmeddle)
      · have hrests : ¬ Busy w := by
          intro hbusy
          exact hcad (Careful.not_entersCad (hok hbusy o k hleft))
        obtain ⟨hdone, hcalm⟩ := hserves.rests hrests
        exact Progress.sending (hgoes w.state hcalm) hdone
  | sending hgoes hrests =>
      rw [hleft] at hgoes
      exact Progress.sending (hgoes w.state Relation.ReflTransGen.refl).2 hrests
  | finished status heq _ =>
      rw [heq] at hleft
      cases hleft
  | stopped e heq =>
      rw [heq] at hleft
      cases hleft

/-- A step of the handler. -/
theorem progress_right (h : Progress fuel data w)
    (hstep : pairStep (driverPlant cacheBuffer) w .right = some w') : Progress fuel data w' := by
  obtain ⟨x, r, out, hright, hadv, rfl⟩ := pairStep_right hstep
  cases h with
  | saving heq hquiet hmeddled =>
      rw [hright] at hquiet hmeddled
      exact Progress.saving heq (hquiet.advance hadv) (hmeddled.advance hadv)
  | scanning hprelude hserves =>
      rw [hright] at hserves
      exact Progress.scanning hprelude (hserves.advance hadv)
  | sending hgoes hrests =>
      rw [hright] at hrests
      obtain ⟨b, rfl, -⟩ := hrests
      exact absurd hadv (by simp [advance])
  | finished status heq hserves =>
      rw [hright] at hserves
      exact Progress.finished status heq (hserves.advance hadv)
  | stopped e heq => exact Progress.stopped e heq

/-- What the chip does by itself. -/
theorem progress_event {e : ChipEvent} (h : Progress fuel data w)
    (hstep : pairStep (driverPlant cacheBuffer) w (.event e) = some w') :
    Progress fuel data w' := by
  obtain ⟨c, hevent, rfl⟩ := pairStep_event hstep
  have hquiet : w.state.Quiet c := ⟨e, hevent⟩
  cases h with
  | saving heq hserves hmeddled =>
      exact Progress.saving heq (hserves.later (kept_still (fun _ hc => Or.inl hc.1)) hquiet)
        (hmeddled.later kept_only_calm (Or.inl hquiet))
  | scanning hprelude hserves =>
      exact Progress.scanning hprelude (hserves.later kept_only_calm (Or.inl hquiet))
  | sending hgoes hrests => exact Progress.sending (Wp.later hgoes hquiet) hrests
  | finished status heq hserves =>
      exact Progress.finished status heq (hserves.later kept_listening hquiet)
  | stopped e heq => exact Progress.stopped e heq

/-- A packet comes in: before the scan, or after the end. -/
theorem progress_arrive {p : RxPacket} (h : Progress fuel data w)
    (hstep : pairStep (driverPlant cacheBuffer) w (.arrive p) = some w') :
    Progress fuel data w' := by
  obtain ⟨hnone, c, harrive, rfl⟩ := pairStep_arrive hstep
  cases h with
  | saving heq hquiet hmeddled =>
      rw [hnone] at hquiet hmeddled
      refine Progress.saving heq (serves_quiet ?_ harrive) (serves_meddled hmeddled harrive)
      intro t ht
      rwa [hquiet.2.2] at ht
  | scanning hprelude hserves =>
      rw [hnone] at hserves
      exact Progress.scanning hprelude (serves_meddled hserves harrive)
  | sending hgoes hrests =>
      cases hl : w.left with
      | ret status =>
          rw [hl] at hgoes
          have hdone : Done (cstr data.bytes) status w.state :=
            hgoes w.state Relation.ReflTransGen.refl
          exact Progress.finished status rfl
            (serves_quiet (fun _ ht => hdone.of_listening ht) harrive)
      | stop e => exact Progress.stopped e rfl
      | op o k =>
          -- the chip does not receive here
          rw [hl] at hgoes
          have hmode := (hgoes w.state Relation.ReflTransGen.refl).1
          have harrived : w.state.arrive p = some c := harrive
          unfold Chip.arrive at harrived
          rw [if_neg (fun h => hmode h.1)] at harrived
          cases harrived
  | finished status heq hserves =>
      rw [hnone] at hserves
      exact Progress.finished status heq
        (serves_quiet (fun _ ht => Done.of_listening hserves ht) harrive)
  | stopped e heq => exact Progress.stopped e heq

theorem progress_step {move : PairMove ChipEvent RxPacket} (h : Progress fuel data w)
    (hok : Undisturbed Careful w move)
    (hstep : pairStep (driverPlant cacheBuffer) w move = some w') : Progress fuel data w' := by
  cases move with
  | left => exact progress_left h hok hstep
  | right => exact progress_right h hstep
  | event e => exact progress_event h hstep
  | arrive p => exact progress_arrive h hstep

end Progress

/-- When both have returned, the chip is receiving, the payload is on air, and the
packet is in the buffer. -/
def Serialised (data : Buffer packetSize) (w : DriverPair) : Prop :=
  ∀ status, w.left.result? = some status → ¬ Busy w →
    w.state.currentMode = Mode.rxContinuous ∧ w.state.mode = 5
      ∧ OnAir (cstr data.bytes) status w.state.air
      ∧ ∀ p r out, w.right = some (p, r) → r.result? = some out → Fetched p.bytes out

theorem Progress.serialised {fuel : Nat} {data : Buffer packetSize} {w : DriverPair}
    (h : Progress fuel data w) : Serialised data w := by
  intro status hstatus hbusy
  have hleft := Program.eq_ret_of_result? hstatus
  have hboth : Done (cstr data.bytes) status w.state ∧ Rests Good w.right := by
    cases h with
    | saving heq _ _ =>
        -- it has not begun
        have hnone : (transmission fuel data).result? = none := rfl
        rw [heq, hnone] at hstatus
        cases hstatus
    | scanning hprelude _ =>
        rw [hleft] at hprelude
        exact absurd hprelude id
    | sending hgoes hrests =>
        rw [hleft] at hgoes
        exact ⟨hgoes w.state Relation.ReflTransGen.refl, hrests⟩
    | finished status' heq hserves =>
        obtain rfl : status' = status := by
          rw [heq] at hleft
          cases hleft
          rfl
        exact (hserves.rests hbusy).symm
    | stopped e heq =>
        rw [heq] at hleft
        cases hleft
  obtain ⟨hdone, hrests⟩ := hboth
  refine ⟨hdone.1.2.1, hdone.1.1, hdone.2, ?_⟩
  intro p r out hright hout
  rw [hright] at hrests
  exact hrests.good hout

/-- **A TRANSMISSION AND A RECEPTION ARE SERIALISABLE AS LONG AS THE TRANSMISSION DOES
NOT SCAN, OR SAVE A MODE THAT IS NOT ITS OWN, WHILE A PACKET IS READ OUT.** -/
theorem transmit_receive_serialisable (fuel : Nat) (data cacheBuffer : Buffer packetSize)
    (c : Chip) (hc : Listening [] c) {w : DriverPair}
    (h : Reach (pairStep (driverPlant cacheBuffer)) (Undisturbed Careful)
      ⟨transmission fuel data, none, c⟩ w) : Serialised data w := by
  have hprogress : Progress fuel data w := by
    apply h.invariant
    · exact Progress.saving rfl hc ⟨Or.inl hc.1, hc.2.2⟩
    · intro t move t' ht hok hstep
      exact progress_step ht hok hstep
  exact hprogress.serialised

/-! ## §5. Runs. -/

/-- A chip that listens. -/
def listeningChip : Chip := ⟨0x85, 0, fun _ => 0, 0, 0, 0x80, 0, 0, Mode.rxContinuous, []⟩

/-- A payload of one byte. -/
def oneByte : Buffer packetSize := Buffer.pad packetSize [1] (by decide)

/-- A packet of one byte. -/
def onePacket : RxPacket := ⟨0, [7]⟩

/-- The byte is to be sent, on a chip that listens. -/
def oneByteToSend : DriverPair := ⟨transmission 2 oneByte, none, listeningChip⟩

/-- What both have returned, and how they leave the chip. -/
structure Seen where
  status : Option UInt8
  packet : Option RxPacket
  received : Option (UInt8 × Buffer packetSize)
  currentMode : UInt32
  mode : UInt8
  air : List (List UInt8)
  deriving DecidableEq

/-- What is left when both have returned. -/
def outcome (w : DriverPair) : Seen :=
  ⟨w.left.result?, w.right.map (fun xr => xr.1), w.right.bind (fun xr => xr.2.result?),
    w.state.currentMode, w.state.mode, w.state.air⟩

/-- The sender and the interrupt on one chip. -/
abbrev driverStep : DriverPair → PairMove ChipEvent RxPacket → Option DriverPair :=
  pairStep (driverPlant (Buffer.zero packetSize))

/-- `n` steps of the sender. -/
def transmits (n : Nat) : List (PairMove ChipEvent RxPacket) := List.replicate n .left

/-- `n` steps of the interrupt. -/
def receives (n : Nat) : List (PairMove ChipEvent RxPacket) := List.replicate n .right

/-- The end of a transmission, from its second change to standby on. -/
def toTheEnd : List (PairMove ChipEvent RxPacket) :=
  transmits 10 ++ [.event .txDone] ++ transmits 5

/-- A packet comes in after the mode was saved; the chip is put to standby while it
is read out, and scans afterwards. -/
def scansAfterwards : List (PairMove ChipEvent RxPacket) :=
  transmits 1 ++ [.arrive onePacket] ++ receives 4 ++ transmits 3 ++ receives 8
    ++ transmits 3 ++ [.event (.cadDone false)] ++ transmits 3 ++ toTheEnd

/-- The mode is saved after `LoRa_receive` has changed it. -/
def savesStandby : List (PairMove ChipEvent RxPacket) :=
  [.arrive onePacket] ++ receives 2 ++ transmits 1 ++ receives 10
    ++ transmits 6 ++ [.event (.cadDone false)] ++ transmits 3 ++ toTheEnd

/-- The scan is over before `LoRa_receive` looks at the flags. -/
def scansAtOnce : List (PairMove ChipEvent RxPacket) :=
  [.arrive onePacket] ++ transmits 7 ++ [.event (.cadDone false)] ++ transmits 3 ++ receives 7
    ++ toTheEnd

/-- Both have returned: what is then to be seen. -/
theorem Serialised.seen {data : Buffer packetSize} {w : DriverPair} (h : Serialised data w)
    {status : UInt8} {p : RxPacket} {out : UInt8 × Buffer packetSize}
    (hstatus : (outcome w).status = some status) (hpacket : (outcome w).packet = some p)
    (hreceived : (outcome w).received = some out) :
    (outcome w).currentMode = Mode.rxContinuous ∧ Fetched p.bytes out := by
  obtain ⟨⟨p', r⟩, hright, rfl⟩ := Option.map_eq_some_iff.mp hpacket
  have hout : r.result? = some out := by
    have hbind : w.right.bind (fun xr => xr.2.result?) = some out := hreceived
    rw [hright] at hbind
    exact hbind
  have hbusy : ¬ Busy w := by
    rw [not_busy_iff]
    intro p r' hr
    rw [hright] at hr
    cases hr
    rw [hout]
    rfl
  obtain ⟨hmode, -, -, hfetched⟩ := h status hstatus hbusy
  exact ⟨hmode, hfetched p' r out hright hout⟩

/-- The transmission goes on while the packet is read out, and both succeed. -/
theorem transmit_receive_serialisable_overlap :
    ∃ w, Reach driverStep (Undisturbed Careful) oneByteToSend w
      ∧ outcome w
        = ⟨some 1, some onePacket, some (1, cached [7]), Mode.rxContinuous, 5, [[1]]⟩
      ∧ Serialised oneByte w := by
  have hrun : (run (only driverStep (undisturbed? careful)) oneByteToSend scansAfterwards).map
      outcome
      = some ⟨some 1, some onePacket, some (1, cached [7]), Mode.rxContinuous, 5, [[1]]⟩ := by
    decide +kernel
  obtain ⟨w, hw, hout⟩ := Option.map_eq_some_iff.mp hrun
  have hreach : Reach driverStep (Undisturbed Careful) oneByteToSend w :=
    (reach_of_run _ hw).mono (fun _ _ h => undisturbed_of_check h)
  exact ⟨w, hreach, hout, transmit_receive_serialisable 2 oneByte (Buffer.zero packetSize)
    listeningChip ⟨rfl, rfl, rfl⟩ hreach⟩

/-- `LoRa_transmit` saves the mode that `LoRa_receive` is in, and goes back to it: the
gateway is left in standby. -/
theorem transmission_leaves_standby :
    ∃ w, Reach driverStep Any oneByteToSend w
      ∧ outcome w = ⟨some 1, some onePacket, some (1, cached [7]), Mode.standby, 1, [[1]]⟩
      ∧ ¬ Serialised oneByte w := by
  have hrun : (run driverStep oneByteToSend savesStandby).map outcome
      = some ⟨some 1, some onePacket, some (1, cached [7]), Mode.standby, 1, [[1]]⟩ := by
    decide +kernel
  obtain ⟨w, hw, hout⟩ := Option.map_eq_some_iff.mp hrun
  refine ⟨w, reach_any_of_run _ hw, hout, fun hser => ?_⟩
  have hmode := (hser.seen (by rw [hout]) (by rw [hout]) (by rw [hout])).1
  rw [hout] at hmode
  exact absurd hmode (by decide)

/-- The scan clears the flag of a packet that `LoRa_receive` has not looked at: the
packet is lost. -/
theorem packet_lost_by_scan :
    ∃ w, Reach driverStep Any oneByteToSend w
      ∧ outcome w = ⟨some 1, some onePacket, some (0, Buffer.zero packetSize),
        Mode.rxContinuous, 5, [[1]]⟩
      ∧ ¬ Serialised oneByte w := by
  have hrun : (run driverStep oneByteToSend scansAtOnce).map outcome
      = some ⟨some 1, some onePacket, some (0, Buffer.zero packetSize),
        Mode.rxContinuous, 5, [[1]]⟩ := by
    decide +kernel
  obtain ⟨w, hw, hout⟩ := Option.map_eq_some_iff.mp hrun
  refine ⟨w, reach_any_of_run _ hw, hout, fun hser => ?_⟩
  have hfetched := (hser.seen (by rw [hout]) (by rw [hout]) (by rw [hout])).2
  exact absurd hfetched.1 (by decide)

end LoRaGateway
