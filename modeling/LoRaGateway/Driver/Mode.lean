/-
  LoRaGateway.Driver.Mode
  ───────────────────────
  **THE MODE THAT THE DRIVER BELIEVES IN AND THE MODE OF THE CHIP.**

  `current_mode` is set in `LoRa_gotoMode`, together with the mode bits of `RegOpMode`,
  for the six modes that its `switch` has.  `GOTO_MODE` puts the value of the user in
  `current_mode` first; for another value the register is written with a byte that
  was never set.

    • `Radio.Coherent` — `current_mode` is the mode written last, in LoRa mode,
    • `turns_gotoMode`, `turns_transmit`, `turns_receive` — what keeps it,
    • `mode_iff` — it holds after every operation of a schedule exactly when every
      `GOTO_MODE` asks for a mode that has a case.
-/
import LoRaGateway.Driver.Chip
import LoRaGateway.Driver.Receive
import LoRaGateway.Driver.Registers
import LoRaGateway.Driver.Transmit
import LoRaGateway.Lib.Run

namespace LoRaGateway

open LoRaGateway.Lib

/-! ## §1. The operations. -/

/-- `current_mode` is the mode written last to `RegOpMode`, and LoRa mode is on. -/
def Radio.Coherent (r : Radio) : Prop :=
  r.currentMode = (r.opMode &&& 0x07).toUInt32 ∧ r.opMode &&& 0x80 ≠ 0

/-- An `ioctl`, a write, or the interrupt for a packet; `fuel` bounds the rounds of
the waiting loops. -/
inductive ModeOp where
  | gotoMode (mode : UInt32)
  | write (data : List UInt8) (fuel : Nat)
  | receive (cacheBuffer : Buffer packetSize)

/-- The code of the driver for it. -/
def ModeOp.program : ModeOp → Driver Unit
  | .gotoMode mode => gotoModeIoctl mode
  | .write data fuel => do
      let _ ← sx1278Write fuel data
      pure ()
  | .receive cacheBuffer => do
      let _ ← getMessage cacheBuffer
      pure ()

/-- One operation, with the answers of the chip to it. -/
def Radio.modeStep (r : Radio) (a : ModeOp × (Nat → UInt8)) : Option Radio :=
  (r.run a.1.program a.2).map Prod.snd

/-- However the chip answers, the operation leaves the modes coherent. -/
def StaysCoherent (r : Radio) (a : ModeOp × (Nat → UInt8)) : Prop :=
  ∀ answers r', r.modeStep (a.1, answers) = some r' → r'.Coherent

/-- A `GOTO_MODE` asks for a mode that `LoRa_gotoMode` has a case for. -/
def AsksHandled (_ : Radio) (a : ModeOp × (Nat → UInt8)) : Prop :=
  ∀ mode, a.1 = .gotoMode mode → mode ∈ Mode.handled

/-! ## §2. One change of mode. -/

/-- The LoRa-mode bit is set. -/
def LoRaOn (r : Radio) : Prop := r.opMode &&& 0x80 ≠ 0

/-- Coherent, in a mode that can be gone back to. -/
def Ready (r : Radio) : Prop := r.Coherent ∧ r.currentMode ∈ Mode.handled

theorem Ready.loRaOn {r : Radio} (h : Ready r) : LoRaOn r := h.1.2

/-- The bits of a mode with a case: the mode itself, and no LoRa-mode bit. -/
theorem handled_bits {mode : UInt32} (h : mode ∈ Mode.handled) :
    (mode.toUInt8 &&& 0x07).toUInt32 = mode ∧ mode.toUInt8 &&& 0x80 = 0 := by
  simp only [Mode.handled, List.mem_cons, List.not_mem_nil, or_false] at h
  rcases h with rfl | rfl | rfl | rfl | rfl | rfl <;> exact ⟨rfl, rfl⟩

/-- What is written keeps the LoRa-mode bit of what was read. -/
theorem loRa_bit (read : UInt8) {mode : UInt8} (h : mode &&& 0x80 = 0) :
    (read &&& 0xF8 ||| mode) &&& 0x80 = read &&& 0x80 := by
  rw [or_and_byte, UInt8.and_assoc, h, UInt8.or_zero]
  rfl

theorem turns_gotoMode {mode : UInt32} (h : mode ∈ Mode.handled) :
    Turns LoRaOn (loRaGotoMode mode) (fun _ => Ready) := by
  obtain ⟨hmode, hbit⟩ := handled_bits h
  rw [loRaGotoMode_eq h]
  apply turns_bind (turns_read _)
  intro read
  -- `RegOpMode` reads with the upper bits written last
  apply turns_bind (R := fun _ r => r.currentMode = mode ∧ read &&& 0x80 ≠ 0)
  · apply turns_perform
    rintro s ⟨hon, fresh, rfl⟩
    refine ⟨rfl, ?_⟩
    show (s.1.opMode &&& 0xF8 ||| fresh &&& 0x07) &&& 0x80 ≠ 0
    rw [loRa_bit _ (by rw [UInt8.and_assoc]; exact UInt8.and_zero)]
    exact hon
  · intro _
    apply turns_write
    rintro r ⟨hcurrent, hon⟩
    show Ready { r with opMode := read &&& 0xF8 ||| mode.toUInt8 }
    refine ⟨⟨?_, ?_⟩, ?_⟩
    · show r.currentMode = ((read &&& 0xF8 ||| mode.toUInt8) &&& 0x07).toUInt32
      rw [mode_bits, hmode, hcurrent]
    · show (read &&& 0xF8 ||| mode.toUInt8) &&& 0x80 ≠ 0
      rw [loRa_bit _ hbit]
      exact hon
    · show r.currentMode ∈ Mode.handled
      rw [hcurrent]
      exact h

/-! ## §3. The operations that change the mode and back. -/

theorem turns_gotoReady {mode : UInt32} (h : mode ∈ Mode.handled) :
    Turns Ready (loRaGotoMode mode) (fun _ => Ready) :=
  (turns_gotoMode h).pre (fun _ => Ready.loRaOn)

theorem turns_cadDoneLoop (fuel : Nat) : Turns Ready (cadDoneLoop fuel) (fun _ => Ready) := by
  induction fuel with
  | zero => exact Program.meets_stop trivial
  | succ fuel ih =>
      unfold cadDoneLoop
      apply turns_bind (turns_look _)
      intro read
      split
      · exact ih
      · exact turns_ret (fun _ h => h)

theorem turns_cadLoop (fuel : Nat) : Turns Ready (cadLoop fuel) (fun _ => Ready) := by
  induction fuel with
  | zero => exact Program.meets_stop trivial
  | succ fuel ih =>
      unfold cadLoop
      apply turns_bind (turns_gotoReady (by decide))
      intro _
      apply turns_bind (turns_cadDoneLoop fuel)
      intro _
      apply turns_bind (turns_look _)
      intro read
      apply turns_bind (turns_kept (fun _ h => h))
      intro _
      split
      · exact ih
      · exact turns_ret (fun _ h => h)

/-- Both ends of the waiting loop go back to the mode that was saved. -/
theorem turns_txDoneLoop {mode : UInt32} (h : mode ∈ Mode.handled) (k : Nat) :
    Turns Ready (txDoneLoop mode k) (fun _ => Ready) := by
  have hdone : Turns Ready
      (do loRaWrite Reg.irqFlags 0xFF
          loRaGotoMode mode
          pure (1 : UInt8)) (fun _ => Ready) := by
    apply turns_bind (turns_kept (fun _ h => h))
    intro _
    exact turns_bind (turns_gotoReady h) (fun _ => turns_ret (fun _ hr => hr))
  induction k with
  | zero =>
      unfold txDoneLoop
      apply turns_bind (turns_look _)
      intro read
      split
      · exact hdone
      · exact turns_bind (turns_gotoReady h) (fun _ => turns_ret (fun _ hr => hr))
  | succ k ih =>
      unfold txDoneLoop
      apply turns_bind (turns_look _)
      intro read
      split
      · exact hdone
      · exact ih

/-- The burst goes to the FIFO. -/
theorem turns_burstWrite (value : Buffer packetSize) :
    Turns Ready (loRaBurstWrite Reg.fifo value) (fun _ => Ready) := by
  by_cases h : (0 : UInt8) ∈ value.bytes ∧ (cstr value.bytes).length ≤ 58
  · rw [loRaBurstWrite_eq h.1 h.2]
    apply turns_perform
    intro s hs
    have hsame : s.1.transfer ((Reg.fifo ||| 0x80) :: cstr value.bytes) = s.1 := by
      unfold Radio.transfer
      split
      · next heq =>
          rw [← (List.cons.inj heq).1]
          rfl
      · rfl
    show Ready (s.1.transfer _)
    rw [hsame]
    exact hs
  · rw [loRaBurstWrite_undefined h]
    exact Program.meets_stop trivial

theorem turns_transmit (fuel : Nat) (data : Buffer packetSize) (length : UInt8)
    (timeout : UInt16) : Turns Ready (loRaTransmit fuel data length timeout) (fun _ => Ready) := by
  unfold loRaTransmit
  -- the mode that is saved is one to go back to
  apply turns_bind (R := fun mode r => Ready r ∧ mode ∈ Mode.handled)
    (turns_perform (fun s hs => ⟨hs, hs.2⟩))
  intro mode
  apply turns_fact
  intro hmode
  apply turns_bind (turns_gotoReady (by decide))
  intro _
  apply turns_bind (turns_cadLoop fuel)
  intro _
  apply turns_bind (turns_gotoReady (by decide))
  intro _
  apply turns_bind (turns_look _)
  intro read
  apply turns_bind (turns_kept (fun _ h => h))
  intro _
  apply turns_bind (turns_kept (fun _ h => h))
  intro _
  apply turns_bind (turns_burstWrite data)
  intro _
  apply turns_bind (turns_gotoReady (by decide))
  intro _
  exact turns_txDoneLoop hmode _

theorem turns_write_op (fuel : Nat) (data : List UInt8) :
    Turns Ready (sx1278Write fuel data) (fun _ => Ready) := by
  unfold sx1278Write
  apply turns_bind (R := fun _ => Ready) (turns_defined (fun _ _ _ h => h))
  intro transmitBuffer
  apply turns_bind (R := fun _ => Ready) (turns_perform (fun _ hs => hs))
  intro _
  apply turns_bind (R := fun _ => Ready) (turns_defined (fun _ _ _ h => h))
  intro length
  exact turns_bind (turns_transmit fuel transmitBuffer _ _) (fun _ => turns_ret (fun _ h => h))

theorem turns_fifoLoop (k : Nat) :
    ∀ (i : Nat) (data : Buffer packetSize), Turns Ready (fifoLoop k i data) (fun _ => Ready) := by
  induction k with
  | zero => exact fun _ _ => turns_ret (fun _ h => h)
  | succ k ih =>
      intro i data
      unfold fifoLoop
      apply turns_bind (turns_look _)
      intro b
      apply turns_bind (R := fun _ => Ready) (turns_defined (fun _ _ _ h => h))
      intro data'
      exact ih _ _

theorem turns_receive (data : Buffer packetSize) (length : UInt8) :
    Turns Ready (loRaReceive data length) (fun _ => Ready) := by
  have hpacket : Turns Ready (readPacket length) (fun _ => Ready) := by
    unfold readPacket
    apply turns_bind (turns_kept (fun _ h => h))
    intro _
    apply turns_bind (turns_look _)
    intro dataLen
    apply turns_bind (turns_look _)
    intro read
    apply turns_bind (turns_kept (fun _ h => h))
    intro _
    exact turns_bind (turns_fifoLoop _ _ _) (fun _ => turns_ret (fun _ h => h))
  unfold loRaReceive
  apply turns_bind (turns_gotoReady (by decide))
  intro _
  apply turns_bind (turns_look _)
  intro read
  apply turns_bind (R := fun _ => Ready)
  · split
    · exact hpacket
    · exact turns_ret (fun _ h => h)
  · intro out
    exact turns_bind (turns_gotoReady (by decide)) (fun _ => turns_ret (fun _ h => h))

/-- `copy_from_user` and the change to a mode with a case. -/
theorem turns_gotoModeIoctl {mode : UInt32} (h : mode ∈ Mode.handled) :
    Turns LoRaOn (gotoModeIoctl mode) (fun _ => Ready) :=
  turns_bind (R := fun _ => LoRaOn) (turns_perform (fun _ hs => hs)) (fun _ => turns_gotoMode h)

/-! ## §4. `LoRa_init`. -/

theorem turns_setFrequency (f : Int32) :
    Turns LoRaOn (loRaSetFrequency f) (fun _ => LoRaOn) := by
  unfold loRaSetFrequency
  apply turns_bind (turns_kept (fun _ h => h))
  intro _
  exact turns_bind (turns_kept (fun _ h => h)) (fun _ => turns_kept (fun _ h => h))

theorem turns_setTOMsbSetCRCon : Turns LoRaOn loRaSetTOMsbSetCRCon (fun _ => LoRaOn) :=
  turns_bind (turns_look _) (fun _ => turns_kept (fun _ h => h))

/-- The low-data-rate bit is all that changes. -/
theorem turns_setAutoLDO {A : Radio → Prop} (m : ModemSettings)
    (h : ∀ r value, A r → A { r with modemConfig3 := value }) :
    Turns A (loRaSetAutoLDO m) (fun _ => A) := by
  unfold loRaSetAutoLDO
  apply turns_bind (R := fun _ => A) (turns_defined (fun _ _ _ hr => hr))
  intro calculated
  exact turns_bind (turns_look _) (fun _ => turns_kept (fun r hr => h r _ hr))

theorem turns_setSpreadingFactor (m : ModemSettings) (sf : UInt32) :
    Turns LoRaOn (loRaSetSpreadingFactor m sf) (fun _ => LoRaOn) := by
  unfold loRaSetSpreadingFactor
  apply turns_bind (turns_look _)
  intro read
  exact turns_bind (turns_kept (fun _ h => h)) (fun _ => turns_setAutoLDO m (fun _ _ h => h))

/-- LoRa mode is turned on, no other setter touches `RegOpMode`, and the last change
of mode makes the modes coherent. -/
theorem turns_configure (m : ModemSettings) :
    Turns (fun _ => True) (loRaConfigure m) (fun _ => Ready) := by
  unfold loRaConfigure
  apply turns_bind (turns_any _)
  intro _
  apply turns_bind (turns_look _)
  intro read
  apply turns_bind (R := fun _ => LoRaOn)
  · apply turns_write
    intro r _
    show (read ||| 0x80) &&& 0x80 ≠ 0
    rw [or_and_byte]
    intro h
    exact absurd (UInt8.or_eq_zero_iff.mp h).2 (by decide)
  intro _
  apply turns_bind (turns_setFrequency _)
  intro _
  -- the output power, the current limit and the amplifier
  apply turns_bind (turns_kept (fun _ h => h))
  intro _
  apply turns_bind (turns_kept (fun _ h => h))
  intro _
  apply turns_bind (turns_kept (fun _ h => h))
  intro _
  apply turns_bind turns_setTOMsbSetCRCon
  intro _
  apply turns_bind (turns_setSpreadingFactor m _)
  intro _
  apply turns_bind (turns_kept (fun _ h => h))
  intro _
  -- bandwidth and coding rate
  apply turns_bind (turns_look _)
  intro data
  apply turns_bind (turns_kept (fun _ h => h))
  intro _
  apply turns_bind (turns_setAutoLDO m (fun _ _ h => h))
  intro _
  apply turns_bind (turns_kept (fun _ h => h))
  intro _
  apply turns_bind (turns_kept (fun _ h => h))
  intro _
  apply turns_bind (turns_look _)
  intro read'
  apply turns_bind (turns_kept (fun _ h => h))
  intro _
  exact turns_gotoMode (by decide)

/-- The version of the silicon is the same at both checks. -/
theorem turns_isValid {A : Radio → Prop} :
    Turns A loRaIsValid (fun status r => A r ∧ (status = .ok ↔ r.version = 0x12)) := by
  apply turns_bind (turns_read _)
  intro read
  apply turns_ret
  rintro r ⟨hr, fresh, rfl⟩
  refine ⟨hr, ?_⟩
  show (if r.version = 0x12 then LoRaStatus.ok else .notFound) = .ok ↔ _
  by_cases hv : r.version = 0x12
  · simp [hv]
  · simp [hv]

/-- What the configuration leaves is there when `LORA_OK` is returned. -/
theorem turns_init {m : ModemSettings} {A : Radio → Prop}
    (h : Turns (fun _ => True) (loRaConfigure m) (fun _ => A)) :
    Turns (fun _ => True) (sx1278LoRaInit true m) (fun status r => status = .ok → A r) := by
  apply turns_bind turns_isValid
  intro valid
  split
  · apply turns_bind (h.pre (fun _ _ => trivial))
    intro _
    apply turns_bind (turns_look _)
    intro read
    exact turns_ret (fun _ hr _ => hr)
  · next hvalid =>
      -- not found at the first check, not found at the second
      apply turns_isValid.post
      rintro status r ⟨⟨-, hfirst⟩, hsecond⟩ hok
      exact absurd (hfirst.mpr (hsecond.mp hok)) hvalid

/-- **`LORA_OK` is returned with the modes coherent.** -/
theorem Radio.Initialised.ready {m : ModemSettings} {r : Radio} (h : r.Initialised m) :
    Ready r := by
  obtain ⟨r₀, answers, hrun⟩ := h
  exact (turns_init (turns_configure m)).run trivial hrun rfl

/-! ## §5. Every schedule. -/

theorem Radio.modeStep_run {r r' : Radio} {a : ModeOp × (Nat → UInt8)}
    (h : r.modeStep a = some r') : r.run a.1.program a.2 = some ((), r') := by
  obtain ⟨out, hout, rfl⟩ := Option.map_eq_some_iff.mp h
  exact hout

/-- An operation that asks for a mode with a case keeps the modes coherent. -/
theorem Ready.modeStep {r r' : Radio} {a : ModeOp × (Nat → UInt8)} (hr : Ready r)
    (ha : AsksHandled r a) (h : r.modeStep a = some r') : Ready r' := by
  have hrun := Radio.modeStep_run h
  obtain ⟨op, answers⟩ := a
  cases op with
  | gotoMode mode => exact (turns_gotoModeIoctl (ha mode rfl)).run hr.loRaOn hrun
  | write data fuel =>
      have hwrite : Turns Ready (ModeOp.write data fuel).program (fun _ => Ready) :=
        turns_bind (turns_write_op fuel data) (fun _ => turns_ret (fun _ h => h))
      exact hwrite.run hr hrun
  | receive cacheBuffer =>
      have hget : Turns Ready (getMessage cacheBuffer) (fun _ => Ready) :=
        turns_bind (turns_receive _ _) (fun _ => turns_ret (fun _ h => h))
      have hreceive : Turns Ready (ModeOp.receive cacheBuffer).program (fun _ => Ready) :=
        turns_bind hget (fun _ => turns_ret (fun _ h => h))
      exact hreceive.run hr hrun

/-- Without a case, the byte that happens to be on the stack is written: here 0. -/
theorem Radio.modeStep_unhandled (r : Radio) {mode : UInt32} (h : mode ∉ Mode.handled) :
    r.modeStep (.gotoMode mode, fun _ => 0) = some { r with opMode := 0, currentMode := mode } := by
  have hgoto : loRaGotoMode mode = (do
      let _ ← loRaRead Reg.opMode
      let data : UInt8 ← perform .uninitialised
      loRaWrite Reg.opMode data) := by
    unfold loRaGotoMode
    simp only [if_neg h]
  show Option.map Prod.snd (Option.map (fun out => (out.1, out.2.1))
    ((loRaGotoMode mode).exec Radio.answer ({ r with currentMode := mode }, fun _ => 0))) = _
  rw [hgoto]
  rfl

theorem staysCoherent_iff {r : Radio} (hr : Ready r) (a : ModeOp × (Nat → UInt8)) :
    StaysCoherent r a ↔ AsksHandled r a := by
  constructor
  · rintro h mode hmode
    by_contra hunhandled
    rw [StaysCoherent, hmode] at h
    have hcoherent := h _ _ (r.modeStep_unhandled hunhandled)
    exact absurd hcoherent.2 (by simp)
  · intro h answers r' hs
    exact (hr.modeStep (a := (a.1, answers)) h hs).1

/-- **THE MODES STAY COHERENT EXACTLY WHEN EVERY `GOTO_MODE` ASKS FOR A MODE WITH A
CASE.** -/
theorem mode_iff {m : ModemSettings} {r : Radio} (h : r.Initialised m)
    (as : List (ModeOp × (Nat → UInt8))) :
    Along Radio.modeStep StaysCoherent r as ↔ Along Radio.modeStep AsksHandled r as :=
  along_iff (I := Ready) (fun _ a hr => staysCoherent_iff hr a)
    (fun _ _ _ hr ha hs => hr.modeStep ha hs) as h.ready

/-- What `LoRa_init` leaves of registers that were zero. -/
def radioAtStart : Radio := ⟨0x81, 0x72, 0x77, 0x00, Mode.standby, 0x12⟩

theorem radioAtStart_initialised : radioAtStart.Initialised .probed :=
  ⟨⟨0, 0, 0, 0, 0, 0x12⟩, fun _ => 0, by decide⟩

/-- `GOTO_MODE` with `FSTX`, which has no case. -/
theorem mode_incoherent :
    ¬ ∀ (m : ModemSettings) (r : Radio), r.Initialised m →
      ∀ as : List (ModeOp × (Nat → UInt8)), Along Radio.modeStep StaysCoherent r as := by
  intro h
  have hstep := (h .probed radioAtStart radioAtStart_initialised [(.gotoMode 2, fun _ => 0)]).1
  have hcoherent := hstep _ _ (Radio.modeStep_unhandled radioAtStart (by decide))
  exact absurd hcoherent.2 (by decide)

/-- `sx1278_probe` lets the chip sleep; then the gateway listens, sends three bytes, and a
packet arrives that is longer than the buffer. -/
def probeThenTalk : List (ModeOp × (Nat → UInt8)) :=
  [(.gotoMode Mode.sleep, fun _ => 0), (.gotoMode Mode.rxContinuous, fun _ => 0),
    -- the scan is done and finds nothing, and `TxDone` is set
    (.write [1, 2, 3] 2, fun _ => 0x0C),
    -- `RxDone`, and 66 bytes
    (.receive (Buffer.zero packetSize), fun _ => 0x42), (.gotoMode Mode.standby, fun _ => 0)]

theorem mode_coherent_talk :
    (run Radio.modeStep radioAtStart probeThenTalk).map (fun r => (r.opMode, r.currentMode))
        = some (0x81, Mode.standby)
      ∧ Along Radio.modeStep StaysCoherent radioAtStart probeThenTalk := by
  refine ⟨by decide +kernel, (mode_iff radioAtStart_initialised _).mpr (along_of_mem ?_)⟩
  rintro a ha mode hmode
  simp only [probeThenTalk, List.mem_cons, List.not_mem_nil, or_false] at ha
  rcases ha with rfl | rfl | rfl | rfl | rfl <;> cases hmode <;> decide

end LoRaGateway
