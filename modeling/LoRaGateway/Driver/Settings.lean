/-
  LoRaGateway.Driver.Settings
  ───────────────────────────
  **IS THE RADIO SET UP AS IT WAS ORDERED LAST?**

  `LoRa_init` sets every register of the modem from the fields of `struct LoRa`; after
  it a process can give new values, by the functions of `Src/lora.c` and the
  `ioctl`s of the driver.  Meanwhile others send, the interrupt receives, and the chip
  goes on with what it does; each SPI transfer is one step.

    • `Orders.wants` — what the orders ask of each register, bit by bit,
    • `traffic_transmission`, `traffic_reception` — sending and receiving write none of
      these registers,
    • `initialise_meets`, `order_meets` — `LoRa_init` and one order, among the others,
    • `settings_follow_orders` — over any run, the registers hold what was ordered last.
-/
import LoRaGateway.Driver.FieldBits
import LoRaGateway.Driver.Receive
import LoRaGateway.Driver.Transmit
import LoRaGateway.Lib.Parallel
import LoRaGateway.Lib.Run

namespace LoRaGateway

open LoRaGateway.Lib
open LoRaGateway.Lib.Program (Setting Meets KeptBy meets_bind meets_perform meets_ret
  meets_stop meets_fact within_bind within_perform within_ret within_ofOption)

/-! ## §1. The remaining `ioctl`s. -/

namespace Reg

/-- `RegPktRssiValue`. -/
def pktRssiValue : UInt8 := 0x1A
/-- `RegSyncWord`. -/
def syncWord : UInt8 := 0x39

end Reg

/-- `LoRa_setSyncWord`. -/
def loRaSetSyncWord (syncword : UInt8) : Driver Unit := loRaWrite Reg.syncWord syncword

/-- `LoRa_getRSSI`. -/
def loRaGetRSSI : Driver UInt8 := loRaRead Reg.pktRssiValue

/-- The commands of `sx1278_ioctl` that go to the chip, with their arguments. -/
inductive RadioIoctl where
  | getRssi
  | gotoMode (mode : UInt32)
  | modem (a : ModemIoctl)
  | syncWord (syncword : UInt8)
  | power (p : UInt32)
  | frequency (f : Int32)
  | getStatus
  deriving DecidableEq

/-- `copy_from_user` into the field; `SYNC_WORD` and `FREQUENCY` have a local variable,
and `GOTO_MODE` has `current_mode`. -/
def RadioIoctl.store (m : ModemSettings) : RadioIoctl → ModemSettings
  | .modem a => a.store m
  | .power p => { m with power := p }
  | _ => m

/-- The case of `sx1278_ioctl`, after the field is stored. -/
def RadioIoctl.program (m : ModemSettings) : RadioIoctl → Driver Unit
  | .getRssi => do
      let _ ← loRaGetRSSI
      pure ()
  | .gotoMode mode => gotoModeIoctl mode
  | .modem a => a.program m
  | .syncWord syncword => loRaSetSyncWord syncword
  | .power p => loRaSetPower p
  | .frequency f => loRaSetFrequency f
  | .getStatus => do
      let _ ← loRaIsValid
      pure ()

/-- A call of one of the functions of `Src/lora.c`: whether the device file opens, and
whether the argument can be copied. -/
structure RadioCall where
  ioctl : RadioIoctl
  opens : Bool
  copies : Bool
  deriving DecidableEq

/-- The two `ioctl`s that copy to the user: they do their work before, and say -1. -/
def RadioIoctl.answers : RadioIoctl → Bool
  | .getRssi | .getStatus => true
  | _ => false

/-- The call is carried out. -/
def RadioCall.goes (c : RadioCall) : Bool := c.opens && (c.copies || c.ioctl.answers)

/-- The function of the library: -1 if the file does not open, or if the `ioctl` does
not say 0; the setters of the driver say 0 in any case.  For the values that the two
getters return there is a 0 here. -/
def RadioCall.program (m : ModemSettings) (c : RadioCall) : Driver Int :=
  if c.goes then do
    c.ioctl.program m
    pure (if c.copies then 0 else -1)
  else pure (if c.opens then 0 else -1)

/-! ## §2. Orders. -/

/-- The fields of `struct LoRa`, and the two values that it has no field for, or whose
field an `ioctl` does not write. -/
structure Orders where
  fields : ModemSettings
  frequency : Int32
  syncWord : Option UInt8
  deriving DecidableEq

/-- What `LoRa_init` is to set up. -/
def Orders.initial (m : ModemSettings) : Orders := ⟨m, m.frequency, none⟩

/-- The orders after one more. -/
def Orders.order (o : Orders) (a : RadioIoctl) : Orders where
  fields := a.store o.fields
  frequency := match a with
    | .frequency f => f
    | _ => o.frequency
  syncWord := match a with
    | .syncWord syncword => some syncword
    | _ => o.syncWord

/-- A call that goes through is the last order of its kind. -/
def Orders.after (o : Orders) (c : RadioCall) : Orders := if c.goes then o.order c.ioctl else o

/-- The number for the synthesizer, in steps of 32 MHz / 524288. -/
def frequencySteps (f : Int32) : UInt32 := (f.toUInt32 * 524288) >>> 5

/-- `OcpTrim` of `LoRa_setOCP`, with the bit that switches the protection on. -/
def ocpByte (cur : UInt8) : UInt8 :=
  let cur := if cur < 45 then 45 else cur
  let cur := if cur > 240 then 240 else cur
  UInt8.ofNat (if cur ≤ 120 then (cur.toNat - 45) / 5 else (cur.toNat + 30) / 10) ||| 0x20

/-- The low-data-rate bit, as `LoRa_setAutoLDO` computes it from the fields. -/
def Orders.ldo (o : Orders) : Bool :=
  (calculatedBW o.fields.spreadingFactor o.fields.bandWidth).any (fun c => decide (c > 16))

/-- What the orders ask of a register: bits, and their values. -/
def Orders.wants (o : Orders) (address : UInt8) : List (UInt8 × UInt8) :=
  if address = Reg.frMsb then [(0xFF, (frequencySteps o.frequency >>> 16).toUInt8)]
  else if address = Reg.frMid then [(0xFF, (frequencySteps o.frequency >>> 8).toUInt8)]
  else if address = Reg.frLsb then [(0xFF, (frequencySteps o.frequency).toUInt8)]
  else if address = Reg.paConfig then [(0xFF, o.fields.power.toUInt8)]
  else if address = Reg.ocp then [(0xFF, ocpByte o.fields.overCurrentProtection)]
  -- maximal gain, boosted
  else if address = Reg.lna then [(0xFF, 0x23)]
  else if address = Reg.modemConfig1 then
    [(0xF0, (o.fields.bandWidth <<< 4).toUInt8), (0x0E, (o.fields.codingRate <<< 1).toUInt8)]
  -- the lower three bits are CRC and the upper part of the timeout
  else if address = Reg.modemConfig2 then
    [(0xF0, (clampSF o.fields.spreadingFactor <<< 4).toUInt8), (0x07, 0x07)]
  else if address = Reg.symbTimeoutL then [(0xFF, 0xFF)]
  else if address = Reg.preambleMsb then [(0xFF, (o.fields.preamble >>> 8).toUInt8)]
  else if address = Reg.preambleLsb then [(0xFF, o.fields.preamble.toUInt8)]
  else if address = Reg.modemConfig3 then [(0x08, if o.ldo then 0x08 else 0)]
  else if address = Reg.dioMapping1 then [(0x3F, 0x3F)]
  else if address = Reg.syncWord then o.syncWord.toList.map (fun w => (0xFF, w))
  else []

/-- The registers that the orders are about, and the version of the silicon. -/
def settingRegs : List UInt8 :=
  [Reg.frMsb, Reg.frMid, Reg.frLsb, Reg.paConfig, Reg.ocp, Reg.lna, Reg.modemConfig1,
    Reg.modemConfig2, Reg.symbTimeoutL, Reg.preambleMsb, Reg.preambleLsb, Reg.modemConfig3,
    Reg.dioMapping1, Reg.syncWord, Reg.version]

/-- The orders ask nothing of other registers. -/
theorem wants_other (o : Orders) {address : UInt8} (h : address ∉ settingRegs) :
    o.wants address = [] := by
  simp only [settingRegs, List.mem_cons, List.not_mem_nil, or_false, not_or] at h
  unfold Orders.wants
  simp [h]

/-- A register with a value for each of the wanted bits. -/
def Satisfies (wants : List (UInt8 × UInt8)) (value : UInt8) : Prop :=
  ∀ e ∈ wants, value &&& e.1 = e.2

instance (wants : List (UInt8 × UInt8)) (value : UInt8) : Decidable (Satisfies wants value) :=
  List.decidableBAll _ _

/-! ## §3. The board. -/

/-- The registers as they were written last, `current_mode`, and what locals hold that
were never set. -/
structure Board where
  bank : UInt8 → UInt8
  currentMode : UInt32
  junk : Nat → UInt8

/-- One SPI transfer, or one access to `current_mode`.  A transfer of more than two bytes
is one for the FIFO. -/
def Board.answer (b : Board) : (o : DriverOp) → o.Resp × Board
  | .spiWrite [address, value] =>
      ((), { b with bank := Function.update b.bank (address &&& 0x7F) value })
  | .spiWrite _ => ((), b)
  | .spiWriteThenRead address => (b.bank address, b)
  | .getMode => (b.currentMode, b)
  | .setMode mode => ((), { b with currentMode := mode })
  | .setTransmitBuffer _ => ((), b)
  | .uninitialised => (b.junk 0, { b with junk := fun n => b.junk (n + 1) })

/-- The chip changes what is not a setting: flags, lengths, addresses, its mode. -/
structure BoardEvent where
  address : UInt8
  value : UInt8

/-- The chip changes registers on its own, but no setting. -/
def Board.event (b : Board) (e : BoardEvent) : Option Board :=
  if e.address ∈ settingRegs then none
  else some { b with bank := Function.update b.bank e.address e.value }

/-- No setting is changed. -/
def SameSettings (b b' : Board) : Prop := ∀ address ∈ settingRegs, b'.bank address = b.bank address

/-- A program for the board, among others that change no setting. -/
def onBoard : Setting DriverOp DriverOp.Resp Stop Board :=
  ⟨Board.answer, SameSettings, fun _ => True, fun _ => True⟩

/-- The registers in `set` are as the orders want them. -/
def SetUp (o : Orders) (set : List UInt8) (b : Board) : Prop :=
  ∀ address ∈ set, Satisfies (o.wants address) (b.bank address)

/-- Every register is. -/
def AsOrdered (o : Orders) (b : Board) : Prop :=
  ∀ address, Satisfies (o.wants address) (b.bank address)

theorem asOrdered_iff {o : Orders} {b : Board} : AsOrdered o b ↔ SetUp o settingRegs b := by
  refine ⟨fun h address _ => h address, fun h address => ?_⟩
  by_cases ha : address ∈ settingRegs
  · exact h address ha
  · rw [wants_other o ha]
    intro e he
    cases he

theorem kept_setUp (o : Orders) {set : List UInt8} (h : ∀ a ∈ set, a ∈ settingRegs) :
    KeptBy onBoard.rely (SetUp o set) := by
  intro b b' hb hsame address haddress
  rw [hsame address (h address haddress)]
  exact hb address haddress

theorem kept_asOrdered (o : Orders) : KeptBy onBoard.rely (AsOrdered o) := by
  intro b b' hb hsame
  exact asOrdered_iff.mpr (kept_setUp o (fun _ h => h) b b' (asOrdered_iff.mp hb) hsame)

/-! ## §4. Traffic. -/

/-- Anything but a write to a setting. -/
def Traffic : DriverOp → Prop
  | .spiWrite [address, _] => address &&& 0x7F ∉ settingRegs
  | _ => True

theorem traffic_harmless (b : Board) (o : DriverOp) (h : Traffic o) :
    SameSettings b (b.answer o).2 := by
  intro address haddress
  cases o with
  | spiWrite bytes =>
      match bytes with
      | [] => rfl
      | [_] => rfl
      | [written, value] =>
          have hne : address ≠ written &&& 0x7F := fun heq => h (heq ▸ haddress)
          exact Function.update_of_ne hne _ _
      | _ :: _ :: _ :: _ => rfl
  | _ => rfl

section Traffic

theorem traffic_read (address : UInt8) : (loRaRead address).Within Traffic :=
  within_perform trivial

theorem traffic_write {address : UInt8} (value : UInt8)
    (h : (address ||| 0x80) &&& 0x7F ∉ settingRegs) : (loRaWrite address value).Within Traffic :=
  within_perform h

theorem traffic_gotoMode (mode : UInt32) : (loRaGotoMode mode).Within Traffic := by
  unfold loRaGotoMode
  refine within_bind (traffic_read _) (fun read => ?_)
  split
  · exact within_bind (within_perform trivial) (fun _ => traffic_write _ (by decide))
  · exact within_bind (within_perform trivial) (fun _ => traffic_write _ (by decide))

theorem traffic_cadDoneLoop (fuel : Nat) : (cadDoneLoop fuel).Within Traffic := by
  induction fuel with
  | zero => exact trivial
  | succ fuel ih =>
      refine within_bind (traffic_read _) (fun read => ?_)
      split
      · exact ih
      · exact within_ret ()

theorem traffic_cadLoop (fuel : Nat) : (cadLoop fuel).Within Traffic := by
  induction fuel with
  | zero => exact trivial
  | succ fuel ih =>
      refine within_bind (traffic_gotoMode _) (fun _ => ?_)
      refine within_bind (traffic_cadDoneLoop fuel) (fun _ => ?_)
      refine within_bind (traffic_read _) (fun read => ?_)
      refine within_bind (traffic_write _ (by decide)) (fun _ => ?_)
      split
      · exact ih
      · exact within_ret ()

theorem traffic_txDoneLoop (mode : UInt32) (k : Nat) : (txDoneLoop mode k).Within Traffic := by
  have hdone : Program.Within Traffic
      (loRaWrite Reg.irqFlags 0xFF >>= fun _ => loRaGotoMode mode >>= fun _ => pure (1 : UInt8)) :=
    within_bind (traffic_write _ (by decide))
      (fun _ => within_bind (traffic_gotoMode mode) (fun _ => within_ret 1))
  induction k with
  | zero =>
      refine within_bind (traffic_read _) (fun read => ?_)
      split
      · exact hdone
      · exact within_bind (traffic_gotoMode mode) (fun _ => within_ret 0)
  | succ k ih =>
      refine within_bind (traffic_read _) (fun read => ?_)
      split
      · exact hdone
      · exact ih

/-- The bytes of a packet go to the FIFO. -/
theorem traffic_burstWrite (data : Buffer packetSize) :
    (loRaBurstWrite Reg.fifo data).Within Traffic := by
  refine within_ofOption (fun length _ => ?_)
  refine within_ofOption (fun toSend hstore => ?_)
  refine within_ofOption (fun toSend' hmore => ?_)
  refine within_ofOption (fun size _ => within_perform ?_)
  -- the first byte is still the address of the FIFO
  obtain ⟨rest, hrest⟩ : ∃ rest, toSend'.bytes = (Reg.fifo ||| 0x80) :: rest := by
    rw [Buffer.bytes_store hmore, Buffer.bytes_store hstore]
    exact ⟨_, rfl⟩
  rw [hrest]
  match size with
  | 0 => trivial
  | size + 1 =>
      rw [List.take_succ_cons]
      match rest.take size with
      | [] => trivial
      | [value] => exact (by decide : (Reg.fifo ||| 0x80) &&& 0x7F ∉ settingRegs)
      | _ :: _ :: _ => trivial

theorem traffic_transmit (fuel : Nat) (data : Buffer packetSize) (length : UInt8)
    (timeout : UInt16) : (loRaTransmit fuel data length timeout).Within Traffic := by
  refine within_bind (within_perform trivial) (fun mode => ?_)
  refine within_bind (traffic_gotoMode _) (fun _ => ?_)
  refine within_bind (traffic_cadLoop fuel) (fun _ => ?_)
  refine within_bind (traffic_gotoMode _) (fun _ => ?_)
  refine within_bind (traffic_read _) (fun read => ?_)
  refine within_bind (traffic_write _ (by decide)) (fun _ => ?_)
  refine within_bind (traffic_write _ (by decide)) (fun _ => ?_)
  refine within_bind (traffic_burstWrite data) (fun _ => ?_)
  refine within_bind (traffic_gotoMode _) (fun _ => ?_)
  exact traffic_txDoneLoop mode _

/-- `lora_transmit` of user space writes no setting. -/
theorem traffic_transmission (fuel : Nat) (opens : Bool) (data : Buffer packetSize) :
    (loraTransmit fuel opens data).Within Traffic := by
  unfold loraTransmit
  split
  · refine within_ofOption (fun length _ => ?_)
    refine within_bind ?_ (fun _ => within_ret 0)
    refine within_ofOption (fun transmitBuffer _ => ?_)
    refine within_bind (within_perform trivial) (fun _ => ?_)
    refine within_ofOption (fun length _ => ?_)
    exact within_bind (traffic_transmit _ _ _ _) (fun _ => within_ret _)
  · exact within_ret (-1)

theorem traffic_fifoLoop (k : Nat) : ∀ (i : Nat) (data : Buffer packetSize),
    (fifoLoop k i data).Within Traffic := by
  induction k with
  | zero =>
      intro i data
      exact within_ret data
  | succ k ih =>
      intro i data
      refine within_bind (traffic_read _) (fun b => ?_)
      exact within_ofOption (fun data' _ => ih (i + 1) data')

/-- The interrupt writes no setting. -/
theorem traffic_reception (cacheBuffer : Buffer packetSize) :
    (getMessage cacheBuffer).Within Traffic := by
  refine within_bind ?_ (fun out => within_ret _)
  refine within_bind (traffic_gotoMode _) (fun _ => ?_)
  refine within_bind (traffic_read _) (fun read => ?_)
  refine within_bind ?_ (fun out => within_bind (traffic_gotoMode _) (fun _ => within_ret out))
  split
  · refine within_bind (traffic_write _ (by decide)) (fun _ => ?_)
    refine within_bind (traffic_read _) (fun dataLen => ?_)
    refine within_bind (traffic_read _) (fun read' => ?_)
    refine within_bind (traffic_write _ (by decide)) (fun _ => ?_)
    exact within_bind (traffic_fifoLoop _ _ _) (fun data => within_ret _)
  · exact within_ret _

end Traffic

/-! ## §5. One access. -/

section Access

variable {A : Board → Prop}

/-- What is said about the settings only is kept. -/
theorem kept_bank {F : (UInt8 → UInt8) → Prop}
    (h : ∀ f g : UInt8 → UInt8, (∀ a ∈ settingRegs, g a = f a) → F f → F g) :
    KeptBy onBoard.rely (fun b => F b.bank) := fun _ _ hb hsame => h _ _ hsame hb

theorem board_traffic {α : Type} {p : Driver α} (hp : p.Within Traffic)
    (hA : KeptBy onBoard.rely A) : Meets onBoard A p (fun _ => A) :=
  hp.meets traffic_harmless (fun _ => trivial) (fun _ => trivial) hA

/-- A setting is read as it is. -/
theorem board_read {address : UInt8} (ha : address ∈ settingRegs) (hA : KeptBy onBoard.rely A) :
    Meets onBoard A (loRaRead address) (fun v b => A b ∧ b.bank address = v) := by
  have hmask : address &&& 0x7F = address := by
    have hall : settingRegs.all (fun a => a &&& 0x7F = a) = true := by decide
    exact of_decide_eq_true (List.all_eq_true.mp hall address ha)
  refine meets_perform hA (fun r => hA.and (fun b b' hb hsame => (hsame address ha).trans hb))
    (fun b hb => ⟨trivial, hb, ?_⟩)
  show b.bank address = b.bank (address &&& 0x7F)
  rw [hmask]

/-- A setting is written. -/
theorem board_write {address value : UInt8} {B : Board → Prop} (ha : address ∈ settingRegs)
    (hA : KeptBy onBoard.rely A) (hB : KeptBy onBoard.rely B)
    (h : ∀ b, A b → B { b with bank := Function.update b.bank address value }) :
    Meets onBoard A (loRaWrite address value) (fun _ => B) := by
  have hmask : (address ||| 0x80) &&& 0x7F = address := by
    have hall : settingRegs.all (fun a => (a ||| 0x80) &&& 0x7F = a) = true := by decide
    exact of_decide_eq_true (List.all_eq_true.mp hall address ha)
  refine meets_perform hA (fun _ => hB) (fun b hb => ⟨trivial, ?_⟩)
  show B { b with bank := Function.update b.bank ((address ||| 0x80) &&& 0x7F) value }
  rw [hmask]
  exact h b hb

/-- A write that gives a register what the orders want adds it to those that are set up. -/
theorem setUp_write {o : Orders} {set : List UInt8} {address value : UInt8}
    (ha : address ∈ settingRegs) (hset : ∀ a ∈ set, a ∈ settingRegs)
    (hvalue : Satisfies (o.wants address) value) :
    Meets onBoard (SetUp o set) (loRaWrite address value) (fun _ => SetUp o (address :: set)) := by
  have hmore : ∀ a ∈ address :: set, a ∈ settingRegs := by
    intro a h
    rcases List.mem_cons.mp h with rfl | h
    · exact ha
    · exact hset a h
  refine board_write ha (kept_setUp o hset) (kept_setUp o hmore) (fun b hb a h => ?_)
  show Satisfies _ (Function.update b.bank address value a)
  by_cases haddress : a = address
  · rw [haddress, Function.update_self]
    exact hvalue
  · rw [Function.update_of_ne haddress]
    exact hb a ((List.mem_cons.mp h).resolve_left haddress)

end Access

/-! ## §6. The setters. -/

section Setters

variable {o : Orders} {set : List UInt8}

/-- The settings other than these. -/
def without (written : List UInt8) : List UInt8 := settingRegs.filter (fun a => a ∉ written)

theorem mem_without {written : List UInt8} {a : UInt8} :
    a ∈ without written ↔ a ∈ settingRegs ∧ a ∉ written := by
  unfold without
  rw [List.mem_filter]
  simp

theorem without_sub {written : List UInt8} : ∀ a ∈ without written, a ∈ settingRegs :=
  fun _ h => (mem_without.mp h).1

/-- What was written, and the others. -/
theorem SetUp.together (written : List UInt8) {b : Board}
    (h : SetUp o (written ++ without written) b) : AsOrdered o b := by
  refine asOrdered_iff.mpr (fun a ha => h a ?_)
  by_cases hw : a ∈ written
  · exact List.mem_append_left _ hw
  · exact List.mem_append_right _ (mem_without.mpr ⟨ha, hw⟩)

/-- All bits of a register. -/
theorem satisfies_byte (v : UInt8) : Satisfies [(0xFF, v)] v := by
  intro e he
  rw [List.mem_singleton.mp he]
  have hall : ∀ b : BitVec 8, b &&& 0xFF = b := by decide
  exact UInt8.toBitVec_inj.1 (hall v.toBitVec)

theorem satisfies_two {value m v m' v' : UInt8} :
    Satisfies [(m, v), (m', v')] value ↔ value &&& m = v ∧ value &&& m' = v' := by
  unfold Satisfies
  simp

theorem setLdo_value (value : Bool) (x : UInt8) :
    setLdo value x &&& 0x08 = if value then 0x08 else 0 := by
  have hall : ∀ b : BitVec 8, (b ||| 0x08) &&& 0x08 = 0x08 ∧ (b &&& 0xF7) &&& 0x08 = 0 := by decide
  obtain ⟨hset, hclear⟩ := hall x.toBitVec
  cases value with
  | true => exact UInt8.toBitVec_inj.1 hset
  | false => exact UInt8.toBitVec_inj.1 hclear

/-- A value in the upper half of a register. -/
theorem upper_bits {v : UInt8} (h : v &&& 0x0F = 0) :
    v &&& 0xF0 = v ∧ v &&& 0x07 = 0 ∧ v &&& 0x0E = 0 := by
  have hall : ∀ b : BitVec 8, b &&& 0x0F = 0 →
      b &&& 0xF0 = b ∧ b &&& 0x07 = 0 ∧ b &&& 0x0E = 0 := by
    decide
  obtain ⟨hhigh, hlow, hmiddle⟩ := hall v.toBitVec (UInt8.toBitVec_inj.2 h)
  exact ⟨UInt8.toBitVec_inj.1 hhigh, UInt8.toBitVec_inj.1 hlow, UInt8.toBitVec_inj.1 hmiddle⟩

/-- `LoRa_setAutoLDO` sets the bit from the fields. -/
theorem autoLDO_meets (hset : ∀ a ∈ set, a ∈ settingRegs) :
    Meets onBoard (SetUp o set) (loRaSetAutoLDO o.fields)
      (fun _ => SetUp o (Reg.modemConfig3 :: set)) := by
  unfold loRaSetAutoLDO
  cases hc : calculatedBW o.fields.spreadingFactor o.fields.bandWidth with
  | none => exact meets_stop trivial
  | some c =>
      have hldo : o.ldo = decide (c > 16) := by
        unfold Orders.ldo
        rw [hc]
        rfl
      show Meets onBoard _ (loRaSetLowDaraRateOptimization (decide (c > 16))) _
      refine meets_bind (board_read (by decide) (kept_setUp o hset)) (fun read => ?_)
      refine (setUp_write (by decide) hset ?_).pre (fun b hb => hb.1)
      intro e he
      rw [List.mem_singleton.mp (show e ∈ [(0x08, if o.ldo then 0x08 else 0)] from he), hldo]
      exact setLdo_value (decide (c > 16)) read

/-- `LoRa_setFrequency`. -/
theorem frequency_meets (hset : ∀ a ∈ set, a ∈ settingRegs) :
    Meets onBoard (SetUp o set) (loRaSetFrequency o.frequency)
      (fun _ => SetUp o (Reg.frLsb :: Reg.frMid :: Reg.frMsb :: set)) := by
  have hcons : ∀ {l : List UInt8} {a : UInt8}, a ∈ settingRegs → (∀ x ∈ l, x ∈ settingRegs) →
      ∀ x ∈ a :: l, x ∈ settingRegs := by
    intro l a ha hl x hx
    rcases List.mem_cons.mp hx with rfl | hx
    · exact ha
    · exact hl x hx
  have hmsb := hcons (a := Reg.frMsb) (by decide) hset
  refine meets_bind (setUp_write (by decide) hset (satisfies_byte _)) (fun _ => ?_)
  refine meets_bind (setUp_write (by decide) hmsb (satisfies_byte _)) (fun _ => ?_)
  exact setUp_write (by decide) (hcons (by decide) hmsb) (satisfies_byte _)

/-- `LoRa_setSpreadingFactor` keeps the CRC and the timeout, if they are set. -/
theorem spreadingFactor_meets (hset : ∀ a ∈ set, a ∈ settingRegs) :
    Meets onBoard (fun b => SetUp o set b ∧ b.bank Reg.modemConfig2 &&& 0x07 = 0x07)
      (loRaSetSpreadingFactor o.fields o.fields.spreadingFactor)
      (fun _ => SetUp o (Reg.modemConfig3 :: Reg.modemConfig2 :: set)) := by
  have hkept : KeptBy onBoard.rely (fun b : Board => b.bank Reg.modemConfig2 &&& 0x07 = 0x07) :=
    kept_bank (F := fun f => f Reg.modemConfig2 &&& 0x07 = 0x07) (fun f g h hf => by
      rw [h _ (by decide)]
      exact hf)
  refine meets_bind (board_read (by decide) ((kept_setUp o hset).and hkept)) (fun read => ?_)
  have hmore : ∀ a ∈ Reg.modemConfig2 :: set, a ∈ settingRegs := by
    intro a ha
    rcases List.mem_cons.mp ha with rfl | ha
    · decide
    · exact hset a ha
  refine meets_bind (R := fun _ => SetUp o (Reg.modemConfig2 :: set)) ?_
    (fun _ => autoLDO_meets hmore)
  -- the lower three bits are known from what was read
  refine Meets.pre (meets_fact (R := read &&& 0x07 = 0x07) (fun hread =>
    setUp_write (by decide) hset ?_)) (fun b hb => ⟨hb.1.1, by rw [← hb.2]; exact hb.1.2⟩)
  have hvalue : (clampSF o.fields.spreadingFactor <<< 4).toUInt8 ||| (read &&& (0x0F : UInt8))
      = put 0x0F (clampSF o.fields.spreadingFactor <<< 4).toUInt8 read := UInt8.or_comm _ _
  have hshift := (shifted_bits (clampSF o.fields.spreadingFactor)).1
  rw [hvalue]
  refine satisfies_two.mpr ⟨?_, ?_⟩
  · rw [put_field (by decide)]
    exact (upper_bits hshift).1
  · rw [put_frame (by decide) (upper_bits hshift).2.1]
    exact hread

/-- A coding rate that fits, in its three bits. -/
theorem codingRate_own {cd : UInt32} (h : cd &&& 0x78 = 0) :
    (cd <<< 1).toUInt8 &&& (0x0E : UInt8) = (cd <<< 1).toUInt8 := by
  have hall : ∀ b : BitVec 8, (b <<< 1) &&& 0xF0 = 0 → (b <<< 1) &&& 0x0E = b <<< 1 := by decide
  have hbyte : (cd <<< 1).toUInt8 = cd.toUInt8 <<< 1 := UInt32.toUInt8_shiftLeft cd 1 (by decide)
  have hbits := codingRate_bits.mpr h
  rw [hbyte] at hbits ⊢
  exact UInt8.toBitVec_inj.1 (hall cd.toUInt8.toBitVec (UInt8.toBitVec_inj.2 hbits))

end Setters

/-! ## §7. One order. -/

section Order

variable {o : Orders}

/-- The coding rate has no bit above its field. -/
def RadioIoctl.Fits : RadioIoctl → Prop
  | .modem a => a.Fits
  | _ => True

/-- The registers that an order sets; the others are wanted as before. -/
def RadioIoctl.sets : RadioIoctl → List UInt8
  | .modem (.bandWidth _) => [Reg.modemConfig3, Reg.modemConfig1]
  | .modem (.codingRate _) => [Reg.modemConfig1]
  | .modem (.spreadingFactor _) => [Reg.modemConfig3, Reg.modemConfig2]
  | .syncWord _ => [Reg.syncWord]
  | .power _ => [Reg.paConfig]
  | .frequency _ => [Reg.frLsb, Reg.frMid, Reg.frMsb]
  | _ => []

theorem wants_order (a : RadioIoctl) {address : UInt8} (h : address ∉ a.sets) :
    (o.order a).wants address = o.wants address := by
  cases a with
  | getRssi => rfl
  | gotoMode mode => rfl
  | getStatus => rfl
  | modem a =>
      cases a with
      | bandWidth bw =>
          simp only [RadioIoctl.sets, List.mem_cons, List.not_mem_nil, or_false, not_or] at h
          simp only [Orders.wants, if_neg h.1, if_neg h.2]
          rfl
      | codingRate cd =>
          simp only [RadioIoctl.sets, List.mem_singleton] at h
          simp only [Orders.wants, if_neg h]
          rfl
      | spreadingFactor sf =>
          simp only [RadioIoctl.sets, List.mem_cons, List.not_mem_nil, or_false, not_or] at h
          simp only [Orders.wants, if_neg h.1, if_neg h.2]
          rfl
  | syncWord w =>
      simp only [RadioIoctl.sets, List.mem_singleton] at h
      simp only [Orders.wants, if_neg h]
      rfl
  | power p =>
      simp only [RadioIoctl.sets, List.mem_singleton] at h
      simp only [Orders.wants, if_neg h]
      rfl
  | frequency f =>
      simp only [RadioIoctl.sets, List.mem_cons, List.not_mem_nil, or_false, not_or] at h
      simp only [Orders.wants, if_neg h.1, if_neg h.2.1, if_neg h.2.2]
      rfl

/-- The others are still as they should be. -/
theorem AsOrdered.others (a : RadioIoctl) {b : Board} (h : AsOrdered o b) :
    SetUp (o.order a) (without a.sets) b := by
  intro address haddress
  rw [wants_order a (mem_without.mp haddress).2]
  exact h address

/-- **One order, among the others.** -/
theorem order_meets {a : RadioIoctl} (hfits : a.Fits) :
    Meets onBoard (AsOrdered o) (a.program (a.store o.fields))
      (fun _ => AsOrdered (o.order a)) := by
  have hkept := kept_asOrdered o
  cases a with
  | getRssi => exact board_traffic (within_bind (traffic_read _) (fun _ => within_ret ())) hkept
  | getStatus =>
      refine board_traffic (within_bind ?_ (fun _ => within_ret ())) hkept
      exact within_bind (traffic_read _) (fun _ => within_ret _)
  | gotoMode mode =>
      exact board_traffic (within_bind (within_perform trivial) (fun _ => traffic_gotoMode mode))
        hkept
  | syncWord w =>
      have hwrite : Meets onBoard (SetUp (o.order (.syncWord w)) (without [Reg.syncWord]))
          (loRaSetSyncWord w) (fun _ => SetUp _ (Reg.syncWord :: without [Reg.syncWord])) :=
        setUp_write (by decide) without_sub (satisfies_byte w)
      exact (hwrite.pre (fun b hb => hb.others (.syncWord w))).post
        (fun _ b hb => SetUp.together [Reg.syncWord] hb)
  | power p =>
      have hwrite : Meets onBoard (SetUp (o.order (.power p)) (without [Reg.paConfig]))
          (loRaSetPower p) (fun _ => SetUp _ (Reg.paConfig :: without [Reg.paConfig])) :=
        setUp_write (by decide) without_sub (satisfies_byte _)
      exact (hwrite.pre (fun b hb => hb.others (.power p))).post
        (fun _ b hb => SetUp.together [Reg.paConfig] hb)
  | frequency f =>
      refine ((frequency_meets (o := o.order (.frequency f)) without_sub).pre
        (fun b hb => hb.others (.frequency f))).post (fun _ b hb => ?_)
      exact SetUp.together [Reg.frLsb, Reg.frMid, Reg.frMsb] hb
  | modem a =>
      cases a with
      | bandWidth bw =>
          refine meets_bind (board_read (by decide) hkept) (fun data => ?_)
          refine meets_bind (R := fun _ => SetUp (o.order (.modem (.bandWidth bw)))
            (Reg.modemConfig1 :: without [Reg.modemConfig3, Reg.modemConfig1])) ?_ (fun _ => ?_)
          · -- the bits of the coding rate are those that were read
            refine Meets.pre (meets_fact (R := Satisfies (o.wants Reg.modemConfig1) data)
              (fun hdata => setUp_write (by decide) without_sub ?_))
              (fun b hb => ⟨hb.1.others (.modem (.bandWidth bw)), by rw [← hb.2]; exact hb.1 _⟩)
            have hshift := (shifted_bits bw).1
            refine satisfies_two.mpr ⟨?_, ?_⟩
            · exact (put_field (by decide)).trans (upper_bits hshift).1
            · refine (put_frame (by decide) ?_).trans (satisfies_two.mp hdata).2
              exact (upper_bits hshift).2.2
          · refine (autoLDO_meets (o := o.order (.modem (.bandWidth bw))) ?_).post
              (fun _ b hb => SetUp.together [Reg.modemConfig3, Reg.modemConfig1] hb)
            intro x hx
            rcases List.mem_cons.mp hx with rfl | hx
            · decide
            · exact without_sub x hx
      | codingRate cd =>
          refine meets_bind (board_read (by decide) hkept) (fun data => ?_)
          refine (Meets.pre (meets_fact (R := Satisfies (o.wants Reg.modemConfig1) data)
            (fun hdata => setUp_write (o := o.order (.modem (.codingRate cd))) (by decide)
              without_sub ?_))
            (fun b hb => ⟨hb.1.others (.modem (.codingRate cd)), by rw [← hb.2]; exact hb.1 _⟩)).post
            (fun _ b hb => SetUp.together [Reg.modemConfig1] hb)
          refine satisfies_two.mpr ⟨?_, ?_⟩
          · exact (put_frame (by decide) (codingRate_bits.mpr hfits)).trans
              (satisfies_two.mp hdata).1
          · exact (put_field (by decide)).trans (codingRate_own hfits)
      | spreadingFactor sf =>
          refine ((spreadingFactor_meets (o := o.order (.modem (.spreadingFactor sf)))
            without_sub).pre (fun b hb => ⟨hb.others (.modem (.spreadingFactor sf)), ?_⟩)).post
            (fun _ b hb => SetUp.together [Reg.modemConfig3, Reg.modemConfig2] hb)
          exact (satisfies_two.mp (hb Reg.modemConfig2)).2

end Order

/-! ## §8. `LoRa_init`. -/

section Init

variable {m : ModemSettings}

/-- Of a list that has all settings but the sync word and the version. -/
theorem ordered_of_all {l : List UInt8}
    (h : settingRegs.all (fun a => decide (a = Reg.syncWord ∨ a = Reg.version ∨ a ∈ l)) = true)
    {a : UInt8} (ha : a ∈ settingRegs) (hset : ¬ (a = Reg.syncWord ∨ a = Reg.version)) :
    a ∈ l := by
  rcases of_decide_eq_true (List.all_eq_true.mp h a ha) with hsync | hversion | hl
  · exact absurd (Or.inl hsync) hset
  · exact absurd (Or.inr hversion) hset
  · exact hl

/-- A list of settings, one by one. -/
theorem settings_of_all {l : List UInt8} (h : l.all (fun a => decide (a ∈ settingRegs)) = true) :
    ∀ a ∈ l, a ∈ settingRegs := fun a ha => of_decide_eq_true (List.all_eq_true.mp h a ha)

/-- What `LoRa_init` has written when it has done all but the bandwidth and what follows. -/
def firstHalf : List UInt8 :=
  [Reg.symbTimeoutL, Reg.modemConfig3, Reg.modemConfig2, Reg.lna, Reg.ocp, Reg.paConfig,
    Reg.frLsb, Reg.frMid, Reg.frMsb]

/-- `LoRa_setTOMsb_setCRCon` switches the CRC on; the spreading factor is set next. -/
theorem toMsb_meets {o : Orders} {set : List UInt8} (hset : ∀ a ∈ set, a ∈ settingRegs)
    (hother : Reg.modemConfig2 ∉ set) :
    Meets onBoard (SetUp o set) loRaSetTOMsbSetCRCon
      (fun _ b => SetUp o set b ∧ b.bank Reg.modemConfig2 &&& 0x07 = 0x07) := by
  have hkept : KeptBy onBoard.rely (fun b : Board => b.bank Reg.modemConfig2 &&& 0x07 = 0x07) :=
    kept_bank (F := fun f => f Reg.modemConfig2 &&& 0x07 = 0x07) (fun f g h hf => by
      rw [h _ (by decide)]
      exact hf)
  refine meets_bind (board_traffic (traffic_read _) (kept_setUp o hset)) (fun read => ?_)
  refine board_write (by decide) (kept_setUp o hset) ((kept_setUp o hset).and hkept)
    (fun b hb => ⟨fun a ha => ?_, ?_⟩)
  · show Satisfies _ (Function.update b.bank Reg.modemConfig2 _ a)
    rw [Function.update_of_ne
      (fun (heq : a = Reg.modemConfig2) => hother (by rw [← heq]; exact ha))]
    exact hb a ha
  · show Function.update b.bank Reg.modemConfig2 (read ||| 0x07) Reg.modemConfig2 &&& 0x07 = 0x07
    have hall : ∀ x : BitVec 8, (x ||| 0x07) &&& 0x07 = 0x07 := by decide
    rw [Function.update_self]
    exact UInt8.toBitVec_inj.1 (hall read.toBitVec)

/-- Bandwidth, coding rate and the bit of the explicit header. -/
theorem satisfies_modemConfig1 (h : m.codingRate &&& 0x78 = 0) (data : UInt8) :
    Satisfies ((Orders.initial m).wants Reg.modemConfig1)
      ((data &&& (0x01 : UInt8)) ||| ((m.bandWidth <<< 4) ||| (m.codingRate <<< 1)).toUInt8) := by
  have hband := upper_bits (shifted_bits m.bandWidth).1
  have hvalue : ((m.bandWidth <<< 4) ||| (m.codingRate <<< 1)).toUInt8
      = (m.bandWidth <<< 4).toUInt8 ||| (m.codingRate <<< 1).toUInt8 := UInt32.toUInt8_or _ _
  rw [hvalue]
  refine satisfies_two.mpr ⟨?_, ?_⟩
  · rw [or_and_byte, or_and_byte, hband.1, codingRate_bits.mpr h, UInt8.and_assoc]
    show data &&& 0 ||| _ = _
    rw [UInt8.and_zero, UInt8.zero_or, UInt8.or_zero]
    rfl
  · rw [or_and_byte, or_and_byte, hband.2.2, codingRate_own h, UInt8.and_assoc]
    show data &&& 0 ||| _ = _
    rw [UInt8.and_zero, UInt8.zero_or, UInt8.zero_or]
    rfl

/-- **`LoRa_init` sets every register.** -/
theorem configure_meets (h : m.codingRate &&& 0x78 = 0) :
    Meets onBoard (fun _ => True) (loRaConfigure m) (fun _ => AsOrdered (Orders.initial m)) := by
  have hnone : KeptBy onBoard.rely (fun _ => True) := fun _ _ _ _ => trivial
  have hfirst : ∀ a ∈ firstHalf, a ∈ settingRegs := settings_of_all (by decide)
  refine meets_bind (board_traffic (traffic_gotoMode _) hnone) (fun _ => ?_)
  refine meets_bind (board_traffic (traffic_read _) hnone) (fun read => ?_)
  refine meets_bind (board_traffic (traffic_write _ (by decide)) hnone) (fun _ => ?_)
  -- from here on register by register
  refine meets_bind ((frequency_meets (o := Orders.initial m) (settings_of_all (l := []) rfl)).pre
    (fun _ _ a ha => by cases ha)) (fun _ => ?_)
  refine meets_bind (setUp_write (by decide) (settings_of_all (by decide)) (satisfies_byte _))
    (fun _ => ?_)
  refine meets_bind (setUp_write (by decide) (settings_of_all (by decide)) (satisfies_byte _))
    (fun _ => ?_)
  refine meets_bind (setUp_write (by decide) (settings_of_all (by decide)) (satisfies_byte _))
    (fun _ => ?_)
  refine meets_bind (toMsb_meets (settings_of_all (by decide)) (by decide)) (fun _ => ?_)
  refine meets_bind (spreadingFactor_meets (o := Orders.initial m) (settings_of_all (by decide)))
    (fun _ => ?_)
  refine meets_bind (setUp_write (by decide) (settings_of_all (by decide)) (satisfies_byte _))
    (fun _ => ?_)
  refine meets_bind (board_traffic (traffic_read _) (kept_setUp _ hfirst)) (fun data => ?_)
  refine meets_bind (setUp_write (by decide) hfirst (satisfies_modemConfig1 h data)) (fun _ => ?_)
  refine meets_bind (autoLDO_meets (o := Orders.initial m) (settings_of_all (by decide)))
    (fun _ => ?_)
  refine meets_bind (setUp_write (by decide) (settings_of_all (by decide)) (satisfies_byte _))
    (fun _ => ?_)
  refine meets_bind (setUp_write (by decide) (settings_of_all (by decide)) (satisfies_byte _))
    (fun _ => ?_)
  refine meets_bind (board_traffic (traffic_read _) (kept_setUp _ (settings_of_all (by decide))))
    (fun read => ?_)
  refine meets_bind (setUp_write (by decide) (settings_of_all (by decide)) ?_) (fun _ => ?_)
  · intro e he
    have hall : ∀ x : BitVec 8, (x ||| 0x3F) &&& 0x3F = 0x3F := by decide
    rw [List.mem_singleton.mp (show e ∈ [(0x3F, 0x3F)] from he)]
    exact UInt8.toBitVec_inj.1 (hall read.toBitVec)
  refine (board_traffic (traffic_gotoMode _) (kept_setUp _ (settings_of_all (by decide)))).post
    (fun _ b hb => asOrdered_iff.mpr (fun a ha => ?_))
  -- the sync word is not ordered yet, and the version is the chip's
  by_cases hset : a = Reg.syncWord ∨ a = Reg.version
  · intro e he
    rcases hset with rfl | rfl
    · exact absurd (show e ∈ ([] : List (UInt8 × UInt8)) from he) (by simp)
    · exact absurd (show e ∈ ([] : List (UInt8 × UInt8)) from he) (by simp)
  · exact hb a (ordered_of_all (by decide) ha hset)

/-- `LoRa_isValid` reads the version. -/
theorem isValid_meets {A : Board → Prop} (hA : KeptBy onBoard.rely A) :
    Meets onBoard A loRaIsValid
      (fun status b => A b ∧ (status = .ok ↔ b.bank Reg.version = 0x12)) := by
  have hkept : ∀ v : UInt8, KeptBy onBoard.rely (fun b : Board => b.bank Reg.version = v) := by
    intro v
    exact kept_bank (F := fun f => f Reg.version = v) (fun f g h hf => by
      rw [h _ (by decide)]
      exact hf)
  refine meets_bind (board_read (by decide) hA) (fun v => ?_)
  refine meets_ret (hA.and (hkept v)) (fun b hb => ⟨hb.1, ?_⟩)
  rw [hb.2]
  by_cases hv : v = 0x12
  · rw [if_pos hv]
    exact ⟨fun _ => hv, fun _ => rfl⟩
  · rw [if_neg hv]
    exact ⟨fun h => (by cases h), fun h => absurd h hv⟩

/-- **`LoRa_init`**, when it says `LORA_OK`. -/
theorem initialise_meets (irq : Bool) (h : m.codingRate &&& 0x78 = 0) :
    Meets onBoard (fun _ => True) (sx1278LoRaInit irq m)
      (fun status b => status = .ok → AsOrdered (Orders.initial m) b) := by
  have hnone : KeptBy onBoard.rely (fun _ => True) := fun _ _ _ _ => trivial
  cases irq with
  | false => exact meets_ret hnone (fun _ _ hok => by cases hok)
  | true =>
      have hversion : ∀ p : Prop, KeptBy onBoard.rely
          (fun b : Board => True ∧ (p ↔ b.bank Reg.version = 0x12)) := by
        intro p
        exact kept_bank (F := fun f => True ∧ (p ↔ f Reg.version = 0x12)) (fun f g hsame hf => by
          rw [hsame _ (by decide)]
          exact hf)
      refine meets_bind (isValid_meets hnone) (fun valid => ?_)
      by_cases hvalid : valid = .ok
      · rw [if_pos hvalid]
        refine meets_bind ((configure_meets h).pre (fun _ _ => trivial)) (fun _ => ?_)
        refine meets_bind (board_traffic (traffic_read _) (kept_asOrdered _)) (fun read => ?_)
        exact meets_ret (kept_asOrdered _) (fun _ hb _ => hb)
      · -- the second look finds the same version
        rw [if_neg hvalid]
        refine (isValid_meets (hversion _)).post (fun status b hb hok => ?_)
        exact absurd (hb.1.2.mpr (hb.2.mp hok)) hvalid

end Init

/-! ## §9. The machine. -/

/-- Whoever else uses the chip: a process that sends, the interrupt, a process that asks
for the RSSI or the status (as the OLED driver does), and one that changes the mode. -/
inductive Visitor where
  | sends (fuel : Nat) (opens : Bool) (data : Buffer packetSize)
  | receives (cacheBuffer : Buffer packetSize)
  | getsRssi
  | getsStatus
  | goesTo (mode : UInt32)

/-- The code of the driver for it. -/
def Visitor.program : Visitor → Driver Unit
  | .sends fuel opens data => do
      let _ ← loraTransmit fuel opens data
      pure ()
  | .receives cacheBuffer => do
      let _ ← getMessage cacheBuffer
      pure ()
  | .getsRssi => do
      let _ ← loRaGetRSSI
      pure ()
  | .getsStatus => do
      let _ ← loRaIsValid
      pure ()
  | .goesTo mode => gotoModeIoctl mode

/-- The settings, and the visitors that come and go. -/
def radioCrowd : Crowd DriverOp DriverOp.Resp Stop Unit Board BoardEvent Visitor :=
  ⟨Board.answer, Board.event, Visitor.program⟩

/-- None of them touches a setting. -/
theorem radioCrowd_obeys : radioCrowd.Obeys onBoard Traffic where
  device := rfl
  harmless := traffic_harmless
  event := by
    intro b e b' h address haddress
    simp only [radioCrowd, Board.event] at h
    split at h
    next => cases h
    next hnot =>
        rw [← Option.some.inj h]
        exact Function.update_of_ne (fun (heq : address = e.address) => hnot (by
          rw [← heq]
          exact haddress)) _ _
  program := by
    intro x
    cases x with
    | sends fuel opens data =>
        exact within_bind (traffic_transmission fuel opens data) (fun _ => within_ret ())
    | receives cacheBuffer =>
        exact within_bind (traffic_reception cacheBuffer) (fun _ => within_ret ())
    | getsRssi => exact within_bind (traffic_read _) (fun _ => within_ret ())
    | getsStatus =>
        exact within_bind (within_bind (traffic_read _) (fun _ => within_ret _))
          (fun _ => within_ret ())
    | goesTo mode =>
        exact within_bind (within_perform trivial) (fun _ => traffic_gotoMode mode)

/-- What the process with the orders has last done: `LoRa_init`, as the driver is loaded,
or a call. -/
abbrev LastCall := LoRaStatus ⊕ Int

/-- The orders so far, the process that gives them, and the others at the chip. -/
structure Workplace where
  orders : Orders
  crew : Parallel DriverOp DriverOp.Resp Stop LastCall Unit Board

/-- A step of somebody, or the next call of an `ioctl`. -/
inductive WorkMove where
  | crew (move : ParallelMove BoardEvent Visitor)
  | call (c : RadioCall)

/-- There is a device file after a successful `LoRa_init`, and one call at a time. -/
def Idle : LastCall → Prop
  | .inl status => status = .ok
  | .inr _ => True

instance (last : LastCall) : Decidable (Idle last) := by
  cases last <;> unfold Idle <;> infer_instance

/-- The next call begins when the last one has returned. -/
def workStep (w : Workplace) : WorkMove → Option Workplace
  | .crew move => (parallelStep radioCrowd w.crew move).map (fun crew => { w with crew := crew })
  | .call c =>
      match w.crew.one with
      | .ret last =>
          if Idle last then
            let orders := w.orders.after c
            some ⟨orders, { w.crew with one := do
              let result ← c.program orders.fields
              pure (.inr result) }⟩
          else none
      | _ => none

/-- The driver is loaded; nothing is known of the registers. -/
def Workplace.probing (irq : Bool) (m : ModemSettings) (b : Board) : Workplace :=
  ⟨.initial m, ⟨do
    let status ← sx1278LoRaInit irq m
    pure (.inl status), [], b⟩⟩

/-- The coding rates that are ordered fit their bits. -/
def FitCalls (_ : Workplace) : WorkMove → Prop
  | .crew _ => True
  | .call c => c.ioctl.Fits

/-- Whoever is at work, the process with the orders will leave the settings as ordered. -/
def OnTrack (w : Workplace) : Prop :=
  w.crew.Leads onBoard Traffic (fun last b => Idle last → AsOrdered w.orders b)

theorem call_meets {o : Orders} {c : RadioCall} (hfits : c.ioctl.Fits) :
    Meets onBoard (AsOrdered o) (c.program (o.after c).fields)
      (fun _ => AsOrdered (o.after c)) := by
  unfold RadioCall.program Orders.after
  cases hgoes : c.goes with
  | false => exact meets_ret (kept_asOrdered o) (fun _ hb => hb)
  | true =>
      refine meets_bind (order_meets hfits) (fun _ => ?_)
      exact meets_ret (kept_asOrdered _) (fun _ hb => hb)

theorem workStep_onTrack {w w' : Workplace} {move : WorkMove} (h : OnTrack w)
    (hfits : FitCalls w move) (hs : workStep w move = some w') : OnTrack w' := by
  cases move with
  | crew move =>
      obtain ⟨crew, hcrew, rfl⟩ := Option.map_eq_some_iff.mp hs
      exact parallel_step radioCrowd_obeys h hcrew
  | call c =>
      simp only [workStep] at hs
      cases hone : w.crew.one with
      | ret last =>
          simp only [hone] at hs
          split at hs
          next hidle =>
              obtain rfl := Option.some.inj hs
              have hnow : AsOrdered w.orders w.crew.state := h.done hone hidle
              have hcall : Meets onBoard (AsOrdered w.orders) (do
                  let result ← c.program (w.orders.after c).fields
                  pure (.inr result)) (fun last b => Idle last → AsOrdered (w.orders.after c) b) :=
                meets_bind (call_meets hfits)
                  (fun _ => meets_ret (kept_asOrdered _) (fun _ hb _ => hb))
              exact ⟨hcall _ hnow, h.2⟩
          next => cases hs
      | stop e =>
          simp only [hone] at hs
          cases hs
      | op o k =>
          simp only [hone] at hs
          cases hs

/-! ## §10. Runs. -/

/-- The number in the synthesizer. -/
def Board.synthesizer (b : Board) : Nat :=
  (b.bank Reg.frMsb).toNat * 65536 + (b.bank Reg.frMid).toNat * 256 + (b.bank Reg.frLsb).toNat

/-- A register of which all bits are wanted. -/
theorem AsOrdered.byte {o : Orders} {b : Board} (h : AsOrdered o b) {address v : UInt8}
    (hwants : o.wants address = [(0xFF, v)]) : b.bank address = v := by
  have hall : ∀ x : BitVec 8, x &&& 0xFF = x := by decide
  have hv : b.bank address &&& 0xFF = v :=
    h address (0xFF, v) (by rw [hwants]; exact List.mem_singleton_self _)
  rw [← hv]
  exact (UInt8.toBitVec_inj.1 (hall (b.bank address).toBitVec)).symm

theorem frequencySteps_toNat {f : Int32} (hpos : 0 ≤ f.toInt) (hlt : f.toInt < 1024) :
    ((frequencySteps f).toNat : Int) = f.toInt * 16384 := by
  have hf : (f.toUInt32.toNat : Int) = f.toInt := by
    have hbits : f.toInt = f.toUInt32.toBitVec.toInt := rfl
    have hnat : f.toUInt32.toNat = f.toUInt32.toBitVec.toNat := rfl
    rw [BitVec.toInt_eq_toNat_cond] at hbits
    split at hbits <;> omega
  unfold frequencySteps
  rw [UInt32.toNat_shiftRight, UInt32.toNat_mul, Nat.shiftRight_eq_div_pow]
  show ((f.toUInt32.toNat * 524288 % 4294967296 / 32 : Nat) : Int) = _
  omega

/-- It is exact for every frequency that fits the 24 bits. -/
theorem synthesizer_exact {o : Orders} {b : Board} (h : AsOrdered o b)
    (hpos : 0 ≤ o.frequency.toInt) (hlt : o.frequency.toInt < 1024) :
    (b.synthesizer : Int) = o.frequency.toInt * 16384 := by
  have hsteps := frequencySteps_toNat hpos hlt
  unfold Board.synthesizer
  rw [h.byte (show o.wants Reg.frMsb = _ from rfl), h.byte (show o.wants Reg.frMid = _ from rfl),
    h.byte (show o.wants Reg.frLsb = _ from rfl)]
  simp only [UInt32.toNat_toUInt8, UInt32.toNat_shiftRight, Nat.shiftRight_eq_div_pow]
  generalize (frequencySteps o.frequency).toNat = n at *
  show ((n / 65536 % 256 * 65536 + n / 256 % 256 * 256 + n % 256 : Nat) : Int) = _
  omega

/-- **THE RADIO IS SET UP AS IT WAS ORDERED LAST**, over every run in which one process
gives the orders, and whenever it is not in the middle of one; a frequency below
1024 MHz is met exactly, in steps of 32 MHz / 524288. -/
theorem settings_follow_orders {irq : Bool} {m : ModemSettings} {b : Board} {w : Workplace}
    (hm : m.codingRate &&& 0x78 = 0) (h : Reach workStep FitCalls (.probing irq m b) w)
    {last : LastCall} (hlast : w.crew.one = .ret last) (hidle : Idle last) :
    AsOrdered w.orders w.crew.state
      ∧ (0 ≤ w.orders.frequency.toInt → w.orders.frequency.toInt < 1024 →
        (w.crew.state.synthesizer : Int) * 32000000
          = w.orders.frequency.toInt * 1000000 * 524288) := by
  have hstart : OnTrack (.probing irq m b) := by
    have hinit : Meets onBoard (fun _ => True) (do
        let status ← sx1278LoRaInit irq m
        pure (.inl status)) (fun last b => Idle last → AsOrdered (.initial m) b) :=
      meets_bind (initialise_meets irq hm) (fun status => meets_ret
        (fun b b' hb hsame hok => kept_asOrdered _ b b' (hb hok) hsame) (fun b hb hok => hb hok))
    exact ⟨hinit b trivial, fun p hp => by cases hp⟩
  have htrack : OnTrack w :=
    Reach.invariant hstart (fun _ _ _ hi hok hs => workStep_onTrack hi hok hs) h
  have hordered := htrack.done hlast hidle
  refine ⟨hordered, fun hpos hlt => ?_⟩
  rw [synthesizer_exact hordered hpos hlt]
  omega

instance RadioIoctl.decidableFits (a : RadioIoctl) : Decidable a.Fits :=
  match a with
  | .modem (.codingRate cd) => inferInstanceAs (Decidable (cd &&& 0x78 = 0))
  | .modem (.bandWidth _) | .modem (.spreadingFactor _) => inferInstanceAs (Decidable True)
  | .getRssi | .gotoMode _ | .syncWord _ | .power _ | .frequency _ | .getStatus =>
      inferInstanceAs (Decidable True)

instance (w : Workplace) (move : WorkMove) : Decidable (FitCalls w move) :=
  match move with
  | .crew _ => inferInstanceAs (Decidable True)
  | .call c => inferInstanceAs (Decidable c.ioctl.Fits)

/-- An SX1278 after its reset, as far as it matters here. -/
def resetBoard : Board := ⟨fun address => if address = Reg.version then 0x12 else 0, 0, fun _ => 0⟩

/-- `LoRa_init`; then 434 MHz is ordered, and the interrupt comes while the three
registers are written. -/
def orderAmidReception : List WorkMove :=
  List.replicate 31 (.crew .one)
    ++ [.call ⟨.frequency 434, true, true⟩, .crew .one,
      .crew (.event ⟨Reg.irqFlags, 0x40⟩), .crew (.come (.receives (Buffer.zero packetSize))),
      .crew (.other 0), .crew (.other 0), .crew .one, .crew (.other 0), .crew (.other 0),
      .crew .one]

theorem settings_follow_orders_amid_reception :
    ∃ w : Workplace, w.orders = (Orders.initial .probed).order (.frequency 434)
      ∧ AsOrdered w.orders w.crew.state
      ∧ (w.crew.state.synthesizer : Int) * 32000000 = 434 * 1000000 * 524288 := by
  have hrun : (run (only workStep (fun w move => decide (FitCalls w move)))
      (.probing true .probed resetBoard) orderAmidReception).map
        (fun w => (w.crew.one.result?, w.orders))
      = some (some (.inr 0), (Orders.initial .probed).order (.frequency 434)) := by
    decide +kernel
  obtain ⟨w, hw, hfields⟩ := Option.map_eq_some_iff.mp hrun
  obtain ⟨hresult, horders⟩ := Prod.mk.inj hfields
  have hreach : Reach workStep FitCalls (.probing true .probed resetBoard) w :=
    (reach_of_run _ hw).mono (fun _ _ h => of_decide_eq_true h)
  obtain ⟨hordered, hexact⟩ := settings_follow_orders (by decide) hreach
    (Program.eq_ret_of_result? hresult) trivial
  rw [horders] at hexact
  exact ⟨w, horders, hordered, hexact (by decide) (by decide)⟩

end LoRaGateway
