/-
  LoRaGateway.Driver.Cad
  ──────────────────────
  **LISTEN BEFORE TALK, AND HOW LONG IT TAKES.**

  `LoRa_transmit` scans the channel until a scan detects nothing, sends, and waits for
  `TxDone`.  Each of its three loops reads `RegIrqFlags`; only the last one counts its
  rounds.

    • `TxSight` — what is seen of a run: changes of mode, and readings of the flags,
    • `transmit_restores_mode` — every run that returns: the scans, the polls, the result,
      and the mode at the end,
    • `transmit_returns_iff` — the sequences of readings on which it returns.
-/
import LoRaGateway.Driver.Chip
import LoRaGateway.Driver.WriteBounds

namespace LoRaGateway

open LoRaGateway.Lib
open LoRaGateway.Lib.Program (returns_bind returns_bind_shown returns_bind_silent returns_perform
  returns_ret returns_stop total_bind)

/-! ## §1. What is seen of a transmission. -/

/-- A value for `current_mode`, the mode bits of a write to `RegOpMode`, or a reading of
`RegIrqFlags`. -/
inductive TxSight where
  | currentMode (mode : UInt32)
  | opMode (bits : UInt8)
  | flags (v : UInt8)
  deriving DecidableEq

/-- What can be seen of a transfer: the mode, and the flags that are read. -/
def txSight : Sigma DriverOp.Resp → List TxSight
  | ⟨.setMode mode, _⟩ => [.currentMode mode]
  | ⟨.spiWrite [address, value], _⟩ =>
      if address = Reg.opMode ||| 0x80 then [.opMode (value &&& 0x07)] else []
  | ⟨.spiWriteThenRead address, v⟩ => if address = Reg.irqFlags then [.flags v] else []
  | _ => []

/-- A change to a mode, as it is seen. -/
def command (mode : UInt32) : List TxSight :=
  [.currentMode mode, .opMode (mode.toUInt8 &&& 0x07)]

/-- The scan is over. -/
def CadDone (flags : UInt8) : Prop := (flags >>> 2) &&& 0x01 ≠ 0

/-- The scan has found a packet on the air. -/
def CadDetected (flags : UInt8) : Prop := flags &&& 0x01 ≠ 0

/-- The packet has been sent. -/
def TxDone (flags : UInt8) : Prop := flags &&& 0x08 ≠ 0

instance (flags : UInt8) : Decidable (CadDetected flags) :=
  inferInstanceAs (Decidable (flags &&& 0x01 ≠ 0))

/-- The readings of one scan: those before `CadDone`, the one with it, and the next one,
whose `CadDetected` counts. -/
structure Scan where
  waiting : List UInt8
  done : UInt8
  result : UInt8
  waits : ∀ v ∈ waiting, ¬ CadDone v
  ends : CadDone done

/-- The scan has found somebody else. -/
def Scan.Detects (s : Scan) : Prop := CadDetected s.result

/-- The command CAD, and the readings. -/
def Scan.sight (s : Scan) : List TxSight :=
  command Mode.cad ++ (s.waiting.map .flags ++ [.flags s.done, .flags s.result])

/-- The polls after TRANSMIT_MODE: `TxDone` is seen in the last one of them and the result is
1, or in none of as many as `timeout` allows and the result is 0. -/
def Polls (timeout : Nat) (result : UInt8) (polls : List UInt8) : Prop :=
  (result = 1 ∧ polls.length ≤ timeout
      ∧ ∃ before last, polls = before ++ [last] ∧ (∀ v ∈ before, ¬ TxDone v) ∧ TxDone last)
    ∨ (result = 0 ∧ polls.length = timeout ∧ ∀ v ∈ polls, ¬ TxDone v)

/-- **A transmission from one mode**: STANDBY; scans that detect something, and then one that
does not; STANDBY and TRANSMIT; the polls; and the mode again. -/
def Transmits (mode : UInt32) (timeout : Nat) (result : UInt8) (sight : List TxSight) : Prop :=
  ∃ (busy : List Scan) (free : Scan) (polls : List UInt8),
    sight = command Mode.standby ++ (busy.flatMap Scan.sight ++ free.sight)
        ++ (command Mode.standby ++ command Mode.transmit) ++ polls.map .flags ++ command mode
      ∧ (∀ s ∈ busy, s.Detects) ∧ ¬ free.Detects ∧ Polls timeout result polls

/-! ## §2. The parts of a run. -/

/-- What a driver function that returns has let be seen. -/
abbrev Sees {α : Type} (p : Driver α) (Q : α → List TxSight → Prop) : Prop := p.Returns txSight Q

section Sees

theorem sees_perform {o : DriverOp} {Q : o.Resp → List TxSight → Prop}
    (h : ∀ r, Q r (txSight ⟨o, r⟩)) : Sees (perform o) Q := returns_perform h

theorem sees_flags : Sees (loRaRead Reg.irqFlags) (fun v xs => xs = [.flags v]) :=
  sees_perform (fun _ => rfl)

/-- Reading another register shows nothing. -/
theorem sees_read {address : UInt8} (h : address &&& 0x7F ≠ Reg.irqFlags) :
    Sees (loRaRead address) (fun _ xs => xs = []) := sees_perform (fun _ => if_neg h)

/-- So does writing one. -/
theorem sees_write {address : UInt8} (h : address ||| 0x80 ≠ Reg.opMode ||| 0x80) (value : UInt8) :
    Sees (loRaWrite address value) (fun _ xs => xs = []) := sees_perform (fun _ => if_neg h)

theorem sees_gotoMode {mode : UInt32} (h : mode ∈ Mode.handled) :
    Sees (loRaGotoMode mode) (fun _ xs => xs = command mode) := by
  have hfield : Sees (perform (.setMode mode)) (fun _ xs => xs = [.currentMode mode]) :=
    sees_perform (fun _ => rfl)
  rw [loRaGotoMode_eq h]
  apply returns_bind_silent (sees_read (by decide))
  intro read
  apply returns_bind_shown hfield
  intro _
  apply sees_perform
  intro _
  show [TxSight.currentMode mode] ++ (if Reg.opMode ||| 0x80 = Reg.opMode ||| 0x80 then
    [TxSight.opMode ((read &&& 0xF8 ||| mode.toUInt8) &&& 0x07)] else []) = _
  rw [if_pos rfl, mode_bits]
  rfl

/-- The bytes of the burst go to the FIFO. -/
theorem sees_burstWrite (value : Buffer packetSize) :
    Sees (loRaBurstWrite Reg.fifo value) (fun _ xs => xs = []) := by
  by_cases h : (0 : UInt8) ∈ value.bytes ∧ (cstr value.bytes).length ≤ 58
  · rw [loRaBurstWrite_eq h.1 h.2]
    apply sees_perform
    intro _
    unfold txSight
    split
    next heq => cases heq
    next heq =>
        have hlist := DriverOp.spiWrite.inj (congrArg Sigma.fst heq)
        rw [← (List.cons.inj hlist).1]
        rfl
    next heq => cases heq
    next => rfl
  · rw [loRaBurstWrite_undefined h]
    exact returns_stop

/-- The wait for `CadDone`. -/
theorem sees_cadDoneLoop (fuel : Nat) :
    Sees (cadDoneLoop fuel) (fun _ xs => ∃ (waiting : List UInt8) (done : UInt8),
      xs = waiting.map .flags ++ [.flags done] ∧ (∀ v ∈ waiting, ¬ CadDone v) ∧ CadDone done) := by
  induction fuel with
  | zero => exact returns_stop
  | succ fuel ih =>
      unfold cadDoneLoop
      apply returns_bind sees_flags
      intro read xs hread
      rw [hread]
      split
      next hclear =>
          have hfirst : ¬ CadDone read := fun h => h hclear
          apply ih.mono
          intro _ xs hrest
          obtain ⟨waiting, done, rfl, hwaits, hdone⟩ := hrest
          exact ⟨read :: waiting, done, rfl, List.forall_mem_cons.mpr ⟨hfirst, hwaits⟩, hdone⟩
      next hset => exact returns_ret ⟨[], read, rfl, List.forall_mem_nil _, hset⟩

/-- One scan, and what follows it. -/
theorem sees_scan {α : Type} {fuel : Nat} {f : UInt8 → Driver α} {R : α → List TxSight → Prop}
    (hf : ∀ scan : Scan, Sees (f scan.result) (fun a ys => R a (scan.sight ++ ys))) :
    Sees (do
      loRaGotoMode Mode.cad
      cadDoneLoop fuel
      let read ← loRaRead Reg.irqFlags
      loRaWrite Reg.irqFlags 0xFF
      f read) R := by
  apply returns_bind_shown (sees_gotoMode (by decide))
  intro _
  apply returns_bind (sees_cadDoneLoop fuel)
  intro _ xs hwait
  obtain ⟨waiting, done, rfl, hwaits, hdone⟩ := hwait
  apply returns_bind sees_flags
  intro read ys hread
  rw [hread]
  apply returns_bind_silent (sees_write (by decide) _)
  intro _
  apply (hf ⟨waiting, done, read, hwaits, hdone⟩).mono
  intro a zs h
  have hsight : Scan.sight ⟨waiting, done, read, hwaits, hdone⟩ ++ zs
      = command Mode.cad ++ (waiting.map .flags ++ [.flags done] ++ ([.flags read] ++ zs)) := by
    unfold Scan.sight
    simp only [List.append_assoc, List.cons_append, List.nil_append]
  rw [hsight] at h
  exact h

/-- The scans: all but the last one detect something. -/
theorem sees_cadLoop (fuel : Nat) :
    Sees (cadLoop fuel) (fun _ xs => ∃ (busy : List Scan) (free : Scan),
      xs = busy.flatMap Scan.sight ++ free.sight ∧ (∀ s ∈ busy, s.Detects) ∧ ¬ free.Detects) := by
  induction fuel with
  | zero => exact returns_stop
  | succ fuel ih =>
      unfold cadLoop
      apply sees_scan
      intro scan
      split
      next hdetected =>
          apply ih.mono
          intro _ xs hrest
          obtain ⟨busy, free, rfl, hbusy, hfree⟩ := hrest
          refine ⟨scan :: busy, free, ?_, List.forall_mem_cons.mpr ⟨hdetected, hbusy⟩, hfree⟩
          rw [List.flatMap_cons, List.append_assoc]
      next hclear => exact returns_ret ⟨[], scan, List.append_nil _, List.forall_mem_nil _, hclear⟩

theorem Polls.done {timeout : Nat} {v : UInt8} (h : TxDone v) (hpos : 1 ≤ timeout) :
    Polls timeout 1 [v] := Or.inl ⟨rfl, hpos, [], v, rfl, List.forall_mem_nil _, h⟩

theorem Polls.none : Polls 0 0 [] := Or.inr ⟨rfl, rfl, List.forall_mem_nil _⟩

/-- A poll that sees nothing comes before the others. -/
theorem Polls.cons {timeout : Nat} {result v : UInt8} {polls : List UInt8} (hv : ¬ TxDone v)
    (h : Polls timeout result polls) : Polls (timeout + 1) result (v :: polls) := by
  rcases h with ⟨hone, hlen, before, last, rfl, hbefore, hlast⟩ | ⟨hzero, hlen, hall⟩
  · have hfirst : ∀ w ∈ v :: before, ¬ TxDone w := List.forall_mem_cons.mpr ⟨hv, hbefore⟩
    refine Or.inl ⟨hone, ?_, v :: before, last, rfl, hfirst, hlast⟩
    rw [List.length_cons]
    exact Nat.succ_le_succ hlen
  · refine Or.inr ⟨hzero, ?_, List.forall_mem_cons.mpr ⟨hv, hall⟩⟩
    rw [List.length_cons, hlen]

/-- The wait for `TxDone`, and the way back to the mode of before. -/
theorem sees_txDoneLoop {mode : UInt32} (h : mode ∈ Mode.handled) (k : Nat) :
    Sees (txDoneLoop mode k) (fun result xs => ∃ polls : List UInt8,
      xs = polls.map .flags ++ command mode ∧ Polls (k + 1) result polls) := by
  -- the branch on `TxDone`
  have hdone : ∀ v, TxDone v → ∀ j, Sees (do
      loRaWrite Reg.irqFlags 0xFF
      loRaGotoMode mode
      pure (1 : UInt8)) (fun result xs => ∃ polls : List UInt8,
        [.flags v] ++ xs = polls.map .flags ++ command mode ∧ Polls (j + 1) result polls) := by
    intro v hv j
    apply returns_bind_silent (sees_write (by decide) _)
    intro _
    apply returns_bind_shown (sees_gotoMode h)
    intro _
    exact returns_ret ⟨[v], by simp, Polls.done hv (Nat.le_add_left 1 j)⟩
  induction k with
  | zero =>
      unfold txDoneLoop
      apply returns_bind sees_flags
      intro read xs hread
      rw [hread]
      split
      next hset => exact hdone read hset 0
      next hclear =>
          apply returns_bind_shown (sees_gotoMode h)
          intro _
          exact returns_ret ⟨[read], by simp, Polls.none.cons hclear⟩
  | succ k ih =>
      unfold txDoneLoop
      apply returns_bind sees_flags
      intro read xs hread
      rw [hread]
      split
      next hset => exact hdone read hset (k + 1)
      next hclear =>
          apply ih.mono
          intro result xs hrest
          obtain ⟨polls, rfl, hpolls⟩ := hrest
          exact ⟨read :: polls, rfl, hpolls.cons hclear⟩

/-- Once the channel is free: STANDBY, TRANSMIT, and the wait. -/
theorem sees_sendData {mode : UInt32} (h : mode ∈ Mode.handled) (data : Buffer packetSize)
    (length : UInt8) {timeout : UInt16} (htimeout : 1 ≤ timeout) :
    Sees (sendData data length timeout mode) (fun result xs => ∃ polls : List UInt8,
      xs = command Mode.standby ++ command Mode.transmit ++ polls.map .flags ++ command mode
        ∧ Polls timeout.toNat result polls) := by
  -- the counter is decremented before it is compared with zero
  have hrounds : (timeout - 1).toNat + 1 = timeout.toNat := by
    have hone : (1 : UInt16).toNat = 1 := rfl
    have hpos : 1 ≤ timeout.toNat := htimeout
    rw [UInt16.toNat_sub_of_le _ _ htimeout, hone]
    omega
  unfold sendData
  apply returns_bind_shown (sees_gotoMode (by decide))
  intro _
  apply returns_bind_silent (sees_read (by decide))
  intro read
  apply returns_bind_silent (sees_write (by decide) _)
  intro _
  apply returns_bind_silent (sees_write (by decide) _)
  intro _
  apply returns_bind_silent (sees_burstWrite data)
  intro _
  apply returns_bind_shown (sees_gotoMode (by decide))
  intro _
  apply (sees_txDoneLoop h _).mono
  intro result xs hwait
  obtain ⟨polls, rfl, hpolls⟩ := hwait
  rw [hrounds] at hpolls
  refine ⟨polls, ?_, hpolls⟩
  simp only [List.append_assoc]

/-- `LoRa_transmit` after the first line, which reads the mode to go back to. -/
theorem sees_transmit {mode : UInt32} (h : mode ∈ Mode.handled) (fuel : Nat)
    (data : Buffer packetSize) (length : UInt8) {timeout : UInt16} (htimeout : 1 ≤ timeout) :
    Sees (do
      loRaGotoMode Mode.standby
      cadLoop fuel
      sendData data length timeout mode) (Transmits mode timeout.toNat) := by
  apply returns_bind_shown (sees_gotoMode (by decide))
  intro _
  apply returns_bind (sees_cadLoop fuel)
  intro _ xs hscans
  obtain ⟨busy, free, rfl, hbusy, hfree⟩ := hscans
  apply (sees_sendData h data length htimeout).mono
  intro result ys hsend
  obtain ⟨polls, rfl, hpolls⟩ := hsend
  refine ⟨busy, free, polls, ?_, hbusy, hfree, hpolls⟩
  simp only [List.append_assoc]

end Sees

/-- **EVERY TRANSMISSION THAT RETURNS.**  From a mode that `LoRa_gotoMode` has a case for, the
run is STANDBY, scans that each detected something, one that did not, STANDBY and TRANSMIT, at
most `timeout` polls, and the mode of before; the result is 1 exactly when a poll saw `TxDone`. -/
theorem transmit_restores_mode (fuel : Nat) (data : Buffer packetSize) (length : UInt8)
    {timeout : UInt16} (htimeout : 1 ≤ timeout) {mode : UInt32} (hmode : mode ∈ Mode.handled)
    {t : List (Sigma DriverOp.Resp)} {result : UInt8}
    (h : Program.Trace (loRaTransmit fuel data length timeout) (⟨.getMode, mode⟩ :: t)
      (.returned result)) :
    Transmits mode timeout.toNat result (t.flatMap txSight) := by
  rw [loRaTransmit_eq] at h
  cases h with
  | op h => exact (sees_transmit hmode fuel data length htimeout).sound t result h

/-- A packet of one byte. -/
def shortPacket : Buffer packetSize := Buffer.pad packetSize [65] (by decide)

/-- On a chip that finds the channel free and was receiving. -/
theorem transmit_restores_rxContinuous :
    ∃ (t : List (Sigma DriverOp.Resp)) (result : UInt8),
      Transmits Mode.rxContinuous 1000 result (t.flatMap txSight) := by
  have hz : (0 : UInt8) ∈ shortPacket.bytes := by decide
  obtain ⟨rest, -, hshows⟩ := loRaTransmit_shows ignores_txEvents hz (by decide) 2 1 txTimeOut
  have hquick := quick_loRaTransmit shortPacket 1 txTimeOut
  obtain ⟨t, result, ht⟩ := (hshows Mode.rxContinuous).returns hquick
  exact ⟨t, result, transmit_restores_mode 2 shortPacket 1 (by decide) (by decide) (.op ht)⟩

/-! ## §3. Readings on which it returns. -/

/-- A chip whose readings of `RegIrqFlags` are a given sequence, and whose other answers are
given as well: `s.1` counts these readings, `s.2` all operations. -/
def flagsChip (flags : Nat → UInt8) (others : Nat → (o : DriverOp) → o.Resp) (s : Nat × Nat) :
    (o : DriverOp) → o.Resp × (Nat × Nat)
  | .spiWriteThenRead address =>
      if address = Reg.irqFlags then (flags s.1, s.1 + 1, s.2 + 1)
      else (others s.2 (.spiWriteThenRead address), s.1, s.2 + 1)
  | o => (others s.2 o, s.1, s.2 + 1)

/-- From the `n`-th reading on, `CadDone` is clear in `w` of them and set in the next one. -/
structure DoneAfter (flags : Nat → UInt8) (n w : Nat) : Prop where
  clear : ∀ i < w, ¬ CadDone (flags (n + i))
  done : CadDone (flags (n + w))

/-- From the `n`-th reading on, there are scans that end, and one of them detects nothing. -/
inductive FindsFree (flags : Nat → UInt8) : Nat → Prop
  | free {n w : Nat} (hscan : DoneAfter flags n w) (hclear : ¬ CadDetected (flags (n + w + 1))) :
      FindsFree flags n
  | busy {n w : Nat} (hscan : DoneAfter flags n w) (hdetected : CadDetected (flags (n + w + 1)))
      (hrest : FindsFree flags (n + w + 2)) : FindsFree flags n

theorem DoneAfter.tail {flags : Nat → UInt8} {n w : Nat} (h : DoneAfter flags n (w + 1)) :
    DoneAfter flags (n + 1) w := by
  constructor
  · intro i hi
    rw [Nat.add_assoc, Nat.add_comm 1 i]
    exact h.clear (i + 1) (Nat.succ_lt_succ hi)
  · rw [Nat.add_assoc, Nat.add_comm 1 w]
    exact h.done

theorem DoneAfter.cons {flags : Nat → UInt8} {n w : Nat} (hclear : ¬ CadDone (flags n))
    (h : DoneAfter flags (n + 1) w) : DoneAfter flags n (w + 1) := by
  constructor
  · intro i hi
    cases i with
    | zero => exact hclear
    | succ i =>
        rw [← Nat.add_assoc, Nat.add_right_comm]
        exact h.clear i (Nat.lt_of_succ_lt_succ hi)
  · rw [← Nat.add_assoc, Nat.add_right_comm]
    exact h.done

/-! What follows the scans returns on every chip, if the packet fits. -/

theorem total_perform (o : DriverOp) : (perform o).Total := fun _ => trivial

theorem total_gotoMode (mode : UInt32) : (loRaGotoMode mode).Total := by
  unfold loRaGotoMode
  apply total_bind (total_perform _)
  intro read
  split
  · exact total_bind (total_perform _) (fun _ => total_perform _)
  · exact total_bind (total_perform _) (fun _ => total_perform _)

theorem total_txDoneLoop (mode : UInt32) (rounds : Nat) : (txDoneLoop mode rounds).Total := by
  have hdone : Program.Total (do
      loRaWrite Reg.irqFlags 0xFF
      loRaGotoMode mode
      pure (1 : UInt8) : Driver UInt8) :=
    total_bind (total_perform _) (fun _ => total_bind (total_gotoMode mode) (fun _ => trivial))
  induction rounds with
  | zero =>
      unfold txDoneLoop
      apply total_bind (total_perform _)
      intro read
      split
      · exact hdone
      · exact total_bind (total_gotoMode mode) (fun _ => trivial)
  | succ rounds ih =>
      unfold txDoneLoop
      apply total_bind (total_perform _)
      intro read
      split
      · exact hdone
      · exact ih

theorem total_sendData {data : Buffer packetSize} (h : FitsToSend data) (length : UInt8)
    (timeout : UInt16) (mode : UInt32) : (sendData data length timeout mode).Total := by
  unfold sendData
  rw [loRaBurstWrite_eq h.1 h.2]
  apply total_bind (total_gotoMode _)
  intro _
  apply total_bind (total_perform _)
  intro read
  apply total_bind (total_perform _)
  intro _
  apply total_bind (total_perform _)
  intro _
  apply total_bind (total_perform _)
  intro _
  apply total_bind (total_gotoMode _)
  intro _
  exact total_txDoneLoop mode _

section Readings

variable (flags : Nat → UInt8) (others : Nat → (o : DriverOp) → o.Resp)

theorem exec_flags (n k : Nat) :
    (loRaRead Reg.irqFlags).exec (flagsChip flags others) (n, k)
      = some (flags n, (n + 1, k + 1)) := rfl

/-- A part that returns and does not read the flags. -/
def Blind {α : Type} (p : Driver α) : Prop :=
  ∀ n k, ∃ a k', p.exec (flagsChip flags others) (n, k) = some (a, (n, k'))

variable {flags others} in
theorem blind_bind {α β : Type} {p : Driver α} {f : α → Driver β} (hp : Blind flags others p)
    (hf : ∀ a, Blind flags others (f a)) : Blind flags others (p >>= f) := by
  intro n k
  obtain ⟨a, k', ha⟩ := hp n k
  obtain ⟨b, k'', hb⟩ := hf a n k'
  exact ⟨b, k'', (Program.exec_bind ha).trans hb⟩

theorem blind_write (address value : UInt8) : Blind flags others (loRaWrite address value) :=
  fun _ k => ⟨_, k + 1, rfl⟩

theorem blind_read {address : UInt8} (h : address &&& 0x7F ≠ Reg.irqFlags) :
    Blind flags others (loRaRead address) := by
  intro n k
  refine ⟨others k (.spiWriteThenRead (address &&& 0x7F)), k + 1, ?_⟩
  have hanswer : flagsChip flags others (n, k) (.spiWriteThenRead (address &&& 0x7F))
      = (others k (.spiWriteThenRead (address &&& 0x7F)), n, k + 1) := if_neg h
  exact congrArg some hanswer

theorem blind_gotoMode (mode : UInt32) : Blind flags others (loRaGotoMode mode) := by
  unfold loRaGotoMode
  apply blind_bind (blind_read flags others (by decide))
  intro read
  split
  · exact blind_bind (fun n k => ⟨_, k + 1, rfl⟩) (fun _ => blind_write flags others _ _)
  · exact blind_bind (fun n k => ⟨_, k + 1, rfl⟩) (fun _ => blind_write flags others _ _)

variable {flags}

/-- The wait for `CadDone` ends when it is set, if the rounds suffice. -/
theorem exec_cadDoneLoop :
    ∀ {w fuel : Nat} (n k : Nat), DoneAfter flags n w → w < fuel →
      ∃ k', (cadDoneLoop fuel).exec (flagsChip flags others) (n, k)
        = some ((), (n + w + 1, k')) := by
  intro w
  induction w with
  | zero =>
      intro fuel n k h hfuel
      obtain ⟨fuel, rfl⟩ : ∃ f, fuel = f + 1 := ⟨fuel - 1, by omega⟩
      have hset : ¬ (flags n >>> 2) &&& 0x01 = 0 := h.done
      rw [cadDoneLoop, Program.exec_bind (exec_flags _ _ n k), if_neg hset]
      exact ⟨k + 1, rfl⟩
  | succ w ih =>
      intro fuel n k h hfuel
      obtain ⟨fuel, rfl⟩ : ∃ f, fuel = f + 1 := ⟨fuel - 1, by omega⟩
      have hclear : (flags n >>> 2) &&& 0x01 = 0 := not_not.mp (h.clear 0 (Nat.zero_lt_succ w))
      obtain ⟨k', hrest⟩ := ih (n + 1) (k + 1) h.tail (Nat.lt_of_succ_lt_succ hfuel)
      rw [cadDoneLoop, Program.exec_bind (exec_flags _ _ n k), if_pos hclear, hrest]
      exact ⟨k', by rw [Nat.add_right_comm n 1 w]; rfl⟩

variable {others}

/-- It does not end otherwise. -/
theorem doneAfter_of_cadDoneLoop :
    ∀ {fuel : Nat} {n k : Nat} {x : Unit × (Nat × Nat)},
      (cadDoneLoop fuel).exec (flagsChip flags others) (n, k) = some x →
        ∃ w, DoneAfter flags n w ∧ w < fuel := by
  intro fuel
  induction fuel with
  | zero =>
      intro n k x h
      exact nomatch h
  | succ fuel ih =>
      intro n k x h
      rw [cadDoneLoop, Program.exec_bind (exec_flags _ _ n k)] at h
      by_cases hdone : CadDone (flags n)
      · exact ⟨0, ⟨fun i hi => absurd hi (Nat.not_lt_zero i), hdone⟩, Nat.zero_lt_succ fuel⟩
      · rw [if_pos (not_not.mp hdone)] at h
        obtain ⟨w, hw, hlt⟩ := ih h
        exact ⟨w + 1, hw.cons hdone, Nat.succ_lt_succ hlt⟩

variable (others) in
/-- One scan. -/
theorem exec_cadLoop {w fuel : Nat} (n k : Nat) (h : DoneAfter flags n w) (hfuel : w < fuel) :
    ∃ k', (cadLoop (fuel + 1)).exec (flagsChip flags others) (n, k)
      = (if CadDetected (flags (n + w + 1)) then cadLoop fuel else pure ()).exec
          (flagsChip flags others) (n + w + 2, k') := by
  obtain ⟨_, k₁, hmode⟩ := blind_gotoMode flags others Mode.cad n k
  obtain ⟨k₂, hloop⟩ := exec_cadDoneLoop others n k₁ h hfuel
  obtain ⟨_, k₃, hwrite⟩ := blind_write flags others Reg.irqFlags 0xFF (n + w + 2) (k₂ + 1)
  rw [cadLoop, Program.exec_bind hmode, Program.exec_bind hloop,
    Program.exec_bind (exec_flags _ _ (n + w + 1) k₂), Program.exec_bind hwrite]
  exact ⟨k₃, rfl⟩

variable (others) in
/-- **The scans end** when one of them detects nothing. -/
theorem cadLoop_of_findsFree {n : Nat} (h : FindsFree flags n) :
    ∃ bound, ∀ fuel, bound ≤ fuel → ∀ k, ∃ s,
      (cadLoop fuel).exec (flagsChip flags others) (n, k) = some ((), s) := by
  induction h with
  | @free n w hscan hclear =>
      refine ⟨w + 2, fun fuel hfuel k => ?_⟩
      obtain ⟨fuel, rfl⟩ : ∃ f, fuel = f + 1 := ⟨fuel - 1, by omega⟩
      obtain ⟨k', hexec⟩ := exec_cadLoop others n k hscan (Nat.le_of_succ_le_succ hfuel)
      rw [hexec, if_neg hclear]
      exact ⟨_, rfl⟩
  | @busy n w hscan hdetected _ ih =>
      obtain ⟨bound, hbound⟩ := ih
      refine ⟨max (w + 2) (bound + 1), fun fuel hfuel k => ?_⟩
      have hw : w + 2 ≤ fuel := Nat.le_trans (Nat.le_max_left _ _) hfuel
      have hrest : bound + 1 ≤ fuel := Nat.le_trans (Nat.le_max_right _ _) hfuel
      obtain ⟨fuel, rfl⟩ : ∃ f, fuel = f + 1 := ⟨fuel - 1, by omega⟩
      obtain ⟨k', hexec⟩ := exec_cadLoop others n k hscan (Nat.le_of_succ_le_succ hw)
      rw [hexec, if_pos hdetected]
      exact hbound fuel (Nat.le_of_succ_le_succ hrest) k'

/-- **And not otherwise.** -/
theorem findsFree_of_cadLoop :
    ∀ {fuel n k : Nat} {x : Unit × (Nat × Nat)},
      (cadLoop fuel).exec (flagsChip flags others) (n, k) = some x → FindsFree flags n := by
  intro fuel
  induction fuel with
  | zero =>
      intro n k x h
      exact nomatch h
  | succ fuel ih =>
      intro n k x h
      -- the wait of the first scan has ended
      obtain ⟨w, hscan, hlt⟩ : ∃ w, DoneAfter flags n w ∧ w < fuel := by
        obtain ⟨_, k₁, hmode⟩ := blind_gotoMode flags others Mode.cad n k
        rw [cadLoop, Program.exec_bind hmode] at h
        obtain ⟨_, s, hloop, -⟩ := Program.exec_bind_some h
        exact doneAfter_of_cadDoneLoop hloop
      obtain ⟨k', hexec⟩ := exec_cadLoop others n k hscan hlt
      rw [hexec] at h
      by_cases hdetected : CadDetected (flags (n + w + 1))
      · rw [if_pos hdetected] at h
        exact .busy hscan hdetected (ih h)
      · exact .free hscan hdetected

/-- The three loops together. -/
theorem exec_loRaTransmit_iff (data : Buffer packetSize) (length : UInt8) (timeout : UInt16)
    (n k : Nat) :
    (∃ fuel x, (loRaTransmit fuel data length timeout).exec (flagsChip flags others) (n, k)
        = some x) ↔ FitsToSend data ∧ FindsFree flags n := by
  have hstart : Blind flags others (do
      let mode ← perform .getMode
      loRaGotoMode Mode.standby
      pure mode) :=
    blind_bind (fun n k => ⟨_, k + 1, rfl⟩)
      (fun mode => blind_bind (blind_gotoMode _ _ _) (fun _ n k => ⟨mode, k, rfl⟩))
  obtain ⟨mode, k', hmode⟩ := hstart n k
  -- the mode is read, and changed to STANDBY
  have hscans : ∀ fuel, (loRaTransmit fuel data length timeout).exec (flagsChip flags others) (n, k)
      = (cadLoop fuel >>= fun _ => sendData data length timeout mode).exec
          (flagsChip flags others) (n, k') := by
    intro fuel
    exact Program.exec_bind (f := fun mode =>
      cadLoop fuel >>= fun _ => sendData data length timeout mode) hmode
  constructor
  · intro hreturns
    obtain ⟨fuel, x, h⟩ := hreturns
    rw [hscans] at h
    obtain ⟨_, s, hscan, hsend⟩ := Program.exec_bind_some h
    refine ⟨?_, findsFree_of_cadLoop hscan⟩
    by_contra hfits
    rw [(sendData_undefined hfits length timeout mode).exec s] at hsend
    exact nomatch hsend
  · intro h
    obtain ⟨hfits, hfree⟩ := h
    obtain ⟨bound, hbound⟩ := cadLoop_of_findsFree others hfree
    obtain ⟨s, hscan⟩ := hbound bound (Nat.le_refl bound) k'
    obtain ⟨x, hx⟩ := (total_sendData hfits length timeout mode).exec s
    refine ⟨bound, x, ?_⟩
    rw [hscans, Program.exec_bind hscan, hx]

end Readings

/-- On that chip `p` returns, when its loops may take enough rounds. -/
def ReturnsOn {α : Type} (flags : Nat → UInt8) (others : Nat → (o : DriverOp) → o.Resp)
    (p : Nat → Driver α) : Prop :=
  ∃ fuel x, (p fuel).exec (flagsChip flags others) (0, 0) = some x

/-- A `write` of data that fit goes on to `LoRa_transmit`. -/
theorem exec_sx1278Write {flags : Nat → UInt8} {others : Nat → (o : DriverOp) → o.Resp}
    {data : List UInt8} (hsize : data.length ≤ packetSize)
    (hlen : (cstr data).length ≤ packetSize - 2) :
    ReturnsOn flags others (sx1278Write · data) ↔ FindsFree flags 0 := by
  have hz := zero_mem_of_short hsize hlen
  have hfits : FitsToSend (Buffer.pad packetSize data hsize) :=
    ⟨hz, by rw [show cstr (Buffer.pad packetSize data hsize).bytes = cstr data from cstr_pad hsize]
            exact hlen⟩
  have htransmit := @exec_loRaTransmit_iff flags others
    (Buffer.pad packetSize data hsize)
    (UInt8.ofNat (cstr (Buffer.pad packetSize data hsize).bytes).length) txTimeOut 0 1
  -- the store is one operation, and the number of bytes is returned at the end
  have hwrite : ∀ fuel, (sx1278Write fuel data).exec (flagsChip flags others) (0, 0)
      = (loRaTransmit fuel (Buffer.pad packetSize data hsize)
          (UInt8.ofNat (cstr (Buffer.pad packetSize data hsize).bytes).length) txTimeOut
            >>= fun _ => Program.ret data.length).exec (flagsChip flags others) (0, 1) := by
    intro fuel
    unfold sx1278Write
    rw [store_eq_pad hsize]
    show ((defined (strlen (Buffer.pad packetSize data hsize).bytes) >>= fun length =>
      loRaTransmit fuel (Buffer.pad packetSize data hsize) (UInt8.ofNat length) txTimeOut
        >>= fun _ => Program.ret data.length).exec (flagsChip flags others) (0, 1)) = _
    rw [strlen_of_mem hz]
    rfl
  constructor
  · intro hreturns
    obtain ⟨fuel, x, h⟩ := hreturns
    rw [hwrite] at h
    obtain ⟨r, s, hr, -⟩ := Program.exec_bind_some h
    exact (htransmit.mp ⟨fuel, _, hr⟩).2
  · intro hfree
    obtain ⟨fuel, ⟨r, s⟩, hr⟩ := htransmit.mpr ⟨hfits, hfree⟩
    exact ⟨fuel, (data.length, s), by rw [hwrite, Program.exec_bind hr]; rfl⟩

/-- **WHEN A TRANSMISSION RETURNS**: exactly when the packet fits and, among the readings of
the flags, a scan ends that detects nothing.  A `write` waits for the same. -/
theorem transmit_returns_iff (flags : Nat → UInt8) (others : Nat → (o : DriverOp) → o.Resp) :
    (∀ (data : Buffer packetSize) (length : UInt8) (timeout : UInt16),
        ReturnsOn flags others (loRaTransmit · data length timeout)
          ↔ FitsToSend data ∧ FindsFree flags 0)
      ∧ ∀ data : List UInt8, ReturnsOn flags others (sx1278Write · data)
          ↔ (data.length ≤ packetSize ∧ (cstr data).length ≤ packetSize - 2)
            ∧ FindsFree flags 0 := by
  refine ⟨fun data length timeout => exec_loRaTransmit_iff data length timeout 0 0, fun data => ?_⟩
  by_cases hsize : data.length ≤ packetSize
  · by_cases hlen : (cstr data).length ≤ packetSize - 2
    · rw [exec_sx1278Write hsize hlen]
      exact (and_iff_right ⟨hsize, hlen⟩).symm
    · refine iff_of_false ?_ (fun h => hlen h.1.2)
      intro hreturns
      obtain ⟨fuel, x, h⟩ := hreturns
      rw [(sx1278Write_full hsize hlen fuel).exec] at h
      exact nomatch h
  · refine iff_of_false ?_ (fun h => hsize h.1.1)
    intro hreturns
    obtain ⟨fuel, x, h⟩ := hreturns
    rw [(sx1278Write_long (Nat.lt_of_not_le hsize) fuel).exec] at h
    exact nomatch h

/-- Readings without `CadDone` hold the first scan for ever, readings with both flags the
scans; so neither a transmission nor a `write` returns. -/
theorem transmit_waits_forever :
    (¬ ReturnsOn (fun _ => 0x00) (fun _ => quietChip) (loRaTransmit · shortPacket 1 txTimeOut)
      ∧ ¬ ReturnsOn (fun _ => 0x00) (fun _ => quietChip) (sx1278Write · [65]))
    ∧ ¬ ReturnsOn (fun _ => 0x05) (fun _ => quietChip) (loRaTransmit · shortPacket 1 txTimeOut)
      ∧ ¬ ReturnsOn (fun _ => 0x05) (fun _ => quietChip) (sx1278Write · [65]) := by
  have hnever : ∀ n, ¬ FindsFree (fun _ => 0x00) n := by
    intro n h
    cases h with
    | free hscan _ => exact hscan.done (by decide)
    | busy hscan _ _ => exact hscan.done (by decide)
  have hbusy : ∀ n, ¬ FindsFree (fun _ => 0x05) n := by
    intro n h
    induction h with
    | free _ hclear => exact hclear (by decide)
    | busy _ _ _ ih => exact ih
  refine ⟨⟨?_, ?_⟩, ?_, ?_⟩
  · exact fun h => hnever 0 ((exec_loRaTransmit_iff _ _ _ 0 0).mp h).2
  · exact fun h => hnever 0 ((exec_sx1278Write (by decide) (by decide)).mp h)
  · exact fun h => hbusy 0 ((exec_loRaTransmit_iff _ _ _ 0 0).mp h).2
  · exact fun h => hbusy 0 ((exec_sx1278Write (by decide) (by decide)).mp h)

end LoRaGateway
