/-
  LoRaGateway.Driver.Delivery
  ───────────────────────────
  **WHICH PACKETS REACH THE REGISTERED PROCESS.**

  The interrupt stores a packet in the one `cache_buffer` and queues the one work
  item; the work hands over what it finds there when it runs.  An observer keeps
  the packets that are owed to the process: those that differ, when they are
  stored, from the packet transmitted last and from the one put last in
  `receive_buffer`.

    • `Mailbag.NoneLost` — each of them was delivered, but for the one that is waiting,
    • `Timely` — no packet arrives while one is waiting, and the work that finds one
      waiting can deliver it,
    • `delivery_iff` — the first holds along a schedule exactly when the second does.
-/
import LoRaGateway.Driver.Device
import LoRaGateway.Lib.Run

namespace LoRaGateway

open LoRaGateway.Lib

/-! ## §1. The observer. -/

/-- The device, with the packet transmitted last and the one put last in
`receive_buffer`; the packets that were owed, those of them that were delivered,
and the one that is still owed. -/
structure Mailbag where
  device : Device
  sent : Option (Buffer packetSize)
  put : Option (Buffer packetSize)
  stored : List (Buffer packetSize)
  delivered : List (Buffer packetSize)
  owed : Option (Buffer packetSize)

/-- Nothing has arrived yet. -/
def Mailbag.start : Mailbag := ⟨Device.probed, none, none, [], [], none⟩

/-- The packet, if it is stored as one that is owed. -/
def Mailbag.fresh (w : Mailbag) (p : List UInt8) : Option (Buffer packetSize) :=
  if p ≠ [] ∧ w.sent ≠ some (cached p) ∧ w.put ≠ some (cached p) then some (cached p) else none

/-- The packet, if a process is signalled for it and finds it, whole, in
`receive_buffer`; `d` is the device after the work. -/
def Mailbag.handedOver (w : Mailbag) (d : Device) : Option (Buffer packetSize) :=
  if w.owed = some w.device.dev.cacheBuffer ∧ w.device.signals.isSome
      ∧ d.dev.receiveBuffer = w.device.dev.cacheBuffer then w.owed
  else none

/-- What the observer notes of an event that leads to the device `d`. -/
def Mailbag.after (w : Mailbag) (d : Device) : DeviceEvent → Mailbag
  | .interrupt p =>
      -- whatever was waiting is overwritten
      { w with device := d, stored := w.stored ++ (w.fresh p).toList, owed := w.fresh p }
  | .work =>
      { w with
        device := d
        put := if d.dev.receiveBuffer = w.device.dev.receiveBuffer then w.put
          else some w.device.dev.cacheBuffer
        delivered := w.delivered ++ (w.handedOver d).toList
        owed := if (w.handedOver d).isSome then none else w.owed }
  | .write _ _ => { w with device := d, sent := some d.dev.transmitBuffer }
  | _ => { w with device := d }

/-- An event, with what is known of the packets. -/
def Mailbag.step (w : Mailbag) (a : DeviceEvent) : Option Mailbag :=
  (w.device.step a).map (fun d => w.after d a)

/-! ## §2. The two conditions. -/

/-- Every packet that was owed has been delivered, but for one that waits in
`cache_buffer` with the work queued. -/
def Mailbag.NoneLost (w : Mailbag) : Prop :=
  w.stored = w.delivered ++ w.owed.toList
    ∧ ∀ o, w.owed = some o → w.device.pending = true ∧ w.device.dev.cacheBuffer = o

/-- The event happens, where the driver can be made to do it, and loses nothing. -/
def LosesNone (w : Mailbag) (a : DeviceEvent) : Prop :=
  (a = .work → w.device.pending = true → (w.step a).isSome = true)
    ∧ ∀ w', w.step a = some w' → w'.NoneLost

/-- The work on the packet `o` hands it over: its text ends, neither of the other
buffers begins with this text, nothing but zeros follows it, and a process is
registered. -/
def Deliverable (d : LoRaDev) (o : Buffer packetSize) : Prop :=
  (0 : UInt8) ∈ o.bytes ∧ ¬ cstr o.bytes <+: d.transmitBuffer.bytes
    ∧ ¬ cstr o.bytes <+: d.receiveBuffer.bytes
    ∧ (∀ b ∈ o.bytes.drop (cstr o.bytes).length, b = 0) ∧ d.task.isSome = true

/-- No packet arrives while one is waiting, and the work can deliver what waits. -/
def Timely (w : Mailbag) : DeviceEvent → Prop
  | .interrupt _ => w.owed = none
  | .work => ∀ o, w.owed = some o → Deliverable w.device.dev o
  | _ => True

/-! ## §3. The invariant. -/

/-- Nothing is lost yet, and every text that is not owed ends inside its buffer. -/
structure MailbagInv (w : Mailbag) : Prop where
  noneLost : w.NoneLost
  cacheEnds : w.owed = none → (0 : UInt8) ∈ w.device.dev.cacheBuffer.bytes
  sentEnds : ∀ b, w.sent = some b → (0 : UInt8) ∈ b.bytes
  putEnds : ∀ b, w.put = some b → (0 : UInt8) ∈ b.bytes

theorem mailbagInv_start : MailbagInv Mailbag.start :=
  ⟨⟨rfl, fun _ h => (by cases h)⟩, fun _ => by decide, fun _ h => (by cases h),
    fun _ h => (by cases h)⟩

variable {w w' : Mailbag} {d : Device}

theorem Mailbag.step_spec {a : DeviceEvent} (h : w.step a = some w') :
    ∃ d, w.device.step a = some d ∧ w' = w.after d a := by
  obtain ⟨d, hd, h⟩ := Option.map_eq_some_iff.mp h
  exact ⟨d, hd, h.symm⟩

/-- An event that leaves the buffers and the work item alone leaves the account alone. -/
theorem MailbagInv.of_device (hinv : MailbagInv w)
    (hcache : d.dev.cacheBuffer = w.device.dev.cacheBuffer)
    (hpending : d.pending = w.device.pending) : MailbagInv { w with device := d } := by
  obtain ⟨⟨hbook, hwait⟩, hends, hsent, hput⟩ := hinv
  refine ⟨⟨hbook, fun o ho => ?_⟩, fun ho => ?_, hsent, hput⟩
  · obtain ⟨hp, hc⟩ := hwait o ho
    exact ⟨hpending.trans hp, hcache.trans hc⟩
  · show (0 : UInt8) ∈ d.dev.cacheBuffer.bytes
    rw [hcache]
    exact hends ho

/-- A packet that is not owed ends inside its buffer. -/
theorem MailbagInv.zero_mem_of_not_fresh (hinv : MailbagInv w) {p : List UInt8}
    (h : w.fresh p = none) : (0 : UInt8) ∈ (cached p).bytes := by
  unfold Mailbag.fresh at h
  split at h
  next => cases h
  next hn =>
    by_cases hp : p = []
    · rw [hp]
      decide
    · by_cases hsent : w.sent = some (cached p)
      · exact hinv.sentEnds _ hsent
      · by_cases hput : w.put = some (cached p)
        · exact hinv.putEnds _ hput
        · exact absurd ⟨hp, hsent, hput⟩ hn

/-- A packet that is owed makes `get_message` queue the work. -/
theorem Mailbag.fresh_spec {p : List UInt8} {o : Buffer packetSize} (h : w.fresh p = some o) :
    p ≠ [] ∧ o = cached p := by
  unfold Mailbag.fresh at h
  split at h
  next hp => exact ⟨hp.1, (Option.some.inj h).symm⟩
  next => cases h

/-! ## §4. The interrupt. -/

theorem noneLost_interrupt_iff (hinv : MailbagInv w) (p : List UInt8) :
    (w.after (w.device.getMessage p) (.interrupt p)).NoneLost ↔ w.owed = none := by
  have hwait : ∀ o, w.fresh p = some o →
      (w.device.getMessage p).pending = true ∧ (w.device.getMessage p).dev.cacheBuffer = o := by
    intro o ho
    obtain ⟨hp, rfl⟩ := Mailbag.fresh_spec ho
    exact ⟨by simp [Device.getMessage, hp], rfl⟩
  have hbook : w.stored ++ (w.fresh p).toList = w.delivered ++ (w.fresh p).toList
      ↔ w.owed = none := by
    rw [hinv.noneLost.1, List.append_cancel_right_eq, List.append_right_eq_self]
    exact Option.toList_eq_nil_iff
  exact ⟨fun h => hbook.mp h.1, fun h => ⟨hbook.mpr h, hwait⟩⟩

theorem losesNone_interrupt_iff (hinv : MailbagInv w) (p : List UInt8) :
    LosesNone w (.interrupt p) ↔ Timely w (.interrupt p) := by
  rw [Timely, ← noneLost_interrupt_iff hinv p]
  constructor
  · intro h
    exact h.2 _ rfl
  · intro h
    refine ⟨fun ha => (by cases ha), fun w' hw' => ?_⟩
    rw [← Option.some.inj hw']
    exact h

theorem MailbagInv.interrupt (hinv : MailbagInv w) (p : List UInt8) (h : w.owed = none) :
    MailbagInv (w.after (w.device.getMessage p) (.interrupt p)) :=
  ⟨(noneLost_interrupt_iff hinv p).mpr h, hinv.zero_mem_of_not_fresh, hinv.sentEnds, hinv.putEnds⟩

/-! ## §5. The work. -/

/-- Before a work that is timely, the text in `cache_buffer` ends. -/
theorem MailbagInv.cache_ends (hinv : MailbagInv w) (h : Timely w .work) :
    (0 : UInt8) ∈ w.device.dev.cacheBuffer.bytes := by
  cases ho : w.owed with
  | none => exact hinv.cacheEnds ho
  | some o =>
      rw [(hinv.noneLost.2 o ho).2]
      exact (h o ho).1

/-- What the work leaves behind, where it is defined. -/
def Mailbag.worked (w : Mailbag) (dev : LoRaDev) : Mailbag :=
  w.after { w.device with dev := dev, pending := false } .work

theorem Mailbag.step_work (w : Mailbag) (hp : w.device.pending = true) :
    w.step .work = (workqueueFn w.device.dev).map (fun out => w.worked out.1) := by
  unfold Mailbag.step Device.step
  rw [if_pos hp, Option.map_map]
  rfl

/-- What the observer has after the work: the packet that was owed is delivered when
it was handed over, and is still owed when it was not. -/
theorem Mailbag.worked_account (w : Mailbag) (dev : LoRaDev) :
    ((w.worked dev).owed = none ∧ (w.worked dev).delivered = w.delivered ++ w.owed.toList
        ∧ w.owed = some w.device.dev.cacheBuffer ∧ w.device.signals.isSome = true
        ∧ dev.receiveBuffer = w.device.dev.cacheBuffer)
      ∨ ((w.worked dev).owed = w.owed ∧ (w.worked dev).delivered = w.delivered
        ∧ ¬ (w.owed = some w.device.dev.cacheBuffer ∧ w.device.signals.isSome = true
          ∧ dev.receiveBuffer = w.device.dev.cacheBuffer)) := by
  by_cases h : w.owed = some w.device.dev.cacheBuffer ∧ w.device.signals.isSome = true
      ∧ dev.receiveBuffer = w.device.dev.cacheBuffer
  · have hover : w.handedOver { w.device with dev := dev, pending := false } = w.owed := if_pos h
    refine Or.inl ⟨?_, ?_, h⟩
    · show (if (w.handedOver _).isSome then none else w.owed) = none
      rw [hover, h.1]
      rfl
    · show w.delivered ++ (w.handedOver _).toList = _
      rw [hover]
  · have hover : w.handedOver { w.device with dev := dev, pending := false } = none := if_neg h
    refine Or.inr ⟨?_, ?_, h⟩
    · show (if (w.handedOver _).isSome then none else w.owed) = w.owed
      rw [hover]
      rfl
    · show w.delivered ++ (w.handedOver _).toList = _
      rw [hover]
      exact List.append_nil _

/-- When nothing is owed, the work loses nothing. -/
theorem noneLost_worked_of_none (hinv : MailbagInv w) (ho : w.owed = none) (dev : LoRaDev) :
    (w.worked dev).NoneLost := by
  have hbook := hinv.noneLost.1
  rcases w.worked_account dev with ⟨-, -, howed, -⟩ | ⟨howed, hdelivered, -⟩
  · rw [ho] at howed
    cases howed
  · refine ⟨?_, fun o h => ?_⟩
    · rw [howed, hdelivered]
      exact hbook
    · rw [howed, ho] at h
      cases h

/-- What is owed must be handed over: the work item is not queued any more. -/
theorem noneLost_worked_of_some (hinv : MailbagInv w) {o : Buffer packetSize} (ho : w.owed = some o)
    (dev : LoRaDev) :
    (w.worked dev).NoneLost
      ↔ w.device.signals.isSome = true ∧ dev.receiveBuffer = w.device.dev.cacheBuffer := by
  have hcache := (hinv.noneLost.2 o ho).2
  have hbook := hinv.noneLost.1
  rcases w.worked_account dev with ⟨howed, hdelivered, -, hover⟩ | ⟨howed, -, hnot⟩
  · refine ⟨fun _ => hover, fun _ => ⟨?_, fun o h => ?_⟩⟩
    · rw [howed, hdelivered, Option.toList_none, List.append_nil]
      exact hbook
    · rw [howed] at h
      cases h
  · constructor
    · intro h
      exact absurd (h.2 o (howed.trans ho)).1 Bool.false_ne_true
    · intro h
      exact absurd ⟨by rw [ho, hcache], h⟩ hnot

/-- The work hands over a packet that is deliverable, and no other. -/
theorem handsOver_iff {s : Device} (hz : (0 : UInt8) ∈ s.dev.cacheBuffer.bytes) :
    (∃ out, workqueueFn s.dev = some out ∧ s.signals.isSome = true
        ∧ out.1.receiveBuffer = s.dev.cacheBuffer)
      ↔ Deliverable s.dev s.dev.cacheBuffer := by
  by_cases hdup : cstr s.dev.cacheBuffer.bytes <+: s.dev.transmitBuffer.bytes
      ∨ cstr s.dev.cacheBuffer.bytes <+: s.dev.receiveBuffer.bytes
  · -- dropped as known: nobody is signalled
    rw [Device.signals_of_drops hz hdup]
    constructor
    · rintro ⟨out, -, hsig, -⟩
      cases hsig
    · rintro ⟨-, hsent, hknown, -⟩
      exact absurd hdup (not_or.mpr ⟨hsent, hknown⟩)
  · obtain ⟨hsent, hknown⟩ := not_or.mp hdup
    have hwhole := pad_cstr_eq (p := s.dev.cacheBuffer.bytes) (Nat.le_of_eq s.dev.cacheBuffer.size)
      (Nat.le_of_lt (length_cstr_lt hz))
    have hself : Buffer.pad packetSize s.dev.cacheBuffer.bytes
        (Nat.le_of_eq s.dev.cacheBuffer.size) = s.dev.cacheBuffer := by
      apply Buffer.ext
      show _ ++ List.replicate (packetSize - _) 0 = _
      rw [s.dev.cacheBuffer.size, Nat.sub_self, List.replicate_zero, List.append_nil]
    rw [hself] at hwhole
    rw [Device.signals_of_delivers hz hsent hknown, workqueueFn_delivers hz hsent hknown]
    constructor
    · rintro ⟨out, hout, hsig, hcopy⟩
      rw [← Option.some.inj hout] at hcopy
      exact ⟨hz, hsent, hknown, hwhole.mp hcopy, hsig⟩
    · rintro ⟨-, -, -, hzeros, hsig⟩
      exact ⟨_, rfl, hsig, hwhole.mpr hzeros⟩

theorem losesNone_work_iff (hinv : MailbagInv w) :
    LosesNone w .work ↔ Timely w .work := by
  by_cases hp : w.device.pending = true
  · have hstep := Mailbag.step_work w hp
    cases ho : w.owed with
    | none =>
        -- the text ends, so the work is defined
        have hz := hinv.cacheEnds ho
        refine ⟨fun _ o h => (by rw [ho] at h; cases h), fun _ => ⟨fun _ _ => ?_, fun w' hw' => ?_⟩⟩
        · rw [hstep, Option.isSome_map]
          by_cases hdup : cstr w.device.dev.cacheBuffer.bytes <+: w.device.dev.transmitBuffer.bytes
              ∨ cstr w.device.dev.cacheBuffer.bytes <+: w.device.dev.receiveBuffer.bytes
          · rw [workqueueFn_drops hz hdup]
            rfl
          · rw [workqueueFn_delivers hz (not_or.mp hdup).1 (not_or.mp hdup).2]
            rfl
        · rw [hstep] at hw'
          obtain ⟨out, -, rfl⟩ := Option.map_eq_some_iff.mp hw'
          exact noneLost_worked_of_none hinv ho out.1
    | some o =>
        have hcache := (hinv.noneLost.2 o ho).2
        have htimely : Timely w .work ↔ Deliverable w.device.dev w.device.dev.cacheBuffer := by
          rw [hcache]
          exact ⟨fun h => h o ho, fun h o' ho' => by
            obtain rfl : o = o' := Option.some.inj (ho.symm.trans ho')
            exact h⟩
        rw [htimely]
        constructor
        · rintro ⟨hdef, hkept⟩
          have hsome := hdef rfl hp
          rw [hstep, Option.isSome_map] at hsome
          obtain ⟨out, hout⟩ := Option.isSome_iff_exists.mp hsome
          have hz : (0 : UInt8) ∈ w.device.dev.cacheBuffer.bytes := by
            by_contra hz
            rw [workqueueFn_undefined hz] at hout
            cases hout
          have hover := (noneLost_worked_of_some hinv ho out.1).mp
            (hkept _ (by rw [hstep, hout]; rfl))
          exact (handsOver_iff hz).mp ⟨out, hout, hover⟩
        · intro h
          obtain ⟨out, hout, hover⟩ := (handsOver_iff h.1).mpr h
          refine ⟨fun _ _ => by rw [hstep, hout]; rfl, fun w' hw' => ?_⟩
          rw [hstep, hout] at hw'
          rw [← Option.some.inj hw']
          exact (noneLost_worked_of_some hinv ho out.1).mpr hover
  · -- the work is not queued, so nothing waits
    have hnone : ∀ o, w.owed ≠ some o := fun o ho => hp (hinv.noneLost.2 o ho).1
    refine ⟨fun _ o ho => absurd ho (hnone o), fun _ => ⟨fun _ h => absurd h hp, fun w' hw' => ?_⟩⟩
    obtain ⟨d, hd, -⟩ := Mailbag.step_spec hw'
    exact absurd (Device.step_spec hd).1 hp

theorem MailbagInv.worked (hinv : MailbagInv w) (h : Timely w .work)
    (hkept : ∀ w', w.step .work = some w' → w'.NoneLost) (hw' : w.step .work = some w') :
    MailbagInv w' := by
  have hz := hinv.cache_ends h
  obtain ⟨d, hd, rfl⟩ := Mailbag.step_spec hw'
  obtain ⟨-, out, hout, rfl⟩ := Device.step_spec hd
  by_cases hdup : cstr w.device.dev.cacheBuffer.bytes <+: w.device.dev.transmitBuffer.bytes
      ∨ cstr w.device.dev.cacheBuffer.bytes <+: w.device.dev.receiveBuffer.bytes
  · rw [workqueueFn_drops hz hdup] at hout
    refine ⟨hkept _ hw', fun _ => ?_, hinv.sentEnds, fun b hb => ?_⟩
    · rw [← Option.some.inj hout]
      exact (by decide : (0 : UInt8) ∈ (Buffer.zero packetSize).bytes)
    · rw [← Option.some.inj hout] at hb
      exact hinv.putEnds b (by simpa [Mailbag.after] using hb)
  · rw [workqueueFn_delivers hz (not_or.mp hdup).1 (not_or.mp hdup).2] at hout
    refine ⟨hkept _ hw', fun _ => ?_, hinv.sentEnds, fun b hb => ?_⟩
    · rw [← Option.some.inj hout]
      exact hz
    · simp only [Mailbag.after] at hb
      split at hb
      · exact hinv.putEnds b hb
      · rw [← Option.some.inj hb]
        exact hz

/-! ## §6. Every schedule. -/

/-- The files, the registration and the end of a process leave the packets alone. -/
theorem MailbagInv.file (hinv : MailbagInv w) {a : DeviceEvent} (hd : w.device.step a = some d)
    (ha : ∀ p, a ≠ .interrupt p) (hwork : a ≠ .work) (hwrite : ∀ pid data, a ≠ .write pid data) :
    MailbagInv (w.after d a) := by
  have hspec := Device.step_spec hd
  cases a with
  | interrupt p => exact absurd rfl (ha p)
  | work => exact absurd rfl hwork
  | write pid data => exact absurd rfl (hwrite pid data)
  | openFile pid => exact hinv.of_device (by rw [hspec.2]) (by rw [hspec.2])
  | closeFile pid => exact hinv.of_device (by rw [hspec.2]) (by rw [hspec.2])
  | rgSignal pid => exact hinv.of_device (by rw [hspec.2]) (by rw [hspec.2])
  | ctlSignal pid => exact hinv.of_device (by rw [hspec.2.2]) (by rw [hspec.2.2])
  | exit pid => exact hinv.of_device (by rw [hspec.2]) (by rw [hspec.2])

/-- A write notes the packet that is transmitted; its text ends inside the buffer. -/
theorem MailbagInv.write (hinv : MailbagInv w) {pid : Nat} {data : List UInt8}
    (hd : w.device.step (.write pid data) = some d) : MailbagInv (w.after d (.write pid data)) := by
  obtain ⟨-, dev, hdev, rfl⟩ := Device.step_spec hd
  obtain ⟨b, -, hz, -, rfl⟩ := LoRaDev.take_spec hdev
  have hdevice := hinv.of_device
    (d := { w.device with dev := { w.device.dev with transmitBuffer := b } }) rfl rfl
  refine ⟨hdevice.noneLost, hdevice.cacheEnds, fun b' hb' => ?_, hdevice.putEnds⟩
  rw [← Option.some.inj hb']
  exact hz

/-- **One timely step keeps the account.** -/
theorem MailbagInv.step (hinv : MailbagInv w) {a : DeviceEvent} (h : Timely w a)
    (hw' : w.step a = some w') : MailbagInv w' := by
  obtain ⟨d, hd, rfl⟩ := Mailbag.step_spec hw'
  cases a with
  | interrupt p =>
      rw [← Option.some.inj hd]
      exact hinv.interrupt p h
  | work => exact hinv.worked h ((losesNone_work_iff hinv).mpr h).2 hw'
  | write pid data => exact hinv.write hd
  | _ => exact hinv.file hd (by simp) (by simp) (by simp)

/-- One step loses nothing exactly when it is timely. -/
theorem losesNone_iff (hinv : MailbagInv w) (a : DeviceEvent) : LosesNone w a ↔ Timely w a := by
  cases a with
  | interrupt p => exact losesNone_interrupt_iff hinv p
  | work => exact losesNone_work_iff hinv
  | _ =>
      exact ⟨fun _ => trivial, fun h => ⟨fun ha => (by cases ha),
        fun w' hw' => (hinv.step h hw').noneLost⟩⟩

/-- **ALONG A SCHEDULE NO PACKET IS LOST EXACTLY WHEN EVERY STEP IS TIMELY.** -/
theorem delivery_iff (as : List DeviceEvent) :
    Along Mailbag.step LosesNone Mailbag.start as ↔ Along Mailbag.step Timely Mailbag.start as :=
  along_iff (I := MailbagInv) (fun _ a hinv => losesNone_iff hinv a)
    (fun _ _ _ hinv h hs => hinv.step h hs) as mailbagInv_start

/-- Two packets before the work runs: the first is overwritten. -/
theorem delivery_overwrites :
    ¬ ∀ as : List DeviceEvent, Along Mailbag.step LosesNone Mailbag.start as := by
  intro h
  have hfirst := h [.openFile 1, .rgSignal 1, .interrupt [1], .interrupt [2]]
  have hlost := ((((hfirst.2 _ rfl).2 _ rfl).2 _ rfl).1).2 _ rfl
  exact absurd hlost.1 (by decide)

end LoRaGateway
