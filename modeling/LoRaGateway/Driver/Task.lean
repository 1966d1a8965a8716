/-
  LoRaGateway.Driver.Task
  ───────────────────────
  **THE PROCESS THAT IS SIGNALLED FOR A PACKET.**

  `RG_SIGNAL` keeps the pointer of the calling process and `CTL_SIGNAL` clears it;
  neither the close of the file nor the end of the process does.  `CTL_SIGNAL`
  prints the pid of the registered process, so it needs one.

    • `SignalsLive` — a signal goes to a running process, the last that registered,
      and `CTL_SIGNAL` finds a process,
    • `Unregisters` — no process ends while it is registered, and none unregisters
      when none is registered,
    • `registered_iff` — the first holds at every point of a schedule, whatever
      packet arrives there, exactly when the second holds along it.
-/
import LoRaGateway.Driver.Device
import LoRaGateway.Lib.Run

namespace LoRaGateway

open LoRaGateway.Lib

/-! ## §1. The device and the last registration. -/

/-- The driver, and who has asked for the signal. -/
structure Enrolment where
  device : Device
  /-- the process that called `RG_SIGNAL` last -/
  last : Option Nat

/-- Nobody has. -/
def Enrolment.start : Enrolment := ⟨Device.probed, none⟩

/-- Who has asked for it last. -/
def Enrolment.nextLast (e : Enrolment) : DeviceEvent → Option Nat
  | .rgSignal pid => some pid
  | _ => e.last

/-- An event, with who has asked last. -/
def Enrolment.step (e : Enrolment) (a : DeviceEvent) : Option Enrolment :=
  (e.device.step a).map (fun d => ⟨d, e.nextLast a⟩)

/-- A process that is signalled runs and was the last to register; `CTL_SIGNAL` does
not read through a NULL `task`. -/
def SignalsLive (e : Enrolment) : DeviceEvent → Prop
  | .work => e.device.pending = true → ∀ pid, e.device.signals = some pid →
      pid ∉ e.device.exited ∧ e.last = some pid
  | .ctlSignal pid => pid ∈ e.device.files → e.device.dev.task.isSome = true
  | _ => True

/-- A process unregisters before it ends, and only while one is registered. -/
def Unregisters (e : Enrolment) : DeviceEvent → Prop
  | .exit pid => e.device.dev.task ≠ some pid
  | .ctlSignal pid => pid ∈ e.device.files → e.device.dev.task.isSome = true
  | _ => True

/-! ## §2. The invariant. -/

/-- Files belong to running processes, and so does the registration. -/
structure TaskInv (e : Enrolment) : Prop where
  files : ∀ pid ∈ e.device.files, pid ∉ e.device.exited
  task : ∀ pid, e.device.dev.task = some pid → pid ∉ e.device.exited ∧ e.last = some pid

theorem taskInv_start : TaskInv Enrolment.start :=
  ⟨fun _ h => absurd h List.not_mem_nil, fun _ h => (by cases h)⟩

variable {e e' : Enrolment}

theorem Enrolment.step_spec {a : DeviceEvent} (h : e.step a = some e') :
    ∃ d, e.device.step a = some d ∧ e' = ⟨d, e.nextLast a⟩ := by
  obtain ⟨d, hd, h⟩ := Option.map_eq_some_iff.mp h
  exact ⟨d, hd, h.symm⟩

/-- The work keeps the registration. -/
theorem workqueueFn_task {d : LoRaDev} {out : LoRaDev × Bool} (h : workqueueFn d = some out) :
    out.1.task = d.task := by
  by_cases hz : (0 : UInt8) ∈ d.cacheBuffer.bytes
  · by_cases hdup : cstr d.cacheBuffer.bytes <+: d.transmitBuffer.bytes
        ∨ cstr d.cacheBuffer.bytes <+: d.receiveBuffer.bytes
    · rw [workqueueFn_drops hz hdup] at h
      rw [← Option.some.inj h]
    · obtain ⟨hsent, hknown⟩ := not_or.mp hdup
      rw [workqueueFn_delivers hz hsent hknown] at h
      rw [← Option.some.inj h]
  · rw [workqueueFn_undefined hz] at h
    cases h

theorem TaskInv.step (hinv : TaskInv e) {a : DeviceEvent} (h : Unregisters e a)
    (hs : e.step a = some e') : TaskInv e' := by
  obtain ⟨d, hd, rfl⟩ := Enrolment.step_spec hs
  have hspec := Device.step_spec hd
  cases a with
  | interrupt p =>
      rw [hspec]
      exact ⟨hinv.files, hinv.task⟩
  | work =>
      obtain ⟨-, out, hout, rfl⟩ := hspec
      refine ⟨hinv.files, fun pid htask => hinv.task pid ?_⟩
      rw [← workqueueFn_task hout]
      exact htask
  | openFile pid =>
      obtain ⟨hpid, rfl⟩ := hspec
      refine ⟨fun q hq => ?_, hinv.task⟩
      rcases List.mem_cons.mp hq with rfl | hq
      · exact hpid
      · exact hinv.files q hq
  | closeFile pid =>
      obtain ⟨-, rfl⟩ := hspec
      exact ⟨fun q hq => hinv.files q (List.mem_of_mem_erase hq), hinv.task⟩
  | write pid data =>
      obtain ⟨-, dev, hdev, rfl⟩ := hspec
      obtain ⟨b, -, -, -, rfl⟩ := LoRaDev.take_spec hdev
      exact ⟨hinv.files, hinv.task⟩
  | rgSignal pid =>
      -- the new process has a file open, so it runs
      obtain ⟨hpid, rfl⟩ := hspec
      refine ⟨hinv.files, fun q hq => ?_⟩
      obtain rfl : pid = q := Option.some.inj hq
      exact ⟨hinv.files pid hpid, rfl⟩
  | ctlSignal pid =>
      obtain ⟨-, -, rfl⟩ := hspec
      exact ⟨hinv.files, fun q hq => (by cases hq)⟩
  | exit pid =>
      obtain ⟨-, rfl⟩ := hspec
      refine ⟨fun q hq => ?_, fun q hq => ?_⟩
      · obtain ⟨hq, hne⟩ := List.mem_filter.mp hq
        rw [List.mem_cons, not_or]
        exact ⟨by simpa using hne, hinv.files q hq⟩
      · obtain ⟨hlive, hlast⟩ := hinv.task q hq
        refine ⟨?_, hlast⟩
        -- the process that ends is not the registered one
        rw [List.mem_cons, not_or]
        exact ⟨fun hqp => h (hqp ▸ hq), hlive⟩

/-- While the registered process runs, it is the one that is signalled. -/
theorem TaskInv.signals (hinv : TaskInv e) {pid : Nat} (h : e.device.signals = some pid) :
    pid ∉ e.device.exited ∧ e.last = some pid := by
  apply hinv.task
  unfold Device.signals at h
  split at h
  · exact h
  · cases h

theorem TaskInv.signalsLive (hinv : TaskInv e) {a : DeviceEvent} (h : Unregisters e a) :
    SignalsLive e a := by
  cases a with
  | work => exact fun _ pid hpid => hinv.signals hpid
  | ctlSignal pid => exact h
  | _ => trivial

/-! ## §3. A packet for a process that has ended. -/

/-- A one-byte text with which neither of two buffers begins. -/
theorem exists_new_text (t r : List UInt8) :
    ∃ b : UInt8, b ≠ 0 ∧ ¬ [b] <+: t ∧ ¬ [b] <+: r := by
  have hhead : ∀ (b : UInt8) (s : List UInt8), [b] <+: s → s.head? = some b := by
    rintro b s ⟨rest, rfl⟩
    rfl
  -- three bytes, and each buffer begins with at most one of them
  by_contra hnone
  have hone : ∀ b : UInt8, b ≠ 0 → t.head? = some b ∨ r.head? = some b := by
    intro b hb
    by_contra h
    rw [not_or] at h
    exact hnone ⟨b, hb, fun ht => h.1 (hhead b t ht), fun hr => h.2 (hhead b r hr)⟩
  have h1 := hone 1 (by decide)
  have h2 := hone 2 (by decide)
  have h3 := hone 3 (by decide)
  grind

/-- Whatever the buffers hold, some packet makes the driver signal the registered
process. -/
theorem exists_signalling (s : Device) :
    ∃ p, (s.getMessage p).pending = true ∧ (s.getMessage p).signals = s.dev.task := by
  obtain ⟨b, hb, hsent, hknown⟩ := exists_new_text s.dev.transmitBuffer.bytes
    s.dev.receiveBuffer.bytes
  have hlen : ([b] : List UInt8).length ≤ packetSize := by
    show 1 ≤ 60
    omega
  have htext : cstr (cached [b]).bytes = [b] :=
    (text_cached hlen).trans (cstr_eq_self (by simpa using hb.symm))
  have hz : (0 : UInt8) ∈ (cached [b]).bytes :=
    (zero_mem_cached_iff hlen).mpr (Or.inl (by show 1 < 60; omega))
  refine ⟨[b], by simp [Device.getMessage], ?_⟩
  apply Device.signals_of_delivers (s := s.getMessage [b]) hz
  · show ¬ cstr (cached [b]).bytes <+: s.dev.transmitBuffer.bytes
    rw [htext]
    exact hsent
  · show ¬ cstr (cached [b]).bytes <+: s.dev.receiveBuffer.bytes
    rw [htext]
    exact hknown

/-! ## §4. Every schedule. -/

/-- At every point of the schedule, for every packet that arrives there. -/
def LiveThroughout (e : Enrolment) (as : List DeviceEvent) : Prop :=
  ∀ as₁, as₁ <+: as → ∀ p, Along Enrolment.step SignalsLive e (as₁ ++ [.interrupt p, .work])

/-- The end of the registered process is found out by the next packet. -/
theorem LiveThroughout.unregisters (hinv : TaskInv e) {a : DeviceEvent} {as : List DeviceEvent}
    (h : LiveThroughout e (a :: as)) : Unregisters e a := by
  have hnow := h [a] (List.cons_prefix_cons.mpr ⟨rfl, List.nil_prefix⟩)
  cases a with
  | ctlSignal pid => exact (hnow []).1
  | exit pid =>
      intro htask
      have hlive := (hinv.task pid htask).1
      obtain ⟨d, hd⟩ : ∃ d, e.device.step (.exit pid) = some d := ⟨_, if_neg hlive⟩
      obtain ⟨-, rfl⟩ := Device.step_spec hd
      obtain ⟨p, hpending, hsignals⟩ := exists_signalling { e.device with
        files := e.device.files.filter (· ≠ pid), exited := pid :: e.device.exited }
      have hwork := (((hnow p).2 _ (congrArg (Option.map _) hd)).2 _ rfl).1
      exact (hwork hpending pid (hsignals.trans htask)).1 List.mem_cons_self
  | _ => trivial

/-- **EVERY SIGNAL GOES TO THE RUNNING PROCESS THAT REGISTERED LAST, EXACTLY WHEN
PROCESSES UNREGISTER BEFORE THEY END** and none unregisters twice. -/
theorem registered_iff (as : List DeviceEvent) :
    LiveThroughout Enrolment.start as
      ↔ Along Enrolment.step Unregisters Enrolment.start as := by
  constructor
  · have hrun : ∀ (as : List DeviceEvent) {e : Enrolment}, TaskInv e → LiveThroughout e as →
        Along Enrolment.step Unregisters e as := by
      intro as
      induction as with
      | nil =>
          intro e _ _
          trivial
      | cons a as ih =>
          intro e hinv h
          have hnow := h.unregisters hinv
          refine ⟨hnow, fun e' hs => ih (hinv.step hnow hs) (fun as₁ hpre p => ?_)⟩
          exact (h (a :: as₁) (List.cons_prefix_cons.mpr ⟨rfl, hpre⟩) p).2 e' hs
    exact hrun as taskInv_start
  · rintro h as₁ ⟨rest, rfl⟩ p
    exact Along.of_invariant (I := TaskInv) (fun _ _ hinv hQ => hinv.signalsLive hQ)
      (fun _ _ _ hinv hQ hs => hinv.step hQ hs) taskInv_start
      (h.of_append.append (fun _ => ⟨trivial, fun _ _ => ⟨trivial, fun _ _ => trivial⟩⟩))

/-- A process registers, is killed, and a packet arrives. -/
theorem registered_dangles :
    ¬ ∀ as : List DeviceEvent, Along Enrolment.step SignalsLive Enrolment.start as := by
  intro h
  have hall := h [.openFile 1, .rgSignal 1, .exit 1, .interrupt [1], .work]
  have hwork := ((((hall.2 _ rfl).2 _ rfl).2 _ rfl).2 _ rfl).1
  exact absurd (hwork rfl 1 (by decide)).1 (by decide)

end LoRaGateway
