/-
  LoRaGateway.Driver.Device
  ─────────────────────────
  **ONE DEVICE OF THE RADIO DRIVER AND THE PROCESSES THAT USE IT**: the interrupt,
  the work item, and the file operations of `Driver/sx1278.c`, each as one step.

  A process is named by a number that is not used again; what `RG_SIGNAL` stores is
  that process itself, so the number stays in `task` when the process has exited.

    • `Device.step` — what each event does; nothing where the code is undefined,
    • `getMessage_refines`, `sx1278Write_refines` — the interrupt and the write are
      what the driver's functions do, transfer by transfer.
-/
import LoRaGateway.Driver.Receive
import LoRaGateway.Driver.Transmit

namespace LoRaGateway

open LoRaGateway.Lib

/-! ## §1. Events. -/

/-- Something happens at the device: to the driver, or to a process. -/
inductive DeviceEvent where
  /-- `get_message`, with the packet that the chip hands over. -/
  | interrupt (p : List UInt8)
  /-- `workqueue_fn`. -/
  | work
  | openFile (pid : Nat)
  | closeFile (pid : Nat)
  | write (pid : Nat) (data : List UInt8)
  | rgSignal (pid : Nat)
  | ctlSignal (pid : Nat)
  /-- The process ends, of itself or by a kill; its files are closed. -/
  | exit (pid : Nat)
  deriving DecidableEq

/-- The driver's data, whether the work item is queued, the processes with the file
open (once for each time they opened it), and those that have exited. -/
structure Device where
  dev : LoRaDev
  pending : Bool
  files : List Nat
  exited : List Nat
  deriving DecidableEq

/-- After `sx1278_probe`: zeroed buffers, nobody registered. -/
def Device.probed : Device :=
  ⟨⟨Buffer.zero _, Buffer.zero _, Buffer.zero _, none⟩, false, [], []⟩

/-! ## §2. What an event does. -/

/-- The buffers after `get_message`, and whether it calls `schedule_work`, which
does nothing while the item is queued. -/
def Device.getMessage (s : Device) (p : List UInt8) : Device :=
  { s with dev := { s.dev with cacheBuffer := cached p }, pending := s.pending || (p ≠ []) }

/-- What `sx1278_write` leaves in the buffers; the lengths it takes are undefined for
data that do not end before `transmit_buffer`, or fill `to_send`. -/
def LoRaDev.take (d : LoRaDev) (data : List UInt8) : Option LoRaDev := do
  let transmitBuffer ← (Buffer.zero packetSize).store 0 data
  let length ← strlen transmitBuffer.bytes
  if length ≤ packetSize - 2 then some { d with transmitBuffer := transmitBuffer } else none

/-- One event; a file operation needs an open file, and a process that runs. -/
def Device.step (s : Device) : DeviceEvent → Option Device
  | .interrupt p => some (s.getMessage p)
  | .work =>
      if s.pending then
        (workqueueFn s.dev).map (fun out => { s with dev := out.1, pending := false })
      else none
  | .openFile pid => if pid ∈ s.exited then none else some { s with files := pid :: s.files }
  | .closeFile pid => if pid ∈ s.files then some { s with files := s.files.erase pid } else none
  | .write pid data =>
      if pid ∈ s.files then (s.dev.take data).map (fun dev => { s with dev := dev }) else none
  | .rgSignal pid =>
      if pid ∈ s.files then some { s with dev := { s.dev with task := some pid } } else none
  | .ctlSignal pid =>
      -- `printk` reads `task->pid` before the pointer is cleared
      if pid ∈ s.files ∧ s.dev.task.isSome then
        some { s with dev := { s.dev with task := none } }
      else none
  | .exit pid =>
      if pid ∈ s.exited then none
      else some { s with files := s.files.filter (· ≠ pid), exited := pid :: s.exited }

/-- The process that the work, run now, sends `SIGUSR1` to. -/
def Device.signals (s : Device) : Option Nat :=
  match workqueueFn s.dev with
  | some (_, true) => s.dev.task
  | _ => none

/-- **What a step can do**, event by event. -/
theorem Device.step_spec {s s' : Device} {a : DeviceEvent} (h : s.step a = some s') :
    match a with
    | .interrupt p => s' = s.getMessage p
    | .work => s.pending = true ∧ ∃ out, workqueueFn s.dev = some out
        ∧ s' = { s with dev := out.1, pending := false }
    | .openFile pid => pid ∉ s.exited ∧ s' = { s with files := pid :: s.files }
    | .closeFile pid => pid ∈ s.files ∧ s' = { s with files := s.files.erase pid }
    | .write pid data => pid ∈ s.files ∧ ∃ dev, s.dev.take data = some dev
        ∧ s' = { s with dev := dev }
    | .rgSignal pid => pid ∈ s.files ∧ s' = { s with dev := { s.dev with task := some pid } }
    | .ctlSignal pid => pid ∈ s.files ∧ s.dev.task.isSome = true
        ∧ s' = { s with dev := { s.dev with task := none } }
    | .exit pid => pid ∉ s.exited
        ∧ s' = { s with files := s.files.filter (· ≠ pid), exited := pid :: s.exited } := by
  cases a with
  | interrupt p => exact (Option.some.inj h).symm
  | work =>
      obtain ⟨hp, h⟩ := Option.ite_none_right_eq_some.mp h
      obtain ⟨out, hout, h⟩ := Option.map_eq_some_iff.mp h
      exact ⟨hp, out, hout, h.symm⟩
  | openFile pid =>
      obtain ⟨hp, h⟩ := Option.ite_none_left_eq_some.mp h
      exact ⟨hp, (Option.some.inj h).symm⟩
  | closeFile pid =>
      obtain ⟨hp, h⟩ := Option.ite_none_right_eq_some.mp h
      exact ⟨hp, (Option.some.inj h).symm⟩
  | write pid data =>
      obtain ⟨hp, h⟩ := Option.ite_none_right_eq_some.mp h
      obtain ⟨dev, hdev, h⟩ := Option.map_eq_some_iff.mp h
      exact ⟨hp, dev, hdev, h.symm⟩
  | rgSignal pid =>
      obtain ⟨hp, h⟩ := Option.ite_none_right_eq_some.mp h
      exact ⟨hp, (Option.some.inj h).symm⟩
  | ctlSignal pid =>
      obtain ⟨hp, h⟩ := Option.ite_none_right_eq_some.mp h
      exact ⟨hp.1, hp.2, (Option.some.inj h).symm⟩
  | exit pid =>
      obtain ⟨hp, h⟩ := Option.ite_none_left_eq_some.mp h
      exact ⟨hp, (Option.some.inj h).symm⟩

/-! The work, in the two ways it can end. -/

theorem Device.signals_of_drops {s : Device} (hz : (0 : UInt8) ∈ s.dev.cacheBuffer.bytes)
    (h : cstr s.dev.cacheBuffer.bytes <+: s.dev.transmitBuffer.bytes
      ∨ cstr s.dev.cacheBuffer.bytes <+: s.dev.receiveBuffer.bytes) : s.signals = none := by
  unfold Device.signals
  rw [workqueueFn_drops hz h]

theorem Device.signals_of_delivers {s : Device} (hz : (0 : UInt8) ∈ s.dev.cacheBuffer.bytes)
    (hsent : ¬ cstr s.dev.cacheBuffer.bytes <+: s.dev.transmitBuffer.bytes)
    (hknown : ¬ cstr s.dev.cacheBuffer.bytes <+: s.dev.receiveBuffer.bytes) :
    s.signals = s.dev.task := by
  unfold Device.signals
  rw [workqueueFn_delivers hz hsent hknown]
  cases s.dev.task <;> rfl

/-! ## §3. The interrupt and the write, transfer by transfer. -/

/-- Of a chip that hands over `p`, `get_message` makes the event `interrupt p`. -/
theorem getMessage_refines (s : Device) {c : RxChip} {p : List UInt8} (hc : c.Hands p) :
    ∃ scheduled cacheBuffer c',
      (getMessage s.dev.cacheBuffer).exec RxChip.answer c = some ((scheduled, cacheBuffer), c')
        ∧ s.getMessage p = { s with
            dev := { s.dev with cacheBuffer := cacheBuffer }, pending := s.pending || scheduled } := by
  obtain ⟨c', hexec⟩ := exec_getMessage hc s.dev.cacheBuffer
  exact ⟨_, _, c', hexec, rfl⟩

theorem LoRaDev.take_spec {d d' : LoRaDev} {data : List UInt8} (h : d.take data = some d') :
    ∃ b, (Buffer.zero packetSize).store 0 data = some b ∧ (0 : UInt8) ∈ b.bytes
      ∧ (cstr b.bytes).length ≤ 58 ∧ d' = { d with transmitBuffer := b } := by
  obtain ⟨b, hb, h⟩ := Option.bind_eq_some_iff.mp h
  obtain ⟨length, hlen, h⟩ := Option.bind_eq_some_iff.mp h
  have hz : (0 : UInt8) ∈ b.bytes := by
    by_contra hz
    rw [strlen_of_not_mem hz] at hlen
    cases hlen
  rw [strlen_of_mem hz] at hlen
  obtain rfl := Option.some.inj hlen
  split at h
  next hle => exact ⟨b, hb, hz, hle, (Option.some.inj h).symm⟩
  next => cases h

/-- Whatever the chip answers, `sx1278_write` stores what the event `write` leaves in
`transmit_buffer`, once, and nothing in it is undefined. -/
theorem sx1278Write_refines {d d' : LoRaDev} {data : List UInt8} (h : d.take data = some d')
    (fuel : Nat) :
    (sx1278Write fuel data).Shows
      (fun o => match o with | .setTransmitBuffer b => [b] | _ => []) IsWaiting
      [d'.transmitBuffer] := by
  obtain ⟨b, hb, hz, hlen, rfl⟩ := LoRaDev.take_spec h
  exact sx1278Write_shows ⟨fun _ => rfl, rfl, fun _ => rfl, rfl, fun _ _ _ _ => rfl⟩ hb hz hlen fuel

end LoRaGateway
