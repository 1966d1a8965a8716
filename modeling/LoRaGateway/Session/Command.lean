/-
  LoRaGateway.Session.Command
  ───────────────────────────
  **THE MESSAGES OF A CLIENT**: what `recv_msg` does with the bytes of one `read`.

  A message makes the child store a request and its arguments into the shared
  memory, one field after the other, and then send SIGUSR2 to the parent.  The
  stores are kept as a list of single operations, since the parent can run
  between any two of them.

    • `recvMsg_announces` — when the signal is sent, the shared memory holds the
      order of the message, whatever it held before.
-/
import LoRaGateway.Packet
import Mathlib.Data.List.DropRight

namespace LoRaGateway

open LoRaGateway.Lib

/-! ## §1. Orders. -/

/-- What the child asks of the parent. -/
inductive Order where
  | connect
  | disconnect
  | add (id : UInt32)
  | remove (id : UInt32)
  | auto (id : UInt32)
  | manual (id : UInt32) (userSet : TimeSet)
  deriving DecidableEq

/-- The request code. -/
def Order.code : Order → UInt8
  | .connect => Code.gotSock
  | .disconnect => Code.ctlSock
  | .add _ => Code.addDevice
  | .remove _ => Code.removeDevice
  | .auto _ => Code.modeAuto
  | .manual _ _ => Code.modeManual

/-- The arguments of the order are those in the shared memory. -/
def Order.ArgsIn (d : DeviceCommand) : Order → Prop
  | .connect | .disconnect => True
  | .add id | .remove id | .auto id => d.idToHandler = id
  | .manual id userSet => d.idToHandler = id ∧ d.userSet = userSet

/-- The shared memory holds the order. -/
def Order.In (d : DeviceCommand) (o : Order) : Prop := d.request = o.code ∧ o.ArgsIn d

/-! ## §2. Single operations. -/

/-- The `k`-th number of a schedule, in the order of the message. -/
def TimeSet.setNumber (t : TimeSet) (k : Nat) (v : Int32) : TimeSet :=
  match k with
  | 0 => { t with hStart0 := v }
  | 1 => { t with mStart0 := v }
  | 2 => { t with hStop0 := v }
  | 3 => { t with mStop0 := v }
  | 4 => { t with hStart50 := v }
  | 5 => { t with mStart50 := v }
  | 6 => { t with hStop50 := v }
  | 7 => { t with mStop50 := v }
  | 8 => { t with hStart75 := v }
  | 9 => { t with mStart75 := v }
  | 10 => { t with hStop75 := v }
  | 11 => { t with mStop75 := v }
  | 12 => { t with hStart100 := v }
  | 13 => { t with mStart100 := v }
  | 14 => { t with hStop100 := v }
  | 15 => { t with mStop100 := v }
  | _ => t

/-- The schedule with these sixteen numbers. -/
def TimeSet.ofNumbers (vs : List Int32) : TimeSet :=
  let v := fun k => vs.getD k 0
  ⟨v 0, v 2, v 1, v 3, v 4, v 6, v 5, v 7, v 8, v 10, v 9, v 11, v 12, v 14, v 13, v 15⟩

/-- A store to one field of the shared memory. -/
inductive Store where
  | request (code : UInt8)
  | idToHandler (id : UInt32)
  | userSet (k : Nat) (v : Int32)
  deriving DecidableEq

/-- The store itself. -/
def Store.apply (d : DeviceCommand) : Store → DeviceCommand
  | .request code => { d with request := code }
  | .idToHandler id => { d with idToHandler := id }
  | .userSet k v => { d with userSet := d.userSet.setNumber k v }

/-- An operation of `recv_msg` on a message: a store, `kill(ppid, SIGUSR2)` for
an order, or a step without a result: `atoi(NULL)`, or `strtok` off the buffer. -/
inductive ChildOp where
  | store (w : Store)
  | kill (o : Order)
  | crash
  deriving DecidableEq

/-! ## §3. `recv_msg`. -/

/-- The requests with one argument. -/
def idOps (code : UInt8) (order : UInt32 → Order) (rest : List UInt8) : List ChildOp :=
  .store (.request code) ::
    match strtok 32 rest with
    | none => [.crash]
    | some (token, _) =>
        [.store (.idToHandler (atoi token).toUInt32), .kill (order (atoi token).toUInt32)]

/-- The numbers of a schedule: `n` more of them after `vs`. -/
def scheduleOps (id : UInt32) : Nat → List UInt8 → List Int32 → List ChildOp
  | 0, _, vs => [.kill (.manual id (TimeSet.ofNumbers vs))]
  | n + 1, rest, vs =>
      match strtok 32 rest with
      | none => [.crash]
      | some (token, rest) =>
          .store (.userSet vs.length (atoi token)) :: scheduleOps id n rest (vs ++ [atoi token])

/-- The branch for `MODE_MANUAL`: the id, and the sixteen numbers. -/
def manualOps (rest : List UInt8) : List ChildOp :=
  .store (.request Code.modeManual) ::
    match strtok 32 rest with
    | none => [.crash]
    | some (token, rest) =>
        .store (.idToHandler (atoi token).toUInt32) ::
          scheduleOps (atoi token).toUInt32 16 rest []

/-- The `switch` on the type of the message. -/
def messageOps (type : Int32) (rest : List UInt8) : List ChildOp :=
  if type.toInt = Code.addDevice.toNat then idOps Code.addDevice .add rest
  else if type.toInt = Code.removeDevice.toNat then idOps Code.removeDevice .remove rest
  else if type.toInt = Code.modeAuto.toNat then idOps Code.modeAuto .auto rest
  else if type.toInt = Code.modeManual.toNat then manualOps rest
  else []

/-- What `recv_msg` is about to do. -/
inductive Received where
  | exit
  | message (ops : List ChildOp)
  deriving DecidableEq

/-- What `strtok` can cut up of the bytes in the zeroed `RxD_Buff`: the text up to
its NUL.  A full buffer may have none, and then behind the last space `strtok` runs
off the buffer in search of the end of a token. -/
def strtokText (bytes : List UInt8) : List UInt8 :=
  if 1024 ≤ bytes.length ∧ (0 : UInt8) ∉ bytes then bytes.rdropWhile (fun b => decide (b ≠ 32))
  else cstr bytes

/-- A text that leaves room for a NUL is cut up to its end. -/
theorem strtokText_eq_self {bytes : List UInt8} (hlen : bytes.length < 1024)
    (hz : (0 : UInt8) ∉ bytes) : strtokText bytes = bytes := by
  unfold strtokText
  rw [if_neg (fun h => Nat.not_le.mpr hlen h.1), cstr_eq_self hz]

/-- The bytes of one `read` into the zeroed `RxD_Buff` (none when `read` fails).
There is no result when `strtok` runs off the buffer or finds no token. -/
def recvMsg (bytes : List UInt8) : Option Received :=
  -- `strncmp(RxD_Buff, "exit", 4)`, before anything is parsed
  if bytes.take 4 = [101, 120, 105, 116] then some .exit
  else do
    let (token, rest) ← strtok 32 (strtokText bytes)
    some (.message (messageOps (atoi token) rest))

/-! ## §4. The signal comes after the whole order. -/

/-- The rest of a message whose request is stored: stores of arguments, and then
the signal for the order that the shared memory holds by then. -/
def Finishes (d : DeviceCommand) : List ChildOp → Prop
  | .store (.request _) :: _ => False
  | .store w :: rest => Finishes (w.apply d) rest
  | [.kill o] => o.In d
  | [.crash] => True
  | _ => False

/-- A message: nothing, or its request and the rest. -/
def Announces (d : DeviceCommand) : List ChildOp → Prop
  | [] => True
  | .store (.request code) :: rest => Finishes ((Store.request code).apply d) rest
  | _ => False

theorem numbers_setNumber (t : TimeSet) (k : Nat) (v : Int32) :
    (t.setNumber k v).numbers = t.numbers.set k v := by
  match k with
  | 0 | 1 | 2 | 3 | 4 | 5 | 6 | 7 | 8 | 9 | 10 | 11 | 12 | 13 | 14 | 15 => rfl
  | k + 16 =>
      have hlen : t.numbers.length ≤ k + 16 := by
        show 16 ≤ k + 16
        omega
      rw [List.set_eq_of_length_le hlen]
      rfl

theorem ofNumbers_numbers (t : TimeSet) : TimeSet.ofNumbers t.numbers = t := rfl

/-- Each number lands behind the ones before it; with sixteen of them the
schedule is the announced one. -/
theorem scheduleOps_finishes (id : UInt32) :
    ∀ (n : Nat) (rest : List UInt8) (vs : List Int32) (d : DeviceCommand),
      d.request = Code.modeManual → d.idToHandler = id → vs.length + n = 16 →
        d.userSet.numbers.take vs.length = vs → Finishes d (scheduleOps id n rest vs) := by
  intro n
  induction n with
  | zero =>
      intro rest vs d hreq hid hlen hvs
      -- all sixteen places are written: the prefix is the whole schedule
      have hall : d.userSet.numbers = vs := by
        rw [← hvs, List.take_of_length_le]
        show 16 ≤ vs.length
        omega
      refine ⟨hreq, hid, ?_⟩
      rw [← hall, ofNumbers_numbers]
  | succ n ih =>
      intro rest vs d hreq hid hlen hvs
      unfold scheduleOps
      split
      next => trivial
      next token rest' _ =>
          refine ih rest' (vs ++ [atoi token]) _ hreq hid ?_ ?_
          · rw [List.length_append, List.length_singleton]
            omega
          · show ((d.userSet.setNumber vs.length (atoi token)).numbers).take _ = _
            -- the new number lands at place `vs.length` and leaves the ones before it
            have hlt : vs.length < d.userSet.numbers.length := by
              show vs.length < 16
              omega
            rw [numbers_setNumber, List.length_append, List.length_singleton,
              List.take_succ_eq_append_getElem (by simpa using hlt), List.getElem_set_self,
              List.take_set_of_le (Nat.le_refl _), hvs]

theorem idOps_announces {code : UInt8} {order : UInt32 → Order} (hcode : ∀ id, (order id).code = code)
    (hargs : ∀ id d, (order id).ArgsIn d ↔ d.idToHandler = id) (rest : List UInt8)
    (d : DeviceCommand) : Announces d (idOps code order rest) := by
  unfold idOps
  split
  next => trivial
  next token _ _ => exact ⟨(hcode _).symm, (hargs _ _).mpr rfl⟩

theorem messageOps_announces (type : Int32) (rest : List UInt8) (d : DeviceCommand) :
    Announces d (messageOps type rest) := by
  unfold messageOps
  split
  · exact idOps_announces (by intro _; rfl) (by intro _ _; exact Iff.rfl) rest d
  split
  · exact idOps_announces (by intro _; rfl) (by intro _ _; exact Iff.rfl) rest d
  split
  · exact idOps_announces (by intro _; rfl) (by intro _ _; exact Iff.rfl) rest d
  split
  · unfold manualOps
    split
    next => trivial
    next token rest' _ => exact scheduleOps_finishes _ 16 rest' [] _ rfl rfl rfl rfl
  · trivial

/-- **Whatever a message makes the child store, the signal comes after the whole
order.** -/
theorem recvMsg_announces {bytes : List UInt8} {ops : List ChildOp}
    (h : recvMsg bytes = some (.message ops)) (d : DeviceCommand) : Announces d ops := by
  unfold recvMsg at h
  split at h
  · exact absurd h (by simp)
  obtain ⟨⟨token, rest⟩, -, h⟩ := Option.bind_eq_some_iff.mp h
  obtain rfl : messageOps (atoi token) rest = ops := by simpa using h
  exact messageOps_announces _ _ d

end LoRaGateway
