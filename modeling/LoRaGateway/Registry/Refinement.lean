/-
  LoRaGateway.Registry.Refinement
  ───────────────────────────────
  **THE REGISTRY IS AN ORDERED LIST WITHOUT DUPLICATE IDS.**

  The abstract registry is `KeyedList LoRaNode.id`: records in order, no two
  with one id.  `Refines r l` says that the array of `main.c` holds exactly the
  records of `l`.  Every call of `add_device` or `remove_device` on a registry
  that refines `l` is the abstract `insert` or `remove` on `l` — the same answer,
  and a registry that refines the abstract result — so the distinctness of the
  ids, which the C code never checks as a whole, holds in every state that a run
  of calls reaches.
-/
import LoRaGateway.Registry.Def
import LoRaGateway.Lib.KeyedList

namespace LoRaGateway

open LoRaGateway.Lib

/-! ## §1. The abstract registry. -/

/-- Records in order, with pairwise distinct ids. -/
abbrev NodeList := KeyedList LoRaNode.id

/-- The array holds the records of the abstract list. -/
def Refines (r : Registry) (l : NodeList) : Prop := r.newLoRa = l.items

theorem Refines.keys {r : Registry} {l : NodeList} (h : Refines r l) : l.keys = r.ids := by
  unfold KeyedList.keys Registry.ids
  rw [h]

/-! ## §2. One call. -/

/-- A call of one of the two operations. -/
inductive RegistryOp where
  | add (h : Host) (id : UInt32)
  | remove (h : Host) (id : UInt32)

/-- The call, with its result. -/
def RegistryOp.exec : RegistryOp → Registry → Int × Registry
  | .add h id, r => addDevice h id r
  | .remove h id, r => removeDevice h id r

/-- The same call on the abstract list: `none` when it is refused. -/
def RegistryOp.spec (r : Registry) : RegistryOp → NodeList → Option NodeList
  | .add h id, l => l.insert (appended h id r)
  | .remove _ id, l => l.remove id

/-- A refused call returns `-1` and changes nothing; an accepted one returns `0`
and leaves the abstract result. -/
def Agrees (r : Registry) (out : Int × Registry) : Option NodeList → Prop
  | none => out = (-1, r)
  | some l' => out.1 = 0 ∧ Refines out.2 l'

theorem addDevice_agrees (h : Host) (id : UInt32) {r : Registry} {l : NodeList}
    (hr : Refines r l) : Agrees r (addDevice h id r) (l.insert (appended h id r)) := by
  rw [addDevice_eq]
  by_cases hid : id ∈ r.ids
  · rw [if_pos hid]
    have hnone : l.insert (appended h id r) = none := by
      rw [KeyedList.insert_eq_none, hr.keys]
      exact hid
    rw [hnone]
    rfl
  · rw [if_neg hid]
    have hkey : (appended h id r).id ∉ l.keys := by
      rw [hr.keys]
      exact hid
    cases hl : l.insert (appended h id r) with
    | none => exact absurd (KeyedList.insert_eq_none.mp hl) hkey
    | some l' =>
        refine ⟨rfl, ?_⟩
        obtain ⟨-, hitems⟩ := KeyedList.insert_eq_some.mp hl
        unfold Refines
        rw [syncListToFile_newLoRa, hitems, hr]

theorem removeDevice_agrees (h : Host) (id : UInt32) {r : Registry} {l : NodeList}
    (hr : Refines r l) : Agrees r (removeDevice h id r) (l.remove id) := by
  rcases removeDevice_newLoRa h id r with ⟨hid, hout⟩ | ⟨hid, hret, i, hi, hout⟩
  · have hnone : l.remove id = none := by
      rw [KeyedList.remove_eq_none, hr.keys]
      exact hid
    rw [hnone]
    exact hout
  · cases hl : l.remove id with
    | none =>
        rw [KeyedList.remove_eq_none, hr.keys] at hl
        exact absurd hid hl
    | some l' =>
        refine ⟨hret, ?_⟩
        obtain ⟨-, hitems⟩ := KeyedList.remove_eq_some.mp hl
        -- with distinct ids, erasing the first hit is filtering the id out
        have hnd : (r.newLoRa.map LoRaNode.id).Nodup := by
          rw [hr]
          exact l.nodup
        unfold Refines
        rw [hout, KeyedList.eraseIdx_findIdx hnd hi, hitems, hr]

/-- **One step of the simulation.** -/
theorem exec_agrees (op : RegistryOp) {r : Registry} {l : NodeList} (hr : Refines r l) :
    Agrees r (op.exec r) (op.spec r l) := by
  cases op with
  | add h id => exact addDevice_agrees h id hr
  | remove h id => exact removeDevice_agrees h id hr

/-! ## §3. Runs of calls. -/

/-- The registry after a sequence of calls. -/
def runOps (r : Registry) (ops : List RegistryOp) : Registry :=
  ops.foldl (fun r op => (op.exec r).2) r

/-- A call leaves a registry that refines some abstract list. -/
theorem exec_refines (op : RegistryOp) {r : Registry} {l : NodeList} (hr : Refines r l) :
    ∃ l' : NodeList, Refines (op.exec r).2 l' := by
  have hag := exec_agrees op hr
  cases hs : op.spec r l with
  | none =>
      rw [hs] at hag
      exact ⟨l, by rw [hag]; exact hr⟩
  | some l' =>
      rw [hs] at hag
      exact ⟨l', hag.2⟩

/-- **The simulation along a run**: every reachable registry refines a list. -/
theorem runOps_refines (ops : List RegistryOp) :
    ∀ {r : Registry} {l : NodeList}, Refines r l → ∃ l' : NodeList, Refines (runOps r ops) l' := by
  induction ops with
  | nil =>
      intro r l hr
      exact ⟨l, hr⟩
  | cons op ops ih =>
      intro r l hr
      obtain ⟨l', hr'⟩ := exec_refines op hr
      exact ih hr'

/-- The ids of a reachable registry are pairwise distinct. -/
theorem runOps_nodup (file : Option NodeFile) (ops : List RegistryOp) :
    (runOps (Registry.empty file) ops).ids.Nodup := by
  obtain ⟨l, hl⟩ := runOps_refines ops (show Refines (Registry.empty file) KeyedList.empty from rfl)
  rw [← hl.keys]
  exact l.nodup

/-! ## §4. The contract of the two operations. -/

/-- A new record: the id, `MODE_AUTO` and zero readings. -/
def NewRecord (id : UInt32) (n : LoRaNode) : Prop :=
  n.id = id ∧ n.currentMode = Code.modeAuto.toUInt32 ∧ n.lightSensorValue = 0
    ∧ n.illuminance = 0 ∧ n.voltage = 0 ∧ n.current = 0

theorem newRecord_appended (h : Host) (id : UInt32) (r : Registry) :
    NewRecord id (appended h id r) := ⟨rfl, rfl, rfl, rfl, rfl, rfl⟩

/-- `add_device` on `r`: refused with nothing changed exactly when the id is
present, otherwise one new record at the end. -/
def AddContract (r : Registry) : Prop :=
  ∀ (h : Host) (id : UInt32),
    ((addDevice h id r).1 = -1 ↔ id ∈ r.ids)
      ∧ (id ∈ r.ids → (addDevice h id r).2 = r)
      ∧ (id ∉ r.ids → (addDevice h id r).1 = 0
          ∧ ∃ n, NewRecord id n ∧ (addDevice h id r).2.newLoRa = r.newLoRa ++ [n])

/-- `remove_device` on `r`: accepted exactly when the id is present, and then the
other records stay, in order; otherwise refused with nothing changed. -/
def RemoveContract (r : Registry) : Prop :=
  ∀ (h : Host) (id : UInt32),
    ((removeDevice h id r).1 = 0 ↔ id ∈ r.ids)
      ∧ (id ∈ r.ids → (removeDevice h id r).2.newLoRa = r.newLoRa.filter (fun n => n.id ≠ id))
      ∧ (id ∉ r.ids → removeDevice h id r = (-1, r))

theorem addContract (r : Registry) : AddContract r := by
  intro h id
  rw [addDevice_eq]
  by_cases hid : id ∈ r.ids
  · rw [if_pos hid]
    exact ⟨by simp [hid], fun _ => rfl, fun hn => absurd hid hn⟩
  · rw [if_neg hid]
    refine ⟨by simp [hid], fun hn => absurd hn hid, fun _ => ⟨rfl, _, newRecord_appended h id r, ?_⟩⟩
    rw [syncListToFile_newLoRa]

theorem removeContract {r : Registry} (hnd : r.ids.Nodup) : RemoveContract r := by
  intro h id
  rcases removeDevice_newLoRa h id r with ⟨hid, hout⟩ | ⟨hid, hret, i, hi, hout⟩
  · rw [hout]
    exact ⟨by simp [hid], fun hn => absurd hn hid, fun _ => rfl⟩
  · refine ⟨by simp [hid, hret], fun _ => ?_, fun hn => absurd hid hn⟩
    rw [hout]
    exact KeyedList.eraseIdx_findIdx hnd hi

/-- The ids after `add_device`, and what it returns. -/
theorem addDevice_ids (h : Host) (id : UInt32) (r : Registry) :
    (addDevice h id r).2.ids = if id ∈ r.ids then r.ids else r.ids ++ [id] := by
  rw [addDevice_eq]
  by_cases hid : id ∈ r.ids
  · rw [if_pos hid, if_pos hid]
  · rw [if_neg hid, if_neg hid, syncListToFile_ids]
    show (r.newLoRa ++ [appended h id r]).map LoRaNode.id = _
    rw [List.map_append]
    rfl

theorem addDevice_ret (h : Host) (id : UInt32) (r : Registry) :
    (addDevice h id r).1 = if id ∈ r.ids then -1 else 0 := by
  rw [addDevice_eq]
  split <;> rfl

/-- The ids after `remove_device`, and what it returns. -/
theorem removeDevice_ids (h : Host) (id : UInt32) (r : Registry) :
    (removeDevice h id r).2.ids = r.ids.erase id := by
  rcases removeDevice_newLoRa h id r with ⟨hid, hout⟩ | ⟨-, -, i, hi, hout⟩
  · rw [hout, List.erase_of_not_mem hid]
  · show (removeDevice h id r).2.newLoRa.map LoRaNode.id = _
    rw [hout, KeyedList.map_eraseIdx_findIdx hi]
    rfl

theorem removeDevice_ret (h : Host) (id : UInt32) (r : Registry) :
    (removeDevice h id r).1 = if id ∈ r.ids then 0 else -1 := by
  rcases removeDevice_newLoRa h id r with ⟨hid, hout⟩ | ⟨hid, hret, -⟩
  · rw [hout, if_neg hid]
  · rw [hret, if_pos hid]

/-- **THE REGISTRY REFINES AN ORDERED LIST WITHOUT DUPLICATES.**  After any
sequence of calls from the empty registry the array is an abstract list, the ids
are distinct, and the next call, whatever it is, meets its contract and is the
abstract operation on that list. -/
theorem registry_refines_nodeList (file : Option NodeFile) (ops : List RegistryOp) :
    let r := runOps (Registry.empty file) ops
    r.ids.Nodup ∧ AddContract r ∧ RemoveContract r
      ∧ ∃ l : NodeList, Refines r l
        ∧ ∀ op : RegistryOp, Agrees r (op.exec r) (op.spec r l) := by
  intro r
  have hnd : r.ids.Nodup := runOps_nodup file ops
  obtain ⟨l, hl⟩ := runOps_refines ops (show Refines (Registry.empty file) KeyedList.empty from rfl)
  exact ⟨hnd, addContract r, removeContract hnd, l, hl, fun op => exec_agrees op hl⟩

end LoRaGateway
