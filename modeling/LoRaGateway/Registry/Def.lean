/-
  LoRaGateway.Registry.Def
  ────────────────────────
  **THE NODE REGISTRY OF `main.c`**: `add_device`, `remove_device`,
  `sync_list_to_file` and `LoRa_init`.

  `newLoRa` is seen here as an array of `node_count` records (allocation
  succeeding, every block large enough); the bytes behind it, and the size that
  each allocation really asks for, are the subject of `Registry.Storage`.
  The node file is the list of file operations done on it since the process
  started, so that every intermediate content can be named.

  Two things are seen in full here that the C code squeezes through fixed
  arrays: the text of one record (`one_node`, 11 bytes) and the loaded file
  (taken as NUL-terminated).  `Registry.FileText` has the arrays.
-/
import LoRaGateway.Types
import LoRaGateway.Lib.ArrayLoop

namespace LoRaGateway

open LoRaGateway.Lib

/-! ## §1. The node file. -/

/-- A file operation of `sync_list_to_file`. -/
inductive FileOp where
  | ftruncate
  | write (text : List UInt8)
  deriving DecidableEq

/-- What is in the file after it. -/
def FileOp.apply : List UInt8 → FileOp → List UInt8
  | _, .ftruncate => []
  | text, .write more => text ++ more

/-- What `ops` make of a file with the contents `text`. -/
def replay (text : List UInt8) (ops : List FileOp) : List UInt8 := ops.foldl FileOp.apply text

/-- The node file: what it held at process start, and the operations since. -/
structure NodeFile where
  loaded : List UInt8
  ops : List FileOp
  deriving DecidableEq

/-- What is in the file now. -/
def NodeFile.contents (f : NodeFile) : List UInt8 := replay f.loaded f.ops

/-! ## §2. The registry. -/

/-- A request to the cloud database (`db_add_node`, `db_remove_node`). -/
inductive CloudOp where
  | patch (node : LoRaNode)
  | delete (node : LoRaNode)
  deriving DecidableEq

/-- The records, the node file (`none`: there is no such file) and the requests
sent to the database. -/
structure Registry where
  newLoRa : List LoRaNode
  nodeFile : Option NodeFile
  cloud : List CloudOp
  deriving DecidableEq

namespace Registry

/-- `node_count`: the number of records. -/
def nodeCount (r : Registry) : Nat := r.newLoRa.length

/-- The registered ids, in order. -/
def ids (r : Registry) : List UInt32 := r.newLoRa.map LoRaNode.id

/-- Before the first `add_device`. -/
def empty (file : Option NodeFile) : Registry := ⟨[], file, []⟩

end Registry

/-- What the C library answers to one call: the uninitialised record that
`realloc` adds, and whether `open(NODE_FILE)` may succeed. -/
structure Host where
  fresh : LoRaNode
  opens : Bool

/-- A record of `calloc`. -/
def LoRaNode.zero : LoRaNode := ⟨0, 0, 0, 0, 0, 0, TimeSet.zero⟩

/-! ## §3. The functions. -/

/-- `LoRa_init` leaves `working_time` as it finds it. -/
def loRaInit (node : LoRaNode) (newId : UInt32) : LoRaNode :=
  { node with
    id := newId
    currentMode := Code.modeAuto.toUInt32
    current := 0
    illuminance := 0
    lightSensorValue := 0
    voltage := 0 }

/-- One record of the node file: `"%d "`. -/
def oneNode (id : UInt32) : List UInt8 := printId id ++ [32]

/-- The file operations of `sync_list_to_file` once the file is open. -/
def syncOps (ids : List UInt32) : List FileOp :=
  if ids.length > 0 then
    FileOp.ftruncate :: ids.map (fun id => FileOp.write (oneNode id))
  else
    [FileOp.ftruncate]

/-- `sync_list_to_file`.  `open` has no `O_CREAT`: a missing file stays missing.
Both callers drop the result, so it is not modelled. -/
def syncListToFile (h : Host) (r : Registry) : Registry :=
  match r.nodeFile with
  | none => r
  | some f =>
      if h.opens then { r with nodeFile := some ⟨f.loaded, f.ops ++ syncOps r.ids⟩ }
      else r

/-- `add_device`. -/
def addDevice (h : Host) (newId : UInt32) (r : Registry) : Int × Registry :=
  if r.nodeCount = 0 then
    let node := loRaInit LoRaNode.zero newId
    (0, syncListToFile h { r with newLoRa := [node], cloud := r.cloud ++ [.patch node] })
  else
    match findLoop (fun n => decide (n.id = newId)) r.newLoRa r.nodeCount 0 with
    | some _ => (-1, r)
    | none =>
        let node := loRaInit h.fresh newId
        (0, syncListToFile h
          { r with newLoRa := r.newLoRa ++ [node], cloud := r.cloud ++ [.patch node] })

/-- `remove_device`: the records after the found one move one place down, and
the block is cut to `node_count` records. -/
def removeDevice (h : Host) (deviceId : UInt32) (r : Registry) : Int × Registry :=
  match findLoop (fun n => decide (n.id = deviceId)) r.newLoRa r.nodeCount 0 with
  | none => (-1, r)
  | some i =>
      let deleted := (r.newLoRa[i]?).toList.map CloudOp.delete
      let shifted := shiftLoop r.newLoRa (r.nodeCount - 1 - i) i
      (0, syncListToFile h
        { r with newLoRa := shifted.take (r.nodeCount - 1), cloud := r.cloud ++ deleted })

/-! ## §4. What each function does. -/

@[simp] theorem syncListToFile_newLoRa (h : Host) (r : Registry) :
    (syncListToFile h r).newLoRa = r.newLoRa := by
  unfold syncListToFile
  split
  · rfl
  · split <;> rfl

@[simp] theorem syncListToFile_ids (h : Host) (r : Registry) :
    (syncListToFile h r).ids = r.ids := by
  unfold Registry.ids
  rw [syncListToFile_newLoRa]

/-- The search over the registry finds the first record with the id. -/
theorem findLoop_ids (r : Registry) (id : UInt32) :
    findLoop (fun n => decide (n.id = id)) r.newLoRa r.nodeCount 0
      = r.newLoRa.findIdx? (fun n => decide (n.id = id)) := findLoop_eq _ _

theorem findIdx_eq_none {r : Registry} {id : UInt32} :
    r.newLoRa.findIdx? (fun n => decide (n.id = id)) = none ↔ id ∉ r.ids := by
  rw [List.findIdx?_eq_none_iff]
  unfold Registry.ids
  rw [List.mem_map]
  constructor
  · rintro h ⟨n, hn, hid⟩
    exact absurd (h n hn) (by simp [hid])
  · intro h n hn
    have hne : n.id ≠ id := fun hid => h ⟨n, hn, hid⟩
    simpa using hne

/-- The record that a successful `add_device` appends. -/
def appended (h : Host) (id : UInt32) (r : Registry) : LoRaNode :=
  loRaInit (if r.nodeCount = 0 then LoRaNode.zero else h.fresh) id

@[simp] theorem appended_id (h : Host) (id : UInt32) (r : Registry) :
    (appended h id r).id = id := rfl

/-- **`add_device` refuses exactly the ids that are present**, on both of its
branches, and otherwise appends one record. -/
theorem addDevice_eq (h : Host) (id : UInt32) (r : Registry) :
    addDevice h id r
      = if id ∈ r.ids then (-1, r)
        else (0, syncListToFile h
          { r with
            newLoRa := r.newLoRa ++ [appended h id r]
            cloud := r.cloud ++ [.patch (appended h id r)] }) := by
  unfold addDevice appended
  by_cases h0 : r.nodeCount = 0
  -- the first node: `calloc`, and no search
  · have hnil : r.newLoRa = [] := List.eq_nil_of_length_eq_zero h0
    have hmem : id ∉ r.ids := by simp [Registry.ids, hnil]
    rw [if_pos h0, if_neg hmem, if_pos h0, hnil]
    rfl
  -- `realloc`, if the search finds nothing
  · rw [if_neg h0, if_neg h0, findLoop_ids]
    cases hf : r.newLoRa.findIdx? (fun n => decide (n.id = id)) with
    | none => rw [if_neg (findIdx_eq_none.mp hf)]
    | some i =>
        have hmem : id ∈ r.ids := by
          by_contra hn
          rw [findIdx_eq_none.mpr hn] at hf
          exact absurd hf (by simp)
        rw [if_pos hmem]

/-- **`remove_device` refuses exactly the ids that are absent**, and otherwise
erases the first record with the id. -/
theorem removeDevice_newLoRa (h : Host) (id : UInt32) (r : Registry) :
    (id ∉ r.ids ∧ removeDevice h id r = (-1, r))
      ∨ (id ∈ r.ids ∧ (removeDevice h id r).1 = 0
          ∧ ∃ i, r.newLoRa.findIdx? (fun n => decide (n.id = id)) = some i
            ∧ (removeDevice h id r).2.newLoRa = r.newLoRa.eraseIdx i) := by
  unfold removeDevice
  rw [findLoop_ids]
  cases hf : r.newLoRa.findIdx? (fun n => decide (n.id = id)) with
  | none => exact Or.inl ⟨findIdx_eq_none.mp hf, rfl⟩
  | some i =>
      have hmem : id ∈ r.ids := by
        by_contra hn
        rw [findIdx_eq_none.mpr hn] at hf
        exact absurd hf (by simp)
      obtain ⟨hi, -, -⟩ := List.findIdx?_eq_some_iff_getElem.mp hf
      refine Or.inr ⟨hmem, rfl, i, rfl, ?_⟩
      simp only [syncListToFile_newLoRa]
      exact take_shiftLoop r.newLoRa hi

/-- `add_device` never makes the registry smaller. -/
theorem nodeCount_le_addDevice (h : Host) (id : UInt32) (r : Registry) :
    r.nodeCount ≤ (addDevice h id r).2.nodeCount := by
  rw [addDevice_eq]
  unfold Registry.nodeCount
  by_cases hid : id ∈ r.ids
  · rw [if_pos hid]
  · rw [if_neg hid, syncListToFile_newLoRa, List.length_append]
    omega

/-- `remove_device` takes one record away, or none. -/
theorem nodeCount_removeDevice (h : Host) (id : UInt32) (r : Registry) :
    (id ∉ r.ids ∧ (removeDevice h id r).2.nodeCount = r.nodeCount)
      ∨ (id ∈ r.ids ∧ (removeDevice h id r).2.nodeCount + 1 = r.nodeCount) := by
  rcases removeDevice_newLoRa h id r with ⟨hid, hout⟩ | ⟨hid, -, i, hi, hout⟩
  · exact Or.inl ⟨hid, by rw [hout]⟩
  · obtain ⟨hlt, -, -⟩ := List.findIdx?_eq_some_iff_getElem.mp hi
    refine Or.inr ⟨hid, ?_⟩
    unfold Registry.nodeCount
    rw [hout, List.length_eraseIdx_of_lt hlt]
    omega

end LoRaGateway
