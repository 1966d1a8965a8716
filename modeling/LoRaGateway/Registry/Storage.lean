/-
  LoRaGateway.Registry.Storage
  ────────────────────────────
  **THE BYTES BEHIND THE REGISTRY.**

  `newLoRa` is a block of allocated bytes with `node_count` packed records of
  `sizeof(struct LoRa_node)` bytes.  Three places allocate it: `calloc` at the
  first add, `realloc` at a later one, and `realloc` at a removal — the last
  with `sizeof(uint32_t)` for each record.  An access outside the block has no
  result here.

  The requests to the database and `sync_list_to_file` only read; they are left
  out (`cut_block` says how little is left for them to read after a removal).

    • `Heap.add_holds` — adding is right on every block that holds its records,
    • `Heap.kept_iff` — one call keeps the records unless it removes one of
      several,
    • `storage_kept_iff` — the same for a whole run.
-/
import LoRaGateway.Registry.Def
import LoRaGateway.Lib.Layout
import LoRaGateway.Lib.Run

namespace LoRaGateway

open LoRaGateway.Lib

/-! ## §1. `struct LoRa_node` in memory. -/

/-- The sixteen numbers as they lie in memory. -/
def TimeSet.words (t : TimeSet) : List UInt32 :=
  [t.hStart0.toUInt32, t.hStop0.toUInt32, t.mStart0.toUInt32, t.mStop0.toUInt32,
   t.hStart50.toUInt32, t.hStop50.toUInt32, t.mStart50.toUInt32, t.mStop50.toUInt32,
   t.hStart75.toUInt32, t.hStop75.toUInt32, t.mStart75.toUInt32, t.mStop75.toUInt32,
   t.hStart100.toUInt32, t.hStop100.toUInt32, t.mStart100.toUInt32, t.mStop100.toUInt32]

/-- The `time_set` whose first word is word `o`. -/
def TimeSet.ofWords (w : Nat → UInt32) (o : Nat) : TimeSet :=
  ⟨(w o).toInt32, (w (o + 1)).toInt32, (w (o + 2)).toInt32, (w (o + 3)).toInt32,
   (w (o + 4)).toInt32, (w (o + 5)).toInt32, (w (o + 6)).toInt32, (w (o + 7)).toInt32,
   (w (o + 8)).toInt32, (w (o + 9)).toInt32, (w (o + 10)).toInt32, (w (o + 11)).toInt32,
   (w (o + 12)).toInt32, (w (o + 13)).toInt32, (w (o + 14)).toInt32, (w (o + 15)).toInt32⟩

/-- The record as the header orders it, without padding (`#pragma pack(1)`). -/
def LoRaNode.words (n : LoRaNode) : List UInt32 :=
  n.currentMode :: n.id :: n.lightSensorValue :: n.illuminance :: n.voltage :: n.current
    :: n.workingTime.words

/-- A record that is read from memory. -/
def LoRaNode.ofWords (w : Nat → UInt32) : LoRaNode :=
  ⟨w 0, w 1, w 2, w 3, w 4, w 5, TimeSet.ofWords w 6⟩

theorem LoRaNode.ofWords_words (n : LoRaNode) :
    LoRaNode.ofWords (fun i => (n.words[i]?).getD 0) = n := by
  simp [LoRaNode.ofWords, LoRaNode.words, TimeSet.ofWords, TimeSet.words]

/-- A record: 22 words, 88 bytes. -/
def nodeCodec : Codec LoRaNode where
  size := 88
  encode n := n.words.flatMap word.encode
  decode b := LoRaNode.ofWords (fun i => (word.load b i).getD 0)
  length_encode n := by
    rw [word.length_flatMap]
    rfl
  decode_encode n := by
    have hload : ∀ i, word.load (n.words.flatMap word.encode) i = n.words[i]? :=
      Codec.load_flatMap (by decide) n.words
    simp only [hload]
    exact n.ofWords_words

/-- `sizeof(uint32_t)`. -/
def sizeofUInt32 : Nat := 4

/-! ## §2. The functions on the block. -/

/-- The allocated block and `node_count`. -/
structure Heap where
  newLoRa : List UInt8
  nodeCount : Nat

namespace Heap

/-- `new_lora == NULL`. -/
def empty : Heap := ⟨[], 0⟩

/-- `for (; rounds left; i++) if (newLoRa[i].id == id)`: the place of the record,
or that there is none. -/
def searchLoop (block : List UInt8) (id : UInt32) : Nat → Nat → Option (Option Nat)
  | 0, _ => some none
  | k + 1, i => do
      let node ← nodeCodec.load block i
      if node.id = id then some (some i) else searchLoop block id k (i + 1)

/-- `for (; rounds left; j++) newLoRa[j] = newLoRa[j + 1];` -/
def shiftLoop : Nat → List UInt8 → Nat → Option (List UInt8)
  | 0, block, _ => some block
  | k + 1, block, j => do
      let node ← nodeCodec.load block (j + 1)
      let block' ← nodeCodec.put block j node
      shiftLoop k block' (j + 1)

/-- `LoRa_init(&newLoRa[i], new_id)`. -/
def initAt (block : List UInt8) (i : Nat) (newId : UInt32) : Option (List UInt8) := do
  let node ← nodeCodec.load block i
  nodeCodec.put block i (loRaInit node newId)

/-- `add_device`; `junk` is what `realloc` leaves in the bytes it adds. -/
def addDevice (junk : Nat → UInt8) (newId : UInt32) (h : Heap) : Option Heap :=
  if h.nodeCount = 0 then do
    let block ← initAt (calloc (1 * nodeCodec.size)) 0 newId
    some ⟨block, 1⟩
  else do
    match ← searchLoop h.newLoRa newId h.nodeCount 0 with
    | some _ => some h
    | none =>
        -- one record more than there are
        let grown := realloc h.newLoRa ((h.nodeCount + 1) * nodeCodec.size) junk
        let block ← initAt grown h.nodeCount newId
        some ⟨block, h.nodeCount + 1⟩

/-- `remove_device`. -/
def removeDevice (junk : Nat → UInt8) (deviceId : UInt32) (h : Heap) : Option Heap := do
  match ← searchLoop h.newLoRa deviceId h.nodeCount 0 with
  | none => some h
  | some i =>
      let block ← shiftLoop (h.nodeCount - 1 - i) h.newLoRa i
      let nodeCount := h.nodeCount - 1
      -- `sizeof(uint32_t)`, not `sizeof(struct LoRa_node)`
      some ⟨realloc block (nodeCount * sizeofUInt32) junk, nodeCount⟩

/-- The record of the registered node `id`. -/
def lookup (h : Heap) (id : UInt32) : Option LoRaNode := do
  let found ← searchLoop h.newLoRa id h.nodeCount 0
  let i ← found
  nodeCodec.load h.newLoRa i

end Heap

/-- A call of one of the two functions. -/
inductive HeapOp where
  | add (junk : Nat → UInt8) (id : UInt32)
  | remove (junk : Nat → UInt8) (id : UInt32)

/-- The call, on the memory. -/
def HeapOp.exec (h : Heap) : HeapOp → Option Heap
  | .add junk id => h.addDevice junk id
  | .remove junk id => h.removeDevice junk id

/-- The id that the call removes, if it is registered. -/
def HeapOp.target : HeapOp → Option UInt32
  | .add _ _ => none
  | .remove _ id => some id

/-! ## §3. The invariant, and when a call can keep it. -/

/-- After the call the block has room for all records, and every node other than
the removed one has the record it had. -/
def Kept (h : Heap) (op : HeapOp) : Prop :=
  ∃ h', op.exec h = some h'
    ∧ (h'.nodeCount > 0 → h'.nodeCount * nodeCodec.size ≤ h'.newLoRa.length)
    ∧ ∀ id node, op.target ≠ some id → h.lookup id = some node → h'.lookup id = some node

/-- A call that removes a registered node finds it alone. -/
def RemovesLast (h : Heap) (op : HeapOp) : Prop :=
  ∀ id, op.target = some id → (h.lookup id).isSome → h.nodeCount = 1

/-- The block holds the records `nodes`, `node_count` of them. -/
def Heap.Holds (h : Heap) (nodes : List LoRaNode) : Prop :=
  h.nodeCount = nodes.length ∧ nodeCodec.Holds h.newLoRa nodes

namespace Heap

/-! ## §4. The functions on a block that holds its records. -/

theorem searchLoop_eq {block : List UInt8} {nodes : List LoRaNode}
    (hb : nodeCodec.Holds block nodes) (id : UInt32) :
    ∀ (k i : Nat), i + k = nodes.length →
      searchLoop block id k i = some (findLoop (fun n => decide (n.id = id)) nodes k i) := by
  intro k
  induction k with
  | zero => intro i _; rfl
  | succ k ih =>
      intro i hi
      have hlt : i < nodes.length := by omega
      rw [searchLoop, hb.load hlt, findLoop, List.getElem?_eq_getElem hlt]
      show (if nodes[i].id = id then _ else _) = _
      by_cases hid : nodes[i].id = id
      · rw [if_pos hid]
        simp [hid]
      · rw [if_neg hid, ih (i + 1) (by omega)]
        simp [hid]

/-- Searching the block is searching the records. -/
theorem Holds.search {h : Heap} {nodes : List LoRaNode} (hh : h.Holds nodes) (id : UInt32) :
    searchLoop h.newLoRa id h.nodeCount 0
      = some (nodes.findIdx? (fun n => decide (n.id = id))) := by
  rw [hh.1, searchLoop_eq hh.2 id _ 0 (Nat.zero_add _), findLoop_eq]

theorem Holds.lookup {h : Heap} {nodes : List LoRaNode} (hh : h.Holds nodes) (id : UInt32) :
    h.lookup id = nodes.find? (fun n => decide (n.id = id)) := by
  unfold Heap.lookup
  rw [hh.search, List.find?_eq_bind_findIdx?_getElem?]
  cases hf : nodes.findIdx? (fun n => decide (n.id = id)) with
  | none => rfl
  | some i =>
      obtain ⟨hi, -, -⟩ := List.findIdx?_eq_some_iff_getElem.mp hf
      show nodeCodec.load h.newLoRa i = nodes[i]?
      rw [hh.2.load hi, List.getElem?_eq_getElem hi]

theorem Holds.room {h : Heap} {nodes : List LoRaNode} (hh : h.Holds nodes) :
    h.nodeCount * nodeCodec.size ≤ h.newLoRa.length := by
  rw [hh.1, Nat.mul_comm]
  exact hh.2.length_le

/-- The shift loop on the block is the shift loop on the records. -/
theorem shiftLoop_holds :
    ∀ (k j : Nat) {block : List UInt8} {nodes : List LoRaNode},
      nodeCodec.Holds block nodes → j + k < nodes.length →
        ∃ block', Heap.shiftLoop k block j = some block'
          ∧ block'.length = block.length
          ∧ nodeCodec.Holds block' (Lib.shiftLoop nodes k j) := by
  intro k
  induction k with
  | zero =>
      intro j block nodes hb _
      exact ⟨block, rfl, rfl, hb⟩
  | succ k ih =>
      intro j block nodes hb hj
      have hlt : j + 1 < nodes.length := by omega
      -- one round copies one record down; the others are as before
      obtain ⟨block₁, hput, hb₁⟩ := hb.put (show j < nodes.length by omega) nodes[j + 1]
      obtain ⟨block', hloop, hlen, hb'⟩ := ih (j + 1) hb₁ (by rw [List.length_set]; omega)
      refine ⟨block', ?_, ?_, ?_⟩
      · rw [Heap.shiftLoop, hb.load hlt]
        show (nodeCodec.put block j nodes[j + 1]).bind _ = _
        rw [hput]
        exact hloop
      · rw [hlen, nodeCodec.length_put hput]
      · rw [Lib.shiftLoop, List.getElem?_eq_getElem hlt]
        exact hb'

/-- `LoRa_init` on the cell after the records adds a record. -/
theorem initAt_new {block : List UInt8} {nodes : List LoRaNode}
    (hb : nodeCodec.Holds block nodes) (hlen : nodeCodec.size * (nodes.length + 1) ≤ block.length)
    (id : UInt32) :
    ∃ old block', nodeCodec.load block nodes.length = some old
      ∧ initAt block nodes.length id = some block'
      ∧ nodeCodec.Holds block' (nodes ++ [loRaInit old id]) := by
  obtain ⟨old, hold⟩ : ∃ old, nodeCodec.load block nodes.length = some old :=
    ⟨_, if_pos hlen⟩
  obtain ⟨block', hput, hb'⟩ := hb.put_new hlen (loRaInit old id)
  refine ⟨old, block', hold, ?_, hb'⟩
  unfold initAt
  rw [hold]
  exact hput

/-- `calloc` gives a zero record. -/
theorem load_calloc : nodeCodec.load (calloc (1 * nodeCodec.size)) 0 = some LoRaNode.zero := by
  have hzero : calloc (1 * nodeCodec.size) = [LoRaNode.zero].flatMap nodeCodec.encode := by decide
  rw [hzero]
  exact (Codec.Holds.self [LoRaNode.zero]).load (by decide)

/-- **Adding is right on a block that holds its records**: the block then holds
what `add_device` makes of the array of records, for some record that `realloc`
left in the new bytes. -/
theorem add_holds {h : Heap} {r : Registry} (hh : h.Holds r.newLoRa) (junk : Nat → UInt8)
    (id : UInt32) :
    ∃ fresh h', h.addDevice junk id = some h'
      ∧ ∀ opens, h'.Holds (LoRaGateway.addDevice ⟨fresh, opens⟩ id r).2.newLoRa := by
  simp only [addDevice_eq]
  by_cases h0 : h.nodeCount = 0
  -- the first node: a zeroed block of one record
  · have hnil : r.newLoRa = [] := List.eq_nil_of_length_eq_zero (hh.1.symm.trans h0)
    have hmem : id ∉ r.ids := by simp [Registry.ids, hnil]
    obtain ⟨old, block, hload, hinit, hb⟩ :=
      initAt_new (Codec.Holds.nil (calloc (1 * nodeCodec.size))) (by decide) id
    obtain rfl : LoRaNode.zero = old := Option.some.inj (load_calloc.symm.trans hload)
    refine ⟨LoRaNode.zero, ⟨block, 1⟩, ?_, fun opens => ?_⟩
    · unfold Heap.addDevice
      rw [if_pos h0]
      show (initAt _ 0 id).bind _ = _
      rw [List.length_nil] at hinit
      rw [hinit]
      rfl
    · rw [if_neg hmem]
      simp only [syncListToFile_newLoRa, hnil, List.nil_append]
      have happ : appended ⟨LoRaNode.zero, opens⟩ id r = loRaInit LoRaNode.zero id := by
        unfold appended
        split <;> rfl
      rw [happ]
      exact ⟨rfl, hb⟩
  · by_cases hid : id ∈ r.ids
    -- refused: the block is not touched
    · obtain ⟨i, hi⟩ : ∃ i, r.newLoRa.findIdx? (fun n => decide (n.id = id)) = some i := by
        rw [← Option.isSome_iff_exists, ← Option.ne_none_iff_isSome]
        exact fun hnone => findIdx_eq_none.mp hnone hid
      refine ⟨LoRaNode.zero, h, ?_, fun opens => ?_⟩
      · unfold Heap.addDevice
        rw [if_neg h0, hh.search, hi]
        rfl
      · rw [if_pos hid]
        exact hh
    · have hsearch := hh.search id
      rw [findIdx_eq_none.mpr hid] at hsearch
      have hroom : nodeCodec.size * r.newLoRa.length ≤ (h.nodeCount + 1) * nodeCodec.size := by
        rw [hh.1, Nat.mul_comm]
        exact Nat.mul_le_mul_right _ (Nat.le_succ _)
      -- `realloc` keeps the records and gives room for one more, with what it finds there
      obtain ⟨old, block, -, hinit, hb⟩ :=
        initAt_new (hh.2.realloc hroom junk)
          (by rw [length_realloc, hh.1, Nat.mul_comm]) id
      refine ⟨old, ⟨block, h.nodeCount + 1⟩, ?_, fun opens => ?_⟩
      · unfold Heap.addDevice
        rw [if_neg h0, hsearch]
        show (initAt _ h.nodeCount id).bind _ = _
        rw [hh.1] at hinit ⊢
        rw [hinit]
        rfl
      · rw [if_neg hid]
        simp only [syncListToFile_newLoRa]
        have happ : appended ⟨old, opens⟩ id r = loRaInit old id := by
          unfold appended
          rw [if_neg (by rw [Registry.nodeCount, ← hh.1]; exact h0)]
        rw [happ]
        refine ⟨?_, hb⟩
        show h.nodeCount + 1 = _
        rw [List.length_append, hh.1]
        rfl

/-- **Removing a registered node cuts the block to four bytes for each record
that is left**, after the loop has moved the records as it should. -/
theorem remove_cuts {h : Heap} {nodes : List LoRaNode} (hh : h.Holds nodes) (junk : Nat → UInt8)
    {id : UInt32} {i : Nat} (hi : nodes.findIdx? (fun n => decide (n.id = id)) = some i) :
    ∃ block, nodeCodec.Holds block (Lib.shiftLoop nodes (nodes.length - 1 - i) i)
      ∧ h.removeDevice junk id
          = some ⟨realloc block ((nodes.length - 1) * sizeofUInt32) junk, nodes.length - 1⟩ := by
  obtain ⟨hlt, -, -⟩ := List.findIdx?_eq_some_iff_getElem.mp hi
  obtain ⟨block, hloop, -, hb⟩ := shiftLoop_holds (nodes.length - 1 - i) i hh.2 (by omega)
  refine ⟨block, hb, ?_⟩
  unfold Heap.removeDevice
  rw [hh.search, hi]
  show (Heap.shiftLoop (h.nodeCount - 1 - i) h.newLoRa i).bind _ = _
  rw [hh.1, hloop]
  rfl

/-- A block cut that way ends before its last record. -/
theorem cut_block {block : List UInt8} {n : Nat} (hn : 0 < n) (junk : Nat → UInt8) :
    nodeCodec.load (realloc block (n * sizeofUInt32) junk) (n - 1) = none := by
  apply nodeCodec.load_eq_none
  rw [length_realloc]
  show n * 4 < 88 * (n - 1 + 1)
  omega

/-! ## §5. When the records are kept. -/

theorem Holds.lookup_isSome {h : Heap} {nodes : List LoRaNode} (hh : h.Holds nodes) {id : UInt32} :
    (h.lookup id).isSome ↔ ∃ i, nodes.findIdx? (fun n => decide (n.id = id)) = some i := by
  rw [hh.lookup, List.find?_isSome, ← Option.isSome_iff_exists, List.findIdx?_isSome, List.any_eq_true]

/-- Adding keeps every record. -/
theorem kept_add {h : Heap} {nodes : List LoRaNode} (hh : h.Holds nodes) (junk : Nat → UInt8)
    (id : UInt32) : Kept h (.add junk id) := by
  obtain ⟨fresh, h', hexec, hh'⟩ := add_holds (r := ⟨nodes, none, []⟩) hh junk id
  have hh'' := hh' true
  refine ⟨h', hexec, fun _ => hh''.room, fun id' node _ hnode => ?_⟩
  rw [hh.lookup] at hnode
  rw [hh''.lookup, addDevice_eq]
  split
  next => exact hnode
  next => simp only [syncListToFile_newLoRa, List.find?_append, hnode, Option.some_or]

/-- **One call keeps the records exactly when it does not remove one of several.** -/
theorem kept_iff {h : Heap} {nodes : List LoRaNode} (hh : h.Holds nodes) (op : HeapOp) :
    Kept h op ↔ RemovesLast h op := by
  cases op with
  | add junk id =>
      constructor
      · intro _ id' hid'
        exact absurd hid' (by simp [HeapOp.target])
      · intro _
        exact kept_add hh junk id
  | remove junk id =>
      cases hf : nodes.findIdx? (fun n => decide (n.id = id)) with
      | none =>
          have hexec : h.removeDevice junk id = some h := by
            unfold Heap.removeDevice
            rw [hh.search, hf]
            rfl
          constructor
          · intro _ id' hid' hsome
            obtain rfl : id = id' := Option.some.inj hid'
            obtain ⟨i, hi⟩ := hh.lookup_isSome.mp hsome
            rw [hf] at hi
            exact absurd hi (by simp)
          · intro _
            exact ⟨h, hexec, fun _ => hh.room, fun _ _ _ hnode => hnode⟩
      | some i =>
          obtain ⟨block, -, hexec⟩ := remove_cuts hh junk hf
          constructor
          · -- two records or more: four bytes are not enough for one of them
            rintro ⟨h', hexec', hroom, -⟩ id' - -
            obtain rfl := Option.some.inj (hexec.symm.trans hexec')
            simp only [length_realloc] at hroom
            by_contra hne
            obtain ⟨hlt, -, -⟩ := List.findIdx?_eq_some_iff_getElem.mp hf
            rw [hh.1] at hne
            have hcut : (nodes.length - 1) * 88 ≤ (nodes.length - 1) * 4 := hroom (by omega)
            omega
          · intro hlast
            -- no record is left, so there is nothing to lose
            have hone : nodes.length = 1 := by
              rw [← hh.1]
              exact hlast id rfl (hh.lookup_isSome.mpr ⟨i, hf⟩)
            refine ⟨_, hexec, fun hpos => ?_, fun id' node hid' hnode => ?_⟩
            · simp [hone] at hpos
            · -- the only record is the removed one
              obtain ⟨n, rfl⟩ := List.length_eq_one_iff.mp hone
              have hid : n.id = id ∧ 0 = i := by simpa using hf
              rw [hh.lookup] at hnode
              have hkey : node.id = id' := by simpa using List.find?_some hnode
              have hmem : node = n := List.mem_singleton.mp (List.mem_of_find?_eq_some hnode)
              rw [hmem, hid.1] at hkey
              exact absurd (congrArg some hkey) hid'

/-- A call that keeps the records leaves a block that holds them. -/
theorem exec_holds {h h' : Heap} {nodes : List LoRaNode} (hh : h.Holds nodes) {op : HeapOp}
    (hlast : RemovesLast h op) (hexec : op.exec h = some h') : ∃ nodes', h'.Holds nodes' := by
  cases op with
  | add junk id =>
      obtain ⟨fresh, h'', hexec', hh'⟩ := add_holds (r := ⟨nodes, none, []⟩) hh junk id
      obtain rfl : h'' = h' := Option.some.inj (hexec'.symm.trans hexec)
      exact ⟨_, hh' true⟩
  | remove junk id =>
      cases hf : nodes.findIdx? (fun n => decide (n.id = id)) with
      | none =>
          have hsame : h.removeDevice junk id = some h := by
            unfold Heap.removeDevice
            rw [hh.search, hf]
            rfl
          obtain rfl : h = h' := Option.some.inj (hsame.symm.trans hexec)
          exact ⟨nodes, hh⟩
      | some i =>
          obtain ⟨block, -, hcut⟩ := remove_cuts hh junk hf
          obtain rfl := Option.some.inj (hcut.symm.trans hexec)
          have hone : nodes.length = 1 := by
            rw [← hh.1]
            exact hlast id rfl (hh.lookup_isSome.mpr ⟨i, hf⟩)
          exact ⟨[], by rw [hone]; rfl, Codec.Holds.nil _⟩

end Heap

/-- Calls of the two functions, one after the other. -/
def heapStep (h : Heap) (op : HeapOp) : Option Heap := op.exec h

/-- **THE RECORDS SURVIVE EXACTLY THE RUNS THAT REMOVE A NODE ONLY WHEN IT IS ALONE.** -/
theorem storage_kept_iff (ops : List HeapOp) :
    Along heapStep Kept Heap.empty ops ↔ Along heapStep RemovesLast Heap.empty ops := by
  refine along_iff (I := fun h => ∃ nodes, h.Holds nodes) ?_ ?_ ops ⟨[], rfl, Codec.Holds.nil _⟩
  · rintro h op ⟨nodes, hh⟩
    exact Heap.kept_iff hh op
  · rintro h op h' ⟨nodes, hh⟩ hlast hexec
    exact Heap.exec_holds hh hlast hexec

/-- Two nodes, then the first one removed: four bytes are left for the second. -/
theorem storage_cut_below_record :
    ¬ Along heapStep Kept Heap.empty
      [.add (fun _ => 0) 1, .add (fun _ => 0) 2, .remove (fun _ => 0) 1] := by
  rintro ⟨-, h⟩
  have hempty : Heap.empty.Holds (Registry.empty none).newLoRa := ⟨rfl, Codec.Holds.nil _⟩
  obtain ⟨fresh₁, h₁, hadd₁, hh₁⟩ := Heap.add_holds hempty (fun _ => 0) 1
  obtain ⟨-, h⟩ := h h₁ hadd₁
  obtain ⟨fresh₂, h₂, hadd₂, hh₂⟩ := Heap.add_holds (hh₁ true) (fun _ => 0) 2
  obtain ⟨hkept, -⟩ := h h₂ hadd₂
  have hlast : RemovesLast h₂ (.remove (fun _ => 0) 1) := (Heap.kept_iff (hh₂ true) _).mp hkept
  have hone : h₂.nodeCount = 1 := hlast 1 rfl ((hh₂ true).lookup_isSome.mpr ⟨0, rfl⟩)
  have htwo : h₂.nodeCount = 2 := (hh₂ true).1
  omega

end LoRaGateway
