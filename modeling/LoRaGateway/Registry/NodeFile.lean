/-
  LoRaGateway.Registry.NodeFile
  ─────────────────────────────
  **START-UP FROM THE NODE FILE, AND WHAT A KILL DURING IT LEAVES.**

  `setup_node` reads the whole file, cuts it into tokens and gives each to
  `add_device` — which truncates and rewrites the very file that is being
  loaded.  While `n` ids load, the file therefore runs through the contents
  "empty, first id, first two ids, …" once for every id.  `crashImage` names the
  content after any number of these operations; `setupNode_crashImage` says what
  a second start makes of it.
-/
import LoRaGateway.Registry.Def
import Mathlib.Data.List.Nodup

namespace LoRaGateway

open LoRaGateway.Lib

/-! ## §1. `setup_node`. -/

/-- What the C library answers during start-up: whether the file opens, whether
the buffer is allocated, and what each `add_device` finds. -/
structure SetupHost where
  opens : Bool
  allocates : Bool
  call : Nat → Host

/-- `while (token) { add_device(atoi(token)); token = strtok(NULL, " "); }`, with
at most `k` rounds. -/
def setupLoop (call : Nat → Host) : Nat → List UInt8 → Registry → Registry
  | 0, _, r => r
  | k + 1, text, r =>
      match strtok 32 text with
      | none => r
      | some (token, rest) =>
          setupLoop call k rest (addDevice (call k) (atoi token).toUInt32 r).2

/-- `setup_node`.  A token is at least one byte, so the length of the file bounds
the rounds. -/
def setupNode (s : SetupHost) (r : Registry) : Int × Registry :=
  match r.nodeFile with
  | none => (-1, r)
  | some f =>
      if s.opens then
        if f.contents.length > 0 then
          if s.allocates then
            -- the tokens come from the copy in memory, while `add_device` rewrites the file
            let r' := setupLoop s.call f.contents.length (cstr f.contents) r
            (r'.nodeCount, r')
          else (-1, r)
        else (r.nodeCount, r)
      else (-1, r)

/-! ## §2. The text of a registry. -/

/-- What `sync_list_to_file` leaves in the file for these ids. -/
def encodeIds (ids : List UInt32) : List UInt8 := ids.flatMap oneNode

theorem replay_append (text : List UInt8) (ops ops' : List FileOp) :
    replay text (ops ++ ops') = replay (replay text ops) ops' := List.foldl_append

theorem syncOps_eq (ids : List UInt32) :
    syncOps ids = FileOp.ftruncate :: ids.map (fun id => FileOp.write (oneNode id)) := by
  unfold syncOps
  split
  next => rfl
  next h =>
      have hnil : ids = [] := List.eq_nil_of_length_eq_zero (by omega)
      rw [hnil]
      rfl

theorem length_syncOps (ids : List UInt32) : (syncOps ids).length = ids.length + 1 := by
  rw [syncOps_eq, List.length_cons, List.length_map]

theorem replay_writes (text : List UInt8) (ids : List UInt32) :
    replay text (ids.map (fun id => FileOp.write (oneNode id))) = text ++ encodeIds ids := by
  induction ids generalizing text with
  | nil => simp [replay, encodeIds]
  | cons id ids ih =>
      show replay (text ++ oneNode id) _ = _
      rw [ih]
      simp [encodeIds]

/-- The first write lands in an empty file, and every prefix of the writes leaves
the text of a prefix of the ids. -/
theorem replay_take_syncOps (text : List UInt8) (ids : List UInt32) (j : Nat) :
    replay text ((syncOps ids).take (j + 1)) = encodeIds (ids.take j) := by
  rw [syncOps_eq, List.take_succ_cons, ← List.map_take]
  show replay [] _ = _
  rw [replay_writes, List.nil_append]

theorem replay_syncOps (text : List UInt8) (ids : List UInt32) :
    replay text (syncOps ids) = encodeIds ids := by
  have h := replay_take_syncOps text ids ids.length
  rw [List.take_of_length_le (by rw [length_syncOps]), List.take_length] at h
  exact h

theorem length_le_encodeIds (ids : List UInt32) : ids.length ≤ (encodeIds ids).length := by
  induction ids with
  | nil => simp
  | cons id ids ih =>
      have hone : 0 < (oneNode id).length := by simp [oneNode]
      simp only [encodeIds, List.flatMap_cons, List.length_append, List.length_cons] at ih ⊢
      omega

theorem zero_not_mem_encodeIds (ids : List UInt32) : (0 : UInt8) ∉ encodeIds ids := by
  unfold encodeIds
  rw [List.mem_flatMap]
  rintro ⟨id, -, h⟩
  rcases List.mem_append.mp h with h | h
  · exact zero_not_mem_decimal _ h
  · exact absurd (List.mem_singleton.mp h) (by decide)

/-! ## §3. Loading a text that `sync_list_to_file` wrote. -/

/-- The registry after the ids of `more` are added to those of `r`. -/
def addAll (call : Nat → Host) : Nat → List UInt32 → Registry → Registry
  | _, [], r => r
  | k, id :: more, r => addAll call (k - 1) more (addDevice (call (k - 1)) id r).2

/-- Loading a written text adds its ids one by one. -/
theorem setupLoop_encodeIds (call : Nat → Host) (ids : List UInt32) :
    ∀ {k : Nat} (r : Registry), ids.length ≤ k →
      setupLoop call k (encodeIds ids) r = addAll call k ids r := by
  induction ids with
  | nil =>
      intro k r _
      cases k with
      | zero => rfl
      | succ k => rfl
  | cons id ids ih =>
      intro k r hk
      cases k with
      | zero => simp at hk
      | succ k =>
          -- a printed id has no space in it, so the first token is exactly that id
          obtain ⟨hne, hsp⟩ := printId_token id
          have hcut : encodeIds (id :: ids) = printId id ++ 32 :: encodeIds ids := by
            simp [encodeIds, oneNode]
          rw [hcut, setupLoop, strtok_append hne hsp]
          simp only [atoi_printId]
          rw [ih _ (by simpa using hk)]
          rfl

/-- The file of a registry, once it is open and being rewritten. -/
def logOf (r : Registry) : List FileOp := (r.nodeFile.map NodeFile.ops).getD []

/-- Adding one new id: it comes last, and the file is rewritten with all ids. -/
theorem addDevice_new {h : Host} (hopen : h.opens = true) {id : UInt32} {r : Registry}
    {f : NodeFile} (hf : r.nodeFile = some f) (hid : id ∉ r.ids) :
    (addDevice h id r).2.ids = r.ids ++ [id]
      ∧ (addDevice h id r).2.nodeFile = some ⟨f.loaded, f.ops ++ syncOps (r.ids ++ [id])⟩ := by
  have hids : (r.newLoRa ++ [appended h id r]).map LoRaNode.id = r.ids ++ [id] := by
    simp [Registry.ids]
  rw [addDevice_eq, if_neg hid]
  constructor
  · rw [syncListToFile_ids]
    exact hids
  · simp only [syncListToFile, hf, hopen, Registry.ids, hids, if_true]

/-- The file operations of adding the ids of `more` to a registry that holds `ids`. -/
def addAllOps : List UInt32 → List UInt32 → List FileOp
  | _, [] => []
  | ids, id :: more => syncOps (ids ++ [id]) ++ addAllOps (ids ++ [id]) more

theorem addAll_spec {call : Nat → Host} (hopen : ∀ k, (call k).opens = true)
    (more : List UInt32) :
    ∀ (k : Nat) (r : Registry) (f : NodeFile), r.nodeFile = some f → (r.ids ++ more).Nodup →
      (addAll call k more r).ids = r.ids ++ more
        ∧ (addAll call k more r).nodeFile
            = some ⟨f.loaded, f.ops ++ addAllOps r.ids more⟩ := by
  induction more with
  | nil =>
      intro k r f hf _
      refine ⟨by simp [addAll], ?_⟩
      rw [addAll, hf, addAllOps, List.append_nil]
  | cons id more ih =>
      intro k r f hf hnd
      -- the ids are distinct: none of them is refused
      have hid : id ∉ r.ids := by
        intro hm
        exact (List.nodup_append'.mp hnd).2.2 hm List.mem_cons_self
      obtain ⟨hids, hfile⟩ := addDevice_new (hopen (k - 1)) hf hid
      have hnd' : ((addDevice (call (k - 1)) id r).2.ids ++ more).Nodup := by
        rw [hids, List.append_assoc]
        exact hnd
      obtain ⟨h1, h2⟩ := ih (k - 1) _ _ hfile hnd'
      rw [addAll, h1, h2, hids]
      refine ⟨by rw [List.append_assoc]; rfl, ?_⟩
      rw [addAllOps, List.append_assoc]

/-! ## §4. A kill during start-up. -/

/-- The answers of a start-up in which every call succeeds. -/
structure SetupHost.Ok (s : SetupHost) : Prop where
  opens : s.opens = true
  allocates : s.allocates = true
  call : ∀ k, (s.call k).opens = true

/-- The gateway at process start, with this text in the node file. -/
def boot (text : List UInt8) : Registry := Registry.empty (some ⟨text, []⟩)

/-- The file operations of a whole `setup_node` on this text. -/
def setupOps (s : SetupHost) (text : List UInt8) : List FileOp :=
  logOf (setupNode s (boot text)).2

/-- The node file left behind when the process is killed after the first `t` file
operations of `setup_node`. -/
def crashImage (s : SetupHost) (text : List UInt8) (t : Nat) : List UInt8 :=
  replay text ((setupOps s text).take t)

/-- The ids that a complete `setup_node` loads from this text. -/
def loadedIds (s : SetupHost) (text : List UInt8) : List UInt32 :=
  (setupNode s (boot text)).2.ids

theorem setupNode_encodeIds {s : SetupHost} (hs : s.Ok) {ids : List UInt32} (hnd : ids.Nodup) :
    loadedIds s (encodeIds ids) = ids ∧ setupOps s (encodeIds ids) = addAllOps [] ids := by
  have hcont : (⟨encodeIds ids, []⟩ : NodeFile).contents = encodeIds ids := rfl
  unfold setupOps loadedIds setupNode boot Registry.empty
  simp only [hcont, hs.opens, hs.allocates, if_true, cstr_eq_self (zero_not_mem_encodeIds ids)]
  by_cases h0 : (encodeIds ids).length > 0
  · rw [if_pos h0, setupLoop_encodeIds s.call ids _ (length_le_encodeIds ids)]
    obtain ⟨h1, h2⟩ := addAll_spec hs.call ids (encodeIds ids).length
      ⟨[], some ⟨encodeIds ids, []⟩, []⟩ ⟨encodeIds ids, []⟩ rfl (by simpa [Registry.ids] using hnd)
    refine ⟨by rw [h1]; rfl, ?_⟩
    unfold logOf
    rw [h2]
    rfl
  · -- a file of length zero holds no id: nothing is loaded and nothing is written
    have hnil : ids = [] := by
      have := length_le_encodeIds ids
      exact List.eq_nil_of_length_eq_zero (by omega)
    rw [if_neg h0, hnil]
    exact ⟨rfl, rfl⟩

/-- After `t > 0` of the operations the file holds the text of a prefix of the
ids, and of all of them only at the very end. -/
theorem replay_take_addAllOps (more : List UInt32) :
    ∀ (text : List UInt8) (ids : List UInt32) (t : Nat), 0 < t →
      t ≤ (addAllOps ids more).length →
      ∃ j, replay text ((addAllOps ids more).take t) = encodeIds ((ids ++ more).take j)
        ∧ j ≤ (ids ++ more).length
        ∧ (j = (ids ++ more).length ↔ t = (addAllOps ids more).length) := by
  induction more with
  | nil =>
      intro text ids t ht hle
      simp only [addAllOps, List.length_nil] at hle
      omega
  | cons id more ih =>
      intro text ids t ht hle
      have hsplit : ids ++ id :: more = (ids ++ [id]) ++ more := by simp
      have hlen : (syncOps (ids ++ [id])).length = ids.length + 2 := by
        rw [length_syncOps]
        simp
      rw [addAllOps, List.length_append, hlen] at hle
      rw [hsplit, addAllOps, List.take_append, hlen, replay_append]
      by_cases hin : t ≤ ids.length + 2
      · -- the kill falls into the rewriting for `id`
        obtain ⟨j, rfl⟩ : ∃ j, t = j + 1 := ⟨t - 1, by omega⟩
        refine ⟨j, ?_, by simp; omega, ?_⟩
        · have hj : j ≤ (ids ++ [id]).length := by
            simp only [List.length_append, List.length_singleton]
            omega
          have htake : ((ids ++ [id]) ++ more).take j = (ids ++ [id]).take j :=
            List.take_append_of_le_length hj
          rw [show j + 1 - (ids.length + 2) = 0 by omega, List.take_zero, replay_take_syncOps,
            htake]
          rfl
        · simp only [List.length_append, List.length_singleton, hlen]
          -- all ids are there only after the last write of the last rewriting
          cases more with
          | nil =>
              simp only [addAllOps, List.length_nil]
              omega
          | cons id' more' =>
              have hpos : 0 < (addAllOps (ids ++ [id]) (id' :: more')).length := by
                rw [addAllOps, List.length_append, length_syncOps]
                omega
              simp only [List.length_cons]
              omega
      · -- that rewriting is over: the kill falls into a later one
        obtain ⟨j, himg, hj, hiff⟩ :=
          ih (replay text (syncOps (ids ++ [id]))) (ids ++ [id]) (t - (ids.length + 2))
            (by omega) (by omega)
        refine ⟨j, ?_, hj, ?_⟩
        · rw [List.take_of_length_le (by rw [hlen]; omega)]
          exact himg
        · rw [hiff, List.length_append, hlen]
          omega

/-- Recovery after a kill gives a prefix of the ids; all of them exactly when no
file operation was done or all were. -/
theorem loadedIds_crashImage {s s' : SetupHost} (hs : s.Ok) (hs' : s'.Ok) {ids : List UInt32}
    (hnd : ids.Nodup) (t : Nat) (ht : t ≤ (setupOps s (encodeIds ids)).length) :
    ∃ j, loadedIds s' (crashImage s (encodeIds ids) t) = ids.take j ∧ j ≤ ids.length
      ∧ (j = ids.length ↔ t = 0 ∨ t = (setupOps s (encodeIds ids)).length) := by
  have hops := (setupNode_encodeIds hs hnd).2
  unfold crashImage
  rw [hops] at ht ⊢
  by_cases h0 : t = 0
  -- nothing was done yet: the old file loads
  · refine ⟨ids.length, ?_, Nat.le_refl _, by simp [h0]⟩
    rw [h0, List.take_zero, List.take_length]
    exact (setupNode_encodeIds hs' hnd).1
  · obtain ⟨j, himg, hj, hiff⟩ :=
      replay_take_addAllOps ids (encodeIds ids) [] t (by omega) ht
    rw [List.nil_append] at himg hj hiff
    refine ⟨j, ?_, hj, ?_⟩
    · rw [himg]
      exact (setupNode_encodeIds hs' (hnd.sublist (List.take_sublist j ids))).1
    · rw [hiff]
      simp [h0]

/-! ## §5. When start-up survives a kill. -/

/-- The node file that `sync_list_to_file` leaves for these ids, whatever it held. -/
def syncedFile (old : List UInt8) (ids : List UInt32) : List UInt8 := replay old (syncOps ids)

/-- **START-UP IS SAFE ONLY BEFORE ITS FIRST FILE OPERATION AND AFTER ITS LAST.**
A process killed after `t` of the file operations of `setup_node` leaves a file
from which the same ids load in the same order if and only if `t` is none of them
or all of them. -/
theorem setup_crash_safe_iff (s s' : SetupHost) (hs : s.Ok) (hs' : s'.Ok) (old : List UInt8)
    (ids : List UInt32) (hnd : ids.Nodup) (t : Nat)
    (ht : t ≤ (setupOps s (syncedFile old ids)).length) :
    loadedIds s' (crashImage s (syncedFile old ids) t) = ids
      ↔ t = 0 ∨ t = (setupOps s (syncedFile old ids)).length := by
  unfold syncedFile at ht ⊢
  rw [replay_syncOps] at ht ⊢
  obtain ⟨j, hload, hj, hiff⟩ := loadedIds_crashImage hs hs' hnd t ht
  rw [hload, ← hiff]
  constructor
  -- a prefix that is the whole list has its length
  · intro h
    have hlen := congrArg List.length h
    rw [List.length_take] at hlen
    omega
  · intro h
    rw [h, List.take_length]

/-- Every call succeeds, and `realloc` hands out zeroed records. -/
def quietHost : SetupHost := ⟨true, true, fun _ => ⟨LoRaNode.zero, true⟩⟩

theorem quietHost_ok : quietHost.Ok := ⟨rfl, rfl, fun _ => rfl⟩

/-- Killed after the very first operation, the truncation, with two ids in the
file: the next start finds none. -/
theorem setup_crash_loses_ids :
    quietHost.Ok ∧ [(7 : UInt32), 9].Nodup
      ∧ 1 ≤ (setupOps quietHost (syncedFile [] [7, 9])).length
      ∧ loadedIds quietHost (crashImage quietHost (syncedFile [] [7, 9]) 1) ≠ [7, 9] :=
  ⟨quietHost_ok, by decide⟩

theorem setup_crash_safe_at_end :
    loadedIds quietHost (crashImage quietHost (syncedFile [] [7, 9])
        (setupOps quietHost (syncedFile [] [7, 9])).length) = [7, 9]
      ↔ (setupOps quietHost (syncedFile [] [7, 9])).length = 0
        ∨ (setupOps quietHost (syncedFile [] [7, 9])).length
            = (setupOps quietHost (syncedFile [] [7, 9])).length :=
  setup_crash_safe_iff quietHost quietHost quietHost_ok quietHost_ok [] [7, 9] (by decide) _
    (Nat.le_refl _)

end LoRaGateway
