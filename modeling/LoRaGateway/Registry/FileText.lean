/-
  LoRaGateway.Registry.FileText
  ─────────────────────────────
  **THE TWO ARRAYS OF THE NODE FILE**: `one_node`, which takes the text of one
  record, and the block that `setup_node` reads the file into.

  The array has 11 bytes for the text, its space and its NUL; the block has
  `st_size` bytes, and nothing writes a NUL behind them.

    • `syncOpsIn_isSome_iff` — the records fit while every id prints in nine
      characters, the sign included,
    • `scanLoop_of_mem`, `scanLoop_of_not_mem` — the token loop stays inside the
      block exactly when the block holds a NUL,
    • `setupNodeIn_written` — a file that `sync_list_to_file` wrote holds none.
-/
import LoRaGateway.Registry.NodeFile
import LoRaGateway.Lib.BufferTokens

namespace LoRaGateway

open LoRaGateway.Lib

/-! ## §1. `one_node`. -/

/-- `memset(one_node, 0, 11); sprintf(one_node, "%d ", id);` — the NUL is the last
byte that `sprintf` stores. -/
def formatNode (id : UInt32) : Option (Buffer 11) :=
  (Buffer.zero 11).store 0 (oneNode id ++ [0])

/-- The loop of `sync_list_to_file`: `write(fd, one_node, strlen(one_node))`. -/
def syncLoop : List UInt32 → Option (List FileOp)
  | [] => some []
  | id :: ids =>
      (formatNode id).bind fun node =>
        (syncLoop ids).map (fun ops => FileOp.write (cstr node.bytes) :: ops)

/-- The file operations of `sync_list_to_file`, with the array of one record. -/
def syncOpsIn (ids : List UInt32) : Option (List FileOp) :=
  if ids.length > 0 then (syncLoop ids).map (fun ops => FileOp.ftruncate :: ops)
  else some [FileOp.ftruncate]

theorem zero_not_mem_oneNode (id : UInt32) : (0 : UInt8) ∉ oneNode id := by
  intro h
  rcases List.mem_append.mp h with h | h
  · exact zero_not_mem_decimal _ h
  · exact absurd (List.mem_singleton.mp h) (by decide)

/-- Eleven bytes: nine for the number, one for the space, one for the NUL. -/
theorem length_record (id : UInt32) :
    (oneNode id ++ [0]).length = (printId id).length + 2 := by
  rw [oneNode, List.length_append, List.length_append]
  rfl

theorem formatNode_of_le {id : UInt32} (h : (printId id).length ≤ 9) :
    ∃ node, formatNode id = some node ∧ cstr node.bytes = oneNode id := by
  have hfit : (oneNode id ++ [0]).length ≤ 11 := by
    rw [length_record]
    omega
  refine ⟨_, Buffer.store_zero hfit, ?_⟩
  rw [cstr_pad, cstr_append (zero_not_mem_oneNode id)]
  exact List.append_nil _

theorem formatNode_of_gt {id : UInt32} (h : 9 < (printId id).length) : formatNode id = none :=
  Buffer.store_eq_none (by
    rw [length_record]
    omega)

/-- `%d` reads the id as a signed number: a large one prints with a minus sign. -/
theorem length_printId_le_iff (id : UInt32) :
    (printId id).length ≤ 9 ↔ -100000000 < id.toInt32.toInt ∧ id.toInt32.toInt < 1000000000 := by
  have h₈ : -(10 ^ 8 : Nat) = (-100000000 : Int) := by decide
  have h₉ : ((10 ^ 9 : Nat) : Int) = 1000000000 := by decide
  rw [printId, length_decimal_le_iff (k := 7), h₈, h₉]

theorem syncLoop_of_le {ids : List UInt32} (h : ∀ id ∈ ids, (printId id).length ≤ 9) :
    syncLoop ids = some (ids.map (fun id => FileOp.write (oneNode id))) := by
  induction ids with
  | nil => rfl
  | cons id ids ih =>
      obtain ⟨node, hnode, htext⟩ := formatNode_of_le (h id List.mem_cons_self)
      have hrest := ih (fun id' hid => h id' (List.mem_cons_of_mem id hid))
      rw [syncLoop, hnode, Option.bind_some, hrest, htext]
      rfl

theorem syncLoop_of_gt {ids : List UInt32} {id : UInt32} (hid : id ∈ ids)
    (h : 9 < (printId id).length) : syncLoop ids = none := by
  induction ids with
  | nil => cases hid
  | cons id' ids ih =>
      rw [syncLoop]
      rcases List.mem_cons.mp hid with rfl | hid
      · rw [formatNode_of_gt h]
        rfl
      -- the record of `id'` may fit: a later one does not
      · rw [ih hid]
        cases formatNode id' with
        | none => rfl
        | some node => rfl

/-- While the records fit, the file operations are those of `syncOps`. -/
theorem syncOpsIn_of_le {ids : List UInt32} (h : ∀ id ∈ ids, (printId id).length ≤ 9) :
    syncOpsIn ids = some (syncOps ids) := by
  unfold syncOpsIn syncOps
  split
  next =>
      rw [syncLoop_of_le h]
      rfl
  next => rfl

theorem syncOpsIn_of_gt {ids : List UInt32} {id : UInt32} (hid : id ∈ ids)
    (h : 9 < (printId id).length) : syncOpsIn ids = none := by
  unfold syncOpsIn
  rw [if_pos (List.length_pos_of_mem hid), syncLoop_of_gt hid h]
  rfl

theorem syncOpsIn_isSome_iff (ids : List UInt32) :
    (syncOpsIn ids).isSome = true ↔ ∀ id ∈ ids, (printId id).length ≤ 9 := by
  constructor
  · intro hsome id hid
    by_contra hgt
    rw [syncOpsIn_of_gt hid (Nat.lt_of_not_le hgt)] at hsome
    cases hsome
  · intro h
    rw [syncOpsIn_of_le h]
    rfl

/-! ## §2. The block that `setup_node` reads the file into. -/

/-- `calloc(st_size, 1)`, then `read`, which gives `got` of the bytes. -/
def fileBuffer (got : Nat) (text : List UInt8) : List UInt8 :=
  text.take got ++ List.replicate (text.length - got) 0

/-- The token loop on the block; nothing when it reads behind the block. -/
def scanLoop (call : Nat → Host) : Nat → List UInt8 → Registry → Option Registry
  | 0, _, r => some r
  | k + 1, s, r =>
      match strtokIn 32 s with
      | none => none
      | some none => some r
      | some (some (token, rest)) =>
          scanLoop call k rest (addDevice (call k) (atoi token).toUInt32 r).2

/-- `setup_node`, with the block that it reads the file into. -/
def setupNodeIn (s : SetupHost) (got : Nat) (r : Registry) : Option (Int × Registry) :=
  match r.nodeFile with
  | none => some (-1, r)
  | some f =>
      if s.opens then
        if f.contents.length > 0 then
          if s.allocates then
            (scanLoop s.call f.contents.length (fileBuffer got f.contents) r).map
              (fun r' => (r'.nodeCount, r'))
          else some (-1, r)
        else some (r.nodeCount, r)
      else some (-1, r)

theorem length_fileBuffer (got : Nat) (text : List UInt8) :
    (fileBuffer got text).length = text.length := by
  rw [fileBuffer, List.length_append, List.length_take, List.length_replicate]
  omega

theorem fileBuffer_of_le {got : Nat} {text : List UInt8} (h : text.length ≤ got) :
    fileBuffer got text = text := by
  rw [fileBuffer, List.take_of_length_le h, Nat.sub_eq_zero_of_le h, List.replicate_zero,
    List.append_nil]

/-- A NUL in the block is one of the file, or one that `read` left there. -/
theorem zero_mem_fileBuffer_iff (got : Nat) (text : List UInt8) :
    (0 : UInt8) ∈ fileBuffer got text ↔ got < text.length ∨ (0 : UInt8) ∈ text := by
  by_cases h : got < text.length
  · have hzero : (0 : UInt8) ∈ List.replicate (text.length - got) 0 :=
      List.mem_replicate.mpr ⟨by omega, rfl⟩
    exact iff_of_true (List.mem_append_right _ hzero) (Or.inl h)
  · rw [fileBuffer_of_le (Nat.le_of_not_lt h)]
    exact ⟨Or.inr, fun hor => hor.resolve_left h⟩

/-! ## §3. The token loop. -/

/-- A NUL ahead stays ahead: the loop is that on the C string, for any number of
rounds. -/
theorem scanLoop_of_mem (call : Nat → Host) (k : Nat) :
    ∀ {s : List UInt8} (r : Registry), (0 : UInt8) ∈ s →
      scanLoop call k s r = some (setupLoop call k (cstr s) r) := by
  induction k with
  | zero =>
      intro s r _
      rfl
  | succ k ih =>
      intro s r hzero
      have hcall := strtokIn_of_mem (show (32 : UInt8) ≠ 0 by decide) hzero
      rw [scanLoop, setupLoop]
      cases hcut : strtok 32 (cstr s) with
      | none =>
          rw [hcut] at hcall
          rw [hcall]
      | some cut =>
          rw [hcut] at hcall
          obtain ⟨token, u⟩ := cut
          obtain ⟨rest, htoken, hrest, hcstr⟩ := hcall
          rw [htoken, ← hcstr]
          exact ih _ hrest

/-- **Without a NUL** the loop does not stop inside the block: every token shortens
what is ahead, and nothing else ends it. -/
theorem scanLoop_of_not_mem (call : Nat → Host) (k : Nat) :
    ∀ {s : List UInt8} (r : Registry), (0 : UInt8) ∉ s → 0 < k → s.length ≤ k →
      scanLoop call k s r = none := by
  induction k with
  | zero =>
      intro s r _ hk _
      exact absurd hk (Nat.lt_irrefl 0)
  | succ k ih =>
      intro s r hzero _ hlen
      rw [scanLoop]
      rcases strtokIn_of_not_mem 32 hzero with hnone | ⟨t, rest, htoken, hrest, hle⟩
      · rw [hnone]
      -- the token and its separator are two bytes, so a round is left
      · rw [htoken]
        exact ih _ hrest (by omega) (by omega)

theorem scanLoop_isSome_iff (call : Nat → Host) {k : Nat} {s : List UInt8} (r : Registry)
    (hk : 0 < k) (hlen : s.length ≤ k) :
    (scanLoop call k s r).isSome = true ↔ (0 : UInt8) ∈ s := by
  constructor
  · intro hsome
    by_contra hzero
    rw [scanLoop_of_not_mem call k r hzero hk hlen] at hsome
    cases hsome
  · intro hzero
    rw [scanLoop_of_mem call k r hzero]
    rfl

/-! ## §4. `setup_node`. -/

/-- With a NUL in a file that was read whole, `setup_node` is the one of `NodeFile`. -/
theorem setupNodeIn_eq (s : SetupHost) {got : Nat} {r : Registry} {f : NodeFile}
    (hf : r.nodeFile = some f) (hgot : f.contents.length ≤ got) (hzero : (0 : UInt8) ∈ f.contents) :
    setupNodeIn s got r = some (setupNode s r) := by
  unfold setupNodeIn setupNode
  rw [hf]
  simp only [fileBuffer_of_le hgot, scanLoop_of_mem s.call _ r hzero, Option.map_some]
  split
  next =>
      split
      next =>
          split
          next => rfl
          next => rfl
      next => rfl
  next => rfl

/-- When the token loop of `setup_node` runs, it needs a NUL. -/
theorem setupNodeIn_isSome_iff (s : SetupHost) (got : Nat) (r : Registry) :
    (setupNodeIn s got r).isSome = true
      ↔ ∀ f, r.nodeFile = some f → s.opens = true → s.allocates = true →
          f.contents = [] ∨ got < f.contents.length ∨ (0 : UInt8) ∈ f.contents := by
  unfold setupNodeIn
  cases hf : r.nodeFile with
  | none => exact iff_of_true rfl (fun f h => absurd h (by simp))
  | some f =>
      simp only [Option.some.injEq, forall_eq']
      by_cases hopens : s.opens = true
      · rw [if_pos hopens]
        by_cases hlen : f.contents.length > 0
        · have hne : f.contents ≠ [] := List.ne_nil_of_length_pos hlen
          rw [if_pos hlen]
          by_cases hallocates : s.allocates = true
          · rw [if_pos hallocates, Option.isSome_map,
              scanLoop_isSome_iff s.call r hlen (Nat.le_of_eq (length_fileBuffer got f.contents)),
              zero_mem_fileBuffer_iff]
            exact ⟨fun h _ _ => Or.inr h, fun h => (h hopens hallocates).resolve_left hne⟩
          · rw [if_neg hallocates]
            exact iff_of_true rfl (fun _ h => absurd h hallocates)
        · have hnil : f.contents = [] := List.eq_nil_of_length_eq_zero (by omega)
          rw [if_neg hlen]
          exact iff_of_true rfl (fun _ _ => Or.inl hnil)
      · rw [if_neg hopens]
        exact iff_of_true rfl (fun h => absurd h hopens)

/-- **A FILE THAT THE GATEWAY WROTE IS READ PAST ITS END**, unless it is empty: a
record ends with a space, and no record has a NUL. -/
theorem setupNodeIn_written {s : SetupHost} (hopens : s.opens = true)
    (hallocates : s.allocates = true) (old : List UInt8) {ids : List UInt32} (hne : ids ≠ [])
    {got : Nat} (hgot : (syncedFile old ids).length ≤ got) :
    setupNodeIn s got (boot (syncedFile old ids)) = none := by
  have htext : syncedFile old ids = encodeIds ids := replay_syncOps old ids
  have hpos : 0 < (encodeIds ids).length := by
    have hle := length_le_encodeIds ids
    have hids := List.length_pos_of_ne_nil hne
    omega
  rw [htext] at hgot ⊢
  rw [← Option.not_isSome_iff_eq_none, setupNodeIn_isSome_iff]
  intro h
  rcases h ⟨encodeIds ids, []⟩ rfl hopens hallocates with hnil | hshort | hzero
  · have hnil : encodeIds ids = [] := hnil
    rw [hnil] at hpos
    exact Nat.lt_irrefl 0 hpos
  · exact Nat.not_lt_of_le hgot hshort
  · exact zero_not_mem_encodeIds ids hzero

/-! ## §5. When both stay inside. -/

/-- **WHEN THE ARRAYS OF THE NODE FILE ARE LARGE ENOUGH**: the ids print in nine
characters; and the file is empty, or has a NUL, or is not read to its end. -/
theorem file_text_iff (ids : List UInt32) (s : SetupHost) (got : Nat) (r : Registry) :
    ((syncOpsIn ids).isSome = true
      ↔ ∀ id ∈ ids, -100000000 < id.toInt32.toInt ∧ id.toInt32.toInt < 1000000000)
    ∧ ((setupNodeIn s got r).isSome = true
      ↔ ∀ f, r.nodeFile = some f → s.opens = true → s.allocates = true →
          f.contents = [] ∨ got < f.contents.length ∨ (0 : UInt8) ∈ f.contents) := by
  constructor
  · rw [syncOpsIn_isSome_iff]
    exact forall₂_congr (fun id _ => length_printId_le_iff id)
  · exact setupNodeIn_isSome_iff s got r

/-- The id 1000000000 takes twelve bytes; and the file that is written for the id 7 is
read past its two bytes. -/
theorem file_text_overruns :
    syncOpsIn [1000000000] = none
      ∧ setupNodeIn quietHost 2 (boot (syncedFile [] [7])) = none := by
  decide

end LoRaGateway
