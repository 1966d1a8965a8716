/-
  LoRaGateway.Registry.Durable
  ────────────────────────────
  **IS AN ACKNOWLEDGED COMMAND IN THE NODE FILE?**

  `add_device` and `remove_device` answer `0` after `sync_list_to_file`, whatever
  became of it: a missing file is not created, a failed `open` is reported to
  nobody.

    • `Registry.Saved` — the file holds the text of the registry,
    • `exec_saved_iff` — an accepted call leaves it so exactly when it `Writes`,
    • `restart_ids` — what a new start makes of a saved registry.
-/
import LoRaGateway.Registry.NodeFile
import LoRaGateway.Registry.Refinement
import LoRaGateway.Lib.Run

namespace LoRaGateway

open LoRaGateway.Lib

/-! ## §1. One call. -/

/-- The node file holds each id followed by a space, in order. -/
def Registry.Saved (r : Registry) : Prop :=
  ∃ f, r.nodeFile = some f ∧ f.contents = encodeIds r.ids

/-- What the C library answers to a call. -/
def RegistryOp.host : RegistryOp → Host
  | .add h _ => h
  | .remove h _ => h

/-- The ids after a call that is accepted. -/
def RegistryOp.newIds : RegistryOp → List UInt32 → List UInt32
  | .add _ id, ids => ids ++ [id]
  | .remove _ id, ids => ids.erase id

/-- There is a node file, and the call opens it — or it holds already what the
call would write. -/
def RegistryOp.Writes (op : RegistryOp) (r : Registry) : Prop :=
  ∃ f, r.nodeFile = some f ∧ (op.host.opens = true ∨ f.contents = encodeIds (op.newIds r.ids))

theorem NodeFile.contents_sync (f : NodeFile) (ids : List UInt32) :
    (⟨f.loaded, f.ops ++ syncOps ids⟩ : NodeFile).contents = encodeIds ids := by
  unfold NodeFile.contents
  rw [replay_append, replay_syncOps]

/-- `sync_list_to_file` saves the registry if it finds the file and opens it. -/
theorem syncListToFile_saved_iff {h : Host} {r : Registry} :
    (syncListToFile h r).Saved
      ↔ ∃ f, r.nodeFile = some f ∧ (h.opens = true ∨ f.contents = encodeIds r.ids) := by
  cases hf : r.nodeFile with
  | none => simp [syncListToFile, Registry.Saved, hf]
  | some f =>
      cases hopen : h.opens with
      | true =>
          have hsaved : (syncListToFile h r).Saved := by
            refine ⟨⟨f.loaded, f.ops ++ syncOps r.ids⟩, ?_, ?_⟩
            · simp [syncListToFile, hf, hopen]
            · rw [syncListToFile_ids, NodeFile.contents_sync]
          exact ⟨fun _ => ⟨f, rfl, Or.inl rfl⟩, fun _ => hsaved⟩
      | false =>
          -- `open` has failed: the file stays as it is
          have hsame : syncListToFile h r = r := by simp [syncListToFile, hf, hopen]
          rw [hsame]
          unfold Registry.Saved
          rw [hf]
          simp

/-- **Both operations**: refused with nothing changed, or accepted, with the new
ids handed to `sync_list_to_file`. -/
theorem exec_spec (op : RegistryOp) (r : Registry) :
    op.exec r = (-1, r)
      ∨ ((op.exec r).1 = 0 ∧ ∃ r₁ : Registry, r₁.nodeFile = r.nodeFile
        ∧ r₁.ids = op.newIds r.ids ∧ (op.exec r).2 = syncListToFile op.host r₁) := by
  cases op with
  | add h id =>
      simp only [RegistryOp.exec, addDevice_eq]
      by_cases hid : id ∈ r.ids
      · rw [if_pos hid]
        exact Or.inl rfl
      · rw [if_neg hid]
        refine Or.inr ⟨rfl, _, ?_, ?_, rfl⟩
        · rfl
        · show (r.newLoRa ++ [appended h id r]).map LoRaNode.id = _
          rw [List.map_append]
          rfl
  | remove h id =>
      simp only [RegistryOp.exec, removeDevice]
      rw [findLoop_ids]
      cases hf : r.newLoRa.findIdx? (fun n => decide (n.id = id)) with
      | none => exact Or.inl rfl
      | some i =>
          obtain ⟨hi, -, -⟩ := List.findIdx?_eq_some_iff_getElem.mp hf
          refine Or.inr ⟨rfl, _, ?_, ?_, rfl⟩
          · rfl
          · show ((shiftLoop r.newLoRa (r.nodeCount - 1 - i) i).take (r.nodeCount - 1)).map _ = _
            have hshift : (shiftLoop r.newLoRa (r.nodeCount - 1 - i) i).take (r.nodeCount - 1)
                = r.newLoRa.eraseIdx i := take_shiftLoop r.newLoRa hi
            rw [hshift, KeyedList.map_eraseIdx_findIdx hf]
            rfl

/-- An accepted call leaves the registry saved exactly when it writes. -/
theorem exec_saved_iff {op : RegistryOp} {r : Registry} (hret : (op.exec r).1 = 0) :
    (op.exec r).2.Saved ↔ op.Writes r := by
  rcases exec_spec op r with hrefused | ⟨-, r₁, hfile, hids, hout⟩
  · rw [hrefused] at hret
    exact absurd hret (by simp)
  · rw [hout, syncListToFile_saved_iff, hfile, hids]
    rfl

/-! ## §2. Runs of calls. -/

/-- The registry as a machine. -/
def registryStep (r : Registry) (op : RegistryOp) : Option Registry := some (op.exec r).2

/-- What the calls of a run answer. -/
def answers : Registry → List RegistryOp → List Int
  | _, [] => []
  | r, op :: ops => (op.exec r).1 :: answers (op.exec r).2 ops

/-- An accepted call writes. -/
def AckWrites (r : Registry) (op : RegistryOp) : Prop := (op.exec r).1 = 0 → op.Writes r

/-- If every accepted call writes, the registry is saved from the first one on. -/
theorem runOps_saved (ops : List RegistryOp) :
    ∀ {r : Registry}, Along registryStep AckWrites r ops → r.Saved ∨ 0 ∈ answers r ops →
      (runOps r ops).Saved := by
  induction ops with
  | nil =>
      intro r _ h
      rcases h with hsaved | hnone
      · exact hsaved
      · exact absurd hnone (by simp [answers])
  | cons op ops ih =>
      intro r hal h
      obtain ⟨hok, hrest⟩ := hal
      refine ih (hrest _ rfl) ?_
      by_cases hret : (op.exec r).1 = 0
      · exact Or.inl ((exec_saved_iff hret).mpr (hok hret))
      -- a refused call changes nothing, and is not the accepted one
      · rcases exec_spec op r with hrefused | ⟨hret', -⟩
        · show (op.exec r).2.Saved ∨ 0 ∈ answers (op.exec r).2 ops
          rw [hrefused]
          refine h.imp_right (fun hmem => ?_)
          rw [answers, hrefused] at hmem
          rcases List.mem_cons.mp hmem with h0 | hmem
          · exact absurd h0 (by simp)
          · exact hmem
        · exact absurd hret' hret

/-! ## §3. A new start. -/

/-- The registry of a process that starts with the file that `r` has left. -/
def restart (s : SetupHost) (r : Registry) : Registry :=
  (setupNode s (Registry.empty (r.nodeFile.map (fun f => ⟨f.contents, []⟩)))).2

/-- A saved registry comes back. -/
theorem restart_ids {s : SetupHost} (hs : s.Ok) {r : Registry} (hsaved : r.Saved)
    (hnd : r.ids.Nodup) : (restart s r).ids = r.ids := by
  obtain ⟨f, hf, hcont⟩ := hsaved
  unfold restart
  rw [hf, Option.map_some, hcont]
  exact (setupNode_encodeIds hs hnd).1

/-- **AN ACKNOWLEDGED COMMAND IS DURABLE EXACTLY WHEN IT WRITES**: in every state
of the registry, for every id and every outcome of opening the file; and after a
run whose acknowledged commands all write, a restart recovers the registry. -/
theorem ack_durable_iff (r : Registry) (op : RegistryOp) (file : Option NodeFile)
    (ops : List RegistryOp) (s : SetupHost) :
    ((op.exec r).1 = 0 → ((op.exec r).2.Saved ↔ op.Writes r))
      ∧ (Along registryStep AckWrites (Registry.empty file) ops →
          0 ∈ answers (Registry.empty file) ops → s.Ok →
            (restart s (runOps (Registry.empty file) ops)).ids
              = (runOps (Registry.empty file) ops).ids) := by
  refine ⟨exec_saved_iff, ?_⟩
  intro hal hack hs
  exact restart_ids hs (runOps_saved ops hal (Or.inr hack)) (runOps_nodup file ops)

/-- The node file is there, empty, and can be opened: node 7 comes back. -/
theorem ack_durable_with_file :
    (addDevice ⟨LoRaNode.zero, true⟩ 7 (boot [])).2.Saved
      ∧ (restart quietHost (runOps (boot []) [.add ⟨LoRaNode.zero, true⟩ 7])).ids = [7] := by
  have hwrites : (RegistryOp.add ⟨LoRaNode.zero, true⟩ 7).Writes (boot []) :=
    ⟨_, rfl, Or.inl rfl⟩
  obtain ⟨hsaved, hrestart⟩ := ack_durable_iff (boot []) (.add ⟨LoRaNode.zero, true⟩ 7)
    (some ⟨[], []⟩) [.add ⟨LoRaNode.zero, true⟩ 7] quietHost
  refine ⟨(hsaved rfl).mpr hwrites, ?_⟩
  exact hrestart ⟨fun _ => hwrites, fun _ _ => trivial⟩ (by decide) quietHost_ok

/-- The first start, without a node file: the command is acknowledged, nothing is
written, and the next start finds no node. -/
theorem ack_not_durable_without_file :
    (addDevice ⟨LoRaNode.zero, true⟩ 7 (Registry.empty none)).1 = 0
      ∧ ¬ (addDevice ⟨LoRaNode.zero, true⟩ 7 (Registry.empty none)).2.Saved
      ∧ (addDevice ⟨LoRaNode.zero, true⟩ 7 (Registry.empty none)).2.ids = [7]
      ∧ (restart quietHost (addDevice ⟨LoRaNode.zero, true⟩ 7 (Registry.empty none)).2).ids
          = [] := by
  refine ⟨by decide, ?_, by decide, by decide⟩
  intro hsaved
  obtain ⟨f, hf, -⟩ := hsaved
  have hnone : (addDevice ⟨LoRaNode.zero, true⟩ 7 (Registry.empty none)).2.nodeFile = none := by
    decide
  rw [hnone] at hf
  cases hf

end LoRaGateway
