/-
  LoRaGateway.MainLoop.Lookup
  ───────────────────────────
  **THE SEARCH FOR THE SENDER OF A RESPONSE.**

  `handler_rx_data` walks over the records with a `uint8_t`, which goes from 255
  back to 0, while `node_count` has 32 bits.  With 256 records or more the test
  `i < node_count` never fails, so the loop ends only at a record with the id.

    • `senderLoop` — the loop, round by round, with its counter as it is,
    • `senderLoop_spec` — it does what `findSender` says of it,
    • `lookup_iff` — when it ends, and finds a registered sender.
-/
import LoRaGateway.MainLoop.PollIndex

namespace LoRaGateway

open LoRaGateway.Lib

/-! ## §1. The loop. -/

/-- `for (i = 0; i < node_count; i++) if (foo.uid == newLoRa[i].id) …`: what has been
found when at most `fuel` rounds are done, nothing while the loop still runs. -/
def senderLoop (uid : UInt32) (newLoRa : List LoRaNode) (nodeCount : Nat) :
    Nat → UInt8 → Option (Option Nat)
  | 0, _ => none
  | fuel + 1, i =>
      if i.toNat < nodeCount then
        match newLoRa[i.toNat]? with
        | some node =>
            if uid = node.id then some (some i.toNat)
            else senderLoop uid newLoRa nodeCount fuel (i + 1)
        | none => none
      else some none

/-- The loop ends, and it has reached the record of a registered sender. -/
def LookupAnswers (r : Registry) (uid : UInt32) : Prop :=
  ∃ fuel found, senderLoop uid r.newLoRa r.nodeCount fuel 0 = some found
    ∧ (uid ∈ r.ids → ∃ k node, found = some k ∧ r.newLoRa[k]? = some node ∧ node.id = uid)

/-! ## §2. What it finds. -/

section Loop

variable {uid : UInt32} {newLoRa : List LoRaNode}

/-- The next index, as long as it does not wrap. -/
theorem toNat_ofNat_succ {i : Nat} (hi : i < 256) :
    (UInt8.ofNat i).toNat = i ∧ UInt8.ofNat i + 1 = UInt8.ofNat (i + 1) := by
  refine ⟨?_, ?_⟩
  · rw [UInt8.toNat_ofNat', Nat.mod_eq_of_lt hi]
  · exact (UInt8.ofNat_add i 1).symm

/-- A round over a record with another id goes on to the next one. -/
theorem senderLoop_skip {node : LoRaNode} {i fuel : Nat} (hi : i < 256)
    (hnode : newLoRa[i]? = some node) (hid : node.id ≠ uid) :
    senderLoop uid newLoRa newLoRa.length (fuel + 1) (UInt8.ofNat i)
      = senderLoop uid newLoRa newLoRa.length fuel (UInt8.ofNat (i + 1)) := by
  obtain ⟨hnat, hsucc⟩ := toNat_ofNat_succ hi
  obtain ⟨hlt, -⟩ := List.getElem?_eq_some_iff.mp hnode
  rw [senderLoop, hnat, if_pos hlt, hnode]
  simp only
  rw [if_neg (fun h => hid h.symm), hsucc]

/-- From the record `i` on, the loop finds what a search of the `d` records up to
the 256th finds, and ends without them when there are no others. -/
theorem senderLoop_findLoop (uid : UInt32) (newLoRa : List LoRaNode) :
    ∀ (d i : Nat), i + d = min newLoRa.length 256 →
      (∀ k, findLoop (fun n => decide (n.id = uid)) newLoRa d i = some k →
        ∃ fuel, senderLoop uid newLoRa newLoRa.length fuel (UInt8.ofNat i) = some (some k))
      ∧ (findLoop (fun n => decide (n.id = uid)) newLoRa d i = none → newLoRa.length < 256 →
        ∃ fuel, senderLoop uid newLoRa newLoRa.length fuel (UInt8.ofNat i) = some none) := by
  intro d
  induction d with
  | zero =>
      intro i hi
      refine ⟨fun k hk => absurd hk (by simp [findLoop]), fun _ hlen => ⟨1, ?_⟩⟩
      rw [senderLoop, (toNat_ofNat_succ (by omega)).1, if_neg (by omega)]
  | succ d ih =>
      intro i hi
      have hi256 : i < 256 := by omega
      have hlt : i < newLoRa.length := by omega
      have hnode : newLoRa[i]? = some newLoRa[i] := List.getElem?_eq_getElem hlt
      obtain ⟨hfound, hended⟩ := ih (i + 1) (by omega)
      rw [findLoop, hnode]
      simp only
      by_cases hid : newLoRa[i].id = uid
      · rw [if_pos (decide_eq_true hid)]
        refine ⟨fun k hk => ⟨1, ?_⟩, fun hnone => absurd hnone (by simp)⟩
        obtain rfl := Option.some.inj hk
        rw [senderLoop, (toNat_ofNat_succ hi256).1, if_pos hlt, hnode]
        exact if_pos hid.symm
      · rw [if_neg (by simpa using hid)]
        constructor
        · intro k hk
          obtain ⟨fuel, hfuel⟩ := hfound k hk
          exact ⟨fuel + 1, (senderLoop_skip hi256 hnode hid).trans hfuel⟩
        · intro hnone hlen
          obtain ⟨fuel, hfuel⟩ := hended hnone hlen
          exact ⟨fuel + 1, (senderLoop_skip hi256 hnode hid).trans hfuel⟩

/-- When none of the first 256 records has the id, and there are so many, the loop
runs for ever. -/
theorem senderLoop_runs_on (hlen : 256 ≤ newLoRa.length)
    (hnone : ∀ k node, k < 256 → newLoRa[k]? = some node → node.id ≠ uid) :
    ∀ (fuel : Nat) (i : UInt8), senderLoop uid newLoRa newLoRa.length fuel i = none := by
  intro fuel
  induction fuel with
  | zero =>
      intro i
      rfl
  | succ fuel ih =>
      intro i
      have hi : i.toNat < 256 := i.toNat_lt
      have hnode : newLoRa[i.toNat]? = some newLoRa[i.toNat] := List.getElem?_eq_getElem (by omega)
      rw [senderLoop, if_pos (by omega), hnode]
      simp only
      rw [if_neg (fun h => hnone i.toNat _ hi hnode h.symm)]
      exact ih (i + 1)

end Loop

/-- **The loop does what `findSender` says**: it finds that record, or ends without
one, or never ends. -/
theorem senderLoop_spec (s : Gateway) (uid : UInt32) :
    match s.findSender uid with
    | some k => ∃ fuel, senderLoop uid s.reg.newLoRa s.nodeCount fuel 0 = some (some k)
    | none =>
        if s.nodeCount < 256 then
          ∃ fuel, senderLoop uid s.reg.newLoRa s.nodeCount fuel 0 = some none
        else ∀ fuel, senderLoop uid s.reg.newLoRa s.nodeCount fuel 0 = none := by
  have hloop := senderLoop_findLoop uid s.reg.newLoRa (min s.nodeCount 256) 0 (Nat.zero_add _)
  cases hfind : s.findSender uid with
  | some k => exact hloop.1 k hfind
  | none =>
      simp only
      split
      next hlen => exact hloop.2 hfind hlen
      next hlen =>
          intro fuel
          refine senderLoop_runs_on (Nat.le_of_not_lt hlen) (fun k node hk hnode hid => ?_) fuel 0
          have hmem : uid ∈ s.reg.ids.take 256 := by
            unfold Registry.ids
            rw [← List.map_take, List.mem_map]
            refine ⟨node, List.mem_iff_getElem?.mpr ⟨k, ?_⟩, hid⟩
            rw [List.getElem?_take_of_lt hk, hnode]
          exact Gateway.findSender_eq_none.mp hfind hmem

/-! ## §3. When it answers. -/

section Answers

variable {r : Registry} {uid : UInt32}

/-- A search that ends has few records, or has found one. -/
theorem LookupAnswers.few_or_found (h : LookupAnswers r uid) :
    r.nodeCount < 256 ∨ uid ∈ r.ids.take 256 := by
  let s : Gateway := { startWith [] with reg := r }
  have hspec := senderLoop_spec s uid
  by_contra hcon
  obtain ⟨hlen, hmem⟩ := not_or.mp hcon
  -- then the loop runs for ever
  rw [show s.findSender uid = none from Gateway.findSender_eq_none.mpr hmem] at hspec
  simp only at hspec
  rw [if_neg (show ¬ s.nodeCount < 256 from hlen)] at hspec
  obtain ⟨fuel, found, hfuel, -⟩ := h
  exact absurd ((hspec fuel).symm.trans hfuel) (by simp)

theorem lookupAnswers_of_mem (hmem : uid ∈ r.ids.take 256) : LookupAnswers r uid := by
  let s : Gateway := { startWith [] with reg := r }
  have hspec := senderLoop_spec s uid
  cases hfind : s.findSender uid with
  | none => exact absurd hmem (Gateway.findSender_eq_none.mp hfind)
  | some k =>
      rw [hfind] at hspec
      obtain ⟨fuel, hfuel⟩ := hspec
      obtain ⟨-, node, hnode, hid⟩ := Gateway.findSender_some hfind
      exact ⟨fuel, some k, hfuel, fun _ => ⟨k, node, rfl, hnode, hid⟩⟩

/-- With few records the search comes to their end. -/
theorem lookupAnswers_of_few (hlen : r.nodeCount < 256) (hnot : uid ∉ r.ids.take 256) :
    LookupAnswers r uid := by
  let s : Gateway := { startWith [] with reg := r }
  have hspec := senderLoop_spec s uid
  rw [show s.findSender uid = none from Gateway.findSender_eq_none.mpr hnot] at hspec
  simp only at hspec
  rw [if_pos (show s.nodeCount < 256 from hlen)] at hspec
  obtain ⟨fuel, hfuel⟩ := hspec
  refine ⟨fuel, none, hfuel, fun hmem => absurd ?_ hnot⟩
  -- all ids are among the first 256
  rw [List.take_of_length_le]
  · exact hmem
  · unfold Registry.ids
    rw [List.length_map]
    exact Nat.le_of_lt hlen

end Answers

/-- **THE SEARCH ENDS, AND FINDS A REGISTERED SENDER, EXACTLY WHEN** there are fewer
than 256 records or the sender is one of the first 256. -/
theorem lookup_iff (r : Registry) (uid : UInt32) :
    LookupAnswers r uid ↔ r.nodeCount < 256 ∨ uid ∈ r.ids.take 256 := by
  constructor
  · exact LookupAnswers.few_or_found
  · intro h
    by_cases hmem : uid ∈ r.ids.take 256
    · exact lookupAnswers_of_mem hmem
    · exact lookupAnswers_of_few (h.resolve_right hmem) hmem

/-- `add_device` with new ids appends them. -/
theorem runOps_adds (h : Host) (ids : List UInt32) :
    ∀ {r : Registry}, (r.ids ++ ids).Nodup →
      (runOps r (ids.map (RegistryOp.add h))).ids = r.ids ++ ids := by
  induction ids with
  | nil =>
      intro r _
      exact (List.append_nil _).symm
  | cons id ids ih =>
      intro r hnd
      have hid : id ∉ r.ids := fun hm => (List.nodup_append'.mp hnd).2.2 hm List.mem_cons_self
      have hadd : (addDevice h id r).2.ids = r.ids ++ [id] := by
        rw [addDevice_ids, if_neg hid]
      show (runOps (addDevice h id r).2 (ids.map (RegistryOp.add h))).ids = _
      rw [ih (by rw [hadd, List.append_assoc]; exact hnd), hadd, List.append_assoc]
      rfl

/-- The ids 0, 1, … -/
def firstIds (n : Nat) : List UInt32 := (List.range n).map UInt32.ofNat

theorem firstIds_nodup {n : Nat} (h : n ≤ 4294967296) : (firstIds n).Nodup := by
  apply List.Nodup.map_on _ List.nodup_range
  intro a ha b hb hab
  rw [List.mem_range] at ha hb
  have hnat := congrArg UInt32.toNat hab
  rwa [UInt32.toNat_ofNat', UInt32.toNat_ofNat', Nat.mod_eq_of_lt (by omega),
    Nat.mod_eq_of_lt (by omega)] at hnat

/-- After 257 commands ADD_DEVICE the search for the last of the nodes never ends. -/
theorem lookup_never_ends :
    ∃ ops, let r := runOps (Registry.empty none) ops
      r.nodeCount = 257 ∧ 256 ∈ r.ids ∧ ¬ LookupAnswers r 256 := by
  refine ⟨(firstIds 257).map (RegistryOp.add ⟨LoRaNode.zero, true⟩), ?_⟩
  intro r
  have hids : r.ids = firstIds 257 :=
    runOps_adds ⟨LoRaNode.zero, true⟩ (firstIds 257) (firstIds_nodup (by decide))
  have hcount : r.nodeCount = 257 := by
    have hlen := congrArg List.length hids
    unfold Registry.ids firstIds at hlen
    rwa [List.length_map, List.length_map, List.length_range] at hlen
  refine ⟨hcount, ?_, fun h => ?_⟩
  · rw [hids]
    decide +kernel
  · rcases h.few_or_found with hsmall | hmem
    · omega
    · rw [hids] at hmem
      exact absurd hmem (by decide +kernel)

end LoRaGateway
