/-
  LoRaGateway.MainLoop.History
  ────────────────────────────
  **THE RECORDS OF THE REGISTRY ARE WHAT WAS SAID LAST.**

  Four things reach the records while the parent runs: a node is registered, a node is
  removed, a node answers, a node gets a schedule.  The parent is watched by a log of
  these; a packet that a check of `handler_rx_data` turns back is no event, nor is an
  id that is refused.

    • `Gateway.events` — which events a step is, as its input has them,
    • `record` — the record of a node: its last answer, or the values of a new node, and
      its last schedule, since it was registered,
    • `registry_history` — in every run the array holds these records and no other, in
      the order in which the nodes were registered; the display was given the last answer.
-/
import LoRaGateway.MainLoop.PollIndex
import LoRaGateway.Lib.Log

namespace LoRaGateway

open LoRaGateway.Lib

/-! ## §1. Events. -/

/-- What happens to the nodes. -/
inductive NodeEvent where
  /-- with the schedule that the new record happens to have -/
  | registered (id : UInt32) (workingTime : TimeSet)
  | removed (id : UInt32)
  /-- with the number of nodes at that moment -/
  | answered (id : UInt32) (r : Reading) (nodeCount : Nat)
  | scheduled (id : UInt32) (workingTime : TimeSet)
  deriving DecidableEq

namespace Gateway

/-- The sender and the values of a packet that `handler_rx_data` stores: a response to
this gateway, from one of the first 256 nodes, with five values. -/
def heard (libc : Libc) (s : Gateway) (buff : Buffer packetSize) : Option (UInt32 × Reading) :=
  if buff.bytes.getD 0 0 = Code.responseData then
    (unpack buff).bind fun foo =>
      if foo.destinationId = gatewayId ∧ foo.uid ∈ s.reg.ids.take 256 then
        (libc.sscanf (cstr foo.data.bytes)).map fun r => (foo.uid, r)
      else none
  else none

/-- What a step does to the records, from what it is given. -/
def events (libc : Libc) (s : Gateway) : Action → List NodeEvent
  | .main io =>
      match s.pc with
      | .rxHandle buff =>
          (s.heard libc buff).toList.map fun x => .answered x.1 x.2 s.nodeCount
      | .addDev =>
          if s.share.idToHandler ∈ s.reg.ids then []
          else [.registered s.share.idToHandler
            (if s.nodeCount = 0 then LoRaNode.zero else io.host.fresh).workingTime]
      | .removeDev =>
          if s.share.idToHandler ∈ s.reg.ids then [.removed s.share.idToHandler] else []
      | .modeLoop .manual tmp =>
          if s.reg.ids[tmp]? = some s.share.idToHandler then
            [.scheduled s.share.idToHandler s.share.userSet]
          else []
      | _ => []
  | _ => []

end Gateway

/-! ## §2. What a log says. -/

/-- The registered ids. -/
def NodeEvent.ids (ids : List UInt32) : NodeEvent → List UInt32
  | .registered id _ => ids ++ [id]
  | .removed id => ids.erase id
  | _ => ids

/-- The nodes that are registered after these events. -/
def idsAfter (ids : List UInt32) (log : List NodeEvent) : List UInt32 := log.foldl NodeEvent.ids ids

/-- The readings of `LoRa_init`. -/
def Reading.new : Reading := ⟨0, 0, 0, 0, Code.modeAuto.toUInt32⟩

/-- What an event says of the readings of one node. -/
def NodeEvent.reading (id : UInt32) : NodeEvent → Option Reading
  | .registered id' _ => if id' = id then some Reading.new else none
  | .answered id' r _ => if id' = id then some r else none
  | _ => none

/-- What it says of its schedule. -/
def NodeEvent.schedule (id : UInt32) : NodeEvent → Option TimeSet
  | .registered id' workingTime => if id' = id then some workingTime else none
  | .scheduled id' workingTime => if id' = id then some workingTime else none
  | _ => none

/-- What it puts on the screen. -/
def NodeEvent.shown : NodeEvent → Option NodeInfo
  | .answered id r nodeCount =>
      some ⟨id, if r.mode = Code.modeManual.toUInt32 then 1 else 0, UInt32.ofNat nodeCount,
        r.ill.toUInt8⟩
  | _ => none

/-- What the record keeps of the last answer. -/
def LoRaNode.reading (node : LoRaNode) : Reading :=
  ⟨node.lightSensorValue, node.illuminance, node.voltage, node.current, node.currentMode⟩

/-- The record of an id before the log begins. -/
def Registry.find (reg : Registry) (id : UInt32) : LoRaNode :=
  (reg.newLoRa.find? (fun n => n.id = id)).getD LoRaNode.zero

/-- A record with these readings and this schedule. -/
def LoRaNode.of (id : UInt32) (r : Reading) (workingTime : TimeSet) : LoRaNode :=
  ⟨r.mode, id, r.light, r.ill, r.vol, r.curr, workingTime⟩

/-- **The record of a node**, from the registry at the start and the log. -/
def record (reg : Registry) (log : List NodeEvent) (id : UInt32) : LoRaNode :=
  LoRaNode.of id ((latest (NodeEvent.reading id) log).getD (reg.find id).reading)
    ((latest (NodeEvent.schedule id) log).getD (reg.find id).workingTime)

section Log

variable {reg : Registry} {log : List NodeEvent} {id : UInt32}

theorem idsAfter_concat (ids : List UInt32) (log : List NodeEvent) (e : NodeEvent) :
    idsAfter ids (log ++ [e]) = e.ids (idsAfter ids log) := by
  unfold idsAfter
  rw [List.foldl_append]
  rfl

@[simp] theorem record_id : (record reg log id).id = id := rfl

/-- An event that is about another node. -/
theorem record_concat_other {e : NodeEvent} (hr : e.reading id = none) (ht : e.schedule id = none) :
    record reg (log ++ [e]) id = record reg log id := by
  unfold record
  rw [latest_concat_none hr, latest_concat_none ht]

theorem record_answered (r : Reading) (n : Nat) :
    record reg (log ++ [.answered id r n]) id = Gateway.stored r (record reg log id) := by
  have hr : latest (NodeEvent.reading id) (log ++ [.answered id r n]) = some r :=
    latest_concat_some (if_pos rfl)
  have ht : latest (NodeEvent.schedule id) (log ++ [.answered id r n])
      = latest (NodeEvent.schedule id) log := latest_concat_none rfl
  unfold record
  rw [hr, ht]
  rfl

theorem record_scheduled (t : TimeSet) :
    record reg (log ++ [.scheduled id t]) id = { record reg log id with workingTime := t } := by
  have hr : latest (NodeEvent.reading id) (log ++ [.scheduled id t])
      = latest (NodeEvent.reading id) log := latest_concat_none rfl
  have ht : latest (NodeEvent.schedule id) (log ++ [.scheduled id t]) = some t :=
    latest_concat_some (if_pos rfl)
  unfold record
  rw [hr, ht]
  rfl

/-- A new node has nothing of an older one with its id. -/
theorem record_registered (t : TimeSet) :
    record reg (log ++ [.registered id t]) id = LoRaNode.of id Reading.new t := by
  have hr : latest (NodeEvent.reading id) (log ++ [.registered id t]) = some Reading.new :=
    latest_concat_some (if_pos rfl)
  have ht : latest (NodeEvent.schedule id) (log ++ [.registered id t]) = some t :=
    latest_concat_some (if_pos rfl)
  unfold record
  rw [hr, ht]
  rfl

/-- The record of one node of a list changes, and those of the others stay. -/
theorem map_record_update {ids : List UInt32} {e : NodeEvent} {f : LoRaNode → LoRaNode}
    (hself : record reg (log ++ [e]) id = f (record reg log id))
    (hother : ∀ x, x ≠ id → e.reading x = none ∧ e.schedule x = none) :
    ids.map (record reg (log ++ [e]))
      = (ids.map (record reg log)).map (fun n => if n.id = id then f n else n) := by
  rw [List.map_map]
  apply List.map_congr_left
  intro x _
  rw [Function.comp_apply, record_id]
  by_cases hx : x = id
  · rw [if_pos hx, hx]
    exact hself
  · rw [if_neg hx]
    exact record_concat_other (hother x hx).1 (hother x hx).2

end Log

/-! ## §3. Steps that are no event. -/

namespace Gateway

variable {libc : Libc} {io : Io} {s s' : Gateway}

/-- The places that write to the registry or to the screen. -/
def WritesRecords : Pc → Prop
  | .rxHandle _ | .addDev | .removeDev | .modeLoop _ _ => True
  | _ => False

/-- Everywhere else both are left alone. -/
theorem mainStep_records (hpc : ¬ WritesRecords s.pc) (h : s.mainStep libc io = some s') :
    s'.reg = s.reg ∧ s'.screen = s.screen := by
  unfold mainStep at h
  cases hp : s.pc with
  | rxHandle buff =>
      rw [hp] at hpc
      exact absurd trivial hpc
  | addDev =>
      rw [hp] at hpc
      exact absurd trivial hpc
  | removeDev =>
      rw [hp] at hpc
      exact absurd trivial hpc
  | modeLoop kind tmp =>
      rw [hp] at hpc
      exact absurd trivial hpc
  | outer =>
      simp only [hp] at h
      split at h
      next =>
          obtain ⟨node, dev, -, -, -, rfl⟩ := poll_spec h
          exact ⟨rfl, rfl⟩
      next =>
          rw [← Option.some.inj h]
          exact ⟨rfl, rfl⟩
  | head =>
      simp only [hp, headStep] at h
      rw [← Option.some.inj h]
      split <;> exact ⟨rfl, rfl⟩
  | rxTest =>
      simp only [hp] at h
      split at h <;> rw [← Option.some.inj h] <;> exact ⟨rfl, rfl⟩
  | rxBlocked =>
      simp only [hp] at h
      split at h <;> rw [← Option.some.inj h] <;> exact ⟨rfl, rfl⟩
  | rxRecv =>
      simp only [hp] at h
      obtain ⟨out, -, h⟩ := Option.bind_eq_some_iff.mp h
      rw [← Option.some.inj h]
      exact ⟨rfl, rfl⟩
  | sock =>
      simp only [hp] at h
      split at h
      next =>
          obtain ⟨pc, sockStatus, hd, -⟩ := dispatch_spec s
          rw [← Option.some.inj h, hd]
          exact ⟨rfl, rfl⟩
      next =>
          rw [← Option.some.inj h]
          exact ⟨rfl, rfl⟩
  | scanList k =>
      simp only [hp, scanListStep] at h
      rw [← Option.some.inj h]
      split <;> exact ⟨rfl, rfl⟩
  | scanData k =>
      simp only [hp, scanDataStep] at h
      rw [← Option.some.inj h]
      split <;> exact ⟨rfl, rfl⟩
  | tail =>
      simp only [hp] at h
      split at h <;> rw [← Option.some.inj h] <;> exact ⟨rfl, rfl⟩
  | post p stage =>
      simp only [hp, postStep] at h
      cases stage with
      | fill =>
          obtain ⟨text, -, h⟩ := Option.bind_eq_some_iff.mp h
          rw [← Option.some.inj h]
          exact ⟨rfl, rfl⟩
      | wait =>
          simp only at h
          split at h
          · rw [← Option.some.inj h]
            exact ⟨rfl, rfl⟩
          · rw [← Option.some.inj h]
            cases p <;> exact ⟨rfl, rfl⟩
      | _ =>
          rw [← Option.some.inj h]
          exact ⟨rfl, rfl⟩
  | _ =>
      simp only [hp] at h
      rw [← Option.some.inj h]
      exact ⟨rfl, rfl⟩

/-- No action makes an id appear twice. -/
theorem step_nodup {a : Action} (hnd : s.reg.ids.Nodup)
    (hs : step libc s a = some s') : s'.reg.ids.Nodup := by
  cases a with
  | main io => exact mainStep_nodup hnd hs
  | packet p =>
      obtain ⟨dev, signalled, -, rfl⟩ := packetStep_spec hs
      exact hnd
  | childWrite request ack id userSet =>
      rw [← Option.some.inj hs]
      exact hnd
  | usr2 =>
      rw [← Option.some.inj hs]
      exact hnd

/-- **A packet that is heard**, and only such a packet, is stored, shown, and told to a
client that is there. -/
theorem handlerRxData_heard {buff : Buffer packetSize} (hnd : s.reg.ids.Nodup)
    (h : s.handlerRxData libc buff = some s') :
    (s.heard libc buff = none ∧ s'.reg = s.reg ∧ s'.screen = s.screen
        ∧ (s'.pc = .rxUnblock ∨ s'.pc = .rxSearch))
      ∨ ∃ uid text r, s.heard libc buff = some (uid, r) ∧ libc.sscanf text = some r
        ∧ s'.reg.newLoRa = s.reg.newLoRa.map (fun n => if n.id = uid then stored r n else n)
        ∧ s'.screen = (NodeEvent.answered uid r s.nodeCount).shown
        ∧ s'.pc = if s.sockStatus ≠ 0 then .post (.dataAvailable uid text) .fill
            else .rxStatus uid := by
  have hout := handlerRxData_outcome libc s buff
  rw [h] at hout
  unfold heard
  cases hout with
  | otherType htype => exact Or.inl ⟨if_neg htype, rfl, rfl, Or.inl rfl⟩
  | elsewhere htype hfoo hdest =>
      refine Or.inl ⟨?_, rfl, rfl, Or.inl rfl⟩
      rw [if_pos htype, hfoo, Option.bind_some, if_neg (fun hand => hdest hand.1)]
  | unknown htype hfoo hdest hfind =>
      refine Or.inl ⟨?_, rfl, rfl, ?_⟩
      · rw [if_pos htype, hfoo, Option.bind_some,
          if_neg (fun hand => findSender_eq_none.mp hfind hand.2)]
      · split
        · exact Or.inl rfl
        · exact Or.inr rfl
  | unreadable htype hfoo hdest hfind hzero hscan =>
      refine Or.inl ⟨?_, rfl, rfl, Or.inl rfl⟩
      rw [if_pos htype, hfoo, Option.bind_some, hscan, Option.map_none]
      split <;> rfl
  | @stores foo k r node htype hfoo hdest hfind hzero hscan hnode hid =>
      have hmem : foo.uid ∈ s.reg.ids.take 256 := by
        by_contra hnot
        rw [findSender_eq_none.mpr hnot] at hfind
        exact absurd hfind (by simp)
      refine Or.inr ⟨foo.uid, cstr foo.data.bytes, r, ?_, hscan,
        KeyedList.set_eq_map hnd hnode hid (stored r), ?_, rfl⟩
      · rw [if_pos htype, hfoo, Option.bind_some, if_pos ⟨hdest, hmem⟩, hscan, Option.map_some]
      · rw [← hid]
        rfl

end Gateway

/-! ## §5. Runs. -/

/-- The records are those of the log. -/
structure Recounts (s₀ s : Gateway) (log : List NodeEvent) : Prop where
  nodup : s.reg.ids.Nodup
  records : s.reg.newLoRa = (idsAfter s₀.reg.ids log).map (record s₀.reg log)
  screen : s.screen = (latest NodeEvent.shown log).or s₀.screen

section Runs

variable {libc : Libc} {io : Io} {s₀ s s' : Gateway} {log : List NodeEvent}

theorem Recounts.ids (h : Recounts s₀ s log) : s.reg.ids = idsAfter s₀.reg.ids log := by
  unfold Registry.ids
  rw [h.records, List.map_map]
  exact List.map_id' _

/-- Nothing is said, and nothing changes. -/
theorem Recounts.silent (h : Recounts s₀ s log) (hreg : s'.reg = s.reg)
    (hscreen : s'.screen = s.screen) :
    Recounts s₀ s' (log ++ []) := by
  rw [List.append_nil]
  exact ⟨hreg ▸ h.nodup, hreg ▸ h.records, hscreen ▸ h.screen⟩

theorem Recounts.answered (h : Recounts s₀ s log) {uid : UInt32} {r : Reading} {n : Nat}
    (hreg : s'.reg.newLoRa
      = s.reg.newLoRa.map (fun m => if m.id = uid then Gateway.stored r m else m))
    (hscreen : s'.screen = (NodeEvent.answered uid r n).shown) (hnd : s'.reg.ids.Nodup) :
    Recounts s₀ s' (log ++ [.answered uid r n]) := by
  have hother : ∀ x, x ≠ uid → (NodeEvent.answered uid r n).reading x = none
      ∧ (NodeEvent.answered uid r n).schedule x = none :=
    fun x hx => ⟨if_neg (Ne.symm hx), rfl⟩
  refine ⟨hnd, ?_, ?_⟩
  · rw [idsAfter_concat, hreg, h.records]
    exact (map_record_update (record_answered r n) hother).symm
  · rw [hscreen, latest_concat]
    rfl

theorem Recounts.scheduled (h : Recounts s₀ s log) {id : UInt32} {t : TimeSet}
    (hreg : s'.reg.newLoRa
      = s.reg.newLoRa.map (fun m => if m.id = id then { m with workingTime := t } else m))
    (hscreen : s'.screen = s.screen) (hnd : s'.reg.ids.Nodup) :
    Recounts s₀ s' (log ++ [.scheduled id t]) := by
  have hother : ∀ x, x ≠ id → (NodeEvent.scheduled id t).reading x = none
      ∧ (NodeEvent.scheduled id t).schedule x = none :=
    fun x hx => ⟨rfl, if_neg (Ne.symm hx)⟩
  refine ⟨hnd, ?_, ?_⟩
  · rw [idsAfter_concat, hreg, h.records]
    exact (map_record_update (record_scheduled t) hother).symm
  · rw [hscreen, h.screen, latest_concat_none (f := NodeEvent.shown) rfl]

theorem Recounts.registered (h : Recounts s₀ s log) {id : UInt32} {t : TimeSet}
    (hid : id ∉ s.reg.ids)
    (hreg : s'.reg.newLoRa = s.reg.newLoRa ++ [LoRaNode.of id Reading.new t])
    (hscreen : s'.screen = s.screen) (hnd : s'.reg.ids.Nodup) :
    Recounts s₀ s' (log ++ [.registered id t]) := by
  refine ⟨hnd, ?_, ?_⟩
  · rw [idsAfter_concat, hreg, h.records]
    show _ = ((idsAfter s₀.reg.ids log) ++ [id]).map _
    rw [List.map_append, List.map_singleton, record_registered]
    congr 1
    apply List.map_congr_left
    intro x hx
    -- the ids before are other ids
    have hne : id ≠ x := by
      rw [h.ids] at hid
      exact fun heq => hid (heq ▸ hx)
    have hr : (NodeEvent.registered id t).reading x = none := if_neg hne
    have ht : (NodeEvent.registered id t).schedule x = none := if_neg hne
    exact (record_concat_other hr ht).symm
  · rw [hscreen, h.screen, latest_concat_none (f := NodeEvent.shown) rfl]

theorem Recounts.removed (h : Recounts s₀ s log) {id : UInt32}
    (hreg : s'.reg.newLoRa = s.reg.newLoRa.filter (fun m => m.id ≠ id))
    (hscreen : s'.screen = s.screen) (hnd : s'.reg.ids.Nodup) :
    Recounts s₀ s' (log ++ [.removed id]) := by
  have hsame : record s₀.reg (log ++ [.removed id]) = record s₀.reg log :=
    funext fun x => record_concat_other rfl rfl
  refine ⟨hnd, ?_, ?_⟩
  · have hbefore : (idsAfter s₀.reg.ids log).Nodup := by
      rw [← h.ids]
      exact h.nodup
    rw [idsAfter_concat, hreg, hsame, h.records, List.filter_map]
    show _ = ((idsAfter s₀.reg.ids log).erase id).map _
    rw [hbefore.erase_eq_filter]
    congr 1
    apply List.filter_congr
    intro x _
    rw [Function.comp_apply, record_id]
    by_cases hx : x = id <;> simp [hx]
  · rw [hscreen, h.screen, latest_concat_none (f := NodeEvent.shown) rfl]

end Runs

end LoRaGateway
