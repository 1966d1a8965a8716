/-
  LoRaGateway.MainLoop.Response
  ─────────────────────────────
  **WHAT A RESPONSE CHANGES.**

  `handler_rx_data` decodes a packet, searches its sender, lets `sscanf` read five
  values, stores them, tells the client and sets `raspi.status`; it can turn back at
  each of these points.  While it waits for the client, packets come in and the other
  process writes to the shared memory.

    • `Registry.reading` — what a packet says, if it says anything,
    • `handlerRxData_reading` — the handler up to the text for the client,
    • `response_changes_only` — from the call to the return, whatever happens meanwhile.
-/
import LoRaGateway.MainLoop.View
import LoRaGateway.MainLoop.Decode

namespace LoRaGateway

open LoRaGateway.Lib

/-! ## §1. What a packet says. -/

/-- The sender, the text and its five values, of a response to this gateway from a
registered node that `sscanf` can read. -/
def Registry.reading (libc : Libc) (reg : Registry) (buff : Buffer packetSize) :
    Option (UInt32 × List UInt8 × Reading) :=
  if buff.bytes.getD 0 0 = Code.responseData then
    (unpack buff).bind fun foo =>
      if foo.destinationId = gatewayId ∧ foo.uid ∈ reg.ids then
        (libc.sscanf (cstr foo.data.bytes)).map fun r => (foo.uid, cstr foo.data.bytes, r)
      else none
  else none

/-- The registry with new values in the record of one node. -/
def Registry.withReading (reg : Registry) (uid : UInt32) (r : Reading) : Registry :=
  { reg with newLoRa := reg.newLoRa.map (fun n => if n.id = uid then Gateway.stored r n else n) }

/-- The text for the client. -/
def dataAvailableText (uid : UInt32) (text : List UInt8) : List UInt8 :=
  codeText Code.dataAvailable uid ++ 32 :: text

section Registry

variable {reg : Registry} {uid : UInt32} {r : Reading}

theorem withReading_nodeCount : (reg.withReading uid r).nodeCount = reg.nodeCount :=
  List.length_map _

/-- A field that the readings are not part of is the same in every record. -/
theorem withReading_map {β : Type} {f : LoRaNode → β} (hf : ∀ n, f (Gateway.stored r n) = f n) :
    (reg.withReading uid r).newLoRa.map f = reg.newLoRa.map f := by
  unfold Registry.withReading
  rw [List.map_map]
  apply List.map_congr_left
  intro n _
  simp only [Function.comp_apply]
  split
  · exact hf n
  · rfl

/-- With distinct ids, the record that the search finds is the only one with its id. -/
theorem set_eq_withReading (hnd : reg.ids.Nodup) {k : Nat} {node : LoRaNode}
    (hnode : reg.newLoRa[k]? = some node) (hid : node.id = uid) :
    { reg with newLoRa := reg.newLoRa.set k (Gateway.stored r node) } = reg.withReading uid r := by
  unfold Registry.withReading
  congr 1
  exact KeyedList.set_eq_map hnd hnode hid (Gateway.stored r)

end Registry

/-! ## §2. The handler. -/

section Handler

variable {libc : Libc} {s s' : Gateway} {buff : Buffer packetSize}

/-- **The handler up to the text for the client**: the search never ends, or the
packet says nothing and nothing is done, or its values are stored. -/
theorem handlerRxData_reading (hnd : s.reg.ids.Nodup)
    (h : s.handlerRxData libc buff = some s') :
    s' = { s with pc := .rxSearch }
      ∨ (s.reg.reading libc buff = none ∧ s' = { s with pc := .rxUnblock })
      ∨ ∃ uid text r screen, s.reg.reading libc buff = some (uid, text, r)
        ∧ s' = { s with
            reg := s.reg.withReading uid r
            screen := screen
            pc := if s.sockStatus ≠ 0 then .post (.dataAvailable uid text) .fill
              else .rxStatus uid } := by
  have hout := Gateway.handlerRxData_outcome libc s buff
  rw [h] at hout
  unfold Registry.reading
  cases hout with
  | otherType htype => exact Or.inr (Or.inl ⟨if_neg htype, rfl⟩)
  | elsewhere htype hfoo hdest =>
      refine Or.inr (Or.inl ⟨?_, rfl⟩)
      rw [if_pos htype, hfoo, Option.bind_some, if_neg (fun hand => hdest hand.1)]
  | @unknown foo htype hfoo hdest hfind =>
      by_cases hlen : s.nodeCount < 256
      · -- fewer than 256 records, none of them with the id
        have hnot : foo.uid ∉ s.reg.ids := by
          have hall := Gateway.findSender_eq_none.mp hfind
          rwa [List.take_of_length_le] at hall
          unfold Registry.ids
          rw [List.length_map]
          exact Nat.le_of_lt hlen
        refine Or.inr (Or.inl ⟨?_, ?_⟩)
        · rw [if_pos htype, hfoo, Option.bind_some, if_neg (fun hand => hnot hand.2)]
        · rw [if_pos hlen]
      · refine Or.inl ?_
        rw [if_neg hlen]
  | unreadable htype hfoo hdest hfind hzero hscan =>
      refine Or.inr (Or.inl ⟨?_, rfl⟩)
      rw [if_pos htype, hfoo, Option.bind_some]
      split
      next => rw [hscan, Option.map_none]
      next => rfl
  | @stores foo k r node htype hfoo hdest hfind hzero hscan hnode hid =>
      have hmem : foo.uid ∈ s.reg.ids := by
        rw [← hid]
        exact List.mem_map_of_mem (List.mem_of_getElem? hnode)
      refine Or.inr (Or.inr ⟨foo.uid, cstr foo.data.bytes, r,
        some (Gateway.nodeInfo (Gateway.stored r node) s.nodeCount), ?_, ?_⟩)
      · rw [if_pos htype, hfoo, Option.bind_some, if_pos ⟨hdest, hmem⟩, hscan, Option.map_some]
      · rw [← set_eq_withReading hnd hnode hid]

end Handler

/-! ## §3. From the call to the return. -/

/-- The places of `handler_rx_data`. -/
def inHandler : Pc → Bool
  | .rxHandle _ | .rxSearch | .rxStatus _ | .post (.dataAvailable _ _) _ => true
  | _ => false

/-- What has become of the parent, and what it has posted, compared with the call. -/
def HandlerEffect (libc : Libc) (s₀ : Gateway) (buff : Buffer packetSize) (w : Mirrored) : Prop :=
  match s₀.reg.reading libc buff with
  | some (uid, text, r) =>
      w.gw.reg = s₀.reg.withReading uid r
        ∧ w.told = (if s₀.sockStatus ≠ 0 then [dataAvailableText uid text] else [])
        ∧ w.gw.raspi = if uid = s₀.raspi.idHandling then { s₀.raspi with status := handled }
            else s₀.raspi
  | none => w.gw.reg = s₀.reg ∧ w.told = [] ∧ w.gw.raspi = s₀.raspi

/-- How far the text for the client has got. -/
def TextAt (w : Mirrored) (text : List UInt8) : Stage → Prop
  | .fill => w.told = []
  | .clearAck | .signal => w.told = [] ∧ w.gw.share.dataToSend = text
  | .wait => w.told = [text]

/-- What holds at each place of the handler. -/
def HandlerAt (libc : Libc) (s₀ : Gateway) (buff : Buffer packetSize) (w : Mirrored) : Prop :=
  match w.gw.pc with
  | .rxHandle b => b = buff ∧ w.gw.reg = s₀.reg ∧ w.told = [] ∧ w.gw.raspi = s₀.raspi
      ∧ w.gw.sockStatus = s₀.sockStatus
  | .post (.dataAvailable uid text) stage =>
      s₀.sockStatus ≠ 0 ∧ w.gw.raspi = s₀.raspi ∧ TextAt w (dataAvailableText uid text) stage
        ∧ ∃ r, s₀.reg.reading libc buff = some (uid, text, r) ∧ w.gw.reg = s₀.reg.withReading uid r
  | .rxStatus uid =>
      w.gw.raspi = s₀.raspi ∧ ∃ text r, s₀.reg.reading libc buff = some (uid, text, r)
        ∧ w.gw.reg = s₀.reg.withReading uid r
        ∧ w.told = (if s₀.sockStatus ≠ 0 then [dataAvailableText uid text] else [])
  | .rxUnblock => HandlerEffect libc s₀ buff w
  | _ => True

section Run

variable {libc : Libc} {s₀ : Gateway} {buff : Buffer packetSize} {w w' : Mirrored}

/-- Outside the parent nothing happens to these fields. -/
theorem HandlerAt.of_eq (h : HandlerAt libc s₀ buff w) (hpc : w'.gw.pc = w.gw.pc)
    (hreg : w'.gw.reg = w.gw.reg) (hraspi : w'.gw.raspi = w.gw.raspi)
    (hsock : w'.gw.sockStatus = w.gw.sockStatus) (htold : w'.told = w.told)
    (hdata : w'.gw.share.dataToSend = w.gw.share.dataToSend) : HandlerAt libc s₀ buff w' := by
  unfold HandlerAt HandlerEffect TextAt at h ⊢
  rw [hpc, hreg, hraspi, hsock, htold, hdata]
  exact h

/-- The four steps of the text. -/
theorem dataAvailable_step {io : Io} {uid : UInt32} {text : List UInt8} {stage : Stage}
    {s' : Gateway} (hpc : w.gw.pc = .post (.dataAvailable uid text) stage)
    (h : HandlerAt libc s₀ buff w) (hs : w.gw.mainStep libc io = some s') :
    HandlerAt libc s₀ buff ⟨s', w.told ++ w.gw.postedText (.main io)⟩ := by
  unfold HandlerAt at h
  rw [hpc] at h
  obtain ⟨hsock, hraspi, htext, r, hread, hreg⟩ := h
  simp only [Gateway.mainStep, hpc] at hs
  cases stage with
  | fill =>
      rw [← Option.some.inj hs]
      rw [postedText_eq_nil io (by simp [hpc]), List.append_nil]
      exact ⟨hsock, hraspi, ⟨htext, rfl⟩, r, hread, hreg⟩
  | clearAck =>
      rw [← Option.some.inj hs]
      rw [postedText_eq_nil io (by simp [hpc]), List.append_nil]
      exact ⟨hsock, hraspi, htext, r, hread, hreg⟩
  | signal =>
      rw [← Option.some.inj hs]
      refine ⟨hsock, hraspi, ?_, r, hread, hreg⟩
      show w.told ++ w.gw.postedText (.main io) = [dataAvailableText uid text]
      simp only [Gateway.postedText, hpc]
      rw [htext.1, htext.2]
      rfl
  | wait =>
      rw [postedText_eq_nil io (by simp [hpc]), List.append_nil]
      simp only [Gateway.postStep] at hs
      split at hs
      next =>
          rw [← Option.some.inj hs]
          unfold HandlerAt
          rw [hpc]
          exact ⟨hsock, hraspi, htext, r, hread, hreg⟩
      next =>
          rw [← Option.some.inj hs]
          refine ⟨hraspi, text, r, hread, hreg, ?_⟩
          rw [if_pos hsock]
          exact htext

/-- **One step inside the handler.** -/
theorem handler_step (hnd : s₀.reg.ids.Nodup) {a : Action} (h : HandlerAt libc s₀ buff w)
    (hin : inHandler w.gw.pc = true) (hs : mirrorStep libc w a = some w') :
    HandlerAt libc s₀ buff w' := by
  obtain ⟨s', hstep, rfl⟩ := Option.map_eq_some_iff.mp hs
  cases a with
  | packet p =>
      obtain ⟨dev, signalled, -, rfl⟩ := Gateway.packetStep_spec hstep
      exact h.of_eq rfl rfl rfl rfl (List.append_nil _) rfl
  | childWrite request ack id userSet =>
      rw [← Option.some.inj hstep]
      exact h.of_eq rfl rfl rfl rfl (List.append_nil _) rfl
  | usr2 =>
      rw [← Option.some.inj hstep]
      exact h.of_eq rfl rfl rfl rfl (List.append_nil _) rfl
  | main io =>
      cases hpc : w.gw.pc with
      | rxHandle b =>
          unfold HandlerAt at h
          rw [hpc] at h
          obtain ⟨rfl, hreg, htold, hraspi, hsock⟩ := h
          rw [postedText_eq_nil io (by simp [hpc]), List.append_nil]
          have hhandler : w.gw.handlerRxData libc b = some s' := by
            simpa only [step, Gateway.mainStep, hpc] using hstep
          rw [← hreg] at hnd
          rcases handlerRxData_reading hnd hhandler with rfl | ⟨hread, rfl⟩
            | ⟨uid, text, r, screen, hread, rfl⟩
          · trivial
          · rw [hreg] at hread
            show HandlerEffect libc s₀ b _
            unfold HandlerEffect
            rw [hread]
            exact ⟨hreg, htold, hraspi⟩
          -- stored: the client comes next, or the status
          · rw [hreg] at hread
            by_cases hflag : w.gw.sockStatus ≠ 0
            · rw [if_pos hflag, hreg]
              exact ⟨hsock ▸ hflag, hraspi, htold, r, hread, rfl⟩
            · rw [if_neg hflag, hreg]
              refine ⟨hraspi, text, r, hread, rfl, ?_⟩
              rw [if_neg (hsock ▸ hflag)]
              exact htold
      | rxStatus uid =>
          unfold HandlerAt at h
          rw [hpc] at h
          obtain ⟨hraspi, text, r, hread, hreg, htold⟩ := h
          rw [postedText_eq_nil io (by simp [hpc]), List.append_nil]
          simp only [step, Gateway.mainStep, hpc] at hstep
          rw [← Option.some.inj hstep]
          show HandlerEffect libc s₀ buff _
          unfold HandlerEffect
          rw [hread]
          refine ⟨hreg, htold, ?_⟩
          simp only [hraspi]
      | rxSearch =>
          simp only [step, Gateway.mainStep, hpc] at hstep
          rw [← Option.some.inj hstep]
          unfold HandlerAt
          simp only [hpc]
      | post p stage =>
          cases p with
          | dataAvailable uid text => exact dataAvailable_step hpc h hstep
          | _ =>
              rw [hpc] at hin
              exact absurd hin Bool.false_ne_true
      | _ =>
          rw [hpc] at hin
          exact absurd hin Bool.false_ne_true

end Run

/-- **A RESPONSE CHANGES ONLY WHAT IT SHOULD.**  When `handler_rx_data` returns, with
distinct ids in the registry: a response for this gateway from a registered node with
five values has replaced the values in the record of that node, has been told to a
client that is there, and has set the status if the round waits for that node; any
other packet has changed nothing.  Ids, schedules, their number and their order are
as before. -/
theorem response_changes_only {libc : Libc} {s₀ : Gateway} {buff : Buffer packetSize}
    (hpc : s₀.pc = .rxHandle buff) (hnd : s₀.reg.ids.Nodup) {w : Mirrored}
    (h : Reach (mirrorStep libc) (fun w _ => inHandler w.gw.pc = true) ⟨s₀, []⟩ w)
    (hret : w.gw.pc = .rxUnblock) :
    HandlerEffect libc s₀ buff w ∧ w.gw.reg.ids = s₀.reg.ids
      ∧ w.gw.reg.newLoRa.map LoRaNode.workingTime = s₀.reg.newLoRa.map LoRaNode.workingTime
      ∧ w.gw.nodeCount = s₀.nodeCount := by
  have hstart : HandlerAt libc s₀ buff ⟨s₀, []⟩ := by
    unfold HandlerAt
    simp only [hpc]
    exact ⟨trivial, trivial, trivial, trivial, trivial⟩
  have hinv : HandlerAt libc s₀ buff w :=
    Reach.invariant hstart (fun _ _ _ hi hin hs => handler_step hnd hi hin hs) h
  have heffect : HandlerEffect libc s₀ buff w := by
    unfold HandlerAt at hinv
    rwa [hret] at hinv
  refine ⟨heffect, ?_⟩
  unfold HandlerEffect at heffect
  unfold Gateway.nodeCount
  cases hread : s₀.reg.reading libc buff with
  | none =>
      rw [hread] at heffect
      rw [heffect.1]
      exact ⟨rfl, rfl, rfl⟩
  | some said =>
      rw [hread] at heffect
      rw [heffect.1]
      exact ⟨withReading_map (fun _ => rfl), withReading_map (fun _ => rfl), withReading_nodeCount⟩

/-- The answer of node 1 is about to be handled; a client is there. -/
def answerRead : Gateway :=
  { startWith [1] with sockStatus := 1, pc := .rxHandle (cached answerOfNode1) }

/-- It is handled up to the wait, the client takes the text, and the handler returns. -/
theorem response_changes_only_told :
    ∃ w, w.told = [dataAvailableText 1 sampleText] ∧ w.gw.reg.ids = [1]
      ∧ HandlerEffect sampleLibc answerRead (cached answerOfNode1) w := by
  have hrun : (run (only (mirrorStep sampleLibc) (fun w _ => inHandler w.gw.pc)) ⟨answerRead, []⟩
      (mains 4 ++ [.childWrite 0 1 0 TimeSet.zero] ++ mains 2)).map (fun w => (w.told, w.gw.pc))
      = some ([dataAvailableText 1 sampleText], .rxUnblock) := by decide +kernel
  obtain ⟨w, hw, hfields⟩ := Option.map_eq_some_iff.mp hrun
  obtain ⟨htold, hpc⟩ := Prod.mk.inj hfields
  obtain ⟨heffect, hids, -, -⟩ := response_changes_only rfl (by decide) (reach_of_run _ hw) hpc
  exact ⟨w, htold, hids, heffect⟩

end LoRaGateway
