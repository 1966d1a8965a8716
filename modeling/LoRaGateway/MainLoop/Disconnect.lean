/-
  LoRaGateway.MainLoop.Disconnect
  ───────────────────────────────
  **IS A NODE THAT IS REPORTED AS DISCONNECTED ONE THAT WAS ASKED?**

  The report is decided at the end of a round, from `raspi`, `sock_status` and
  `node_count`.  `raspi` still names the node of the last poll when that node has
  been removed during the wait, when the round began without any node, and when
  the poll could not open the device.

  The machine is watched by a `RoundLog`: the packet of the poll that went out,
  whether the polled node has been removed since, and the senders of the
  responses that were stored.

    • `LogInv` — what `raspi` says about the log, in every run,
    • `disconnect_justified_iff` — a report is justified exactly when the round
      began with a poll that went out and the polled node is not removed,
    • `removed_node_reported` — it is removed while another one stays.
-/
import LoRaGateway.MainLoop.PollIndex

namespace LoRaGateway

open LoRaGateway.Lib

/-! ## §1. The log of a round. -/

/-- The REQUEST_DATA packet that went out at the start of this round; whether the
polled node has been removed, and not added again; whose responses were stored. -/
structure RoundLog where
  sent : Option (Buffer packetSize)
  removed : Bool
  accepted : List UInt32

/-- Before the first poll. -/
def RoundLog.empty : RoundLog := ⟨none, false, []⟩

/-- The parent, with the log of its round. -/
structure Logged where
  gw : Gateway
  log : RoundLog

/-- The packet of a poll in this state. -/
def Gateway.pollPacket (io : Io) (s : Gateway) : Option (Buffer packetSize) :=
  (s.reg.newLoRa[s.i]?).bind (fun node => (MainPacket.requestData io.tm).format node.id)

/-- The sender of a response that `handler_rx_data` has just stored. -/
def acceptedAt : Pc → List UInt32
  | .rxStatus uid => [uid]
  | .post (.dataAvailable uid _) .fill => [uid]
  | _ => []

/-- The log after a step of the parent that leads to `pc'`. -/
def Logged.nextLog (w : Logged) (io : Io) (pc' : Pc) : RoundLog :=
  match w.gw.pc with
  | .outer =>
      ⟨if w.gw.nodeCount > 0 ∧ io.opens = true then w.gw.pollPacket io else none, false, []⟩
  | .rxHandle _ => { w.log with accepted := w.log.accepted ++ acceptedAt pc' }
  | .addDev =>
      { w.log with removed := w.log.removed && w.gw.share.idToHandler ≠ w.gw.raspi.idHandling }
  | .removeDev =>
      { w.log with removed := w.log.removed || w.gw.share.idToHandler = w.gw.raspi.idHandling }
  | _ => w.log

/-- A step, logged. -/
def logStep (libc : Libc) (w : Logged) (a : Action) : Option Logged :=
  (step libc w.gw a).map (fun s' =>
    ⟨s', match a with | .main io => w.nextLog io s'.pc | _ => w.log⟩)

/-- The text in `data_to_send` reports a registered node, which was asked at the
start of this round and has not answered since. -/
def Justified (w : Logged) : Prop :=
  ∃ id, w.gw.share.dataToSend = codeText Code.disconnected id ∧ id ∈ w.gw.reg.ids
    ∧ (∃ tm tx, (MainPacket.requestData tm).format id = some tx ∧ w.log.sent = some tx)
    ∧ id ∉ w.log.accepted

/-! ## §2. What `raspi` says about the log. -/

/-- A response of this node is stored, and the status is still to be set. -/
def AcceptPending (id : UInt32) : Pc → Prop
  | .rxStatus uid => uid = id
  | .post (.dataAvailable uid _) _ => uid = id
  | _ => False

/-- How the log and the parent belong together. -/
structure LogInv (w : Logged) : Prop where
  nodup : w.gw.reg.ids.Nodup
  sent : ∀ tx, w.log.sent = some tx →
    ∃ tm, (MainPacket.requestData tm).format w.gw.raspi.idHandling = some tx
  listed : w.log.sent.isSome = true →
    (w.log.removed = false ↔ w.gw.raspi.idHandling ∈ w.gw.reg.ids)
  unanswered : w.gw.raspi.status ≠ handled → w.gw.raspi.idHandling ∈ w.log.accepted →
    AcceptPending w.gw.raspi.idHandling w.gw.pc
  lost : ∀ stage, w.gw.pc = .post .disconnected stage → w.gw.raspi.status ≠ handled
  text : ∀ stage, w.gw.pc = .post .disconnected stage → stage ≠ .fill →
    w.gw.share.dataToSend = codeText Code.disconnected w.gw.raspi.idHandling

section Inv

variable {libc : Libc} {io : Io} {w : Logged} {s' : Gateway}

/-- The poll sends the packet of the log, to the node that `raspi` names then. -/
theorem poll_packet {s : Gateway} (h : s.poll io = some s') :
    ∃ tx, s.pollPacket io = some tx ∧ s.dev.transmit io.opens tx = some s'.dev
      ∧ (MainPacket.requestData io.tm).format s'.raspi.idHandling = some tx
      ∧ s'.raspi.idHandling ∈ s'.reg.ids := by
  unfold Gateway.poll at h
  obtain ⟨node, hnode, h⟩ := Option.bind_eq_some_iff.mp h
  obtain ⟨tx, htx, h⟩ := Option.bind_eq_some_iff.mp h
  obtain ⟨dev, hdev, h⟩ := Option.bind_eq_some_iff.mp h
  rw [← Option.some.inj h]
  refine ⟨tx, ?_, hdev, htx, List.mem_map.mpr ⟨node, List.mem_of_getElem? hnode, rfl⟩⟩
  unfold Gateway.pollPacket
  rw [hnode]
  exact htx

theorem nextLog_sent (houter : w.gw.pc ≠ .outer) (pc' : Pc) :
    (w.nextLog io pc').sent = w.log.sent := by
  unfold Logged.nextLog
  cases hpc : w.gw.pc with
  | outer => exact absurd hpc houter
  | _ => rfl

theorem nextLog_removed (houter : w.gw.pc ≠ .outer) (hadd : w.gw.pc ≠ .addDev)
    (hremove : w.gw.pc ≠ .removeDev) (pc' : Pc) :
    (w.nextLog io pc').removed = w.log.removed := by
  unfold Logged.nextLog
  cases hpc : w.gw.pc with
  | outer => exact absurd hpc houter
  | addDev => exact absurd hpc hadd
  | removeDev => exact absurd hpc hremove
  | _ => rfl

/-- A round begins with an empty log, but for the packet of the poll. -/
theorem outer_sent {tx : Buffer packetSize} (hpc : w.gw.pc = .outer)
    (h : w.gw.mainStep libc io = some s') (htx : (w.nextLog io s'.pc).sent = some tx) :
    (MainPacket.requestData io.tm).format s'.raspi.idHandling = some tx
      ∧ s'.raspi.idHandling ∈ s'.reg.ids := by
  simp only [Logged.nextLog, hpc] at htx
  split at htx
  next hgo =>
      simp only [Gateway.mainStep, hpc] at h
      rw [if_pos hgo.1] at h
      obtain ⟨tx', hpacket, -, hformat, hid⟩ := poll_packet h
      rw [hpacket] at htx
      rw [← Option.some.inj htx]
      exact ⟨hformat, hid⟩
  next => cases htx

theorem main_sent (hinv : LogInv w) (h : w.gw.mainStep libc io = some s') :
    ∀ tx, (w.nextLog io s'.pc).sent = some tx →
      ∃ tm, (MainPacket.requestData tm).format s'.raspi.idHandling = some tx := by
  intro tx htx
  by_cases houter : w.gw.pc = .outer
  · exact ⟨io.tm, (outer_sent houter h htx).1⟩
  · rw [nextLog_sent houter] at htx
    rw [Gateway.mainStep_idHandling houter h]
    exact hinv.sent tx htx

theorem main_listed (hinv : LogInv w) (h : w.gw.mainStep libc io = some s')
    (hsome : (w.nextLog io s'.pc).sent.isSome = true) :
    (w.nextLog io s'.pc).removed = false ↔ s'.raspi.idHandling ∈ s'.reg.ids := by
  by_cases houter : w.gw.pc = .outer
  · obtain ⟨tx, htx⟩ := Option.isSome_iff_exists.mp hsome
    have hid := (outer_sent houter h htx).2
    have hremoved : (w.nextLog io s'.pc).removed = false := by
      unfold Logged.nextLog
      rw [houter]
    exact ⟨fun _ => hid, fun _ => hremoved⟩
  rw [nextLog_sent houter] at hsome
  have hlisted := hinv.listed hsome
  rw [Gateway.mainStep_idHandling houter h]
  by_cases hadd : w.gw.pc = .addDev
  · -- an id that is added is not removed any more
    rw [Gateway.addDev_ids hadd h]
    simp only [Logged.nextLog, hadd]
    rw [Bool.and_eq_false_iff, hlisted, decide_eq_false_iff_not, not_not]
    split
    next hknown =>
        constructor
        · rintro (hid | hid)
          · exact hid
          · rw [← hid]
            exact hknown
        · exact Or.inl
    next =>
        rw [List.mem_append, List.mem_singleton]
        exact or_congr_right eq_comm
  by_cases hremove : w.gw.pc = .removeDev
  · rw [Gateway.removeDev_ids hremove h, hinv.nodup.mem_erase_iff]
    simp only [Logged.nextLog, hremove]
    rw [Bool.or_eq_false_iff, hlisted, decide_eq_false_iff_not, and_comm, ne_comm]
  · rw [nextLog_removed houter hadd hremove, (Gateway.mainStep_frame h).ids hadd hremove]
    exact hlisted

/-- The sender of a stored response is on its way to the status. -/
theorem acceptPending_of_acceptedAt {id : UInt32} {pc : Pc} (h : id ∈ acceptedAt pc) :
    AcceptPending id pc := by
  cases pc with
  | rxStatus uid => exact (List.mem_singleton.mp h).symm
  | post p stage =>
      cases p with
      | dataAvailable uid data =>
          cases stage with
          | fill => exact (List.mem_singleton.mp h).symm
          | _ => cases h
      | _ => cases h
  | _ => cases h

/-- Until the status is set, the parent stays on that way. -/
theorem acceptPending_of_next {id : UInt32} {pc pc' : Pc} (h : Gateway.Next pc pc')
    (hp : AcceptPending id pc) (hstatus : ∀ uid, pc ≠ .rxStatus uid) : AcceptPending id pc' := by
  cases h with
  | status uid => exact absurd rfl (hstatus uid)
  | fill p _ => cases p <;> exact hp
  | clearAck p _ => cases p <;> exact hp
  | signal p => cases p <;> exact hp
  | wait p => exact hp
  | reported uid data => exact hp
  | replied p hreply =>
      cases p with
      | dataAvailable uid data => exact False.elim hreply
      | _ => exact False.elim hp
  | _ => exact False.elim hp

theorem main_unanswered (hinv : LogInv w) (h : w.gw.mainStep libc io = some s')
    (hne : s'.raspi.status ≠ handled)
    (hmem : s'.raspi.idHandling ∈ (w.nextLog io s'.pc).accepted) :
    AcceptPending s'.raspi.idHandling s'.pc := by
  have hframe := Gateway.mainStep_frame h
  cases hpc : w.gw.pc with
  | outer =>
      simp only [Logged.nextLog, hpc] at hmem
      cases hmem
  | rxHandle buff =>
      simp only [Logged.nextLog, hpc] at hmem
      rcases List.mem_append.mp hmem with hold | hnew
      · have hraspi := hframe.raspi (by simp [hpc]) (by simp [hpc])
        rw [hraspi] at hne hold
        have := hinv.unanswered hne hold
        rw [hpc] at this
        exact False.elim this
      · exact acceptPending_of_acceptedAt hnew
  | rxStatus uid =>
      -- the status of the node that is waited for is set now
      simp only [Logged.nextLog, hpc] at hmem
      rw [Gateway.mainStep_idHandling (by simp [hpc]) h] at hmem
      simp only [Gateway.mainStep, hpc] at h
      rw [← Option.some.inj h] at hne
      by_cases huid : uid = w.gw.raspi.idHandling
      · rw [if_pos huid] at hne
        exact absurd rfl hne
      · rw [if_neg huid] at hne
        have := hinv.unanswered hne hmem
        rw [hpc] at this
        exact absurd this huid
  | _ =>
      have hraspi := hframe.raspi (by simp [hpc]) (by simp [hpc])
      simp only [Logged.nextLog, hpc] at hmem
      rw [hraspi] at hne hmem ⊢
      exact acceptPending_of_next hframe.next (hinv.unanswered hne hmem) (by simp [hpc])

/-- The report is written once, and stays until it is sent. -/
theorem main_text (hinv : LogInv w) (h : w.gw.mainStep libc io = some s') {stage : Stage}
    (hpc' : s'.pc = .post .disconnected stage) (hne : stage ≠ .fill) :
    s'.share.dataToSend = codeText Code.disconnected s'.raspi.idHandling := by
  have hframe := Gateway.mainStep_frame h
  have hnext := hframe.next
  rw [hpc'] at hnext
  have hpost : ∃ stage', w.gw.pc = .post .disconnected stage' := by
    rcases Gateway.next_disconnected hnext with hpc | hpost
    · rw [hpc] at hnext
      cases hnext
      exact absurd rfl hne
    · exact hpost
  obtain ⟨stage', hpc⟩ := hpost
  by_cases hfill : stage' = .fill
  · rw [hfill] at hpc
    simp only [Gateway.mainStep, hpc] at h
    rw [← Option.some.inj h]
  · rw [hframe.dataToSend (by simp [hpc, hfill]), hframe.raspi (by simp [hpc]) (by simp [hpc])]
    exact hinv.text stage' hpc hfill

/-- Nothing outside the parent touches what the log speaks of. -/
theorem logStep_inv {w' : Logged} {a : Action} (hinv : LogInv w)
    (hs : logStep libc w a = some w') : LogInv w' := by
  obtain ⟨s', hstep, rfl⟩ := Option.map_eq_some_iff.mp hs
  obtain ⟨hnd, hsent, hlisted, hunanswered, hlost, htext⟩ := hinv
  cases a with
  | main io =>
      have hinv : LogInv w := ⟨hnd, hsent, hlisted, hunanswered, hlost, htext⟩
      exact ⟨Gateway.mainStep_nodup hnd hstep, main_sent hinv hstep, main_listed hinv hstep,
        main_unanswered hinv hstep, fun _ => Gateway.mainStep_lost hlost hstep,
        fun _ => main_text hinv hstep⟩
  | packet p =>
      obtain ⟨dev, signalled, -, rfl⟩ := Gateway.packetStep_spec hstep
      exact ⟨hnd, hsent, hlisted, hunanswered, hlost, htext⟩
  | childWrite request ack id userSet =>
      rw [← Option.some.inj hstep]
      exact ⟨hnd, hsent, hlisted, hunanswered, hlost, htext⟩
  | usr2 =>
      rw [← Option.some.inj hstep]
      exact ⟨hnd, hsent, hlisted, hunanswered, hlost, htext⟩

end Inv

/-! ## §3. Runs. -/

/-- A text with an id in it tells the id. -/
theorem codeText_inj {code : UInt8} {id id' : UInt32} (h : codeText code id = codeText code id') :
    id = id' := by
  have hprint : printId id = printId id' := (List.cons.inj (List.append_cancel_left h)).2
  rw [← atoi_printId id, hprint, atoi_printId]

/-- **WHEN A REPORT IS JUSTIFIED.**  In every run from the loop's start, whatever
`raspi` holds there, a DISCONNECTED that is posted names a registered node that
was sent a REQUEST_DATA at the start of the round and has not answered since,
exactly when the round began with a poll that went out and the polled node is not
removed, or is added again. -/
theorem disconnect_justified_iff {libc : Libc} {s₀ : Gateway} (h0 : s₀.Started)
    (hnd : s₀.reg.ids.Nodup) {w : Logged} (h : Reach (logStep libc) Any ⟨s₀, RoundLog.empty⟩ w)
    (hpc : w.gw.pc = .post .disconnected .signal) :
    Justified w ↔ w.log.sent.isSome = true ∧ w.log.removed = false := by
  have hstart : LogInv ⟨s₀, RoundLog.empty⟩ := by
    have hpost : ∀ stage, s₀.pc ≠ .post .disconnected stage := by simp [h0.pc]
    exact ⟨hnd, fun tx htx => absurd htx (by simp [RoundLog.empty]),
      fun hsome => absurd hsome (by simp [RoundLog.empty]),
      fun _ hmem => absurd hmem (by simp [RoundLog.empty]),
      fun stage hpc₀ => absurd hpc₀ (hpost stage), fun stage hpc₀ => absurd hpc₀ (hpost stage)⟩
  have hinv : LogInv w := Reach.invariant hstart (fun _ _ _ hi _ hs => logStep_inv hi hs) h
  have htext := hinv.text .signal hpc (by decide)
  constructor
  · rintro ⟨id, hdata, hid, ⟨tm, tx, -, hsent⟩, -⟩
    have hsome : w.log.sent.isSome = true := by
      rw [hsent]
      rfl
    rw [htext] at hdata
    rw [← codeText_inj hdata] at hid
    exact ⟨hsome, (hinv.listed hsome).mpr hid⟩
  · rintro ⟨hsome, hremoved⟩
    obtain ⟨tx, htx⟩ := Option.isSome_iff_exists.mp hsome
    obtain ⟨tm, hformat⟩ := hinv.sent tx htx
    refine ⟨w.gw.raspi.idHandling, htext, (hinv.listed hsome).mp hremoved,
      ⟨tm, tx, hformat, htx⟩, fun hmem => ?_⟩
    -- a stored response would have set the status before the end of the round
    have hpending := hinv.unanswered (hinv.lost .signal hpc) hmem
    rw [hpc] at hpending
    exact hpending

/-! ## §4. A removal during the wait. -/

/-- An idle round with a client and a node ends with the report. -/
theorem reported_of_idle (libc : Libc) {n : Nat} {w : Logged} (hpc : w.gw.pc = .head)
    (htime : w.gw.timeout = n + 1) (hne : w.gw.raspi.status ≠ handled) (hsig : w.gw.rxSig = false)
    (hflag : w.gw.socketFlag = false) (hsock : w.gw.sockStatus ≠ 0) (hcount : w.gw.nodeCount > 0) :
    ∃ w', Reach (logStep libc) Any w w' ∧ w'.gw.pc = .post .disconnected .signal
      ∧ w'.log = w.log ∧ w'.gw.reg = w.gw.reg
      ∧ w'.gw.share.dataToSend = codeText Code.disconnected w.gw.raspi.idHandling := by
  have hidle : Reach (logStep libc) Any w ⟨{ w.gw with timeout := 0, pc := .tail }, w.log⟩ := by
    refine idle_reach libc (fun s => (⟨s, w.log⟩ : Logged)) ?_ n w.gw hpc htime hne hsig hflag
    intro s s' hplace hs
    refine ⟨trivial, ?_⟩
    unfold logStep
    rw [hs]
    rcases hplace with hp | hp | hp <;> simp [Logged.nextLog, hp]
  -- the test at the end of the round, the text, and `ack = 0`
  have htail : Gateway.mainStep libc sampleIo { w.gw with timeout := 0, pc := .tail }
      = some { w.gw with timeout := 0, pc := .post .disconnected .fill } :=
    if_pos ⟨hne, hsock, hcount⟩
  have hposts : ∃ w', run (logStep libc) ⟨{ w.gw with timeout := 0, pc := .tail }, w.log⟩ (mains 3)
        = some w' ∧ w'.gw.pc = .post .disconnected .signal ∧ w'.log = w.log ∧ w'.gw.reg = w.gw.reg
      ∧ w'.gw.share.dataToSend = codeText Code.disconnected w.gw.raspi.idHandling := by
    refine ⟨⟨{ w.gw with
      timeout := 0
      pc := .post .disconnected .signal
      share := { w.gw.share with
        dataToSend := codeText Code.disconnected w.gw.raspi.idHandling, ack := 0 } }, w.log⟩,
      ?_, rfl, rfl, rfl, rfl⟩
    show (logStep libc _ _).bind _ = _
    unfold logStep
    simp only [step, htail]
    rfl
  obtain ⟨w', hrun, hout⟩ := hposts
  exact ⟨w', hidle.trans (reach_any_of_run _ hrun), hout⟩

/-- The first of two nodes is polled, and a client connects: the node list, the
data of the nodes, and back to the wait. -/
def pollThenConnect : List Action :=
  mains 2 ++ [.childWrite Code.gotSock 1 0 TimeSet.zero, .usr2] ++ mains 3
    ++ (mains 4 ++ [.childWrite Code.gotSock 1 0 TimeSet.zero, .main sampleIo])
    ++ (mains 4 ++ [.childWrite Code.gotSock 1 0 TimeSet.zero, .main sampleIo]) ++ mains 1
    ++ (mains 4 ++ [.childWrite Code.gotSock 1 0 TimeSet.zero, .main sampleIo])
    ++ (mains 4 ++ [.childWrite Code.gotSock 1 0 TimeSet.zero, .main sampleIo]) ++ mains 2

/-- The client has the node removed that is waited for. -/
def removePolled (id : UInt32) : List Action :=
  [.childWrite Code.removeDevice 0 id TimeSet.zero, .usr2] ++ mains 8
    ++ [.childWrite Code.removeDevice 1 id TimeSet.zero] ++ mains 2

/-- Two nodes, before the first poll. -/
def twoNodesLogged : Logged := ⟨startWith [0x01020304, 0x05060708], RoundLog.empty⟩

/-- A node that does not answer is reported, with reason. -/
theorem disconnect_justified_silent :
    ∃ w, Reach (logStep sampleLibc) Any twoNodesLogged w
      ∧ w.gw.pc = .post .disconnected .signal ∧ Justified w := by
  have hrun : (run (logStep sampleLibc) twoNodesLogged pollThenConnect).map
      (fun w => ((w.gw.pc, w.gw.timeout, w.gw.raspi, w.log.removed),
        (w.gw.rxSig, w.gw.socketFlag, w.gw.sockStatus, w.gw.nodeCount)))
      = some ((.head, 59999, ⟨0x01020304, notDone⟩, false), (false, false, 1, 2)) := by
    decide +kernel
  have hsent : (run (logStep sampleLibc) twoNodesLogged pollThenConnect).map
      (fun w => w.log.sent.isSome) = some true := by decide +kernel
  obtain ⟨w, hw, hfields⟩ := Option.map_eq_some_iff.mp hrun
  rw [hw] at hsent
  simp only [Prod.mk.injEq] at hfields
  obtain ⟨⟨hpc, htime, hraspi, hremoved⟩, hsig, hflag, hsock, hcount⟩ := hfields
  obtain ⟨w', hidle, hpc', hlog, -, -⟩ := reported_of_idle sampleLibc hpc htime
    (by rw [hraspi]; decide) hsig hflag (by rw [hsock]; decide) (by omega)
  have hreach := (reach_any_of_run _ hw).trans hidle
  refine ⟨w', hreach, hpc', ?_⟩
  exact (disconnect_justified_iff (startWith_started _) (by decide) hreach hpc').mpr
    (by rw [hlog]; exact ⟨Option.some.inj hsent, hremoved⟩)

/-- The node that is waited for is removed while another one stays: it is reported
as disconnected although it is not registered any more. -/
theorem removed_node_reported :
    ∃ s₀ w, s₀.Started ∧ s₀.reg.ids.Nodup ∧ Reach (logStep sampleLibc) Any ⟨s₀, RoundLog.empty⟩ w
      ∧ w.gw.pc = .post .disconnected .signal ∧ ¬ Justified w := by
  have hrun : (run (logStep sampleLibc) twoNodesLogged
      (pollThenConnect ++ removePolled 0x01020304)).map
        (fun w => ((w.gw.pc, w.gw.timeout, w.gw.raspi, w.gw.reg.ids),
          (w.gw.rxSig, w.gw.socketFlag, w.gw.sockStatus)))
      = some ((.head, 59998, ⟨0x01020304, notDone⟩, [0x05060708]), (false, false, 1)) := by
    decide +kernel
  obtain ⟨w, hw, hfields⟩ := Option.map_eq_some_iff.mp hrun
  simp only [Prod.mk.injEq] at hfields
  obtain ⟨⟨hpc, htime, hraspi, hids⟩, hsig, hflag, hsock⟩ := hfields
  have hcount : w.gw.reg.ids.length > 0 := by
    rw [hids]
    decide
  unfold Registry.ids at hcount
  rw [List.length_map] at hcount
  obtain ⟨w', hidle, hpc', -, hreg, hdata⟩ := reported_of_idle sampleLibc hpc htime
    (by rw [hraspi]; decide) hsig hflag (by rw [hsock]; decide) hcount
  refine ⟨_, w', startWith_started _, by decide, (reach_any_of_run _ hw).trans hidle, hpc', ?_⟩
  rintro ⟨id, htext, hid, -, -⟩
  rw [hdata] at htext
  rw [← codeText_inj htext, hreg, hids, hraspi] at hid
  exact absurd hid (by decide)

end LoRaGateway
