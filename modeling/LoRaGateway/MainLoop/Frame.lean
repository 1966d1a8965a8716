/-
  LoRaGateway.MainLoop.Frame
  ──────────────────────────
  **WHAT ONE STEP OF THE PARENT CHANGES.**

  Each function of the machine has one lemma that says all it can do; from them
  `mainStep_frame` says, for the fields that the invariants speak of, which
  places in the program change them.  Later proofs use these and do not unfold
  the machine.
-/
import LoRaGateway.MainLoop.Def
import LoRaGateway.Registry.Refinement
import LoRaGateway.Lib.Run

namespace LoRaGateway

open LoRaGateway.Lib

/-! ## §1. The driver. -/

/-- Sending touches the transmit buffer only. -/
theorem LoRaDev.transmit_frame {d d' : LoRaDev} {opens : Bool} {data : Buffer packetSize}
    (h : d.transmit opens data = some d') :
    d'.receiveBuffer = d.receiveBuffer ∧ d'.task = d.task := by
  unfold LoRaDev.transmit at h
  split at h
  · split at h
    · rw [← Option.some.inj h]
      exact ⟨rfl, rfl⟩
    · exact absurd h (by simp)
  · rw [← Option.some.inj h]
    exact ⟨rfl, rfl⟩

/-- The driver never forgets the registered process on its own. -/
theorem LoRaDev.hear_task {d d' : LoRaDev} {p : List UInt8} {signalled : Bool}
    (h : d.hear p = some (d', signalled)) : d'.task = d.task := by
  unfold LoRaDev.hear workqueueFn at h
  simp only [Option.bind_eq_bind] at h
  split at h
  next =>
      obtain ⟨rfl, -⟩ := Prod.mk.inj (Option.some.inj h)
      rfl
  next =>
      obtain ⟨length, -, h⟩ := Option.bind_eq_some_iff.mp h
      obtain ⟨sent, -, h⟩ := Option.bind_eq_some_iff.mp h
      split at h
      · obtain ⟨rfl, -⟩ := Prod.mk.inj (Option.some.inj h)
        rfl
      · obtain ⟨known, -, h⟩ := Option.bind_eq_some_iff.mp h
        split at h
        · obtain ⟨b, -, h⟩ := Option.bind_eq_some_iff.mp h
          obtain ⟨rfl, -⟩ := Prod.mk.inj (Option.some.inj h)
          rfl
        · obtain ⟨rfl, -⟩ := Prod.mk.inj (Option.some.inj h)
          rfl

namespace Gateway

variable {libc : Libc} {io : Io} {s s' : Gateway}

/-! ## §2. One lemma for each function. -/

theorem poll_spec (h : s.poll io = some s') :
    ∃ node dev, s.reg.newLoRa[s.i]? = some node
      ∧ dev.receiveBuffer = s.dev.receiveBuffer ∧ dev.task = s.dev.task
      ∧ s' = { s with raspi := ⟨node.id, notDone⟩, dev := dev, pc := .polled } := by
  unfold poll at h
  obtain ⟨node, hnode, h⟩ := Option.bind_eq_some_iff.mp h
  obtain ⟨tx, -, h⟩ := Option.bind_eq_some_iff.mp h
  obtain ⟨dev, hdev, h⟩ := Option.bind_eq_some_iff.mp h
  obtain ⟨hrecv, htask⟩ := LoRaDev.transmit_frame hdev
  exact ⟨node, dev, hnode, hrecv, htask, (Option.some.inj h).symm⟩

/-- The search of `handler_rx_data` for the sender. -/
def findSender (s : Gateway) (uid : UInt32) : Option Nat :=
  findLoop (fun n => decide (n.id = uid)) s.reg.newLoRa (min s.nodeCount 256) 0

/-- `node_count` is the number of records, so the index of one byte is the only bound. -/
theorem findSender_eq (s : Gateway) (uid : UInt32) :
    s.findSender uid = (s.reg.newLoRa.take 256).findIdx? (fun n => decide (n.id = uid)) := by
  have hmin : s.reg.newLoRa.take (min s.nodeCount 256) = s.reg.newLoRa.take 256 := by
    rw [List.take_eq_take_iff]
    show min (min s.reg.newLoRa.length 256) s.reg.newLoRa.length = _
    omega
  have hle : min s.nodeCount 256 ≤ s.reg.newLoRa.length := Nat.min_le_left _ _
  unfold findSender
  rw [findLoop_take _ hle, hmin]

/-- What the search finds is a record with the id. -/
theorem findSender_some {uid : UInt32} {k : Nat} (h : s.findSender uid = some k) :
    k < 256 ∧ ∃ node, s.reg.newLoRa[k]? = some node ∧ node.id = uid := by
  rw [findSender_eq] at h
  obtain ⟨hlt, hid, -⟩ := List.findIdx?_eq_some_iff_getElem.mp h
  rw [List.length_take] at hlt
  refine ⟨by omega, s.reg.newLoRa[k], List.getElem?_eq_getElem (by omega), ?_⟩
  rw [List.getElem_take] at hid
  exact of_decide_eq_true hid

/-- It finds nothing exactly when none of the first 256 records has the id. -/
theorem findSender_eq_none {uid : UInt32} :
    s.findSender uid = none ↔ uid ∉ s.reg.ids.take 256 := by
  rw [findSender_eq, List.findIdx?_eq_none_iff]
  unfold Registry.ids
  rw [← List.map_take, List.mem_map]
  constructor
  · rintro h ⟨node, hnode, hid⟩
    exact absurd (h node hnode) (by simp [hid])
  · intro h node hnode
    have hne : node.id ≠ uid := fun hid => h ⟨node, hnode, hid⟩
    simpa using hne

section Handler

variable (libc : Libc) (s : Gateway) (buff : Buffer packetSize)

/-- What `handler_rx_data` does with a packet: at which of its checks it turns back,
where it leaves its arrays, and what it stores. -/
inductive RxOutcome : Option Gateway → Prop
  | otherType (htype : buff.bytes.getD 0 0 ≠ Code.responseData) :
      RxOutcome (some { s with pc := .rxUnblock })
  /-- the copy into `foo.data` -/
  | overrun (htype : buff.bytes.getD 0 0 = Code.responseData) (hfoo : unpack buff = none) :
      RxOutcome none
  | elsewhere {foo : LoRaPacket} (htype : buff.bytes.getD 0 0 = Code.responseData)
      (hfoo : unpack buff = some foo) (hdest : foo.destinationId ≠ gatewayId) :
      RxOutcome (some { s with pc := .rxUnblock })
  | unknown {foo : LoRaPacket} (htype : buff.bytes.getD 0 0 = Code.responseData)
      (hfoo : unpack buff = some foo) (hdest : foo.destinationId = gatewayId)
      (hfind : s.findSender foo.uid = none) :
      RxOutcome (some { s with pc := if s.nodeCount < 256 then .rxUnblock else .rxSearch })
  /-- `sscanf` runs off `foo.data` -/
  | unterminated {foo : LoRaPacket} {k : Nat} (htype : buff.bytes.getD 0 0 = Code.responseData)
      (hfoo : unpack buff = some foo) (hdest : foo.destinationId = gatewayId)
      (hfind : s.findSender foo.uid = some k) (hzero : (0 : UInt8) ∉ foo.data.bytes) :
      RxOutcome none
  | unreadable {foo : LoRaPacket} {k : Nat} (htype : buff.bytes.getD 0 0 = Code.responseData)
      (hfoo : unpack buff = some foo) (hdest : foo.destinationId = gatewayId)
      (hfind : s.findSender foo.uid = some k) (hzero : (0 : UInt8) ∈ foo.data.bytes)
      (hscan : libc.sscanf (cstr foo.data.bytes) = none) :
      RxOutcome (some { s with pc := .rxUnblock })
  | stores {foo : LoRaPacket} {k : Nat} {r : Reading} {node : LoRaNode}
      (htype : buff.bytes.getD 0 0 = Code.responseData)
      (hfoo : unpack buff = some foo) (hdest : foo.destinationId = gatewayId)
      (hfind : s.findSender foo.uid = some k) (hzero : (0 : UInt8) ∈ foo.data.bytes)
      (hscan : libc.sscanf (cstr foo.data.bytes) = some r)
      (hnode : s.reg.newLoRa[k]? = some node) (hid : node.id = foo.uid) :
      RxOutcome (some { s with
        reg := { s.reg with newLoRa := s.reg.newLoRa.set k (stored r node) }
        screen := some (nodeInfo (stored r node) s.nodeCount)
        pc := if s.sockStatus ≠ 0 then .post (.dataAvailable foo.uid (cstr foo.data.bytes)) .fill
          else .rxStatus foo.uid })

/-- **`handler_rx_data`, check by check.** -/
theorem handlerRxData_outcome : RxOutcome libc s buff (s.handlerRxData libc buff) := by
  unfold handlerRxData
  by_cases htype : buff.bytes.getD 0 0 = Code.responseData
  · rw [if_neg (fun hne => hne htype)]
    cases hfoo : unpack buff with
    | none => exact .overrun htype hfoo
    | some foo =>
        simp only [Option.bind_eq_bind, Option.bind_some]
        by_cases hdest : foo.destinationId = gatewayId
        · rw [if_neg (fun hne => hne hdest)]
          cases hfind : s.findSender foo.uid with
          | none =>
              have hloop := hfind
              unfold findSender at hloop
              simp only [hloop]
              exact .unknown htype hfoo hdest hfind
          | some k =>
              obtain ⟨-, node, hnode, hid⟩ := findSender_some hfind
              have hloop := hfind
              unfold findSender at hloop
              simp only [hloop]
              by_cases hzero : (0 : UInt8) ∈ foo.data.bytes
              · simp only [strlen_of_mem hzero, Option.bind_some, take_cstr_length]
                cases hscan : libc.sscanf (cstr foo.data.bytes) with
                | none => exact .unreadable htype hfoo hdest hfind hzero hscan
                | some r =>
                    simp only [hnode, Option.bind_some]
                    exact .stores htype hfoo hdest hfind hzero hscan hnode hid
              · rw [strlen_of_not_mem hzero]
                exact .unterminated htype hfoo hdest hfind hzero
        · rw [if_pos hdest]
          exact .elsewhere htype hfoo hdest
  · rw [if_pos htype]
    exact .otherType htype

end Handler

/-- Either the packet is not for a registered node, or its values are stored and
the client or the status comes next. -/
theorem handlerRxData_spec {buff : Buffer packetSize} (h : s.handlerRxData libc buff = some s') :
    s' = { s with pc := .rxUnblock } ∨ s' = { s with pc := .rxSearch }
      ∨ ∃ uid k node text screen, s.findSender uid = some k
        ∧ s' = { s with
            reg := { s.reg with newLoRa := s.reg.newLoRa.set k node }
            screen := some screen
            pc := if s.sockStatus ≠ 0 then .post (.dataAvailable uid text) .fill
              else .rxStatus uid } := by
  have hout := handlerRxData_outcome libc s buff
  rw [h] at hout
  cases hout with
  | otherType => exact Or.inl rfl
  | elsewhere => exact Or.inl rfl
  | unknown =>
      split
      · exact Or.inl rfl
      · exact Or.inr (Or.inl rfl)
  | unreadable => exact Or.inl rfl
  | stores _ _ _ hfind => exact Or.inr (Or.inr ⟨_, _, _, _, _, hfind, rfl⟩)

theorem modeStep_spec {kind : ModeKind} {tmp : Nat} (h : s.modeStep io kind tmp = some s') :
    s' = { s with pc := .clear } ∨ s' = { s with pc := .modeLoop kind (tmp + 1) }
      ∨ ∃ node dev, dev.receiveBuffer = s.dev.receiveBuffer ∧ dev.task = s.dev.task
        ∧ s' = { s with
            reg := { s.reg with newLoRa := s.reg.newLoRa.set tmp node }, dev := dev, pc := .clear } := by
  unfold modeStep at h
  split at h
  next =>
      obtain ⟨node, -, h⟩ := Option.bind_eq_some_iff.mp h
      split at h
      next =>
          obtain ⟨tx, -, h⟩ := Option.bind_eq_some_iff.mp h
          obtain ⟨dev, hdev, h⟩ := Option.bind_eq_some_iff.mp h
          obtain ⟨hrecv, htask⟩ := LoRaDev.transmit_frame hdev
          exact Or.inr (Or.inr ⟨_, dev, hrecv, htask, (Option.some.inj h).symm⟩)
      next => exact Or.inr (Or.inl (Option.some.inj h).symm)
  next => exact Or.inl (Option.some.inj h).symm

/-- A record that is replaced by one with the same id. -/
theorem ids_set {r : Registry} {k : Nat} {old node : LoRaNode} (hold : r.newLoRa[k]? = some old)
    (hid : node.id = old.id) :
    ({ r with newLoRa := r.newLoRa.set k node } : Registry).ids = r.ids := by
  obtain ⟨hk, rfl⟩ := List.getElem?_eq_some_iff.mp hold
  show (r.newLoRa.set k node).map LoRaNode.id = r.newLoRa.map LoRaNode.id
  rw [List.map_set, hid]
  apply List.ext_getElem
  · rw [List.length_set]
  · intro j _ _
    rw [List.getElem_set, List.getElem_map]
    split
    next hkj => simp [hkj]
    next => rfl

/-- Storing the values of a response keeps the ids. -/
theorem handlerRxData_ids {buff : Buffer packetSize} (h : s.handlerRxData libc buff = some s') :
    s'.reg.ids = s.reg.ids := by
  have hout := handlerRxData_outcome libc s buff
  rw [h] at hout
  cases hout with
  | otherType => rfl
  | elsewhere => rfl
  | unknown => rfl
  | unreadable => rfl
  | stores _ _ _ _ _ _ hnode => exact ids_set hnode rfl

/-- So does storing a schedule. -/
theorem modeStep_ids {kind : ModeKind} {tmp : Nat} (h : s.modeStep io kind tmp = some s') :
    s'.reg.ids = s.reg.ids := by
  unfold modeStep at h
  split at h
  next =>
      obtain ⟨node, hnode, h⟩ := Option.bind_eq_some_iff.mp h
      split at h
      next =>
          obtain ⟨tx, -, h⟩ := Option.bind_eq_some_iff.mp h
          obtain ⟨dev, -, h⟩ := Option.bind_eq_some_iff.mp h
          rw [← Option.some.inj h]
          cases kind with
          | manual => exact ids_set hnode rfl
          | auto => exact ids_set hnode rfl
      next => rw [← Option.some.inj h]
  next => rw [← Option.some.inj h]

/-- The `switch` goes to one of the requests, or has nothing to do. -/
theorem dispatch_spec (s : Gateway) :
    ∃ pc sockStatus, s.dispatch = { s with pc := pc, sockStatus := sockStatus }
      ∧ (pc = .addDev ∨ pc = .removeDev ∨ pc = .scanList 0 ∨ pc = .clear
        ∨ ∃ kind, pc = .modeLoop kind 0) := by
  unfold dispatch
  simp only
  split
  · exact ⟨.addDev, s.sockStatus, rfl, Or.inl rfl⟩
  split
  · exact ⟨.removeDev, s.sockStatus, rfl, Or.inr (Or.inl rfl)⟩
  split
  · exact ⟨.scanList 0, s.sockStatus, rfl, Or.inr (Or.inr (Or.inl rfl))⟩
  split
  · exact ⟨.clear, 0, rfl, Or.inr (Or.inr (Or.inr (Or.inl rfl)))⟩
  split
  · exact ⟨.modeLoop .manual 0, s.sockStatus, rfl, Or.inr (Or.inr (Or.inr (Or.inr ⟨_, rfl⟩)))⟩
  split
  · exact ⟨.modeLoop .auto 0, s.sockStatus, rfl, Or.inr (Or.inr (Or.inr (Or.inr ⟨_, rfl⟩)))⟩
  · exact ⟨.clear, s.sockStatus, rfl, Or.inr (Or.inr (Or.inr (Or.inl rfl)))⟩

/-- A packet changes the driver, and SIGUSR1 runs its handler or waits. -/
theorem packetStep_spec {p : List UInt8} (h : s.packetStep p = some s') :
    ∃ dev signalled, s.dev.hear p = some (dev, signalled)
      ∧ s' = { s with
          dev := dev
          rxSig := s.rxSig || (signalled && !s.usr1Blocked)
          usr1Pending := s.usr1Pending || (signalled && s.usr1Blocked) } := by
  unfold packetStep at h
  obtain ⟨⟨dev, signalled⟩, hhear, h⟩ := Option.bind_eq_some_iff.mp h
  refine ⟨dev, signalled, hhear, ?_⟩
  rw [← Option.some.inj h]
  unfold raiseUsr1
  cases signalled <;> cases s.usr1Blocked <;> simp

/-! ## §3. The places and the ways between them. -/

/-- The answers to ADD_DEVICE and REMOVE_DEVICE. -/
def IsReply : Post → Prop
  | .addFailed | .added | .removeFailed | .removed => True
  | _ => False

/-- The flow graph of the parent's code. -/
inductive Next : Pc → Pc → Prop where
  | poll : Next .outer .polled
  | noPoll : Next .outer .head
  | index : Next .polled .head
  | leave : Next .head .tail
  | iterate : Next .head .rxTest
  | signalled : Next .rxTest .rxBlocked
  | quiet : Next .rxTest .sock
  | answered : Next .rxBlocked .sock
  | receive : Next .rxBlocked .rxRecv
  | received (buff : Buffer packetSize) : Next .rxRecv (.rxHandle buff)
  | rejected (buff : Buffer packetSize) : Next (.rxHandle buff) .rxUnblock
  | lost (buff : Buffer packetSize) : Next (.rxHandle buff) .rxSearch
  | report (buff : Buffer packetSize) (uid : UInt32) (data : List UInt8) :
      Next (.rxHandle buff) (.post (.dataAvailable uid data) .fill)
  | store (buff : Buffer packetSize) (uid : UInt32) : Next (.rxHandle buff) (.rxStatus uid)
  | search : Next .rxSearch .rxSearch
  | status (uid : UInt32) : Next (.rxStatus uid) .rxUnblock
  | unblock : Next .rxUnblock .rxClear
  | clearRx : Next .rxClear .sock
  | idle : Next .sock .head
  | add : Next .sock .addDev
  | remove : Next .sock .removeDev
  | connect : Next .sock (.scanList 0)
  | order (kind : ModeKind) : Next .sock (.modeLoop kind 0)
  | ignore : Next .sock .clear
  | addFailed : Next .addDev (.post .addFailed .fill)
  | added : Next .addDev (.post .added .fill)
  | removeFailed : Next .removeDev (.post .removeFailed .fill)
  | removed : Next .removeDev (.post .removed .fill)
  | nodeList (k : Nat) : Next (.scanList k) (.post (.nodeList k) .clearAck)
  | listEnd (k : Nat) : Next (.scanList k) (.scanData 0)
  | nodeData (k : Nat) : Next (.scanData k) (.post (.nodeData k) .fill)
  | dataEnd (k : Nat) : Next (.scanData k) .clear
  | modeNext (kind : ModeKind) (tmp : Nat) : Next (.modeLoop kind tmp) (.modeLoop kind (tmp + 1))
  | modeEnd (kind : ModeKind) (tmp : Nat) : Next (.modeLoop kind tmp) .clear
  | clear : Next .clear .head
  | disconnected : Next .tail (.post .disconnected .fill)
  | round : Next .tail .outer
  | fill (p : Post) (h : ∀ k, p ≠ .nodeList k) : Next (.post p .fill) (.post p .clearAck)
  | fillList (k : Nat) : Next (.post (.nodeList k) .fill) (.post (.nodeList k) .signal)
  | clearAck (p : Post) (h : ∀ k, p ≠ .nodeList k) : Next (.post p .clearAck) (.post p .signal)
  | clearAckList (k : Nat) : Next (.post (.nodeList k) .clearAck) (.post (.nodeList k) .fill)
  | signal (p : Post) : Next (.post p .signal) (.post p .wait)
  | wait (p : Post) : Next (.post p .wait) (.post p .wait)
  | listed (k : Nat) : Next (.post (.nodeList k) .wait) (.scanList (k + 1))
  | told (k : Nat) : Next (.post (.nodeData k) .wait) (.scanData (k + 1))
  | reported (uid : UInt32) (data : List UInt8) :
      Next (.post (.dataAvailable uid data) .wait) (.rxStatus uid)
  | roundAfter : Next (.post .disconnected .wait) .outer
  | replied (p : Post) (h : IsReply p) : Next (.post p .wait) .clear

theorem next_rxTest {pc : Pc} (h : Next pc .rxTest) : pc = .head := by
  cases h
  rfl

theorem next_rxBlocked {pc : Pc} (h : Next pc .rxBlocked) : pc = .rxTest := by
  cases h
  rfl

/-- Only the end of a round leads to the report of a lost node. -/
theorem next_disconnected {pc : Pc} {stage : Stage} (h : Next pc (.post .disconnected stage)) :
    pc = .tail ∨ ∃ stage', pc = .post .disconnected stage' := by
  cases h with
  | disconnected => exact Or.inl rfl
  | _ => exact Or.inr ⟨_, rfl⟩

/-! ## §4. The frame of a step. -/

/-- What a step of the parent leaves as it was, field by field: outside the
places named, nothing happens to the field.  A field that a step does not write
needs no proof. -/
structure Frame (s s' : Gateway) : Prop where
  next : Next s.pc s'.pc
  i : s.pc ≠ .polled → s'.i = s.i := by intros; rfl
  nodeCount : s.pc ≠ .addDev → s.pc ≠ .removeDev → s'.nodeCount = s.nodeCount := by intros; rfl
  ids : s.pc ≠ .addDev → s.pc ≠ .removeDev → s'.reg.ids = s.reg.ids := by intros; rfl
  sockStatus : s.pc ≠ .sock → (∀ k, s.pc ≠ .scanData k) →
    s'.sockStatus = s.sockStatus := by intros; rfl
  raspi : s.pc ≠ .outer → (∀ uid, s.pc ≠ .rxStatus uid) → s'.raspi = s.raspi := by intros; rfl
  timeout : s.pc ≠ .head → s'.pc ≠ .outer → s'.timeout = s.timeout := by intros; rfl
  restart : s'.pc = .outer → s'.timeout = scanDuration := by intro h; cases h
  receiveBuffer : s'.dev.receiveBuffer = s.dev.receiveBuffer := by rfl
  task : s'.dev.task = s.dev.task := by rfl
  rxSig : s.pc ≠ .rxBlocked → s.pc ≠ .rxUnblock → s.pc ≠ .rxClear →
    s'.rxSig = s.rxSig := by intros; rfl
  usr1Blocked : s.pc ≠ .rxTest → s.pc ≠ .rxUnblock → s'.usr1Blocked = s.usr1Blocked := by intros; rfl
  usr1Pending : s.pc ≠ .rxUnblock → s'.usr1Pending = s.usr1Pending := by intros; rfl
  socketFlag : s.pc ≠ .clear → s'.socketFlag = s.socketFlag := by intros; rfl
  childUsr2 : (∀ p, s.pc ≠ .post p .signal) → s'.childUsr2 = s.childUsr2 := by intros; rfl
  request : s'.share.request = s.share.request := by rfl
  idToHandler : s'.share.idToHandler = s.share.idToHandler := by rfl
  userSet : s'.share.userSet = s.share.userSet := by rfl
  ack : (∀ p, s.pc ≠ .post p .clearAck) → s'.share.ack = s.share.ack := by intros; rfl
  dataToSend : (∀ p, s.pc ≠ .post p .fill) → s'.share.dataToSend = s.share.dataToSend := by
    intros; rfl

/-- Storing the values of a response does not change the number of records. -/
theorem nodeCount_set (s : Gateway) (k : Nat) (node : LoRaNode) :
    ({ s.reg with newLoRa := s.reg.newLoRa.set k node } : Registry).nodeCount = s.nodeCount :=
  List.length_set

/-- A place that posts moves to its next stage, waits, or goes on after the wait. -/
theorem postStep_frame {p : Post} {stage : Stage} (hpc : s.pc = .post p stage)
    (h : s.postStep libc p stage = some s') : Frame s s' := by
  unfold postStep at h
  cases stage with
  | fill =>
      obtain ⟨text, -, h⟩ := Option.bind_eq_some_iff.mp h
      rw [← Option.some.inj h]
      cases p with
      -- `scan_node_list` has cleared `ack` before
      | nodeList k => exact { next := hpc ▸ Next.fillList k, dataToSend := fun hne => absurd hpc (hne _) }
      | _ =>
          exact { next := hpc ▸ Next.fill _ (by simp)
                  dataToSend := fun hne => absurd hpc (hne _) }
  | clearAck =>
      rw [← Option.some.inj h]
      cases p with
      | nodeList k => exact { next := hpc ▸ Next.clearAckList k, ack := fun hne => absurd hpc (hne _) }
      | _ =>
          exact { next := hpc ▸ Next.clearAck _ (by simp)
                  ack := fun hne => absurd hpc (hne _) }
  | signal =>
      rw [← Option.some.inj h]
      exact { next := hpc ▸ Next.signal p, childUsr2 := fun hne => absurd hpc (hne p) }
  | wait =>
      simp only at h
      split at h
      -- `ack` is still clear
      next =>
          rw [← Option.some.inj h]
          exact { next := by rw [hpc]; exact Next.wait p
                  restart := by rw [hpc]; intro hne; cases hne }
      next =>
          rw [← Option.some.inj h]
          cases p with
          | nodeList k => exact { next := hpc ▸ Next.listed k }
          | nodeData k => exact { next := hpc ▸ Next.told k }
          | dataAvailable uid data => exact { next := hpc ▸ Next.reported uid data }
          | disconnected =>
              exact { next := hpc ▸ Next.roundAfter, timeout := fun _ hne => absurd rfl hne
                      restart := fun _ => rfl }
          | _ => exact { next := hpc ▸ Next.replied _ trivial }

/-- **What a step of the parent can do**, place by place. -/
theorem mainStep_frame (h : s.mainStep libc io = some s') : Frame s s' := by
  unfold mainStep at h
  cases hpc : s.pc with
  | outer =>
      simp only [hpc] at h
      split at h
      next =>
          obtain ⟨node, dev, -, hrecv, htask, rfl⟩ := poll_spec h
          exact { next := hpc ▸ Next.poll, raspi := fun hne => absurd hpc hne
                  receiveBuffer := hrecv, task := htask }
      next =>
          rw [← Option.some.inj h]
          exact { next := hpc ▸ Next.noPoll }
  | polled =>
      simp only [hpc] at h
      rw [← Option.some.inj h]
      exact { next := hpc ▸ Next.index, i := fun hne => absurd hpc hne }
  | head =>
      simp only [hpc, headStep] at h
      rw [← Option.some.inj h]
      split
      · exact { next := hpc ▸ Next.leave, timeout := fun hne => absurd hpc hne }
      · exact { next := hpc ▸ Next.iterate, timeout := fun hne => absurd hpc hne }
  | rxTest =>
      simp only [hpc] at h
      split at h
      · rw [← Option.some.inj h]
        exact { next := hpc ▸ Next.signalled, usr1Blocked := fun hne => absurd hpc hne }
      · rw [← Option.some.inj h]
        exact { next := hpc ▸ Next.quiet }
  | rxBlocked =>
      simp only [hpc] at h
      split at h
      · rw [← Option.some.inj h]
        exact { next := hpc ▸ Next.answered, rxSig := fun hne => absurd hpc hne }
      · rw [← Option.some.inj h]
        exact { next := hpc ▸ Next.receive }
  | rxRecv =>
      simp only [hpc] at h
      obtain ⟨out, -, h⟩ := Option.bind_eq_some_iff.mp h
      rw [← Option.some.inj h]
      exact { next := hpc ▸ Next.received out.2 }
  | rxHandle buff =>
      simp only [hpc] at h
      have hids := handlerRxData_ids h
      -- not an answer for this gateway, or no end of the search, or a record is stored
      rcases handlerRxData_spec h with rfl | rfl | ⟨uid, k, node, text, screen, -, rfl⟩
      · exact { next := hpc ▸ Next.rejected buff }
      · exact { next := hpc ▸ Next.lost buff }
      · split
        · exact { next := hpc ▸ Next.report buff uid text
                  nodeCount := fun _ _ => nodeCount_set s k node
                  ids := fun _ _ => hids }
        · exact { next := hpc ▸ Next.store buff uid
                  nodeCount := fun _ _ => nodeCount_set s k node
                  ids := fun _ _ => hids }
  | rxSearch =>
      simp only [hpc] at h
      rw [← Option.some.inj h]
      exact { next := by rw [hpc]; exact Next.search
              restart := by rw [hpc]; intro hne; cases hne }
  -- the only write to `raspi` besides the poll
  | rxStatus uid =>
      simp only [hpc] at h
      rw [← Option.some.inj h]
      exact { next := hpc ▸ Next.status uid, raspi := fun _ hne => absurd hpc (hne uid) }
  | rxUnblock =>
      simp only [hpc] at h
      rw [← Option.some.inj h]
      exact { next := hpc ▸ Next.unblock, rxSig := fun _ hne => absurd hpc hne
              usr1Blocked := fun _ hne => absurd hpc hne
              usr1Pending := fun hne => absurd hpc hne }
  | rxClear =>
      simp only [hpc] at h
      rw [← Option.some.inj h]
      exact { next := hpc ▸ Next.clearRx, rxSig := fun _ _ hne => absurd hpc hne }
  | sock =>
      simp only [hpc] at h
      split at h
      next =>
          obtain ⟨pc, sockStatus, hd, hto⟩ := dispatch_spec s
          rw [← Option.some.inj h, hd]
          rcases hto with rfl | rfl | rfl | rfl | ⟨kind, rfl⟩
          · exact { next := hpc ▸ Next.add, sockStatus := fun hne => absurd hpc hne }
          · exact { next := hpc ▸ Next.remove, sockStatus := fun hne => absurd hpc hne }
          · exact { next := hpc ▸ Next.connect, sockStatus := fun hne => absurd hpc hne }
          · exact { next := hpc ▸ Next.ignore, sockStatus := fun hne => absurd hpc hne }
          · exact { next := hpc ▸ Next.order kind, sockStatus := fun hne => absurd hpc hne }
      next =>
          rw [← Option.some.inj h]
          exact { next := hpc ▸ Next.idle }
  | addDev =>
      simp only [hpc] at h
      rw [← Option.some.inj h]
      refine { next := ?_, nodeCount := fun hne => absurd hpc hne, ids := fun hne => absurd hpc hne }
      rw [hpc]
      show Next _ (.post (if _ then _ else _) _)
      split
      · exact Next.addFailed
      · exact Next.added
  | removeDev =>
      simp only [hpc] at h
      rw [← Option.some.inj h]
      refine { next := ?_, nodeCount := fun _ hne => absurd hpc hne
               ids := fun _ hne => absurd hpc hne }
      rw [hpc]
      show Next _ (.post (if _ then _ else _) _)
      split
      · exact Next.removeFailed
      · exact Next.removed
  | scanList k =>
      simp only [hpc, scanListStep] at h
      rw [← Option.some.inj h]
      split
      · exact { next := hpc ▸ Next.nodeList k }
      · exact { next := hpc ▸ Next.listEnd k }
  | scanData k =>
      simp only [hpc, scanDataStep] at h
      rw [← Option.some.inj h]
      split
      · exact { next := hpc ▸ Next.nodeData k }
      · exact { next := hpc ▸ Next.dataEnd k, sockStatus := fun _ hne => absurd hpc (hne k) }
  | modeLoop kind tmp =>
      simp only [hpc] at h
      have hids := modeStep_ids h
      rcases modeStep_spec h with rfl | rfl | ⟨node, dev, hrecv, htask, rfl⟩
      · exact { next := hpc ▸ Next.modeEnd kind tmp }
      · exact { next := hpc ▸ Next.modeNext kind tmp }
      · exact { next := hpc ▸ Next.modeEnd kind tmp
                nodeCount := fun _ _ => nodeCount_set s tmp node
                ids := fun _ _ => hids
                receiveBuffer := hrecv, task := htask }
  -- the only write to `socket_flag`
  | clear =>
      simp only [hpc] at h
      rw [← Option.some.inj h]
      exact { next := hpc ▸ Next.clear, socketFlag := fun hne => absurd hpc hne }
  | tail =>
      simp only [hpc] at h
      split at h
      · rw [← Option.some.inj h]
        exact { next := hpc ▸ Next.disconnected }
      · rw [← Option.some.inj h]
        exact { next := hpc ▸ Next.round, timeout := fun _ hne => absurd rfl hne
                restart := fun _ => rfl }
  | post p stage =>
      simp only [hpc] at h
      exact postStep_frame hpc h

/-! ## §5. The registered ids. -/

theorem addDev_ids (hpc : s.pc = .addDev) (h : s.mainStep libc io = some s') :
    s'.reg.ids = if s.share.idToHandler ∈ s.reg.ids then s.reg.ids
      else s.reg.ids ++ [s.share.idToHandler] := by
  simp only [mainStep, hpc] at h
  rw [← Option.some.inj h]
  exact addDevice_ids io.host s.share.idToHandler s.reg

theorem removeDev_ids (hpc : s.pc = .removeDev) (h : s.mainStep libc io = some s') :
    s'.reg.ids = s.reg.ids.erase s.share.idToHandler := by
  simp only [mainStep, hpc] at h
  rw [← Option.some.inj h]
  exact removeDevice_ids io.host s.share.idToHandler s.reg

/-- No step makes an id appear twice. -/
theorem mainStep_nodup (hnd : s.reg.ids.Nodup) (h : s.mainStep libc io = some s') :
    s'.reg.ids.Nodup := by
  by_cases hadd : s.pc = .addDev
  · rw [addDev_ids hadd h]
    split
    next => exact hnd
    next hid =>
        rw [List.nodup_append']
        exact ⟨hnd, List.nodup_singleton _, by simpa using hid⟩
  by_cases hremove : s.pc = .removeDev
  · rw [removeDev_ids hremove h]
    exact hnd.erase _
  · rw [(mainStep_frame h).ids hadd hremove]
    exact hnd

/-- Only a poll changes the id that the round waits for. -/
theorem mainStep_idHandling (houter : s.pc ≠ .outer) (h : s.mainStep libc io = some s') :
    s'.raspi.idHandling = s.raspi.idHandling := by
  have hframe := mainStep_frame h
  cases hpc : s.pc with
  | rxStatus uid =>
      simp only [mainStep, hpc] at h
      rw [← Option.some.inj h]
      split <;> rfl
  | _ => rw [hframe.raspi houter (by simp [hpc])]

/-! ## §6. The status in the wait loop. -/

/-- The head of the loop has just tested the status. -/
theorem mainStep_unanswered
    (hold : s.pc = .rxTest ∨ s.pc = .rxBlocked → s.raspi.status ≠ handled)
    (h : s.mainStep libc io = some s') (hpc' : s'.pc = .rxTest ∨ s'.pc = .rxBlocked) :
    s'.raspi.status ≠ handled := by
  have hframe := mainStep_frame h
  have hnext := hframe.next
  rcases hpc' with hpc' | hpc'
  · rw [hpc'] at hnext
    have hpc := next_rxTest hnext
    rw [hframe.raspi (by simp [hpc]) (by simp [hpc])]
    simp only [mainStep, hpc, headStep] at h
    rw [← Option.some.inj h] at hpc'
    split at hpc'
    next => cases hpc'
    next hgo => exact fun hs => hgo (Or.inr hs)
  · rw [hpc'] at hnext
    have hpc := next_rxBlocked hnext
    rw [hframe.raspi (by simp [hpc]) (by simp [hpc])]
    exact hold (Or.inl hpc)

/-- A node is lost when it has not answered. -/
theorem mainStep_lost
    (hold : ∀ stage, s.pc = .post .disconnected stage → s.raspi.status ≠ handled)
    (h : s.mainStep libc io = some s') {stage : Stage} (hpc' : s'.pc = .post .disconnected stage) :
    s'.raspi.status ≠ handled := by
  have hframe := mainStep_frame h
  have hnext := hframe.next
  rw [hpc'] at hnext
  rcases next_disconnected hnext with hpc | ⟨stage', hpc⟩
  · rw [hframe.raspi (by simp [hpc]) (by simp [hpc])]
    simp only [mainStep, hpc] at h
    split at h
    next hlost => exact hlost.1
    next =>
        rw [← Option.some.inj h] at hpc'
        cases hpc'
  · rw [hframe.raspi (by simp [hpc]) (by simp [hpc])]
    exact hold stage' hpc

end Gateway

end LoRaGateway
