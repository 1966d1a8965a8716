/-
  LoRaGateway.Session.Ledger
  ──────────────────────────
  **THE ORDERS ISSUED AND EXECUTED**: a ledger of what the child announces (at its
  `kill`) and of what the parent's `switch` does.

  There is one slot for a request and its arguments, and one flag.  The orders
  that are issued and not executed are at most two: `Taking` is the one whose flag
  is set, `Sending` the one whose signal is on its way.

    • `OneByOne` — a field of the slot is overwritten only after it has been read,
      and SIGUSR2 arrives while the flag is clear,
    • `ExactlyOnce` — what is issued is what is executed and what is waiting,
    • `executes_done` — what the ledger enters is what the parent does,
    • `mainStep_taking` / `mainStep_named` — the parent executes the order it has
      taken, and its reply names the id of that order.
-/
import LoRaGateway.Session.Def

namespace LoRaGateway

open LoRaGateway.Lib

/-! ## §1. The ledger. -/

/-- The system with the orders issued and executed so far. -/
structure Ledger where
  sys : System
  issued : List Order
  executed : List Order

/-- The order that a step of the child announces. -/
def issues (c : Child) : Move → List Order
  | .accept =>
      match c.accept with
      | .killGot => [.connect]
      | .killCtl => [.disconnect]
      | _ => []
  | .recv _ =>
      match c.recv with
      | .ops (.kill o :: _) => [o]
      | _ => []
  | _ => []

/-- The search of a mode loop ends in this round. -/
def modeEnds (s : Gateway) (tmp : Nat) : Prop :=
  s.nodeCount ≤ tmp ∨ (s.reg.newLoRa[tmp]?).map LoRaNode.id = some s.share.idToHandler

instance (s : Gateway) (tmp : Nat) : Decidable (modeEnds s tmp) :=
  inferInstanceAs (Decidable (_ ∨ _))

/-- The order that a change of mode carries out. -/
def modeOrder (d : DeviceCommand) : ModeKind → Order
  | .manual => .manual d.idToHandler d.userSet
  | .auto => .auto d.idToHandler

/-- The order that a step of the parent executes: what the `switch` does with the
shared memory as it is then. -/
def executes (s : Gateway) : List Order :=
  match s.pc with
  | .sock =>
      if s.socketFlag then
        if s.share.request = Code.gotSock then [.connect]
        else if s.share.request = Code.ctlSock then [.disconnect]
        else []
      else []
  | .addDev => [.add s.share.idToHandler]
  | .removeDev => [.remove s.share.idToHandler]
  | .modeLoop kind tmp => if modeEnds s tmp then [modeOrder s.share kind] else []
  | _ => []

/-- Only the parent executes. -/
def executedBy (s : Gateway) : Move → List Order
  | .parent _ => executes s
  | _ => []

/-- A step, with the orders that it issues and carries out. -/
def ledgerStep (libc : Libc) (l : Ledger) (m : Move) : Option Ledger :=
  (sysStep libc l.sys m).map (fun y =>
    ⟨y, l.issued ++ issues l.sys.child m, l.executed ++ executedBy l.sys.gw m⟩)

/-! ## §2. The condition. -/

/-- The parts of the parent's code, as the slot sees them. -/
inductive Region where
  | outside
  | executing
  | replying
  | served
  deriving DecidableEq

/-- `executing` still reads the arguments, `replying` the id, `served` nothing
any more. -/
def region : Pc → Region
  | .addDev | .removeDev | .modeLoop _ _ => .executing
  | .post .added .fill | .post .removed .fill => .replying
  | .post .added _ | .post .removed _ | .post .addFailed _ | .post .removeFailed _ => .served
  | .post (.nodeList _) _ | .post (.nodeData _) _ => .served
  | .scanList _ | .scanData _ | .clear => .served
  | _ => .outside

/-- The parent has read the field that `w` overwrites.  For a request: no signal
is on its way, and the last one went through the `switch`.  For an argument: the
reply is written as well. -/
def Free (y : System) : Store → Prop
  | .request _ => y.usr2 = false ∧ (y.gw.socketFlag = false ∨ region y.gw.pc ≠ .outside)
  | .idToHandler _ | .userSet _ _ => y.gw.socketFlag = false ∨ region y.gw.pc = .served

/-- Fields are overwritten only when they are free, and SIGUSR2 arrives while the
flag is clear. -/
def OneByOne (l : Ledger) : Move → Prop
  | .accept =>
      (l.sys.child.accept = .storeGot → Free l.sys (.request Code.gotSock))
        ∧ (l.sys.child.accept = .storeCtl → Free l.sys (.request Code.ctlSock))
  | .recv _ => ∀ w rest, l.sys.child.recv = .ops (.store w :: rest) → Free l.sys w
  | .parentUsr2 => l.sys.gw.socketFlag = false
  | _ => True

/-! ## §3. Orders that are not executed yet. -/

/-- A message whose request is stored, with more to come. -/
def UnderWay : List ChildOp → Prop
  | [] => False
  | .store (.request _) :: _ => False
  | _ => True

/-- The child has stored a request and not yet sent the signal. -/
def MidWriting (c : Child) : Prop :=
  c.accept = .killGot ∨ c.accept = .killCtl ∨ ∃ ops, c.recv = .ops ops ∧ UnderWay ops

/-- The order that this place executes. -/
def Executing : Pc → Order → Prop
  | .addDev, .add _ => True
  | .removeDev, .remove _ => True
  | .modeLoop .manual _, .manual _ _ => True
  | .modeLoop .auto _, .auto _ => True
  | _, _ => False

/-- The orders whose flag is set and that the parent has still to execute. -/
inductive Taking (y : System) : List Order → Prop where
  | idle (hflag : y.gw.socketFlag = false) (hpc : region y.gw.pc = .outside) : Taking y []
  /-- the test of the flag is ahead; the slot holds the order -/
  | noticed (o : Order) (hflag : y.gw.socketFlag = true) (hpc : region y.gw.pc = .outside)
      (husr2 : y.usr2 = false) (hmid : ¬ MidWriting y.child) (hin : o.In y.gw.share) :
      Taking y [o]
  /-- inside the `switch`; the slot holds the arguments -/
  | executing (o : Order) (hflag : y.gw.socketFlag = true) (hpc : Executing y.gw.pc o)
      (hargs : o.ArgsIn y.gw.share) : Taking y [o]
  | executed (hflag : y.gw.socketFlag = true)
      (hpc : region y.gw.pc = .replying ∨ region y.gw.pc = .served) : Taking y []

/-- The orders whose signal is on its way. -/
inductive Sending (y : System) : List Order → Prop where
  | quiet (husr2 : y.usr2 = false) : Sending y []
  /-- the slot holds the order -/
  | sent (o : Order) (husr2 : y.usr2 = true) (hmid : ¬ MidWriting y.child)
      (hin : o.In y.gw.share) : Sending y [o]

/-- The text of a reply names the id of the order executed last. -/
def Names (executed : List Order) (text : List UInt8) : Post → Prop
  | .added => ∃ id, executed.getLast? = some (.add id) ∧ text = codeText Code.addDevice id
  | .removed => ∃ id, executed.getLast? = some (.remove id) ∧ text = codeText Code.removeDevice id
  | _ => True

/-- The id of a reply is in the slot until the text is written, then in the text. -/
def Named (executed : List Order) (s : Gateway) : Prop :=
  match s.pc with
  | .post .added .fill => executed.getLast? = some (.add s.share.idToHandler)
  | .post .removed .fill => executed.getLast? = some (.remove s.share.idToHandler)
  | .post p _ => Names executed s.share.dataToSend p
  | _ => True

/-- The orders issued are those executed, in the same order, and behind them those
that are waiting; a reply names the id of the order executed last. -/
structure ExactlyOnce (l : Ledger) : Prop where
  inOrder : ∃ taken sent, Taking l.sys taken ∧ Sending l.sys sent
    ∧ l.issued = l.executed ++ taken ++ sent
  named : Named l.executed l.sys.gw

/-- With no signal on its way and the flag clear, all has been executed. -/
theorem ExactlyOnce.all_executed {l : Ledger} (h : ExactlyOnce l) (husr2 : l.sys.usr2 = false)
    (hflag : l.sys.gw.socketFlag = false) : l.issued = l.executed := by
  obtain ⟨taken, sent, htaking, hsending, hlog⟩ := h.inOrder
  cases htaking with
  | idle _ _ =>
      cases hsending with
      | quiet _ => simpa using hlog
      | sent _ hset _ _ => exact absurd (husr2.symm.trans hset) (by simp)
  | noticed _ hset _ _ _ _ => exact absurd (hflag.symm.trans hset) (by simp)
  | executing _ hset _ _ => exact absurd (hflag.symm.trans hset) (by simp)
  | executed hset _ => exact absurd (hflag.symm.trans hset) (by simp)

/-! ## §4. The arguments in the slot. -/

/-- Two states of the shared memory with the same arguments. -/
structure SameArgs (d d' : DeviceCommand) : Prop where
  idToHandler : d'.idToHandler = d.idToHandler
  userSet : d'.userSet = d.userSet

/-- Two states of the shared memory that hold the same order. -/
structure SameOrder (d d' : DeviceCommand) : Prop extends SameArgs d d' where
  request : d'.request = d.request

theorem Order.ArgsIn.congr {o : Order} {d d' : DeviceCommand} (h : o.ArgsIn d)
    (hsame : SameArgs d d') : o.ArgsIn d' := by
  cases o with
  | connect => trivial
  | disconnect => trivial
  | add id => exact hsame.idToHandler.trans h
  | remove id => exact hsame.idToHandler.trans h
  | auto id => exact hsame.idToHandler.trans h
  | manual id userSet => exact ⟨hsame.idToHandler.trans h.1, hsame.userSet.trans h.2⟩

theorem Order.In.congr {o : Order} {d d' : DeviceCommand} (h : o.In d) (hsame : SameOrder d d') :
    o.In d' :=
  ⟨hsame.request.trans h.1, h.2.congr hsame.toSameArgs⟩

/-- A store into two such states gives two such states. -/
theorem SameOrder.apply {d d' : DeviceCommand} (h : SameOrder d d') (w : Store) :
    SameOrder (w.apply d) (w.apply d') := by
  cases w with
  | request code => exact { request := rfl, idToHandler := h.idToHandler, userSet := h.userSet }
  | idToHandler id => exact { request := h.request, idToHandler := rfl, userSet := h.userSet }
  | userSet k v =>
      refine { request := h.request, idToHandler := h.idToHandler, userSet := ?_ }
      show d'.userSet.setNumber k v = d.userSet.setNumber k v
      rw [h.userSet]

theorem Finishes.congr : ∀ {ops : List ChildOp} {d d' : DeviceCommand}, Finishes d ops →
    SameOrder d d' → Finishes d' ops := by
  intro ops
  induction ops with
  | nil =>
      intro d d' h _
      exact False.elim h
  | cons op rest ih =>
      intro d d' h hsame
      cases op with
      | store w =>
          cases w with
          | request code => exact False.elim h
          | idToHandler id => exact ih h (hsame.apply _)
          | userSet k v => exact ih h (hsame.apply _)
      | kill o =>
          cases rest with
          | nil => exact Order.In.congr h hsame
          | cons _ _ => exact False.elim h
      | crash =>
          cases rest with
          | nil => trivial
          | cons _ _ => exact False.elim h

theorem Announces.congr {ops : List ChildOp} {d d' : DeviceCommand} (h : Announces d ops)
    (hsame : SameOrder d d') : Announces d' ops := by
  cases ops with
  | nil => trivial
  | cons op rest =>
      cases op with
      | store w =>
          cases w with
          | request code => exact Finishes.congr h (hsame.apply _)
          | idToHandler id => exact False.elim h
          | userSet k v => exact False.elim h
      | kill o => exact False.elim h
      | crash => exact False.elim h

/-! ## §5. The parent. -/

/-- Outside the `switch` the parent stays there, but for the test of the flag. -/
theorem region_outside_next {pc pc' : Pc} (h : Gateway.Next pc pc') (hr : region pc = .outside)
    (hsock : pc ≠ .sock) : region pc' = .outside := by
  cases h with
  | fill p hp => cases p <;> simp_all [region]
  | clearAck p hp => cases p <;> simp_all [region]
  | signal p => cases p <;> simp_all [region]
  | wait p => exact hr
  | replied p hp => cases p <;> simp_all [region, Gateway.IsReply]
  | _ => simp_all [region]

/-- What has been read stays so until the flag is cleared. -/
theorem region_served_next {pc pc' : Pc} (h : Gateway.Next pc pc')
    (hr : region pc = .replying ∨ region pc = .served) (hclear : pc ≠ .clear) :
    region pc' = .served := by
  cases h with
  | fill p hp => cases p <;> simp_all [region]
  | clearAck p hp => cases p <;> simp_all [region]
  | signal p => cases p <;> simp_all [region]
  | wait p => cases p <;> simp_all [region]
  | _ => simp_all [region]

theorem Executing.region {pc : Pc} {o : Order} (h : Executing pc o) : region pc = .executing := by
  cases pc with
  | addDev => rfl
  | removeDev => rfl
  | modeLoop kind tmp => rfl
  | _ => exact False.elim h

/-- The parent executes in the `switch` only. -/
theorem executes_eq_nil {s : Gateway} (hsock : s.pc ≠ .sock) (hr : region s.pc ≠ .executing) :
    executes s = [] := by
  unfold executes
  cases hpc : s.pc <;> simp_all [region]

/-- A mode loop goes on, or it has executed its order. -/
theorem modeStep_ends {io : Io} {s s' : Gateway} {kind : ModeKind} {tmp : Nat}
    (h : s.modeStep io kind tmp = some s') :
    (modeEnds s tmp ∧ s'.pc = .clear) ∨ (¬ modeEnds s tmp ∧ s'.pc = .modeLoop kind (tmp + 1)) := by
  unfold Gateway.modeStep at h
  unfold modeEnds
  split at h
  next hlt =>
      obtain ⟨node, hnode, h⟩ := Option.bind_eq_some_iff.mp h
      split at h
      next hid =>
          obtain ⟨tx, -, h⟩ := Option.bind_eq_some_iff.mp h
          obtain ⟨dev, -, h⟩ := Option.bind_eq_some_iff.mp h
          rw [← Option.some.inj h]
          exact Or.inl ⟨Or.inr (by rw [hnode, hid]; rfl), rfl⟩
      next hid =>
          rw [← Option.some.inj h]
          refine Or.inr ⟨?_, rfl⟩
          rw [not_or]
          refine ⟨by omega, fun heq => hid ?_⟩
          rw [hnode] at heq
          exact (Option.some.inj heq).symm
  next hge =>
      rw [← Option.some.inj h]
      exact Or.inl ⟨Or.inl (by omega), rfl⟩

/-- Where the `switch` goes with an order. -/
def Order.place : Order → Pc
  | .connect => .scanList 0
  | .disconnect => .clear
  | .add _ => .addDev
  | .remove _ => .removeDev
  | .auto _ => .modeLoop .auto 0
  | .manual _ _ => .modeLoop .manual 0

theorem dispatch_pc {s : Gateway} {o : Order} (h : s.share.request = o.code) :
    s.dispatch.pc = o.place := by
  unfold Gateway.dispatch
  rw [h]
  cases o <;> rfl

section Parent

variable {libc : Libc} {io : Io} {y : System} {s' : Gateway}

theorem sameOrder_of_mainStep (h : y.gw.mainStep libc io = some s') :
    SameOrder y.gw.share s'.share :=
  have hframe := Gateway.mainStep_frame h
  { request := hframe.request, idToHandler := hframe.idToHandler, userSet := hframe.userSet }

/-- The test of the flag takes the order that the slot holds: a connection and a
disconnection are executed at once. -/
theorem dispatch_taking {o : Order} (hflag : y.gw.socketFlag = true) (hpc : y.gw.pc = .sock)
    (hin : o.In y.gw.share) :
    ∃ taken', Taking { y with gw := y.gw.dispatch } taken'
      ∧ executes y.gw ++ taken' = [o] := by
  have hex : executes y.gw = if o.code = Code.gotSock then [.connect]
      else if o.code = Code.ctlSock then [.disconnect] else [] := by
    rw [executes, hpc, ← hin.1]
    exact if_pos hflag
  have hplace : y.gw.dispatch.pc = o.place := dispatch_pc hin.1
  -- the `switch` itself touches neither the flag nor the slot
  obtain ⟨hflag', hargs⟩ : y.gw.dispatch.socketFlag = true ∧ o.ArgsIn y.gw.dispatch.share := by
    obtain ⟨pc, sockStatus, hd, -⟩ := Gateway.dispatch_spec y.gw
    rw [hd]
    exact ⟨hflag, hin.2⟩
  rw [hex]
  cases o with
  | connect => exact ⟨[], Taking.executed hflag' (Or.inr (congrArg region hplace)), rfl⟩
  | disconnect => exact ⟨[], Taking.executed hflag' (Or.inr (congrArg region hplace)), rfl⟩
  -- the other orders still need their arguments
  | _ =>
      refine ⟨_, Taking.executing _ hflag' ?_ hargs, rfl⟩
      show Executing y.gw.dispatch.pc _
      rw [hplace]
      trivial

/-- Inside the `switch` the order is executed, or a mode loop goes on. -/
theorem executing_taking {o : Order} (hflag : y.gw.socketFlag = true)
    (hexec : Executing y.gw.pc o) (hargs : o.ArgsIn y.gw.share)
    (h : y.gw.mainStep libc io = some s') :
    ∃ taken', Taking { y with gw := s' } taken' ∧ executes y.gw ++ taken' = [o] := by
  have hframe := Gateway.mainStep_frame h
  have hflag' : s'.socketFlag = true := by
    rw [hframe.socketFlag (by intro hpc; simp [hpc, Executing] at hexec), hflag]
  cases hpc : y.gw.pc with
  | addDev =>
      cases o with
      | add id =>
          refine ⟨[], Taking.executed hflag' ?_, ?_⟩
          · have hnext := hframe.next
            rw [hpc] at hnext
            show region s'.pc = .replying ∨ region s'.pc = .served
            generalize s'.pc = pc' at hnext
            cases hnext with
            | addFailed => exact Or.inr rfl
            | added => exact Or.inl rfl
          · rw [executes, hpc]
            exact congrArg (fun id => [Order.add id]) hargs
      | _ => exact absurd hexec (by simp [hpc, Executing])
  | removeDev =>
      cases o with
      | remove id =>
          refine ⟨[], Taking.executed hflag' ?_, ?_⟩
          · have hnext := hframe.next
            rw [hpc] at hnext
            show region s'.pc = .replying ∨ region s'.pc = .served
            generalize s'.pc = pc' at hnext
            cases hnext with
            | removeFailed => exact Or.inr rfl
            | removed => exact Or.inl rfl
          · rw [executes, hpc]
            exact congrArg (fun id => [Order.remove id]) hargs
      | _ => exact absurd hexec (by simp [hpc, Executing])
  | modeLoop kind tmp =>
      -- the order is the one of this loop, with the arguments that are in the slot
      have horder : modeOrder y.gw.share kind = o := by
        rw [hpc] at hexec
        cases kind with
        | manual =>
            cases o with
            | manual id userSet => exact congrArg₂ Order.manual hargs.1 hargs.2
            | _ => exact False.elim hexec
        | auto =>
            cases o with
            | auto id => exact congrArg Order.auto hargs
            | _ => exact False.elim hexec
      have hstep := h
      simp only [Gateway.mainStep, hpc] at hstep
      rw [executes, hpc]
      show ∃ taken', _ ∧ (if modeEnds y.gw tmp then _ else _) ++ taken' = _
      rcases modeStep_ends hstep with ⟨hends, hpc'⟩ | ⟨hmore, hpc'⟩
      · refine ⟨[], Taking.executed hflag' (Or.inr ?_), ?_⟩
        · show region s'.pc = .served
          rw [hpc']
          rfl
        · rw [if_pos hends, horder]
          rfl
      -- another node: the loop goes on and nothing is executed yet
      · refine ⟨[o], Taking.executing o hflag' ?_ (hargs.congr (sameOrder_of_mainStep h).toSameArgs), ?_⟩
        · show Executing s'.pc o
          rw [hpc']
          rw [hpc] at hexec
          cases kind <;> cases o <;> exact hexec
        · rw [if_neg hmore]
          rfl
  | _ => exact absurd hexec (by simp [hpc, Executing])

/-- **What the parent executes is what it had to execute.** -/
theorem mainStep_taking {taken : List Order} (hinv : Taking y taken)
    (h : y.gw.mainStep libc io = some s') :
    ∃ taken', Taking { y with gw := s' } taken' ∧ executes y.gw ++ taken' = taken := by
  have hframe := Gateway.mainStep_frame h
  cases hinv with
  -- the flag is clear, so the test of the flag leads back to the loop
  | idle hflag hpc =>
      have hflag' : s'.socketFlag = false := by
        rw [hframe.socketFlag (by intro heq; simp [heq, region] at hpc), hflag]
      refine ⟨[], Taking.idle hflag' ?_, ?_⟩
      · show region s'.pc = .outside
        by_cases hsock : y.gw.pc = .sock
        · simp only [Gateway.mainStep, hsock] at h
          rw [if_neg (by simp [hflag])] at h
          rw [← Option.some.inj h]
          rfl
        · exact region_outside_next hframe.next hpc hsock
      · by_cases hsock : y.gw.pc = .sock
        · rw [executes, hsock]
          show (if y.gw.socketFlag = true then _ else _) ++ [] = _
          rw [if_neg (by simp [hflag])]
          rfl
        · rw [executes_eq_nil hsock (by simp [hpc])]
          rfl
  | noticed o hflag hpc husr2 hmid hin =>
      -- until the test of the flag nothing happens to the order
      by_cases hsock : y.gw.pc = .sock
      · simp only [Gateway.mainStep, hsock] at h
        rw [if_pos hflag] at h
        rw [← Option.some.inj h]
        exact dispatch_taking hflag hsock hin
      · have hflag' : s'.socketFlag = true := by
          rw [hframe.socketFlag (by intro heq; simp [heq, region] at hpc), hflag]
        refine ⟨[o], Taking.noticed o hflag' (region_outside_next hframe.next hpc hsock) husr2 hmid
          (hin.congr (sameOrder_of_mainStep h)), ?_⟩
        rw [executes_eq_nil hsock (by simp [hpc])]
        rfl
  | executing o hflag hpc hargs => exact executing_taking hflag hpc hargs h
  | executed hflag hpc =>
      have hnil : executes y.gw = [] := by
        refine executes_eq_nil ?_ ?_
        · intro hsock
          simp [hsock, region] at hpc
        · rcases hpc with hpc | hpc <;> simp [hpc]
      -- the slot is free again, and at the end the flag too
      by_cases hclear : y.gw.pc = .clear
      · simp only [Gateway.mainStep, hclear] at h
        rw [← Option.some.inj h]
        exact ⟨[], Taking.idle rfl rfl, by rw [hnil]; rfl⟩
      · have hflag' : s'.socketFlag = true := by
          rw [hframe.socketFlag hclear, hflag]
        exact ⟨[], Taking.executed hflag' (Or.inr (region_served_next hframe.next hpc hclear)),
          by rw [hnil]; rfl⟩

/-- The packet of an order goes to the node, or the search has found no such node. -/
def Told (io : Io) (s s' : Gateway) (kind : ModeKind) (id : UInt32) (packet : MainPacket) : Prop :=
  ∃ tmp, s.pc = .modeLoop kind tmp
    ∧ if s.nodeCount ≤ tmp then s' = { s with pc := .clear }
      else ∃ tx, packet.format id = some tx ∧ s.dev.transmit io.opens tx = some s'.dev

/-- What the step that executes an order does. -/
def Order.Done (io : Io) (s s' : Gateway) : Order → Prop
  | .connect => s'.pc = .scanList 0
  | .disconnect => s'.sockStatus = 0
  | .add id => s'.reg = (addDevice io.host id s.reg).2
  | .remove id => s'.reg = (removeDevice io.host id s.reg).2
  | .auto id => Told io s s' .auto id (.modeAuto io.tm)
  | .manual id userSet => Told io s s' .manual id (.modeManual (manualText userSet))

theorem mainStep_sending {sent : List Order} (hinv : Sending y sent)
    (h : y.gw.mainStep libc io = some s') : Sending { y with gw := s' } sent := by
  cases hinv with
  | quiet husr2 => exact Sending.quiet husr2
  | sent o husr2 hmid hin => exact Sending.sent o husr2 hmid (hin.congr (sameOrder_of_mainStep h))

theorem named_iff {executed : List Order} {s : Gateway} {p : Post} {stage : Stage}
    (hpc : s.pc = .post p stage) (hfill : stage ≠ .fill) :
    Named executed s ↔ Names executed s.share.dataToSend p := by
  unfold Named
  rw [hpc]
  cases stage with
  | fill => exact absurd rfl hfill
  | _ => cases p <;> exact Iff.rfl

/-- The text is kept after it has been written, and nothing is executed. -/
theorem mainStep_named_later {executed : List Order} {p : Post} {stage stage' : Stage}
    (hpc : y.gw.pc = .post p stage) (hfill : stage ≠ .fill) (hpc' : s'.pc = .post p stage')
    (hfill' : stage' ≠ .fill) (hinv : Named executed y.gw)
    (h : y.gw.mainStep libc io = some s') : Named (executed ++ executes y.gw) s' := by
  have hnil : executes y.gw = [] := by
    rw [executes, hpc]
  have htext : s'.share.dataToSend = y.gw.share.dataToSend := by
    refine (Gateway.mainStep_frame h).dataToSend (fun q hq => hfill ?_)
    rw [hpc] at hq
    injection hq
  rw [hnil, List.append_nil, named_iff hpc' hfill', htext]
  exact (named_iff hpc hfill).mp hinv

/-- The reply takes its id from the slot before anyone overwrites it. -/
theorem mainStep_named {executed : List Order} (hinv : Named executed y.gw)
    (h : y.gw.mainStep libc io = some s') : Named (executed ++ executes y.gw) s' := by
  have hframe := Gateway.mainStep_frame h
  have hnext := hframe.next
  generalize hpc : y.gw.pc = pc at hnext
  generalize hpc' : s'.pc = pc' at hnext
  cases hnext with
  | added =>
      unfold Named
      rw [hpc', executes, hpc, List.getLast?_concat, ← hframe.idToHandler]
  | removed =>
      unfold Named
      rw [hpc', executes, hpc, List.getLast?_concat, ← hframe.idToHandler]
  | fill p hp =>
      have hnil : executes y.gw = [] := by
        rw [executes, hpc]
      have hid : Named executed y.gw := hinv
      unfold Named at hid
      rw [hpc] at hid
      simp only [Gateway.mainStep, hpc, Gateway.postStep] at h
      obtain ⟨text, htext, h⟩ := Option.bind_eq_some_iff.mp h
      -- the id goes from the slot into the text
      rw [hnil, List.append_nil, named_iff hpc' (by simp), ← Option.some.inj h]
      cases p with
      | added => exact ⟨_, hid, (Option.some.inj htext).symm⟩
      | removed => exact ⟨_, hid, (Option.some.inj htext).symm⟩
      | _ => trivial
  | clearAck p hp => exact mainStep_named_later hpc (by simp) hpc' (by simp) hinv h
  | signal p => exact mainStep_named_later hpc (by simp) hpc' (by simp) hinv h
  | wait p => exact mainStep_named_later hpc (by simp) hpc' (by simp) hinv h
  | _ =>
      unfold Named
      rw [hpc']
      trivial

end Parent

end LoRaGateway
