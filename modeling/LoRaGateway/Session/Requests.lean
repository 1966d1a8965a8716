/-
  LoRaGateway.Session.Requests
  ────────────────────────────
  **IS EVERY REQUEST EXECUTED EXACTLY ONCE?**

  The child stores a request without looking whether the last one has been read,
  and the parent clears the flag after it has executed a request, together with a
  signal that has come in the meantime.  So a request can be overwritten, mixed
  with the next one, or forgotten.

    • `ChildEffect` — what a step of the child does to the slot,
    • `executed_in_order` — along the runs of `OneByOne`,
    • `request_mixed_up` — a connection, and a command before it is handled.
-/
import LoRaGateway.Session.Ledger
import LoRaGateway.Session.AckWait

namespace LoRaGateway

open LoRaGateway.Lib

/-! ## §1. The child. -/

/-- What the child is about to announce is in the slot, or will be. -/
structure Writing (y : System) : Prop where
  connect : y.child.accept = .killGot → y.gw.share.request = Code.gotSock
  disconnect : y.child.accept = .killCtl → y.gw.share.request = Code.ctlSock
  message : ∀ ops, y.child.recv = .ops ops →
    Announces y.gw.share ops ∨ Finishes y.gw.share ops

/-- What a step of the child does to the slot, with the orders it issues. -/
inductive ChildEffect (y y' : System) : List Order → Prop where
  | silent (hsame : SameOrder y.gw.share y'.gw.share) (husr2 : y'.usr2 = y.usr2)
      (hmid : MidWriting y'.child → MidWriting y.child) : ChildEffect y y' []
  | request (code : UInt8) (hfree : Free y (.request code))
      (hargs : SameArgs y.gw.share y'.gw.share) (husr2 : y'.usr2 = y.usr2) : ChildEffect y y' []
  | argument (hfree : y.gw.socketFlag = false ∨ region y.gw.pc = .served)
      (hmid : MidWriting y.child) (husr2 : y'.usr2 = y.usr2) : ChildEffect y y' []
  | announces (o : Order) (hmid : MidWriting y.child) (hsame : SameOrder y.gw.share y'.gw.share)
      (husr2 : y'.usr2 = true) (hin : o.In y'.gw.share) (hend : ¬ MidWriting y'.child) :
      ChildEffect y y' [o]

/-- The child leaves the parent where it is, and the text as it is. -/
structure Beside (y y' : System) : Prop where
  pc : y'.gw.pc = y.gw.pc
  socketFlag : y'.gw.socketFlag = y.gw.socketFlag
  dataToSend : y'.gw.share.dataToSend = y.gw.share.dataToSend

theorem announces_not_underWay {d : DeviceCommand} {ops : List ChildOp} (h : Announces d ops) :
    ¬ UnderWay ops := by
  intro hw
  cases ops with
  | nil => exact hw
  | cons op rest =>
      cases op with
      | store w =>
          cases w with
          | request code => exact hw
          | _ => exact h
      | _ => exact h

/-- After a store, the rest of the message is to come. -/
theorem store_finishes {d : DeviceCommand} {w : Store} {rest : List ChildOp}
    (h : Announces d (.store w :: rest) ∨ Finishes d (.store w :: rest)) :
    Finishes (w.apply d) rest := by
  cases w with
  | request code =>
      rcases h with ha | hf
      · exact ha
      · exact False.elim hf
  | idToHandler id =>
      rcases h with ha | hf
      · exact False.elim ha
      · exact hf
  | userSet k v =>
      rcases h with ha | hf
      · exact False.elim ha
      · exact hf

section Child

variable {y y' : System}

/-- The orders at the parent, when the child steps. -/
theorem Taking.beside {taken new : List Order} (hinv : Taking y taken) (hbeside : Beside y y')
    (heffect : ChildEffect y y' new) : Taking y' taken := by
  cases hinv with
  | idle hflag hpc =>
      exact Taking.idle (hbeside.socketFlag.trans hflag) ((congrArg region hbeside.pc).trans hpc)
  | noticed o hflag hpc husr2 hmid hin =>
      -- the order is in the slot: the child cannot write now
      cases heffect with
      | silent hsame husr2' hmid' =>
          exact Taking.noticed o (hbeside.socketFlag.trans hflag)
            ((congrArg region hbeside.pc).trans hpc) (husr2'.trans husr2)
            (fun hm => hmid (hmid' hm)) (hin.congr hsame)
      | request code hfree _ _ =>
          -- the flag is set and the `switch` has not read the request: it is not free
          rcases hfree.2 with hf | hr
          · rw [hflag] at hf
            exact absurd hf (by simp)
          · exact absurd hpc hr
      | argument _ hm _ => exact absurd hm hmid
      | announces _ hm _ _ _ _ => exact absurd hm hmid
  | executing o hflag hpc hargs =>
      have hflag' := hbeside.socketFlag.trans hflag
      have hpc' : Executing y'.gw.pc o := by
        rw [hbeside.pc]
        exact hpc
      cases heffect with
      | silent hsame _ _ => exact Taking.executing o hflag' hpc' (hargs.congr hsame.toSameArgs)
      | request _ _ hsame _ => exact Taking.executing o hflag' hpc' (hargs.congr hsame)
      | argument hfree _ _ =>
          -- the arguments are still being read: they are not free
          rcases hfree with hf | hr
          · rw [hflag] at hf
            exact absurd hf (by simp)
          · rw [hpc.region] at hr
            exact absurd hr (by simp)
      | announces _ _ hsame _ _ _ =>
          exact Taking.executing o hflag' hpc' (hargs.congr hsame.toSameArgs)
  | executed hflag hpc =>
      refine Taking.executed (hbeside.socketFlag.trans hflag) ?_
      rw [hbeside.pc]
      exact hpc

/-- The orders on their way, when the child steps. -/
theorem Sending.beside {sent new : List Order} (hinv : Sending y sent)
    (heffect : ChildEffect y y' new) : Sending y' (sent ++ new) := by
  cases hinv with
  | quiet husr2 =>
      cases heffect with
      | silent _ husr2' _ => exact Sending.quiet (husr2'.trans husr2)
      | request _ _ _ husr2' => exact Sending.quiet (husr2'.trans husr2)
      | argument _ _ husr2' => exact Sending.quiet (husr2'.trans husr2)
      | announces o _ _ husr2' hin hend => exact Sending.sent o husr2' hend hin
  | sent o husr2 hmid hin =>
      cases heffect with
      | silent hsame husr2' hmid' =>
          exact Sending.sent o (husr2'.trans husr2) (fun hm => hmid (hmid' hm)) (hin.congr hsame)
      | request code hfree _ _ =>
          have hclear := hfree.1
          rw [husr2] at hclear
          exact absurd hclear (by simp)
      | argument _ hm _ => exact absurd hm hmid
      | announces _ hm _ _ _ _ => exact absurd hm hmid

/-- The id of a reply is not overwritten before the text is written. -/
theorem Named.beside {executed new : List Order} (hinv : Named executed y.gw)
    (hbeside : Beside y y') (hflag : region y.gw.pc = .replying → y.gw.socketFlag = true)
    (heffect : ChildEffect y y' new) : Named executed y'.gw := by
  have hid : region y.gw.pc = .replying → y'.gw.share.idToHandler = y.gw.share.idToHandler := by
    intro hr
    cases heffect with
    | silent hsame _ _ => exact hsame.idToHandler
    | request _ _ hsame _ => exact hsame.idToHandler
    | argument hfree _ _ =>
        -- the reply is not written yet: the id is not free
        rcases hfree with hf | hs
        · rw [hflag hr] at hf
          exact absurd hf (by simp)
        · rw [hr] at hs
          exact absurd hs (by simp)
    | announces _ _ hsame _ _ _ => exact hsame.idToHandler
  unfold Named at hinv ⊢
  rw [hbeside.pc, hbeside.dataToSend]
  split at hinv
  next hpc =>
      rw [hid (by rw [hpc]; rfl)]
      exact hinv
  next hpc =>
      rw [hid (by rw [hpc]; rfl)]
      exact hinv
  next => exact hinv
  next => trivial

/-- A step that neither stores a request nor takes up a message. -/
theorem quiet_step (hw : Writing y) (hsame : SameOrder y.gw.share y'.gw.share)
    (husr2 : y'.usr2 = y.usr2)
    (haccept : y'.child.accept = .killGot ∨ y'.child.accept = .killCtl →
      y'.child.accept = y.child.accept)
    (hrecv : ∀ ops, y'.child.recv = .ops ops → y.child.recv = .ops ops) :
    Writing y' ∧ ChildEffect y y' [] := by
  constructor
  · constructor
    · intro hk
      exact hsame.request.trans (hw.connect ((haccept (Or.inl hk)).symm.trans hk))
    · intro hk
      exact hsame.request.trans (hw.disconnect ((haccept (Or.inr hk)).symm.trans hk))
    · intro ops hops
      rcases hw.message ops (hrecv ops hops) with ha | hf
      · exact Or.inl (ha.congr hsame)
      · exact Or.inr (hf.congr hsame)
  · refine ChildEffect.silent hsame husr2 (fun hm => ?_)
    rcases hm with hk | hk | ⟨ops, hops, hunder⟩
    · exact Or.inl ((haccept (Or.inl hk)).symm.trans hk)
    · exact Or.inr (Or.inl ((haccept (Or.inr hk)).symm.trans hk))
    · exact Or.inr (Or.inr ⟨ops, hrecv ops hops, hunder⟩)

/-- The signal for an order that is in the slot. -/
theorem signal_step {o : Order} (hmid : MidWriting y.child)
    (hsame : SameOrder y.gw.share y'.gw.share) (husr2 : y'.usr2 = true) (hin : o.In y'.gw.share)
    (hgot : y'.child.accept ≠ .killGot) (hctl : y'.child.accept ≠ .killCtl)
    (hrecv : ∀ ops, y'.child.recv = .ops ops → ops = []) :
    Writing y' ∧ ChildEffect y y' [o] := by
  constructor
  · constructor
    · exact fun hk => absurd hk hgot
    · exact fun hk => absurd hk hctl
    · intro ops hops
      rw [hrecv ops hops]
      exact Or.inl trivial
  · refine ChildEffect.announces o hmid hsame husr2 hin (fun hm => ?_)
    rcases hm with hk | hk | ⟨ops, hops, hunder⟩
    · exact hgot hk
    · exact hctl hk
    · rw [hrecv ops hops] at hunder
      exact hunder

theorem accept_effect (hjoin : y.Joined) (hw : Writing y)
    (hok : (y.child.accept = .storeGot → Free y (.request Code.gotSock))
      ∧ (y.child.accept = .storeCtl → Free y (.request Code.ctlSock)))
    (h : y.acceptStep = some y') :
    Beside y y' ∧ Writing y' ∧ ChildEffect y y' (issues y.child .accept) := by
  -- with the receiver ended there is no message to account for
  have hnone : ∀ pc, y.child.accept = pc → pc ≠ .joinSnd → pc ≠ .joinRecv →
      ∀ ops, y.child.recv ≠ .ops ops := by
    intro pc hpc hsnd hrecv ops hops
    rcases hjoin (by simp [hops]) with hj | hj
    · exact hsnd (hpc.symm.trans hj)
    · exact hrecv (hpc.symm.trans hj)
  cases acceptStep_cases h with
  | storeGot hpc =>
      rw [issues, hpc]
      refine ⟨⟨rfl, rfl, rfl⟩, ⟨fun _ => rfl, fun hk => ?_, fun ops hops => ?_⟩,
        ChildEffect.request _ (hok.1 hpc) ⟨rfl, rfl⟩ rfl⟩
      · exact absurd hk (by simp [System.atAccept])
      · exact absurd hops (hnone _ hpc (by simp) (by simp) ops)
  | storeCtl hpc =>
      rw [issues, hpc]
      refine ⟨⟨rfl, rfl, rfl⟩, ⟨fun hk => ?_, fun _ => rfl, fun ops hops => ?_⟩,
        ChildEffect.request _ (hok.2 hpc) ⟨rfl, rfl⟩ rfl⟩
      · exact absurd hk (by simp [System.atAccept])
      · exact absurd hops (hnone _ hpc (by simp) (by simp) ops)
  | killGot hpc =>
      rw [issues, hpc]
      exact ⟨⟨rfl, rfl, rfl⟩, signal_step (Or.inl hpc) ⟨⟨rfl, rfl⟩, rfl⟩ rfl
        ⟨hw.connect hpc, trivial⟩ (by simp [System.atAccept]) (by simp [System.atAccept])
        (fun ops hops => absurd hops (hnone _ hpc (by simp) (by simp) ops))⟩
  | killCtl hpc =>
      rw [issues, hpc]
      exact ⟨⟨rfl, rfl, rfl⟩, signal_step (Or.inr (Or.inl hpc)) ⟨⟨rfl, rfl⟩, rfl⟩ rfl
        ⟨hw.disconnect hpc, trivial⟩ (by simp [System.atAccept]) (by simp [System.atAccept])
        (fun ops hops => absurd hops (hnone _ hpc (by simp) (by simp) ops))⟩
  | createRecv hpc =>
      rw [issues, hpc]
      exact ⟨⟨rfl, rfl, rfl⟩, quiet_step hw ⟨⟨rfl, rfl⟩, rfl⟩ rfl (by simp [System.atAccept])
        (by simp [System.atAccept, System.atRecv])⟩
  | _ hpc =>
      rw [issues, hpc]
      exact ⟨⟨rfl, rfl, rfl⟩, quiet_step hw ⟨⟨rfl, rfl⟩, rfl⟩ rfl (by simp [System.atAccept])
        (fun _ hops => hops)⟩

/-- One operation of a message, or a step between two messages. -/
theorem recv_effect {input : Input} (hjoin : y.Joined) (hw : Writing y)
    (hok : ∀ w rest, y.child.recv = .ops (.store w :: rest) → Free y w)
    (h : y.recvStep input = some y') :
    Beside y y' ∧ Writing y' ∧ ChildEffect y y' (issues y.child (.recv input)) := by
  obtain ⟨hlive, haccept⟩ := recvStep_live h
  obtain ⟨hgot, hctl⟩ : y'.child.accept ≠ .killGot ∧ y'.child.accept ≠ .killCtl := by
    rw [haccept]
    rcases hjoin hlive with hj | hj <;> simp [hj]
  cases recvStep_cases h with
  | message hpc bytes ops hmsg =>
      -- a message is taken up, and nothing of it is stored
      have hann := recvMsg_announces hmsg y.gw.share
      rw [issues, hpc]
      refine ⟨⟨rfl, rfl, rfl⟩, ⟨fun hk => absurd hk hgot, fun hk => absurd hk hctl,
        fun ops' hops => ?_⟩, ChildEffect.silent ⟨⟨rfl, rfl⟩, rfl⟩ rfl (fun hm => ?_)⟩
      · obtain rfl : ops = ops' := RecvPc.ops.inj hops
        exact Or.inl hann
      · rcases hm with hk | hk | ⟨ops', hops, hunder⟩
        · exact absurd hk hgot
        · exact absurd hk hctl
        · obtain rfl : ops = ops' := RecvPc.ops.inj hops
          exact absurd hunder (announces_not_underWay hann)
  | store w rest hpc =>
      have hfree := hok w rest hpc
      rw [issues, hpc]
      refine ⟨⟨rfl, rfl, Store.apply_dataToSend w _⟩, ⟨fun hk => absurd hk hgot,
        fun hk => absurd hk hctl, fun ops' hops => ?_⟩, ?_⟩
      · obtain rfl : rest = ops' := RecvPc.ops.inj hops
        exact Or.inr (store_finishes (hw.message _ hpc))
      · cases w with
        | request code => exact ChildEffect.request code hfree ⟨rfl, rfl⟩ rfl
        | idToHandler id => exact ChildEffect.argument hfree (Or.inr (Or.inr ⟨_, hpc, trivial⟩)) rfl
        | userSet k v => exact ChildEffect.argument hfree (Or.inr (Or.inr ⟨_, hpc, trivial⟩)) rfl
  | kill o rest hpc =>
      -- the signal is the last operation, and the slot holds its order
      obtain ⟨hrest, hin⟩ : rest = [] ∧ o.In y.gw.share := by
        rcases hw.message _ hpc with ha | hf
        · exact False.elim ha
        · cases rest with
          | nil => exact ⟨rfl, hf⟩
          | cons _ _ => exact False.elim hf
      rw [issues, hpc]
      refine ⟨⟨rfl, rfl, rfl⟩, signal_step (Or.inr (Or.inr ⟨_, hpc, trivial⟩))
        ⟨⟨rfl, rfl⟩, rfl⟩ rfl hin hgot hctl (fun ops hops => ?_)⟩
      rw [← RecvPc.ops.inj hops, hrest]
  | _ hpc =>
      rw [issues, hpc]
      exact ⟨⟨rfl, rfl, rfl⟩, quiet_step hw ⟨⟨rfl, rfl⟩, rfl⟩ rfl (fun _ => rfl)
        (by simp [System.atRecv])⟩

/-- A step that leaves the slot alone, and the threads that use it. -/
theorem other_effect (hw : Writing y) (hbeside : Beside y y')
    (hsame : SameOrder y.gw.share y'.gw.share) (husr2 : y'.usr2 = y.usr2)
    (haccept : y'.child.accept = y.child.accept) (hrecv : y'.child.recv = y.child.recv) :
    Beside y y' ∧ Writing y' ∧ ChildEffect y y' [] :=
  ⟨hbeside, quiet_step hw hsame husr2 (fun _ => haccept) (fun _ hops => hrecv.symm.trans hops)⟩

theorem snd_effect (hw : Writing y) (h : y.sndStep = some y') :
    Beside y y' ∧ Writing y' ∧ ChildEffect y y' [] := by
  obtain ⟨haccept, hrecv, husr2, ack, hgw, -⟩ := sndStep_frame h
  refine other_effect hw ⟨?_, ?_, ?_⟩ ?_ husr2 haccept hrecv
  · rw [hgw]
  · rw [hgw]
  · rw [hgw]
  · rw [hgw]
    exact ⟨⟨rfl, rfl⟩, rfl⟩

/-- The handler of SIGUSR2 takes the order that was on its way. -/
theorem parentUsr2_taking {taken sent : List Order} (htaking : Taking y taken)
    (hsending : Sending y sent) (husr2 : y.usr2 = true) (hflag : y.gw.socketFlag = false) :
    Taking { y with usr2 := false, gw := { y.gw with socketFlag := true } } (taken ++ sent) := by
  cases hsending with
  | quiet hnone =>
      rw [husr2] at hnone
      exact absurd hnone (by simp)
  | sent o _ hmid hin =>
      cases htaking with
      | idle _ hpc => exact Taking.noticed o rfl hpc rfl hmid hin
      | noticed _ hset _ _ _ _ => exact absurd (hflag.symm.trans hset) (by simp)
      | executing _ hset _ _ => exact absurd (hflag.symm.trans hset) (by simp)
      | executed hset _ => exact absurd (hflag.symm.trans hset) (by simp)

end Child

/-! ## §2. Runs. -/

/-- The invariant of the guarded runs. -/
structure Settled (l : Ledger) : Prop extends ExactlyOnce l where
  joined : l.sys.Joined
  writing : Writing l.sys

/-- While a reply is to be written, the flag is set. -/
theorem Taking.replying {y : System} {taken : List Order} (hinv : Taking y taken)
    (hr : region y.gw.pc = .replying) : y.gw.socketFlag = true := by
  cases hinv with
  | idle _ hpc => exact absurd (hr.symm.trans hpc) (by simp)
  | noticed _ _ hpc _ _ _ => exact absurd (hr.symm.trans hpc) (by simp)
  | executing _ _ hpc _ => exact absurd (hr.symm.trans hpc.region) (by simp)
  | executed hflag _ => exact hflag

section Step

variable {libc : Libc} {l l' : Ledger}

/-- A step of the child keeps the account. -/
theorem settled_beside {y' : System} {new : List Order} (hinv : Settled l) (hjoined : y'.Joined)
    (h : Beside l.sys y' ∧ Writing y' ∧ ChildEffect l.sys y' new) :
    Settled ⟨y', l.issued ++ new, l.executed ++ []⟩ := by
  obtain ⟨hbeside, hwriting, heffect⟩ := h
  obtain ⟨⟨taken, sent, htaking, hsending, hlog⟩, hnamed⟩ := hinv.toExactlyOnce
  rw [List.append_nil]
  refine ⟨⟨⟨taken, sent ++ new, htaking.beside hbeside heffect, hsending.beside heffect, ?_⟩,
    hnamed.beside hbeside htaking.replying heffect⟩, hjoined, hwriting⟩
  rw [hlog]
  simp only [List.append_assoc]

theorem ledgerStep_settled {m : Move} (hinv : Settled l) (hok : OneByOne l m)
    (h : ledgerStep libc l m = some l') : Settled l' := by
  obtain ⟨y', hstep, rfl⟩ := Option.map_eq_some_iff.mp h
  have hjoined := sysStep_joined hinv.joined hstep
  obtain ⟨⟨taken, sent, htaking, hsending, hlog⟩, hnamed⟩ := hinv.toExactlyOnce
  cases sysStep_cases hstep with
  | parent io s' hs =>
      obtain ⟨taken', htaking', hexec⟩ := mainStep_taking htaking hs
      -- what the parent executes moves from `taken` to `executed`
      refine ⟨⟨⟨taken', sent, htaking', mainStep_sending hsending hs, ?_⟩,
        mainStep_named hnamed hs⟩, hjoined, ?_⟩
      · show l.issued ++ [] = l.executed ++ executes l.sys.gw ++ taken' ++ sent
        rw [List.append_nil, hlog, ← hexec]
        simp only [List.append_assoc]
      · have hsame := sameOrder_of_mainStep hs
        obtain ⟨hconnect, hdisconnect, hmessage⟩ := hinv.writing
        refine ⟨fun hk => hsame.request.trans (hconnect hk),
          fun hk => hsame.request.trans (hdisconnect hk), fun ops hops => ?_⟩
        rcases hmessage ops hops with ha | hf
        · exact Or.inl (ha.congr hsame)
        · exact Or.inr (hf.congr hsame)
  | parentUsr2 husr2 =>
      obtain ⟨hconnect, hdisconnect, hmessage⟩ := hinv.writing
      -- with the flag clear nothing was taken: the order on its way is now the one to take
      refine ⟨⟨⟨taken ++ sent, [], parentUsr2_taking htaking hsending husr2 hok,
        Sending.quiet rfl, ?_⟩, ?_⟩, hjoined, ⟨hconnect, hdisconnect, hmessage⟩⟩
      · show l.issued ++ [] = l.executed ++ [] ++ (taken ++ sent) ++ []
        rw [hlog]
        simp only [List.append_assoc, List.append_nil]
      · show Named (l.executed ++ []) _
        rw [List.append_nil]
        exact hnamed
  | packet _ _ _ _ =>
      exact settled_beside hinv hjoined
        (other_effect hinv.writing ⟨rfl, rfl, rfl⟩ ⟨⟨rfl, rfl⟩, rfl⟩ rfl rfl rfl)
  | childUsr2 _ =>
      exact settled_beside hinv hjoined
        (other_effect hinv.writing ⟨rfl, rfl, rfl⟩ ⟨⟨rfl, rfl⟩, rfl⟩ rfl rfl rfl)
  | accept _ hs =>
      exact settled_beside hinv hjoined (accept_effect hinv.joined hinv.writing hok hs)
  | recv input _ hs =>
      exact settled_beside hinv hjoined (recv_effect hinv.joined hinv.writing hok hs)
  | snd _ hs => exact settled_beside hinv hjoined (snd_effect hinv.writing hs)

end Step

/-- **EVERY REQUEST IS EXECUTED EXACTLY ONCE**, in order and with its arguments, in
every run that overwrites a field of the slot only after it has been read, and
delivers SIGUSR2 only while the flag is clear. -/
theorem executed_in_order {libc : Libc} {y₀ : System} {l : Ledger} (h0 : y₀.Started)
    (h : Reach (ledgerStep libc) OneByOne ⟨y₀, [], []⟩ l) : ExactlyOnce l := by
  have hstart : Settled ⟨y₀, [], []⟩ := by
    refine ⟨⟨⟨[], [], Taking.idle h0.socketFlag ?_, Sending.quiet h0.usr2, rfl⟩, ?_⟩, ?_, ?_, ?_, ?_⟩
    · show region y₀.gw.pc = .outside
      rw [h0.gw.pc]
      rfl
    · show Named [] y₀.gw
      unfold Named
      rw [h0.gw.pc]
      trivial
    · exact fun hr => absurd h0.recv hr
    · exact fun hk => absurd (h0.accept.symm.trans hk) (by simp)
    · exact fun hk => absurd (h0.accept.symm.trans hk) (by simp)
    · exact fun _ hops => absurd (h0.recv.symm.trans hops) (by simp)
  have hinv : Settled l :=
    Reach.invariant (P := Settled) hstart (fun _ _ _ hi hok hs => ledgerStep_settled hi hok hs) h
  exact hinv.toExactlyOnce

/-! ## §3. A connection, and a command before it is handled. -/

/-- A check that is enough for the steps of `connects` and `addsNode`: the child
stores while nothing is open. -/
def storesAlone (l : Ledger) : Move → Bool
  | .accept =>
      decide (l.sys.child.accept ≠ .storeGot ∧ l.sys.child.accept ≠ .storeCtl)
        || (!l.sys.usr2 && !l.sys.gw.socketFlag)
  | .recv _ =>
      match l.sys.child.recv with
      | .ops (.store _ :: _) => !l.sys.usr2 && !l.sys.gw.socketFlag
      | _ => true
  | .parentUsr2 => !l.sys.gw.socketFlag
  | _ => true

theorem free_of_alone {y : System} (h : (!y.usr2 && !y.gw.socketFlag) = true) (w : Store) :
    Free y w := by
  obtain ⟨husr2, hflag⟩ : y.usr2 = false ∧ y.gw.socketFlag = false := by simpa using h
  cases w with
  | request code => exact ⟨husr2, Or.inl hflag⟩
  | _ => exact Or.inl hflag

theorem oneByOne_of_storesAlone {l : Ledger} {m : Move} (h : storesAlone l m = true) :
    OneByOne l m := by
  cases m with
  | accept =>
      rcases Bool.or_eq_true_iff.mp h with hno | halone
      · obtain ⟨hgot, hctl⟩ := of_decide_eq_true hno
        exact ⟨fun hpc => absurd hpc hgot, fun hpc => absurd hpc hctl⟩
      · exact ⟨fun _ => free_of_alone halone _, fun _ => free_of_alone halone _⟩
  | recv input =>
      intro w rest hpc
      simp only [storesAlone, hpc] at h
      exact free_of_alone h w
  | parentUsr2 =>
      show l.sys.gw.socketFlag = false
      simpa [storesAlone] using h
  | _ => trivial

/-- A connection and a command, one after the other. -/
theorem executed_in_order_by_add :
    ∃ l, Reach (ledgerStep sampleLibc) OneByOne ⟨sampleSystem, [], []⟩ l
      ∧ l.issued = [.connect, .add 7] ∧ l.executed = [.connect, .add 7] ∧ ExactlyOnce l := by
  have hrun : (run (only (ledgerStep sampleLibc) storesAlone) ⟨sampleSystem, [], []⟩
      (connects ++ addsNode)).map (fun l => (l.issued, l.executed))
      = some ([.connect, .add 7], [.connect, .add 7]) := by decide +kernel
  obtain ⟨l, hl, hfields⟩ := Option.map_eq_some_iff.mp hrun
  obtain ⟨hissued, hexecuted⟩ := Prod.mk.inj hfields
  have hreach : Reach (ledgerStep sampleLibc) OneByOne ⟨sampleSystem, [], []⟩ l :=
    (reach_of_run _ hl).mono (fun _ _ h => oneByOne_of_storesAlone h)
  exact ⟨l, hreach, hissued, hexecuted, executed_in_order sampleSystem_started hreach⟩

/-- A client connects and sends `"0 7"`; the parent comes to the `switch` when the
request is stored and its argument is not. -/
def commandsAtOnce : List Move :=
  List.replicate 5 .accept ++ [.recv (.data [48, 32, 55]), .recv .eof, .parentUsr2] ++ parents 5

/-- The connection has been announced, and a node has been added that nobody asked for. -/
theorem request_mixed_up :
    ∃ y₀ l, y₀.Started ∧ Reach (ledgerStep sampleLibc) Any ⟨y₀, [], []⟩ l
      ∧ ¬ l.executed <+: l.issued := by
  have hrun : (run (ledgerStep sampleLibc) ⟨sampleSystem, [], []⟩ commandsAtOnce).map
      (fun l => (l.issued, l.executed)) = some ([.connect], [.add 0]) := by decide +kernel
  obtain ⟨l, hl, hfields⟩ := Option.map_eq_some_iff.mp hrun
  obtain ⟨hissued, hexecuted⟩ := Prod.mk.inj hfields
  refine ⟨_, l, sampleSystem_started, reach_any_of_run _ hl, ?_⟩
  rw [hissued, hexecuted]
  decide

end LoRaGateway
