/-
  LoRaGateway.Session.Closing
  ───────────────────────────
  **DOES A CONNECTION THAT IS OVER COME TO ITS END?**

  When `read` gives nothing, or the client writes "exit", the receiver cancels the sender
  and ends; the sender ends at its next cancellation point, and the accept loop, which
  waits for both, tells the parent and accepts again.  The threads of the child are fair
  here; the parent, the radio and the signals do what they like.

    • `Closing` — what the three threads have done of it so far,
    • `closeRank` — the steps that are left,
    • `every_connection_ends` — both threads end, `CTL_SOCK` is in the shared memory when
      SIGUSR2 is sent, and the child waits for a client again.
-/
import LoRaGateway.Session.Served
import LoRaGateway.Session.Ledger

namespace LoRaGateway

open LoRaGateway.Lib

/-! ## §1. The three threads. -/

/-- The receiver has met the end of the connection, and the sender is not cancelled. -/
def RecvPc.Cancels (pc : RecvPc) : Prop := pc = .exitCancel ∨ pc = .eofCancel

instance RecvPc.decidableCancels (pc : RecvPc) : Decidable pc.Cancels :=
  inferInstanceAs (Decidable (_ ∨ _))

/-- The sender is cancelled. -/
def RecvPc.Ends (pc : RecvPc) : Prop := pc = .eofAck ∨ pc = .close ∨ pc = .ended

/-- How far the closing of the connection `c` is. -/
inductive Closing (c : Nat) (y : System) : Prop where
  | cancelling (hcomm : y.child.communication = c) (haccept : y.child.accept = .joinSnd)
      (hrun : y.child.snd ≠ .ended) (hnot : y.child.cancelled = false)
      (hrecv : y.child.recv.Cancels)
  | joining (hcomm : y.child.communication = c) (haccept : y.child.accept = .joinSnd)
      (hcancelled : y.child.cancelled = true) (hrecv : y.child.recv.Ends)
  | joined (hcomm : y.child.communication = c) (haccept : y.child.accept = .joinRecv)
      (hsnd : y.child.snd = .ended) (hrecv : y.child.recv.Ends)
  | storing (hcomm : y.child.communication = c) (haccept : y.child.accept = .storeCtl)
      (hsnd : y.child.snd = .ended) (hrecv : y.child.recv = .ended)
  | telling (hcomm : y.child.communication = c) (haccept : y.child.accept = .killCtl)
      (hsnd : y.child.snd = .ended) (hrecv : y.child.recv = .ended)
      (hrequest : y.gw.share.request = Code.ctlSock)

/-- The child waits for a client, and has told the parent. -/
structure Closed (c : Nat) (y : System) : Prop where
  communication : y.child.communication = c
  accept : y.child.accept = .accept
  snd : y.child.snd = .ended
  recv : y.child.recv = .ended
  request : y.gw.share.request = Code.ctlSock
  usr2 : y.usr2 = true

/-- The threads of the child. -/
inductive ChildThread where
  | acceptor
  | receiver
  | sender

/-- It can go on, without a client. -/
def ChildThread.Can : ChildThread → System → Prop
  | .acceptor, y => y.child.accept ≠ .accept ∧ ∃ y', y.acceptStep = some y'
  | .receiver, y => y.child.recv ≠ .read ∧ ∃ input y', y.recvStep input = some y'
  | .sender, y => ∃ y', y.sndStep = some y'

/-- The moves of a thread. -/
def ChildThread.Does : ChildThread → Move → Prop
  | .acceptor, .accept | .receiver, .recv _ | .sender, .snd => True
  | _, _ => False

/-- The thread that the closing waits for. -/
def closer (y : System) : ChildThread :=
  if y.child.recv.Cancels then .receiver
  else if y.child.snd ≠ .ended then .sender
  else if y.child.recv ≠ .ended then .receiver
  else .acceptor

/-- How many steps it still is to `accept`. -/
def AcceptPc.toAccept : AcceptPc → Nat
  | .joinSnd => 3
  | .joinRecv => 2
  | .storeCtl => 1
  | _ => 0

/-- How many steps it still is to the end of the thread. -/
def RecvPc.toEnd : RecvPc → Nat
  | .eofAck => 2
  | .close => 1
  | _ => 0

/-- A sender that is cancelled ends at `write` or at a sleep. -/
def SndPc.toEnd : SndPc → Nat
  | .setAck => 3
  | .test | .clearReady => 2
  | .write | .nap | .sleep => 1
  | .ended => 0

/-- The steps that are left, at most. -/
def closeRank (y : System) : Nat :=
  if y.child.recv.Cancels then 9
  else y.child.accept.toAccept + y.child.recv.toEnd + y.child.snd.toEnd

section Step

variable {libc : Libc} {y y' : System} {m : Move} {c : Nat}

/-- What does not touch the threads changes nothing. -/
theorem Closing.beside (h : Closing c y) (hchild : y'.child.accept = y.child.accept
      ∧ y'.child.recv = y.child.recv ∧ y'.child.snd = y.child.snd
      ∧ y'.child.cancelled = y.child.cancelled ∧ y'.child.communication = y.child.communication)
    (hrequest : y'.gw.share.request = y.gw.share.request) :
    Closing c y' ∧ closeRank y' = closeRank y ∧ closer y' = closer y := by
  obtain ⟨haccept, hrecv, hsnd, hnot, hcomm⟩ := hchild
  refine ⟨?_, by unfold closeRank; rw [haccept, hrecv, hsnd], by unfold closer; rw [hrecv, hsnd]⟩
  cases h with
  | cancelling h1 h2 h3 h4 h5 =>
      exact .cancelling (hcomm.trans h1) (haccept.trans h2) (by rw [hsnd]; exact h3)
        (hnot.trans h4) (by rw [hrecv]; exact h5)
  | joining h1 h2 h3 h4 =>
      exact .joining (hcomm.trans h1) (haccept.trans h2) (hnot.trans h3) (by rw [hrecv]; exact h4)
  | joined h1 h2 h3 h4 =>
      exact .joined (hcomm.trans h1) (haccept.trans h2) (hsnd.trans h3) (by rw [hrecv]; exact h4)
  | storing h1 h2 h3 h4 =>
      exact .storing (hcomm.trans h1) (haccept.trans h2) (hsnd.trans h3) (hrecv.trans h4)
  | telling h1 h2 h3 h4 h5 =>
      exact .telling (hcomm.trans h1) (haccept.trans h2) (hsnd.trans h3) (hrecv.trans h4)
        (hrequest.trans h5)

/-- What ends is not what cancels. -/
theorem RecvPc.Ends.not_cancels {pc : RecvPc} (h : pc.Ends) : ¬ pc.Cancels := by
  rcases h with rfl | rfl | rfl <;> simp [RecvPc.Cancels]

theorem closeRank_of_ends (h : y.child.recv.Ends) :
    closeRank y = y.child.accept.toAccept + y.child.recv.toEnd + y.child.snd.toEnd :=
  if_neg h.not_cancels

/-- The accept loop joins what has ended, stores `CTL_SOCK` and signals. -/
theorem closing_accept (h : Closing c y) (hs : y.acceptStep = some y') :
    Closed c y' ∨ (Closing c y' ∧ closeRank y' < closeRank y) := by
  cases h with
  | cancelling hcomm haccept hrun =>
      cases acceptStep_cases hs with
      | joinSnd hpc hended => exact absurd hended hrun
      | _ hpc => simp [hpc] at haccept
  | joining hcomm haccept hcancelled hrecv =>
      cases acceptStep_cases hs with
      | joinSnd hpc hended =>
          refine Or.inr ⟨.joined hcomm rfl hended hrecv, ?_⟩
          rw [closeRank_of_ends hrecv, closeRank_of_ends (y := y.atAccept .joinRecv) hrecv]
          simp [System.atAccept, hpc, AcceptPc.toAccept]
      | _ hpc => simp [hpc] at haccept
  | joined hcomm haccept hsnd hrecv =>
      cases acceptStep_cases hs with
      | joinRecv hpc hended =>
          refine Or.inr ⟨.storing hcomm rfl hsnd hended, ?_⟩
          rw [closeRank_of_ends hrecv, closeRank_of_ends (y := y.atAccept .storeCtl) hrecv]
          simp [System.atAccept, hpc, AcceptPc.toAccept]
      | _ hpc => simp [hpc] at haccept
  | storing hcomm haccept hsnd hrecv =>
      cases acceptStep_cases hs with
      | storeCtl hpc =>
          refine Or.inr ⟨.telling hcomm rfl hsnd hrecv rfl, ?_⟩
          simp [closeRank, RecvPc.Cancels, System.atAccept, System.setShare, hpc, hrecv,
            AcceptPc.toAccept]
      | _ hpc => simp [hpc] at haccept
  | telling hcomm haccept hsnd hrecv hrequest =>
      cases acceptStep_cases hs with
      | killCtl hpc => exact Or.inl ⟨hcomm, rfl, hsnd, hrecv, hrequest, rfl⟩
      | _ hpc => simp [hpc] at haccept

theorem recv_cancels {input : Input} (hrecv : y.child.recv.Cancels)
    (hs : y.recvStep input = some y') :
    ∃ pc, y' = y.cancelSnd.atRecv pc ∧ pc.Ends ∧ pc.toEnd ≤ 2 := by
  rcases hrecv with hpc | hpc
  · simp only [System.recvStep, hpc] at hs
    exact ⟨.close, (Option.some.inj hs).symm, Or.inr (Or.inl rfl), by decide⟩
  · simp only [System.recvStep, hpc] at hs
    exact ⟨.eofAck, (Option.some.inj hs).symm, Or.inl rfl, by decide⟩

theorem recv_ends {input : Input} (hrecv : y.child.recv.Ends) (hs : y.recvStep input = some y') :
    ∃ share pc, y' = (y.setShare share).atRecv pc ∧ pc.Ends ∧ pc.toEnd < y.child.recv.toEnd := by
  rcases hrecv with hpc | hpc | hpc
  · simp only [System.recvStep, hpc] at hs
    exact ⟨_, .close, (Option.some.inj hs).symm, Or.inr (Or.inl rfl), by rw [hpc]; decide⟩
  · simp only [System.recvStep, hpc] at hs
    exact ⟨y.gw.share, .ended, (Option.some.inj hs).symm, Or.inr (Or.inr rfl),
      by rw [hpc]; decide⟩
  · exact absurd hpc (recvStep_live hs).1

/-- The receiver cancels the sender and ends. -/
theorem closing_recv {input : Input} (h : Closing c y) (hs : y.recvStep input = some y') :
    Closing c y' ∧ closeRank y' < closeRank y := by
  have hleft : y.child.snd.toEnd ≤ 3 := by cases y.child.snd <;> decide
  cases h with
  | cancelling hcomm haccept hrun hnot hrecv =>
      obtain ⟨pc, rfl, hends, htoEnd⟩ := recv_cancels hrecv hs
      refine ⟨.joining hcomm haccept rfl hends, ?_⟩
      rw [closeRank_of_ends (y := y.cancelSnd.atRecv pc) hends,
        show closeRank y = 9 from if_pos hrecv,
        show (y.cancelSnd.atRecv pc).child.accept = .joinSnd from haccept]
      show 3 + pc.toEnd + y.child.snd.toEnd < 9
      omega
  | joining hcomm haccept hcancelled hrecv =>
      obtain ⟨share, pc, rfl, hends, hless⟩ := recv_ends hrecv hs
      refine ⟨.joining hcomm haccept hcancelled hends, ?_⟩
      rw [closeRank_of_ends hrecv, closeRank_of_ends (y := (y.setShare share).atRecv pc) hends]
      show y.child.accept.toAccept + pc.toEnd + y.child.snd.toEnd < _
      omega
  | joined hcomm haccept hsnd hrecv =>
      obtain ⟨share, pc, rfl, hends, hless⟩ := recv_ends hrecv hs
      refine ⟨.joined hcomm haccept hsnd hends, ?_⟩
      rw [closeRank_of_ends hrecv, closeRank_of_ends (y := (y.setShare share).atRecv pc) hends]
      show y.child.accept.toAccept + pc.toEnd + y.child.snd.toEnd < _
      omega
  | storing _ _ _ hrecv => exact absurd hrecv (recvStep_live hs).1
  | telling _ _ _ hrecv => exact absurd hrecv (recvStep_live hs).1

/-- A sender that is cancelled comes nearer to its end with each step. -/
theorem toEnd_step (hcancelled : y.child.cancelled = true) (hs : y.sndStep = some y') :
    y'.child.snd.toEnd < y.child.snd.toEnd ∧ y'.child.cancelled = true := by
  cases sndStep_cases hs with
  | test hpc =>
      refine ⟨?_, hcancelled⟩
      show (if y.child.readyFlag then SndPc.write else .nap).toEnd < _
      rw [hpc]
      split <;> decide
  | write hpc hnot => exact absurd (hcancelled.symm.trans hnot) (by simp)
  | _ hpc =>
      exact ⟨by simp [System.atSnd, System.setShare, hpc, hcancelled, SndPc.toEnd], hcancelled⟩

/-- The sender goes on, until it is cancelled. -/
theorem closing_snd (h : Closing c y) (hs : y.sndStep = some y') :
    Closing c y' ∧ (closeRank y' < closeRank y
      ∨ (closeRank y' = closeRank y ∧ closer y' = closer y ∧ closer y = .receiver)) := by
  obtain ⟨haccept', hrecv', -, ack, hgw, -⟩ := sndStep_frame hs
  have hcomm' : y'.child.communication = y.child.communication := by
    cases sndStep_cases hs <;> rfl
  cases h with
  | cancelling hcomm haccept hrun hnot hrecv =>
      obtain ⟨hrun', hnot'⟩ := sndStep_runs hs hnot
      refine ⟨.cancelling (hcomm'.trans hcomm) (haccept'.trans haccept) hrun' hnot'
        (by rw [hrecv']; exact hrecv), Or.inr ?_⟩
      have hrank : closeRank y = 9 := if_pos hrecv
      have hrank' : closeRank y' = 9 := if_pos (by rw [hrecv']; exact hrecv)
      have hcloser : closer y = .receiver := if_pos hrecv
      have hcloser' : closer y' = .receiver := if_pos (by rw [hrecv']; exact hrecv)
      exact ⟨hrank'.trans hrank.symm, hcloser'.trans hcloser.symm, hcloser⟩
  | joining hcomm haccept hcancelled hrecv =>
      obtain ⟨hless, hcancelled'⟩ := toEnd_step hcancelled hs
      have hends' : y'.child.recv.Ends := by
        rw [hrecv']
        exact hrecv
      refine ⟨.joining (hcomm'.trans hcomm) (haccept'.trans haccept) hcancelled' hends',
        Or.inl ?_⟩
      rw [closeRank_of_ends hrecv, closeRank_of_ends hends', haccept', hrecv']
      omega
  | joined _ _ hsnd => simp [System.sndStep, hsnd] at hs
  | storing _ _ hsnd => simp [System.sndStep, hsnd] at hs
  | telling _ _ hsnd => simp [System.sndStep, hsnd] at hs

/-- **One step**: the closing is over, or comes nearer to its end, or waits for the same
thread. -/
theorem closing_step (h : Closing c y) (hs : sysStep libc y m = some y') :
    Closed c y' ∨ (Closing c y' ∧ (closeRank y' < closeRank y
      ∨ (closeRank y' = closeRank y ∧ closer y' = closer y ∧ ¬ (closer y).Does m))) := by
  have hbeside : (Closing c y' ∧ closeRank y' = closeRank y ∧ closer y' = closer y) →
      ¬ (closer y).Does m → Closed c y' ∨ (Closing c y' ∧ (closeRank y' < closeRank y
        ∨ (closeRank y' = closeRank y ∧ closer y' = closer y ∧ ¬ (closer y).Does m))) :=
    fun hsame hnot => Or.inr ⟨hsame.1, Or.inr ⟨hsame.2.1, hsame.2.2, hnot⟩⟩
  cases sysStep_cases hs with
  | parent io s' hs' =>
      exact hbeside (h.beside ⟨rfl, rfl, rfl, rfl, rfl⟩ (sameOrder_of_mainStep hs').request)
        (by cases closer y <;> exact id)
  | packet p =>
      exact hbeside (h.beside ⟨rfl, rfl, rfl, rfl, rfl⟩ rfl) (by cases closer y <;> exact id)
  | parentUsr2 hsent =>
      exact hbeside (h.beside ⟨rfl, rfl, rfl, rfl, rfl⟩ rfl) (by cases closer y <;> exact id)
  | childUsr2 hsent =>
      exact hbeside (h.beside ⟨rfl, rfl, rfl, rfl, rfl⟩ rfl) (by cases closer y <;> exact id)
  | accept _ hs' =>
      rcases closing_accept h hs' with hclosed | ⟨hclosing, hless⟩
      · exact Or.inl hclosed
      · exact Or.inr ⟨hclosing, Or.inl hless⟩
  | recv input _ hs' =>
      obtain ⟨hclosing, hless⟩ := closing_recv h hs'
      exact Or.inr ⟨hclosing, Or.inl hless⟩
  | snd _ hs' =>
      obtain ⟨hclosing, hless | ⟨hsame, hthread, hreceiver⟩⟩ := closing_snd h hs'
      · exact Or.inr ⟨hclosing, Or.inl hless⟩
      · exact Or.inr ⟨hclosing, Or.inr ⟨hsame, hthread, by rw [hreceiver]; exact id⟩⟩

theorem RecvPc.Ends.receives {pc : RecvPc} (h : pc.Ends) (hne : pc ≠ .ended)
    (hpc : y.child.recv = pc) : ChildThread.receiver.Can y := by
  refine ⟨?_, .eof, ?_⟩
  · rw [hpc]
    rcases h with rfl | rfl | rfl <;> simp
  · rcases h with rfl | rfl | rfl
    · exact ⟨_, by simp only [System.recvStep, hpc]; rfl⟩
    · exact ⟨_, by simp only [System.recvStep, hpc]; rfl⟩
    · exact absurd rfl hne

/-- The thread that the closing waits for can go on. -/
theorem closer_can (h : Closing c y) : (closer y).Can y := by
  unfold closer
  split
  next hcancels =>
      refine ⟨by rcases hcancels with hpc | hpc <;> simp [hpc], .eof, ?_⟩
      rcases hcancels with hpc | hpc
      · exact ⟨_, by simp only [System.recvStep, hpc]; rfl⟩
      · exact ⟨_, by simp only [System.recvStep, hpc]; rfl⟩
  next hnot =>
      split
      next hrun => exact snd_defined hrun
      next hended =>
          have hsnd : y.child.snd = .ended := not_not.mp hended
          split
          next hne =>
              cases h with
              | cancelling _ _ _ _ hrecv => exact absurd hrecv hnot
              | joining _ _ _ hrecv => exact hrecv.receives hne rfl
              | joined _ _ _ hrecv => exact hrecv.receives hne rfl
              | storing _ _ _ hrecv => exact absurd hrecv hne
              | telling _ _ _ hrecv => exact absurd hrecv hne
          next hdone =>
              have hrecv : y.child.recv = .ended := not_not.mp hdone
              cases h with
              | cancelling _ _ hrun => exact absurd hsnd hrun
              | joining _ haccept =>
                  exact ⟨by simp [haccept], _,
                    by simp only [System.acceptStep, haccept, hsnd]; rfl⟩
              | joined _ haccept =>
                  exact ⟨by simp [haccept], _,
                    by simp only [System.acceptStep, haccept, hrecv]; rfl⟩
              | storing _ haccept =>
                  exact ⟨by simp [haccept], _, by simp only [System.acceptStep, haccept]; rfl⟩
              | telling _ haccept =>
                  exact ⟨by simp [haccept], _, by simp only [System.acceptStep, haccept]; rfl⟩

end Step

/-! ## §2. Endless runs. -/

section Runs

variable {libc : Libc} {r : Forever (sysStep libc)}

/-- **EVERY CONNECTION THAT IS OVER COMES TO ITS END.**  When the receiver reads the end of
an open connection, or "exit", and the threads of the child go on when they can, both
threads end and the child waits for a client again; `CTL_SOCK` is in the shared memory
when it has signalled this to the parent, and no other client has been accepted before. -/
theorem every_connection_ends (hfair : ∀ t : ChildThread, WeaklyFair r t.Can t.Does) {n : Nat}
    (hlive : Live (r.state n).child) (hread : (r.state n).child.recv = .read) {input : Input}
    (hact : r.action n = .recv input)
    (hover : input = .eof ∨ ∃ bytes, input = .data bytes ∧ recvMsg bytes = some .exit) :
    ∃ m, n < m ∧ Closed (r.state n).child.communication (r.state m) := by
  have hstart : Closing (r.state n).child.communication (r.state (n + 1)) := by
    have hstep := r.follows n
    rw [hact] at hstep
    have hnext : r.state (n + 1) = (r.state n).atRecv .eofCancel
        ∨ r.state (n + 1) = (r.state n).atRecv .exitCancel := by
      rcases hover with rfl | ⟨bytes, rfl, hexit⟩
      · simp only [sysStep, System.recvStep, hread] at hstep
        exact Or.inl (Option.some.inj hstep).symm
      · simp only [sysStep, System.recvStep, hread, hexit] at hstep
        exact Or.inr (Option.some.inj hstep).symm
    cases hlive with
    | opening _ _ hrecv => simp [hread] at hrecv
    | created _ _ _ hrecv => simp [hread] at hrecv
    | talking haccept hrun hnot =>
        rcases hnext with hnext | hnext
        · rw [hnext]
          exact .cancelling rfl haccept hrun hnot (Or.inr rfl)
        · rw [hnext]
          exact .cancelling rfl haccept hrun hnot (Or.inl rfl)
  have hends : ∃ m, n + 1 ≤ m ∧ Closed (r.state n).child.communication (r.state m) := by
    refine leads_of_helpful (P := Closing (r.state n).child.communication)
      (Q := fun m => Closed (r.state n).child.communication (r.state m)) hfair closer closeRank
      wellFounded_lt (fun _ hy => closer_can hy) (fun k _ hy => closing_step hy (r.follows k))
      hstart
  obtain ⟨m, hm, hclosed⟩ := hends
  exact ⟨m, by omega, hclosed⟩

end Runs

/-! ## §3. A client that comes and goes. -/

/-- The client connects, closes, and both threads end. -/
def comesAndGoes : List Move :=
  List.replicate 5 .accept ++ List.replicate 4 (.recv .eof) ++ List.replicate 2 .snd
    ++ List.replicate 4 .accept

/-- No client, and nothing to do. -/
structure Vacant (y : System) : Prop where
  pc : Idling y.gw.pc
  rxSig : y.gw.rxSig = false
  socketFlag : y.gw.socketFlag = false
  i : y.gw.i < y.gw.nodeCount
  accept : y.child.accept = .accept
  recv : y.child.recv = .ended
  snd : y.child.snd = .ended

theorem vacant_step (y : System) (h : Vacant y) :
    ∃ y', sysStep sampleLibc y (.parent sampleIo) = some y' ∧ Vacant y' := by
  obtain ⟨s', hs', hpc, hsig, hflag, -, hi⟩ :=
    idling_step sampleLibc sampleIo h.pc h.rxSig h.socketFlag h.i
  exact ⟨{ y with gw := s' }, by simp only [sysStep, hs', Option.map_some],
    hpc, hsig, hflag, hi, h.accept, h.recv, h.snd⟩

/-- One node, and a client that has come and gone. -/
def clientGone : System :=
  ((run (sysStep sampleLibc) oneNodeSystem comesAndGoes).getD oneNodeSystem)

theorem vacant_clientGone : Vacant clientGone := by
  have hall : clientGone.gw.pc = .outer ∧ clientGone.gw.rxSig = false
      ∧ clientGone.gw.socketFlag = false ∧ clientGone.gw.i < clientGone.gw.nodeCount
      ∧ clientGone.child.accept = .accept ∧ clientGone.child.recv = .ended
      ∧ clientGone.child.snd = .ended := by
    decide +kernel
  obtain ⟨hpc, hsig, hflag, hi, haccept, hrecv, hsnd⟩ := hall
  exact ⟨by rw [hpc]; trivial, hsig, hflag, hi, haccept, hrecv, hsnd⟩

/-- The parent alone, for ever. -/
def vacantForEver : Forever (sysStep sampleLibc) :=
  Forever.again clientGone (.parent sampleIo) vacant_clientGone vacant_step

theorem vacantForEver_all (n : Nat) : Vacant (vacantForEver.state n) :=
  Forever.again_invariant vacant_clientGone vacant_step n

theorem run_comesAndGoes :
    run (sysStep sampleLibc) oneNodeSystem comesAndGoes = some (vacantForEver.state 0) := by
  have hrun : run (sysStep sampleLibc) oneNodeSystem comesAndGoes = some clientGone := by
    decide +kernel
  exact hrun

/-- A client comes and goes, and then the parent is alone. -/
def shortVisit : Forever (sysStep sampleLibc) :=
  vacantForEver.append comesAndGoes oneNodeSystem run_comesAndGoes

theorem shortVisit_fair (t : ChildThread) : WeaklyFair shortVisit t.Can t.Does := by
  refine WeaklyFair.append run_comesAndGoes (fun n hen => ?_)
  have hvacant := vacantForEver_all n
  have hcan := hen n (Nat.le_refl n)
  cases t with
  | acceptor => exact absurd hvacant.accept hcan.1
  | receiver =>
      obtain ⟨-, input, y', hs⟩ := hcan
      exact absurd hvacant.recv (recvStep_live hs).1
  | sender =>
      obtain ⟨y', hs⟩ := hcan
      simp [System.sndStep, hvacant.snd] at hs

theorem every_connection_ends_short :
    ∃ m, 5 < m ∧ Closed (shortVisit.state 5).child.communication (shortVisit.state m) := by
  have hall : (shortVisit.state 5).child.accept = .joinSnd ∧ (shortVisit.state 5).child.snd ≠ .ended
      ∧ (shortVisit.state 5).child.cancelled = false ∧ (shortVisit.state 5).child.recv = .read := by
    decide +kernel
  obtain ⟨haccept, hrun, hnot, hread⟩ := hall
  exact every_connection_ends shortVisit_fair (Live.talking haccept hrun hnot (Or.inl hread)) hread
    rfl (Or.inl rfl)

end LoRaGateway
