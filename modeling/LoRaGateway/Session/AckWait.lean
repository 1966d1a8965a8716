/-
  LoRaGateway.Session.AckWait
  ───────────────────────────
  **DOES ANYONE ANSWER A PARENT THAT WAITS FOR `ack`?**

  The parent clears `ack`, signals the child and waits.  `ack` is set by the
  sender a second after it has written the text, and by the receiver at the end
  of the connection — but not after the client's "exit", which cancels the sender
  all the same.  And the parent may clear `ack` when the receiver has been through.

    • `Rescued` — someone in the child will still set `ack`,
    • `never_stranded` — along the runs in which that is so when `ack` is cleared
      and when the sender is cancelled by "exit",
    • `stranded_by_exit` — a command, and "exit" before its reply.
-/
import LoRaGateway.Session.Def
import LoRaGateway.MainLoop.PollIndex

namespace LoRaGateway

open LoRaGateway.Lib

/-! ## §1. Who sets `ack`. -/

/-- The parent has cleared `ack` and not yet seen it set again. -/
def AwaitsAck : Pc → Prop
  | .post (.nodeList _) .clearAck => False
  | .post (.nodeList _) _ => True
  | .post _ .signal | .post _ .wait => True
  | _ => False

/-- About to create a sender. -/
def Connecting (pc : AcceptPc) : Prop := pc = .storeGot ∨ pc = .killGot ∨ pc = .createSnd

/-- Someone in the child is going to set `ack`. -/
inductive Rescued (c : Child) : Prop where
  | sender (hrun : c.snd ≠ .ended) (hnot : c.cancelled = false)
  | acking (h : c.snd = .setAck)
  | closing (h : c.recv = .eofAck)
  | connecting (h : Connecting c.accept)

/-- Whoever will set `ack` is not affected by a step of the others. -/
theorem Rescued.of_eq {c c' : Child} (h : Rescued c) (hsnd : c'.snd = c.snd)
    (hcancelled : c'.cancelled = c.cancelled) (hrecv : c.recv = .eofAck → c'.recv = .eofAck)
    (haccept : Connecting c.accept → Connecting c'.accept) : Rescued c' := by
  cases h with
  | sender hrun hnot => exact Rescued.sender (by rw [hsnd]; exact hrun) (by rw [hcancelled]; exact hnot)
  | acking h => exact Rescued.acking (hsnd.trans h)
  | closing h => exact Rescued.closing (hrecv h)
  | connecting h => exact Rescued.connecting (haccept h)

/-- `ack` is cleared while someone will set it, and a sender with a text to
acknowledge is not cancelled by "exit" before its last step. -/
def Answered (y : System) : Move → Prop
  | .parent _ => (∃ p, y.gw.pc = .post p .clearAck) → Rescued y.child
  | .recv _ => y.child.recv = .exitCancel → AwaitsAck y.gw.pc → y.gw.share.ack = 0 →
      y.child.snd = .setAck
  | _ => True

/-- While the parent waits with `ack` clear, someone will set it. -/
def Acknowledged (y : System) : Prop :=
  AwaitsAck y.gw.pc → y.gw.share.ack = 0 → Rescued y.child

/-! ## §2. The parent. -/

/-- The parent comes to the wait through clearing `ack`. -/
theorem awaitsAck_of_next {pc pc' : Pc} (h : Gateway.Next pc pc') (hw : AwaitsAck pc') :
    AwaitsAck pc ∨ ∃ p, pc = .post p .clearAck := by
  cases h with
  | fill p hp =>
      cases p with
      | nodeList k => exact absurd rfl (hp k)
      | _ => exact False.elim hw
  | fillList k => exact Or.inl trivial
  | clearAck p _ => exact Or.inr ⟨p, rfl⟩
  | clearAckList k => exact Or.inr ⟨_, rfl⟩
  | signal p =>
      left
      cases p <;> trivial
  | wait p => exact Or.inl hw
  | _ => exact False.elim hw

section Step

variable {libc : Libc} {y y' : System}

theorem parent_acknowledged {io : Io} {s' : Gateway} (hinv : Acknowledged y)
    (hok : Answered y (.parent io)) (h : y.gw.mainStep libc io = some s') :
    Acknowledged { y with gw := s' } := by
  have hframe := Gateway.mainStep_frame h
  intro hw hack
  by_cases hclear : ∃ p, y.gw.pc = .post p .clearAck
  · exact hok hclear
  · rcases awaitsAck_of_next hframe.next hw with hold | hnew
    · have hsame := hframe.ack (fun p hpc => hclear ⟨p, hpc⟩)
      have hack' : s'.share.ack = 0 := hack
      exact hinv hold (hsame.symm.trans hack')
    · exact absurd hnew hclear

/-! ## §3. The child. -/

theorem accept_acknowledged (hjoin : y.Joined) (hinv : Acknowledged y)
    (h : y.acceptStep = some y') : Acknowledged y' := by
  intro hw hack
  cases acceptStep_cases h with
  | accept hpc => exact Rescued.connecting (Or.inl rfl)
  | storeGot hpc => exact Rescued.connecting (Or.inr (Or.inl rfl))
  | killGot hpc => exact Rescued.connecting (Or.inr (Or.inr rfl))
  | createSnd hpc =>
      refine Rescued.sender ?_ rfl
      show SndPc.test ≠ .ended
      simp
  | createRecv hpc =>
      -- there is no receiver before, so none at its `ack = 1` is overwritten
      have hnone : y.child.recv = .ended := by
        by_contra hr
        exact absurd (hjoin hr) (by simp [hpc])
      exact (hinv hw hack).of_eq rfl rfl (by simp [hnone]) (by simp [Connecting, hpc])
  | _ hpc =>
      -- the connection is over: nobody in the child changes
      exact (hinv hw hack).of_eq rfl rfl id (by simp [Connecting, hpc])

theorem recv_acknowledged {input : Input} (hinv : Acknowledged y) (hok : Answered y (.recv input))
    (h : y.recvStep input = some y') : Acknowledged y' := by
  intro hw hack
  cases recvStep_cases h with
  | store w rest hpc =>
      have hack' : (w.apply y.gw.share).ack = 0 := hack
      rw [Store.apply_ack] at hack'
      exact (hinv hw hack').of_eq rfl rfl (by simp [hpc]) id
  | exitCancel hpc =>
      -- the sender is on its last step, or the parent does not wait
      exact Rescued.acking (hok hpc hw hack)
  | eofCancel hpc => exact Rescued.closing rfl
  | eofAck hpc =>
      have hack' : (1 : UInt8) = 0 := hack
      exact absurd hack' (by decide)
  | kill o rest hpc => exact (hinv hw hack).of_eq rfl rfl (by simp [hpc]) id
  | _ hpc => exact (hinv hw hack).of_eq rfl rfl (by simp [hpc]) id

/-- A sender that is not cancelled goes on, or sets `ack`. -/
theorem sndStep_runs (h : y.sndStep = some y') (hnot : y.child.cancelled = false) :
    y'.child.snd ≠ .ended ∧ y'.child.cancelled = false := by
  cases sndStep_cases h with
  | test hpc =>
      refine ⟨?_, hnot⟩
      show (if y.child.readyFlag then SndPc.write else .nap) ≠ .ended
      split <;> simp
  | stop hpc hcancelled => exact absurd (hnot.symm.trans hcancelled) (by simp)
  | write hpc hcancelled => exact ⟨by simp [System.atSnd], hnot⟩
  | _ hpc => exact ⟨by simp [System.atSnd, hnot], hnot⟩

theorem snd_acknowledged (hinv : Acknowledged y) (h : y.sndStep = some y') : Acknowledged y' := by
  intro hw hack
  obtain ⟨haccept, hrecv, -, ack, hgw, hsame⟩ := sndStep_frame h
  by_cases hset : y.child.snd = .setAck
  · simp only [System.sndStep, hset] at h
    rw [← Option.some.inj h] at hack
    have hack' : (1 : UInt8) = 0 := hack
    exact absurd hack' (by decide)
  · have hold : Rescued y.child := by
      rw [hgw] at hw hack
      exact hinv hw ((hsame hset).symm.trans hack)
    cases hold with
    | sender _ hnot => exact Rescued.sender (sndStep_runs h hnot).1 (sndStep_runs h hnot).2
    | acking h' => exact absurd h' hset
    | closing h' => exact Rescued.closing (hrecv.trans h')
    | connecting h' => exact Rescued.connecting (by rw [haccept]; exact h')

theorem sysStep_acknowledged {m : Move} (hjoin : y.Joined) (hinv : Acknowledged y)
    (hok : Answered y m) (h : sysStep libc y m = some y') : Acknowledged y' := by
  cases sysStep_cases h with
  | parent io s' hs => exact parent_acknowledged hinv hok hs
  | packet _ _ _ _ => exact hinv
  | parentUsr2 _ => exact hinv
  | childUsr2 _ => exact fun hw hack => (hinv hw hack).of_eq rfl rfl id id
  | accept _ hs => exact accept_acknowledged hjoin hinv hs
  | recv input _ hs => exact recv_acknowledged hinv hok hs
  | snd _ hs => exact snd_acknowledged hinv hs

end Step

/-! ## §4. Runs. -/

/-- The parent waits for `ack`, there is no sender, and the child waits for a client. -/
def Stranded (y : System) : Prop :=
  (∃ p, y.gw.pc = .post p .wait) ∧ y.gw.share.ack = 0 ∧ y.child.snd = .ended
    ∧ y.child.accept = .accept

/-- **THE PARENT NEVER WAITS FOR `ack` WITHOUT A SENDER**, in every run that
clears `ack`, and cancels the sender on "exit", only when it is answered. -/
theorem never_stranded {libc : Libc} {y₀ y : System} (h0 : y₀.Started)
    (h : Reach (sysStep libc) Answered y₀ y) : ¬ Stranded y := by
  have hstart : y₀.Joined ∧ Acknowledged y₀ := by
    refine ⟨fun hr => absurd h0.recv hr, fun hw => ?_⟩
    rw [h0.gw.pc] at hw
    exact False.elim hw
  obtain ⟨hjoin, hinv⟩ : y.Joined ∧ Acknowledged y :=
    Reach.invariant (P := fun y => y.Joined ∧ Acknowledged y) hstart
      (fun _ _ _ hi hok hs => ⟨sysStep_joined hi.1 hs, sysStep_acknowledged hi.1 hi.2 hok hs⟩) h
  intro hs
  obtain ⟨⟨p, hpc⟩, hack, hsnd, haccept⟩ := hs
  have hw : AwaitsAck y.gw.pc := by
    rw [hpc]
    cases p <;> trivial
  cases hinv hw hack with
  | sender hrun _ => exact hrun hsnd
  | acking h =>
      rw [hsnd] at h
      exact absurd h (by simp)
  | closing h =>
      have hlive := hjoin (by simp [h])
      rw [haccept] at hlive
      exact absurd hlive (by simp)
  | connecting h =>
      rw [haccept] at h
      exact absurd h (by simp [Connecting])

/-! ## §5. A command, and "exit". -/

/-- No node and no client. -/
def sampleSystem : System :=
  ⟨startWith [], false, ⟨.accept, .ended, .ended, false, false, 0, []⟩⟩

theorem sampleSystem_started : sampleSystem.Started :=
  ⟨startWith_started _, rfl, rfl, rfl, rfl, rfl⟩

/-- `n` steps of the parent. -/
def parents (n : Nat) : List Move := List.replicate n (.parent sampleIo)

/-- A client connects and its connection is handled. -/
def connects : List Move := List.replicate 5 .accept ++ [.parentUsr2] ++ parents 7

/-- The client sends `"0 7"`; the parent adds the node, clears `ack` and waits. -/
def addsNode : List Move :=
  .recv (.data [48, 32, 55]) :: List.replicate 4 (.recv .eof) ++ [.parentUsr2] ++ parents 7

/-- The client sends `"exit"`; the sender ends and the child accepts again. -/
def exits : List Move :=
  .recv (.data [101, 120, 105, 116]) :: List.replicate 2 (.recv .eof) ++ [.snd, .snd]
    ++ List.replicate 4 .accept

/-- A check that is enough for the steps of `connects` and `addsNode`. -/
def senderRuns (y : System) : Move → Bool
  | .parent _ => decide (y.child.snd ≠ .ended ∧ y.child.cancelled = false)
  | .recv _ => decide (y.child.recv ≠ .exitCancel)
  | _ => true

theorem answered_of_senderRuns {y : System} {m : Move} (h : senderRuns y m = true) :
    Answered y m := by
  cases m with
  | parent io =>
      obtain ⟨hrun, hnot⟩ := of_decide_eq_true h
      exact fun _ => Rescued.sender hrun hnot
  | recv input => exact fun hexit => absurd hexit (of_decide_eq_true h)
  | _ => trivial

/-- The parent waits for the answer to a command, and the sender is there. -/
theorem never_stranded_by_add :
    ∃ y, Reach (sysStep sampleLibc) Answered sampleSystem y
      ∧ y.gw.pc = .post .added .wait ∧ y.gw.share.ack = 0 ∧ ¬ Stranded y := by
  have hrun : (run (only (sysStep sampleLibc) senderRuns) sampleSystem (connects ++ addsNode)).map
      (fun y => (y.gw.pc, y.gw.share.ack)) = some (.post .added .wait, 0) := by decide +kernel
  obtain ⟨y, hy, hfields⟩ := Option.map_eq_some_iff.mp hrun
  obtain ⟨hpc, hack⟩ := Prod.mk.inj hfields
  have hreach : Reach (sysStep sampleLibc) Answered sampleSystem y :=
    (reach_of_run _ hy).mono (fun _ _ h => answered_of_senderRuns h)
  exact ⟨y, hreach, hpc, hack, never_stranded sampleSystem_started hreach⟩

/-- A command, and "exit" before its reply: the parent waits, and nobody answers. -/
theorem stranded_by_exit :
    ∃ y₀ y, y₀.Started ∧ Reach (sysStep sampleLibc) Any y₀ y ∧ Stranded y := by
  have hrun : (run (sysStep sampleLibc) sampleSystem (connects ++ addsNode ++ exits)).map
      (fun y => (y.gw.pc, y.gw.share.ack, y.child.snd, y.child.accept))
      = some (.post .added .wait, 0, .ended, .accept) := by decide +kernel
  obtain ⟨y, hy, hfields⟩ := Option.map_eq_some_iff.mp hrun
  simp only [Prod.mk.injEq] at hfields
  obtain ⟨hpc, hack, hsnd, haccept⟩ := hfields
  exact ⟨_, y, sampleSystem_started, reach_any_of_run _ hy, ⟨⟨_, hpc⟩, hack, hsnd, haccept⟩⟩

end LoRaGateway
