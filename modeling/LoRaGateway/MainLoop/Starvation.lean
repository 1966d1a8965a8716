/-
  LoRaGateway.MainLoop.Starvation
  ───────────────────────────────
  **ARE COMMANDS SERVED WHEN THE REGISTRY IS EMPTY?**

  With no node there is no poll, so nothing sets `raspi.status` back; if it is
  HANDLED, every wait loop breaks before it looks at `socket_flag`, and no
  ADD_DEVICE can end this.  It is HANDLED there when it has that value at start-up
  already, or when the last node is removed in the round of its answer.

    • `Unhandled` — the invariant,
    • `never_starved` — it holds along the runs that remove the last node only
      while it has not answered,
    • `starved` — an answer and the removal of the only node break it.
-/
import LoRaGateway.MainLoop.PollIndex

namespace LoRaGateway

open LoRaGateway.Lib

/-! ## §1. The invariant. -/

/-- The sender of a packet has been found, and its status comes next. -/
def Accepting : Pc → Prop
  | .rxStatus _ => True
  | .post (.dataAvailable _ _) _ => True
  | _ => False

/-- With no node the status is not HANDLED, and no answer is being accepted. -/
structure Unhandled (s : Gateway) : Prop where
  status : s.nodeCount = 0 → s.raspi.status ≠ handled
  accepting : Accepting s.pc → s.nodeCount > 0

/-- The last node is not removed in a round in which it has answered. -/
def EmptiesUnhandled (s : Gateway) (_ : Action) : Prop :=
  s.pc = .removeDev → s.share.idToHandler ∈ s.reg.ids → s.nodeCount = 1 → s.raspi.status ≠ handled

/-- The stages of a post are alike. -/
theorem accepting_post {p : Post} {stage stage' : Stage} (h : Accepting (.post p stage)) :
    Accepting (.post p stage') := by
  cases p with
  | dataAvailable uid data => exact h
  | _ => exact False.elim h

/-- The parent comes to accept an answer from the search for its sender only. -/
theorem accepting_of_next {pc pc' : Pc} (h : Gateway.Next pc pc') (hacc : Accepting pc') :
    Accepting pc ∨ ∃ buff, pc = .rxHandle buff := by
  cases h with
  | report buff uid data => exact Or.inr ⟨buff, rfl⟩
  | store buff uid => exact Or.inr ⟨buff, rfl⟩
  | fill p _ => exact Or.inl (accepting_post hacc)
  | clearAck p _ => exact Or.inl (accepting_post hacc)
  | signal p => exact Or.inl (accepting_post hacc)
  | wait p => exact Or.inl hacc
  | reported uid data => exact Or.inl trivial
  | _ => exact False.elim hacc

/-- A sender that is found is one of at least one record. -/
theorem nodeCount_pos_of_findSender {s : Gateway} {uid : UInt32} {k : Nat}
    (h : s.findSender uid = some k) : s.nodeCount > 0 := by
  unfold Gateway.findSender at h
  by_contra hn
  have hzero : s.nodeCount = 0 := by omega
  rw [hzero] at h
  exact absurd h (by simp [findLoop])

section Step

variable {libc : Libc} {s s' : Gateway}

/-- An answer is accepted while there are nodes, and such a step keeps them. -/
theorem mainStep_accepting {io : Io} (hinv : Unhandled s) (h : s.mainStep libc io = some s')
    (hacc : Accepting s'.pc) : s'.nodeCount > 0 := by
  have hframe := Gateway.mainStep_frame h
  rcases accepting_of_next hframe.next hacc with hold | ⟨buff, hpc⟩
  -- the stages between the search and the status do not touch the registry
  · have hcount := hframe.nodeCount (fun hpc => by rw [hpc] at hold; exact hold)
      (fun hpc => by rw [hpc] at hold; exact hold)
    rw [hcount]
    exact hinv.accepting hold
  · rw [hframe.nodeCount (by simp [hpc]) (by simp [hpc])]
    simp only [Gateway.mainStep, hpc] at h
    rcases Gateway.handlerRxData_spec h with rfl | rfl | ⟨uid, k, node, text, screen, hk, -⟩
    · exact False.elim hacc
    · exact False.elim hacc
    · exact nodeCount_pos_of_findSender hk

/-- Without a node after the step, the status is not HANDLED. -/
theorem mainStep_status {io : Io} (hinv : Unhandled s) (hok : EmptiesUnhandled s (.main io))
    (h : s.mainStep libc io = some s') (hzero : s'.nodeCount = 0) : s'.raspi.status ≠ handled := by
  have hframe := Gateway.mainStep_frame h
  cases hpc : s.pc with
  | addDev =>
      rw [hframe.raspi (by simp [hpc]) (by simp [hpc])]
      simp only [Gateway.mainStep, hpc] at h
      rw [← Option.some.inj h] at hzero
      -- the registry was empty before, and `add_device` does not write `raspi`
      have hle := nodeCount_le_addDevice io.host s.share.idToHandler s.reg
      have hzero' : (addDevice io.host s.share.idToHandler s.reg).2.nodeCount = 0 := hzero
      have hcount : s.nodeCount = s.reg.nodeCount := rfl
      exact hinv.status (by omega)
  | removeDev =>
      rw [hframe.raspi (by simp [hpc]) (by simp [hpc])]
      simp only [Gateway.mainStep, hpc] at h
      rw [← Option.some.inj h] at hzero
      have hzero' : (removeDevice io.host s.share.idToHandler s.reg).2.nodeCount = 0 := hzero
      have hcount : s.nodeCount = s.reg.nodeCount := rfl
      rcases nodeCount_removeDevice io.host s.share.idToHandler s.reg with ⟨-, hn⟩ | ⟨hid, hn⟩
      · exact hinv.status (by omega)
      -- the last node goes: here the condition is used
      · exact hok hpc hid (by omega)
  | rxStatus uid =>
      -- an answer that is accepted is one of a registered node
      rw [hframe.nodeCount (by simp [hpc]) (by simp [hpc])] at hzero
      have hpos := hinv.accepting (by rw [hpc]; trivial)
      omega
  | outer =>
      -- without a node there is no poll
      rw [hframe.nodeCount (by simp [hpc]) (by simp [hpc])] at hzero
      simp only [Gateway.mainStep, hpc] at h
      rw [if_neg (by omega)] at h
      rw [← Option.some.inj h]
      exact hinv.status hzero
  | _ =>
      rw [hframe.nodeCount (by simp [hpc]) (by simp [hpc])] at hzero
      rw [hframe.raspi (by simp [hpc]) (by simp [hpc])]
      exact hinv.status hzero

theorem step_unhandled {a : Action} (hinv : Unhandled s) (hok : EmptiesUnhandled s a)
    (h : step libc s a = some s') : Unhandled s' := by
  cases a with
  | main io => exact ⟨mainStep_status hinv hok h, mainStep_accepting hinv h⟩
  | packet p =>
      obtain ⟨dev, signalled, -, rfl⟩ := Gateway.packetStep_spec h
      exact ⟨hinv.status, hinv.accepting⟩
  | childWrite request ack id userSet =>
      rw [← Option.some.inj h]
      exact ⟨hinv.status, hinv.accepting⟩
  | usr2 =>
      rw [← Option.some.inj h]
      exact ⟨hinv.status, hinv.accepting⟩

end Step

/-! ## §2. The wait loop of a round without a poll. -/

/-- From the test of `rx_sig` to the test of `socket_flag`. -/
def Testing : Pc → Prop
  | .rxTest | .rxBlocked | .rxRecv | .rxHandle _ | .rxSearch | .rxStatus _ | .rxUnblock | .rxClear
  | .sock => True
  | .post (.dataAvailable _ _) _ => True
  | _ => False

theorem testing_post {p : Post} {stage stage' : Stage} (h : Testing (.post p stage)) :
    Testing (.post p stage') := by
  cases p with
  | dataAvailable uid data => exact h
  | _ => exact False.elim h

/-- The only way out of this part of the code is the test of `socket_flag`. -/
theorem testing_of_next {pc pc' : Pc} (h : Gateway.Next pc pc') (ht : Testing pc)
    (hne : pc ≠ .sock) : Testing pc' := by
  cases h with
  | fill p _ => exact testing_post ht
  | clearAck p _ => exact testing_post ht
  | signal p => exact testing_post ht
  | wait p => exact ht
  | replied p hp =>
      cases p with
      | dataAvailable uid data => exact False.elim hp
      | _ => exact False.elim ht
  -- the other edges stay inside, leave from the test, or start outside
  | _ => trivial

/-- On the way from the start of a round to its first test of `socket_flag`. -/
def FirstIteration (s : Gateway) : Prop :=
  Testing s.pc
    ∨ (s.pc = .outer ∧ s.nodeCount = 0 ∧ s.timeout = scanDuration ∧ s.raspi.status ≠ handled)
    ∨ (s.pc = .head ∧ s.timeout = scanDuration ∧ s.raspi.status ≠ handled)

theorem mainStep_firstIteration {libc : Libc} {io : Io} {s s' : Gateway} (h : FirstIteration s)
    (hne : s.pc ≠ .sock) (hs : s.mainStep libc io = some s') : FirstIteration s' := by
  rcases h with ht | ⟨hpc, hn, htime, hstatus⟩ | ⟨hpc, htime, hstatus⟩
  · exact Or.inl (testing_of_next (Gateway.mainStep_frame hs).next ht hne)
  · simp only [Gateway.mainStep, hpc] at hs
    rw [if_neg (by omega)] at hs
    rw [← Option.some.inj hs]
    exact Or.inr (Or.inr ⟨rfl, htime, hstatus⟩)
  · -- neither the timeout nor the status ends the loop here
    simp only [Gateway.mainStep, hpc, Gateway.headStep, htime] at hs
    rw [if_neg (by rw [not_or]; exact ⟨by decide, hstatus⟩)] at hs
    rw [← Option.some.inj hs]
    exact Or.inl trivial

theorem step_firstIteration {libc : Libc} {a : Action} {s s' : Gateway} (h : FirstIteration s)
    (hne : s.pc ≠ .sock) (hs : step libc s a = some s') : FirstIteration s' := by
  cases a with
  | main io => exact mainStep_firstIteration h hne hs
  | packet p =>
      obtain ⟨dev, signalled, -, rfl⟩ := Gateway.packetStep_spec hs
      exact h
  | childWrite request ack id userSet =>
      rw [← Option.some.inj hs]
      exact h
  | usr2 =>
      rw [← Option.some.inj hs]
      exact h

/-- The wait loop gets to the test of `socket_flag`: no way from here leaves the
loop before it, and with no packet signalled three steps of the parent lead to it. -/
def ReachesSocketTest (libc : Libc) (s : Gateway) : Prop :=
  (∀ s', Reach (step libc) (fun t _ => t.pc ≠ .sock) s s' → s'.pc ≠ .tail)
    ∧ (s.rxSig = false → ∀ io, ∃ s', run (step libc) s [.main io, .main io, .main io] = some s'
      ∧ s'.pc = .sock)

theorem reachesSocketTest {libc : Libc} {s : Gateway} (hpc : s.pc = .outer) (hn : s.nodeCount = 0)
    (htime : s.timeout = scanDuration) (hstatus : s.raspi.status ≠ handled) :
    ReachesSocketTest libc s := by
  constructor
  · intro s' h hpc'
    -- the invariant of the way excludes the place behind the loop
    have hfirst : FirstIteration s' :=
      Reach.invariant (Or.inr (Or.inl ⟨hpc, hn, htime, hstatus⟩))
        (fun _ _ _ hinv hne hs => step_firstIteration hinv hne hs) h
    unfold FirstIteration at hfirst
    rw [hpc'] at hfirst
    rcases hfirst with hf | ⟨hf, -⟩ | ⟨hf, -⟩
    · exact hf
    · cases hf
    · cases hf
  · intro hsig io
    refine ⟨{ s with timeout := scanDuration - 1, pc := .sock }, ?_, rfl⟩
    -- top of the round, head of the loop, test of `rx_sig`
    have hgo : ¬ (scanDuration - 1 = 0 ∨ s.raspi.status = handled) := by
      rw [not_or]
      exact ⟨by decide, hstatus⟩
    have hzero : ¬ s.nodeCount > 0 := by omega
    simp only [run, step, Gateway.mainStep, hpc, if_neg hzero, Option.bind_some, Gateway.headStep,
      htime, if_neg hgo, hsig]
    rfl

/-! ## §3. Runs. -/

/-- At the top of the loop the timeout is full. -/
def FullTimeout (s : Gateway) : Prop := s.pc = .outer → s.timeout = scanDuration

theorem step_fullTimeout {libc : Libc} {a : Action} {s s' : Gateway} (hinv : FullTimeout s)
    (hs : step libc s a = some s') : FullTimeout s' := by
  cases a with
  | main io => exact (Gateway.mainStep_frame hs).restart
  | packet p =>
      obtain ⟨dev, signalled, -, rfl⟩ := Gateway.packetStep_spec hs
      exact hinv
  | childWrite request ack id userSet =>
      rw [← Option.some.inj hs]
      exact hinv
  | usr2 =>
      rw [← Option.some.inj hs]
      exact hinv

/-- **COMMANDS ARE SERVED WHEN THE REGISTRY IS EMPTY**, if `raspi.status` is not
HANDLED at start-up without nodes, and in every run that removes the last node
only while it has not answered. -/
theorem never_starved {libc : Libc} {s₀ s : Gateway} (h0 : s₀.Started)
    (hboot : s₀.nodeCount = 0 → s₀.raspi.status ≠ handled)
    (h : Reach (step libc) EmptiesUnhandled s₀ s) (hpc : s.pc = .outer) (hn : s.nodeCount = 0) :
    s.raspi.status ≠ handled ∧ ReachesSocketTest libc s := by
  have hinv : Unhandled s := by
    refine Reach.invariant ⟨hboot, fun hacc => ?_⟩ (fun _ _ _ => step_unhandled) h
    rw [h0.pc] at hacc
    exact False.elim hacc
  have htime : FullTimeout s :=
    Reach.invariant (fun _ => h0.timeout) (fun _ _ _ hi _ hs => step_fullTimeout hi hs) h
  exact ⟨hinv.status hn, reachesSocketTest hpc hn (htime hpc) (hinv.status hn)⟩

instance (s : Gateway) (a : Action) : Decidable (EmptiesUnhandled s a) :=
  inferInstanceAs (Decidable (_ → _ → _ → _))

/-- The node answers its poll; in the next round it is removed before it answers. -/
def answerThenRemoveLater (id : UInt32) : List Action :=
  mains 2 ++ [.packet (response id sampleText)] ++ mains 11
    ++ [.childWrite Code.removeDevice 0 id TimeSet.zero, .usr2] ++ mains 11
    ++ [.childWrite Code.removeDevice 1 id TimeSet.zero] ++ mains 2

/-- The only node has answered and is removed a round later: when the wait for its
answer is over, the next command is served. -/
theorem never_starved_after_removal :
    ∃ s, Reach (step sampleLibc) EmptiesUnhandled (startWith [0x01020304]) s
      ∧ s.pc = .outer ∧ s.nodeCount = 0 ∧ s.raspi.status ≠ handled
      ∧ ReachesSocketTest sampleLibc s := by
  have hrun : (run (only (step sampleLibc) (fun s a => decide (EmptiesUnhandled s a)))
      (startWith [0x01020304]) (answerThenRemoveLater 0x01020304)).map
        (fun s => ((s.pc, s.timeout, s.raspi.status), (s.rxSig, s.socketFlag, s.nodeCount)))
      = some ((.head, 59999, notDone), (false, false, 0)) := by decide +kernel
  obtain ⟨s, hs, hfields⟩ := Option.map_eq_some_iff.mp hrun
  simp only [Prod.mk.injEq] at hfields
  obtain ⟨⟨hpc, htime, hstatus⟩, hsig, hflag, hn⟩ := hfields
  have hremoved := (reach_of_run _ hs).mono (fun _ _ h => of_decide_eq_true h)
  -- nobody answers until the timeout
  have hidle : Reach (step sampleLibc) EmptiesUnhandled s { s with timeout := 0, pc := .tail } := by
    refine idle_reach sampleLibc id (fun t t' hplace hstep => ⟨fun hremove => ?_, hstep⟩) 59998 s
      hpc htime (by rw [hstatus]; decide) hsig hflag
    rcases hplace with h | h | h <;> exact absurd (h.symm.trans hremove) (by simp)
  have htail : step sampleLibc { s with timeout := 0, pc := .tail } (.main sampleIo)
      = some (Gateway.endRound { s with timeout := 0, pc := .tail }) :=
    if_neg (fun h => absurd h.2.2 (by show ¬ s.nodeCount > 0; omega))
  have hreach := (hremoved.trans hidle).tail (fun hremove => absurd hremove (by simp)) htail
  exact ⟨_, hreach, rfl, hn, never_starved (startWith_started _) (by decide) hreach rfl hn⟩

/-- The only node answers and is removed in one round: the next round, without a
node, breaks at its first iteration. -/
theorem starved :
    ∃ s₀ s, s₀.Started ∧ s₀.nodeCount > 0 ∧ Reach (step sampleLibc) Any s₀ s
      ∧ s.pc = .outer ∧ s.nodeCount = 0 ∧ s.raspi.status = handled
      ∧ ¬ ReachesSocketTest sampleLibc s := by
  have hrun : (run (step sampleLibc) (startWith [0x01020304]) (answerThenRemove 0x01020304)).map
      (fun s => (s.pc, s.nodeCount, s.raspi.status)) = some (.outer, 0, handled) := by
    decide +kernel
  obtain ⟨s, hs, hfields⟩ := Option.map_eq_some_iff.mp hrun
  simp only [Prod.mk.injEq] at hfields
  obtain ⟨hpc, hn, hstatus⟩ := hfields
  refine ⟨_, s, startWith_started _, by decide, reach_any_of_run _ hs, hpc, hn, hstatus, ?_⟩
  intro hserved
  -- the two steps that leave the loop
  have hhead : step sampleLibc s (.main sampleIo) = some { s with pc := .head } := by
    simp only [step, Gateway.mainStep, hpc]
    rw [if_neg (by omega)]
  have htail : step sampleLibc { s with pc := .head } (.main sampleIo)
      = some { s with timeout := s.timeout - 1, pc := .tail } := by
    simp only [step, Gateway.mainStep, Gateway.headStep]
    rw [if_pos (Or.inr hstatus)]
  have hreach : Reach (step sampleLibc) (fun t _ => t.pc ≠ .sock) s
      { s with timeout := s.timeout - 1, pc := .tail } :=
    ((Reach.refl s).tail (by simp [hpc]) hhead).tail (by simp) htail
  exact hserved.1 _ hreach rfl

end LoRaGateway
