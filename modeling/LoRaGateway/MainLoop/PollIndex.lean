/-
  LoRaGateway.MainLoop.PollIndex
  ──────────────────────────────
  **IS THE NODE THAT IS POLLED A REGISTERED ONE?**

  `i` moves on against the `node_count` of the poll; a REMOVE_DEVICE later in the
  same round makes the registry shorter and leaves `i` where it is.  When `i`
  stands on the last record at that moment, and is not 0, the next poll reads
  behind the records.

    • `Indexed` — the invariant: `i` is 0 or below `node_count`,
    • `poll_index_safe` — it holds along the runs whose removals leave room,
    • `poll_index_escapes` — an answer and a removal in one round break it.
-/
import LoRaGateway.MainLoop.Frame

namespace LoRaGateway

open LoRaGateway.Lib

/-! ## §1. The invariant. -/

/-- The index is in range, or at the start of an empty registry. -/
def Indexed (s : Gateway) : Prop := s.i = 0 ∨ s.i < s.nodeCount

/-- A removal that finds its node is not made while `i` stands on the last record,
unless `i` is 0. -/
def KeepsIndex (s : Gateway) (_ : Action) : Prop :=
  s.pc = .removeDev → s.share.idToHandler ∈ s.reg.ids → s.i = 0 ∨ s.i + 1 < s.nodeCount

/-- The round-robin step stays in range. -/
theorem nextIndex_indexed {i n : Nat} (h : i = 0 ∨ i < n) :
    Gateway.nextIndex i n = 0 ∨ Gateway.nextIndex i n < n := by
  unfold Gateway.nextIndex
  split
  · exact Or.inl rfl
  · right
    omega

section Step

variable {libc : Libc} {s s' : Gateway}

theorem mainStep_indexed {io : Io} (hinv : Indexed s) (hok : KeepsIndex s (.main io))
    (h : s.mainStep libc io = some s') : Indexed s' := by
  have hframe := Gateway.mainStep_frame h
  by_cases hadd : s.pc = .addDev
  · -- the registry grows, `i` stays
    simp only [Gateway.mainStep, hadd] at h
    rw [← Option.some.inj h]
    have hle := nodeCount_le_addDevice io.host s.share.idToHandler s.reg
    show s.i = 0 ∨ s.i < (addDevice _ _ _).2.nodeCount
    exact hinv.imp_right (fun hi => Nat.lt_of_lt_of_le hi hle)
  by_cases hremove : s.pc = .removeDev
  · simp only [Gateway.mainStep, hremove] at h
    rw [← Option.some.inj h]
    show s.i = 0 ∨ s.i < (removeDevice _ _ _).2.nodeCount
    -- the only step that can leave `i` behind the records: here the condition is used
    rcases nodeCount_removeDevice io.host s.share.idToHandler s.reg with ⟨-, hn⟩ | ⟨hid, hn⟩
    · rw [hn]
      exact hinv
    · have hroom := hok hremove hid
      have hcount : s.nodeCount = s.reg.nodeCount := rfl
      omega
  -- any other step leaves the registry, and only the end of a poll moves `i`
  have hcount := hframe.nodeCount hadd hremove
  by_cases hpolled : s.pc = .polled
  · simp only [Gateway.mainStep, hpolled] at h
    rw [← Option.some.inj h]
    exact nextIndex_indexed hinv
  · unfold Indexed
    rw [hcount, hframe.i hpolled]
    exact hinv

/-- Nothing outside the parent moves `i` or the registry. -/
theorem step_indexed {a : Action} (hinv : Indexed s) (hok : KeepsIndex s a)
    (h : step libc s a = some s') : Indexed s' := by
  cases a with
  | main io => exact mainStep_indexed hinv hok h
  | packet p =>
      obtain ⟨dev, signalled, -, rfl⟩ := Gateway.packetStep_spec h
      exact hinv
  | childWrite request ack id userSet =>
      rw [← Option.some.inj h]
      exact hinv
  | usr2 =>
      rw [← Option.some.inj h]
      exact hinv

end Step

/-! ## §2. Runs. -/

/-- **THE POLL READS A REGISTERED RECORD** in every run whose removals leave room
for the index; the id that the round waits for is the one of that record. -/
theorem poll_index_safe {libc : Libc} {s₀ s : Gateway} (h0 : s₀.Started)
    (h : Reach (step libc) KeepsIndex s₀ s) (hpc : s.pc = .outer) (hn : s.nodeCount > 0) :
    s.i < s.nodeCount ∧ ∃ node, s.reg.newLoRa[s.i]? = some node
      ∧ ∀ io s', step libc s (.main io) = some s' → s'.raspi.idHandling = node.id := by
  have hinv : Indexed s := Reach.invariant (Or.inl h0.i) (fun _ _ _ => step_indexed) h
  have hlt : s.i < s.nodeCount := by
    rcases hinv with hi | hi
    · rw [hi]
      exact hn
    · exact hi
  refine ⟨hlt, _, List.getElem?_eq_getElem hlt, ?_⟩
  intro io s' hs
  have hpoll : s.poll io = some s' := by
    simp only [step, Gateway.mainStep, hpc] at hs
    rw [if_pos hn] at hs
    exact hs
  obtain ⟨node, dev, hnode, -, -, rfl⟩ := Gateway.poll_spec hpoll
  rw [List.getElem?_eq_getElem hlt] at hnode
  rw [Option.some.inj hnode]

/-! ## §3. A round with an answer and a removal. -/

/-- Enough of the C library for the answer `"1 2 3 4 7"`. -/
def sampleLibc : Libc where
  sscanf := fun text => if text = sampleText then some ⟨1, 2, 0x40400000, 0x40800000, 7⟩ else none
  printF := fun _ => [48]

/-- Midnight; the device and the node file open. -/
def sampleIo : Io := ⟨⟨⟨0, by decide⟩, ⟨0, by decide⟩, ⟨0, by decide⟩⟩, true, ⟨LoRaNode.zero, true⟩⟩

/-- The parent at the loop, with the nodes that `setup_node` has loaded. -/
def startWith (ids : List UInt32) : Gateway where
  reg := ⟨ids.map (loRaInit LoRaNode.zero), none, []⟩
  i := 0
  timeout := scanDuration
  raspi := ⟨0, notDone⟩
  sockStatus := 0
  rxSig := false
  socketFlag := false
  usr1Blocked := false
  usr1Pending := false
  childUsr2 := false
  share := ⟨0, 0, [], 0, TimeSet.zero⟩
  dev := freshDev
  screen := none
  pc := .outer

theorem startWith_started (ids : List UInt32) : (startWith ids).Started := ⟨rfl, rfl, rfl, rfl, rfl⟩

/-- `n` steps of the parent. -/
def mains (n : Nat) : List Action := List.replicate n (.main sampleIo)

/-- With nothing to do, the wait loop runs until its timeout; `f` adds what is watched
besides, which the places of an idle iteration must not change. -/
theorem idle_reach (libc : Libc) {τ : Type} {watched : τ → Action → Option τ}
    {ok : τ → Action → Prop} (f : Gateway → τ)
    (hf : ∀ s s', s.pc = .head ∨ s.pc = .rxTest ∨ s.pc = .sock →
      step libc s (.main sampleIo) = some s' →
        ok (f s) (.main sampleIo) ∧ watched (f s) (.main sampleIo) = some (f s')) :
    ∀ (n : Nat) (s : Gateway), s.pc = .head → s.timeout = n + 1 → s.raspi.status ≠ handled →
      s.rxSig = false → s.socketFlag = false →
        Reach watched ok (f s) (f { s with timeout := 0, pc := .tail }) := by
  intro n
  induction n with
  | zero =>
      intro s hpc htime _ _ _
      have hhead : step libc s (.main sampleIo) = some { s with timeout := 0, pc := .tail } := by
        simp [step, Gateway.mainStep, Gateway.headStep, hpc, htime]
      obtain ⟨hok, hs⟩ := hf s _ (Or.inl hpc) hhead
      exact (Reach.refl _).tail hok hs
  | succ n ih =>
      intro s hpc htime hne hsig hflag
      -- one round of the loop: the head, `rx_sig`, `socket_flag`
      have hhead : step libc s (.main sampleIo)
          = some { s with timeout := n + 1, pc := .rxTest } := by
        simp [step, Gateway.mainStep, Gateway.headStep, hpc, htime, hne]
      have htest : step libc { s with timeout := n + 1, pc := .rxTest } (.main sampleIo)
          = some { s with timeout := n + 1, pc := .sock } := by
        simp [step, Gateway.mainStep, hsig]
      have hsock : step libc { s with timeout := n + 1, pc := .sock } (.main sampleIo)
          = some { s with timeout := n + 1, pc := .head } := by
        simp [step, Gateway.mainStep, hflag]
      obtain ⟨hok₁, hs₁⟩ := hf s _ (Or.inl hpc) hhead
      obtain ⟨hok₂, hs₂⟩ := hf _ _ (Or.inr (Or.inl rfl)) htest
      obtain ⟨hok₃, hs₃⟩ := hf _ _ (Or.inr (Or.inr rfl)) hsock
      have hone : Reach watched ok (f s) (f { s with timeout := n + 1, pc := .head }) :=
        (((Reach.refl _).tail hok₁ hs₁).tail hok₂ hs₂).tail hok₃ hs₃
      exact hone.trans (ih { s with timeout := n + 1, pc := .head } rfl rfl hne hsig hflag)

/-- One round: the node answers its poll, then the client has it removed; the
removal is handled in the iteration that reads the answer. -/
def answerThenRemove (id : UInt32) : List Action :=
  mains 2 ++ [.packet (response id sampleText)] ++ mains 8
    ++ [.childWrite Code.removeDevice 0 id TimeSet.zero, .usr2] ++ mains 5
    ++ [.childWrite Code.removeDevice 1 id TimeSet.zero] ++ mains 4

instance (s : Gateway) (a : Action) : Decidable (KeepsIndex s a) :=
  inferInstanceAs (Decidable (_ → _ → _))

/-- Of three nodes the first answers and is removed: the next poll is for the last one. -/
theorem poll_index_safe_of_three :
    ∃ s, Reach (step sampleLibc) KeepsIndex (startWith [0x01020304, 0x05060708, 0x090A0B0C]) s
      ∧ s.nodeCount = 2 ∧ s.i < s.nodeCount := by
  have hrun : (run (only (step sampleLibc) (fun s a => decide (KeepsIndex s a)))
      (startWith [0x01020304, 0x05060708, 0x090A0B0C]) (answerThenRemove 0x01020304)).map
        (fun s => (s.pc, s.nodeCount)) = some (.outer, 2) := by decide +kernel
  obtain ⟨s, hs, hfields⟩ := Option.map_eq_some_iff.mp hrun
  obtain ⟨hpc, hn⟩ := Prod.mk.inj hfields
  have hreach := (reach_of_run _ hs).mono (fun _ _ h => of_decide_eq_true h)
  exact ⟨s, hreach, hn, (poll_index_safe (startWith_started _) hreach hpc (by omega)).1⟩

/-- Of two nodes the first answers and is removed: the next poll reads behind the
records. -/
theorem poll_index_escapes :
    ∃ s₀ s, s₀.Started ∧ Reach (step sampleLibc) Any s₀ s ∧ s.pc = .outer ∧ s.nodeCount > 0
      ∧ s.reg.newLoRa[s.i]? = none := by
  have hrun : (run (step sampleLibc) (startWith [0x01020304, 0x05060708])
      (answerThenRemove 0x01020304)).map (fun s => (s.pc, s.i, s.nodeCount))
      = some (.outer, 1, 1) := by decide +kernel
  obtain ⟨s, hs, hfields⟩ := Option.map_eq_some_iff.mp hrun
  simp only [Prod.mk.injEq] at hfields
  obtain ⟨hpc, hi, hn⟩ := hfields
  refine ⟨_, s, startWith_started _, reach_any_of_run _ hs, hpc, by omega, ?_⟩
  -- the second record is gone, and `i` still stands on it
  rw [hi]
  exact List.getElem?_eq_none (by show s.nodeCount ≤ 1; omega)

end LoRaGateway
