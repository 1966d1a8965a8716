/-
  LoRaGateway.MainLoop.Progress
  ─────────────────────────────
  **DOES THE PARENT GO ON FOR EVER?**

  The parent waits in three ways: at the head of the wait loop, which counts
  `timeout` down; in the eight places that spin on `ack`; and in the search of
  `handler_rx_data`, which has no end with 256 records or more.  The runs here
  are endless, with packets, writes and signals of the child between any two
  steps.  They are fair when the parent runs again and again, and does not find
  `ack` clear for ever when it waits for it.

    • `Gateway.rank` — the variant: `timeout`, then the steps to the head of the loop,
    • `rounds_go_on` — a fair run comes to the top of the loop again and again,
    • `every_node_polled` — and polls every node that stays registered again and
      again,
    • `every_signal_served` — a SIGUSR2 of the child comes to the `switch`, when
      there are nodes.
-/
import LoRaGateway.MainLoop.Turns
import LoRaGateway.MainLoop.Starvation
import LoRaGateway.Lib.Liveness

namespace LoRaGateway

open LoRaGateway.Lib

/-! ## §1. The variant. -/

/-- The steps of a place that posts, up to the wait. -/
def Post.stagesLeft : Post → Stage → Nat
  | .nodeList _, .clearAck => 3
  | .nodeList _, .fill => 2
  | _, .fill => 3
  | _, .clearAck => 2
  | _, .signal => 1
  | _, .wait => 0

/-- How many steps of the parent there can be to the end of the round, the wait loop
taken as its head: with `n` records, two loops of five steps for each. -/
def stepsLeft (n : Nat) : Pc → Nat
  | .outer | .rxSearch => 0
  | .post .disconnected stage => Post.disconnected.stagesLeft stage
  | .tail => 4
  | .head => 5
  | .clear | .polled => 6
  | .post .addFailed stage => 7 + Post.addFailed.stagesLeft stage
  | .post .added stage => 7 + Post.added.stagesLeft stage
  | .post .removeFailed stage => 7 + Post.removeFailed.stagesLeft stage
  | .post .removed stage => 7 + Post.removed.stagesLeft stage
  | .addDev | .removeDev => 11
  | .modeLoop _ tmp => 11 + (n - tmp)
  | .post (.nodeData k) stage => 12 + 5 * (n - (k + 1)) + (Post.nodeData k).stagesLeft stage
  | .scanData k => 11 + 5 * (n - k)
  | .post (.nodeList k) stage =>
      13 + 5 * n + 5 * (n - (k + 1)) + (Post.nodeList k).stagesLeft stage
  | .scanList k => 12 + 5 * n + 5 * (n - k)
  | .sock => 13 + 10 * n
  | .rxClear => 14 + 10 * n
  | .rxUnblock => 15 + 10 * n
  | .rxStatus _ => 16 + 10 * n
  | .post (.dataAvailable uid data) stage =>
      17 + 10 * n + (Post.dataAvailable uid data).stagesLeft stage
  | .rxHandle _ => 21 + 10 * n
  | .rxRecv => 22 + 10 * n
  | .rxBlocked => 23 + 10 * n
  | .rxTest => 24 + 10 * n

/-- The variant of a round. -/
def Gateway.rank (s : Gateway) : Nat × Nat := (s.timeout, stepsLeft s.nodeCount s.pc)

/-- First the timeout, then the place. -/
abbrev Before : Nat × Nat → Nat × Nat → Prop := Prod.Lex (· < ·) (· < ·)

theorem before_wf : WellFounded Before := (Prod.lex Nat.lt_wfRel Nat.lt_wfRel).wf

/-- The loops over the records, while there is one left. -/
def LoopGoesOn (n : Nat) (pc pc' : Pc) : Prop :=
  (∀ k stage, pc = .scanList k → pc' = .post (.nodeList k) stage → k < n)
    ∧ (∀ k stage, pc = .scanData k → pc' = .post (.nodeData k) stage → k < n)
    ∧ ∀ kind tmp, pc = .modeLoop kind tmp → pc' = .modeLoop kind (tmp + 1) → tmp < n

/-- Every way of the flow graph leads nearer to the end of the round, but for the two
ways from the head and for the loops that stay where they are. -/
theorem stepsLeft_of_next {n : Nat} {pc pc' : Pc} (h : Gateway.Next pc pc')
    (hloop : LoopGoesOn n pc pc') (houter : pc ≠ .outer) (houter' : pc' ≠ .outer)
    (hhead : pc ≠ .head) (hne : pc' ≠ pc) : stepsLeft n pc' < stepsLeft n pc := by
  obtain ⟨hlist, hdata, hmode⟩ := hloop
  cases h with
  | poll => exact absurd rfl houter
  | noPoll => exact absurd rfl houter
  | leave => exact absurd rfl hhead
  | iterate => exact absurd rfl hhead
  | search => exact absurd rfl hne
  | wait p => exact absurd rfl hne
  | round => exact absurd rfl houter'
  | roundAfter => exact absurd rfl houter'
  | nodeList k =>
      have hk := hlist k _ rfl rfl
      simp only [stepsLeft, Post.stagesLeft]
      omega
  | nodeData k =>
      have hk := hdata k _ rfl rfl
      simp only [stepsLeft, Post.stagesLeft]
      omega
  | modeNext kind tmp =>
      have htmp := hmode kind tmp rfl rfl
      simp only [stepsLeft]
      omega
  | fill p hp => cases p <;> simp [stepsLeft, Post.stagesLeft] at hp ⊢
  | clearAck p hp => cases p <;> simp [stepsLeft, Post.stagesLeft] at hp ⊢
  | signal p => cases p <;> simp [stepsLeft, Post.stagesLeft]
  | replied p hp =>
      cases p with
      | addFailed | added | removeFailed | removed => simp [stepsLeft, Post.stagesLeft]
      | _ => exact False.elim hp
  | _ =>
      simp only [stepsLeft, Post.stagesLeft]
      omega

/-- The way to a reply does not depend on the number of records. -/
theorem stepsLeft_reply {n n' : Nat} {pc pc' : Pc} (h : Gateway.Next pc pc')
    (hpc : pc = .addDev ∨ pc = .removeDev) : stepsLeft n' pc' < stepsLeft n pc := by
  rcases hpc with rfl | rfl
  · cases h <;> simp [stepsLeft, Post.stagesLeft]
  · cases h <;> simp [stepsLeft, Post.stagesLeft]

section Step

variable {libc : Libc} {io : Io} {s s' : Gateway}

/-- The guards of the three loops. -/
theorem loopGoesOn (h : s.mainStep libc io = some s') : LoopGoesOn s.nodeCount s.pc s'.pc := by
  refine ⟨fun k stage hpc hpc' => ?_, fun k stage hpc hpc' => ?_, fun kind tmp hpc hpc' => ?_⟩
  · simp only [Gateway.mainStep, hpc, Gateway.scanListStep] at h
    rw [← Option.some.inj h] at hpc'
    split at hpc'
    next hk => exact hk
    next => cases hpc'
  · simp only [Gateway.mainStep, hpc, Gateway.scanDataStep] at h
    rw [← Option.some.inj h] at hpc'
    split at hpc'
    next hk => exact hk
    next => cases hpc'
  · simp only [Gateway.mainStep, hpc, Gateway.modeStep] at h
    split at h
    next htmp => exact htmp
    next =>
        rw [← Option.some.inj h] at hpc'
        cases hpc'

/-- Only the wait for `ack` and the lost search stay at their place. -/
theorem stays_of_next {pc : Pc} (h : Gateway.Next pc pc) :
    pc = .rxSearch ∨ ∃ p, pc = .post p .wait := by
  cases h with
  | search => exact Or.inl rfl
  | wait p => exact Or.inr ⟨p, rfl⟩

/-- The parent's step from a place other than the top of the loop, the lost search and a
wait that goes on, to a place other than the top, makes the variant smaller. -/
theorem mainStep_rank (h : s.mainStep libc io = some s') (houter : s.pc ≠ .outer)
    (houter' : s'.pc ≠ .outer) (hsearch : s.pc ≠ .rxSearch)
    (hwait : ∀ p, s.pc = .post p .wait → s.share.ack ≠ 0) : Before s'.rank s.rank := by
  have hframe := Gateway.mainStep_frame h
  by_cases hhead : s.pc = .head
  · -- `--timeout`, or it was 0 and the loop ends
    simp only [Gateway.mainStep, hhead, Gateway.headStep] at h
    rw [← Option.some.inj h]
    unfold Gateway.rank
    rw [hhead]
    by_cases hzero : s.timeout = 0
    · rw [hzero, if_pos (Or.inl rfl)]
      exact Prod.Lex.right _ (by simp [stepsLeft])
    · split <;> exact Prod.Lex.left _ _ (by show s.timeout - 1 < s.timeout; omega)
  have htime := hframe.timeout hhead houter'
  unfold Gateway.rank
  rw [htime]
  refine Prod.Lex.right _ ?_
  by_cases hadd : s.pc = .addDev
  · exact stepsLeft_reply hframe.next (Or.inl hadd)
  by_cases hremove : s.pc = .removeDev
  · exact stepsLeft_reply hframe.next (Or.inr hremove)
  rw [hframe.nodeCount hadd hremove]
  refine stepsLeft_of_next hframe.next (loopGoesOn h) houter houter' hhead (fun hstays => ?_)
  have hnext := hframe.next
  rw [hstays] at hnext
  rcases stays_of_next hnext with hpc | ⟨p, hpc⟩
  · exact hsearch hpc
  · -- with `ack` set the wait is over
    simp only [Gateway.mainStep, hpc, Gateway.postStep] at h
    rw [if_neg (hwait p hpc)] at h
    rw [← Option.some.inj h, hpc] at hstays
    cases p <;> cases hstays

/-- With fewer than 256 records the search for the sender comes to an end. -/
theorem mainStep_found (hsearch : s.pc ≠ .rxSearch) (hroom : s.nodeCount < 256)
    (h : s.mainStep libc io = some s') : s'.pc ≠ .rxSearch := by
  intro hpc'
  have hnext := (Gateway.mainStep_frame h).next
  cases hpc : s.pc with
  | rxHandle buff =>
      simp only [Gateway.mainStep, hpc] at h
      have hout := Gateway.handlerRxData_outcome libc s buff
      rw [h] at hout
      cases hout with
      | unknown =>
          rw [if_pos hroom] at hpc'
          cases hpc'
      | stores =>
          simp only at hpc'
          split at hpc' <;> cases hpc'
      | _ => cases hpc'
  | rxSearch => exact hsearch hpc
  | _ =>
      rw [hpc, hpc'] at hnext
      cases hnext

/-- What happens to the parent from outside leaves its place, its timeout, its round and
the registry as they are. -/
theorem step_outside {a : Action} (h : step libc s a = some s') (ha : ∀ io, a ≠ .main io) :
    s'.pc = s.pc ∧ s'.timeout = s.timeout ∧ s'.i = s.i ∧ s'.raspi = s.raspi ∧ s'.reg = s.reg
      ∧ (s.socketFlag = true → s'.socketFlag = true) := by
  cases a with
  | main io => exact absurd rfl (ha io)
  | packet p =>
      obtain ⟨dev, signalled, -, rfl⟩ := Gateway.packetStep_spec h
      exact ⟨rfl, rfl, rfl, rfl, rfl, id⟩
  | childWrite request ack id userSet =>
      rw [← Option.some.inj h]
      exact ⟨rfl, rfl, rfl, rfl, rfl, fun hflag => hflag⟩
  | usr2 =>
      rw [← Option.some.inj h]
      exact ⟨rfl, rfl, rfl, rfl, rfl, fun _ => rfl⟩

end Step

/-! ## §2. Rounds. -/

section Runs

variable {libc : Libc} (r : Forever (step libc))

/-- The parent runs, and if it waits for an acknowledgement it finds it. -/
def Served (n : Nat) : Prop :=
  (∃ io, r.action n = .main io)
    ∧ ∀ p, (r.state n).pc = .post p .wait → (r.state n).share.ack ≠ 0

/-- The parent is at the top of the loop. -/
def AtTop (n : Nat) : Prop := (r.state n).pc = .outer

/-- What the fairness of a run consists of. -/
structure FairRun : Prop where
  start : (r.state 0).Started
  served : Recurs (Served r)
  /-- the index of `handler_rx_data` is one byte -/
  room : ∀ n, (r.state n).nodeCount < 256

variable {r}

theorem FairRun.found (hfair : FairRun r) (n : Nat) : (r.state n).pc ≠ .rxSearch := by
  refine r.invariant (P := fun s => s.pc ≠ .rxSearch) (m := 0) ?_ (fun k _ hpc => ?_) n
    (Nat.zero_le n)
  · rw [hfair.start.pc]
    simp
  have hstep := r.follows k
  cases ha : r.action k with
  | main io =>
      rw [ha] at hstep
      exact mainStep_found hpc (hfair.room k) hstep
  | _ =>
      rw [(step_outside hstep (by simp [ha])).1]
      exact hpc

/-- No step of a run between two rounds makes the variant larger. -/
theorem FairRun.rank_keeps (hfair : FairRun r) (n : Nat) (hn : ¬ AtTop r n)
    (hn' : ¬ AtTop r (n + 1)) :
    (r.state (n + 1)).rank = (r.state n).rank
      ∨ Before (r.state (n + 1)).rank (r.state n).rank := by
  have hstep := r.follows n
  cases ha : r.action n with
  | main io =>
      rw [ha] at hstep
      by_cases hspin : ∃ p, (r.state n).pc = .post p .wait ∧ (r.state n).share.ack = 0
      · obtain ⟨p, hpc, hack⟩ := hspin
        left
        simp only [step, Gateway.mainStep, hpc, Gateway.postStep] at hstep
        rw [if_pos hack] at hstep
        rw [Option.some.inj hstep]
      · exact Or.inr (mainStep_rank hstep hn hn' (hfair.found n)
          (fun p hpc hack => hspin ⟨p, hpc, hack⟩))
  | _ =>
      left
      obtain ⟨hpc, htime, -, -, hreg, -⟩ := step_outside hstep (by simp [ha])
      unfold Gateway.rank Gateway.nodeCount
      rw [hpc, htime, hreg]

/-- **THE ROUNDS GO ON.**  A fair run comes to the top of the loop again and again. -/
theorem rounds_go_on (hfair : FairRun r) : Recurs (AtTop r) := by
  refine recurs_of_rank (fun n => (r.state n).rank) before_wf hfair.rank_keeps
    (fun n => ?_)
  obtain ⟨m, hm, ⟨io, ha⟩, hack⟩ := hfair.served n
  by_cases htop : AtTop r m
  · exact ⟨m, hm, Or.inl htop⟩
  by_cases htop' : AtTop r (m + 1)
  · exact ⟨m + 1, Nat.le_succ_of_le hm, Or.inl htop'⟩
  · have hstep := r.follows m
    rw [ha] at hstep
    exact ⟨m, hm, Or.inr (mainStep_rank hstep htop htop' (hfair.found m) hack)⟩

/-! ## §3. Polls. -/

/-- Where the parent is, and what it decides about. -/
def Unmoved (s s' : Gateway) : Prop :=
  s'.pc = s.pc ∧ s'.i = s.i ∧ s'.timeout = s.timeout ∧ s'.raspi = s.raspi ∧ s'.reg = s.reg
    ∧ (s.socketFlag = true → s'.socketFlag = true)

/-- The next step of the parent finds everything as it is now. -/
theorem FairRun.next_main (hfair : FairRun r) (n : Nat) :
    ∃ m io, n ≤ m ∧ r.action m = .main io ∧ Unmoved (r.state n) (r.state m) := by
  obtain ⟨m, hm, ⟨io, ha⟩, -⟩ := hfair.served n
  obtain ⟨d, rfl⟩ := Nat.exists_eq_add_of_le hm
  clear hm
  induction d generalizing n with
  | zero => exact ⟨n, io, Nat.le_refl n, ha, rfl, rfl, rfl, rfl, rfl, id⟩
  | succ d ih =>
      by_cases hmain : ∃ io', r.action n = .main io'
      · obtain ⟨io', ha'⟩ := hmain
        exact ⟨n, io', Nat.le_refl n, ha', rfl, rfl, rfl, rfl, rfl, id⟩
      · obtain ⟨hpc, htime, hi, hraspi, hreg, hflag⟩ :=
          step_outside (r.follows n) (fun io' ha' => hmain ⟨io', ha'⟩)
        have hsame : n + 1 + d = n + (d + 1) := by omega
        obtain ⟨m, io', hm, ha', hpc', hi', htime', hraspi', hreg', hflag'⟩ :=
          ih (n + 1) (by rw [hsame]; exact ha)
        exact ⟨m, io', by omega, ha', hpc'.trans hpc, hi'.trans hi, htime'.trans htime,
          hraspi'.trans hraspi, hreg'.trans hreg, fun h => hflag' (hflag h)⟩

/-- The node `id` is polled. -/
def IsPolled (r : Forever (step libc)) (id : UInt32) (n : Nat) : Prop :=
  AtTop r n ∧ (r.state (n + 1)).pc = .polled ∧ (r.state (n + 1)).raspi.idHandling = id

/-- From the head of the wait loop to the top of the next round `i` stays. -/
theorem FairRun.next_round (hfair : FairRun r) {n : Nat} (hpc : (r.state n).pc = .head) :
    ∃ m, n ≤ m ∧ AtTop r m ∧ (r.state m).i = (r.state n).i := by
  obtain ⟨top, htop, hat⟩ := rounds_go_on hfair n
  refine becomes (P := fun k => (r.state k).pc ≠ .outer ∧ (r.state k).pc ≠ .polled
    ∧ (r.state k).i = (r.state n).i) ⟨by simp [hpc], by simp [hpc], rfl⟩ ?_
    ⟨top, htop, fun hP => hP.1 hat⟩
  rintro k - ⟨houter, hpolled, hi⟩
  have hstep := r.follows k
  cases ha : r.action k with
  | main io =>
      rw [ha] at hstep
      have hframe := Gateway.mainStep_frame hstep
      have hi' : (r.state (k + 1)).i = (r.state n).i := (hframe.i hpolled).trans hi
      by_cases hat' : (r.state (k + 1)).pc = .outer
      · exact Or.inr ⟨hat', hi'⟩
      · refine Or.inl ⟨hat', fun hpc' => houter ?_, hi'⟩
        have hnext := hframe.next
        rw [hpc'] at hnext
        exact next_polled hnext
  | _ =>
      obtain ⟨hpc', -, hi', -⟩ := step_outside hstep (by simp [ha])
      rw [hpc', hi']
      exact Or.inl ⟨houter, hpolled, hi⟩

/-- **One turn.**  At the top of the loop the record at `i` is polled, and the next round
begins with the next index. -/
theorem FairRun.turn (hfair : FairRun r) {ids : List UInt32} (hids : ids ≠ []) {n : Nat}
    (hkeep : ∀ k, n ≤ k → (r.state k).reg.ids = ids) (htop : AtTop r n) :
    ∃ id, ids[(r.state n).i]? = some id ∧ (∃ m, n ≤ m ∧ IsPolled r id m)
      ∧ ∃ m, n ≤ m ∧ AtTop r m
        ∧ (r.state m).i = Gateway.nextIndex (r.state n).i ids.length := by
  -- the poll
  obtain ⟨a, io, hna, hact, hpc, hi, -, -, hreg, -⟩ := hfair.next_main n
  have hstep := r.follows a
  rw [hact] at hstep
  have hlen : ∀ k, n ≤ k → (r.state k).nodeCount = ids.length := by
    intro k hk
    rw [← hkeep k hk, length_ids]
  have hpos : (r.state a).nodeCount > 0 := by
    rw [hlen a hna]
    exact List.length_pos_iff.mpr hids
  have hpoll : (r.state a).poll io = some (r.state (a + 1)) := by
    simp only [step, Gateway.mainStep, hpc.trans htop] at hstep
    rw [if_pos hpos] at hstep
    exact hstep
  obtain ⟨node, dev, hnode, -, -, hafter⟩ := Gateway.poll_spec hpoll
  have hid : ids[(r.state n).i]? = some node.id := by
    rw [← hkeep a hna, ← hi]
    unfold Registry.ids
    rw [List.getElem?_map, hnode]
    rfl
  refine ⟨node.id, hid, ⟨a, hna, hpc.trans htop, by rw [hafter], by rw [hafter]⟩, ?_⟩
  -- `i` moves on
  obtain ⟨b, io', hab, hact', hpc', hi', -⟩ := hfair.next_main (a + 1)
  have hstep' := r.follows b
  rw [hact'] at hstep'
  have hpolled : (r.state b).pc = .polled := by rw [hpc', hafter]
  simp only [step, Gateway.mainStep, hpolled] at hstep'
  have hnext := Option.some.inj hstep'
  obtain ⟨m, hm, hat, him⟩ := hfair.next_round (n := b + 1) (by rw [← hnext])
  refine ⟨m, by omega, hat, ?_⟩
  rw [him, ← hnext]
  show Gateway.nextIndex (r.state b).i (r.state b).nodeCount = _
  rw [hlen b (by omega), hi', hafter]
  show Gateway.nextIndex (r.state a).i _ = _
  rw [hi]

/-- A request of the client is being handled. -/
def InSwitch : Pc → Prop
  | .addDev | .removeDev | .scanList _ | .scanData _ | .modeLoop _ _ | .clear => True
  | .post (.dataAvailable _ _) _ | .post .disconnected _ => False
  | .post _ _ => True
  | _ => False

theorem inSwitch_post {p : Post} {stage stage' : Stage} :
    InSwitch (.post p stage) ↔ InSwitch (.post p stage') := by
  cases p <;> exact Iff.rfl

/-- Requests are handled from the `switch` up to `socket_flag = 0`. -/
theorem inSwitch_of_next {pc pc' : Pc} (h : Gateway.Next pc pc') :
    (InSwitch pc → pc ≠ .clear → InSwitch pc') ∧ (¬ InSwitch pc → pc ≠ .sock → ¬ InSwitch pc') := by
  cases h with
  | fill p _ => exact ⟨fun hs _ => inSwitch_post.mp hs, fun hs _ hs' => hs (inSwitch_post.mp hs')⟩
  | clearAck p _ =>
      exact ⟨fun hs _ => inSwitch_post.mp hs, fun hs _ hs' => hs (inSwitch_post.mp hs')⟩
  | signal p => exact ⟨fun hs _ => inSwitch_post.mp hs, fun hs _ hs' => hs (inSwitch_post.mp hs')⟩
  | wait p => exact ⟨fun hs _ => hs, fun hs _ => hs⟩
  | replied p hp =>
      refine ⟨fun _ _ => trivial, fun hs _ _ => hs ?_⟩
      cases p with
      | addFailed | added | removeFailed | removed => trivial
      | _ => exact False.elim hp
  | _ => simp [InSwitch]

/-- The parent comes to the test of `socket_flag`. -/
def Tests (r : Forever (step libc)) (n : Nat) : Prop :=
  (r.state n).pc = .sock ∧ ∃ io, r.action n = .main io

/-- **The test of `socket_flag` comes again and again**, when there are nodes: a round
that begins with a poll does not end before it. -/
theorem tests_go_on (hfair : FairRun r) (hnodes : ∀ n, (r.state n).nodeCount > 0) :
    Recurs (Tests r) := by
  intro n
  obtain ⟨top, htop, hat⟩ := rounds_go_on hfair n
  have htime : FullTimeout (r.state top) :=
    r.invariant (P := FullTimeout) (m := 0) (fun _ => hfair.start.timeout)
      (fun k _ hinv => step_fullTimeout hinv (r.follows k)) top (Nat.zero_le top)
  -- the poll sets the status back
  obtain ⟨a, io, hta, hact, hpc, -, htime', -⟩ := hfair.next_main top
  have hstep := r.follows a
  rw [hact] at hstep
  have hpoll : (r.state a).poll io = some (r.state (a + 1)) := by
    simp only [step, Gateway.mainStep, hpc.trans hat] at hstep
    rw [if_pos (hnodes a)] at hstep
    exact hstep
  obtain ⟨node, dev, -, -, -, hafter⟩ := Gateway.poll_spec hpoll
  obtain ⟨b, io', hab, hact', hpc', -, htime'', hraspi, -⟩ := hfair.next_main (a + 1)
  have hstep' := r.follows b
  rw [hact'] at hstep'
  have hpolled : (r.state b).pc = .polled := by rw [hpc', hafter]
  simp only [step, Gateway.mainStep, hpolled] at hstep'
  have hnext := Option.some.inj hstep'
  have hfirst : FirstIteration (r.state (b + 1)) := by
    refine Or.inr (Or.inr ⟨by rw [← hnext], ?_, ?_⟩)
    · rw [← hnext]
      show (r.state b).timeout = _
      rw [htime'', hafter]
      exact htime'.trans (htime hat)
    · rw [← hnext]
      show (r.state b).raspi.status ≠ _
      rw [hraspi, hafter]
      show notDone ≠ handled
      decide
  -- the first iteration does not lead to the top of the next round
  obtain ⟨next, hle, hat'⟩ := rounds_go_on hfair (b + 1)
  obtain ⟨m, hm, hsock⟩ := becomes
    (P := fun k => FirstIteration (r.state k) ∧ (r.state k).pc ≠ .sock)
    (Q := fun k => (r.state k).pc = .sock) ⟨hfirst, by rw [← hnext]; simp⟩
    (fun k _ hP => by
      have hfirst' := step_firstIteration hP.1 hP.2 (r.follows k)
      by_cases hs : (r.state (k + 1)).pc = .sock
      · exact Or.inr hs
      · exact Or.inl ⟨hfirst', hs⟩)
    ⟨next, hle, fun hP => by
      have hzero := hnodes next
      rcases hP.1 with ht | ⟨-, hn, -⟩ | ⟨hhead, -⟩
      · rw [hat'] at ht
        exact ht
      · omega
      · rw [hat'] at hhead
        cases hhead⟩
  obtain ⟨c, io'', hmc, hact'', hpc'', -⟩ := hfair.next_main m
  exact ⟨c, by omega, hpc''.trans hsock, io'', hact''⟩

/-- A signal that comes outside the handling of a request is seen by the next test. -/
theorem signal_seen (hfair : FairRun r) (hnodes : ∀ n, (r.state n).nodeCount > 0) {n : Nat}
    (hflag : (r.state n).socketFlag = true) (hswitch : ¬ InSwitch (r.state n).pc) :
    ∃ m, n ≤ m ∧ Tests r m ∧ (r.state m).socketFlag = true := by
  by_cases htests : Tests r n
  · exact ⟨n, Nat.le_refl n, htests, hflag⟩
  obtain ⟨test, htest, hat⟩ := tests_go_on hfair hnodes n
  refine becomes (P := fun k => (r.state k).socketFlag = true ∧ ¬ InSwitch (r.state k).pc
    ∧ ¬ Tests r k) ⟨hflag, hswitch, htests⟩ ?_ ⟨test, htest, fun hP => hP.2.2 hat⟩
  rintro k - ⟨hflag, hswitch, hnot⟩
  have hstep := r.follows k
  have hkept : (r.state (k + 1)).socketFlag = true ∧ ¬ InSwitch (r.state (k + 1)).pc := by
    cases ha : r.action k with
    | main io =>
        rw [ha] at hstep
        have hframe := Gateway.mainStep_frame hstep
        have hclear : (r.state k).pc ≠ .clear := fun hpc => hswitch (by rw [hpc]; trivial)
        exact ⟨(hframe.socketFlag hclear).trans hflag,
          (inSwitch_of_next hframe.next).2 hswitch (fun hpc => hnot ⟨hpc, io, ha⟩)⟩
    | _ =>
        obtain ⟨hpc, -, -, -, -, hflag'⟩ := step_outside hstep (by simp [ha])
        exact ⟨hflag' hflag, by rw [hpc]; exact hswitch⟩
  by_cases htests : Tests r (k + 1)
  · exact Or.inr ⟨htests, hkept.1⟩
  · exact Or.inl ⟨hkept.1, hkept.2, htests⟩

/-- What the test finds is handled to its end. -/
theorem test_served (hfair : FairRun r) {n : Nat} (htests : Tests r n)
    (hflag : (r.state n).socketFlag = true) :
    ∃ m, n ≤ m ∧ (r.state m).pc = .clear ∧ (r.state (m + 1)).socketFlag = false := by
  obtain ⟨hpc, io, ha⟩ := htests
  have hstep := r.follows n
  rw [ha] at hstep
  have hswitch : InSwitch (r.state (n + 1)).pc := by
    simp only [step, Gateway.mainStep, hpc] at hstep
    rw [if_pos hflag] at hstep
    obtain ⟨pc, sockStatus, hd, hto⟩ := Gateway.dispatch_spec (r.state n)
    rw [← Option.some.inj hstep, hd]
    rcases hto with rfl | rfl | rfl | rfl | ⟨kind, rfl⟩ <;> trivial
  obtain ⟨top, htop, hat⟩ := rounds_go_on hfair (n + 1)
  -- the last moment of the handling is at `socket_flag = 0`
  obtain ⟨k, hk, -, hlast, hnot⟩ := last_before (P := fun k => InSwitch (r.state k).pc) hswitch
    htop (by rw [hat]; exact id)
  have hlaststep := r.follows k
  cases hact : r.action k with
  | main io' =>
      rw [hact] at hlaststep
      have hclear : (r.state k).pc = .clear := by
        by_contra hne
        exact hnot ((inSwitch_of_next (Gateway.mainStep_frame hlaststep).next).1 hlast hne)
      refine ⟨k, by omega, hclear, ?_⟩
      simp only [step, Gateway.mainStep, hclear] at hlaststep
      rw [← Option.some.inj hlaststep]
  | _ =>
      rw [(step_outside hlaststep (by simp [hact])).1] at hnot
      exact absurd hlast hnot

/-- **EVERY SIGNAL OF THE CHILD IS SERVED** in a fair run with nodes, if it comes outside
the handling of a request: the `switch` is entered with `socket_flag` set, and the
request that it finds is handled to its end. -/
theorem every_signal_served (hfair : FairRun r) (hnodes : ∀ n, (r.state n).nodeCount > 0)
    {n : Nat} (hflag : (r.state n).socketFlag = true) (hswitch : ¬ InSwitch (r.state n).pc) :
    ∃ m k, n ≤ m ∧ m ≤ k ∧ Tests r m ∧ (r.state m).socketFlag = true
      ∧ (r.state k).pc = .clear ∧ (r.state (k + 1)).socketFlag = false := by
  obtain ⟨m, hm, htests, hflag'⟩ := signal_seen hfair hnodes hflag hswitch
  obtain ⟨k, hk, hclear, hdown⟩ := test_served hfair htests hflag'
  exact ⟨m, k, hm, hk, htests, hflag', hclear, hdown⟩

end Runs

/-! ## §5. A gateway that is left alone. -/

/-- A poll of a record is always possible. -/
theorem poll_defined (io : Io) {s : Gateway} {node : LoRaNode}
    (hnode : s.reg.newLoRa[s.i]? = some node) :
    ∃ s', s.poll io = some s' := by
  have hsendable : (MainPacket.requestData io.tm).Sendable := trivial
  obtain ⟨pkt, buff, hbuild, hformat, -, hcstr, hzero⟩ := MainPacket.format_spec hsendable node.id
  have htx : (MainPacket.requestData io.tm).format node.id = some buff := by
    unfold MainPacket.format
    rw [hbuild]
    exact hformat
  -- 10 bytes of header and at most 47 of text fit `to_send`
  have hshort : (cstr buff.bytes).length ≤ 58 := by
    have hle := (cstr_isPrefixOf (frame (MainPacket.requestData io.tm).pktType node.id
      (MainPacket.requestData io.tm).text)).length_le
    have hlen := (MainPacket.text_of_sendable hsendable).2.1
    rw [length_frame] at hle
    rw [hcstr]
    exact Nat.le_trans hle (by show 10 + _ ≤ 58; omega)
  have hdev : ∃ dev, s.dev.transmit io.opens buff = some dev := by
    unfold LoRaDev.transmit
    split
    · rw [dif_pos ⟨hzero, hshort⟩]
      exact ⟨_, rfl⟩
    · exact ⟨_, rfl⟩
  obtain ⟨dev, hdev⟩ := hdev
  unfold Gateway.poll
  simp only [hnode, htx, hdev, Option.bind_eq_bind, Option.bind_some]
  exact ⟨_, rfl⟩

/-- The places of a round without an answer and without a request. -/
def Idling : Pc → Prop
  | .outer | .polled | .head | .rxTest | .sock | .tail | .post .disconnected _ => True
  | _ => False

/-- Without a signal the parent goes on, and stays in these places. -/
theorem idling_step (libc : Libc) (io : Io) {s : Gateway} (hpc : Idling s.pc)
    (hsig : s.rxSig = false) (hflag : s.socketFlag = false) (hi : s.i < s.nodeCount) :
    ∃ s', s.mainStep libc io = some s' ∧ Idling s'.pc ∧ s'.rxSig = false
      ∧ s'.socketFlag = false ∧ s'.reg.ids = s.reg.ids ∧ s'.i < s'.nodeCount := by
  cases hplace : s.pc with
  | outer =>
      obtain ⟨s', hs'⟩ := poll_defined io (List.getElem?_eq_getElem hi)
      obtain ⟨_, dev, -, -, -, hafter⟩ := Gateway.poll_spec hs'
      refine ⟨s', ?_, by rw [hafter]; trivial, by simp [hafter, hsig], by simp [hafter, hflag],
        by simp [hafter], by rw [hafter]; exact hi⟩
      simp only [Gateway.mainStep, hplace]
      rw [if_pos (by omega)]
      exact hs'
  | polled =>
      refine ⟨{ s with i := Gateway.nextIndex s.i s.nodeCount, pc := .head },
        by simp only [Gateway.mainStep, hplace], trivial, hsig, hflag, rfl, ?_⟩
      show Gateway.nextIndex s.i s.nodeCount < s.nodeCount
      unfold Gateway.nextIndex
      split <;> omega
  | head =>
      simp only [Gateway.mainStep, hplace, Gateway.headStep]
      split
      · exact ⟨_, rfl, trivial, hsig, hflag, rfl, hi⟩
      · exact ⟨_, rfl, trivial, hsig, hflag, rfl, hi⟩
  | rxTest =>
      refine ⟨{ s with pc := .sock }, ?_, trivial, hsig, hflag, rfl, hi⟩
      simp [Gateway.mainStep, hplace, hsig]
  | sock =>
      refine ⟨{ s with pc := .head }, ?_, trivial, hsig, hflag, rfl, hi⟩
      simp [Gateway.mainStep, hplace, hflag]
  | tail =>
      simp only [Gateway.mainStep, hplace]
      split
      · exact ⟨_, rfl, trivial, hsig, hflag, rfl, hi⟩
      · exact ⟨_, rfl, trivial, hsig, hflag, rfl, hi⟩
  | post p stage =>
      cases p with
      | disconnected =>
          simp only [Gateway.mainStep, hplace]
          cases stage with
          | fill | clearAck | signal => exact ⟨_, rfl, trivial, hsig, hflag, rfl, hi⟩
          | wait =>
              simp only [Gateway.postStep]
              split
              · exact ⟨_, rfl, by rw [hplace]; trivial, hsig, hflag, rfl, hi⟩
              · exact ⟨_, rfl, trivial, hsig, hflag, rfl, hi⟩
      | _ =>
          rw [hplace] at hpc
          exact False.elim hpc
  | _ =>
      rw [hplace] at hpc
      exact False.elim hpc

/-- Three nodes, which do not answer, and a client that has closed its connection. -/
structure LeftAlone (s : Gateway) : Prop where
  pc : s.pc = .outer ∨ s.pc = .polled ∨ s.pc = .head ∨ s.pc = .rxTest ∨ s.pc = .sock
    ∨ s.pc = .clear ∨ s.pc = .tail
  ids : s.reg.ids = [0x01020304, 0x05060708, 0x090A0B0C]
  i : s.i < 3
  status : s.raspi.status ≠ handled
  sockStatus : s.sockStatus = 0
  rxSig : s.rxSig = false
  request : s.share.request = Code.ctlSock

/-- The client has closed its connection. -/
theorem dispatch_ctlSock {s : Gateway} (h : s.share.request = Code.ctlSock) :
    s.dispatch = { s with sockStatus := 0, pc := .clear } := by
  unfold Gateway.dispatch
  simp only [h]
  rw [if_neg (by decide), if_neg (by decide), if_neg (by decide), if_pos trivial]

theorem leftAlone_step {s : Gateway} (h : LeftAlone s) :
    ∃ s', step sampleLibc s (.main sampleIo) = some s' ∧ LeftAlone s' := by
  obtain ⟨hpc, hids, hi, hstatus, hsock, hsig, hrequest⟩ := h
  have hcount : s.nodeCount = 3 := by rw [← length_ids, hids]; rfl
  rcases hpc with hpc | hpc | hpc | hpc | hpc | hpc | hpc
  · obtain ⟨node, hnode⟩ : ∃ node, s.reg.newLoRa[s.i]? = some node :=
      ⟨_, List.getElem?_eq_getElem (by show s.i < s.nodeCount; omega)⟩
    obtain ⟨s', hs'⟩ := poll_defined sampleIo hnode
    obtain ⟨_, dev, -, -, -, hafter⟩ := Gateway.poll_spec hs'
    refine ⟨s', ?_, by simp [hafter], by simp [hafter, hids], by simp [hafter, hi], ?_,
      by simp [hafter, hsock], by simp [hafter, hsig], by simp [hafter, hrequest]⟩
    · simp only [step, Gateway.mainStep, hpc]
      rw [if_pos (by omega)]
      exact hs'
    · rw [hafter]
      show notDone ≠ handled
      decide
  · refine ⟨{ s with i := Gateway.nextIndex s.i s.nodeCount, pc := .head }, ?_,
      by simp, hids, ?_, hstatus, hsock, hsig, hrequest⟩
    · simp only [step, Gateway.mainStep, hpc]
    · show Gateway.nextIndex s.i s.nodeCount < 3
      unfold Gateway.nextIndex
      split <;> omega
  · have hstep : step sampleLibc s (.main sampleIo) = some s.headStep := by
      simp only [step, Gateway.mainStep, hpc]
    unfold Gateway.headStep at hstep
    simp only at hstep
    split at hstep
    · exact ⟨_, hstep, by simp, hids, hi, hstatus, hsock, hsig, hrequest⟩
    · exact ⟨_, hstep, by simp, hids, hi, hstatus, hsock, hsig, hrequest⟩
  · refine ⟨{ s with pc := .sock }, ?_, by simp, hids, hi, hstatus, hsock, hsig, hrequest⟩
    simp [step, Gateway.mainStep, hpc, hsig]
  · cases hflag : s.socketFlag with
    | true =>
        refine ⟨{ s with sockStatus := 0, pc := .clear }, ?_, by simp, hids, hi, hstatus, rfl,
          hsig, hrequest⟩
        simp only [step, Gateway.mainStep, hpc]
        rw [if_pos hflag, dispatch_ctlSock hrequest]
    | false =>
        refine ⟨{ s with pc := .head }, ?_, by simp, hids, hi, hstatus, hsock, hsig, hrequest⟩
        simp [step, Gateway.mainStep, hpc, hflag]
  · refine ⟨{ s with socketFlag := false, pc := .head }, ?_, by simp, hids, hi, hstatus, hsock,
      hsig, hrequest⟩
    simp only [step, Gateway.mainStep, hpc]
  · refine ⟨s.endRound, ?_, by simp [Gateway.endRound], hids, hi, hstatus, hsock, hsig, hrequest⟩
    simp [step, Gateway.mainStep, hpc, hsock]

/-- The loop is entered with a signal of the child already there. -/
def signalledStart : Gateway :=
  { startWith [0x01020304, 0x05060708, 0x090A0B0C] with
    socketFlag := true
    share := ⟨Code.ctlSock, 0, [], 0, TimeSet.zero⟩ }

theorem leftAlone_start : LeftAlone signalledStart :=
  ⟨Or.inl rfl, rfl, by decide, by decide, rfl, rfl, rfl⟩

/-- The parent runs for ever, and nothing else happens. -/
def leftAlone : Forever (step sampleLibc) :=
  Forever.again signalledStart (.main sampleIo) leftAlone_start (fun _ => leftAlone_step)

theorem leftAlone_all (n : Nat) : LeftAlone (leftAlone.state n) :=
  Forever.again_invariant leftAlone_start (fun _ => leftAlone_step) n

theorem leftAlone_nodeCount (n : Nat) : (leftAlone.state n).nodeCount = 3 := by
  rw [← length_ids, (leftAlone_all n).ids]
  rfl

theorem leftAlone_fair : FairRun leftAlone where
  start := ⟨rfl, rfl, rfl, rfl, rfl⟩
  served := by
    refine fun n => ⟨n, Nat.le_refl n, ⟨sampleIo, rfl⟩, fun p hpc => ?_⟩
    have h := (leftAlone_all n).pc
    rw [hpc] at h
    simp at h
  room := by
    intro n
    rw [leftAlone_nodeCount]
    decide

/-- The signal of the child is taken. -/
theorem every_signal_served_alone :
    ∃ m k, 0 ≤ m ∧ m ≤ k ∧ Tests leftAlone m ∧ (leftAlone.state m).socketFlag = true
      ∧ (leftAlone.state k).pc = .clear ∧ (leftAlone.state (k + 1)).socketFlag = false :=
  every_signal_served leftAlone_fair (fun n => by rw [leftAlone_nodeCount]; decide) rfl id

end LoRaGateway
