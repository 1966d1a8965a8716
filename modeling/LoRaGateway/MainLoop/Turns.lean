/-
  LoRaGateway.MainLoop.Turns
  ──────────────────────────
  **IS EVERY NODE POLLED IN ITS TURN?**

  `i` goes round the registry; `add_device` appends a record and `remove_device`
  moves the records behind the removed one to the left, under the index.  With
  the polls that were made, the parent is a round robin in the sense of
  `Lib.RoundRobin`: every step of it is one turn, one id more, one id less, or
  nothing.

    • `robin_refines` — the refinement,
    • `round_robin_covers` — between two polls of one node there is one of every
      other that stays registered, in the runs that do not skip it,
    • `poll_skipped` — a removal on the left of the index skips a node.
-/
import LoRaGateway.MainLoop.PollIndex
import LoRaGateway.Lib.RoundRobin

namespace LoRaGateway

open LoRaGateway.Lib

/-! ## §1. The polls. -/

/-- The parent, and the nodes that it has polled, the last one first. -/
structure Polling where
  gw : Gateway
  polls : List UInt32

/-- A step, with the polls so far. -/
def pollStep (libc : Libc) (w : Polling) (a : Action) : Option Polling :=
  (step libc w.gw a).map (fun s' =>
    ⟨s', if w.gw.pc = .outer ∧ s'.pc = .polled then s'.raspi.idHandling :: w.polls else w.polls⟩)

/-- Whose turn is next; a poll that is made has not moved `i` yet. -/
def Gateway.place (s : Gateway) : Nat :=
  if s.pc = .polled then Gateway.nextIndex s.i s.nodeCount else s.i

/-- The registry as a list whose items take turns. -/
def Polling.robin (w : Polling) : Robin UInt32 := ⟨w.gw.reg.ids, w.gw.place, w.polls⟩

/-- What a step is for the round robin. -/
def Polling.op (w : Polling) : Action → Option (RobinOp UInt32)
  | .main _ =>
      if w.gw.pc = .outer ∧ w.gw.nodeCount > 0 then some .turn
      else if w.gw.pc = .addDev ∧ w.gw.share.idToHandler ∉ w.gw.reg.ids then
        some (.append w.gw.share.idToHandler)
      else if w.gw.pc = .removeDev ∧ w.gw.share.idToHandler ∈ w.gw.reg.ids then
        some (.erase w.gw.share.idToHandler)
      else none
  | _ => none

/-! ## §2. The refinement. -/

section Refine

variable {libc : Libc} {w w' : Polling}

/-- The parent comes to `polled` by a poll only. -/
theorem next_polled {pc : Pc} (h : Gateway.Next pc .polled) : pc = .outer := by
  cases h
  rfl

theorem length_ids (s : Gateway) : s.reg.ids.length = s.nodeCount := List.length_map _

/-- The registry is polled in turn. -/
theorem poll_refines {io : Io} {s' : Gateway} (hpc : w.gw.pc = .outer) (hn : w.gw.nodeCount > 0)
    (h : w.gw.mainStep libc io = some s') :
    robinStep w.robin .turn = some (Polling.robin ⟨s', s'.raspi.idHandling :: w.polls⟩)
      ∧ s'.pc = .polled := by
  simp only [Gateway.mainStep, hpc] at h
  rw [if_pos hn] at h
  obtain ⟨node, dev, hnode, -, -, rfl⟩ := Gateway.poll_spec h
  have hid : w.gw.reg.ids[w.gw.i]? = some node.id := by
    unfold Registry.ids
    rw [List.getElem?_map, hnode]
    rfl
  have hplace : w.gw.place = w.gw.i := if_neg (by simp [hpc])
  have hnext : (if w.gw.i = w.gw.reg.ids.length - 1 then 0 else w.gw.i + 1)
      = Gateway.nextIndex w.gw.i w.gw.nodeCount := by
    rw [length_ids]
    rfl
  refine ⟨?_, rfl⟩
  simp only [robinStep, Polling.robin, hplace, hid, Option.map_some, hnext]
  rfl

/-- Outside a poll the place stays. -/
theorem place_stays {io : Io} {s' : Gateway} (hpoll : ¬ (w.gw.pc = .outer ∧ w.gw.nodeCount > 0))
    (h : w.gw.mainStep libc io = some s') :
    s'.place = w.gw.place ∧ s'.pc ≠ .polled := by
  have hframe := Gateway.mainStep_frame h
  have hpc' : s'.pc ≠ .polled := by
    intro hpolled
    have hnext := hframe.next
    rw [hpolled] at hnext
    have houter := next_polled hnext
    simp only [Gateway.mainStep, houter] at h
    rw [if_neg (fun hn => hpoll ⟨houter, hn⟩)] at h
    rw [← Option.some.inj h] at hpolled
    cases hpolled
  refine ⟨?_, hpc'⟩
  unfold Gateway.place
  rw [if_neg hpc']
  by_cases hpolled : w.gw.pc = .polled
  · simp only [Gateway.mainStep, hpolled] at h
    rw [if_pos hpolled, ← Option.some.inj h]
  · rw [if_neg hpolled]
    exact hframe.i hpolled

/-- Every step of the parent is a step of the round robin, or nothing to it. -/
theorem robin_refines {a : Action} (hs : pollStep libc w a = some w') :
    match w.op a with
    | some op => robinStep w.robin op = some w'.robin
    | none => w'.robin = w.robin := by
  obtain ⟨s', hstep, rfl⟩ := Option.map_eq_some_iff.mp hs
  cases a with
  | main io =>
      by_cases hpoll : w.gw.pc = .outer ∧ w.gw.nodeCount > 0
      · obtain ⟨hrobin, hpolled⟩ := poll_refines hpoll.1 hpoll.2 hstep
        simp only [Polling.op]
        rw [if_pos hpoll, if_pos ⟨hpoll.1, hpolled⟩]
        exact hrobin
      obtain ⟨hplace, hpolled⟩ := place_stays hpoll hstep
      rw [if_neg (fun h => hpolled h.2)]
      have hrobin : Polling.robin ⟨s', w.polls⟩ = ⟨s'.reg.ids, w.gw.place, w.polls⟩ := by
        rw [← hplace]
        rfl
      rw [hrobin]
      simp only [Polling.op]
      rw [if_neg hpoll]
      by_cases hadd : w.gw.pc = .addDev
      · have hids := Gateway.addDev_ids hadd hstep
        by_cases hid : w.gw.share.idToHandler ∈ w.gw.reg.ids
        · rw [if_neg (fun h => h.2 hid), if_neg (by simp [hadd]), hids, if_pos hid]
          rfl
        · rw [if_pos ⟨hadd, hid⟩, hids, if_neg hid]
          exact if_neg hid
      rw [if_neg (fun h => hadd h.1)]
      by_cases hremove : w.gw.pc = .removeDev
      · have hids := Gateway.removeDev_ids hremove hstep
        by_cases hid : w.gw.share.idToHandler ∈ w.gw.reg.ids
        · rw [if_pos ⟨hremove, hid⟩, hids]
          exact if_pos hid
        · rw [if_neg (fun h => hid h.2), hids, List.erase_of_not_mem hid]
          rfl
      · rw [if_neg (fun h => hremove h.1), (Gateway.mainStep_frame hstep).ids hadd hremove]
        rfl
  | packet p =>
      obtain ⟨dev, signalled, -, rfl⟩ := Gateway.packetStep_spec hstep
      show Polling.robin ⟨_, if w.gw.pc = .outer ∧ w.gw.pc = .polled then _ else _⟩ = _
      rw [if_neg (fun h => by rw [h.1] at h; cases h.2)]
      rfl
  | childWrite request ack id userSet =>
      rw [← Option.some.inj hstep]
      show Polling.robin ⟨_, if w.gw.pc = .outer ∧ w.gw.pc = .polled then _ else _⟩ = _
      rw [if_neg (fun h => by rw [h.1] at h; cases h.2)]
      rfl
  | usr2 =>
      rw [← Option.some.inj hstep]
      show Polling.robin ⟨_, if w.gw.pc = .outer ∧ w.gw.pc = .polled then _ else _⟩ = _
      rw [if_neg (fun h => by rw [h.1] at h; cases h.2)]
      rfl

end Refine

/-! ## §3. Runs. -/

/-- Both nodes are registered. -/
def BothRegistered (a b : UInt32) (w : Polling) (_ : Action) : Prop :=
  a ∈ w.gw.reg.ids ∧ b ∈ w.gw.reg.ids

/-- `b` is not skipped: when `a` has been polled since the last poll of `b`, and `i`
stands on `b`, no record before it is removed. -/
def SkipsNot (a b : UInt32) (w : Polling) (_ : Action) : Prop :=
  w.gw.pc = .removeDev → w.gw.share.idToHandler ∈ w.gw.reg.ids → Due a b w.polls →
    w.gw.reg.ids.idxOf w.gw.share.idToHandler < w.gw.i → w.gw.reg.ids[w.gw.i]? ≠ some b

theorem pollStep_fair {libc : Libc} {a b : UInt32} (hab : a ≠ b) {w w' : Polling} {act : Action}
    (hinv : Fair a b w.robin) (hreg : BothRegistered a b w act) (hok : SkipsNot a b w act)
    (hs : pollStep libc w act = some w') : Fair a b w'.robin := by
  have href := robin_refines hs
  cases hop : w.op act with
  | none =>
      rw [hop] at href
      rw [href]
      exact hinv
  | some op =>
      rw [hop] at href
      refine fair_step hab hinv hreg.1 hreg.2 ?_ href
      cases op with
      | erase x =>
          -- only the parent erases, at the call of `remove_device`
          cases act with
          | main io =>
              simp only [Polling.op] at hop
              split at hop
              next => cases hop
              split at hop
              next => cases hop
              split at hop
              next hremove =>
                  obtain rfl : w.gw.share.idToHandler = x := RobinOp.erase.inj (Option.some.inj hop)
                  have hplace : w.gw.place = w.gw.i := if_neg (by simp [hremove.1])
                  intro hdue hleft
                  show w.gw.reg.ids[w.gw.place]? ≠ some b
                  change w.gw.reg.ids.idxOf w.gw.share.idToHandler < w.gw.place at hleft
                  rw [hplace] at hleft ⊢
                  exact hok hremove.1 hremove.2 hdue hleft
              next => cases hop
          | _ => cases hop
      | _ => trivial

/-- **EVERY NODE IS POLLED IN ITS TURN.**  In every run in which both nodes stay
registered and the second one is not skipped by a removal, there is a poll of the
second one between any two polls of the first one. -/
theorem round_robin_covers {libc : Libc} {a b : UInt32} (hab : a ≠ b) {s₀ : Gateway}
    (hnd : s₀.reg.ids.Nodup) {w : Polling}
    (h : Reach (pollStep libc) (fun w act => BothRegistered a b w act ∧ SkipsNot a b w act)
      ⟨s₀, []⟩ w) : Covered a b w.polls := by
  have hstart : Fair a b (Polling.robin ⟨s₀, []⟩) :=
    ⟨hnd, covered_nil a b, fun _ _ hdue => False.elim hdue⟩
  have hinv : Fair a b w.robin := Reach.invariant (P := fun w => Fair a b w.robin) hstart
    (fun _ _ _ hi hok hs => pollStep_fair hab hi hok.1 hok.2 hs) h
  exact hinv.covered

/-- A round whose node answers, up to the next poll. -/
def answeredTurn (id : UInt32) : List Action :=
  mains 2 ++ [.packet (response id sampleText)] ++ mains 11

/-- Four nodes, before the first poll. -/
def fourNodes : Polling :=
  ⟨startWith [0x01020304, 0x05060708, 0x090A0B0C, 0x0D0E0F01], []⟩

/-- Four nodes that answer are polled one after the other. -/
theorem round_robin_covers_answering :
    ∃ w : Polling, w.polls = [0x01020304, 0x0D0E0F01, 0x090A0B0C, 0x05060708, 0x01020304]
      ∧ Covered 0x01020304 0x090A0B0C w.polls := by
  have hrun : (run (only (pollStep sampleLibc) (fun w _ => decide (w.gw.pc ≠ .removeDev
      ∧ 0x01020304 ∈ w.gw.reg.ids ∧ 0x090A0B0C ∈ w.gw.reg.ids))) fourNodes
      (answeredTurn 0x01020304 ++ answeredTurn 0x05060708 ++ answeredTurn 0x090A0B0C
        ++ answeredTurn 0x0D0E0F01 ++ mains 1)).map Polling.polls
      = some [0x01020304, 0x0D0E0F01, 0x090A0B0C, 0x05060708, 0x01020304] := by decide +kernel
  obtain ⟨w, hw, hpolls⟩ := Option.map_eq_some_iff.mp hrun
  refine ⟨w, hpolls, ?_⟩
  refine round_robin_covers (by decide) (by decide) ((reach_of_run _ hw).mono (fun t act hok => ?_))
  have hreg := of_decide_eq_true hok
  exact ⟨hreg.2, fun hremove => absurd hremove hreg.1⟩

/-- Of four nodes the second one answers and is removed while the index stands on
the third one: the fourth one is polled, and then the first one again. -/
theorem poll_skipped :
    ∃ (a b : UInt32) (s₀ : Gateway) (w : Polling), a ≠ b ∧ s₀.Started ∧ s₀.reg.ids.Nodup
      ∧ Reach (pollStep sampleLibc) (BothRegistered a b) ⟨s₀, []⟩ w ∧ ¬ Covered a b w.polls := by
  have hrun : (run (only (pollStep sampleLibc) (fun w _ => decide (0x01020304 ∈ w.gw.reg.ids
      ∧ 0x090A0B0C ∈ w.gw.reg.ids))) fourNodes
      (answeredTurn 0x01020304 ++ answerThenRemove 0x05060708 ++ answeredTurn 0x0D0E0F01
        ++ mains 1)).map Polling.polls
      = some [0x01020304, 0x0D0E0F01, 0x05060708, 0x01020304] := by decide +kernel
  obtain ⟨w, hw, hpolls⟩ := Option.map_eq_some_iff.mp hrun
  have hreach : Reach (pollStep sampleLibc) (BothRegistered 0x01020304 0x090A0B0C) fourNodes w := by
    refine (reach_of_run _ hw).mono (fun t act hok => ?_)
    have hreg := of_decide_eq_true hok
    exact hreg
  refine ⟨0x01020304, 0x090A0B0C, _, w, by decide, startWith_started _, by decide, hreach, ?_⟩
  intro hcovered
  rw [hpolls] at hcovered
  exact absurd (hcovered [] [0x0D0E0F01, 0x05060708] [] rfl) (by decide)

end LoRaGateway
