/-
  LoRaGateway.Session.Served
  ──────────────────────────
  **IS EVERY TEXT OF AN OPEN CONNECTION DELIVERED IN THE END?**

  The parent waits for `ack` without a limit, so it goes on only when three others do:
  the accept loop, which creates the sender, the child's handler of SIGUSR2, and the
  sender itself.  Each of them is fair here — what can go on all the time does go on —
  and the client stays connected.

    • `Hand`, `helpful`, `handRank` — which of the three brings the text nearer to its
      end, and how far it is from it,
    • `every_text_delivered` — each text that is posted reaches the client, alone and
      once, and the wait for it ends,
    • `parent_fair` — so the parent is never held up for ever: its run is a fair one.
-/
import LoRaGateway.Session.HandOver
import LoRaGateway.Session.Parent
import LoRaGateway.MainLoop.Progress

namespace LoRaGateway

open LoRaGateway.Lib

/-! ## §1. Who helps. -/

/-- The threads of the child that a text passes through. -/
inductive Hand where
  | accept
  | handler
  | sender

/-- The thread can go on. -/
def Hand.Can : Hand → System → Prop
  | .accept, y => y.acceptStep.isSome = true
  | .handler, y => y.gw.childUsr2 = true
  | .sender, y => y.sndStep.isSome = true

/-- The thread goes on. -/
def Hand.Does : Hand → Move → Prop
  | .accept, .accept | .handler, .childUsr2 | .sender, .snd => True
  | _, _ => False

/-- The thread that the text waits for. -/
def helpful (y : System) : Hand :=
  if y.child.snd = .ended then .accept
  else if y.gw.childUsr2 then .handler
  else .sender

/-- The steps of the accept loop up to the creation of the sender. -/
def AcceptPc.toSender : AcceptPc → Nat
  | .storeGot => 2
  | .killGot => 1
  | _ => 0

/-- The steps of the sender up to `ack = 1`, with a text to write. -/
def SndPc.toAck : SndPc → Nat
  | .nap => 5
  | .test => 4
  | .write => 3
  | .clearReady => 2
  | .sleep => 1
  | _ => 0

/-- How many steps of the helpful threads there are to the acknowledgement, at most. -/
def handRank (y : System) : Nat :=
  if y.child.snd = .ended then 7 + y.child.accept.toSender
  else if y.gw.childUsr2 then 6
  else y.child.snd.toAck

/-- The text is in hand: posted, and not acknowledged yet.  `old` is what the socket had
taken before it. -/
structure InHand (c : Nat) (old : List (Nat × List UInt8)) (text : List UInt8) (y : System) :
    Prop where
  live : Live y.child
  communication : y.child.communication = c
  phase : ∃ ph, InPhase y ph
    ∧ ((ph = .signalled ∨ ph = .ready) ∧ y.gw.share.dataToSend = text ∧ y.child.socket = old
      ∨ (ph = .written ∨ ph = .cleared) ∧ y.child.socket = old ++ [(c, text)])

/-- The socket has taken it, and the parent's wait is over at its next step. -/
structure Delivered (c : Nat) (old : List (Nat × List UInt8)) (text : List UInt8) (y : System) :
    Prop where
  live : Live y.child
  phase : InPhase y .idle
  waits : Waits y.gw.pc
  socket : y.child.socket = old ++ [(c, text)]

/-- Then `ack` is set. -/
theorem Delivered.acked {c : Nat} {old : List (Nat × List UInt8)} {text : List UInt8} {y : System}
    (h : Delivered c old text y) : y.gw.share.ack ≠ 0 := by
  cases h.phase with
  | idle _ _ _ hacked => exact hacked h.waits

section Step

variable {libc : Libc} {y y' : System} {c : Nat} {old : List (Nat × List UInt8)}
  {text : List UInt8} {m : Move}

theorem InHand.waits (h : InHand c old text y) : Waits y.gw.pc ∧ y.gw.share.ack = 0 := by
  obtain ⟨ph, hph, hcarry⟩ := h.phase
  refine hph.waits ?_
  rintro rfl
  rcases hcarry with ⟨h | h, -⟩ | ⟨h | h, -⟩ <;> cases h

/-- What the child and the radio leave to the parent. -/
theorem beside_parent (hs : sysStep libc y m = some y') (hm : ∀ io, m ≠ .parent io) :
    y'.gw.pc = y.gw.pc ∧ y'.gw.share.dataToSend = y.gw.share.dataToSend := by
  cases sysStep_cases hs with
  | parent io => exact absurd rfl (hm io)
  | accept _ hs' => cases acceptStep_cases hs' <;> exact ⟨rfl, rfl⟩
  | recv input _ hs' =>
      cases recvStep_cases hs' with
      | store w rest hpc => exact ⟨rfl, Store.apply_dataToSend w _⟩
      | _ => exact ⟨rfl, rfl⟩
  | snd _ hs' => cases sndStep_cases hs' <;> exact ⟨rfl, rfl⟩
  | _ => exact ⟨rfl, rfl⟩

/-- While `ack` is clear nothing moves the parent from its wait. -/
theorem pc_stays (hwait : Waits y.gw.pc) (hack : y.gw.share.ack = 0)
    (hs : sysStep libc y m = some y') : y'.gw.pc = y.gw.pc := by
  by_cases hm : ∃ io, m = .parent io
  · obtain ⟨io, rfl⟩ := hm
    cases sysStep_cases hs with
    | parent _ s' hs' => rw [(mainStep_waits hwait hs').2.2.1 hack]
  · exact (beside_parent hs (fun io hio => hm ⟨io, hio⟩)).1

/-! ## §2. One step. -/

/-- A step leaves the text in hand, or is its acknowledgement. -/
theorem inHand_step (h : InHand c old text y) (hstay : Stays y m)
    (hs : sysStep libc y m = some y') : InHand c old text y' ∨ Delivered c old text y' := by
  obtain ⟨hwait, hack⟩ := h.waits
  have hpc := pc_stays hwait hack hs
  have hlive' := live_step h.live hstay hs
  have hcomm' := (communication_eq h.live hs).trans h.communication
  obtain ⟨ph, hph, hcarry⟩ := h.phase
  obtain ⟨ph', hph', hhand⟩ := phase_step h.live hstay hph hs
  cases hhand with
  | post hpost hdata hsame =>
      rcases hcarry with ⟨hc | hc, -⟩ | ⟨hc | hc, -⟩ <;> cases hc
  | keep _ hpost hdata hsame =>
      refine Or.inl ⟨hlive', hcomm', ph, hph', ?_⟩
      rw [hsame, hdata (by rw [hpc]; exact hwait)]
      exact hcarry
  | deliver hpost hdata hsame =>
      refine Or.inl ⟨hlive', hcomm', .ready, hph', Or.inl ⟨Or.inr rfl, ?_⟩⟩
      rcases hcarry with ⟨-, htext, hsocket⟩ | ⟨hc | hc, -⟩
      · exact ⟨hdata.trans htext, hsame.trans hsocket⟩
      · cases hc
      · cases hc
  | write hpost hdata hsame =>
      refine Or.inl ⟨hlive', hcomm', .written, hph', Or.inr ⟨Or.inl rfl, ?_⟩⟩
      rcases hcarry with ⟨-, htext, hsocket⟩ | ⟨hc | hc, -⟩
      · rw [hsame, hsocket, htext, h.communication]
      · cases hc
      · cases hc
  | clear hpost hdata hsame =>
      refine Or.inl ⟨hlive', hcomm', .cleared, hph', Or.inr ⟨Or.inr rfl, ?_⟩⟩
      rcases hcarry with ⟨hc | hc, -⟩ | ⟨-, hsocket⟩
      · cases hc
      · cases hc
      · exact hsame.trans hsocket
  | acknowledge hpost hdata hsame =>
      refine Or.inr ⟨hlive', hph', by rw [hpc]; exact hwait, ?_⟩
      rcases hcarry with ⟨hc | hc, -⟩ | ⟨-, hsocket⟩
      · cases hc
      · cases hc
      · exact hsame.trans hsocket

/-- What has been delivered stays so until the parent looks. -/
theorem delivered_step (h : Delivered c old text y) (hstay : Stays y m)
    (hs : sysStep libc y m = some y') (hm : ∀ io, m ≠ .parent io) : Delivered c old text y' := by
  obtain ⟨ph', hph', hhand⟩ := phase_step h.live hstay h.phase hs
  have hpc := (beside_parent hs hm).1
  cases hhand with
  | post hpost =>
      cases m with
      | parent io => exact absurd rfl (hm io)
      | _ => cases hpost
  | keep _ _ _ hsame =>
      exact ⟨live_step h.live hstay hs, hph', by rw [hpc]; exact h.waits, hsame.trans h.socket⟩

/-- A sender that has not ended goes on. -/
theorem snd_defined (hrun : y.child.snd ≠ .ended) : ∃ y', y.sndStep = some y' := by
  unfold System.sndStep
  cases hsnd : y.child.snd with
  | ended => exact absurd hsnd hrun
  | write => simp only; split <;> exact ⟨_, rfl⟩
  | _ => exact ⟨_, rfl⟩

/-- The thread that the text waits for can go on. -/
theorem helpful_can (h : InHand c old text y) : (helpful y).Can y := by
  unfold helpful
  split
  next hended =>
      -- the accept loop has not created the sender yet
      cases h.live with
      | opening haccept =>
          rcases haccept with hpc | hpc | hpc <;> simp [Hand.Can, System.acceptStep, hpc]
      | created _ hsnd => exact absurd hended hsnd
      | talking _ hsnd => exact absurd hended hsnd
  next hrun =>
      split
      next hsig => exact hsig
      next =>
          obtain ⟨y', hs⟩ := snd_defined hrun
          show y.sndStep.isSome = true
          rw [hs]
          rfl

/-- A step that leaves the threads of the child and its signal leaves the rank. -/
theorem rank_of_eq (hsnd : y'.child.snd = y.child.snd)
    (haccept : y'.child.accept.toSender = y.child.accept.toSender)
    (hsig : y'.gw.childUsr2 = y.gw.childUsr2) :
    handRank y' = handRank y ∧ helpful y' = helpful y := by
  unfold handRank helpful
  rw [hsnd, haccept, hsig]
  exact ⟨rfl, rfl⟩

theorem not_accept (hrun : y.child.snd ≠ .ended) : ¬ (helpful y).Does .accept := by
  unfold helpful
  rw [if_neg hrun]
  split <;> exact id

/-- Up to the creation of the sender. -/
theorem accept_rank (haccept : Connecting y.child.accept) (hended : y.child.snd = .ended)
    (hs : y.acceptStep = some y') : handRank y' < handRank y := by
  unfold handRank
  cases acceptStep_cases hs with
  | storeGot hpc => simp [System.atAccept, System.setShare, hended, hpc, AcceptPc.toSender]
  | killGot hpc => simp [System.atAccept, hended, hpc, AcceptPc.toSender]
  | createSnd hpc =>
      by_cases hsig : y.gw.childUsr2 = true
      · simp [System.atAccept, hended, hpc, hsig, AcceptPc.toSender]
      · simp [System.atAccept, hended, hpc, hsig, AcceptPc.toSender, SndPc.toAck]
  | _ hpc => simp [Connecting, hpc] at haccept

/-- A sender that rests looks at the flag again; one with a text takes it on. -/
theorem snd_rank {ph : Phase} (hnot : y.child.cancelled = false) (hph : InPhase y ph)
    (hidle : ph ≠ .idle) (hstuck : ph ≠ .stuck) (hs : y.sndStep = some y')
    (hack' : y'.gw.share.ack = 0) :
    handRank y' < handRank y
      ∨ (handRank y' = handRank y ∧ helpful y' = helpful y ∧ ¬ (helpful y).Does .snd) := by
  cases hph with
  | idle => exact absurd rfl hidle
  | stuck => exact absurd rfl hstuck
  | signalled hsig hready hrest =>
      right
      unfold handRank helpful
      cases sndStep_cases hs with
      | test hpc => simp [System.atSnd, hpc, hsig, hready, Hand.Does]
      | nap hpc => simp [System.atSnd, hpc, hsig, hnot, Hand.Does]
      | _ hpc =>
          rw [hpc] at hrest
          exact False.elim hrest
  | ready hsig hready hsnd =>
      left
      unfold handRank
      cases sndStep_cases hs with
      | test hpc => simp [System.atSnd, hpc, hsig, hready, SndPc.toAck]
      | write hpc => simp [System.atSnd, hpc, hsig, SndPc.toAck]
      | nap hpc => simp [System.atSnd, hpc, hsig, hnot, SndPc.toAck]
      | stop hpc hcancelled => exact absurd (hnot.symm.trans hcancelled) (by simp)
      | _ hpc => simp [hpc, Resting] at hsnd
  | written hsig hready hsnd =>
      left
      unfold handRank
      cases sndStep_cases hs with
      | clearReady hpc => simp [System.atSnd, hpc, hsig, SndPc.toAck]
      | _ hpc => simp [hpc] at hsnd
  | cleared hsig hready hsnd =>
      left
      unfold handRank
      cases sndStep_cases hs with
      | sleep hpc => simp [System.atSnd, hpc, hsig, hnot, SndPc.toAck]
      | setAck hpc => cases hack'
      | _ hpc => simp [hpc] at hsnd

/-- **The helpful thread brings the text nearer to its end**, and no other takes it away
from there. -/
theorem rank_step (h : InHand c old text y) (hstay : Stays y m) (hs : sysStep libc y m = some y')
    (hack' : y'.gw.share.ack = 0) :
    handRank y' < handRank y
      ∨ (handRank y' = handRank y ∧ helpful y' = helpful y ∧ ¬ (helpful y).Does m) := by
  obtain ⟨hwait, hack⟩ := h.waits
  obtain ⟨ph, hph, hcarry⟩ := h.phase
  have hsame : y'.child.snd = y.child.snd →
      y'.child.accept.toSender = y.child.accept.toSender → y'.gw.childUsr2 = y.gw.childUsr2 →
      ¬ (helpful y).Does m →
      handRank y' < handRank y
        ∨ (handRank y' = handRank y ∧ helpful y' = helpful y ∧ ¬ (helpful y).Does m) := by
    intro hsnd haccept hsig hnot
    obtain ⟨hrank, hhelp⟩ := rank_of_eq hsnd haccept hsig
    exact Or.inr ⟨hrank, hhelp, hnot⟩
  cases sysStep_cases hs with
  | parent io s' hs' =>
      have hstill := (mainStep_waits hwait hs').2.2.1 hack
      exact hsame rfl rfl (by rw [hstill]) (by cases helpful y <;> exact id)
  | packet p => exact hsame rfl rfl rfl (by cases helpful y <;> exact id)
  | parentUsr2 hsent => exact hsame rfl rfl rfl (by cases helpful y <;> exact id)
  | childUsr2 hsent =>
      unfold handRank helpful
      by_cases hended : y.child.snd = .ended
      · right
        simp only [if_pos hended]
        exact ⟨trivial, trivial, id⟩
      · -- the sender rests while the signal is under way
        left
        simp only [if_neg hended, if_pos hsent]
        cases hph with
        | signalled _ _ hrest _ _ =>
            cases hsnd : y.child.snd with
            | ended => exact absurd hsnd hended
            | test | nap => simp [SndPc.toAck]
            | _ =>
                rw [hsnd] at hrest
                exact False.elim hrest
        | _ hsig => exact absurd (hsig.symm.trans hsent) (by simp)
  | accept _ hs' =>
      cases h.live with
      | opening haccept hended =>
          left
          exact accept_rank haccept hended hs'
      | created haccept hrun =>
          cases acceptStep_cases hs' with
          | createRecv hpc => exact hsame rfl (by rw [hpc]; rfl) rfl (not_accept hrun)
          | _ hpc => simp [hpc] at haccept
      | talking haccept hrun =>
          cases acceptStep_cases hs' with
          | joinSnd hpc hended => exact absurd hended hrun
          | _ hpc => simp [hpc] at haccept
  | recv input _ hs' =>
      cases h.live with
      | opening _ _ hrecv => exact absurd hrecv (recvStep_live hs').1
      | created _ _ _ hrecv => exact absurd hrecv (recvStep_live hs').1
      | talking _ _ _ hrecv =>
          obtain ⟨recv, usr2, share, -, -, -, rfl⟩ := recv_frame hrecv hstay hs'
          exact hsame rfl rfl rfl (by cases helpful y <;> exact id)
  | snd _ hs' =>
      refine snd_rank (h.live.not_cancelled hs') hph ?_ ?_ hs' hack'
      · rintro rfl
        simp at hcarry
      · rintro rfl
        simp at hcarry

end Step

/-! ## §3. Endless runs. -/

section Runs

variable {libc : Libc} (r : Forever (sysStep libc)) (n₀ : Nat)

/-- From `n₀` on a client is connected and stays, with nothing of an earlier connection
under way at `n₀`; the parent runs again and again, and the threads of the child go on when
they can. -/
structure FairSession : Prop where
  opened : Opened (r.state n₀)
  stays : ∀ n, n₀ ≤ n → Stays (r.state n) (r.action n)
  parent : Recurs (fun n => ∃ io, r.action n = .parent io)
  hands : ∀ t : Hand, WeaklyFair r t.Can t.Does

variable {r n₀}

/-- The connection, and the phase of its last text. -/
structure InSession (c : Nat) (y : System) : Prop where
  live : Live y.child
  communication : y.child.communication = c
  phase : ∃ ph, InPhase y ph ∧ ph ≠ .stuck
    ∧ (ph = .written ∨ ph = .cleared → ∃ old text, y.child.socket = old ++ [(c, text)])

theorem inSession_step {c : Nat} {y y' : System} {m : Move} (h : InSession c y) (hstay : Stays y m)
    (hs : sysStep libc y m = some y') : InSession c y' := by
  obtain ⟨hlive, hcomm, ph, hph, hne, hlast⟩ := h
  obtain ⟨ph', hph', hhand⟩ := phase_step hlive hstay hph hs
  refine ⟨live_step hlive hstay hs, (communication_eq hlive hs).trans hcomm, ph', hph', ?_⟩
  cases hhand with
  | keep _ _ _ hsame => exact ⟨hne, by rw [hsame]; exact hlast⟩
  | write _ _ hsame => exact ⟨by simp, fun _ => ⟨_, _, by rw [hsame, hcomm]⟩⟩
  | clear _ _ hsame =>
      refine ⟨by simp, fun _ => ?_⟩
      rw [hsame]
      exact hlast (Or.inl rfl)
  | _ => exact ⟨by simp, by simp⟩

theorem FairSession.inSession (hfair : FairSession r n₀) {n : Nat} (hn : n₀ ≤ n) :
    InSession (r.state n₀).child.communication (r.state n) := by
  have h0 := hfair.opened
  have hidle : InPhase (r.state n₀) .idle :=
    InPhase.idle h0.signal h0.ready h0.sender (fun hwait => absurd hwait h0.idle)
      (fun haw _ => h0.ack haw)
  exact r.invariant (P := InSession (r.state n₀).child.communication)
    ⟨h0.live, rfl, .idle, hidle, by simp, by simp⟩
    (fun k hk h => inSession_step h (hfair.stays k hk) (r.follows k)) n hn

/-- While the parent does not wait, nothing is written. -/
theorem FairSession.socket_same (hfair : FairSession r n₀) {n : Nat} (hn : n₀ ≤ n)
    (hout : ¬ Waits (r.state n).gw.pc) :
    (r.state (n + 1)).child.socket = (r.state n).child.socket := by
  obtain ⟨hlive, -, ph, hph, -⟩ := hfair.inSession hn
  obtain rfl : ph = .idle := by
    by_contra hne
    exact hout (hph.waits hne).1
  obtain ⟨ph', -, hhand⟩ := phase_step hlive (hfair.stays n hn) hph (r.follows n)
  cases hhand with
  | post _ _ hsame => exact hsame
  | keep _ _ _ hsame => exact hsame

/-- What is in hand is delivered. -/
theorem FairSession.delivers (hfair : FairSession r n₀) {n : Nat} (hn : n₀ ≤ n) {c : Nat}
    {old : List (Nat × List UInt8)} {text : List UInt8} (h : InHand c old text (r.state n)) :
    ∃ m, n ≤ m ∧ Delivered c old text (r.state m) := by
  refine leads_of_helpful (Q := fun m => Delivered c old text (r.state m)) hfair.hands helpful
    handRank wellFounded_lt (fun _ hy => helpful_can hy) (fun k hk hy => ?_) h
  have hstay := hfair.stays k (Nat.le_trans hn hk)
  rcases inHand_step hy hstay (r.follows k) with hstill | hdone
  · exact Or.inr ⟨hstill, rank_step hy hstay (r.follows k) hstill.waits.2⟩
  · exact Or.inl hdone

/-- The acknowledgement is there until the parent sees it. -/
theorem FairSession.seen (hfair : FairSession r n₀) {n : Nat} (hn : n₀ ≤ n) {c : Nat}
    {old : List (Nat × List UInt8)} {text : List UInt8} (h : Delivered c old text (r.state n)) :
    ∃ m, n ≤ m ∧ (∃ io, r.action m = .parent io) ∧ Delivered c old text (r.state m) := by
  obtain ⟨m, hm, hio⟩ := hfair.parent n
  obtain ⟨d, rfl⟩ := Nat.exists_eq_add_of_le hm
  clear hm
  induction d generalizing n with
  | zero => exact ⟨n, Nat.le_refl n, hio, h⟩
  | succ d ih =>
      by_cases hnow : ∃ io, r.action n = .parent io
      · exact ⟨n, Nat.le_refl n, hnow, h⟩
      · have hsame : n + 1 + d = n + (d + 1) := by omega
        have hnext : Delivered c old text (r.state (n + 1)) :=
          delivered_step h (hfair.stays n hn) (r.follows n) (fun io hio => hnow ⟨io, hio⟩)
        obtain ⟨m, hm, hio', hd⟩ := ih (n := n + 1) (by omega) hnext (by rw [hsame]; exact hio)
        exact ⟨m, by omega, hio', hd⟩

/-- What is in hand is delivered, and the parent's next step ends the wait. -/
theorem FairSession.ends (hfair : FairSession r n₀) {n : Nat} (hn : n₀ ≤ n) {c : Nat}
    {old : List (Nat × List UInt8)} {text : List UInt8} (h : InHand c old text (r.state n)) :
    ∃ m, n ≤ m ∧ (∃ io, r.action m = .parent io) ∧ Delivered c old text (r.state m) := by
  obtain ⟨k, hk, hdone⟩ := hfair.delivers hn h
  obtain ⟨m, hm, hio, hseen⟩ := hfair.seen (Nat.le_trans hn hk) hdone
  exact ⟨m, Nat.le_trans hk hm, hio, hseen⟩

/-- A text that is posted is in hand. -/
theorem FairSession.posts (hfair : FairSession r n₀) {n : Nat} (hn : n₀ ≤ n) {text : List UInt8}
    (hpost : postedBy (r.state n) (r.action n) = [text]) :
    InHand (r.state n₀).child.communication (r.state n).child.socket text (r.state (n + 1)) := by
  obtain ⟨hlive, hcomm, ph, hph, -⟩ := hfair.inSession hn
  have hstay := hfair.stays n hn
  have hlive' := live_step hlive hstay (r.follows n)
  have hcomm' := (communication_eq hlive (r.follows n)).trans hcomm
  obtain ⟨ph', hph', hhand⟩ := phase_step hlive hstay hph (r.follows n)
  cases hhand with
  | post hpost' hdata hsame =>
      refine ⟨hlive', hcomm', .signalled, hph', Or.inl ⟨Or.inl rfl, ?_, hsame⟩⟩
      rw [hpost] at hpost'
      exact hdata.trans (List.singleton_inj.mp hpost').symm
  | _ =>
      rw [hpost] at *
      simp at *

/-- **EVERY TEXT OF AN OPEN CONNECTION IS DELIVERED.**  In a fair run, a text that the
parent posts while a client is connected and stays is taken by the client's socket, and
nothing else is before it; then the parent goes on. -/
theorem every_text_delivered (hfair : FairSession r n₀) {n : Nat} (hn : n₀ ≤ n)
    {text : List UInt8} (hpost : postedBy (r.state n) (r.action n) = [text]) :
    ∃ m, n < m
      ∧ (r.state m).child.socket
        = (r.state n).child.socket ++ [((r.state n₀).child.communication, text)]
      ∧ (∃ io, r.action m = .parent io) ∧ Waits (r.state m).gw.pc
      ∧ ¬ AwaitsAck (r.state (m + 1)).gw.pc := by
  obtain ⟨m, hm, ⟨io, hio⟩, hdone⟩ :=
    hfair.ends (Nat.le_succ_of_le hn) (hfair.posts hn hpost)
  refine ⟨m, by omega, hdone.socket, ⟨io, hio⟩, hdone.waits, ?_⟩
  have hstep := r.follows m
  rw [hio] at hstep
  generalize r.state (m + 1) = y' at hstep ⊢
  cases sysStep_cases hstep with
  | parent _ s' hs' => exact (mainStep_waits hdone.waits hs').2.2.2 hdone.acked

end Runs

/-! ## §4. A client that lists the nodes, adds one, and is told of an answer. -/

/-- The command `"0 7"`. -/
def addSeven : List UInt8 := [48, 32, 55]

/-- One node, and no client. -/
def oneNodeSystem : System :=
  ⟨startWith [0x01020304], false, ⟨.accept, .ended, .ended, false, false, 0, []⟩⟩

/-- The child's signal, and the sender up to `ack = 1`. -/
def handsOver : List Move := .childUsr2 :: List.replicate 5 .snd

/-- The client connects and gets the list; it sends the command, and gets the reply; the
node answers, and the client gets that, too. -/
def visit : List Move :=
  List.replicate 5 .accept ++ [.parentUsr2] ++ parents 9 ++ handsOver ++ parents 6 ++ handsOver
    ++ parents 3 ++ List.replicate 5 (.recv (.data addSeven)) ++ [.parentUsr2] ++ parents 8
    ++ handsOver ++ parents 3 ++ [.packet (response 0x01020304 sampleText)] ++ parents 7
    ++ handsOver ++ parents 4

/-- Nobody asks for anything, and the sender is there. -/
structure Rests (y : System) : Prop where
  pc : Idling y.gw.pc
  rxSig : y.gw.rxSig = false
  socketFlag : y.gw.socketFlag = false
  ids : y.gw.reg.ids = [0x01020304, 7]
  i : y.gw.i < y.gw.nodeCount
  usr2 : y.usr2 = false
  accept : y.child.accept = .joinSnd
  recv : y.child.recv = .read
  sender : y.child.snd ≠ .ended
  notCancelled : y.child.cancelled = false

theorem Rests.nodeCount {y : System} (h : Rests y) : y.gw.nodeCount = 2 := by
  rw [← length_ids, h.ids]
  rfl

/-- The parent, the sender and the child's handler, in turn. -/
def turns (n : Nat) (y : System) : Move :=
  if n % 3 = 0 then .parent sampleIo
  else if n % 3 = 1 then .snd
  else if y.gw.childUsr2 then .childUsr2
  else .parent sampleIo

theorem rests_step (n : Nat) (y : System) (h : Rests y) :
    ∃ y', sysStep sampleLibc y (turns n y) = some y' ∧ Rests y' := by
  have hparent : ∃ y', sysStep sampleLibc y (.parent sampleIo) = some y' ∧ Rests y' := by
    obtain ⟨s', hs', hpc, hsig, hflag, hids, hi⟩ :=
      idling_step sampleLibc sampleIo h.pc h.rxSig h.socketFlag h.i
    refine ⟨{ y with gw := s' }, by simp only [sysStep, hs', Option.map_some], ?_⟩
    exact ⟨hpc, hsig, hflag, hids.trans h.ids, hi, h.usr2, h.accept, h.recv, h.sender,
      h.notCancelled⟩
  unfold turns
  split
  · exact hparent
  · split
    · obtain ⟨y', hs⟩ := snd_defined h.sender
      obtain ⟨haccept, hrecv, husr2, ack, hgw, -⟩ := sndStep_frame hs
      obtain ⟨hrun, hnot⟩ := sndStep_runs hs h.notCancelled
      refine ⟨y', hs, ?_, ?_, ?_, ?_, ?_, husr2.trans h.usr2, haccept.trans h.accept,
        hrecv.trans h.recv, hrun, hnot⟩
      all_goals rw [hgw]
      · exact h.pc
      · exact h.rxSig
      · exact h.socketFlag
      · exact h.ids
      · exact h.i
    · split
      next hsent =>
        refine ⟨_, by simp only [sysStep, hsent, if_true]; rfl, ?_⟩
        exact ⟨h.pc, h.rxSig, h.socketFlag, h.ids, h.i, h.usr2, h.accept, h.recv, h.sender,
          h.notCancelled⟩
      next => exact hparent

/-- Where the client has it all. -/
def allRead : System := ((run (sysStep sampleLibc) oneNodeSystem visit).getD oneNodeSystem)

theorem rests_allRead : Rests allRead := by
  have hall : allRead.gw.pc = .sock ∧ allRead.gw.rxSig = false
      ∧ allRead.gw.socketFlag = false ∧ allRead.gw.reg.ids = [0x01020304, 7]
      ∧ allRead.gw.i < allRead.gw.nodeCount ∧ allRead.usr2 = false
      ∧ allRead.child.accept = .joinSnd ∧ allRead.child.recv = .read
      ∧ allRead.child.snd ≠ .ended ∧ allRead.child.cancelled = false := by
    decide +kernel
  obtain ⟨hpc, hsig, hflag, hids, hi, husr2, haccept, hrecv, hsnd, hnot⟩ := hall
  exact ⟨by rw [hpc]; trivial, hsig, hflag, hids, hi, husr2, haccept, hrecv, hsnd, hnot⟩

/-- Nothing else comes. -/
def restsForEver : Forever (sysStep sampleLibc) :=
  Forever.scheduled allRead turns rests_allRead rests_step

theorem restsForEver_all (n : Nat) : Rests (restsForEver.state n) :=
  Forever.scheduled_invariant rests_allRead rests_step n

theorem run_visit :
    run (sysStep sampleLibc) oneNodeSystem visit = some (restsForEver.state 0) := by
  have hrun : run (sysStep sampleLibc) oneNodeSystem visit = some allRead := by
    decide +kernel
  exact hrun

/-- The client stays. -/
def visitRun : Forever (sysStep sampleLibc) :=
  restsForEver.append visit oneNodeSystem run_visit

/-- The client sends nothing but its command. -/
def OnlyAdds : Move → Prop
  | .recv .eof => False
  | .recv (.data bytes) => bytes = addSeven
  | _ => True

instance onlyAddsDecidable : DecidablePred OnlyAdds
  | .recv .eof => inferInstanceAs (Decidable False)
  | .recv (.data bytes) => inferInstanceAs (Decidable (bytes = addSeven))
  | .parent _ | .packet _ | .parentUsr2 | .childUsr2 | .accept | .snd =>
      inferInstanceAs (Decidable True)

theorem stays_of_onlyAdds {y : System} {m : Move} (h : OnlyAdds m) : Stays y m := by
  cases m with
  | recv input =>
      cases input with
      | eof => exact False.elim h
      | data bytes =>
          obtain rfl : bytes = addSeven := h
          have hgoes : recvMsg addSeven ≠ some .exit := by decide
          refine fun _ => ⟨by simp, fun other hother => ?_⟩
          rw [← Input.data.inj hother]
          exact hgoes
  | _ => trivial

theorem onlyAdds_turns (n : Nat) (y : System) : OnlyAdds (turns n y) := by
  unfold turns
  split
  · trivial
  · split
    · trivial
    · split <;> trivial

theorem visit_onlyAdds : ∀ m ∈ visit, OnlyAdds m := by decide

theorem restsForEver_hands (t : Hand) : WeaklyFair restsForEver t.Can t.Does := by
  intro n hen
  cases t with
  | accept =>
      -- it waits for the sender
      have hrests := restsForEver_all n
      have hcan : (restsForEver.state n).acceptStep.isSome = true := hen n (Nat.le_refl n)
      simp [System.acceptStep, hrests.accept, hrests.sender] at hcan
  | handler =>
      have hsent : (restsForEver.state (3 * n + 2)).gw.childUsr2 = true :=
        hen (3 * n + 2) (by omega)
      have haction : restsForEver.action (3 * n + 2) = .childUsr2 := by
        show turns (3 * n + 2) (restsForEver.state (3 * n + 2)) = _
        unfold turns
        rw [if_neg (by omega), if_neg (by omega), if_pos hsent]
      exact ⟨3 * n + 2, by omega, by rw [haction]; trivial⟩
  | sender =>
      have haction : restsForEver.action (3 * n + 1) = .snd := by
        show turns (3 * n + 1) _ = _
        unfold turns
        rw [if_neg (by omega), if_pos (by omega)]
      exact ⟨3 * n + 1, by omega, by rw [haction]; trivial⟩

theorem restsForEver_parent : Recurs (fun n => ∃ io, restsForEver.action n = .parent io) := by
  refine fun n => ⟨3 * n, by omega, sampleIo, ?_⟩
  show turns (3 * n) _ = _
  unfold turns
  rw [if_pos (by omega)]

theorem visitRun_fair : FairSession visitRun 1 where
  opened := by
    have hall : Connecting (visitRun.state 1).child.accept
        ∧ (visitRun.state 1).child.snd = .ended
        ∧ (visitRun.state 1).child.recv = .ended
        ∧ (visitRun.state 1).child.readyFlag = false
        ∧ (visitRun.state 1).gw.childUsr2 = false
        ∧ (visitRun.state 1).gw.pc = .outer := by
      unfold Connecting
      decide +kernel
    obtain ⟨haccept, hsnd, hrecv, hready, hsignal, hpc⟩ := hall
    exact ⟨⟨Live.opening haccept hsnd hrecv, hready, by rw [hpc]; exact fun h => h⟩,
      by rw [hsnd]; trivial, hsignal, by rw [hpc]; exact False.elim⟩
  stays := fun n _ => Forever.append_all run_visit
    ((along_of_mem visit_onlyAdds).mono (fun _ _ => stays_of_onlyAdds))
    (fun k => stays_of_onlyAdds (onlyAdds_turns k _)) n
  parent := Recurs.append (P := fun m => ∃ io, m = .parent io) run_visit restsForEver_parent
  hands := fun t => WeaklyFair.append run_visit (restsForEver_hands t)

theorem every_text_delivered_listed :
    ∃ m, 14 < m
      ∧ (visitRun.state m).child.socket = (visitRun.state 14).child.socket
        ++ [((visitRun.state 1).child.communication, codeText Code.addDevice 0x01020304)]
      ∧ (∃ io, visitRun.action m = .parent io) ∧ Waits (visitRun.state m).gw.pc
      ∧ ¬ AwaitsAck (visitRun.state (m + 1)).gw.pc :=
  every_text_delivered visitRun_fair (by decide) (by decide +kernel)

end LoRaGateway
