/-
  LoRaGateway.Session.Isolation
  ─────────────────────────────
  **DOES A TEXT REACH THE CLIENT IT WAS POSTED TO, AND NO OTHER?**

  `ready_flag`, `ack` and `data_to_send` outlive a connection; the sender does
  not.  A text whose client has gone before the sender came to it leaves the flag
  set, and the sender of the next client writes it there; its `ack = 1` then
  answers a text that has not been written.

  The system is watched by a `Visited`: whether a client is connected, to whom the
  text in `data_to_send` has been posted, what has been acknowledged to the parent
  while its client was connected, and to whom each text has been written.

    • `Unburdened` — nothing is left over when a client is accepted,
    • `sessions_isolated` — along the runs in which that is so,
    • `reply_to_next_client` — a command, "exit", and the next client.
-/
import LoRaGateway.Session.HandOver

namespace LoRaGateway

open LoRaGateway.Lib

/-! ## §1. The watched system. -/

/-- The system, with what belongs to which client. -/
structure Visited where
  sys : System
  /-- a client has been accepted, and neither closed the connection nor sent "exit" -/
  connected : Bool
  /-- the client to whom the text in `data_to_send` has been posted -/
  origin : Option Nat
  /-- the texts acknowledged to the parent while their client was connected -/
  acked : List (Nat × List UInt8)
  /-- for each text written, its connection, and the client it was posted to -/
  deliveries : List (Nat × Option Nat)

namespace Visited

/-- Whether a client is connected after a step. -/
def nextConnected (v : Visited) (y' : System) : Bool :=
  if v.sys.child.accept = .accept ∧ y'.child.accept = .storeGot then true
  else if y'.child.recv = .eofCancel ∨ y'.child.recv = .exitCancel then false
  else v.connected

/-- Filling `data_to_send` begins a new text; SIGUSR2 posts it. -/
def nextOrigin (v : Visited) : Move → Option Nat
  | .parent _ =>
      match v.sys.gw.pc with
      | .post _ .fill => none
      | .post _ .signal => if v.connected then some v.sys.child.communication else none
      | _ => v.origin
  | _ => v.origin

/-- The parent sees `ack` set for a text of the client that is still connected. -/
def ackedBy (v : Visited) : Move → List (Nat × List UInt8)
  | .parent _ =>
      match v.sys.gw.pc with
      | .post _ .wait =>
          if v.sys.gw.share.ack ≠ 0 ∧ v.connected = true
              ∧ v.origin = some v.sys.child.communication then
            [(v.sys.child.communication, v.sys.gw.share.dataToSend)]
          else []
      | _ => []
  | _ => []

/-- The sender writes. -/
def deliveredBy (v : Visited) : Move → List (Nat × Option Nat)
  | .snd =>
      if v.sys.child.snd = .write ∧ v.sys.child.cancelled = false then
        [(v.sys.child.communication, v.origin)]
      else []
  | _ => []

end Visited

/-- The system, watched. -/
def visitStep (libc : Libc) (v : Visited) (m : Move) : Option Visited :=
  (sysStep libc v.sys m).map (fun y =>
    ⟨y, v.nextConnected y, v.nextOrigin m, v.acked ++ v.ackedBy m,
      v.deliveries ++ v.deliveredBy m⟩)

/-- No text is written to a client that it was not posted to, and what has been
acknowledged while its client was connected has been written to it. -/
def Isolated (v : Visited) : Prop :=
  (∀ e ∈ v.deliveries, ∀ c, e.2 = some c → c = e.1) ∧ v.acked.Sublist v.sys.child.socket

/-- Nothing is left over from before: no SIGUSR2 and no `ready_flag`, unless for a
text that was posted while nobody was connected and that the parent still waits
for; and an `ack` that the parent has cleared is still clear. -/
structure Unburdened (v : Visited) : Prop where
  late : v.sys.gw.childUsr2 = true ∨ v.sys.child.readyFlag = true →
    Waits v.sys.gw.pc ∧ v.sys.gw.share.ack = 0 ∧ v.origin = none
  single : ¬ (v.sys.gw.childUsr2 = true ∧ v.sys.child.readyFlag = true)
  ack : AwaitsAck v.sys.gw.pc → ¬ Waits v.sys.gw.pc → v.sys.gw.share.ack = 0

/-- A client is accepted when nothing is left over. -/
def AcceptsUnburdened (v : Visited) : Move → Prop
  | .accept => v.sys.child.accept = .accept → Unburdened v
  | _ => True

/-! ## §2. The threads. -/

/-- The child has been told of a text, or is about to write one. -/
def Sent (y : System) : Prop :=
  y.gw.childUsr2 = true ∨ y.child.readyFlag = true ∨ y.child.snd = .write

/-- The sender lives only between its creation and its join. -/
def System.SndJoined (y : System) : Prop :=
  y.child.snd ≠ .ended → y.child.accept = .createRecv ∨ y.child.accept = .joinSnd

section Threads

variable {libc : Libc} {y y' : System}

theorem recvStep_keeps {input : Input} (h : y.recvStep input = some y') :
    y'.child.snd = y.child.snd ∧ y'.child.readyFlag = y.child.readyFlag
      ∧ y'.child.communication = y.child.communication ∧ y'.child.socket = y.child.socket
      ∧ y'.gw.childUsr2 = y.gw.childUsr2 := by
  cases recvStep_cases h <;> exact ⟨rfl, rfl, rfl, rfl, rfl⟩

theorem acceptStep_keeps (h : y.acceptStep = some y') :
    y'.child.readyFlag = y.child.readyFlag ∧ y'.child.socket = y.child.socket
      ∧ y'.gw.childUsr2 = y.gw.childUsr2 ∧ (y'.child.snd = .write → y.child.snd = .write)
      ∧ y.child.communication ≤ y'.child.communication
      ∧ (y.child.accept ≠ .accept → y'.child.communication = y.child.communication) := by
  cases acceptStep_cases h with
  | accept hpc => exact ⟨rfl, rfl, rfl, id, Nat.le_succ _, fun hne => absurd hpc hne⟩
  | createSnd hpc => exact ⟨rfl, rfl, rfl, by simp [System.atAccept], Nat.le_refl _, fun _ => rfl⟩
  | _ hpc => exact ⟨rfl, rfl, rfl, id, Nat.le_refl _, fun _ => rfl⟩

theorem sysStep_sndJoined {m : Move} (hinv : y.SndJoined) (h : sysStep libc y m = some y') :
    y'.SndJoined := by
  cases sysStep_cases h with
  | accept _ hs =>
      intro hrun
      cases acceptStep_cases hs with
      | createSnd hpc => exact Or.inl rfl
      | createRecv hpc => exact Or.inr rfl
      | joinSnd hpc hended => exact absurd hended hrun
      | _ hpc =>
          have hold := hinv hrun
          simp [hpc] at hold
  | recv input _ hs =>
      intro hrun
      rw [(recvStep_live hs).2]
      exact hinv (by rw [← (recvStep_keeps hs).1]; exact hrun)
  | snd _ hs =>
      intro _
      rw [(sndStep_frame hs).1]
      refine hinv (fun hended => ?_)
      simp [System.sndStep, hended] at hs
  | _ => exact hinv

/-- The sender sets no flag, and goes to `write` only if it has seen one. -/
theorem sndStep_keeps (h : y.sndStep = some y') :
    y'.gw.childUsr2 = y.gw.childUsr2 ∧ y'.child.communication = y.child.communication
      ∧ (y'.child.readyFlag = true → y.child.readyFlag = true)
      ∧ (y'.child.snd = .write → y.child.readyFlag = true) := by
  cases sndStep_cases h with
  | test hpc =>
      refine ⟨rfl, rfl, id, fun hsnd => ?_⟩
      by_contra hflag
      simp [System.atSnd, hflag] at hsnd
  | clearReady hpc => exact ⟨rfl, rfl, by simp [System.atSnd], by simp [System.atSnd]⟩
  | sleep hpc =>
      refine ⟨rfl, rfl, id, fun hsnd => ?_⟩
      simp only [System.atSnd] at hsnd
      split at hsnd <;> cases hsnd
  | nap hpc =>
      refine ⟨rfl, rfl, id, fun hsnd => ?_⟩
      simp only [System.atSnd] at hsnd
      split at hsnd <;> cases hsnd
  | _ hpc => exact ⟨rfl, rfl, id, by simp [System.atSnd]⟩

theorem sndStep_sent (h : y.sndStep = some y') (hsent : Sent y') : Sent y := by
  obtain ⟨hsig, -, hflag, hsnd⟩ := sndStep_keeps h
  rcases hsent with hs | hs | hs
  · exact Or.inl (by rw [← hsig]; exact hs)
  · exact Or.inr (Or.inl (hflag hs))
  · exact Or.inr (Or.inl (hsnd hs))

theorem recvStep_sent {input : Input} (h : y.recvStep input = some y') (hsent : Sent y') :
    Sent y := by
  obtain ⟨hsnd, hready, -, -, hsig⟩ := recvStep_keeps h
  unfold Sent at hsent
  rw [hsnd, hready, hsig] at hsent
  exact hsent

/-- The number of the connection only grows. -/
theorem communication_le {m : Move} (h : sysStep libc y m = some y') :
    y.child.communication ≤ y'.child.communication := by
  cases sysStep_cases h with
  | accept _ hs => exact (acceptStep_keeps hs).2.2.2.2.1
  | recv input _ hs => rw [(recvStep_keeps hs).2.2.1]
  | snd _ hs => rw [(sndStep_keeps hs).2.1]
  | _ => exact Nat.le_refl _

/-- The socket only grows. -/
theorem socket_grows {m : Move} (h : sysStep libc y m = some y') :
    y.child.socket <+: y'.child.socket := by
  cases sysStep_cases h with
  | accept _ hs =>
      refine ⟨[], ?_⟩
      rw [List.append_nil, (acceptStep_keeps hs).2.1]
  | recv input _ hs =>
      refine ⟨[], ?_⟩
      rw [List.append_nil, (recvStep_keeps hs).2.2.2.1]
  | snd _ hs =>
      cases sndStep_cases hs with
      | write hpc hnot => exact List.prefix_append _ _
      | _ => exact List.prefix_rfl
  | _ => exact List.prefix_rfl

end Threads

/-! ## §3. Whom a text is for. -/

/-- A text that is on its way to a sender was posted to the client of today, or to
nobody. -/
structure Addressed (v : Visited) : Prop where
  sent : Sent v.sys → ∀ c, v.origin = some c → c = v.sys.child.communication
  known : ∀ c, v.origin = some c → c ≤ v.sys.child.communication
  deliveries : ∀ e ∈ v.deliveries, ∀ c, e.2 = some c → c = e.1

section Addressed

variable {libc : Libc} {v v' : Visited}

/-- A new text is for the client of today, or for nobody. -/
theorem nextOrigin_spec (v : Visited) (m : Move) :
    v.nextOrigin m = v.origin ∨ v.nextOrigin m = none
      ∨ v.nextOrigin m = some v.sys.child.communication := by
  unfold Visited.nextOrigin
  split
  · split
    · exact Or.inr (Or.inl rfl)
    · split
      · exact Or.inr (Or.inr rfl)
      · exact Or.inr (Or.inl rfl)
    · exact Or.inl rfl
  · exact Or.inl rfl

/-- What a step writes had been posted to the client of today. -/
theorem deliveredBy_addressed {m : Move} (hinv : Addressed v) {e : Nat × Option Nat}
    (he : e ∈ v.deliveredBy m) : ∀ c, e.2 = some c → c = e.1 := by
  unfold Visited.deliveredBy at he
  split at he
  · split at he
    next hwrite =>
        rw [List.mem_singleton.mp he]
        exact hinv.sent (Or.inr (Or.inr hwrite.1))
    next => simp at he
  · simp at he

/-- The client of today changes only when a client is accepted, and then nothing
is on its way. -/
theorem addressed_accept {y' : System} (hjoin : v.sys.SndJoined) (hinv : Addressed v)
    (hok : AcceptsUnburdened v .accept) (hs : v.sys.acceptStep = some y') (hsent : Sent y') :
    ∀ c, v.origin = some c → c = y'.child.communication := by
  obtain ⟨hready, -, hsig, hwrite, -, hcomm⟩ := acceptStep_keeps hs
  unfold Sent at hsent
  rw [hready, hsig] at hsent
  by_cases hpc : v.sys.child.accept = .accept
  · have hnone : v.origin = none := by
      rcases hsent with hsent | hsent | hsent
      · exact ((hok hpc).late (Or.inl hsent)).2.2
      · exact ((hok hpc).late (Or.inr hsent)).2.2
      -- there is no sender
      · have hold := hjoin (by simp [hwrite hsent])
        simp [hpc] at hold
    rw [hnone]
    intro c hc
    cases hc
  · rw [hcomm hpc]
    exact hinv.sent (hsent.imp_right (fun h => h.imp_right hwrite))

/-- A step of the parent that posts is one for the client of today, or for nobody. -/
theorem addressed_parent {io : Io} {s' : Gateway} (hinv : Addressed v)
    (hs : v.sys.gw.mainStep libc io = some s') (hsent : Sent { v.sys with gw := s' }) :
    ∀ c, v.nextOrigin (.parent io) = some c → c = v.sys.child.communication := by
  intro c hc
  rcases nextOrigin_spec v (.parent io) with hsame | hnone | hnew
  · by_cases hpost : ∃ p, v.sys.gw.pc = .post p .signal
    · obtain ⟨p, hpc⟩ := hpost
      simp only [Visited.nextOrigin, hpc] at hc
      split at hc
      · exact (Option.some.inj hc).symm
      · cases hc
    · -- nothing is posted: what is on its way was so before
      have hold : Sent v.sys := by
        unfold Sent at hsent ⊢
        rw [← (Gateway.mainStep_frame hs).childUsr2 (fun p hpc => hpost ⟨p, hpc⟩)]
        exact hsent
      exact hinv.sent hold c (hsame ▸ hc)
  · rw [hnone] at hc
    cases hc
  · rw [hnew] at hc
    exact (Option.some.inj hc).symm

theorem addressed_step {m : Move} (hjoin : v.sys.SndJoined) (hinv : Addressed v)
    (hok : AcceptsUnburdened v m) (hs : visitStep libc v m = some v') : Addressed v' := by
  obtain ⟨y', hy, rfl⟩ := Option.map_eq_some_iff.mp hs
  refine ⟨?_, fun c hc => ?_, fun e he => ?_⟩
  · show Sent y' → ∀ c, v.nextOrigin m = some c → c = y'.child.communication
    intro hsent
    cases sysStep_cases hy with
    | parent io s' hs' => exact addressed_parent hinv hs' hsent
    | packet p => exact hinv.sent hsent
    | parentUsr2 _ => exact hinv.sent hsent
    | childUsr2 hsig => exact hinv.sent (Or.inl hsig)
    | accept _ hs' => exact addressed_accept hjoin hinv hok hs' hsent
    | recv input _ hs' =>
        rw [(recvStep_keeps hs').2.2.1]
        exact hinv.sent (recvStep_sent hs' hsent)
    | snd _ hs' =>
        rw [(sndStep_keeps hs').2.1]
        exact hinv.sent (sndStep_sent hs' hsent)
  · show c ≤ y'.child.communication
    have hc' : v.nextOrigin m = some c := hc
    rcases nextOrigin_spec v m with hsame | hnone | hnew
    · exact Nat.le_trans (hinv.known c (hsame ▸ hc')) (communication_le hy)
    · rw [hnone] at hc'
      cases hc'
    · rw [hnew] at hc'
      rw [← Option.some.inj hc']
      exact communication_le hy
  · rcases List.mem_append.mp he with hold | hnew
    · exact hinv.deliveries e hold
    · exact deliveredBy_addressed hinv hnew

end Addressed

/-! ## §4. What has been acknowledged has been written. -/

/-- In this phase the text `e` is on its way, or is on the socket behind the ones
acknowledged. -/
def Carried (ph : Phase) (acked : List (Nat × List UInt8)) (e : Nat × List UInt8)
    (socket : List (Nat × List UInt8)) : Prop :=
  match ph with
  | .signalled | .ready => True
  | .stuck => False
  | _ => (acked ++ [e]).Sublist socket

/-- A text of the client of today that the parent still waits for is not lost. -/
def NotLost (v : Visited) (ph : Phase) : Prop :=
  v.origin = some v.sys.child.communication → Waits v.sys.gw.pc →
    Carried ph v.acked (v.sys.child.communication, v.sys.gw.share.dataToSend) v.sys.child.socket

/-- What is acknowledged has been written to the client it was for. -/
structure Acked (v : Visited) : Prop where
  written : v.acked.Sublist v.sys.child.socket
  opened : v.connected = true → Live v.sys.child ∧ ∃ ph, InPhase v.sys ph ∧ NotLost v ph

section Acked

variable {libc : Libc} {v v' : Visited}

/-- The parent sees an acknowledgement only where it waits, with `ack` set. -/
theorem ackedBy_spec (v : Visited) (m : Move) :
    v.ackedBy m = [] ∨ (Waits v.sys.gw.pc ∧ v.sys.gw.share.ack ≠ 0 ∧ v.connected = true
      ∧ v.origin = some v.sys.child.communication ∧ (∃ io, m = .parent io)
      ∧ v.ackedBy m = [(v.sys.child.communication, v.sys.gw.share.dataToSend)]) := by
  cases m with
  | parent io =>
      cases hpc : v.sys.gw.pc with
      | post p stage =>
          cases stage with
          | wait =>
              simp only [Visited.ackedBy, hpc]
              split
              next h => exact Or.inr ⟨trivial, h.1, h.2.1, h.2.2, ⟨io, rfl⟩, rfl⟩
              next => exact Or.inl rfl
          | _ => exact Or.inl (by simp [Visited.ackedBy, hpc])
      | _ => exact Or.inl (by simp [Visited.ackedBy, hpc])
  | _ => exact Or.inl rfl

/-- What a step acknowledges has been written. -/
theorem acked_written (hinv : Acked v) (m : Move) :
    (v.acked ++ v.ackedBy m).Sublist v.sys.child.socket := by
  rcases ackedBy_spec v m with hnone | ⟨hwait, hack, hconn, horigin, -, hone⟩
  · rw [hnone, List.append_nil]
    exact hinv.written
  · obtain ⟨-, ph, hph, hkept⟩ := hinv.opened hconn
    -- with `ack` set the text has gone all the way
    have hidle : ph = .idle := by
      by_contra hne
      exact hack (hph.waits hne).2
    rw [hidle] at hkept
    rw [hone]
    exact hkept horigin hwait

/-- Where the parent waits after a step that posts nothing, it waited before, for
the same text and without an answer. -/
theorem still_waits {m : Move} {y' : System} (hs : sysStep libc v.sys m = some y')
    (hpost : postedBy v.sys m = []) (hwait : Waits y'.gw.pc) :
    Waits v.sys.gw.pc ∧ v.ackedBy m = [] ∧ v.nextOrigin m = v.origin := by
  have hold : Waits v.sys.gw.pc := by
    cases sysStep_cases hs with
    | parent io s' hs' =>
        rcases waits_of_next (Gateway.mainStep_frame hs').next hwait with hold | ⟨p, hpc⟩
        · exact hold
        · simp [postedBy, hpc] at hpost
    | accept _ hs' => cases acceptStep_cases hs' <;> exact hwait
    | recv input _ hs' => cases recvStep_cases hs' <;> exact hwait
    | snd _ hs' => cases sndStep_cases hs' <;> exact hwait
    | _ => exact hwait
  refine ⟨hold, ?_, ?_⟩
  · rcases ackedBy_spec v m with hnone | ⟨-, hack, -, -, ⟨io, rfl⟩, -⟩
    · exact hnone
    · obtain ⟨s', hs', rfl⟩ := Option.map_eq_some_iff.mp hs
      exact absurd (awaitsAck_of_waits hwait) ((mainStep_waits hold hs').2.2.2 hack)
  · cases m with
    | parent io =>
        cases hpc : v.sys.gw.pc with
        | post p stage =>
            cases stage with
            | wait => simp [Visited.nextOrigin, hpc]
            | _ =>
                rw [hpc] at hold
                exact False.elim hold
        | _ =>
            rw [hpc] at hold
            exact False.elim hold
    | _ => rfl

/-- **One step of an open connection.** -/
theorem kept_step {m : Move} {y' : System} {ph ph' : Phase} (hinv : Acked v)
    (hlive : Live v.sys.child) (hkept : NotLost v ph) (hs : sysStep libc v.sys m = some y')
    (hhand : Handed v.sys m y' ph ph') :
    NotLost ⟨y', v.nextConnected y', v.nextOrigin m, v.acked ++ v.ackedBy m,
      v.deliveries ++ v.deliveredBy m⟩ ph' := by
  have hcomm := communication_eq hlive hs
  intro horigin hwait
  have horigin' : v.nextOrigin m = some y'.child.communication := horigin
  rw [hcomm] at horigin'
  show Carried ph' (v.acked ++ v.ackedBy m) (y'.child.communication, y'.gw.share.dataToSend)
    y'.child.socket
  cases hhand with
  | post => trivial
  | deliver => trivial
  | keep _ hpost hdata hsame =>
      obtain ⟨hold, hnone, hsameOrigin⟩ := still_waits hs hpost hwait
      rw [hnone, List.append_nil, hcomm, hdata hwait, hsame]
      exact hkept (hsameOrigin ▸ horigin') hold
  | write hpost hdata hsame =>
      -- the acknowledged texts were there before, and this one comes last
      obtain ⟨hold, hnone, -⟩ := still_waits hs hpost hwait
      rw [hnone, List.append_nil, hcomm, hdata, hsame]
      exact hinv.written.append (List.Sublist.refl _)
  | clear hpost hdata hsame =>
      obtain ⟨hold, hnone, hsameOrigin⟩ := still_waits hs hpost hwait
      rw [hnone, List.append_nil, hcomm, hdata, hsame]
      exact hkept (hsameOrigin ▸ horigin') hold
  | acknowledge hpost hdata hsame =>
      obtain ⟨hold, hnone, hsameOrigin⟩ := still_waits hs hpost hwait
      rw [hnone, List.append_nil, hcomm, hdata, hsame]
      exact hkept (hsameOrigin ▸ horigin') hold

/-- A client that is accepted finds the text of before in some phase, or none. -/
theorem Unburdened.phase (h : Unburdened v) (hsnd : v.sys.child.snd = .ended) :
    ∃ ph, InPhase v.sys ph := by
  have hrest : Resting v.sys.child.snd := by
    rw [hsnd]
    trivial
  cases hsig : v.sys.gw.childUsr2 with
  | true =>
      obtain ⟨hwait, hack, -⟩ := h.late (Or.inl hsig)
      have hready : v.sys.child.readyFlag = false := by
        have hnot : ¬ v.sys.child.readyFlag = true := fun hr => h.single ⟨hsig, hr⟩
        simpa using hnot
      exact ⟨_, InPhase.signalled hsig hready hrest hwait hack⟩
  | false =>
      cases hready : v.sys.child.readyFlag with
      | true =>
          obtain ⟨hwait, hack, -⟩ := h.late (Or.inr hready)
          exact ⟨_, InPhase.ready hsig hready (Or.inl hrest) hwait hack⟩
      | false =>
          by_cases hlost : Waits v.sys.gw.pc ∧ v.sys.gw.share.ack = 0
          -- a parent that nobody will answer in this connection
          · exact ⟨_, InPhase.stuck hsig hready hrest hlost.1 hlost.2⟩
          · exact ⟨_, InPhase.idle hsig hready hrest (fun hw h0 => hlost ⟨hw, h0⟩) h.ack⟩

theorem nextConnected_cases {y' : System} (h : v.nextConnected y' = true) :
    (v.sys.child.accept = .accept ∧ y'.child.accept = .storeGot)
      ∨ (v.connected = true ∧ y'.child.recv ≠ .eofCancel ∧ y'.child.recv ≠ .exitCancel) := by
  unfold Visited.nextConnected at h
  split at h
  next hopen => exact Or.inl hopen
  next =>
      split at h
      next => cases h
      next hstay =>
          rw [not_or] at hstay
          exact Or.inr ⟨h, hstay.1, hstay.2⟩

/-- A connection that is still open has a client that stays. -/
theorem stays_of_open {m : Move} {y y' : System} (hs : sysStep libc y m = some y')
    (heof : y'.child.recv ≠ .eofCancel) (hexit : y'.child.recv ≠ .exitCancel) : Stays y m := by
  cases m with
  | recv input =>
      intro hpc
      have hread : y.recvStep input = some y' := hs
      simp only [System.recvStep, hpc] at hread
      refine ⟨fun hin => ?_, fun bytes hin hmsg => ?_⟩
      · rw [hin] at hread
        rw [← Option.some.inj hread] at heof
        exact heof rfl
      · simp only [hin, hmsg] at hread
        rw [← Option.some.inj hread] at hexit
        exact hexit rfl
  | _ => trivial

/-- A client has been accepted. -/
theorem accepted_of_storeGot {m : Move} {y y' : System} (hs : sysStep libc y m = some y')
    (hpc : y.child.accept = .accept) (hpc' : y'.child.accept = .storeGot) :
    m = .accept ∧ y' = { y with
      child := { y.child with communication := y.child.communication + 1 } }.atAccept .storeGot := by
  cases sysStep_cases hs with
  | accept _ hs' =>
      refine ⟨rfl, ?_⟩
      simp only [System.acceptStep, hpc] at hs'
      exact (Option.some.inj hs').symm
  | recv input _ hs' => simp [(recvStep_live hs').2, hpc] at hpc'
  | snd _ hs' => simp [(sndStep_frame hs').1, hpc] at hpc'
  | _ => simp [hpc] at hpc'

theorem acked_step {m : Move} (hjoin : v.sys.Joined) (hsjoin : v.sys.SndJoined)
    (haddr : Addressed v) (hinv : Acked v) (hok : AcceptsUnburdened v m)
    (hs : visitStep libc v m = some v') : Acked v' := by
  obtain ⟨y', hy, rfl⟩ := Option.map_eq_some_iff.mp hs
  refine ⟨(acked_written hinv m).trans (socket_grows hy).sublist, fun hconn => ?_⟩
  rcases nextConnected_cases hconn with ⟨hpc, hpc'⟩ | ⟨hconn', heof, hexit⟩
  · -- a new client: no sender, no receiver, and no text is posted to it yet
    obtain ⟨rfl, rfl⟩ := accepted_of_storeGot hy hpc hpc'
    have hsnd : v.sys.child.snd = .ended := by
      by_contra hrun
      simpa [hpc] using hsjoin hrun
    have hrecv : v.sys.child.recv = .ended := by
      by_contra hrun
      simpa [hpc] using hjoin hrun
    obtain ⟨ph, hph⟩ := (hok hpc).phase hsnd
    refine ⟨Live.opening (Or.inl rfl) hsnd hrecv, ph, hph.of_eq rfl rfl rfl rfl rfl, ?_⟩
    intro horigin
    have hknown := haddr.known _ horigin
    exact absurd hknown (Nat.not_succ_le_self _)
  · obtain ⟨hlive, ph, hph, hkept⟩ := hinv.opened hconn'
    have hstay := stays_of_open hy heof hexit
    obtain ⟨ph', hph', hhand⟩ := phase_step hlive hstay hph hy
    exact ⟨live_step hlive hstay hy, ph', hph', kept_step hinv hlive hkept hy hhand⟩

end Acked

/-! ## §5. Runs. -/

/-- Before the first client. -/
def unvisited (y : System) : Visited := ⟨y, false, none, [], []⟩

/-- All of it. -/
structure Orderly (v : Visited) : Prop where
  joined : v.sys.Joined
  sndJoined : v.sys.SndJoined
  addressed : Addressed v
  acked : Acked v

theorem orderly_start {y : System} (h0 : y.Started) : Orderly (unvisited y) where
  joined := fun hr => absurd h0.recv hr
  sndJoined := fun hr => absurd h0.snd hr
  addressed := by
    refine ⟨fun _ c hc => ?_, fun c hc => ?_, fun e he => ?_⟩
    · cases hc
    · cases hc
    · cases he
  acked := ⟨List.nil_sublist _, fun hconn => by cases hconn⟩

theorem orderly_step {libc : Libc} {v v' : Visited} {m : Move} (hinv : Orderly v)
    (hok : AcceptsUnburdened v m) (hs : visitStep libc v m = some v') : Orderly v' := by
  obtain ⟨hjoin, hsjoin, haddr, hacked⟩ := hinv
  obtain ⟨y', hy, hv'⟩ := Option.map_eq_some_iff.mp hs
  have hsys : v'.sys = y' := by rw [← hv']
  refine ⟨?_, ?_, addressed_step hsjoin haddr hok hs, acked_step hjoin hsjoin haddr hacked hok hs⟩
  · rw [hsys]
    exact sysStep_joined hjoin hy
  · rw [hsys]
    exact sysStep_sndJoined hsjoin hy

/-- **SESSIONS ARE ISOLATED** in every run that accepts a client only when nothing
is left over: no text is written to a client that it was not posted to, and every
text acknowledged while its client was connected has been written to that client. -/
theorem sessions_isolated {libc : Libc} {y₀ : System} (h0 : y₀.Started) {v : Visited}
    (h : Reach (visitStep libc) AcceptsUnburdened (unvisited y₀) v) : Isolated v := by
  have hinv : Orderly v :=
    Reach.invariant (orderly_start h0) (fun _ _ _ => orderly_step) h
  exact ⟨hinv.addressed.deliveries, hinv.acked.written⟩

/-! ## §6. A command, "exit", and the next client. -/

/-- The text of the parent is written, and acknowledged. -/
def delivers : List Move := [.childUsr2] ++ List.replicate 5 .snd ++ [.parent sampleIo]

/-- The next client connects, and the sender looks at `ready_flag`. -/
def connectsAgain : List Move := [.childUsr2] ++ List.replicate 5 .accept ++ [.snd, .snd]

/-- A check that is enough for a first client. -/
def firstClient (v : Visited) : Move → Bool
  | .accept => decide (v.sys.child.accept ≠ .accept
      ∨ v.sys.gw.childUsr2 = false ∧ v.sys.child.readyFlag = false ∧ v.sys.gw.pc = .outer)
  | _ => true

theorem settled_of_firstClient {v : Visited} {m : Move} (h : firstClient v m = true) :
    AcceptsUnburdened v m := by
  cases m with
  | accept =>
      intro hpc
      rcases of_decide_eq_true h with hne | ⟨hsig, hready, houter⟩
      · exact absurd hpc hne
      · refine ⟨fun hlate => ?_, fun hboth => ?_, fun haw => ?_⟩
        · simp [hsig, hready] at hlate
        · simp [hsig] at hboth
        · rw [houter] at haw
          exact False.elim haw
  | _ => trivial

/-- A client adds a node, and has been sent the reply when the parent goes on. -/
theorem sessions_isolated_reply :
    ∃ v, Reach (visitStep sampleLibc) AcceptsUnburdened (unvisited sampleSystem) v
      ∧ v.acked = [(1, codeText Code.addDevice 7)] ∧ Isolated v := by
  have hrun : (run (only (visitStep sampleLibc) firstClient) (unvisited sampleSystem)
      (connects ++ addsNode ++ delivers)).map Visited.acked
      = some [(1, codeText Code.addDevice 7)] := by decide +kernel
  obtain ⟨v, hv, hacked⟩ := Option.map_eq_some_iff.mp hrun
  have hreach := (reach_of_run _ hv).mono (fun _ _ h => settled_of_firstClient h)
  exact ⟨v, hreach, hacked, sessions_isolated sampleSystem_started hreach⟩

/-- A command, "exit" before its reply, and a second client: it is sent the reply
that was posted to the first. -/
theorem reply_to_next_client :
    ∃ y₀ v, y₀.Started ∧ Reach (visitStep sampleLibc) Any (unvisited y₀) v
      ∧ v.sys.child.socket = [(2, codeText Code.addDevice 7)]
      ∧ v.deliveries = [(2, some 1)] ∧ ¬ Isolated v := by
  have hrun : (run (visitStep sampleLibc) (unvisited sampleSystem)
      (connects ++ addsNode ++ exits ++ connectsAgain)).map
        (fun v => (v.sys.child.socket, v.deliveries))
      = some ([(2, codeText Code.addDevice 7)], [(2, some 1)]) := by decide +kernel
  obtain ⟨v, hv, hfields⟩ := Option.map_eq_some_iff.mp hrun
  obtain ⟨hsocket, hdel⟩ := Prod.mk.inj hfields
  refine ⟨_, v, sampleSystem_started, reach_any_of_run _ hv, hsocket, hdel, ?_⟩
  intro hiso
  have hwrong := hiso.1 (2, some 1) (by simp [hdel]) 1 rfl
  cases hwrong

end LoRaGateway
