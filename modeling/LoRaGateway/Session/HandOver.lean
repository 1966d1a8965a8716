/-
  LoRaGateway.Session.HandOver
  ────────────────────────────
  **FROM `data_to_send` TO THE SOCKET**, during one connection.

  The parent fills `data_to_send`, clears `ack`, signals and waits; the child's
  handler sets `ready_flag`, the sender writes the text, clears the flag, and sets
  `ack` a second later.  A text is in one `Phase` of this at any moment, and the
  clear-after-write of `ready_flag` is safe because no second text can be posted
  before `ack` is set.

    • `phase_step` — what one step of the system does to the phase,
    • `Opened` — a connection at whose start nothing of an earlier one is under way,
    • `handed_over_once` — then the texts written are those posted, in order, at most
      one behind,
    • `text_overwritten` — what happens otherwise.
-/
import LoRaGateway.Session.AckWait

namespace LoRaGateway

open LoRaGateway.Lib

/-! ## §1. A connection. -/

/-- The connection is open: its threads are about to be created, or run, and
nobody has cancelled the sender. -/
inductive Live (c : Child) : Prop where
  | opening (haccept : Connecting c.accept) (hsnd : c.snd = .ended) (hrecv : c.recv = .ended)
  | created (haccept : c.accept = .createRecv) (hsnd : c.snd ≠ .ended)
      (hnot : c.cancelled = false) (hrecv : c.recv = .ended)
  | talking (haccept : c.accept = .joinSnd) (hsnd : c.snd ≠ .ended)
      (hnot : c.cancelled = false) (hrecv : c.recv = .read ∨ ∃ rest, c.recv = .ops rest)

/-- The client neither closes the connection nor sends "exit". -/
def Stays (y : System) : Move → Prop
  | .recv input => y.child.recv = .read →
      input ≠ .eof ∧ ∀ bytes, input = .data bytes → recvMsg bytes ≠ some .exit
  | _ => True

section Live

variable {libc : Libc} {y y' : System}

theorem Live.accept_step (h : Live y.child) (hs : y.acceptStep = some y') : Live y'.child := by
  cases h with
  | opening haccept hsnd hrecv =>
      cases acceptStep_cases hs with
      | storeGot hpc => exact Live.opening (Or.inr (Or.inl rfl)) hsnd hrecv
      | killGot hpc => exact Live.opening (Or.inr (Or.inr rfl)) hsnd hrecv
      | createSnd hpc => exact Live.created rfl (by simp [System.atAccept]) rfl hrecv
      | _ hpc => simp [Connecting, hpc] at haccept
  | created haccept hsnd hnot hrecv =>
      cases acceptStep_cases hs with
      | createRecv hpc => exact Live.talking rfl hsnd hnot (Or.inl rfl)
      | _ hpc => simp [hpc] at haccept
  | talking haccept hsnd hnot hrecv =>
      -- the accept loop waits for a sender that goes on
      cases acceptStep_cases hs with
      | joinSnd hpc hended => exact absurd hended hsnd
      | _ hpc => simp [hpc] at haccept

/-- A client that stays is read as a message. -/
theorem read_message {input : Input} (hpc : y.child.recv = .read) (hstay : Stays y (.recv input))
    (hs : y.recvStep input = some y') : ∃ ops, y' = y.atRecv (.ops ops) := by
  obtain ⟨hopen, hgo⟩ := hstay hpc
  simp only [System.recvStep, hpc] at hs
  cases input with
  | eof => exact absurd rfl hopen
  | data bytes =>
      cases hmsg : recvMsg bytes with
      | none => simp [hmsg] at hs
      | some out =>
          cases out with
          | exit => exact absurd hmsg (hgo bytes rfl)
          | message ops =>
              simp only [hmsg] at hs
              exact ⟨ops, (Option.some.inj hs).symm⟩

/-- **What the receiver of an open connection does**: it reads a message, or
performs one of its operations; neither touches `ack`, the text or the sender. -/
theorem recv_frame {input : Input} (hrecv : y.child.recv = .read ∨ ∃ rest, y.child.recv = .ops rest)
    (hstay : Stays y (.recv input)) (hs : y.recvStep input = some y') :
    ∃ recv usr2 share, (recv = .read ∨ ∃ rest, recv = .ops rest)
      ∧ share.ack = y.gw.share.ack ∧ share.dataToSend = y.gw.share.dataToSend
      ∧ y' = { y with
          gw := { y.gw with share := share }
          usr2 := usr2
          child := { y.child with recv := recv } } := by
  rcases hrecv with hpc | ⟨l, hpc⟩
  · obtain ⟨ops, rfl⟩ := read_message hpc hstay hs
    exact ⟨.ops ops, y.usr2, y.gw.share, Or.inr ⟨ops, rfl⟩, rfl, rfl, rfl⟩
  · cases recvStep_cases hs with
    | done h => exact ⟨.read, y.usr2, y.gw.share, Or.inl rfl, rfl, rfl, rfl⟩
    | store w rest h =>
        exact ⟨.ops rest, y.usr2, w.apply y.gw.share, Or.inr ⟨rest, rfl⟩, Store.apply_ack w _,
          Store.apply_dataToSend w _, rfl⟩
    | kill o rest h => exact ⟨.ops rest, true, y.gw.share, Or.inr ⟨rest, rfl⟩, rfl, rfl, rfl⟩
    | _ h => simp [hpc] at h

theorem Live.recv_step {input : Input} (h : Live y.child) (hstay : Stays y (.recv input))
    (hs : y.recvStep input = some y') : Live y'.child := by
  cases h with
  | opening haccept hsnd hrecv => exact absurd hrecv (recvStep_live hs).1
  | created haccept hsnd hnot hrecv => exact absurd hrecv (recvStep_live hs).1
  | talking haccept hsnd hnot hrecv =>
      obtain ⟨recv, usr2, share, hrecv', -, -, rfl⟩ := recv_frame hrecv hstay hs
      exact Live.talking haccept hsnd hnot hrecv'

theorem Live.snd_step (h : Live y.child) (hs : y.sndStep = some y') : Live y'.child := by
  obtain ⟨haccept', hrecv', -⟩ := sndStep_frame hs
  have hrun : y.child.snd ≠ .ended := by
    intro hended
    simp only [System.sndStep, hended] at hs
    exact absurd hs (by simp)
  cases h with
  | opening haccept hsnd hrecv => exact absurd hsnd hrun
  | created haccept hsnd hnot hrecv =>
      obtain ⟨hgo, hnot'⟩ := sndStep_runs hs hnot
      exact Live.created (haccept'.trans haccept) hgo hnot' (hrecv'.trans hrecv)
  | talking haccept hsnd hnot hrecv =>
      obtain ⟨hgo, hnot'⟩ := sndStep_runs hs hnot
      exact Live.talking (haccept'.trans haccept) hgo hnot' (by rw [hrecv']; exact hrecv)

/-- A connection stays open as long as the client stays. -/
theorem live_step {m : Move} (h : Live y.child) (hstay : Stays y m)
    (hs : sysStep libc y m = some y') : Live y'.child := by
  cases sysStep_cases hs with
  | childUsr2 hsent =>
      cases h with
      | opening haccept hsnd hrecv => exact Live.opening haccept hsnd hrecv
      | created haccept hsnd hnot hrecv => exact Live.created haccept hsnd hnot hrecv
      | talking haccept hsnd hnot hrecv => exact Live.talking haccept hsnd hnot hrecv
  | accept _ hs' => exact h.accept_step hs'
  | recv input _ hs' => exact h.recv_step hstay hs'
  | snd _ hs' => exact h.snd_step hs'
  | _ => exact h

end Live

/-! ## §2. The phases of a text. -/

/-- The parent has sent SIGUSR2 and not seen `ack` set since. -/
def Waits : Pc → Prop
  | .post _ .wait => True
  | _ => False

/-- The sender has no text in hand. -/
def Resting : SndPc → Prop
  | .ended | .test | .nap => True
  | _ => False

/-- Where the text of the last post is. -/
inductive Phase where
  /-- written and acknowledged -/
  | idle
  /-- nobody in the child has been told of it: lost with an earlier connection -/
  | stuck
  | signalled
  | ready
  | written
  | cleared
  deriving DecidableEq

/-- What the two program counters, `ack` and the flags are in each phase. -/
inductive InPhase (y : System) : Phase → Prop where
  | idle (hsig : y.gw.childUsr2 = false) (hready : y.child.readyFlag = false)
      (hsnd : Resting y.child.snd) (hacked : Waits y.gw.pc → y.gw.share.ack ≠ 0)
      (hclear : AwaitsAck y.gw.pc → ¬ Waits y.gw.pc → y.gw.share.ack = 0) : InPhase y .idle
  | stuck (hsig : y.gw.childUsr2 = false) (hready : y.child.readyFlag = false)
      (hsnd : Resting y.child.snd) (hwait : Waits y.gw.pc) (hack : y.gw.share.ack = 0) :
      InPhase y .stuck
  | signalled (hsig : y.gw.childUsr2 = true) (hready : y.child.readyFlag = false)
      (hsnd : Resting y.child.snd) (hwait : Waits y.gw.pc) (hack : y.gw.share.ack = 0) :
      InPhase y .signalled
  | ready (hsig : y.gw.childUsr2 = false) (hready : y.child.readyFlag = true)
      (hsnd : Resting y.child.snd ∨ y.child.snd = .write) (hwait : Waits y.gw.pc)
      (hack : y.gw.share.ack = 0) : InPhase y .ready
  | written (hsig : y.gw.childUsr2 = false) (hready : y.child.readyFlag = true)
      (hsnd : y.child.snd = .clearReady) (hwait : Waits y.gw.pc) (hack : y.gw.share.ack = 0) :
      InPhase y .written
  | cleared (hsig : y.gw.childUsr2 = false) (hready : y.child.readyFlag = false)
      (hsnd : y.child.snd = .sleep ∨ y.child.snd = .setAck) (hwait : Waits y.gw.pc)
      (hack : y.gw.share.ack = 0) : InPhase y .cleared

/-- The texts that a step posts. -/
def postedBy (y : System) : Move → List (List UInt8)
  | .parent _ =>
      match y.gw.pc with
      | .post _ .signal => [y.gw.share.dataToSend]
      | _ => []
  | _ => []

/-- How a step takes the text on. -/
inductive Handed (y : System) (m : Move) (y' : System) : Phase → Phase → Prop where
  | post (hpost : postedBy y m = [y.gw.share.dataToSend])
      (hdata : y'.gw.share.dataToSend = y.gw.share.dataToSend)
      (hsocket : y'.child.socket = y.child.socket) : Handed y m y' .idle .signalled
  | keep (ph : Phase) (hpost : postedBy y m = [])
      (hdata : Waits y'.gw.pc → y'.gw.share.dataToSend = y.gw.share.dataToSend)
      (hsocket : y'.child.socket = y.child.socket) : Handed y m y' ph ph
  | deliver (hpost : postedBy y m = [])
      (hdata : y'.gw.share.dataToSend = y.gw.share.dataToSend)
      (hsocket : y'.child.socket = y.child.socket) : Handed y m y' .signalled .ready
  | write (hpost : postedBy y m = [])
      (hdata : y'.gw.share.dataToSend = y.gw.share.dataToSend)
      (hsocket : y'.child.socket
        = y.child.socket ++ [(y.child.communication, y.gw.share.dataToSend)]) :
      Handed y m y' .ready .written
  | clear (hpost : postedBy y m = [])
      (hdata : y'.gw.share.dataToSend = y.gw.share.dataToSend)
      (hsocket : y'.child.socket = y.child.socket) : Handed y m y' .written .cleared
  | acknowledge (hpost : postedBy y m = [])
      (hdata : y'.gw.share.dataToSend = y.gw.share.dataToSend)
      (hsocket : y'.child.socket = y.child.socket) : Handed y m y' .cleared .idle

section Phases

variable {libc : Libc} {y y' : System} {ph : Phase}

theorem awaitsAck_of_waits {pc : Pc} (h : Waits pc) : AwaitsAck pc := by
  cases pc with
  | post p stage =>
      cases stage with
      | wait => cases p <;> trivial
      | _ => exact False.elim h
  | _ => exact False.elim h

/-- The phase speaks of the parent's place, `ack`, the two flags and the sender only. -/
theorem InPhase.of_eq (h : InPhase y ph) (hpc : y'.gw.pc = y.gw.pc)
    (hack : y'.gw.share.ack = y.gw.share.ack) (hsig : y'.gw.childUsr2 = y.gw.childUsr2)
    (hready : y'.child.readyFlag = y.child.readyFlag) (hsnd : y'.child.snd = y.child.snd) :
    InPhase y' ph := by
  cases h with
  | idle h1 h2 h3 h4 h5 =>
      exact InPhase.idle (by rw [hsig, h1]) (by rw [hready, h2]) (by rw [hsnd]; exact h3)
        (by rw [hpc, hack]; exact h4) (by rw [hpc, hack]; exact h5)
  | stuck h1 h2 h3 h4 h5 =>
      exact InPhase.stuck (by rw [hsig, h1]) (by rw [hready, h2]) (by rw [hsnd]; exact h3)
        (by rw [hpc]; exact h4) (by rw [hack, h5])
  | signalled h1 h2 h3 h4 h5 =>
      exact InPhase.signalled (by rw [hsig, h1]) (by rw [hready, h2]) (by rw [hsnd]; exact h3)
        (by rw [hpc]; exact h4) (by rw [hack, h5])
  | ready h1 h2 h3 h4 h5 =>
      exact InPhase.ready (by rw [hsig, h1]) (by rw [hready, h2]) (by rw [hsnd]; exact h3)
        (by rw [hpc]; exact h4) (by rw [hack, h5])
  | written h1 h2 h3 h4 h5 =>
      exact InPhase.written (by rw [hsig, h1]) (by rw [hready, h2]) (by rw [hsnd]; exact h3)
        (by rw [hpc]; exact h4) (by rw [hack, h5])
  | cleared h1 h2 h3 h4 h5 =>
      exact InPhase.cleared (by rw [hsig, h1]) (by rw [hready, h2]) (by rw [hsnd]; exact h3)
        (by rw [hpc]; exact h4) (by rw [hack, h5])

/-- In every phase but `idle` the parent waits with `ack` clear. -/
theorem InPhase.waits (h : InPhase y ph) (hne : ph ≠ .idle) :
    Waits y.gw.pc ∧ y.gw.share.ack = 0 := by
  cases h with
  | idle => exact absurd rfl hne
  | _ => exact ⟨by assumption, by assumption⟩

/-! ## §3. One step. -/

/-- In the wait loop the parent looks at `ack` and changes nothing that the child
reads. -/
theorem mainStep_waits {io : Io} {s s' : Gateway} (hwait : Waits s.pc)
    (h : s.mainStep libc io = some s') :
    s'.share = s.share ∧ s'.childUsr2 = s.childUsr2
      ∧ (s.share.ack = 0 → s' = s) ∧ (s.share.ack ≠ 0 → ¬ AwaitsAck s'.pc) := by
  cases hpc : s.pc with
  | post p stage =>
      cases stage with
      | wait =>
          simp only [Gateway.mainStep, hpc, Gateway.postStep] at h
          split at h
          next hack =>
              rw [← Option.some.inj h]
              exact ⟨rfl, rfl, fun _ => rfl, fun hne => absurd hack hne⟩
          next hack =>
              rw [← Option.some.inj h]
              cases p <;> exact ⟨rfl, rfl, fun h0 => absurd h0 hack, fun _ hw => hw⟩
      | _ =>
          rw [hpc] at hwait
          exact False.elim hwait
  | _ =>
      rw [hpc] at hwait
      exact False.elim hwait

/-- The parent comes to the wait loop by signalling. -/
theorem waits_of_next {pc pc' : Pc} (h : Gateway.Next pc pc') (hwait : Waits pc') :
    Waits pc ∨ ∃ p, pc = .post p .signal := by
  cases h with
  | signal p => exact Or.inr ⟨p, rfl⟩
  | wait p => exact Or.inl trivial
  | _ => exact False.elim hwait

theorem postedBy_eq_nil {io : Io} (h : ∀ p, y.gw.pc ≠ .post p .signal) :
    postedBy y (.parent io) = [] := by
  simp only [postedBy]

/-- Between two texts the parent comes to wait by posting only. -/
theorem not_waits_of_idle {io : Io} {s' : Gateway} (hph : InPhase y .idle)
    (hnot : ∀ p, y.gw.pc ≠ .post p .signal) (hs : y.gw.mainStep libc io = some s') :
    ¬ Waits s'.pc := by
  intro hwait'
  rcases waits_of_next (Gateway.mainStep_frame hs).next hwait' with hwait | ⟨p, hpc⟩
  · -- with `ack` set the wait is over
    cases hph with
    | idle hsig hready hsnd hacked hclear =>
        exact (mainStep_waits hwait hs).2.2.2 (hacked hwait) (awaitsAck_of_waits hwait')
  · exact hnot p hpc

/-- A step of the parent that posts nothing, between two texts. -/
theorem parent_idle {io : Io} {s' : Gateway} (hph : InPhase y .idle)
    (hnot : ∀ p, y.gw.pc ≠ .post p .signal) (hs : y.gw.mainStep libc io = some s') :
    InPhase { y with gw := s' } .idle := by
  have hframe := Gateway.mainStep_frame hs
  have hsig' := hframe.childUsr2 hnot
  have hwait' := not_waits_of_idle hph hnot hs
  cases hph with
  | idle hsig hready hsnd hacked hclear =>
      refine InPhase.idle (hsig'.trans hsig) hready hsnd (fun h => absurd h hwait') ?_
      intro haw' _
      by_cases hwait : Waits y.gw.pc
      · exact absurd haw' ((mainStep_waits hwait hs).2.2.2 (hacked hwait))
      · by_cases hzero : ∃ p, y.gw.pc = .post p .clearAck
        · obtain ⟨p, hpc⟩ := hzero
          simp only [Gateway.mainStep, hpc, Gateway.postStep] at hs
          rw [← Option.some.inj hs]
        · rcases awaitsAck_of_next hframe.next haw' with haw | hnew
          · show s'.share.ack = 0
            rw [hframe.ack (fun p hpc => hzero ⟨p, hpc⟩)]
            exact hclear haw hwait
          · exact absurd hnew hzero

theorem parent_phase {io : Io} {s' : Gateway} (hph : InPhase y ph)
    (hs : y.gw.mainStep libc io = some s') :
    ∃ ph', InPhase { y with gw := s' } ph' ∧ Handed y (.parent io) { y with gw := s' } ph ph' := by
  by_cases hidle : ph = .idle
  · rw [hidle] at hph ⊢
    by_cases hpost : ∃ p, y.gw.pc = .post p .signal
    · obtain ⟨p, hpc⟩ := hpost
      simp only [Gateway.mainStep, hpc, Gateway.postStep] at hs
      rw [← Option.some.inj hs]
      cases hph with
      | idle hsig hready hsnd hacked hclear =>
          -- `ack` was cleared before, and nobody has set it since
          have hack : y.gw.share.ack = 0 := by
            apply hclear
            · rw [hpc]
              cases p <;> trivial
            · rw [hpc]
              exact id
          refine ⟨.signalled, InPhase.signalled rfl hready hsnd trivial hack, ?_⟩
          exact Handed.post (by simp [postedBy, hpc]) rfl rfl
    · have hnot : ∀ p, y.gw.pc ≠ .post p .signal := fun p hpc => hpost ⟨p, hpc⟩
      refine ⟨.idle, parent_idle hph hnot hs, Handed.keep .idle (postedBy_eq_nil hnot) ?_ rfl⟩
      intro hwait'
      exact absurd hwait' (not_waits_of_idle hph hnot hs)
  · -- the parent waits, and `ack` is still clear
    obtain ⟨hwait, hack⟩ := hph.waits hidle
    obtain rfl := (mainStep_waits hwait hs).2.2.1 hack
    refine ⟨ph, hph, Handed.keep ph (postedBy_eq_nil ?_) (fun _ => rfl) rfl⟩
    intro p hpc
    rw [hpc] at hwait
    exact hwait

/-- A sender with nothing in hand goes on looking, and takes a text when the flag is
set. -/
theorem InPhase.looks {pc : SndPc} (h : InPhase y ph) (hrest : Resting y.child.snd)
    (hpc : Resting pc ∨ (y.child.readyFlag = true ∧ pc = .write)) : InPhase (y.atSnd pc) ph := by
  have hclear : y.child.readyFlag = false → Resting pc := by
    intro hready
    rcases hpc with hr | ⟨hset, -⟩
    · exact hr
    · exact absurd (hready.symm.trans hset) (by simp)
  cases h with
  | idle h1 h2 _ h4 h5 => exact InPhase.idle h1 h2 (hclear h2) h4 h5
  | stuck h1 h2 _ h4 h5 => exact InPhase.stuck h1 h2 (hclear h2) h4 h5
  | signalled h1 h2 _ h4 h5 => exact InPhase.signalled h1 h2 (hclear h2) h4 h5
  | ready h1 h2 _ h4 h5 => exact InPhase.ready h1 h2 (hpc.imp_right (fun h => h.2)) h4 h5
  | written _ _ hsnd _ _ =>
      rw [hsnd] at hrest
      exact False.elim hrest
  | cleared _ _ hsnd _ _ =>
      rcases hsnd with hs | ha
      · rw [hs] at hrest
        exact False.elim hrest
      · rw [ha] at hrest
        exact False.elim hrest

theorem accept_phase (hlive : Live y.child) (hph : InPhase y ph) (hs : y.acceptStep = some y') :
    InPhase y' ph ∧ Handed y .accept y' ph ph := by
  cases acceptStep_cases hs with
  | createSnd hpc =>
      -- a new sender rests, as no sender does
      have hended : y.child.snd = .ended := by
        cases hlive with
        | opening haccept hsnd hrecv => exact hsnd
        | created haccept => simp [hpc] at haccept
        | talking haccept => simp [hpc] at haccept
      have hlooks : InPhase (y.atSnd .test) ph :=
        hph.looks (by rw [hended]; trivial) (Or.inl trivial)
      exact ⟨hlooks.of_eq rfl rfl rfl rfl rfl, Handed.keep ph rfl (fun _ => rfl) rfl⟩
  | _ hpc =>
      exact ⟨hph.of_eq rfl rfl rfl rfl rfl, Handed.keep ph rfl (fun _ => rfl) rfl⟩

/-- What the sender has in hand tells the phase. -/
theorem InPhase.of_snd (h : InPhase y ph) :
    match y.child.snd with
    | .write => ph = .ready
    | .clearReady => ph = .written
    | .sleep | .setAck => ph = .cleared
    | _ => True := by
  have hrest : Resting y.child.snd → match y.child.snd with
      | .write => ph = .ready
      | .clearReady => ph = .written
      | .sleep | .setAck => ph = .cleared
      | _ => True := by
    intro hr
    cases hsnd : y.child.snd with
    | ended => trivial
    | test => trivial
    | nap => trivial
    | _ =>
        rw [hsnd] at hr
        exact False.elim hr
  cases h with
  | idle _ _ hsnd _ _ => exact hrest hsnd
  | stuck _ _ hsnd _ _ => exact hrest hsnd
  | signalled _ _ hsnd _ _ => exact hrest hsnd
  | ready _ _ hsnd _ _ =>
      rcases hsnd with hr | hw
      · exact hrest hr
      · rw [hw]
  | written _ _ hsnd _ _ => rw [hsnd]
  | cleared _ _ hsnd _ _ =>
      rcases hsnd with hs | ha
      · rw [hs]
      · rw [ha]

theorem snd_phase (hnot : y.child.cancelled = false) (hph : InPhase y ph)
    (hs : y.sndStep = some y') : ∃ ph', InPhase y' ph' ∧ Handed y .snd y' ph ph' := by
  have hplace := hph.of_snd
  cases sndStep_cases hs with
  | test hpc =>
      refine ⟨ph, hph.looks (by rw [hpc]; trivial) ?_, Handed.keep ph rfl (fun _ => rfl) rfl⟩
      cases y.child.readyFlag with
      | true => exact Or.inr ⟨rfl, rfl⟩
      | false => exact Or.inl trivial
  | stop hpc hcancelled => exact absurd (hnot.symm.trans hcancelled) (by simp)
  | write hpc hcancelled =>
      simp only [hpc] at hplace
      subst hplace
      cases hph with
      | ready h1 h2 _ h4 h5 =>
          exact ⟨.written, InPhase.written h1 h2 rfl h4 h5, Handed.write rfl rfl rfl⟩
  | clearReady hpc =>
      simp only [hpc] at hplace
      subst hplace
      cases hph with
      | written h1 _ _ h4 h5 =>
          exact ⟨.cleared, InPhase.cleared h1 rfl (Or.inl rfl) h4 h5, Handed.clear rfl rfl rfl⟩
  | sleep hpc =>
      simp only [hpc] at hplace
      subst hplace
      cases hph with
      | cleared h1 h2 _ h4 h5 =>
          refine ⟨.cleared, InPhase.cleared h1 h2 (Or.inr ?_) h4 h5,
            Handed.keep .cleared rfl (fun _ => rfl) rfl⟩
          simp [System.atSnd, hnot]
  | setAck hpc =>
      simp only [hpc] at hplace
      subst hplace
      cases hph with
      | cleared h1 h2 _ h4 _ =>
          -- the parent stands in the wait loop: it sees this `ack`
          refine ⟨.idle, InPhase.idle h1 h2 trivial (fun _ => ?_) (fun _ hno => absurd h4 hno),
            Handed.acknowledge rfl rfl rfl⟩
          show (1 : UInt8) ≠ 0
          decide
  | nap hpc =>
      refine ⟨ph, hph.looks (by rw [hpc]; trivial) (Or.inl ?_),
        Handed.keep ph rfl (fun _ => rfl) rfl⟩
      rw [hnot]
      trivial

/-- A sender that runs in an open connection has not been cancelled. -/
theorem Live.not_cancelled (h : Live y.child) (hs : y.sndStep = some y') :
    y.child.cancelled = false := by
  cases h with
  | opening haccept hsnd hrecv => simp [System.sndStep, hsnd] at hs
  | created haccept hsnd hnot hrecv => exact hnot
  | talking haccept hsnd hnot hrecv => exact hnot

theorem recv_phase {input : Input} (hlive : Live y.child) (hstay : Stays y (.recv input))
    (hph : InPhase y ph) (hs : y.recvStep input = some y') :
    InPhase y' ph ∧ Handed y (.recv input) y' ph ph := by
  cases hlive with
  | opening haccept hsnd hrecv => exact absurd hrecv (recvStep_live hs).1
  | created haccept hsnd hnot hrecv => exact absurd hrecv (recvStep_live hs).1
  | talking haccept hsnd hnot hrecv =>
      obtain ⟨recv, usr2, share, -, hack, hdata, rfl⟩ := recv_frame hrecv hstay hs
      exact ⟨hph.of_eq rfl hack rfl rfl rfl, Handed.keep ph rfl (fun _ => hdata) rfl⟩

/-- **One step of the system takes the text one phase on, or leaves it where it is**,
as long as the connection is open. -/
theorem phase_step {m : Move} (hlive : Live y.child) (hstay : Stays y m) (hph : InPhase y ph)
    (hs : sysStep libc y m = some y') : ∃ ph', InPhase y' ph' ∧ Handed y m y' ph ph' := by
  cases sysStep_cases hs with
  | parent io s' hs' => exact parent_phase hph hs'
  | packet p =>
      exact ⟨ph, hph.of_eq rfl rfl rfl rfl rfl, Handed.keep ph rfl (fun _ => rfl) rfl⟩
  | parentUsr2 hsent =>
      exact ⟨ph, hph.of_eq rfl rfl rfl rfl rfl, Handed.keep ph rfl (fun _ => rfl) rfl⟩
  | childUsr2 hsent =>
      cases hph with
      | signalled h1 h2 h3 h4 h5 =>
          exact ⟨.ready, InPhase.ready rfl rfl (Or.inl h3) h4 h5, Handed.deliver rfl rfl rfl⟩
      | _ h1 => exact absurd (h1.symm.trans hsent) (by simp)
  | accept _ hs' =>
      obtain ⟨h1, h2⟩ := accept_phase hlive hph hs'
      exact ⟨ph, h1, h2⟩
  | recv input _ hs' =>
      obtain ⟨h1, h2⟩ := recv_phase hlive hstay hph hs'
      exact ⟨ph, h1, h2⟩
  | snd _ hs' => exact snd_phase (hlive.not_cancelled hs') hph hs'

end Phases

/-! ## §4. Runs. -/

/-- The system, and the texts posted since the start. -/
structure Talk where
  sys : System
  posted : List (List UInt8)

/-- The system, with its posts recorded. -/
def talkStep (libc : Libc) (t : Talk) (m : Move) : Option Talk :=
  (sysStep libc t.sys m).map (fun y => ⟨y, t.posted ++ postedBy t.sys m⟩)

/-- A connection that is open, with `ready_flag` clear, while the parent does not wait. -/
structure Begins (y : System) : Prop where
  live : Live y.child
  ready : y.child.readyFlag = false
  idle : ¬ Waits y.gw.pc

/-- Besides, nothing of an earlier connection is under way: the sender has no text in
hand, no SIGUSR2 is on its way to the child, and where the parent has cleared `ack` for a
text that it has not signalled yet, `ack` is clear still. -/
structure Opened (y : System) : Prop extends Begins y where
  sender : Resting y.child.snd
  signal : y.gw.childUsr2 = false
  ack : AwaitsAck y.gw.pc → y.gw.share.ack = 0

/-- The text that is posted and not written yet. -/
def outstanding (ph : Phase) (data : List UInt8) : List (List UInt8) :=
  match ph with
  | .signalled | .ready => [data]
  | _ => []

/-- The socket has taken `written` since the start, and the texts posted are these
and the outstanding one. -/
structure HandsOver (y₀ : System) (ph : Phase) (written : List (List UInt8)) (t : Talk) : Prop where
  live : Live t.sys.child
  phase : InPhase t.sys ph
  communication : t.sys.child.communication = y₀.child.communication
  socket : t.sys.child.socket
    = y₀.child.socket ++ written.map (fun text => (y₀.child.communication, text))
  posted : t.posted = written ++ outstanding ph t.sys.gw.share.dataToSend

/-- An open connection keeps its number. -/
theorem communication_eq {libc : Libc} {y y' : System} {m : Move} (hlive : Live y.child)
    (hs : sysStep libc y m = some y') : y'.child.communication = y.child.communication := by
  cases sysStep_cases hs with
  | accept _ hs' =>
      cases acceptStep_cases hs' with
      | accept hpc =>
          cases hlive with
          | opening haccept => simp [Connecting, hpc] at haccept
          | created haccept => simp [hpc] at haccept
          | talking haccept => simp [hpc] at haccept
      | _ => rfl
  | recv input _ hs' => cases recvStep_cases hs' <;> rfl
  | snd _ hs' => cases sndStep_cases hs' <;> rfl
  | _ => rfl

/-- One step of the accounting: `written` grows by the text that is written. -/
theorem handsOver_step {libc : Libc} {y₀ : System} {ph : Phase} {written : List (List UInt8)}
    {t t' : Talk} {m : Move} (hinv : HandsOver y₀ ph written t) (hstay : Stays t.sys m)
    (hs : talkStep libc t m = some t') : ∃ ph' written', HandsOver y₀ ph' written' t' := by
  obtain ⟨hlive, hphase, hcomm, hsocket, hposted⟩ := hinv
  obtain ⟨y', hy, rfl⟩ := Option.map_eq_some_iff.mp hs
  have hlive' := live_step hlive hstay hy
  have hcomm' := (communication_eq hlive hy).trans hcomm
  obtain ⟨ph', hphase', hhand⟩ := phase_step hlive hstay hphase hy
  cases hhand with
  | post hpost hdata hsame =>
      refine ⟨.signalled, written, hlive', hphase', hcomm', hsame.trans hsocket, ?_⟩
      show t.posted ++ postedBy t.sys m = written ++ [y'.gw.share.dataToSend]
      rw [hpost, hposted, hdata]
      simp [outstanding]
  | keep _ hpost hdata hsame =>
      refine ⟨ph, written, hlive', hphase', hcomm', hsame.trans hsocket, ?_⟩
      show t.posted ++ postedBy t.sys m = written ++ outstanding ph y'.gw.share.dataToSend
      rw [hpost, List.append_nil, hposted]
      by_cases hidle : ph = .idle
      · rw [hidle]
        rfl
      · rw [hdata (hphase'.waits hidle).1]
  | write hpost hdata hsame =>
      -- the outstanding text is the one that the socket takes
      refine ⟨.written, written ++ [t.sys.gw.share.dataToSend], hlive', hphase', hcomm', ?_, ?_⟩
      · show y'.child.socket = _
        rw [hsame, hsocket, hcomm, List.map_append, List.append_assoc]
        rfl
      · show t.posted ++ postedBy t.sys m = _
        rw [hpost, List.append_nil, hposted]
        simp [outstanding]
  | deliver hpost hdata hsame =>
      refine ⟨.ready, written, hlive', hphase', hcomm', hsame.trans hsocket, ?_⟩
      show t.posted ++ postedBy t.sys m = written ++ [y'.gw.share.dataToSend]
      rw [hpost, List.append_nil, hposted, hdata]
      rfl
  | clear hpost hdata hsame =>
      refine ⟨.cleared, written, hlive', hphase', hcomm', hsame.trans hsocket, ?_⟩
      show t.posted ++ postedBy t.sys m = _
      rw [hpost, List.append_nil, hposted]
      rfl
  | acknowledge hpost hdata hsame =>
      refine ⟨.idle, written, hlive', hphase', hcomm', hsame.trans hsocket, ?_⟩
      show t.posted ++ postedBy t.sys m = _
      rw [hpost, List.append_nil, hposted]
      rfl

/-- **EXACTLY-ONCE HAND-OVER WITHIN A CONNECTION.**  As long as the client stays,
what the socket has taken is a prefix of what the parent has posted, at most one
text behind, and all of it whenever the parent does not wait. -/
theorem handed_over_once {libc : Libc} {y₀ : System} (h0 : Opened y₀) {t : Talk}
    (h : Reach (talkStep libc) (fun t m => Stays t.sys m) ⟨y₀, []⟩ t) :
    ∃ written, t.sys.child.socket
        = y₀.child.socket ++ written.map (fun text => (y₀.child.communication, text))
      ∧ written <+: t.posted ∧ t.posted.length ≤ written.length + 1
      ∧ (¬ Waits t.sys.gw.pc → written = t.posted) := by
  have hstart : HandsOver y₀ .idle [] ⟨y₀, []⟩ := by
    refine ⟨h0.live, ?_, rfl, (List.append_nil _).symm, rfl⟩
    exact InPhase.idle h0.signal h0.ready h0.sender (fun hwait => absurd hwait h0.idle)
      (fun haw _ => h0.ack haw)
  obtain ⟨ph, written, hinv⟩ : ∃ ph written, HandsOver y₀ ph written t :=
    Reach.invariant (P := fun t => ∃ ph written, HandsOver y₀ ph written t) ⟨_, _, hstart⟩
      (fun _ _ _ hi hstay hs => by
        obtain ⟨ph, written, hi⟩ := hi
        exact handsOver_step hi hstay hs) h
  refine ⟨written, hinv.socket, ?_, ?_, ?_⟩
  · rw [hinv.posted]
    exact List.prefix_append _ _
  · rw [hinv.posted, List.length_append]
    cases ph <;> simp [outstanding]
  · intro hidle
    rw [hinv.posted]
    have hph : ph = .idle := by
      by_contra hne
      exact hidle (hinv.phase.waits hne).1
    rw [hph]
    exact (List.append_nil written).symm

/-- A gateway with one node and its first client, whose connection has just been accepted. -/
def firstConnection : System :=
  ⟨startWith [7], false, ⟨.storeGot, .ended, .ended, false, false, 1, []⟩⟩

theorem firstConnection_opened : Opened firstConnection where
  live := Live.opening (Or.inl rfl) rfl rfl
  ready := rfl
  idle := id
  sender := trivial
  signal := rfl
  ack := fun haw => False.elim haw

/-- The first text of the connection, `"0 7"`, on its way: posted, and written. -/
def listsNode : List Move :=
  List.replicate 4 .accept ++ [.parentUsr2] ++ parents 10 ++ [.childUsr2, .snd, .snd]

/-- A client that sends nothing stays. -/
def silent : Move → Bool
  | .recv _ => false
  | _ => true

theorem stays_of_silent {y : System} {m : Move} (h : silent m = true) : Stays y m := by
  cases m with
  | recv input => exact absurd h (by simp [silent])
  | _ => trivial

/-- The first text of the node list has been posted and written, and the parent
still waits. -/
theorem handed_over_first_text :
    ∃ t, Reach (talkStep sampleLibc) (fun t m => Stays t.sys m) ⟨firstConnection, []⟩ t
      ∧ Waits t.sys.gw.pc ∧ t.posted = [codeText Code.addDevice 7]
      ∧ t.sys.child.socket = [(1, codeText Code.addDevice 7)]
      ∧ ∃ written, t.sys.child.socket
          = firstConnection.child.socket
            ++ written.map (fun text => (firstConnection.child.communication, text))
        ∧ written <+: t.posted ∧ t.posted.length ≤ written.length + 1
        ∧ (¬ Waits t.sys.gw.pc → written = t.posted) := by
  have hrun : (run (only (talkStep sampleLibc) (fun _ m => silent m)) ⟨firstConnection, []⟩
      listsNode).map (fun t => (t.sys.gw.pc, t.posted, t.sys.child.socket))
      = some (.post (.nodeList 0) .wait, [codeText Code.addDevice 7],
        [(1, codeText Code.addDevice 7)]) := by decide +kernel
  obtain ⟨t, ht, hfields⟩ := Option.map_eq_some_iff.mp hrun
  simp only [Prod.mk.injEq] at hfields
  obtain ⟨hpc, hposted, hsocket⟩ := hfields
  have hreach := (reach_of_run _ ht).mono (fun t _ h => stays_of_silent (y := t.sys) h)
  refine ⟨t, hreach, ?_, hposted, hsocket, handed_over_once firstConnection_opened hreach⟩
  rw [hpc]
  trivial

/-- Nodes 5 and 6, and no client. -/
def twoNodeSystem : System :=
  ⟨startWith [5, 6], false, ⟨.accept, .ended, .ended, false, false, 0, []⟩⟩

/-- The first client closes its connection when `ack` is cleared for the list and SIGUSR2 is
not sent yet, and the next one is accepted. -/
def replacesClient : List Move :=
  List.replicate 5 .accept ++ [.parentUsr2] ++ parents 8 ++ List.replicate 4 (.recv .eof)
    ++ [.snd, .snd] ++ List.replicate 5 .accept

/-- The list goes on, and the sender of the new client writes. -/
def listsOn : List Move :=
  parents 6 ++ [.childUsr2] ++ List.replicate 3 .accept ++ List.replicate 5 .snd ++ parents 1

/-- **The first text of the list is overwritten before it is written**: the `ack = 1` for the
client that has gone is still there when the parent signals for the next one. -/
theorem text_overwritten :
    ∃ y₀ t, twoNodeSystem.Started ∧ Reach (sysStep sampleLibc) Any twoNodeSystem y₀ ∧ Begins y₀
      ∧ Reach (talkStep sampleLibc) (fun t m => Stays t.sys m) ⟨y₀, []⟩ t
      ∧ t.posted = [codeText Code.addDevice 5, codeText Code.addDevice 6]
      ∧ t.sys.child.socket
        = y₀.child.socket ++ [(y₀.child.communication, codeText Code.addDevice 6)]
      ∧ ¬ Waits t.sys.gw.pc
      ∧ ¬ ∃ written, t.sys.child.socket
            = y₀.child.socket ++ written.map (fun text => (y₀.child.communication, text))
          ∧ written <+: t.posted ∧ t.posted.length ≤ written.length + 1
          ∧ (¬ Waits t.sys.gw.pc → written = t.posted) := by
  have hbefore : (run (sysStep sampleLibc) twoNodeSystem replacesClient).map
      (fun y => (y.gw.pc, y.child))
      = some (.post (.nodeList 0) .signal, ⟨.storeGot, .ended, .ended, true, false, 2, []⟩) := by
    decide +kernel
  obtain ⟨y₀, hy₀, hfields⟩ := Option.map_eq_some_iff.mp hbefore
  simp only [Prod.mk.injEq] at hfields
  obtain ⟨hpc, hchild⟩ := hfields
  have hafter : (run (sysStep sampleLibc) twoNodeSystem replacesClient).bind (fun y =>
        (run (only (talkStep sampleLibc) (fun _ m => silent m)) ⟨y, []⟩ listsOn).map
          (fun t => (t.sys.gw.pc, t.posted, t.sys.child.socket)))
      = some (.scanList 2, [codeText Code.addDevice 5, codeText Code.addDevice 6],
        [(2, codeText Code.addDevice 6)]) := by
    decide +kernel
  rw [hy₀, Option.bind_some] at hafter
  obtain ⟨t, ht, hfields⟩ := Option.map_eq_some_iff.mp hafter
  simp only [Prod.mk.injEq] at hfields
  obtain ⟨hpc', hposted, hsocket'⟩ := hfields
  have hgoes : ¬ Waits t.sys.gw.pc := by
    rw [hpc']
    exact id
  refine ⟨y₀, t, ⟨startWith_started _, rfl, rfl, rfl, rfl, rfl⟩, reach_any_of_run _ hy₀,
    ⟨by rw [hchild]; exact Live.opening (Or.inl rfl) rfl rfl, by rw [hchild],
      by rw [hpc]; exact id⟩,
    (reach_of_run _ ht).mono (fun t _ h => stays_of_silent (y := t.sys) h), hposted, ?_, hgoes, ?_⟩
  · rw [hsocket', hchild]
    rfl
  · -- one text has been written, and two have been posted
    rintro ⟨written, hwritten, -, -, hall⟩
    rw [hsocket', hchild, hall hgoes, hposted] at hwritten
    have hlen := congrArg List.length hwritten
    simp at hlen

end LoRaGateway
