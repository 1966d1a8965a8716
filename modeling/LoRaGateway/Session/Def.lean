/-
  LoRaGateway.Session.Def
  ───────────────────────
  **PARENT AND CHILD TOGETHER**: the gateway, and the child process with its
  three threads — the accept loop of `main`, `recv_msg` and `send_msg`.

  A step of the system is one shared-memory access, one signal or one thread
  operation of one of them.  A signal that is sent twice before it is delivered
  is delivered once.  `pthread_cancel` takes effect where the thread is cancelled
  by the next cancellation point: `write` and `sleep`.

  The client is outside: it connects whenever the child accepts, and `read` gives
  what it likes.
-/
import LoRaGateway.Session.Command
import LoRaGateway.MainLoop.Frame

namespace LoRaGateway

open LoRaGateway.Lib

/-! ## §1. The child. -/

/-- The accept loop. -/
inductive AcceptPc where
  | accept
  | storeGot
  | killGot
  | createSnd
  | createRecv
  | joinSnd
  | joinRecv
  | storeCtl
  | killCtl
  deriving DecidableEq

/-- `recv_msg`; `ended` before the thread is created and after it has ended. -/
inductive RecvPc where
  | ended
  | read
  | ops (rest : List ChildOp)
  | exitCancel
  | eofCancel
  | eofAck
  | close
  deriving DecidableEq

/-- `send_msg`. -/
inductive SndPc where
  | ended
  | test
  | write
  | clearReady
  | sleep
  | setAck
  /-- `sleep(0.1)`, which is `sleep(0)` -/
  | nap
  deriving DecidableEq

/-- The child process.  The texts written to the socket are kept with the number
of the connection. -/
structure Child where
  accept : AcceptPc
  recv : RecvPc
  snd : SndPc
  /-- `pthread_cancel(snd)` has been called -/
  cancelled : Bool
  readyFlag : Bool
  communication : Nat
  socket : List (Nat × List UInt8)
  deriving DecidableEq

/-- Both processes, and whether SIGUSR2 is on its way to the parent (the way to
the child is `Gateway.childUsr2`). -/
structure System where
  gw : Gateway
  usr2 : Bool
  child : Child
  deriving DecidableEq

/-- What `read` gives: the client has closed, or some bytes (none when `read` fails). -/
inductive Input where
  | eof
  | data (bytes : List UInt8)

namespace System

/-! ## §2. The threads. -/

/-- A store into the shared memory. -/
def setShare (y : System) (d : DeviceCommand) : System := { y with gw := { y.gw with share := d } }

/-- The accepting thread is at `pc`. -/
def atAccept (y : System) (pc : AcceptPc) : System := { y with child := { y.child with accept := pc } }

/-- The receiving thread is at `pc`. -/
def atRecv (y : System) (pc : RecvPc) : System := { y with child := { y.child with recv := pc } }

/-- The sending thread is at `pc`. -/
def atSnd (y : System) (pc : SndPc) : System := { y with child := { y.child with snd := pc } }

/-- `pthread_cancel(snd)`. -/
def cancelSnd (y : System) : System := { y with child := { y.child with cancelled := true } }

/-- The accept loop; `pthread_join` waits until the thread has ended. -/
def acceptStep (y : System) : Option System :=
  match y.child.accept with
  | .accept =>
      let communication := y.child.communication + 1
      some ({ y with child := { y.child with communication := communication } }.atAccept .storeGot)
  | .storeGot => some ((y.setShare { y.gw.share with request := Code.gotSock }).atAccept .killGot)
  | .killGot => some ({ y with usr2 := true }.atAccept .createSnd)
  | .createSnd =>
      some ({ y with child := { y.child with snd := .test, cancelled := false } }.atAccept .createRecv)
  | .createRecv => some ((y.atRecv .read).atAccept .joinSnd)
  | .joinSnd => if y.child.snd = .ended then some (y.atAccept .joinRecv) else none
  | .joinRecv => if y.child.recv = .ended then some (y.atAccept .storeCtl) else none
  | .storeCtl => some ((y.setShare { y.gw.share with request := Code.ctlSock }).atAccept .killCtl)
  | .killCtl => some ({ y with usr2 := true }.atAccept .accept)

/-- One operation of `recv_msg`. -/
def opStep (y : System) (rest : List ChildOp) : ChildOp → Option System
  | .store w => some ((y.setShare (w.apply y.gw.share)).atRecv (.ops rest))
  | .kill _ => some ({ y with usr2 := true }.atRecv (.ops rest))
  | .crash => none

/-- One step of the receiving thread. -/
def recvStep (y : System) (input : Input) : Option System :=
  match y.child.recv with
  | .ended => none
  | .read =>
      match input with
      | .eof => some (y.atRecv .eofCancel)
      | .data bytes =>
          match recvMsg bytes with
          | none => none
          | some .exit => some (y.atRecv .exitCancel)
          | some (.message ops) => some (y.atRecv (.ops ops))
  | .ops [] => some (y.atRecv .read)
  | .ops (op :: rest) => y.opStep rest op
  | .exitCancel => some (y.cancelSnd.atRecv .close)
  | .eofCancel => some (y.cancelSnd.atRecv .eofAck)
  | .eofAck => some ((y.setShare { y.gw.share with ack := 1 }).atRecv .close)
  | .close => some (y.atRecv .ended)

/-- `send_msg`.  A cancelled sender ends at `write` and `sleep`. -/
def sndStep (y : System) : Option System :=
  match y.child.snd with
  | .ended => none
  | .test => some (y.atSnd (if y.child.readyFlag then .write else .nap))
  | .write =>
      -- `write` is a cancellation point
      if y.child.cancelled then some (y.atSnd .ended)
      else
        let socket := y.child.socket ++ [(y.child.communication, y.gw.share.dataToSend)]
        some ({ y with child := { y.child with socket := socket } }.atSnd .clearReady)
  | .clearReady => some ({ y with child := { y.child with readyFlag := false } }.atSnd .sleep)
  | .sleep => some (y.atSnd (if y.child.cancelled then .ended else .setAck))
  | .setAck => some ((y.setShare { y.gw.share with ack := 1 }).atSnd .test)
  | .nap => some (y.atSnd (if y.child.cancelled then .ended else .test))

end System

/-! ## §3. A step of the system. -/

/-- Whose turn it is. -/
inductive Move where
  | parent (io : Io)
  | packet (p : List UInt8)
  /-- the parent's handler of SIGUSR2 -/
  | parentUsr2
  /-- the child's handler of SIGUSR2 -/
  | childUsr2
  | accept
  | recv (input : Input)
  | snd

/-- One step of somebody. -/
def sysStep (libc : Libc) (y : System) : Move → Option System
  | .parent io => (y.gw.mainStep libc io).map (fun s => { y with gw := s })
  | .packet p => (y.gw.packetStep p).map (fun s => { y with gw := s })
  | .parentUsr2 =>
      if y.usr2 then some { y with usr2 := false, gw := { y.gw with socketFlag := true } } else none
  | .childUsr2 =>
      if y.gw.childUsr2 then
        some { y with
          gw := { y.gw with childUsr2 := false }
          child := { y.child with readyFlag := true } }
      else none
  | .accept => y.acceptStep
  | .recv input => y.recvStep input
  | .snd => y.sndStep

/-- Both processes before the first connection. -/
structure System.Started (y : System) : Prop where
  gw : y.gw.Started
  socketFlag : y.gw.socketFlag = false
  usr2 : y.usr2 = false
  accept : y.child.accept = .accept
  recv : y.child.recv = .ended
  snd : y.child.snd = .ended

/-! ## §4. What each thread does, case by case. -/

/-- The steps of the accept loop. -/
inductive System.Accepts (y : System) : System → Prop where
  | accept (hpc : y.child.accept = .accept) :
      System.Accepts y ({ y with
        child := { y.child with communication := y.child.communication + 1 } }.atAccept .storeGot)
  | storeGot (hpc : y.child.accept = .storeGot) :
      System.Accepts y ((y.setShare { y.gw.share with request := Code.gotSock }).atAccept .killGot)
  | killGot (hpc : y.child.accept = .killGot) :
      System.Accepts y ({ y with usr2 := true }.atAccept .createSnd)
  | createSnd (hpc : y.child.accept = .createSnd) :
      System.Accepts y ({ y with
        child := { y.child with snd := .test, cancelled := false } }.atAccept .createRecv)
  | createRecv (hpc : y.child.accept = .createRecv) :
      System.Accepts y ((y.atRecv .read).atAccept .joinSnd)
  | joinSnd (hpc : y.child.accept = .joinSnd) (hended : y.child.snd = .ended) :
      System.Accepts y (y.atAccept .joinRecv)
  | joinRecv (hpc : y.child.accept = .joinRecv) (hended : y.child.recv = .ended) :
      System.Accepts y (y.atAccept .storeCtl)
  | storeCtl (hpc : y.child.accept = .storeCtl) :
      System.Accepts y ((y.setShare { y.gw.share with request := Code.ctlSock }).atAccept .killCtl)
  | killCtl (hpc : y.child.accept = .killCtl) :
      System.Accepts y ({ y with usr2 := true }.atAccept .accept)

/-- The steps of the receiver. -/
inductive System.Receives (y : System) : System → Prop where
  | eof (hpc : y.child.recv = .read) : System.Receives y (y.atRecv .eofCancel)
  | exit (hpc : y.child.recv = .read) : System.Receives y (y.atRecv .exitCancel)
  | message (hpc : y.child.recv = .read) (bytes : List UInt8) (ops : List ChildOp)
      (hmsg : recvMsg bytes = some (.message ops)) : System.Receives y (y.atRecv (.ops ops))
  | done (hpc : y.child.recv = .ops []) : System.Receives y (y.atRecv .read)
  | store (w : Store) (rest : List ChildOp) (hpc : y.child.recv = .ops (.store w :: rest)) :
      System.Receives y ((y.setShare (w.apply y.gw.share)).atRecv (.ops rest))
  | kill (o : Order) (rest : List ChildOp) (hpc : y.child.recv = .ops (.kill o :: rest)) :
      System.Receives y ({ y with usr2 := true }.atRecv (.ops rest))
  | exitCancel (hpc : y.child.recv = .exitCancel) : System.Receives y (y.cancelSnd.atRecv .close)
  | eofCancel (hpc : y.child.recv = .eofCancel) : System.Receives y (y.cancelSnd.atRecv .eofAck)
  | eofAck (hpc : y.child.recv = .eofAck) :
      System.Receives y ((y.setShare { y.gw.share with ack := 1 }).atRecv .close)
  | close (hpc : y.child.recv = .close) : System.Receives y (y.atRecv .ended)

/-- The steps of the sender. -/
inductive System.Sends (y : System) : System → Prop where
  | test (hpc : y.child.snd = .test) :
      System.Sends y (y.atSnd (if y.child.readyFlag then .write else .nap))
  | stop (hpc : y.child.snd = .write) (hcancelled : y.child.cancelled = true) :
      System.Sends y (y.atSnd .ended)
  | write (hpc : y.child.snd = .write) (hcancelled : y.child.cancelled = false) :
      System.Sends y ({ y with
        child := { y.child with
          socket := y.child.socket ++ [(y.child.communication, y.gw.share.dataToSend)] }
        }.atSnd .clearReady)
  | clearReady (hpc : y.child.snd = .clearReady) :
      System.Sends y ({ y with child := { y.child with readyFlag := false } }.atSnd .sleep)
  | sleep (hpc : y.child.snd = .sleep) :
      System.Sends y (y.atSnd (if y.child.cancelled then .ended else .setAck))
  | setAck (hpc : y.child.snd = .setAck) :
      System.Sends y ((y.setShare { y.gw.share with ack := 1 }).atSnd .test)
  | nap (hpc : y.child.snd = .nap) :
      System.Sends y (y.atSnd (if y.child.cancelled then .ended else .test))

/-- A step of the system is one of the parent, an event outside it, or one of a
thread of the child. -/
inductive System.Steps (libc : Libc) (y : System) : Move → System → Prop where
  | parent (io : Io) (s' : Gateway) (hs : y.gw.mainStep libc io = some s') :
      System.Steps libc y (.parent io) { y with gw := s' }
  | packet (p : List UInt8) (dev : LoRaDev) (rxSig usr1Pending : Bool) :
      System.Steps libc y (.packet p) { y with
        gw := { y.gw with dev := dev, rxSig := rxSig, usr1Pending := usr1Pending } }
  | parentUsr2 (hsent : y.usr2 = true) :
      System.Steps libc y .parentUsr2 { y with
        usr2 := false, gw := { y.gw with socketFlag := true } }
  | childUsr2 (hsent : y.gw.childUsr2 = true) :
      System.Steps libc y .childUsr2 { y with
        gw := { y.gw with childUsr2 := false }, child := { y.child with readyFlag := true } }
  | accept (y' : System) (hs : y.acceptStep = some y') : System.Steps libc y .accept y'
  | recv (input : Input) (y' : System) (hs : y.recvStep input = some y') :
      System.Steps libc y (.recv input) y'
  | snd (y' : System) (hs : y.sndStep = some y') : System.Steps libc y .snd y'

section Cases

variable {y y' : System}

theorem sysStep_cases {libc : Libc} {m : Move} (h : sysStep libc y m = some y') :
    y.Steps libc m y' := by
  cases m with
  | parent io =>
      obtain ⟨s', hs, rfl⟩ := Option.map_eq_some_iff.mp h
      exact System.Steps.parent io s' hs
  | packet p =>
      obtain ⟨s', hs, rfl⟩ := Option.map_eq_some_iff.mp h
      obtain ⟨dev, signalled, -, rfl⟩ := Gateway.packetStep_spec hs
      exact System.Steps.packet p _ _ _
  | parentUsr2 =>
      simp only [sysStep] at h
      split at h
      next hsent =>
          rw [← Option.some.inj h]
          exact System.Steps.parentUsr2 hsent
      next => exact absurd h (by simp)
  | childUsr2 =>
      simp only [sysStep] at h
      split at h
      next hsent =>
          rw [← Option.some.inj h]
          exact System.Steps.childUsr2 hsent
      next => exact absurd h (by simp)
  | accept => exact System.Steps.accept y' h
  | recv input => exact System.Steps.recv input y' h
  | snd => exact System.Steps.snd y' h

theorem acceptStep_cases (h : y.acceptStep = some y') : y.Accepts y' := by
  unfold System.acceptStep at h
  cases hpc : y.child.accept with
  | accept =>
      simp only [hpc] at h
      rw [← Option.some.inj h]
      exact System.Accepts.accept hpc
  | storeGot =>
      simp only [hpc] at h
      rw [← Option.some.inj h]
      exact System.Accepts.storeGot hpc
  | killGot =>
      simp only [hpc] at h
      rw [← Option.some.inj h]
      exact System.Accepts.killGot hpc
  | createSnd =>
      simp only [hpc] at h
      rw [← Option.some.inj h]
      exact System.Accepts.createSnd hpc
  | createRecv =>
      simp only [hpc] at h
      rw [← Option.some.inj h]
      exact System.Accepts.createRecv hpc
  | joinSnd =>
      simp only [hpc] at h
      split at h
      next hended =>
          rw [← Option.some.inj h]
          exact System.Accepts.joinSnd hpc hended
      next => exact absurd h (by simp)
  | joinRecv =>
      simp only [hpc] at h
      split at h
      next hended =>
          rw [← Option.some.inj h]
          exact System.Accepts.joinRecv hpc hended
      next => exact absurd h (by simp)
  | storeCtl =>
      simp only [hpc] at h
      rw [← Option.some.inj h]
      exact System.Accepts.storeCtl hpc
  | killCtl =>
      simp only [hpc] at h
      rw [← Option.some.inj h]
      exact System.Accepts.killCtl hpc

theorem recvStep_cases {input : Input} (h : y.recvStep input = some y') : y.Receives y' := by
  unfold System.recvStep at h
  cases hpc : y.child.recv with
  | ended =>
      simp only [hpc] at h
      exact absurd h (by simp)
  | read =>
      simp only [hpc] at h
      split at h
      next =>
          rw [← Option.some.inj h]
          exact System.Receives.eof hpc
      next bytes =>
          split at h
          next => exact absurd h (by simp)
          next =>
              rw [← Option.some.inj h]
              exact System.Receives.exit hpc
          next ops hmsg =>
              rw [← Option.some.inj h]
              exact System.Receives.message hpc bytes ops hmsg
  | ops l =>
      cases l with
      | nil =>
          simp only [hpc] at h
          rw [← Option.some.inj h]
          exact System.Receives.done hpc
      | cons op rest =>
          simp only [hpc] at h
          cases op with
          | store w =>
              rw [← Option.some.inj h]
              exact System.Receives.store w rest hpc
          | kill o =>
              rw [← Option.some.inj h]
              exact System.Receives.kill o rest hpc
          -- `atoi(NULL)`: the process is gone, there is no next state
          | crash => exact absurd h (by simp [System.opStep])
  | exitCancel =>
      simp only [hpc] at h
      rw [← Option.some.inj h]
      exact System.Receives.exitCancel hpc
  | eofCancel =>
      simp only [hpc] at h
      rw [← Option.some.inj h]
      exact System.Receives.eofCancel hpc
  | eofAck =>
      simp only [hpc] at h
      rw [← Option.some.inj h]
      exact System.Receives.eofAck hpc
  | close =>
      simp only [hpc] at h
      rw [← Option.some.inj h]
      exact System.Receives.close hpc

theorem sndStep_cases (h : y.sndStep = some y') : y.Sends y' := by
  unfold System.sndStep at h
  cases hpc : y.child.snd with
  | ended =>
      simp only [hpc] at h
      exact absurd h (by simp)
  | test =>
      simp only [hpc] at h
      rw [← Option.some.inj h]
      exact System.Sends.test hpc
  | write =>
      simp only [hpc] at h
      split at h
      next hcancelled =>
          rw [← Option.some.inj h]
          exact System.Sends.stop hpc hcancelled
      next hnot =>
          rw [← Option.some.inj h]
          exact System.Sends.write hpc (by simpa using hnot)
  | clearReady =>
      simp only [hpc] at h
      rw [← Option.some.inj h]
      exact System.Sends.clearReady hpc
  | sleep =>
      simp only [hpc] at h
      rw [← Option.some.inj h]
      exact System.Sends.sleep hpc
  | setAck =>
      simp only [hpc] at h
      rw [← Option.some.inj h]
      exact System.Sends.setAck hpc
  | nap =>
      simp only [hpc] at h
      rw [← Option.some.inj h]
      exact System.Sends.nap hpc

/-- A store of the receiver touches neither `ack` nor the text. -/
theorem Store.apply_ack (w : Store) (d : DeviceCommand) : (w.apply d).ack = d.ack := by
  cases w <;> rfl

theorem Store.apply_dataToSend (w : Store) (d : DeviceCommand) :
    (w.apply d).dataToSend = d.dataToSend := by
  cases w <;> rfl

/-- A step of the receiver is one of a receiver that lives, and leaves the accept loop. -/
theorem recvStep_live {input : Input} (h : y.recvStep input = some y') :
    y.child.recv ≠ .ended ∧ y'.child.accept = y.child.accept := by
  cases recvStep_cases h with
  | store w rest hpc => exact ⟨by simp [hpc], rfl⟩
  | kill o rest hpc => exact ⟨by simp [hpc], rfl⟩
  | _ hpc => exact ⟨by simp [hpc], rfl⟩

/-- The sender touches `ack` only, and only at its last step. -/
theorem sndStep_frame (h : y.sndStep = some y') :
    y'.child.accept = y.child.accept ∧ y'.child.recv = y.child.recv ∧ y'.usr2 = y.usr2
      ∧ ∃ ack, y'.gw = { y.gw with share := { y.gw.share with ack := ack } }
        ∧ (y.child.snd ≠ .setAck → ack = y.gw.share.ack) := by
  cases sndStep_cases h with
  | setAck hpc => exact ⟨rfl, rfl, rfl, _, rfl, fun hne => absurd hpc hne⟩
  | _ => exact ⟨rfl, rfl, rfl, _, rfl, fun _ => rfl⟩

end Cases

/-! ## §5. The receiver and the accept loop. -/

/-- The receiver lives only while the accept loop waits for its threads. -/
def System.Joined (y : System) : Prop :=
  y.child.recv ≠ .ended → y.child.accept = .joinSnd ∨ y.child.accept = .joinRecv

section Joined

variable {libc : Libc} {y y' : System}

theorem acceptStep_joined (hinv : y.Joined) (h : y.acceptStep = some y') : y'.Joined := by
  intro hr
  cases acceptStep_cases h with
  | createRecv hpc => exact Or.inl rfl
  | joinSnd hpc hended => exact Or.inr rfl
  | joinRecv hpc hended => exact absurd hended hr
  | _ hpc =>
      -- before the receiver is created, and after it has been joined
      exact absurd (hinv hr) (by simp [hpc])

theorem sysStep_joined {m : Move} (hinv : y.Joined) (h : sysStep libc y m = some y') :
    y'.Joined := by
  cases sysStep_cases h with
  | accept _ hs => exact acceptStep_joined hinv hs
  | recv input _ hs =>
      obtain ⟨hlive, haccept⟩ := recvStep_live hs
      intro _
      rw [haccept]
      exact hinv hlive
  | snd _ hs =>
      obtain ⟨haccept, hrecv, -⟩ := sndStep_frame hs
      intro hr
      rw [haccept]
      exact hinv (by rw [← hrecv]; exact hr)
  -- the parent and the signals leave the threads of the child
  | _ => exact hinv

end Joined

end LoRaGateway
