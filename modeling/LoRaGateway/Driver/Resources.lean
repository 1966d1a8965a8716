/-
  LoRaGateway.Driver.Resources
  ────────────────────────────
  **WHAT THE RADIO DRIVER ACQUIRES AND RELEASES**: `sx1278_init`, `sx1278_probe`,
  `sx1278_remove` and `sx1278_exit` of `Driver/sx1278.c` as programs over the calls
  that give, take back or test something; the kernel decides which of them fail.

    • `Balanced` — no release is wrong, and what fails or ends leaves nothing,
    • `Sound` — every failure is one that the code tests for, no device is removed,
      and the module is unloaded with no device bound,
    • `resources_balanced_iff` — the first holds along a schedule exactly when the second does.
-/
import LoRaGateway.Lib.Ledger
import LoRaGateway.Lib.Program
import LoRaGateway.Lib.Run

namespace LoRaGateway

open LoRaGateway.Lib

/-! ## §1. Resources and calls. -/

/-- What the driver acquires; `n` is the chip select of the device. -/
inductive Resource where
  | region (first count : Nat)
  | cls
  | resetGpio (n : Nat)
  | dio0Gpio (n : Nat)
  | cdev (n : Nat)
  | deviceNode (n : Nat)
  | receiveBuffer (n : Nat)
  | transmitBuffer (n : Nat)
  | cacheBuffer (n : Nat)
  | irq (n : Nat)
  deriving DecidableEq

namespace Resource

/-- The device that a resource belongs to; the others belong to the module. -/
def owner : Resource → Option Nat
  | region _ _ | cls => none
  | resetGpio n | dio0Gpio n | cdev n | deviceNode n | receiveBuffer n | transmitBuffer n
  | cacheBuffer n | irq n => some n

/-- `get_message`, while it is registered, works on the buffers. -/
def users : Resource → List Resource
  | receiveBuffer n | transmitBuffer n | cacheBuffer n => [irq n]
  | _ => []

end Resource

/-- What `device_create` and `class_create` return: the driver tests for NULL. -/
inductive Creation where
  | created
  | null
  | errorPointer
  deriving DecidableEq

/-- A step that acquires nothing and may fail. -/
inductive Check where
  /-- `devm_kzalloc`, whose memory the kernel frees. -/
  | structMemory (n : Nat)
  | spiSetup (n : Nat)
  /-- What `LoRa_init` does after `request_irq`: the chip is there. -/
  | chip (n : Nat)
  | spiRegister
  deriving DecidableEq

/-- What the module asks the kernel for. -/
inductive KernelOp where
  | acquire (r : Resource)
  | create (r : Resource)
  | release (r : Resource)
  | check (c : Check)

/-- `acquire` and `check` say whether they succeeded. -/
def KernelOp.Resp : KernelOp → Type
  | .acquire _ => Bool
  | .create _ => Creation
  | .release _ => Unit
  | .check _ => Bool

/-- Code of the module, as far as it takes and gives back resources. -/
abbrev Kernel (α : Type) : Type := Program KernelOp KernelOp.Resp Empty α

namespace Kernel

/-- A call that returns an error, or the resource. -/
def acquire (r : Resource) : Kernel Bool := Program.perform (KernelOp.acquire r)

/-- A call that returns a pointer. -/
def create (r : Resource) : Kernel Creation := Program.perform (KernelOp.create r)

/-- The call that gives it back. -/
def release (r : Resource) : Kernel Unit := Program.perform (KernelOp.release r)

/-- A call that can fail and takes nothing. -/
def check (c : Check) : Kernel Bool := Program.perform (KernelOp.check c)

end Kernel

open Kernel (acquire create release check)

/-! ## §2. The driver. -/

section Probe

variable (n : Nat)

/-! The labels of `sx1278_probe`, each of which falls through to the one before. -/

/-- `free_resource:`, the last label of the probe. -/
def freeResource : Kernel Int := do
  release (.dio0Gpio n)
  release (.resetGpio n)
  return -1

/-- `rm_cdev:`; each label goes on with the next one. -/
def rmCdev : Kernel Int := do
  release (.cdev n)
  freeResource n

/-- `rm_device:`. -/
def rmDevice : Kernel Int := do
  release (.deviceNode n)
  rmCdev n

/-- `rm_buff_rec:`. -/
def rmBuffRec : Kernel Int := do
  release (.receiveBuffer n)
  rmDevice n

/-- `rm_buff_tr:`. -/
def rmBuffTr : Kernel Int := do
  release (.transmitBuffer n)
  rmBuffRec n

/-- `rm_lora:`. -/
def rmLora : Kernel Int := do
  release (.irq n)
  release (.cacheBuffer n)
  rmBuffTr n

/-- `LoRa_init`: whether it returns `LORA_OK`. -/
def loRaInitIrq : Kernel Bool := do
  if !(← acquire (.irq n)) then return false
  check (.chip n)

/-- `sx1278_probe`. -/
def sx1278Probe : Kernel Int := do
  if !(← check (.structMemory n)) then return -12
  -- what the two `gpiod_get` return is not tested
  let _ ← acquire (.resetGpio n)
  let _ ← acquire (.dio0Gpio n)
  if !(← check (.spiSetup n)) then return (← freeResource n)
  if !(← acquire (.cdev n)) then return (← freeResource n)
  if (← create (.deviceNode n)) = .null then return (← rmCdev n)
  if !(← acquire (.receiveBuffer n)) then return (← rmDevice n)
  if !(← acquire (.transmitBuffer n)) then return (← rmBuffRec n)
  if !(← acquire (.cacheBuffer n)) then return (← rmBuffTr n)
  if !(← loRaInitIrq n) then return (← rmLora n)
  return 0

/-- `sx1278_remove`; the buffers go before the interrupt that works on them. -/
def sx1278Remove : Kernel Unit := do
  release (.receiveBuffer n)
  release (.transmitBuffer n)
  release (.cacheBuffer n)
  release (.dio0Gpio n)
  release (.resetGpio n)
  release (.irq n)
  release (.deviceNode n)
  release (.cdev n)
  release (.region n 1)

end Probe

/-- `sx1278_init`. -/
def sx1278Init : Kernel Int := do
  if !(← acquire (.region 0 2)) then return -1
  if (← create .cls) = .null then
    release (.region 0 2)
    return -1
  if !(← check .spiRegister) then
    release .cls
    release (.region 0 2)
    return -1
  return 0

/-- `spi_unregister_driver` removes the devices that are bound. -/
def sx1278Exit (bound : List Nat) : Kernel Unit := do
  bound.forM sx1278Remove
  release .cls
  release (.region 0 2)

/-! ## §3. The kernel. -/

/-- How the kernel answers the calls. -/
structure KernelAnswers where
  acquires : Resource → Bool
  creates : Resource → Creation
  passes : Check → Bool

namespace KernelAnswers

/-- Nothing fails. -/
def willing : KernelAnswers := ⟨fun _ => true, fun _ => .created, fun _ => true⟩

/-- The driver has the resource when it has asked for it. -/
def gives (k : KernelAnswers) : Resource → Bool
  | .cls => k.creates .cls = .created
  | .deviceNode n => k.creates (.deviceNode n) = .created
  | r => k.acquires r

end KernelAnswers

/-- One request, with the answers `k`, and the ledger of what is held. -/
def kernel (k : KernelAnswers) (s : Ledger Resource) : (o : KernelOp) → o.Resp × Ledger Resource
  | .acquire r => (k.acquires r, if k.acquires r then s.take r else s)
  | .create r => (k.creates r, if k.creates r = .created then s.take r else s)
  | .release r => ((), s.release Resource.users r)
  | .check c => (k.passes c, s)

/-! ## §4. What a probe does. -/

/-- What a probe acquires up to a label, the latest first. -/
def gpioChain (n : Nat) : List Resource := [.dio0Gpio n, .resetGpio n]

/-- What is held when the device node is there. -/
def nodeChain (n : Nat) : List Resource := .deviceNode n :: .cdev n :: gpioChain n

/-- What a probe holds that has returned 0, the last one first. -/
def probeChain (n : Nat) : List Resource :=
  .irq n :: .cacheBuffer n :: .transmitBuffer n :: .receiveBuffer n :: nodeChain n

/-- What the label releases that a failing probe goes to. -/
def stopsAt (k : KernelAnswers) (n : Nat) : Option (List Resource) :=
  if !k.passes (.spiSetup n) then some (gpioChain n)
  else if !k.acquires (.cdev n) then some (gpioChain n)
  else if k.creates (.deviceNode n) = .null then some (.cdev n :: gpioChain n)
  else if !k.acquires (.receiveBuffer n) then some (nodeChain n)
  else if !k.acquires (.transmitBuffer n) then some (.receiveBuffer n :: nodeChain n)
  else if !k.acquires (.cacheBuffer n) then
    some (.transmitBuffer n :: .receiveBuffer n :: nodeChain n)
  else if !k.acquires (.irq n) || !k.passes (.chip n) then some (probeChain n)
  else none

/-- How a probe ends that had the structure's memory: it returns 0, or a label
releases `rs`. -/
def probeEnds (k : KernelAnswers) (n : Nat) (s : Ledger Resource) :
    Option (List Resource) → Int × Ledger Resource
  | none => (0, s.got k.gives (probeChain n))
  | some rs => (-1, (s.got k.gives rs).releaseAll Resource.users rs)

/-- The program gives back `rs` and returns `a`. -/
def Releases {α : Type} (p : Kernel α) (a : α) (rs : List Resource) : Prop :=
  ∀ (k : KernelAnswers) (t : Ledger Resource),
    p.exec (kernel k) t = some (a, t.releaseAll Resource.users rs)

section Releases

variable {α β : Type} {p : Kernel α} {a : α} {rs rs' : List Resource}

theorem releases_pure (a : α) : Releases (pure a) a [] := fun _ _ => rfl

theorem releases_release (r : Resource) : Releases (release r) () [r] := fun _ _ => rfl

/-- One release before it. -/
theorem Releases.cons (h : Releases p a rs) (r : Resource) :
    Releases (release r >>= fun _ => p) a (r :: rs) := fun k _ => h k _

/-- One after the other. -/
theorem Releases.bind {f : α → Kernel β} {b : β} (h : Releases p a rs)
    (hf : Releases (f a) b rs') : Releases (p >>= f) b (rs ++ rs') := by
  intro k t
  rw [Program.exec_bind (h k t), hf k _]
  unfold Ledger.releaseAll
  rw [List.foldl_append]

end Releases

section Labels

variable (n : Nat)

theorem releases_freeResource : Releases (freeResource n) (-1) (gpioChain n) :=
  ((releases_pure (-1)).cons (.resetGpio n)).cons (.dio0Gpio n)

theorem releases_rmCdev : Releases (rmCdev n) (-1) (.cdev n :: gpioChain n) :=
  (releases_freeResource n).cons (.cdev n)

theorem releases_rmDevice : Releases (rmDevice n) (-1) (nodeChain n) :=
  (releases_rmCdev n).cons (.deviceNode n)

theorem releases_rmBuffRec : Releases (rmBuffRec n) (-1) (.receiveBuffer n :: nodeChain n) :=
  (releases_rmDevice n).cons (.receiveBuffer n)

theorem releases_rmBuffTr :
    Releases (rmBuffTr n) (-1) (.transmitBuffer n :: .receiveBuffer n :: nodeChain n) :=
  (releases_rmBuffRec n).cons (.transmitBuffer n)

theorem releases_rmLora : Releases (rmLora n) (-1) (probeChain n) :=
  ((releases_rmBuffTr n).cons (.cacheBuffer n)).cons (.irq n)

end Labels

section Exec

variable {k : KernelAnswers} {s : Ledger Resource} {n : Nat} {r : Resource} {rs : List Resource}
  {t : Ledger Resource} {α : Type} {p q : Kernel Int} {a b : Option (List Resource)}

theorem exec_acquire {f : Bool → Kernel α} :
    (acquire r >>= f).exec (kernel k) t
      = (f (k.acquires r)).exec (kernel k) (if k.acquires r then t.take r else t) := rfl

theorem exec_create {f : Creation → Kernel α} :
    (create r >>= f).exec (kernel k) t
      = (f (k.creates r)).exec (kernel k) (if k.creates r = .created then t.take r else t) := rfl

theorem exec_check {c : Check} {f : Bool → Kernel α} :
    (check c >>= f).exec (kernel k) t = (f (k.passes c)).exec (kernel k) t := rfl

/-- An attempt, after others. -/
theorem exec_attempt {f : Bool → Kernel α} (h : k.gives r = k.acquires r) :
    (acquire r >>= f).exec (kernel k) (s.got k.gives rs)
      = (f (k.acquires r)).exec (kernel k) (s.got k.gives (r :: rs)) := by
  rw [exec_acquire, ← Ledger.got_cons, h]

/-- An attempt that failed added nothing. -/
theorem got_missed (h : k.gives r = false) : s.got k.gives (r :: rs) = s.got k.gives rs := by
  rw [← Ledger.got_cons, h]
  rfl

/-- A check that leads to a label when it fails. -/
theorem exec_checked {c : Check} (hp : p.exec (kernel k) t = some (probeEnds k n s a))
    (hq : q.exec (kernel k) t = some (probeEnds k n s b)) :
    (check c >>= fun ok => if !ok then p else q).exec (kernel k) t
      = some (probeEnds k n s (if !k.passes c then a else b)) := by
  rw [exec_check]
  cases k.passes c with
  | false => exact hp
  | true => exact hq

/-- An attempt that leads to a label when it fails. -/
theorem exec_tested (h : k.gives r = k.acquires r)
    (hp : p.exec (kernel k) (s.got k.gives rs) = some (probeEnds k n s a))
    (hq : q.exec (kernel k) (s.got k.gives (r :: rs)) = some (probeEnds k n s b)) :
    (acquire r >>= fun ok => if !ok then p else q).exec (kernel k) (s.got k.gives rs)
      = some (probeEnds k n s (if !k.acquires r then a else b)) := by
  rw [exec_attempt h]
  cases hr : k.acquires r with
  | false =>
      rw [got_missed (h.trans hr)]
      exact hp
  | true => exact hq

/-- An attempt that leads to a label when it gives NULL. -/
theorem exec_created (h : k.gives r = decide (k.creates r = .created))
    (hp : p.exec (kernel k) (s.got k.gives rs) = some (probeEnds k n s a))
    (hq : q.exec (kernel k) (s.got k.gives (r :: rs)) = some (probeEnds k n s b)) :
    (create r >>= fun c => if c = .null then p else q).exec (kernel k) (s.got k.gives rs)
      = some (probeEnds k n s (if k.creates r = .null then a else b)) := by
  rw [← Ledger.got_cons, h] at hq
  rw [exec_create]
  cases hr : k.creates r with
  | null => exact hp
  | created =>
      rw [hr] at hq
      exact hq
  | errorPointer =>
      rw [hr] at hq
      exact hq

/-- `LoRa_init`, after which a failing `request_irq` is not told from a missing chip. -/
theorem exec_loRaInitIrq
    (hp : p.exec (kernel k) (s.got k.gives (.irq n :: rs)) = some (probeEnds k n s a))
    (hq : q.exec (kernel k) (s.got k.gives (.irq n :: rs)) = some (probeEnds k n s b)) :
    (loRaInitIrq n >>= fun ok => if !ok then p else q).exec (kernel k) (s.got k.gives rs)
      = some (probeEnds k n s (if !k.acquires (.irq n) || !k.passes (.chip n) then a else b)) := by
  unfold loRaInitIrq
  rw [Program.bind_assoc, exec_attempt rfl]
  cases k.acquires (.irq n) with
  | false => exact hp
  | true => exact exec_checked hp hq

/-- **A probe**: it succeeds, it fails before it has acquired anything, or it goes to
a label, which releases a series of resources that it has asked for. -/
theorem exec_sx1278Probe (k : KernelAnswers) (n : Nat) (s : Ledger Resource) :
    (sx1278Probe n).exec (kernel k) s = some (
      if !k.passes (.structMemory n) then (-12, s) else probeEnds k n s (stopsAt k n)) := by
  have hstart : s = s.got k.gives [] := rfl
  have hrest : ∀ {p : Kernel Int}, p.exec (kernel k) s = some (probeEnds k n s (stopsAt k n)) →
      (check (.structMemory n) >>= fun ok => if !ok then pure (-12) else p).exec (kernel k) s
        = some
            (if !k.passes (.structMemory n) then (-12, s) else probeEnds k n s (stopsAt k n)) := by
    intro p hp
    show (if !k.passes (.structMemory n) then (pure (-12) : Kernel Int) else p).exec _ s = _
    cases k.passes (.structMemory n) with
    | false => rfl
    | true => exact hp
  unfold sx1278Probe
  refine hrest ?_
  conv_lhs => rw [hstart]
  rw [exec_attempt rfl, exec_attempt rfl]
  unfold stopsAt
  refine exec_checked (releases_freeResource n k _) ?_
  refine exec_tested rfl (releases_freeResource n k _) ?_
  refine exec_created rfl (releases_rmCdev n k _) ?_
  refine exec_tested rfl (releases_rmDevice n k _) ?_
  refine exec_tested rfl (releases_rmBuffRec n k _) ?_
  refine exec_tested rfl (releases_rmBuffTr n k _) ?_
  exact exec_loRaInitIrq (releases_rmLora n k _) rfl

end Exec

/-! ## §5. The module and its devices. -/

/-- The module, and what it holds. -/
structure DriverModule where
  ledger : Ledger Resource
  loaded : Bool
  /-- the devices of which the probe returned 0 -/
  bound : List Nat

/-- What the kernel calls, with its answers meanwhile. -/
inductive DriverEvent where
  | init (k : KernelAnswers)
  | probe (n : Nat) (k : KernelAnswers)
  | remove (n : Nat)
  | exit

namespace DriverModule

/-- Nothing is loaded. -/
def start : DriverModule := ⟨⟨[], []⟩, false, []⟩

/-- When the kernel calls the function. -/
def Possible (s : DriverModule) : DriverEvent → Prop
  | .init _ => s.loaded = false
  | .probe n _ => s.loaded = true ∧ n ∉ s.bound
  | .remove n => s.loaded = true ∧ n ∈ s.bound
  | .exit => s.loaded = true

instance (s : DriverModule) : (e : DriverEvent) → Decidable (s.Possible e)
  | .init _ => inferInstanceAs (Decidable (_ = _))
  | .probe _ _ => inferInstanceAs (Decidable (_ ∧ _))
  | .remove _ => inferInstanceAs (Decidable (_ ∧ _))
  | .exit => inferInstanceAs (Decidable (_ = _))

/-- One call of the module. -/
def call (s : DriverModule) : DriverEvent → Option DriverModule
  | .init k =>
      (sx1278Init.exec (kernel k) s.ledger).map (fun out => ⟨out.2, decide (out.1 = 0), []⟩)
  | .probe n k =>
      ((sx1278Probe n).exec (kernel k) s.ledger).map
        (fun out => { s with
          ledger := out.2, bound := if out.1 = (0 : Int) then n :: s.bound else s.bound })
  | .remove n =>
      ((sx1278Remove n).exec (kernel .willing) s.ledger).map
        (fun out => { s with ledger := out.2, bound := s.bound.erase n })
  | .exit =>
      ((sx1278Exit s.bound).exec (kernel .willing) s.ledger).map (fun out => ⟨out.2, false, []⟩)

/-- The kernel calls what is possible. -/
def step (s : DriverModule) (e : DriverEvent) : Option DriverModule :=
  if s.Possible e then s.call e else none

end DriverModule

/-- What the driver releases, it had; a call that fails leaves what there was before
it, `remove` nothing of the device, and `exit` nothing. -/
def Balanced (s : DriverModule) (e : DriverEvent) : Prop :=
  ∀ s', s.step e = some s' → s'.ledger.faults = s.ledger.faults ∧
    match e with
    | .init _ => s'.loaded = false → s'.ledger.held = s.ledger.held
    | .probe n _ => n ∉ s'.bound → s'.ledger.held = s.ledger.held
    | .remove n => ∀ r ∈ s'.ledger.held, r.owner ≠ some n
    | .exit => s'.ledger.held = []

namespace KernelAnswers

/-- The probe returns 0. -/
def Accepts (k : KernelAnswers) (n : Nat) : Prop :=
  k.passes (.spiSetup n) ∧ k.acquires (.cdev n) ∧ k.creates (.deviceNode n) ≠ .null
    ∧ k.acquires (.receiveBuffer n) ∧ k.acquires (.transmitBuffer n)
    ∧ k.acquires (.cacheBuffer n) ∧ k.acquires (.irq n) ∧ k.passes (.chip n)

/-- No call fails that the probe does not test, or tests too late for its label. -/
def Tested (k : KernelAnswers) (n : Nat) : Prop :=
  k.acquires (.resetGpio n) ∧ k.acquires (.dio0Gpio n)
    ∧ (k.passes (.spiSetup n) ∧ k.acquires (.cdev n) →
        k.creates (.deviceNode n) ≠ .errorPointer
          ∧ (k.creates (.deviceNode n) = .created ∧ k.acquires (.receiveBuffer n)
            ∧ k.acquires (.transmitBuffer n) ∧ k.acquires (.cacheBuffer n) →
              k.acquires (.irq n)))

end KernelAnswers

/-- The condition. -/
def Sound (s : DriverModule) (e : DriverEvent) : Prop :=
  s.Possible e →
    match e with
    | .init k => ¬ (k.acquires (.region 0 2) ∧ k.creates .cls = .errorPointer
        ∧ k.passes .spiRegister = false)
    | .probe n k => k.passes (.structMemory n) ∧ ¬ k.Accepts n → k.Tested n
    | .remove _ => False
    | .exit => s.bound = [] ∧ .cls ∈ s.ledger.held

/-! ## §6. One call. -/

/-- What is held between two calls. -/
structure LedgerInv (s : DriverModule) : Prop where
  idle : s.loaded = false → s.ledger.held = [] ∧ s.bound = []
  owned : ∀ r ∈ s.ledger.held, ∀ n, r.owner = some n → n ∈ s.bound
  bound : ∀ n ∈ s.bound, .receiveBuffer n ∈ s.ledger.held ∧ .irq n ∈ s.ledger.held
  shared : s.loaded = true →
    s.ledger.held.filter (fun r => r.owner = none) ∈
      [[.cls, .region 0 2], [.region 0 2]]

/-- Before the module is loaded nothing is held. -/
theorem ledgerInv_start : LedgerInv DriverModule.start :=
  ⟨fun _ => ⟨rfl, rfl⟩, fun _ h => absurd h List.not_mem_nil, fun _ h => absurd h List.not_mem_nil,
    fun h => nomatch h⟩

section Chain

variable {k : KernelAnswers} {n : Nat} {rs : List Resource}

/-- What a probe acquires belongs to its device. -/
theorem owner_of_mem_probeChain {r : Resource} (h : r ∈ probeChain n) : r.owner = some n := by
  simp only [probeChain, nodeChain, gpioChain, List.mem_cons, List.not_mem_nil, or_false] at h
  rcases h with rfl | rfl | rfl | rfl | rfl | rfl | rfl | rfl <;> rfl

/-- `get_message` belongs to the device, and is no buffer. -/
theorem users_of_mem {r u : Resource} (h : u ∈ r.users) : u.owner = r.owner ∧ u ≠ r := by
  cases r <;> simp_all [Resource.users, Resource.owner]

/-- The labels release the buffers after the interrupt that works on them. -/
theorem probeChain_unwinds : (probeChain n).Pairwise fun r later => later ∉ r.users := by
  simp [probeChain, nodeChain, gpioChain, Resource.users]

/-- A label releases the older part of it. -/
theorem stopsAt_suffix (h : stopsAt k n = some rs) : rs <:+ probeChain n := by
  unfold stopsAt at h
  split_ifs at h <;> cases h <;> simp [probeChain, nodeChain, gpioChain, List.suffix_cons_iff]

/-- Without a label the probe returns 0. -/
theorem stopsAt_eq_none_iff : stopsAt k n = none ↔ k.Accepts n := by
  unfold stopsAt KernelAnswers.Accepts
  split_ifs <;> grind

/-- **A label releases what was acquired, exactly when every failure was tested.** -/
theorem gives_of_stopsAt_iff (h : stopsAt k n = some rs) :
    (∀ r ∈ rs, k.gives r = true) ↔ k.Tested n := by
  -- a node that is not NULL is there, or an error pointer
  have hnode : ¬ k.creates (.deviceNode n) = .null →
      (k.creates (.deviceNode n) = .created ↔ k.creates (.deviceNode n) ≠ .errorPointer) := by
    cases k.creates (.deviceNode n) <;> simp
  unfold stopsAt at h
  unfold KernelAnswers.Tested
  split_ifs at h <;> cases h <;>
    simp only [probeChain, nodeChain, gpioChain, KernelAnswers.gives, List.forall_mem_cons] <;> grind

end Chain

/-- How `sx1278_init` ends, when nothing is held. -/
def initEnds (k : KernelAnswers) (f : List Resource) : Int × Ledger Resource :=
  if !k.acquires (.region 0 2) then (-1, ⟨[], f⟩)
  else
    match k.creates .cls, k.passes .spiRegister with
    | .null, _ => (-1, ⟨[], f⟩)
    | .created, true => (0, ⟨[.cls, .region 0 2], f⟩)
    | .created, false => (-1, ⟨[], f⟩)
    | .errorPointer, true => (0, ⟨[.region 0 2], f⟩)
    -- `class_destroy` of the error pointer
    | .errorPointer, false => (-1, ⟨[], .cls :: f⟩)

/-- `sx1278_init` does nothing else. -/
theorem exec_sx1278Init (k : KernelAnswers) (f : List Resource) :
    sx1278Init.exec (kernel k) ⟨[], f⟩ = some (initEnds k f) := by
  unfold sx1278Init initEnds
  rw [exec_acquire]
  cases k.acquires (.region 0 2) with
  | false => rfl
  | true =>
      show (create .cls >>= _ : Kernel Int).exec (kernel k) ⟨[.region 0 2], f⟩ = _
      rw [exec_create]
      cases k.creates .cls with
      | null => rfl
      | created =>
          show (check .spiRegister >>= _ : Kernel Int).exec (kernel k)
            ⟨[.cls, .region 0 2], f⟩ = _
          rw [exec_check]
          cases k.passes .spiRegister <;> rfl
      | errorPointer =>
          show (check .spiRegister >>= _ : Kernel Int).exec (kernel k) ⟨[.region 0 2], f⟩ = _
          rw [exec_check]
          cases k.passes .spiRegister <;> rfl

/-- What `remove` releases, in its order. -/
def removed (n : Nat) : List Resource :=
  [.receiveBuffer n, .transmitBuffer n, .cacheBuffer n, .dio0Gpio n, .resetGpio n, .irq n,
    .deviceNode n, .cdev n, .region n 1]

theorem releases_sx1278Remove (n : Nat) : Releases (sx1278Remove n) () (removed n) :=
  ((((((((releases_release (.region n 1)).cons (.cdev n)).cons (.deviceNode n)).cons
    (.irq n)).cons (.resetGpio n)).cons (.dio0Gpio n)).cons (.cacheBuffer n)).cons
      (.transmitBuffer n)).cons (.receiveBuffer n)

theorem releases_removes (bound : List Nat) :
    Releases (bound.forM sx1278Remove) () (bound.flatMap removed) := by
  induction bound with
  | nil => exact releases_pure ()
  | cons n bound ih =>
      rw [List.flatMap_cons]
      exact (releases_sx1278Remove n).bind ih

theorem releases_sx1278Exit (bound : List Nat) :
    Releases (sx1278Exit bound) () (bound.flatMap removed ++ [.cls, .region 0 2]) :=
  (releases_removes bound).bind ((releases_release (.region 0 2)).cons .cls)

section Calls

variable {s t : DriverModule} {k : KernelAnswers} {n : Nat}

/-- The device's handler is registered when `remove` frees the first buffer. -/
theorem LedgerInv.remove_wrong (hinv : LedgerInv s) (hn : n ∈ s.bound) {rs : List Resource} :
    (s.ledger.releaseAll Resource.users (.receiveBuffer n :: rs)).faults ≠ s.ledger.faults := by
  apply Ledger.faults_ne_of_wrong (r := .receiveBuffer n) ?_ (Ledger.faults_releaseAll rs _)
  rintro ⟨-, h⟩
  exact h (.irq n) List.mem_cons_self (hinv.bound n hn).2

/-- Nothing of a device is held that is not bound. -/
theorem LedgerInv.fresh (hinv : LedgerInv s) (hn : n ∉ s.bound) {r : Resource}
    (hr : r.owner = some n) : r ∉ s.ledger.held := fun h => hn (hinv.owned r h n hr)

/-- What a label needs to be right, but for what it finds. -/
theorem LedgerInv.label_free (hinv : LedgerInv s) (hn : n ∉ s.bound) {rs : List Resource}
    (h : stopsAt k n = some rs) :
    (rs.Pairwise fun r later => later ∉ r.users)
      ∧ (∀ r ∈ rs, ∀ u ∈ r.users, u ≠ r ∧ u ∉ s.ledger.held)
      ∧ ∀ r ∈ rs, r ∉ s.ledger.held := by
  have hchain : ∀ r ∈ rs, r.owner = some n :=
    fun r hr => owner_of_mem_probeChain ((stopsAt_suffix h).subset hr)
  have hunwinds := probeChain_unwinds.sublist (stopsAt_suffix h).sublist
  refine ⟨hunwinds, fun r hr u hu => ?_, fun r hr => ?_⟩
  · obtain ⟨howner, hne⟩ := users_of_mem hu
    exact ⟨hne, hinv.fresh hn (howner.trans (hchain r hr))⟩
  · exact hinv.fresh hn (hchain r hr)

/-- **A failing probe leaves exactly what there was before it** when all is tested. -/
theorem LedgerInv.label_left (hinv : LedgerInv s) (hn : n ∉ s.bound) {rs : List Resource}
    (h : stopsAt k n = some rs) (ht : k.Tested n) :
    (s.ledger.got k.gives rs).releaseAll Resource.users rs = s.ledger := by
  obtain ⟨hpair, hfree, -⟩ := hinv.label_free hn h
  exact Ledger.releaseAll_got hpair hfree ((gives_of_stopsAt_iff h).mpr ht)

/-- Otherwise it releases something that was never acquired. -/
theorem LedgerInv.tested_of_label (hinv : LedgerInv s) (hn : n ∉ s.bound) {rs : List Resource}
    (h : stopsAt k n = some rs)
    (hf : ((s.ledger.got k.gives rs).releaseAll Resource.users rs).faults = s.ledger.faults) :
    k.Tested n := by
  obtain ⟨hpair, hfree, hfresh⟩ := hinv.label_free hn h
  exact (gives_of_stopsAt_iff h).mp ((Ledger.releaseAll_got_iff hpair hfree hfresh).mp hf)

/-- What `insmod` leaves. -/
theorem LedgerInv.step_init (hinv : LedgerInv s) (hl : s.loaded = false) :
    ∃ f, s.ledger = ⟨[], f⟩
      ∧ s.step (.init k) = some ⟨(initEnds k f).2, decide ((initEnds k f).1 = 0), []⟩ := by
  obtain ⟨f, hs⟩ : ∃ f, s.ledger = ⟨[], f⟩ :=
    ⟨s.ledger.faults, by rw [← (hinv.idle hl).1]⟩
  have hp : s.Possible (.init k) := hl
  refine ⟨f, hs, ?_⟩
  rw [DriverModule.step, if_pos hp, DriverModule.call, hs, exec_sx1278Init]
  rfl

/-- What a probe leaves. -/
theorem step_probe (hp : s.Possible (.probe n k)) :
    s.step (.probe n k) = some (
      if !k.passes (.structMemory n) then s
      else
        match stopsAt k n with
        | none => { s with ledger := s.ledger.got k.gives (probeChain n), bound := n :: s.bound }
        | some rs =>
            { s with ledger := (s.ledger.got k.gives rs).releaseAll Resource.users rs }) := by
  rw [DriverModule.step, if_pos hp, DriverModule.call, exec_sx1278Probe]
  generalize stopsAt k n = stops
  cases k.passes (.structMemory n) with
  | false => simp
  | true => cases stops <;> simp [probeEnds]

theorem step_remove (hp : s.Possible (.remove n)) :
    s.step (.remove n) = some { s with
      ledger := s.ledger.releaseAll Resource.users (removed n), bound := s.bound.erase n } := by
  rw [DriverModule.step, if_pos hp, DriverModule.call, releases_sx1278Remove n .willing s.ledger,
    Option.map_some]

theorem step_exit (hp : s.Possible .exit) :
    s.step .exit = some ⟨s.ledger.releaseAll Resource.users
      (s.bound.flatMap removed ++ [.cls, .region 0 2]), false, []⟩ := by
  rw [DriverModule.step, if_pos hp, DriverModule.call,
    releases_sx1278Exit s.bound .willing s.ledger, Option.map_some]

/-- With no device bound, what is held is the module's. -/
theorem LedgerInv.held_shared (hinv : LedgerInv s) (hb : s.bound = []) (hl : s.loaded = true) :
    s.ledger.held = [.cls, .region 0 2] ∨ s.ledger.held = [.region 0 2] := by
  have hall : s.ledger.held.filter (fun r => r.owner = none) = s.ledger.held := by
    apply List.filter_eq_self.mpr
    intro r hr
    cases ho : r.owner with
    | none => rfl
    | some n => exact absurd (hb ▸ hinv.owned r hr n ho) List.not_mem_nil
  have hshared := hinv.shared hl
  rw [hall] at hshared
  simpa using hshared

/-- Without a device, and with the class, `exit` gives everything back. -/
theorem LedgerInv.step_exit_right (hinv : LedgerInv s) (hp : s.Possible .exit) (hb : s.bound = [])
    (hcls : .cls ∈ s.ledger.held) :
    s.step .exit = some ⟨⟨[], s.ledger.faults⟩, false, []⟩ := by
  have hheld : s.ledger.held = [.cls, .region 0 2] := by
    rcases hinv.held_shared hb hp with hheld | hheld
    · exact hheld
    · exact absurd hcls (by rw [hheld]; decide)
  have hs : s.ledger = ⟨[.cls, .region 0 2], s.ledger.faults⟩ := by rw [← hheld]
  rw [step_exit hp, hb, hs]
  rfl

/-! The four calls. -/

/-- `sx1278_init` takes an error pointer for a class. -/
theorem LedgerInv.init_iff (hinv : LedgerInv s) (hl : s.loaded = false) :
    Balanced s (.init k) ↔ Sound s (.init k) := by
  obtain ⟨f, hs, hstep⟩ := hinv.step_init (k := k) hl
  unfold Balanced Sound
  rw [hstep, hs]
  simp only [DriverModule.Possible, hl, true_implies, Option.some.injEq, forall_eq']
  unfold initEnds
  cases k.acquires (.region 0 2) <;> cases k.creates .cls <;> cases k.passes .spiRegister <;>
    simp

/-- The probe does not test every failure. -/
theorem LedgerInv.probe_iff (hinv : LedgerInv s) (hp : s.Possible (.probe n k)) :
    Balanced s (.probe n k) ↔ Sound s (.probe n k) := by
  unfold Balanced Sound
  rw [step_probe hp]
  cases hm : k.passes (.structMemory n) with
  | false => simp [hm]
  | true =>
      cases hstop : stopsAt k n with
      | none => simp [hm, stopsAt_eq_none_iff.mp hstop, Ledger.got]
      | some rs =>
          have hnot : ¬ k.Accepts n := by
            rw [← stopsAt_eq_none_iff, hstop]
            exact Option.some_ne_none rs
          constructor
          · intro h _ _
            exact hinv.tested_of_label hp.2 hstop (h _ rfl).1
          · intro h t ht
            obtain rfl := Option.some.inj ht
            have hleft := hinv.label_left hp.2 hstop (h hp ⟨hm, hnot⟩)
            exact ⟨congrArg Ledger.faults hleft, fun _ => congrArg Ledger.held hleft⟩

/-- `remove` never keeps the balance. -/
theorem LedgerInv.not_balanced_remove (hinv : LedgerInv s) (hp : s.Possible (.remove n)) :
    ¬ Balanced s (.remove n) := by
  intro h
  exact hinv.remove_wrong hp.2 (h _ (step_remove hp)).1

/-- `exit` removes what is bound, and destroys the class. -/
theorem LedgerInv.exit_iff (hinv : LedgerInv s) (hp : s.Possible .exit) :
    Balanced s .exit ↔ s.bound = [] ∧ .cls ∈ s.ledger.held := by
  constructor
  · intro h
    obtain ⟨hfaults, -⟩ := h _ (step_exit hp)
    have hb : s.bound = [] := by
      by_contra hne
      obtain ⟨n, bound, hb⟩ := List.exists_cons_of_ne_nil hne
      rw [hb] at hfaults
      exact hinv.remove_wrong (hb ▸ List.mem_cons_self) hfaults
    refine ⟨hb, ?_⟩
    by_contra hcls
    rw [hb] at hfaults
    exact Ledger.faults_releaseAll_ne List.mem_cons_self hcls hfaults
  · rintro ⟨hb, hcls⟩ t ht
    rw [hinv.step_exit_right hp hb hcls] at ht
    obtain rfl := Option.some.inj ht
    exact ⟨rfl, rfl⟩

/-! The invariant. -/

theorem LedgerInv.after_init (hinv : LedgerInv s) (hl : s.loaded = false)
    (hs : s.step (.init k) = some t) : LedgerInv t := by
  obtain ⟨f, -, hstep⟩ := hinv.step_init (k := k) hl
  rw [hstep] at hs
  obtain rfl := Option.some.inj hs
  unfold initEnds
  cases k.acquires (.region 0 2) <;> cases k.creates .cls <;> cases k.passes .spiRegister <;>
    constructor <;> simp [Resource.owner]

/-- The device has its interrupt and its buffers, and nothing else has come. -/
theorem LedgerInv.accept (hinv : LedgerInv s) (hl : s.loaded = true) (hk : k.Accepts n) :
    LedgerInv { s with ledger := s.ledger.got k.gives (probeChain n), bound := n :: s.bound } := by
  obtain ⟨-, -, -, hreceive, -, -, hirq, -⟩ := hk
  refine ⟨fun h => ?_, fun r hr m hm => ?_, fun m hm => ?_, fun _ => ?_⟩
  · rw [hl] at h
    cases h
  · rcases List.mem_append.mp hr with hr | hr
    · have hn := owner_of_mem_probeChain (List.mem_filter.mp hr).1
      rw [hm] at hn
      rw [Option.some.inj hn]
      exact List.mem_cons_self
    · exact List.mem_cons_of_mem n (hinv.owned r hr m hm)
  · rcases List.mem_cons.mp hm with rfl | hm
    · constructor
      · apply List.mem_append_left
        exact List.mem_filter.mpr ⟨by simp [probeChain], hreceive⟩
      · apply List.mem_append_left
        exact List.mem_filter.mpr ⟨by simp [probeChain], hirq⟩
    · obtain ⟨hbuf, hreg⟩ := hinv.bound m hm
      exact ⟨List.mem_append_right _ hbuf, List.mem_append_right _ hreg⟩
  · -- what is new belongs to the device
    have hnew : ((probeChain n).filter k.gives).filter (fun r => r.owner = none) = [] := by
      apply List.filter_eq_nil_iff.mpr
      intro r hr
      rw [owner_of_mem_probeChain (List.mem_filter.mp hr).1]
      simp
    show ((probeChain n).filter k.gives ++ s.ledger.held).filter _ ∈ _
    rw [List.filter_append, hnew]
    exact hinv.shared hl

theorem LedgerInv.after_probe (hinv : LedgerInv s) (hp : s.Possible (.probe n k))
    (h : k.passes (.structMemory n) ∧ ¬ k.Accepts n → k.Tested n)
    (hs : s.step (.probe n k) = some t) : LedgerInv t := by
  rw [step_probe hp] at hs
  cases hm : k.passes (.structMemory n) with
  | false =>
      rw [hm] at hs
      obtain rfl := Option.some.inj hs
      exact hinv
  | true =>
      rw [hm] at hs
      cases hstop : stopsAt k n with
      | none =>
          rw [hstop] at hs
          obtain rfl := Option.some.inj hs
          exact hinv.accept hp.1 (stopsAt_eq_none_iff.mp hstop)
      | some rs =>
          have hnot : ¬ k.Accepts n := by
            rw [← stopsAt_eq_none_iff, hstop]
            exact Option.some_ne_none rs
          rw [hstop] at hs
          simp only [hinv.label_left hp.2 hstop (h ⟨hm, hnot⟩)] at hs
          obtain rfl := Option.some.inj hs
          exact hinv

/-- **One call is balanced exactly when the condition holds.** -/
theorem LedgerInv.call_iff (hinv : LedgerInv s) (e : DriverEvent) :
    Balanced s e ↔ Sound s e := by
  by_cases hp : s.Possible e
  · cases e with
    | init k => exact hinv.init_iff hp
    | probe n k => exact hinv.probe_iff hp
    | remove n =>
        exact iff_of_false (hinv.not_balanced_remove hp) (fun h => h hp)
    | exit => exact (hinv.exit_iff hp).trans ⟨fun h _ => h, fun h => h hp⟩
  · have hnone : s.step e = none := if_neg hp
    exact iff_of_true (fun t ht => by rw [hnone] at ht; cases ht) (fun h => absurd h hp)

theorem LedgerInv.step (hinv : LedgerInv s) {e : DriverEvent} (h : Sound s e)
    (hs : s.step e = some t) : LedgerInv t := by
  have hp : s.Possible e := by
    by_contra hp
    rw [DriverModule.step, if_neg hp] at hs
    cases hs
  cases e with
  | init k => exact hinv.after_init hp hs
  | probe n k => exact hinv.after_probe hp (h hp) hs
  | remove n => exact False.elim (h hp)
  | exit =>
      obtain ⟨hb, hcls⟩ := h hp
      rw [hinv.step_exit_right hp hb hcls] at hs
      obtain rfl := Option.some.inj hs
      exact ⟨fun _ => ⟨rfl, rfl⟩, fun _ h => absurd h List.not_mem_nil,
        fun _ h => absurd h List.not_mem_nil, fun h => nomatch h⟩

end Calls

/-! ## §7. Every run. -/

/-- Nothing was ever released wrongly, and an unloaded module holds nothing. -/
theorem ledger_clear {es : List DriverEvent} : ∀ {s t : DriverModule}, LedgerInv s →
    Along DriverModule.step Sound s es → run DriverModule.step s es = some t →
      t.ledger.faults = s.ledger.faults ∧ (t.loaded = false → t.ledger.held = []) := by
  induction es with
  | nil =>
      intro s t hinv _ hrun
      obtain rfl : s = t := Option.some.inj hrun
      exact ⟨rfl, fun h => (hinv.idle h).1⟩
  | cons e es ih =>
      intro s t hinv h hrun
      obtain ⟨u, hu, hrest⟩ := Option.bind_eq_some_iff.mp hrun
      obtain ⟨hfaults, hheld⟩ := ih (hinv.step h.1 hu) (h.2 u hu) hrest
      exact ⟨hfaults.trans ((hinv.call_iff e).mpr h.1 u hu).1, hheld⟩

/-- **EVERY CALL IS BALANCED EXACTLY WHEN EACH FAILURE IS ONE THAT THE CODE TESTS FOR,
NO DEVICE IS REMOVED, AND THE MODULE IS UNLOADED WITH NO DEVICE BOUND**; then nothing
is ever released wrongly, and an unloaded module holds nothing. -/
theorem resources_balanced_iff (es : List DriverEvent) :
    (Along DriverModule.step Balanced DriverModule.start es
        ↔ Along DriverModule.step Sound DriverModule.start es)
      ∧ (Along DriverModule.step Sound DriverModule.start es → ∀ s,
          run DriverModule.step DriverModule.start es = some s →
            s.ledger.faults = [] ∧ (s.loaded = false → s.ledger.held = [])) :=
  ⟨along_iff (fun _ e hinv => hinv.call_iff e) (fun _ _ _ hinv h hs => hinv.step h hs) es
      ledgerInv_start,
    fun h _ hs => ledger_clear ledgerInv_start h hs⟩

/-- The driver is loaded, a device is probed and removed: the buffers go first. -/
theorem remove_unbalanced :
    ¬ ∀ es : List DriverEvent, Along DriverModule.step Balanced DriverModule.start es := by
  intro h
  have hall := h [.init .willing, .probe 0 .willing, .remove 0]
  have hremove := ((hall.2 _ rfl).2 _ rfl).1
  exact absurd (hremove _ rfl).1 (by decide)

end LoRaGateway
