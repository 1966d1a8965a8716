/-
  LoRaGateway.MainLoop.Notice
  ───────────────────────────
  **IS A PACKET THAT THE DRIVER SIGNALS ALWAYS READ?**

  The handler of SIGUSR1 sets `rx_sig`; `get_data_from_node` blocks the signal,
  reads the buffer with `lora_receive`, handles the packet — which can take until
  the client acknowledges — unblocks the signal, and clears `rx_sig` last.  A
  signal that comes after `lora_receive` is kept until it is unblocked, sets
  `rx_sig` there, and is cleared with it.

  The machine is watched by one bit: a packet is placed in the buffer and
  signalled, and `lora_receive` has not been called since.

    • `Noticed` — then `rx_sig` is set or the signal is pending,
    • `notice_kept_iff` — this holds throughout a schedule exactly when `rx_sig` is
      never cleared over such a packet,
    • `notice_lost` — a packet that comes while another one is handled.
-/
import LoRaGateway.MainLoop.PollIndex

namespace LoRaGateway

open LoRaGateway.Lib

/-! ## §1. Fresh packets. -/

/-- The parent, and whether a packet was signalled after the latest `lora_receive`. -/
structure Noticing where
  gw : Gateway
  fresh : Bool

/-- `lora_receive` ends it, and the signal begins it. -/
def Noticing.nextFresh (w : Noticing) : Action → Bool
  | .main _ => w.fresh && w.gw.pc ≠ .rxRecv
  | .packet p => w.fresh || (w.gw.dev.hear p).any (fun out => out.2)
  | _ => w.fresh

/-- A step, with that. -/
def noticeStep (libc : Libc) (w : Noticing) (a : Action) : Option Noticing :=
  (step libc w.gw a).map (fun s' => ⟨s', w.nextFresh a⟩)

/-- A fresh packet is announced: a later iteration will read it. -/
def Noticed (w : Noticing) : Prop :=
  w.fresh = true → w.gw.rxSig = true ∨ w.gw.usr1Pending = true

/-- The step leads to a state in which a fresh packet is announced. -/
def KeepsNotice (libc : Libc) (w : Noticing) (a : Action) : Prop :=
  ∀ w', noticeStep libc w a = some w' → Noticed w'

/-- `rx_sig = 0` at the end of `get_data_from_node` finds no fresh packet. -/
def ClearsStale (w : Noticing) (a : Action) : Prop :=
  ∀ io, a = .main io → w.gw.pc = .rxClear → w.fresh = false

/-! ## §2. One step. -/

/-- Between the steps: a fresh packet is announced, the early return of
`get_data_from_node` is not taken, and nothing is pending after the unblocking. -/
structure NoticeInv (w : Noticing) : Prop where
  noticed : Noticed w
  unanswered : w.gw.pc = .rxTest ∨ w.gw.pc = .rxBlocked → w.gw.raspi.status ≠ handled
  unblocked : w.gw.pc = .rxClear → w.gw.usr1Blocked = false ∧ w.gw.usr1Pending = false

section Step

variable {libc : Libc} {w w' : Noticing} {s' : Gateway}

/-- Only the end of `get_data_from_node` can lose a notice. -/
theorem main_noticed {io : Io} (hinv : NoticeInv w) (hpc : w.gw.pc ≠ .rxClear)
    (h : w.gw.mainStep libc io = some s') : Noticed ⟨s', w.nextFresh (.main io)⟩ := by
  have hframe := Gateway.mainStep_frame h
  intro hfresh
  simp only [Noticing.nextFresh, Bool.and_eq_true, decide_eq_true_eq] at hfresh
  obtain ⟨hfresh, hrecv⟩ := hfresh
  have hold := hinv.noticed hfresh
  show s'.rxSig = true ∨ s'.usr1Pending = true
  by_cases hblocked : w.gw.pc = .rxBlocked
  · -- the packet is going to be read
    simp only [Gateway.mainStep, hblocked] at h
    rw [if_neg (hinv.unanswered (Or.inr hblocked))] at h
    rw [← Option.some.inj h]
    exact hold
  by_cases hunblock : w.gw.pc = .rxUnblock
  · -- a signal that was pending sets `rx_sig`
    simp only [Gateway.mainStep, hunblock, Gateway.unblock] at h
    rw [← Option.some.inj h]
    left
    rw [Bool.or_eq_true]
    exact hold
  · rw [hframe.rxSig hblocked hunblock hpc, hframe.usr1Pending hunblock]
    exact hold

/-- Behind the unblocking, clearing loses exactly the fresh packets. -/
theorem clear_noticed_iff {io : Io} (hinv : NoticeInv w) (hpc : w.gw.pc = .rxClear)
    (h : w.gw.mainStep libc io = some s') :
    Noticed ⟨s', w.nextFresh (.main io)⟩ ↔ w.fresh = false := by
  have hpending := (hinv.unblocked hpc).2
  simp only [Gateway.mainStep, hpc] at h
  rw [← Option.some.inj h]
  have hfresh : w.nextFresh (.main io) = w.fresh := by
    simp [Noticing.nextFresh, hpc]
  rw [hfresh]
  constructor
  · intro hnoticed
    cases hw : w.fresh with
    | false => rfl
    | true =>
        rcases hnoticed hw with hsig | hpend
        · cases hsig
        · rw [hpending] at hpend
          cases hpend
  · intro hw htrue
    exact absurd (hw.symm.trans htrue) (by decide)

/-- A signalled packet sets `rx_sig`, or is pending. -/
theorem packet_noticed {p : List UInt8} (hinv : NoticeInv w)
    (h : w.gw.packetStep p = some s') : Noticed ⟨s', w.nextFresh (.packet p)⟩ := by
  obtain ⟨dev, signalled, hhear, rfl⟩ := Gateway.packetStep_spec h
  intro hfresh
  simp only [Noticing.nextFresh, hhear, Option.any_some, Bool.or_eq_true] at hfresh
  show (w.gw.rxSig || _) = true ∨ (w.gw.usr1Pending || _) = true
  rw [Bool.or_eq_true, Bool.or_eq_true]
  rcases hfresh with hfresh | hsignalled
  · exact (hinv.noticed hfresh).imp Or.inl Or.inl
  · rw [hsignalled]
    cases w.gw.usr1Blocked with
    | false => exact Or.inl (Or.inr rfl)
    | true => exact Or.inr (Or.inr rfl)

theorem next_rxClear {pc : Pc} (h : Gateway.Next pc .rxClear) : pc = .rxUnblock := by
  cases h
  rfl

/-- What holds besides the notice does so in every run. -/
theorem noticeStep_inv {a : Action} (hinv : NoticeInv w) (hok : KeepsNotice libc w a)
    (hs : noticeStep libc w a = some w') : NoticeInv w' := by
  have hnoticed := hok w' hs
  obtain ⟨s', hstep, rfl⟩ := Option.map_eq_some_iff.mp hs
  cases a with
  | main io =>
      refine ⟨hnoticed, Gateway.mainStep_unanswered hinv.unanswered hstep, fun hpc' => ?_⟩
      have hnext := (Gateway.mainStep_frame hstep).next
      change s'.pc = .rxClear at hpc'
      rw [hpc'] at hnext
      have hstep : w.gw.mainStep libc io = some s' := hstep
      simp only [Gateway.mainStep, next_rxClear hnext] at hstep
      rw [← Option.some.inj hstep]
      exact ⟨rfl, rfl⟩
  | packet p =>
      obtain ⟨dev, signalled, -, rfl⟩ := Gateway.packetStep_spec hstep
      refine ⟨hnoticed, hinv.unanswered, fun hpc => ?_⟩
      obtain ⟨hblocked, hpending⟩ := hinv.unblocked hpc
      refine ⟨hblocked, ?_⟩
      show (w.gw.usr1Pending || (signalled && w.gw.usr1Blocked)) = false
      rw [hpending, hblocked, Bool.and_false, Bool.or_false]
  | childWrite request ack id userSet =>
      rw [← Option.some.inj hstep] at hnoticed ⊢
      exact ⟨hnoticed, hinv.unanswered, hinv.unblocked⟩
  | usr2 =>
      rw [← Option.some.inj hstep] at hnoticed ⊢
      exact ⟨hnoticed, hinv.unanswered, hinv.unblocked⟩

/-- **One step keeps the notice** exactly when it does not clear `rx_sig` over a
fresh packet. -/
theorem keepsNotice_iff {a : Action} (hinv : NoticeInv w) :
    KeepsNotice libc w a ↔ ClearsStale w a := by
  cases a with
  | main io =>
      by_cases hpc : w.gw.pc = .rxClear
      · have hstep : step libc w.gw (.main io) = some { w.gw with rxSig := false, pc := .sock } := by
          simp only [step, Gateway.mainStep, hpc]
        have hiff := clear_noticed_iff hinv hpc hstep
        constructor
        · intro hkeeps io' _ _
          apply hiff.mp
          apply hkeeps
          unfold noticeStep
          rw [hstep]
          rfl
        · intro hclears w' hs
          obtain ⟨s', hs', rfl⟩ := Option.map_eq_some_iff.mp hs
          obtain rfl := Option.some.inj (hstep.symm.trans hs')
          exact hiff.mpr (hclears io rfl hpc)
      · constructor
        · intro _ io' _ hpc'
          exact absurd hpc' hpc
        · intro _ w' hs
          obtain ⟨s', hs', rfl⟩ := Option.map_eq_some_iff.mp hs
          exact main_noticed hinv hpc hs'
  | packet p =>
      refine ⟨fun _ io h => (by cases h), fun _ w' hs => ?_⟩
      obtain ⟨s', hs', rfl⟩ := Option.map_eq_some_iff.mp hs
      exact packet_noticed hinv hs'
  | childWrite request ack id userSet =>
      refine ⟨fun _ io h => (by cases h), fun _ w' hs => ?_⟩
      obtain ⟨s', hs', rfl⟩ := Option.map_eq_some_iff.mp hs
      rw [← Option.some.inj hs']
      exact hinv.noticed
  | usr2 =>
      refine ⟨fun _ io h => (by cases h), fun _ w' hs => ?_⟩
      obtain ⟨s', hs', rfl⟩ := Option.map_eq_some_iff.mp hs
      rw [← Option.some.inj hs']
      exact hinv.noticed

end Step

/-! ## §3. Runs. -/

/-- **WHEN NO NOTICE IS LOST.**  Whatever signals, packets, writes of the child and
steps of the parent come one after the other: after each of them a packet that was
signalled since the latest `lora_receive` is announced by `rx_sig` or by a pending
SIGUSR1, exactly when the `rx_sig = 0` at the end of `get_data_from_node` never
finds such a packet. -/
theorem notice_kept_iff {libc : Libc} {s₀ : Gateway} (h0 : s₀.Started) (as : List Action) :
    Along (noticeStep libc) (KeepsNotice libc) ⟨s₀, false⟩ as
      ↔ Along (noticeStep libc) ClearsStale ⟨s₀, false⟩ as := by
  have hstart : NoticeInv ⟨s₀, false⟩ := by
    refine ⟨fun hfresh => absurd hfresh Bool.false_ne_true, fun hpc => ?_, fun hpc => ?_⟩
    · rw [h0.pc] at hpc
      exact absurd hpc (by simp)
    · rw [h0.pc] at hpc
      cases hpc
  exact along_iff (I := NoticeInv) (fun _ _ hinv => keepsNotice_iff hinv)
    (fun _ _ _ hinv hclears hs => noticeStep_inv hinv ((keepsNotice_iff hinv).mpr hclears) hs)
    as hstart

/-- A round whose node answers. -/
def oneAnswer : List Action :=
  mains 2 ++ [.packet (response 0x01020304 sampleText)] ++ mains 8

/-- The check of `ClearsStale`. -/
def clearsStale (w : Noticing) (_ : Action) : Bool := !(w.fresh && w.gw.pc = .rxClear)

theorem clearsStale_iff (w : Noticing) (a : Action) (h : clearsStale w a = true) :
    ClearsStale w a := by
  intro io _ hpc
  simpa [clearsStale, hpc] using h

/-- An answer that comes alone is announced until it is read. -/
theorem notice_kept_answer :
    Along (noticeStep sampleLibc) (KeepsNotice sampleLibc)
      ⟨startWith [0x01020304, 0x05060708], false⟩ oneAnswer := by
  have hrun : (run (only (noticeStep sampleLibc) clearsStale)
      ⟨startWith [0x01020304, 0x05060708], false⟩ oneAnswer).map (fun w => w.gw.pc)
      = some .sock := by decide +kernel
  obtain ⟨w, hw, -⟩ := Option.map_eq_some_iff.mp hrun
  exact (notice_kept_iff (startWith_started _) oneAnswer).mpr
    ((along_of_run oneAnswer hw).mono clearsStale_iff)

/-- A second answer comes while the first one is handled; then up to the end of
`get_data_from_node`. -/
def twoAnswers : List Action :=
  mains 2 ++ [.packet (response 0x01020304 sampleText)] ++ mains 4
    ++ [.packet (response 0x05060708 sampleText)] ++ mains 3

/-- A second node answers while the answer of the first one is handled: the signal
is pending, sets `rx_sig` at the unblocking, and is cleared with it. -/
theorem notice_lost :
    ∃ s₀ as, s₀.Started ∧ ¬ Along (noticeStep sampleLibc) (KeepsNotice sampleLibc) ⟨s₀, false⟩ as := by
  have hrun : (run (noticeStep sampleLibc) ⟨startWith [0x01020304, 0x05060708], false⟩
      twoAnswers).map (fun w => (w.gw.pc, w.fresh, w.gw.usr1Pending))
      = some (.rxClear, true, false) := by decide +kernel
  obtain ⟨w, hw, hfields⟩ := Option.map_eq_some_iff.mp hrun
  simp only [Prod.mk.injEq] at hfields
  obtain ⟨hpc, hfresh, hpending⟩ := hfields
  refine ⟨startWith [0x01020304, 0x05060708], twoAnswers ++ [.main sampleIo],
    startWith_started _, fun halong => ?_⟩
  have hkeeps := Along.last twoAnswers halong hw
  have hstep : step sampleLibc w.gw (.main sampleIo)
      = some { w.gw with rxSig := false, pc := .sock } := by
    simp only [step, Gateway.mainStep, hpc]
  have hnoticed : Noticed ⟨{ w.gw with rxSig := false, pc := .sock }, w.fresh⟩ := by
    apply hkeeps
    unfold noticeStep
    rw [hstep]
    simp [Noticing.nextFresh, hpc]
  rcases hnoticed hfresh with hsig | hpend
  · cases hsig
  · rw [hpending] at hpend
    cases hpend

end LoRaGateway
