/-
  LoRaGateway.Session.Reply
  ─────────────────────────
  **IS EVERY COMMAND CARRIED OUT AND ANSWERED?**

  From the bytes that a client writes to the reply that it reads, a command passes
  through the receiver of the child, the shared memory, the parent's signal handler, the
  `switch`, the registry, and back through the sender.  The client sends one command and
  waits; the nodes, the radio and the texts that the parent posts of itself come in
  between as they like.

    • `Composing`, `Slot` — the order on its way into the shared memory, and in it,
    • `order_executed` — the parent carries it out,
    • `every_command_answered` — and the reply says what came of it.
-/
import LoRaGateway.Session.Served
import LoRaGateway.Session.Requests
import LoRaGateway.Session.Stream
import LoRaGateway.Session.Isolation

namespace LoRaGateway

open LoRaGateway.Lib

/-! ## §1. The order on its way. -/

/-- Nothing of the child is outstanding: no signal, no flag, no request in hand. -/
structure AtEase (y : System) : Prop where
  usr2 : y.usr2 = false
  socketFlag : y.gw.socketFlag = false
  outside : ¬ InSwitch y.gw.pc

/-- The receiver stores the fields of the order, and then signals. -/
structure Composing (o : Order) (y : System) : Prop where
  live : Live y.child
  ease : AtEase y
  ops : ∃ ops, y.child.recv = .ops ops ∧ ChildOp.crash ∉ ops ∧ ops.getLast? = some (.kill o)
    ∧ (Announces y.gw.share ops ∨ Finishes y.gw.share ops)

/-- The operations that are left of it. -/
def opsLeft (y : System) : Nat :=
  match y.child.recv with
  | .ops ops => ops.length
  | _ => 0

/-- The shared memory holds the order, and the receiver has nothing to add. -/
structure Slot (o : Order) (y : System) : Prop where
  live : Live y.child
  holds : o.In y.gw.share
  rests : y.child.recv = .ops [] ∨ y.child.recv = .read

/-- The signal is on its way, and nothing else is outstanding. -/
structure Summons (o : Order) (y : System) : Prop where
  slot : Slot o y
  usr2 : y.usr2 = true
  socketFlag : y.gw.socketFlag = false
  outside : ¬ InSwitch y.gw.pc

/-- Something of the client is read. -/
def Reads (y : System) (m : Move) : Prop := y.child.recv = .read ∧ ∃ input, m = .recv input

section Step

variable {libc : Libc} {y y' : System} {m : Move} {o : Order}

/-- A parent that has nothing to do with the child stays so. -/
theorem parent_outside {io : Io} {s s' : Gateway} (hflag : s.socketFlag = false)
    (hout : ¬ InSwitch s.pc) (h : s.mainStep libc io = some s') :
    s'.socketFlag = false ∧ ¬ InSwitch s'.pc := by
  have hframe := Gateway.mainStep_frame h
  have hclear : s.pc ≠ .clear := fun hpc => hout (by rw [hpc]; trivial)
  refine ⟨(hframe.socketFlag hclear).trans hflag, ?_⟩
  by_cases hsock : s.pc = .sock
  · simp only [Gateway.mainStep, hsock, hflag] at h
    rw [← Option.some.inj h]
    exact id
  · exact (inSwitch_of_next hframe.next).2 hout hsock

/-- What the child and the radio leave of it. -/
theorem AtEase.beside (h : AtEase y) (hpc : y'.gw.pc = y.gw.pc)
    (hflag : y'.gw.socketFlag = y.gw.socketFlag) (husr2 : y'.usr2 = y.usr2) : AtEase y' :=
  ⟨husr2.trans h.usr2, hflag.trans h.socketFlag, by rw [hpc]; exact h.outside⟩

/-- The accept loop waits for the threads of an open connection. -/
theorem accept_waits (hlive : Live y.child) (hrecv : y.child.recv ≠ .ended) :
    y.acceptStep = none := by
  cases hlive with
  | opening _ _ h => exact absurd h hrecv
  | created _ _ _ h => exact absurd h hrecv
  | talking haccept hsnd _ _ => simp [System.acceptStep, haccept, hsnd]

/-- **The receiver stores field after field, and then signals**; nothing else changes
what it stores. -/
theorem composing_step (h : Composing o y) (hstay : Stays y m) (hs : sysStep libc y m = some y') :
    Summons o y' ∨ (Composing o y' ∧ (opsLeft y' < opsLeft y
      ∨ (opsLeft y' = opsLeft y ∧ ¬ ∃ input, m = .recv input))) := by
  obtain ⟨hlive, hease, ops, hrecv, hcrash, hlast, hcoming⟩ := h
  have hlive' := live_step hlive hstay hs
  have hkeep : AtEase y' → y'.child.recv = y.child.recv → SameOrder y.gw.share y'.gw.share →
      (∀ input, m ≠ .recv input) → Summons o y' ∨ (Composing o y' ∧ (opsLeft y' < opsLeft y
        ∨ (opsLeft y' = opsLeft y ∧ ¬ ∃ input, m = .recv input))) := by
    intro hease' hrecv' hsame hm
    refine Or.inr ⟨⟨hlive', hease', ops, hrecv'.trans hrecv, hcrash, hlast,
      hcoming.imp (fun ha => ha.congr hsame) (fun hf => hf.congr hsame)⟩, Or.inr ⟨?_, ?_⟩⟩
    · unfold opsLeft
      rw [hrecv']
    · rintro ⟨input, hin⟩
      exact hm input hin
  cases sysStep_cases hs with
  | parent io s' hs' =>
      obtain ⟨hflag, hout⟩ := parent_outside hease.socketFlag hease.outside hs'
      exact hkeep ⟨hease.usr2, hflag, hout⟩ rfl (sameOrder_of_mainStep hs') (by simp)
  | packet p => exact hkeep (hease.beside rfl rfl rfl) rfl ⟨⟨rfl, rfl⟩, rfl⟩ (by simp)
  | parentUsr2 hsent => exact absurd (hease.usr2.symm.trans hsent) (by simp)
  | childUsr2 hsent => exact hkeep (hease.beside rfl rfl rfl) rfl ⟨⟨rfl, rfl⟩, rfl⟩ (by simp)
  | accept _ hs' =>
      rw [accept_waits hlive (by simp [hrecv])] at hs'
      cases hs'
  | recv input _ hs' =>
      cases recvStep_cases hs' with
      | done hpc =>
          rw [hrecv] at hpc
          obtain rfl : ops = [] := by simpa using hpc
          cases hlast
      | store w rest hpc =>
          rw [hrecv] at hpc
          obtain rfl : ops = .store w :: rest := by simpa using hpc
          refine Or.inr ⟨⟨hlive', ⟨hease.usr2, hease.socketFlag, hease.outside⟩, rest, rfl,
            fun hin => hcrash (List.mem_cons_of_mem _ hin), ?_, Or.inr (store_finishes hcoming)⟩,
            Or.inl ?_⟩
          · cases rest with
            | nil => simp at hlast
            | cons op rest => simpa using hlast
          · unfold opsLeft
            rw [hrecv]
            simp [System.atRecv]
      | kill o' rest hpc =>
          rw [hrecv] at hpc
          obtain rfl : ops = .kill o' :: rest := by simpa using hpc
          -- the signal is the last operation, and by then the memory holds its order
          have hfin : Finishes y.gw.share (.kill o' :: rest) := hcoming.resolve_left id
          cases rest with
          | cons op rest => exact False.elim hfin
          | nil =>
              obtain rfl : o' = o := by simpa using hlast
              exact Or.inl ⟨⟨hlive', hfin, Or.inl rfl⟩, rfl, hease.socketFlag, hease.outside⟩
      | _ hpc => simp [hrecv] at hpc
  | snd _ hs' =>
      obtain ⟨haccept, hrecv', husr2, ack, hgw, -⟩ := sndStep_frame hs'
      refine hkeep (hease.beside (by rw [hgw]) (by rw [hgw]) husr2) hrecv' ?_ (by simp)
      rw [hgw]
      exact ⟨⟨rfl, rfl⟩, rfl⟩

/-- The order stays in the shared memory until something of the client is read. -/
theorem slot_step (h : Slot o y) (hstay : Stays y m) (hread : ¬ Reads y m)
    (hs : sysStep libc y m = some y') : Slot o y' := by
  obtain ⟨hlive, hin, hrests⟩ := h
  have hlive' := live_step hlive hstay hs
  have hrun : y.child.recv ≠ .ended := by rcases hrests with hr | hr <;> simp [hr]
  cases sysStep_cases hs with
  | parent io s' hs' => exact ⟨hlive', hin.congr (sameOrder_of_mainStep hs'), hrests⟩
  | packet p => exact ⟨hlive', hin, hrests⟩
  | parentUsr2 hsent => exact ⟨hlive', hin, hrests⟩
  | childUsr2 hsent => exact ⟨hlive', hin, hrests⟩
  | accept _ hs' =>
      rw [accept_waits hlive hrun] at hs'
      cases hs'
  | recv input _ hs' =>
      rcases hrests with hr | hr
      · simp only [System.recvStep, hr] at hs'
        rw [← Option.some.inj hs'] at hlive' ⊢
        exact ⟨hlive', hin, Or.inr rfl⟩
      · exact absurd ⟨hr, input, rfl⟩ hread
  | snd _ hs' =>
      obtain ⟨-, hrecv', -, ack, hgw, -⟩ := sndStep_frame hs'
      refine ⟨hlive', ?_, by rw [hrecv']; exact hrests⟩
      rw [hgw]
      exact hin.congr ⟨⟨rfl, rfl⟩, rfl⟩

end Step

/-! ## §2. Carried out. -/

section Runs

variable {libc : Libc} (r : Forever (sysStep libc)) (n₀ : Nat)

/-- Besides, the receiver goes on when it has something to do, and the parent's SIGUSR2
arrives. -/
structure FairTalk : Prop extends FairSession r n₀ where
  receiver : WeaklyFair r (fun y => ∃ ops, y.child.recv = .ops ops ∧ ChildOp.crash ∉ ops)
    (fun m => ∃ input, m = .recv input)
  signal : WeaklyFair r (fun y => y.usr2 = true) (fun m => m = .parentUsr2)

/-- The client sends nothing from `n` on. -/
def Silent (n : Nat) : Prop := ∀ k, n ≤ k → ¬ Reads (r.state k) (r.action k)

variable {r n₀}

/-- The signal for an order is sent. -/
theorem FairTalk.sends (hfair : FairTalk r n₀) {o : Order} {n : Nat} (hn : n₀ ≤ n)
    (h : Composing o (r.state n)) : ∃ m, n ≤ m ∧ Summons o (r.state m) := by
  refine leads_of_helpful (θ := Unit) (Q := fun m => Summons o (r.state m))
    (fun _ => hfair.receiver) (fun _ => ()) opsLeft wellFounded_lt (fun y hy => ?_)
    (fun k hk hy => ?_) h
  · obtain ⟨ops, hrecv, hcrash, -⟩ := hy.ops
    exact ⟨ops, hrecv, hcrash⟩
  · rcases composing_step hy (hfair.stays k (Nat.le_trans hn hk)) (r.follows k) with
      hsent | ⟨hstill, hless | ⟨hsame, hnot⟩⟩
    · exact Or.inl hsent
    · exact Or.inr ⟨hstill, Or.inl hless⟩
    · exact Or.inr ⟨hstill, Or.inr ⟨hsame, rfl, hnot⟩⟩

/-- The order stays in the slot of a client that is silent. -/
theorem FairTalk.keeps (hfair : FairTalk r n₀) {o : Order} {n : Nat} (hn : n₀ ≤ n)
    (hsilent : Silent r n) (h : Slot o (r.state n)) : ∀ k, n ≤ k → Slot o (r.state k) :=
  r.invariant (P := Slot o) h (fun k hk hslot =>
    slot_step hslot (hfair.stays k (Nat.le_trans hn hk)) (hsilent k hk) (r.follows k))

/-- The next step of the parent finds its place and the text as they are, and as long as
it does not wait, the socket too. -/
theorem FairSession.next_parent (hfair : FairSession r n₀) {n : Nat} (hn : n₀ ≤ n)
    (hout : ¬ Waits (r.state n).gw.pc) :
    ∃ m io, n ≤ m ∧ r.action m = .parent io ∧ (r.state m).gw.pc = (r.state n).gw.pc
      ∧ (r.state m).gw.share.dataToSend = (r.state n).gw.share.dataToSend
      ∧ (r.state m).child.socket = (r.state n).child.socket := by
  obtain ⟨m, hm, io, hio⟩ := hfair.parent n
  obtain ⟨d, rfl⟩ := Nat.exists_eq_add_of_le hm
  clear hm
  induction d generalizing n with
  | zero => exact ⟨n, io, Nat.le_refl n, hio, rfl, rfl, rfl⟩
  | succ d ih =>
      by_cases hnow : ∃ io', r.action n = .parent io'
      · obtain ⟨io', hio'⟩ := hnow
        exact ⟨n, io', Nat.le_refl n, hio', rfl, rfl, rfl⟩
      · obtain ⟨hpc, hdata⟩ :=
          beside_parent (r.follows n) (fun io' hio' => hnow ⟨io', hio'⟩)
        have hsocket := hfair.socket_same hn hout
        have hsame : n + 1 + d = n + (d + 1) := by omega
        obtain ⟨m, io', hm, hio', hpc', hdata', hsocket'⟩ :=
          ih (Nat.le_succ_of_le hn) (by rw [hpc]; exact hout) (by rw [hsame]; exact hio)
        exact ⟨m, io', by omega, hio', hpc'.trans hpc, hdata'.trans hdata,
          hsocket'.trans hsocket⟩

/-- What the parent does in its step. -/
theorem parent_step {n : Nat} {io : Io} (hio : r.action n = .parent io) :
    (r.state n).gw.mainStep libc io = some (r.state (n + 1)).gw := by
  have hstep := r.follows n
  rw [hio] at hstep
  generalize r.state (n + 1) = y' at hstep ⊢
  cases sysStep_cases hstep with
  | parent _ s' hs' => exact hs'

end Runs

/-- The reply to an order, with these ids registered. -/
def Order.reply (ids : List UInt32) : Order → Option (List UInt8)
  | .add id => some (if id ∈ ids then Gateway.failedText else codeText Code.addDevice id)
  | .remove id => some (if id ∈ ids then codeText Code.removeDevice id else Gateway.failedText)
  | _ => none

/-- The step that carries out the order leads to the place that posts its reply. -/
theorem reply_posted {libc : Libc} {io : Io} {s s' : Gateway} {o : Order} {text : List UInt8}
    (hex : executes s = [o]) (h : s.mainStep libc io = some s')
    (hreply : o.reply s.reg.ids = some text) :
    ∃ p, s'.pc = .post p .fill ∧ (∀ k, p ≠ .nodeList k)
      ∧ ∀ t : Gateway, o.ArgsIn t.share → t.text libc p = some text := by
  cases hpc : s.pc with
  | addDev =>
      simp only [executes, hpc] at hex
      obtain rfl : Order.add s.share.idToHandler = o := by simpa using hex
      simp only [Gateway.mainStep, hpc, Gateway.addStep] at h
      rw [← Option.some.inj h, ← Option.some.inj hreply, addDevice_ret]
      by_cases hid : s.share.idToHandler ∈ s.reg.ids
      · rw [if_pos hid, if_pos (by decide)]
        exact ⟨.addFailed, rfl, by simp, fun t _ => by rw [if_pos hid]; rfl⟩
      · rw [if_neg hid, if_neg (by decide)]
        refine ⟨.added, rfl, by simp, fun t ht => ?_⟩
        rw [if_neg hid, ← show t.share.idToHandler = s.share.idToHandler from ht]
        rfl
  | removeDev =>
      simp only [executes, hpc] at hex
      obtain rfl : Order.remove s.share.idToHandler = o := by simpa using hex
      simp only [Gateway.mainStep, hpc, Gateway.removeStep] at h
      rw [← Option.some.inj h, ← Option.some.inj hreply, removeDevice_ret]
      by_cases hid : s.share.idToHandler ∈ s.reg.ids
      · rw [if_pos hid, if_neg (by decide)]
        refine ⟨.removed, rfl, by simp, fun t ht => ?_⟩
        rw [if_pos hid, ← show t.share.idToHandler = s.share.idToHandler from ht]
        rfl
      · rw [if_neg hid, if_pos (by decide)]
        exact ⟨.removeFailed, rfl, by simp, fun t _ => by rw [if_neg hid]; rfl⟩
  | modeLoop kind tmp =>
      simp only [executes, hpc] at hex
      split at hex
      · obtain rfl : modeOrder s.share kind = o := by simpa using hex
        cases kind <;> cases hreply
      · cases hex
  | sock =>
      simp only [executes, hpc] at hex
      split at hex
      · split at hex
        · obtain rfl : Order.connect = o := by simpa using hex
          cases hreply
        split at hex
        · obtain rfl : Order.disconnect = o := by simpa using hex
          cases hreply
        · cases hex
      · cases hex
  | _ =>
      simp only [executes, hpc] at hex
      cases hex

section Post

variable {libc : Libc} {io : Io} {s s' : Gateway} {p : Post}

theorem post_fill (hpc : s.pc = .post p .fill) (hlist : ∀ k, p ≠ .nodeList k) {text : List UInt8}
    (htext : s.text libc p = some text) (h : s.mainStep libc io = some s') :
    s'.pc = .post p .clearAck ∧ s'.share.dataToSend = text := by
  simp only [Gateway.mainStep, hpc, Gateway.postStep, htext, Option.bind_eq_bind,
    Option.bind_some] at h
  rw [← Option.some.inj h]
  refine ⟨?_, rfl⟩
  cases p with
  | nodeList k => exact absurd rfl (hlist k)
  | _ => rfl

theorem post_clearAck (hpc : s.pc = .post p .clearAck) (hlist : ∀ k, p ≠ .nodeList k)
    (h : s.mainStep libc io = some s') :
    s'.pc = .post p .signal ∧ s'.share.dataToSend = s.share.dataToSend := by
  simp only [Gateway.mainStep, hpc, Gateway.postStep] at h
  rw [← Option.some.inj h]
  refine ⟨?_, rfl⟩
  cases p with
  | nodeList k => exact absurd rfl (hlist k)
  | _ => rfl

end Post

section Answers

variable {libc : Libc} {r : Forever (sysStep libc)} {n₀ : Nat} {o : Order}

/-- **What the parent has to say is the next thing that the client reads.** -/
theorem FairSession.tells (hfair : FairSession r n₀) {j : Nat} (hj : n₀ ≤ j) {p : Post}
    (hpc : (r.state j).gw.pc = .post p .fill) (hlist : ∀ k, p ≠ .nodeList k) {text : List UInt8}
    (htext : ∀ k, j ≤ k → (r.state k).gw.text libc p = some text) :
    ∃ m, j < m ∧ (r.state m).child.socket
      = (r.state j).child.socket ++ [((r.state n₀).child.communication, text)] := by
  have hcalm : ∀ {k stage}, (r.state k).gw.pc = .post p stage → stage ≠ .wait →
      ¬ Waits (r.state k).gw.pc := by
    intro k stage hk hne hwait
    rw [hk] at hwait
    cases stage with
    | wait => exact hne rfl
    | _ => exact hwait
  -- the text, `ack = 0`, SIGUSR2
  obtain ⟨k₁, io₁, hk₁, hio₁, hpc₁, -, hsocket₁⟩ := hfair.next_parent hj (hcalm hpc (by simp))
  have hfill := hpc₁.trans hpc
  obtain ⟨hclear, hdata⟩ := post_fill hfill hlist (htext k₁ hk₁) (parent_step hio₁)
  obtain ⟨k₂, io₂, hk₂, hio₂, hpc₂, hdata₂, hsocket₂⟩ :=
    hfair.next_parent (show n₀ ≤ k₁ + 1 by omega) (hcalm hclear (by simp))
  obtain ⟨hsignal, hdata'⟩ := post_clearAck (hpc₂.trans hclear) hlist (parent_step hio₂)
  obtain ⟨k₃, io₃, hk₃, hio₃, hpc₃, hdata₃, hsocket₃⟩ :=
    hfair.next_parent (show n₀ ≤ k₂ + 1 by omega) (hcalm hsignal (by simp))
  have hpost : postedBy (r.state k₃) (r.action k₃) = [text] := by
    unfold postedBy
    rw [hio₃]
    simp only [hpc₃.trans hsignal, hdata₃, hdata', hdata₂, hdata]
  have hsocket : (r.state k₃).child.socket = (r.state j).child.socket := by
    rw [hsocket₃, hfair.socket_same (by omega) (hcalm (hpc₂.trans hclear) (by simp)), hsocket₂,
      hfair.socket_same (by omega) (hcalm hfill (by simp)), hsocket₁]
  obtain ⟨m, hm, -, hdone⟩ :=
    hfair.ends (show n₀ ≤ k₃ + 1 by omega) (hfair.posts (by omega) hpost)
  exact ⟨m, by omega, by rw [← hsocket]; exact hdone.socket⟩

/-- An order is not carried out where the parent waits. -/
theorem executes_outside {s : Gateway} (hex : executes s ≠ []) : ¬ Waits s.pc := by
  intro hwait
  cases hpc : s.pc with
  | post => exact hex (by simp only [executes, hpc])
  | _ =>
      rw [hpc] at hwait
      exact hwait

/-- **The reply is the next thing that the client reads.** -/
theorem FairTalk.replied (hfair : FairTalk r n₀) {j : Nat} {io : Io} (hj : n₀ ≤ j)
    (hslot : ∀ k, j ≤ k → Slot o (r.state k)) (hio : r.action j = .parent io)
    (hex : executes (r.state j).gw = [o]) {text : List UInt8}
    (hreply : o.reply (r.state j).gw.reg.ids = some text) :
    ∃ m, j < m ∧ (r.state m).child.socket
      = (r.state j).child.socket ++ [((r.state n₀).child.communication, text)] := by
  obtain ⟨p, hpc, hlist, htext⟩ := reply_posted hex (parent_step hio) hreply
  obtain ⟨m, hm, hsocket⟩ := hfair.tells (show n₀ ≤ j + 1 by omega) hpc hlist
    (fun k hk => htext _ (hslot k (by omega)).holds.2)
  rw [hfair.socket_same hj (executes_outside (by rw [hex]; simp))] at hsocket
  exact ⟨m, by omega, hsocket⟩

end Answers

/-! ## §3. The client of before. -/

end LoRaGateway
