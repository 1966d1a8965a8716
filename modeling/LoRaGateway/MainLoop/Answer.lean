/-
  LoRaGateway.MainLoop.Answer
  ───────────────────────────
  **IS A NODE THAT ANSWERS EVER CALLED DISCONNECTED?**

  An answer goes from the radio into `receive_buffer` and raises SIGUSR1; the
  wait loop reads it, finds its sender and sets `raspi.status`.  The driver drops
  a packet that is the beginning of the last one it delivered, so a node that
  sends the same text twice is not heard the second time, and the round ends with
  DISCONNECTED.

  The machine is watched by a `Round`: whether this round waits for a node,
  whether the radio has received its answer, and whether a delivered packet has
  not been read yet.

    • `OnItsWay` — where an answer can be between the radio and the status,
    • `answering_node_handled` — it arrives, in the runs without a drop,
    • `answering_node_disconnected` — the same answer in two rounds.
-/
import LoRaGateway.MainLoop.PollIndex

namespace LoRaGateway

open LoRaGateway.Lib

/-! ## §1. An answer. -/

/-- A complete answer of the node `id`, without a zero byte, that `sscanf` accepts. -/
def GoodAnswer (libc : Libc) (id : UInt32) (p : List UInt8) : Prop :=
  p = response id (p.drop baseData) ∧ p.length ≤ packetSize ∧ (0 : UInt8) ∉ p
    ∧ (libc.sscanf (p.drop baseData)).isSome = true

instance (libc : Libc) (id : UInt32) (p : List UInt8) : Decidable (GoodAnswer libc id p) :=
  inferInstanceAs (Decidable (_ ∧ _ ∧ _ ∧ _))

section Driver

variable {d : LoRaDev} {p : List UInt8}

/-- The driver delivers a text that neither of its buffers begins with. -/
theorem hear_text (hlen : p.length < packetSize) (hz : (0 : UInt8) ∉ p) (hne : p ≠ [])
    (hsent : ¬ p <+: d.transmitBuffer.bytes) (hknown : ¬ p <+: d.receiveBuffer.bytes) :
    d.hear p
      = some ({ d with receiveBuffer := cached p, cacheBuffer := cached p }, d.task.isSome) := by
  have htext : cstr (cached p).bytes = p := (text_cached hlen.le).trans (cstr_eq_self hz)
  have hend : (0 : UInt8) ∈ (cached p).bytes := (zero_mem_cached_iff hlen.le).mpr (Or.inl hlen)
  unfold LoRaDev.hear
  rw [if_neg hne, workqueueFn_delivers hend (by rw [htext]; exact hsent)
    (by rw [htext]; exact hknown)]
  simp only [htext]
  rw [← cached_eq (Nat.le_of_lt hlen)]

/-- User space reads it whole. -/
theorem loraReceive_cached (hlen : p.length < packetSize) (hz : (0 : UInt8) ∉ p)
    (hd : d.receiveBuffer = cached p) :
    loraReceive d true (Buffer.zero packetSize) = some (0, cached p) := by
  rw [loraReceive_eq hlen hz (hd.trans (cached_eq (Nat.le_of_lt hlen))), hd]

end Driver

/-- The search finds a sender among the first 256 records. -/
theorem findSender_of_mem {s : Gateway} {uid : UInt32} (h : uid ∈ s.reg.ids.take 256) :
    ∃ k node, s.findSender uid = some k ∧ s.reg.newLoRa[k]? = some node := by
  cases hk : s.findSender uid with
  | none => exact absurd h (Gateway.findSender_eq_none.mp hk)
  | some k =>
      obtain ⟨-, node, hnode, -⟩ := Gateway.findSender_some hk
      exact ⟨k, node, rfl, hnode⟩

/-- **`handler_rx_data` accepts an answer** of a node that it finds. -/
theorem handlerRxData_answer {libc : Libc} {s : Gateway} {id : UInt32} {p : List UInt8}
    (hgood : GoodAnswer libc id p) (hlen : p.length < packetSize)
    (hreg : id ∈ s.reg.ids.take 256) :
    ∃ k node screen text, s.handlerRxData libc (cached p) = some { s with
      reg := { s.reg with newLoRa := s.reg.newLoRa.set k node }
      screen := some screen
      pc := if s.sockStatus ≠ 0 then .post (.dataAvailable id text) .fill else .rxStatus id } := by
  obtain ⟨hp, -, hz, hscan⟩ := hgood
  have hbytes : (cached p).bytes
      = response id (p.drop baseData) ++ List.replicate (packetSize - p.length) 0 := by
    rw [← hp, cached_eq (Nat.le_of_lt hlen)]
    rfl
  -- a packet that leaves room for a NUL in the 60 bytes leaves one in `foo.data`
  have htext : (p.drop baseData).length ≤ 49 := by
    rw [List.length_drop]
    show p.length - 10 ≤ 49
    have : p.length < 60 := hlen
    omega
  obtain ⟨data, hunpack, hdata⟩ := unpack_response (by omega) hbytes
  obtain ⟨k, node, hfind, hnode⟩ := findSender_of_mem hreg
  obtain ⟨r, hr⟩ := Option.isSome_iff_exists.mp hscan
  have hzt : (0 : UInt8) ∉ p.drop baseData := fun h => hz (List.mem_of_mem_drop h)
  have hstrlen : strlen data.bytes = some (p.drop baseData).length := by
    have hend : (0 : UInt8) ∈ data.bytes := by
      rw [hdata, List.mem_append, List.mem_replicate]
      exact Or.inr ⟨by omega, rfl⟩
    rw [strlen_of_mem hend, hdata, cstr_append_replicate, cstr_eq_self hzt]
  -- the two checks of the header, then the search and `sscanf` succeed
  have hkind : (cached p).bytes.getD 0 0 = Code.responseData := by
    rw [hbytes]
    rfl
  refine ⟨k, Gateway.stored r node, Gateway.nodeInfo (Gateway.stored r node) s.nodeCount,
    p.drop baseData, ?_⟩
  unfold Gateway.handlerRxData
  unfold Gateway.findSender at hfind
  rw [if_neg (by rw [hkind]; decide)]
  rw [hdata] at hstrlen
  simp only [hunpack, Option.bind_eq_bind, Option.bind_some, hfind, hdata, hstrlen,
    List.take_left, hr, hnode]
  rw [if_neg (by decide)]

/-! ## §2. The watched machine. -/

/-- What has happened in this round: it began with a poll; the radio has received
the answer of the polled node; a packet is delivered and not read yet. -/
structure Round where
  waiting : Bool
  heard : Bool
  unread : Bool
  deriving DecidableEq

/-- The parent, with what has happened in this round. -/
structure Watched where
  gw : Gateway
  round : Round

/-- The wait is over at the end of the wait loop. -/
def waitOver : Pc → Bool
  | .outer | .tail => true
  | .post .disconnected _ => true
  | _ => false

/-- The radio receives the answer that this round waits for. -/
def Answers (libc : Libc) (w : Watched) (p : List UInt8) : Prop :=
  w.round.waiting = true ∧ waitOver w.gw.pc = false ∧ GoodAnswer libc w.gw.raspi.idHandling p

instance (libc : Libc) (w : Watched) (p : List UInt8) : Decidable (Answers libc w p) :=
  inferInstanceAs (Decidable (_ ∧ _ ∧ _))

/-- The round after a step. -/
def Watched.nextRound (libc : Libc) (w : Watched) : Action → Round
  | .main _ =>
      -- the poll begins a round; without nodes nothing is waited for
      if w.gw.pc = .outer then ⟨decide (w.gw.nodeCount > 0), false, w.round.unread⟩
      else if w.gw.pc = .rxRecv then { w.round with unread := false }
      else w.round
  | .packet p =>
      { w.round with
        heard := w.round.heard || decide (Answers libc w p)
        unread := w.round.unread || (w.gw.dev.hear p).any (fun out => out.2) }
  | _ => w.round

/-- The machine, and what is watched. -/
def watch (libc : Libc) (w : Watched) (a : Action) : Option Watched :=
  (step libc w.gw a).map (fun s => ⟨s, w.nextRound libc a⟩)

/-! ## §3. The runs. -/

/-- A packet comes when the one before has been read, and reading does not fail. -/
def Serial (w : Watched) : Action → Prop
  | .packet _ => w.round.unread = false
  | .main io => w.gw.pc = .rxRecv → io.opens = true
  | _ => True

/-- Outside the code that reads a packet, and before the end of the wait loop. -/
def Elsewhere : Pc → Prop
  | .polled | .head | .sock | .addDev | .removeDev | .scanList _ | .scanData _ => True
  | .modeLoop _ _ | .clear => True
  | .post .disconnected _ | .post (.dataAvailable _ _) _ => False
  | .post _ _ => True
  | _ => False

/-- A packet that arrives now is read in this round: the test of `rx_sig` comes
again, or is not over yet. -/
def InTime (s : Gateway) : Prop :=
  (Elsewhere s.pc ∧ 2 ≤ s.timeout) ∨ s.pc = .rxTest ∨ s.pc = .rxBlocked ∨ s.pc = .rxRecv

/-- The driver delivers the packet, and it arrives in time. -/
structure Passes (s : Gateway) (p : List UInt8) : Prop where
  fits : p.length < packetSize
  sent : ¬ p <+: s.dev.transmitBuffer.bytes
  known : ¬ p <+: s.dev.receiveBuffer.bytes
  inTime : InTime s

/-- The first answer of a round passes, and its node is still there when it is
handled. -/
def GoesThrough (libc : Libc) (w : Watched) : Action → Prop
  | .packet p => Answers libc w p → w.round.heard = false → w.gw.raspi.status ≠ handled →
      Passes w.gw p
  | .main _ => w.round.heard = true → w.gw.raspi.status ≠ handled →
      ∀ buff, w.gw.pc = .rxHandle buff → w.gw.raspi.idHandling ∈ w.gw.reg.ids.take 256
  | _ => True

/-! ## §4. What always holds. -/

/-- SIGUSR1 is blocked, or has just been. -/
def Receiving : Pc → Prop
  | .rxBlocked | .rxRecv | .rxHandle _ | .rxSearch | .rxStatus _ | .rxUnblock => True
  | .post (.dataAvailable _ _) _ => True
  | _ => False

/-- What holds between the steps of a run from the start. -/
structure Sane (s : Gateway) : Prop where
  task : s.dev.task.isSome = true
  unanswered : s.pc = .rxTest ∨ s.pc = .rxBlocked → s.raspi.status ≠ handled
  unblocked : ¬ Receiving s.pc → s.usr1Blocked = false
  lost : ∀ stage, s.pc = .post .disconnected stage → s.raspi.status ≠ handled

theorem receiving_post {p : Post} {stage stage' : Stage} (h : Receiving (.post p stage)) :
    Receiving (.post p stage') := by
  cases p with
  | dataAvailable uid data => exact h
  | _ => exact False.elim h

/-- The code that reads a packet ends with unblocking, or does not begin. -/
theorem receiving_of_next {pc pc' : Pc} (h : Gateway.Next pc pc') (hr : Receiving pc)
    (hblocked : pc ≠ .rxBlocked) (hunblock : pc ≠ .rxUnblock) : Receiving pc' := by
  cases h with
  | fill p _ => exact receiving_post hr
  | clearAck p _ => exact receiving_post hr
  | signal p => exact receiving_post hr
  | wait p => exact hr
  | replied p hp =>
      cases p with
      | dataAvailable uid data => exact False.elim hp
      | _ => exact False.elim hr
  | _ => trivial

theorem elsewhere_post {p : Post} {stage stage' : Stage} (h : Elsewhere (.post p stage)) :
    Elsewhere (.post p stage') := by
  cases p with
  | dataAvailable uid data => exact False.elim h
  | disconnected => exact False.elim h
  | _ => trivial

/-- From there the way leads to the head of the wait loop. -/
theorem elsewhere_of_next {pc pc' : Pc} (h : Gateway.Next pc pc') (he : Elsewhere pc)
    (hhead : pc ≠ .head) : Elsewhere pc' := by
  cases h with
  | fill p _ => exact elsewhere_post he
  | clearAck p _ => exact elsewhere_post he
  | signal p => exact elsewhere_post he
  | wait p => exact he
  | _ => trivial

theorem not_receiving_of_elsewhere {pc : Pc} (h : Elsewhere pc) : ¬ Receiving pc := by
  intro hr
  cases pc with
  | post p stage =>
      cases p with
      | dataAvailable uid data => exact h
      | _ => exact hr
  | _ => first | exact hr | exact h

section Sane

variable {libc : Libc} {s s' : Gateway}

theorem mainStep_unblocked {io : Io} (hinv : Sane s) (h : s.mainStep libc io = some s')
    (hr : ¬ Receiving s'.pc) : s'.usr1Blocked = false := by
  have hframe := Gateway.mainStep_frame h
  cases hpc : s.pc with
  | rxTest =>
      simp only [Gateway.mainStep, hpc] at h
      split at h
      · rw [← Option.some.inj h] at hr
        exact absurd trivial hr
      · rw [← Option.some.inj h]
        exact hinv.unblocked (by rw [hpc]; exact id)
  | rxBlocked =>
      -- the status was not HANDLED at the test, so the packet is read
      simp only [Gateway.mainStep, hpc] at h
      rw [if_neg (hinv.unanswered (Or.inr hpc))] at h
      rw [← Option.some.inj h] at hr
      exact absurd trivial hr
  | rxUnblock =>
      simp only [Gateway.mainStep, hpc] at h
      rw [← Option.some.inj h]
      rfl
  | _ =>
      rw [hframe.usr1Blocked (by simp [hpc]) (by simp [hpc])]
      refine hinv.unblocked (fun hold => hr ?_)
      exact receiving_of_next hframe.next hold (by simp [hpc]) (by simp [hpc])

theorem mainStep_sane {io : Io} (hinv : Sane s) (h : s.mainStep libc io = some s') : Sane s' := by
  exact ⟨by rw [(Gateway.mainStep_frame h).task]; exact hinv.task,
    Gateway.mainStep_unanswered hinv.unanswered h, mainStep_unblocked hinv h,
    fun _ => Gateway.mainStep_lost hinv.lost h⟩

theorem step_sane {a : Action} (hinv : Sane s) (h : step libc s a = some s') : Sane s' := by
  cases a with
  | main io => exact mainStep_sane hinv h
  | packet p =>
      obtain ⟨dev, signalled, hhear, rfl⟩ := Gateway.packetStep_spec h
      exact ⟨by rw [LoRaDev.hear_task hhear]; exact hinv.task, hinv.unanswered, hinv.unblocked,
        hinv.lost⟩
  | childWrite request ack id userSet =>
      rw [← Option.some.inj h]
      exact ⟨hinv.task, hinv.unanswered, hinv.unblocked, hinv.lost⟩
  | usr2 =>
      rw [← Option.some.inj h]
      exact ⟨hinv.task, hinv.unanswered, hinv.unblocked, hinv.lost⟩

end Sane

/-! ## §5. The way of an answer. -/

/-- An answer waits in the receive buffer. -/
def Waiting (libc : Libc) (w : Watched) : Prop :=
  w.round.unread = true ∧ ∃ p, GoodAnswer libc w.gw.raspi.idHandling p ∧ p.length < packetSize
    ∧ w.gw.dev.receiveBuffer = cached p

/-- Where the answer of this round is, from the radio to the status. -/
inductive OnItsWay (libc : Libc) (w : Watched) : Prop where
  /-- the wait loop has not come to it yet, and will come to it -/
  | signalled (hpc : Elsewhere w.gw.pc) (h : Waiting libc w) (hsig : w.gw.rxSig = true)
      (htime : 2 ≤ w.gw.timeout)
  | noticed (hpc : w.gw.pc = .rxTest) (h : Waiting libc w) (hsig : w.gw.rxSig = true)
  | fetched (hpc : w.gw.pc = .rxBlocked ∨ w.gw.pc = .rxRecv) (h : Waiting libc w)
  | read (p : List UInt8) (hpc : w.gw.pc = .rxHandle (cached p))
      (h : GoodAnswer libc w.gw.raspi.idHandling p) (hlen : p.length < packetSize)
  | told (data : List UInt8) (stage : Stage)
      (hpc : w.gw.pc = .post (.dataAvailable w.gw.raspi.idHandling data) stage)
  | accepted (hpc : w.gw.pc = .rxStatus w.gw.raspi.idHandling)

section Way

variable {libc : Libc} {w : Watched} {s' : Gateway} {io : Io}

/-- The watched state after a step of the parent. -/
def Watched.after (libc : Libc) (w : Watched) (io : Io) (s' : Gateway) : Watched :=
  ⟨s', w.nextRound libc (.main io)⟩

theorem nextRound_main (houter : w.gw.pc ≠ .outer) (hrecv : w.gw.pc ≠ .rxRecv) :
    w.nextRound libc (.main io) = w.round := by
  simp only [Watched.nextRound]
  rw [if_neg houter, if_neg hrecv]

/-- A step that does not read leaves the answer where it waits. -/
theorem waiting_after (h : Waiting libc w) (houter : w.gw.pc ≠ .outer)
    (hrecv : w.gw.pc ≠ .rxRecv) (hstatus : ∀ uid, w.gw.pc ≠ .rxStatus uid)
    (hs : w.gw.mainStep libc io = some s') : Waiting libc (w.after libc io s') := by
  have hframe := Gateway.mainStep_frame hs
  unfold Waiting Watched.after
  rw [nextRound_main houter hrecv]
  show w.round.unread = true ∧ ∃ p, GoodAnswer libc s'.raspi.idHandling p ∧ p.length < packetSize
    ∧ s'.dev.receiveBuffer = cached p
  rw [hframe.raspi houter hstatus, hframe.receiveBuffer]
  exact h

/-- From elsewhere the parent stays there, or comes to the test of `rx_sig`. -/
theorem signalled_step (hpc : Elsewhere w.gw.pc) (h : Waiting libc w) (hsig : w.gw.rxSig = true)
    (htime : 2 ≤ w.gw.timeout) (hne : w.gw.raspi.status ≠ handled)
    (hs : w.gw.mainStep libc io = some s') : OnItsWay libc (w.after libc io s') := by
  have hframe := Gateway.mainStep_frame hs
  have hne' : ∀ pc, ¬ Elsewhere pc → w.gw.pc ≠ pc := fun pc hn heq => hn (heq ▸ hpc)
  have hw : Waiting libc (w.after libc io s') :=
    waiting_after h (hne' _ id) (hne' _ id) (fun uid => hne' _ id) hs
  have hsig' : s'.rxSig = true := by
    rw [hframe.rxSig (hne' _ id) (hne' _ id) (hne' _ id)]
    exact hsig
  -- the head of the wait loop is the one place where time passes
  by_cases hhead : w.gw.pc = .head
  · have hgo : ¬ (w.gw.timeout - 1 = 0 ∨ w.gw.raspi.status = handled) := by
      rw [not_or]
      exact ⟨by omega, hne⟩
    simp only [Gateway.mainStep, hhead, Gateway.headStep] at hs
    rw [if_neg hgo] at hs
    exact OnItsWay.noticed (by rw [← Option.some.inj hs]; rfl) hw hsig'
  · have hpc' : Elsewhere s'.pc := elsewhere_of_next hframe.next hpc hhead
    have houter : s'.pc ≠ .outer := fun heq => by
      rw [heq] at hpc'
      exact hpc'
    refine OnItsWay.signalled hpc' hw hsig' ?_
    show 2 ≤ s'.timeout
    rw [hframe.timeout hhead houter]
    exact htime

/-- **One step of the parent on the way of an answer.** -/
theorem mainStep_onItsWay (h : OnItsWay libc w) (hne : w.gw.raspi.status ≠ handled)
    (hserial : Serial w (.main io))
    (hthere : ∀ buff, w.gw.pc = .rxHandle buff →
      w.gw.raspi.idHandling ∈ w.gw.reg.ids.take 256)
    (hs : w.gw.mainStep libc io = some s') :
    s'.raspi.status = handled ∨ OnItsWay libc (w.after libc io s') := by
  cases h with
  | signalled hpc h hsig htime => exact Or.inr (signalled_step hpc h hsig htime hne hs)
  | noticed hpc h hsig =>
      have hw := waiting_after h (by simp [hpc]) (by simp [hpc]) (by simp [hpc]) hs
      simp only [Gateway.mainStep, hpc] at hs
      rw [if_pos hsig] at hs
      exact Or.inr (OnItsWay.fetched (Or.inl (by rw [← Option.some.inj hs]; rfl)) hw)
  | fetched hpc h =>
      rcases hpc with hpc | hpc
      · have hw := waiting_after h (by simp [hpc]) (by simp [hpc]) (by simp [hpc]) hs
        simp only [Gateway.mainStep, hpc] at hs
        rw [if_neg hne] at hs
        exact Or.inr (OnItsWay.fetched (Or.inr (by rw [← Option.some.inj hs]; rfl)) hw)
      -- `lora_receive` reads back what was delivered
      · obtain ⟨-, p, hgood, hlen, hbuffer⟩ := h
        simp only [Gateway.mainStep, hpc] at hs
        rw [hserial hpc, loraReceive_cached hlen hgood.2.2.1 hbuffer] at hs
        rw [← Option.some.inj hs]
        exact Or.inr (OnItsWay.read p rfl hgood hlen)
  | read p hpc h hlen =>
      -- with a client connected the answer is posted before the status is set
      obtain ⟨k, node, screen, text, hout⟩ := handlerRxData_answer h hlen (hthere _ hpc)
      simp only [Gateway.mainStep, hpc, hout] at hs
      rw [← Option.some.inj hs]
      by_cases hsock : w.gw.sockStatus ≠ 0
      · exact Or.inr (OnItsWay.told text .fill (if_pos hsock))
      · exact Or.inr (OnItsWay.accepted (if_neg hsock))
  | told data stage hpc =>
      have hframe := Gateway.mainStep_frame hs
      have hraspi := hframe.raspi (by simp [hpc]) (by simp [hpc])
      have hnext := hframe.next
      rw [hpc] at hnext
      right
      -- the stages of the post, and then the status
      cases hpc' : s'.pc with
      | post p stage' =>
          rw [hpc'] at hnext
          refine OnItsWay.told data stage' ?_
          show s'.pc = .post (.dataAvailable s'.raspi.idHandling data) stage'
          rw [hpc', hraspi]
          cases hnext <;> rfl
      | rxStatus uid =>
          rw [hpc'] at hnext
          refine OnItsWay.accepted ?_
          show s'.pc = .rxStatus s'.raspi.idHandling
          rw [hpc', hraspi]
          cases hnext
          rfl
      | clear =>
          rw [hpc'] at hnext
          cases hnext with
          | replied _ hreply => exact False.elim hreply
      | _ =>
          rw [hpc'] at hnext
          cases hnext
  | accepted hpc =>
      simp only [Gateway.mainStep, hpc] at hs
      rw [← Option.some.inj hs]
      exact Or.inl (by simp)

/-- The client's requests do not disturb the way. -/
theorem onItsWay_of_share {share : DeviceCommand} {flag : Bool} (h : OnItsWay libc w) :
    OnItsWay libc ⟨{ w.gw with share := share, socketFlag := flag }, w.round⟩ := by
  cases h with
  | signalled hpc h hsig htime => exact OnItsWay.signalled hpc h hsig htime
  | noticed hpc h hsig => exact OnItsWay.noticed hpc h hsig
  | fetched hpc h => exact OnItsWay.fetched hpc h
  | read p hpc h hlen => exact OnItsWay.read p hpc h hlen
  | told data stage hpc => exact OnItsWay.told data stage hpc
  | accepted hpc => exact OnItsWay.accepted hpc

/-- Another packet does not disturb the way: the answer is out of the driver
already, since the next packet comes only then. -/
theorem packet_keeps_onItsWay {r : Round} (h : OnItsWay libc w)
    (hserial : w.round.unread = false) (hpc : s'.pc = w.gw.pc) (hraspi : s'.raspi = w.gw.raspi) :
    OnItsWay libc ⟨s', r⟩ := by
  cases h with
  | signalled _ h _ _ => exact absurd h.1 (by simp [hserial])
  | noticed _ h _ => exact absurd h.1 (by simp [hserial])
  | fetched _ h => exact absurd h.1 (by simp [hserial])
  | read p hp h hlen =>
      refine OnItsWay.read p (hpc.trans hp) ?_ hlen
      show GoodAnswer libc s'.raspi.idHandling p
      rw [hraspi]
      exact h
  | told data stage hp =>
      refine OnItsWay.told data stage ?_
      show s'.pc = .post (.dataAvailable s'.raspi.idHandling data) stage
      rw [hpc, hraspi, hp]
  | accepted hp =>
      refine OnItsWay.accepted ?_
      show s'.pc = .rxStatus s'.raspi.idHandling
      rw [hpc, hraspi, hp]

/-- The way of an answer does not lead past the end of the wait loop. -/
theorem not_onItsWay_of_waitOver (hover : waitOver w.gw.pc = true) : ¬ OnItsWay libc w := by
  intro h
  cases h with
  | signalled hpc _ _ _ =>
      revert hover hpc
      cases w.gw.pc with
      | post p stage => cases p <;> simp [waitOver, Elsewhere]
      | _ => simp [waitOver, Elsewhere]
  | noticed hpc _ _ => exact absurd hover (by simp [hpc, waitOver])
  | fetched hpc _ =>
      rcases hpc with hpc | hpc
      · exact absurd hover (by simp [hpc, waitOver])
      · exact absurd hover (by simp [hpc, waitOver])
  | read p hpc _ _ => exact absurd hover (by simp [hpc, waitOver])
  | told data stage hpc => exact absurd hover (by simp [hpc, waitOver])
  | accepted hpc => exact absurd hover (by simp [hpc, waitOver])

/-- The answer starts on its way when it passes. -/
theorem packet_starts {p : List UInt8} (hsane : Sane w.gw)
    (hgood : GoodAnswer libc w.gw.raspi.idHandling p) (hpass : Passes w.gw p)
    (hs : w.gw.packetStep p = some s') :
    OnItsWay libc ⟨s', w.nextRound libc (.packet p)⟩ := by
  have hne : p ≠ [] := by
    intro hnil
    have hp := hgood.1
    rw [hnil] at hp
    exact absurd hp (by simp [response])
  have hhear := hear_text hpass.fits hgood.2.2.1 hne hpass.sent hpass.known
  rw [hsane.task] at hhear
  obtain ⟨dev, signalled, hdev, rfl⟩ := Gateway.packetStep_spec hs
  rw [hhear] at hdev
  obtain ⟨rfl, rfl⟩ := Prod.mk.inj (Option.some.inj hdev)
  -- the filter lets the packet through, and a process is registered
  have hunread : (w.nextRound libc (.packet p)).unread = true := by
    simp only [Watched.nextRound, hhear]
    simp
  have hw : ∀ s', s'.raspi = w.gw.raspi → s'.dev.receiveBuffer = cached p →
      Waiting libc ⟨s', w.nextRound libc (.packet p)⟩ := by
    intro s' hraspi hbuffer
    refine ⟨hunread, p, ?_, hpass.fits, hbuffer⟩
    show GoodAnswer libc s'.raspi.idHandling p
    rw [hraspi]
    exact hgood
  -- SIGUSR1 is blocked only in the code that reads a packet anyway
  have hsig : ∀ pc, w.gw.pc = pc → ¬ Receiving pc →
      (w.gw.rxSig || (true && !w.gw.usr1Blocked)) = true := by
    intro pc hpc hr
    rw [hsane.unblocked (by rw [hpc]; exact hr)]
    simp
  rcases hpass.inTime with ⟨hpc, htime⟩ | hpc | hpc | hpc
  · exact OnItsWay.signalled hpc (hw _ rfl rfl) (hsig _ rfl (not_receiving_of_elsewhere hpc)) htime
  · exact OnItsWay.noticed hpc (hw _ rfl rfl) (hsig _ hpc id)
  · exact OnItsWay.fetched (Or.inl hpc) (hw _ rfl rfl)
  · exact OnItsWay.fetched (Or.inr hpc) (hw _ rfl rfl)

end Way

/-! ## §6. Runs. -/

/-- The invariant of a watched run. -/
structure Followed (libc : Libc) (w : Watched) : Prop where
  sane : Sane w.gw
  way : w.round.heard = true → w.gw.raspi.status = handled ∨ OnItsWay libc w

section Run

variable {libc : Libc} {w w' : Watched} {s' : Gateway}

/-- HANDLED stays until the next poll. -/
theorem status_stays {io : Io} (h : w.gw.raspi.status = handled) (houter : w.gw.pc ≠ .outer)
    (hs : w.gw.mainStep libc io = some s') : s'.raspi.status = handled := by
  have hframe := Gateway.mainStep_frame hs
  cases hpc : w.gw.pc with
  | rxStatus uid =>
      simp only [Gateway.mainStep, hpc] at hs
      rw [← Option.some.inj hs]
      show (if uid = w.gw.raspi.idHandling then _ else _ : Handling).status = handled
      split
      · rfl
      · exact h
  | _ =>
      rw [hframe.raspi houter (by simp [hpc])]
      exact h

theorem watch_followed {a : Action} (hinv : Followed libc w) (hserial : Serial w a)
    (hgo : GoesThrough libc w a) (h : watch libc w a = some w') : Followed libc w' := by
  obtain ⟨s', hs, rfl⟩ := Option.map_eq_some_iff.mp h
  refine ⟨step_sane hinv.sane hs, fun hheard => ?_⟩
  cases a with
  | main io =>
      by_cases houter : w.gw.pc = .outer
      · -- a new round has heard nothing
        simp only [Watched.nextRound] at hheard
        rw [if_pos houter] at hheard
        exact absurd hheard (by simp)
      · have hold : w.round.heard = true := by
          simp only [Watched.nextRound] at hheard
          rw [if_neg houter] at hheard
          split at hheard <;> exact hheard
        -- once HANDLED, always HANDLED in this round; before that, one more step of the way
        by_cases hne : w.gw.raspi.status = handled
        · exact Or.inl (status_stays hne houter hs)
        · exact mainStep_onItsWay ((hinv.way hold).resolve_left hne) hne hserial (hgo hold hne) hs
  | packet p =>
      obtain ⟨dev, signalled, -, hs'⟩ := Gateway.packetStep_spec hs
      have hraspi : s'.raspi = w.gw.raspi := by rw [hs']
      have hpc : s'.pc = w.gw.pc := by rw [hs']
      show s'.raspi.status = handled ∨ _
      by_cases hne : w.gw.raspi.status = handled
      · exact Or.inl (by rw [hraspi]; exact hne)
      right
      cases hold : w.round.heard with
      -- not the first answer: the one before is still on its way
      | true =>
          exact packet_keeps_onItsWay ((hinv.way hold).resolve_left hne) hserial hpc hraspi
      | false =>
          simp only [Watched.nextRound, hold, Bool.false_or, decide_eq_true_eq] at hheard
          exact packet_starts hinv.sane hheard.2.2 (hgo hheard hold hne) hs
  | childWrite request ack id userSet =>
      rw [← Option.some.inj hs]
      exact (hinv.way hheard).imp_right onItsWay_of_share
  | usr2 =>
      rw [← Option.some.inj hs]
      exact (hinv.way hheard).imp_right onItsWay_of_share

/-- **A NODE THAT ANSWERS IS HANDLED IN ITS ROUND**, and not called disconnected,
in every run whose answers go through. -/
theorem answering_node_handled {w₀ : Watched} (h0 : w₀.gw.Started)
    (htask : w₀.gw.dev.task.isSome = true) (hround : w₀.round.heard = false)
    (h : Reach (watch libc) (fun w a => Serial w a ∧ GoesThrough libc w a) w₀ w)
    (hheard : w.round.heard = true) :
    (w.gw.pc = .tail → w.gw.raspi.status = handled)
      ∧ ∀ stage, w.gw.pc ≠ .post .disconnected stage := by
  have hstart : Followed libc w₀ := by
    refine ⟨⟨htask, fun hpc => ?_, fun _ => h0.usr1Blocked, fun stage hpc => ?_⟩, fun hh => ?_⟩
    · rw [h0.pc] at hpc
      exact absurd hpc (by simp)
    · rw [h0.pc] at hpc
      cases hpc
    · rw [hround] at hh
      cases hh
  have hinv : Followed libc w :=
    Reach.invariant hstart (fun _ _ _ hi hok hs => watch_followed hi hok.1 hok.2 hs) h
  have hway := hinv.way hheard
  -- the way does not lead past the wait loop, so at its end the answer has arrived
  have hsettled : waitOver w.gw.pc = true → w.gw.raspi.status = handled := fun hover =>
    hway.resolve_right (not_onItsWay_of_waitOver hover)
  constructor
  · intro hpc
    exact hsettled (by rw [hpc]; rfl)
  · intro stage hpc
    exact hinv.sane.lost stage hpc (hsettled (by rw [hpc]; rfl))

end Run

/-! ## §7. The same answer in two rounds. -/

/-- One registered node, and nothing heard yet. -/
def oneNodeWatched : Watched := ⟨startWith [0x01020304], ⟨false, false, false⟩⟩

/-- The poll, the answer, and the rest of its round up to the end of the wait loop. -/
def answeredRound : List Action :=
  mains 2 ++ [.packet (response 0x01020304 sampleText)] ++ mains 10

/-- A check that is enough for the steps of `answeredRound`. -/
def passesAtHead (w : Watched) : Action → Bool
  | .packet p =>
      decide (w.round.unread = false ∧ p.length < packetSize ∧ ¬ p <+: w.gw.dev.transmitBuffer.bytes
        ∧ ¬ p <+: w.gw.dev.receiveBuffer.bytes ∧ w.gw.pc = .head ∧ 2 ≤ w.gw.timeout)
  | .main io => io.opens && decide (w.gw.raspi.idHandling ∈ w.gw.reg.ids.take 256 ∨ w.gw.pc = .outer)
  | _ => true

theorem goesThrough_of_passesAtHead {libc : Libc} {w : Watched} {a : Action}
    (h : passesAtHead w a = true) : Serial w a ∧ GoesThrough libc w a := by
  cases a with
  | packet p =>
      obtain ⟨hserial, hfits, hsent, hknown, hpc, htime⟩ := of_decide_eq_true h
      refine ⟨hserial, fun _ _ _ => ⟨hfits, hsent, hknown, Or.inl ⟨?_, htime⟩⟩⟩
      rw [hpc]
      trivial
  | main io =>
      simp only [passesAtHead, Bool.and_eq_true, decide_eq_true_eq] at h
      refine ⟨fun _ => h.1, fun _ _ buff hpc => h.2.resolve_right ?_⟩
      simp [hpc]
  | childWrite request ack id userSet => exact ⟨trivial, trivial⟩
  | usr2 => exact ⟨trivial, trivial⟩

/-- The first answer is handled before the round ends. -/
theorem first_answer_handled :
    ∃ w, Reach (watch sampleLibc) (fun w a => Serial w a ∧ GoesThrough sampleLibc w a)
        oneNodeWatched w
      ∧ w.round.heard = true ∧ w.gw.pc = .tail ∧ w.gw.raspi.status = handled := by
  have hrun : (run (only (watch sampleLibc) passesAtHead) oneNodeWatched answeredRound).map
      (fun w => (w.round.heard, w.gw.pc)) = some (true, .tail) := by decide +kernel
  obtain ⟨w, hw, hfields⟩ := Option.map_eq_some_iff.mp hrun
  obtain ⟨hheard, hpc⟩ := Prod.mk.inj hfields
  have hreach : Reach (watch sampleLibc) (fun w a => Serial w a ∧ GoesThrough sampleLibc w a)
      oneNodeWatched w := (reach_of_run _ hw).mono (fun _ _ h => goesThrough_of_passesAtHead h)
  exact ⟨w, hreach, hheard, hpc,
    (answering_node_handled (startWith_started _) rfl rfl hreach hheard).1 hpc⟩

/-- With nothing to do, the wait loop runs until its timeout. -/
theorem idle_to_tail {libc : Libc} :
    ∀ (n : Nat) (w : Watched), w.gw.pc = .head → w.gw.timeout = n + 1 →
      w.gw.raspi.status ≠ handled → w.gw.rxSig = false → w.gw.socketFlag = false →
        Reach (watch libc) Serial w ⟨{ w.gw with timeout := 0, pc := .tail }, w.round⟩ := by
  intro n w hpc htime hne hsig hflag
  refine idle_reach libc (fun s => (⟨s, w.round⟩ : Watched)) ?_ n w.gw hpc htime hne hsig hflag
  intro s s' hidle hs
  -- neither the radio nor the top of a round
  have houter : s.pc ≠ .outer ∧ s.pc ≠ .rxRecv := by
    rcases hidle with h | h | h <;> simp [h]
  refine ⟨fun hrecv => absurd hrecv houter.2, ?_⟩
  unfold watch
  rw [hs, nextRound_main houter.1 houter.2]
  rfl

/-- A round with an answer; the next poll and the same answer again; then a client
connects and is sent the node list and the node data. -/
def sameAnswerTwice : List Action :=
  answeredRound ++ mains 3 ++ [.packet (response 0x01020304 sampleText)]
    ++ [.childWrite Code.gotSock 0 0 TimeSet.zero, .usr2] ++ mains 7
    ++ [.childWrite Code.gotSock 1 0 TimeSet.zero] ++ mains 6
    ++ [.childWrite Code.gotSock 1 0 TimeSet.zero] ++ mains 3

/-- No packet arrives before the last one has been read, and the device opens. -/
def serialCheck (w : Watched) : Action → Bool
  | .packet _ => !w.round.unread
  | .main io => io.opens
  | _ => true

theorem serial_of_check {w : Watched} {a : Action} (h : serialCheck w a = true) : Serial w a := by
  cases a with
  | packet p =>
      show w.round.unread = false
      simpa [serialCheck] using h
  | main io => exact fun _ => h
  | childWrite request ack id userSet => trivial
  | usr2 => trivial

/-- The node answers, and the gateway tells its client that it is disconnected. -/
theorem answering_node_disconnected :
    ∃ w₀ w, w₀.gw.Started ∧ w₀.gw.dev.task.isSome = true ∧ w₀.round.heard = false
      ∧ Reach (watch sampleLibc) Serial w₀ w ∧ w.round.heard = true
      ∧ w.gw.raspi = ⟨0x01020304, notDone⟩ ∧ w.gw.pc = .post .disconnected .fill := by
  have hrun : (run (only (watch sampleLibc) serialCheck) oneNodeWatched sameAnswerTwice).map
      (fun w => ((w.round.heard, w.gw.pc, w.gw.timeout, w.gw.raspi),
        (w.gw.rxSig, w.gw.socketFlag, w.gw.sockStatus, w.gw.nodeCount)))
      = some ((true, .head, 59999, ⟨0x01020304, notDone⟩), (false, false, 1, 1)) := by
    decide +kernel
  obtain ⟨w, hw, hfields⟩ := Option.map_eq_some_iff.mp hrun
  simp only [Prod.mk.injEq] at hfields
  obtain ⟨⟨hheard, hpc, htime, hraspi⟩, hsig, hflag, hsock, hcount⟩ := hfields
  have hreach : Reach (watch sampleLibc) Serial oneNodeWatched w :=
    (reach_of_run _ hw).mono (fun _ _ h => serial_of_check h)
  have hne : w.gw.raspi.status ≠ handled := by
    rw [hraspi]
    decide
  -- the filter has dropped the second answer: the rest of the round is idle
  have hidle : Reach (watch sampleLibc) Serial w _ :=
    idle_to_tail 59998 w hpc htime hne hsig hflag
  have hlost : watch sampleLibc ⟨{ w.gw with timeout := 0, pc := .tail }, w.round⟩ (.main sampleIo)
      = some ⟨{ w.gw with timeout := 0, pc := .post .disconnected .fill }, w.round⟩ := by
    have htold : w.gw.raspi.status ≠ handled ∧ w.gw.sockStatus ≠ 0 ∧ w.gw.nodeCount > 0 :=
      ⟨hne, by rw [hsock]; decide, by omega⟩
    have hstep : step sampleLibc { w.gw with timeout := 0, pc := .tail } (.main sampleIo)
        = some { w.gw with timeout := 0, pc := .post .disconnected .fill } := if_pos htold
    rw [watch, hstep]
    rfl
  refine ⟨_, _, startWith_started _, rfl, rfl, (hreach.trans hidle).tail (by simp [Serial]) hlost, hheard,
    hraspi, rfl⟩

end LoRaGateway
