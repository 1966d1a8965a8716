/-
  LoRaGateway.MainLoop.Arrival
  ────────────────────────────
  **WHAT BECOMES OF AN ANSWER?**

  SIGUSR1 sets `rx_sig`, and nothing else remembers that a packet has come: the wait
  loop tests it once in each iteration, reads `receive_buffer` as it is then, and
  clears it behind the reading.  So an answer can be overtaken before it is read, and
  one that comes between the reading and `rx_sig = 0` is forgotten.  The runs here are
  the fair ones; the packets, the writes and the signals come when they like.

    • `Late` — between the reading and `rx_sig = 0`,
    • `InBuffer` — delivered and not handled yet: `rx_sig` stays up until it is read,
    • `Lost` — the three ways in which such an answer is lost,
    • `every_answer_ends` — every answer that is delivered outside these places is
      stored, shown and told, or is lost in one of the three ways.
-/
import LoRaGateway.MainLoop.Answer
import LoRaGateway.MainLoop.History
import LoRaGateway.MainLoop.Progress

namespace LoRaGateway

open LoRaGateway.Lib

/-! ## §1. Where an answer waits. -/

/-- Between the reading of a packet and `rx_sig = 0`. -/
def Late : Pc → Prop
  | .rxHandle _ | .rxSearch | .rxStatus _ | .rxUnblock | .rxClear => True
  | .post (.dataAvailable _ _) _ => True
  | _ => False

/-- The packet is in `receive_buffer`, and the parent has noticed it or will. -/
structure Arrived (p : List UInt8) (s : Gateway) : Prop where
  buffer : s.dev.receiveBuffer = cached p
  notLate : ¬ Late s.pc
  noticed : Receiving s.pc ∨ s.rxSig = true

/-- It waits to be read, or to be handled. -/
def InBuffer (p : List UInt8) (s : Gateway) : Prop :=
  Arrived p s ∨ s.pc = .rxHandle (cached p)

/-- The values of an answer reach the record of its sender, the display, and the text
for the client when there is one. -/
structure Stores (libc : Libc) (id : UInt32) (r : Reading) (s s' : Gateway) : Prop where
  newLoRa : s'.reg.newLoRa
    = s.reg.newLoRa.map (fun n => if n.id = id then Gateway.stored r n else n)
  mem : id ∈ s'.reg.ids
  screen : s'.screen = (NodeEvent.answered id r s.nodeCount).shown
  client : ∃ text, libc.sscanf text = some r
    ∧ s'.pc = if s.sockStatus ≠ 0 then .post (.dataAvailable id text) .fill else .rxStatus id

/-- How an answer that waits is lost in one step. -/
inductive Lost (id : UInt32) (p : List UInt8) (s s' : Gateway) : Action → Prop where
  /-- the driver delivers another packet before it is read -/
  | overtaken {q : List UInt8} (h : Arrived p s) (hnew : s'.dev.receiveBuffer ≠ cached p) :
      Lost id p s s' (.packet q)
  /-- the device does not open -/
  | notOpened {io : Io} (h : Arrived p s) (hpc : s.pc = .rxRecv) (hopens : io.opens = false) :
      Lost id p s s' (.main io)
  /-- the sender is not registered -/
  | unknown {io : Io} (hpc : s.pc = .rxHandle (cached p)) (hid : id ∉ s.reg.ids) :
      Lost id p s s' (.main io)

section Step

variable {libc : Libc} {io : Io} {s s' : Gateway} {id : UInt32} {p : List UInt8}

theorem late_post {q : Post} {stage stage' : Stage} :
    Late (.post q stage) ↔ Late (.post q stage') := by
  cases q <;> exact Iff.rfl

/-- The places where SIGUSR1 is blocked before the packet is read. -/
theorem receiving_not_late {pc : Pc} (h : Receiving pc) (hlate : ¬ Late pc) :
    pc = .rxBlocked ∨ pc = .rxRecv := by
  cases pc with
  | rxBlocked => exact Or.inl rfl
  | rxRecv => exact Or.inr rfl
  | post q stage =>
      cases q with
      | dataAvailable uid data => exact absurd trivial hlate
      | _ => exact False.elim h
  | _ => first | exact absurd trivial hlate | exact False.elim h

/-- Only the reading leads there. -/
theorem not_late_of_next {pc pc' : Pc} (h : Gateway.Next pc pc') (hlate : ¬ Late pc)
    (hrecv : pc ≠ .rxRecv) : ¬ Late pc' := by
  cases h with
  | received buff => exact absurd rfl hrecv
  | fill q _ => exact fun hl => hlate (late_post.mp hl)
  | clearAck q _ => exact fun hl => hlate (late_post.mp hl)
  | signal q => exact fun hl => hlate (late_post.mp hl)
  | _ => first | exact hlate | exact absurd trivial hlate | exact id

/-- A delivered packet that is found outside these places begins to wait. -/
theorem inBuffer_of_delivered (hsane : Sane s) (hlate : ¬ Late s.pc) (hlen : p.length < packetSize)
    (hz : (0 : UInt8) ∉ p) (hne : p ≠ []) (hsent : ¬ p <+: s.dev.transmitBuffer.bytes)
    (hknown : ¬ p <+: s.dev.receiveBuffer.bytes) (h : step libc s (.packet p) = some s') :
    InBuffer p s' := by
  obtain ⟨dev, signalled, hhear, rfl⟩ := Gateway.packetStep_spec h
  rw [hear_text hlen hz hne hsent hknown] at hhear
  obtain ⟨rfl, rfl⟩ := Prod.mk.inj (Option.some.inj hhear)
  refine Or.inl ⟨rfl, hlate, ?_⟩
  by_cases hr : Receiving s.pc
  · exact Or.inl hr
  · right
    show (s.rxSig || (s.dev.task.isSome && !s.usr1Blocked)) = true
    rw [hsane.task, hsane.unblocked hr]
    simp

/-! ## §2. One step. -/

/-- An answer of a registered node is heard. -/
theorem heard_answer (hgood : GoodAnswer libc id p) (hlen : p.length < packetSize)
    (hid : id ∈ s.reg.ids.take 256) :
    ∃ r, libc.sscanf (p.drop baseData) = some r ∧ s.heard libc (cached p) = some (id, r) := by
  obtain ⟨hp, -, hz, hscan⟩ := hgood
  obtain ⟨r, hr⟩ := Option.isSome_iff_exists.mp hscan
  have hbytes : (cached p).bytes
      = response id (p.drop baseData) ++ List.replicate (packetSize - p.length) 0 := by
    rw [← hp, cached_eq (Nat.le_of_lt hlen)]
    rfl
  have htext : (p.drop baseData).length ≤ 50 := by
    rw [List.length_drop]
    show p.length - 10 ≤ 50
    have : p.length < 60 := hlen
    omega
  obtain ⟨data, hunpack, hdata⟩ := unpack_response htext hbytes
  have hcstr : cstr data.bytes = p.drop baseData := by
    rw [hdata, cstr_append_replicate, cstr_eq_self (fun h => hz (List.mem_of_mem_drop h))]
  have hkind : (cached p).bytes.getD 0 0 = Code.responseData := by
    rw [hbytes]
    rfl
  refine ⟨r, hr, ?_⟩
  unfold Gateway.heard
  rw [if_pos hkind, hunpack, Option.bind_some, if_pos ⟨rfl, hid⟩, hcstr, hr, Option.map_some]

/-- The step of the parent that handles it. -/
theorem handle_step (hgood : GoodAnswer libc id p) (hlen : p.length < packetSize)
    (hnd : s.reg.ids.Nodup) (hroom : s.nodeCount < 256) (hid : id ∈ s.reg.ids)
    (h : s.handlerRxData libc (cached p) = some s') :
    ∃ r, libc.sscanf (p.drop baseData) = some r ∧ Stores libc id r s s' := by
  have htake : s.reg.ids.take 256 = s.reg.ids :=
    List.take_of_length_le (by rw [length_ids]; exact hroom.le)
  obtain ⟨r, hr, hheard⟩ := heard_answer hgood hlen (by rw [htake]; exact hid)
  refine ⟨r, hr, ?_⟩
  rcases Gateway.handlerRxData_heard hnd h with
    ⟨hnone, -⟩ | ⟨uid, text, r', hsome, ht, hreg, hscreen, hpc⟩
  · rw [hheard] at hnone
    cases hnone
  · rw [hheard] at hsome
    obtain ⟨rfl, rfl⟩ := Prod.mk.inj (Option.some.inj hsome)
    exact ⟨hreg, by rw [Gateway.handlerRxData_ids h]; exact hid, hscreen, text, ht, hpc⟩

/-- **One step.**  An answer that waits goes on waiting, or is stored, or is lost. -/
theorem inBuffer_step {a : Action} (hgood : GoodAnswer libc id p) (hlen : p.length < packetSize)
    (hsane : Sane s) (hnd : s.reg.ids.Nodup) (hroom : s.nodeCount < 256) (hw : InBuffer p s)
    (h : step libc s a = some s') :
    InBuffer p s' ∨ (∃ r, libc.sscanf (p.drop baseData) = some r ∧ Stores libc id r s s')
      ∨ Lost id p s s' a := by
  have hz : (0 : UInt8) ∉ p := hgood.2.2.1
  cases a with
  | main io =>
      rcases hw with hu | hpc
      · have hframe := Gateway.mainStep_frame h
        have hbuffer : s'.dev.receiveBuffer = cached p := hframe.receiveBuffer.trans hu.buffer
        cases hpc : s.pc with
        | rxBlocked =>
            -- the wait loop has found the status not HANDLED
            simp only [step, Gateway.mainStep, hpc] at h
            rw [if_neg (hsane.unanswered (Or.inr hpc))] at h
            rw [← Option.some.inj h] at hbuffer ⊢
            exact Or.inl (Or.inl ⟨hbuffer, fun hl => hl, Or.inl trivial⟩)
        | rxRecv =>
            cases hopens : io.opens with
            | false => exact Or.inr (Or.inr (.notOpened hu hpc hopens))
            | true =>
                simp only [step, Gateway.mainStep, hpc, hopens] at h
                rw [loraReceive_cached hlen hz hu.buffer] at h
                rw [← Option.some.inj h]
                exact Or.inl (Or.inr rfl)
        | rxTest =>
            have hsig := hu.noticed.resolve_left (by rw [hpc]; exact fun hr => hr)
            simp only [step, Gateway.mainStep, hpc] at h
            rw [if_pos hsig] at h
            rw [← Option.some.inj h] at hbuffer ⊢
            exact Or.inl (Or.inl ⟨hbuffer, fun hl => hl, Or.inl trivial⟩)
        | rxUnblock | rxClear =>
            exact absurd (by rw [hpc]; trivial) hu.notLate
        | _ =>
            have hsig : s.rxSig = true := by
              refine hu.noticed.resolve_left (fun hr => ?_)
              rcases receiving_not_late hr hu.notLate with hpc' | hpc' <;> simp [hpc] at hpc'
            refine Or.inl (Or.inl ⟨hbuffer,
              not_late_of_next hframe.next hu.notLate (by simp [hpc]), Or.inr ?_⟩)
            rw [hframe.rxSig (by simp [hpc]) (by simp [hpc]) (by simp [hpc])]
            exact hsig
      · simp only [step, Gateway.mainStep, hpc] at h
        by_cases hid : id ∈ s.reg.ids
        · exact Or.inr (Or.inl (handle_step hgood hlen hnd hroom hid h))
        · exact Or.inr (Or.inr (.unknown hpc hid))
  | packet q =>
      obtain ⟨dev, signalled, -, rfl⟩ := Gateway.packetStep_spec h
      rcases hw with hu | hpc
      · by_cases hsame : dev.receiveBuffer = cached p
        · exact Or.inl (Or.inl ⟨hsame, hu.notLate, hu.noticed.imp_right (fun hsig => by
            show (s.rxSig || _) = true
            rw [hsig, Bool.true_or])⟩)
        · exact Or.inr (Or.inr (.overtaken hu hsame))
      · exact Or.inl (Or.inr hpc)
  | childWrite request ack id' userSet =>
      rw [← Option.some.inj h]
      exact Or.inl (hw.imp_left (fun hu => ⟨hu.buffer, hu.notLate, hu.noticed⟩))
  | usr2 =>
      rw [← Option.some.inj h]
      exact Or.inl (hw.imp_left (fun hu => ⟨hu.buffer, hu.notLate, hu.noticed⟩))

/-- While an answer waits, the way to the test of `socket_flag` leads through its reading. -/
theorem not_sock_of_inBuffer {a : Action} (hsane : Sane s) (hw : InBuffer p s) (hpc : s.pc ≠ .sock)
    (h : step libc s a = some s') : s'.pc ≠ .sock := by
  cases a with
  | main io =>
      intro hsock
      have hnext := (Gateway.mainStep_frame h).next
      rw [hsock] at hnext
      cases hplace : s.pc with
      | rxTest =>
          have hu := hw.resolve_right (by simp [hplace])
          have hsig := hu.noticed.resolve_left (by rw [hplace]; exact fun hr => hr)
          simp only [step, Gateway.mainStep, hplace] at h
          rw [if_pos hsig] at h
          rw [← Option.some.inj h] at hsock
          cases hsock
      | rxBlocked =>
          simp only [step, Gateway.mainStep, hplace] at h
          rw [if_neg (hsane.unanswered (Or.inr hplace))] at h
          rw [← Option.some.inj h] at hsock
          cases hsock
      | rxClear =>
          have hu := hw.resolve_right (by simp [hplace])
          exact hu.notLate (by rw [hplace]; trivial)
      | _ =>
          rw [hplace] at hnext
          cases hnext
  | _ =>
      rw [(step_outside h (by simp)).1]
      exact hpc

end Step

/-! ## §3. Runs. -/

section Runs

variable {libc : Libc} {r : Forever (step libc)} {id : UInt32} {p : List UInt8}

/-- **No answer waits for ever**: the test of `socket_flag` comes again and again, and
the answer is read before it comes twice. -/
theorem inBuffer_ends (hfair : FairRun r) (hnodes : ∀ n, (r.state n).nodeCount > 0)
    (hsane : ∀ n, Sane (r.state n)) (n : Nat) : ∃ m, n ≤ m ∧ ¬ InBuffer p (r.state m) := by
  by_contra hnever
  have hall : ∀ m, n ≤ m → InBuffer p (r.state m) := by
    intro m hm
    by_contra hnot
    exact hnever ⟨m, hm, hnot⟩
  obtain ⟨t, ht, hpc, io, ha⟩ := tests_go_on hfair hnodes n
  have hbehind : (r.state (t + 1)).pc ≠ .sock := by
    have hnext := r.follows t
    rw [ha] at hnext
    intro hsock
    have hedge := (Gateway.mainStep_frame hnext).next
    rw [hpc, hsock] at hedge
    cases hedge
  obtain ⟨t', ht', hpc', -⟩ := tests_go_on hfair hnodes (t + 1)
  exact r.invariant (P := fun s => s.pc ≠ .sock) hbehind
    (fun k hk hne => not_sock_of_inBuffer (hsane k) (hall k (by omega)) hne (r.follows k))
    t' ht' hpc'

/-- An answer that the driver delivers is stored, or lost. -/
theorem answer_handled (hfair : FairRun r) (hnodes : ∀ n, (r.state n).nodeCount > 0)
    (htask : (r.state 0).dev.task.isSome = true) (hnd : (r.state 0).reg.ids.Nodup) {n : Nat}
    (ha : r.action n = .packet p) (hgood : GoodAnswer libc id p) (hlen : p.length < packetSize)
    (hsent : ¬ p <+: (r.state n).dev.transmitBuffer.bytes)
    (hknown : ¬ p <+: (r.state n).dev.receiveBuffer.bytes) (hlate : ¬ Late (r.state n).pc) :
    ∃ m, n < m ∧ ((∃ reading, libc.sscanf (p.drop baseData) = some reading
        ∧ Stores libc id reading (r.state m) (r.state (m + 1)))
      ∨ Lost id p (r.state m) (r.state (m + 1)) (r.action m)) := by
  have hsane : ∀ k, Sane (r.state k) := fun k => by
    refine r.invariant (P := Sane) (m := 0) ⟨htask, fun hpc => ?_,
      fun _ => hfair.start.usr1Blocked, fun stage hpc => ?_⟩
      (fun j _ hs => step_sane hs (r.follows j)) k (Nat.zero_le k)
    · simp [hfair.start.pc] at hpc
    · simp [hfair.start.pc] at hpc
  have hnodup : ∀ k, (r.state k).reg.ids.Nodup := fun k =>
    r.invariant (P := fun s => s.reg.ids.Nodup) (m := 0) hnd
      (fun j _ hs => Gateway.step_nodup hs (r.follows j)) k (Nat.zero_le k)
  have hne : p ≠ [] := by
    rintro rfl
    have hp : ([] : List UInt8) = response id [] := hgood.1
    cases hp
  have hwait : InBuffer p (r.state (n + 1)) := by
    have hstep := r.follows n
    rw [ha] at hstep
    exact inBuffer_of_delivered (hsane n) hlate hlen hgood.2.2.1 hne hsent hknown hstep
  obtain ⟨top, htop, hnot⟩ := inBuffer_ends (p := p) hfair hnodes hsane (n + 1)
  -- the last moment at which it waits
  obtain ⟨m, hm, -, hlast, hend⟩ :=
    last_before (P := fun k => InBuffer p (r.state k)) hwait htop hnot
  refine ⟨m, hm, ?_⟩
  rcases inBuffer_step hgood hlen (hsane m) (hnodup m) (hfair.room m) hlast (r.follows m) with
    hstill | ⟨reading, hreading, hstores⟩ | hlost
  · exact absurd hstill hend
  · exact Or.inl ⟨reading, hreading, hstores⟩
  · exact Or.inr hlost

/-- The client, if there is one, acknowledges what was stored. -/
theorem told_ends (hfair : FairRun r) {n : Nat} {reading : Reading}
    (h : Stores libc id reading (r.state n) (r.state (n + 1))) :
    ∃ k, n < k ∧ (r.state k).pc = .rxStatus id := by
  obtain ⟨text, -, hpc⟩ := h.client
  by_cases hsock : (r.state n).sockStatus ≠ 0
  · rw [if_pos hsock] at hpc
    have hkeep : ∀ k, n + 1 ≤ k →
        (∃ stage, (r.state k).pc = .post (.dataAvailable id text) stage) →
        (∃ stage, (r.state (k + 1)).pc = .post (.dataAvailable id text) stage)
          ∨ (r.state (k + 1)).pc = .rxStatus id := by
      rintro k - ⟨stage, hpost⟩
      have hstep := r.follows k
      cases ha : r.action k with
      | main io =>
          rw [ha] at hstep
          have hnext := (Gateway.mainStep_frame hstep).next
          rw [hpost] at hnext
          generalize (r.state (k + 1)).pc = pc' at hnext ⊢
          cases hnext with
          | reported => exact Or.inr rfl
          | replied _ hp => exact False.elim hp
          | _ => exact Or.inl ⟨_, rfl⟩
      | _ =>
          rw [(step_outside hstep (by simp [ha])).1]
          exact Or.inl ⟨stage, hpost⟩
    obtain ⟨top, htop, hat⟩ := rounds_go_on hfair (n + 1)
    have hover : ¬ ∃ stage, (r.state top).pc = .post (.dataAvailable id text) stage := by
      rintro ⟨stage, hpost⟩
      rw [show (r.state top).pc = .outer from hat] at hpost
      cases hpost
    obtain ⟨k, hk, hstatus⟩ := becomes
      (P := fun k => ∃ stage, (r.state k).pc = .post (.dataAvailable id text) stage)
      (Q := fun k => (r.state k).pc = .rxStatus id) ⟨.fill, hpc⟩ hkeep ⟨top, htop, hover⟩
    exact ⟨k, by omega, hstatus⟩
  · rw [if_neg hsock] at hpc
    exact ⟨n + 1, Nat.lt_succ_self n, hpc⟩

/-- **WHAT BECOMES OF AN ANSWER.**  In a fair run with nodes, an answer that the driver
delivers outside the places between a reading and `rx_sig = 0` is stored, shown and
acknowledged by the client if there is one; or it is overtaken by another packet, the
device does not open, or its sender is not registered. -/
theorem every_answer_ends (hfair : FairRun r) (hnodes : ∀ n, (r.state n).nodeCount > 0)
    (htask : (r.state 0).dev.task.isSome = true) (hnd : (r.state 0).reg.ids.Nodup) {n : Nat}
    (ha : r.action n = .packet p) (hgood : GoodAnswer libc id p) (hlen : p.length < packetSize)
    (hsent : ¬ p <+: (r.state n).dev.transmitBuffer.bytes)
    (hknown : ¬ p <+: (r.state n).dev.receiveBuffer.bytes) (hlate : ¬ Late (r.state n).pc) :
    ∃ m, n < m ∧ ((∃ reading, libc.sscanf (p.drop baseData) = some reading
        ∧ Stores libc id reading (r.state m) (r.state (m + 1))
        ∧ ∃ k, m < k ∧ (r.state k).pc = .rxStatus id)
      ∨ Lost id p (r.state m) (r.state (m + 1)) (r.action m)) := by
  obtain ⟨m, hm, hend⟩ := answer_handled hfair hnodes htask hnd ha hgood hlen hsent hknown hlate
  refine ⟨m, hm, ?_⟩
  rcases hend with ⟨reading, hreading, hstores⟩ | hlost
  · exact Or.inl ⟨reading, hreading, hstores, told_ends hfair hstores⟩
  · exact Or.inr hlost

end Runs

/-! ## §4. One answer, and no client. -/

/-- The node answers the values `1 2 3 4 7`. -/
def nodeAnswer : List UInt8 := response 0x01020304 sampleText

theorem goodAnswer_nodeAnswer : GoodAnswer sampleLibc 0x01020304 nodeAnswer := by decide

/-- Outside the handling of requests, with at most this answer in hand. -/
def Listens : Pc → Prop
  | .outer | .polled | .head | .rxTest | .rxBlocked | .rxRecv => True
  | .rxHandle buff => buff = cached nodeAnswer
  | .rxStatus _ | .rxUnblock | .rxClear | .sock | .tail => True
  | _ => False

/-- One node, which has answered, and no client. -/
structure HasAnswered (s : Gateway) : Prop where
  pc : Listens s.pc
  ids : s.reg.ids = [0x01020304]
  i : s.i = 0
  sockStatus : s.sockStatus = 0
  socketFlag : s.socketFlag = false
  buffer : s.dev.receiveBuffer = cached nodeAnswer

theorem answered_step {s : Gateway} (h : HasAnswered s) :
    ∃ s', step sampleLibc s (.main sampleIo) = some s' ∧ HasAnswered s' := by
  obtain ⟨hpc, hids, hi, hsock, hflag, hbuffer⟩ := h
  have hcount : s.nodeCount = 1 := by rw [← length_ids, hids]; rfl
  cases hplace : s.pc with
  | outer =>
      obtain ⟨node, hnode⟩ : ∃ node, s.reg.newLoRa[s.i]? = some node :=
        ⟨_, List.getElem?_eq_getElem (by rw [hi]; show 0 < s.nodeCount; omega)⟩
      obtain ⟨s', hs'⟩ := poll_defined sampleIo hnode
      obtain ⟨_, dev, -, hkept, -, hafter⟩ := Gateway.poll_spec hs'
      refine ⟨s', ?_, by rw [hafter]; trivial, by simp [hafter, hids], by simp [hafter, hi],
        by simp [hafter, hsock], by simp [hafter, hflag], by simp [hafter, hkept, hbuffer]⟩
      simp only [step, Gateway.mainStep, hplace]
      rw [if_pos (by omega)]
      exact hs'
  | polled =>
      refine ⟨{ s with i := Gateway.nextIndex s.i s.nodeCount, pc := .head },
        by simp only [step, Gateway.mainStep, hplace], trivial, hids, ?_, hsock, hflag, hbuffer⟩
      rw [hi, hcount]
      rfl
  | head =>
      have hstep : step sampleLibc s (.main sampleIo) = some s.headStep := by
        simp only [step, Gateway.mainStep, hplace]
      unfold Gateway.headStep at hstep
      simp only at hstep
      split at hstep
      · exact ⟨_, hstep, trivial, hids, hi, hsock, hflag, hbuffer⟩
      · exact ⟨_, hstep, trivial, hids, hi, hsock, hflag, hbuffer⟩
  | rxTest =>
      simp only [step, Gateway.mainStep, hplace]
      split
      · exact ⟨_, rfl, trivial, hids, hi, hsock, hflag, hbuffer⟩
      · exact ⟨_, rfl, trivial, hids, hi, hsock, hflag, hbuffer⟩
  | rxBlocked =>
      simp only [step, Gateway.mainStep, hplace]
      split
      · exact ⟨_, rfl, trivial, hids, hi, hsock, hflag, hbuffer⟩
      · exact ⟨_, rfl, trivial, hids, hi, hsock, hflag, hbuffer⟩
  | rxRecv =>
      refine ⟨{ s with pc := .rxHandle (cached nodeAnswer) }, ?_, rfl, hids, hi, hsock, hflag,
        hbuffer⟩
      have hread : loraReceive s.dev sampleIo.opens (Buffer.zero packetSize)
          = some (0, cached nodeAnswer) := loraReceive_cached (by decide) (by decide) hbuffer
      simp only [step, Gateway.mainStep, hplace, hread, Option.bind_eq_bind, Option.bind_some]
  | rxHandle buff =>
      obtain rfl : buff = cached nodeAnswer := by
        rw [hplace] at hpc
        exact hpc
      have hmem : (0x01020304 : UInt32) ∈ s.reg.ids.take 256 := by
        rw [hids]
        decide
      obtain ⟨k, node, screen, text, hstep⟩ :=
        handlerRxData_answer goodAnswer_nodeAnswer (by decide) hmem
      have hkept := Gateway.handlerRxData_ids hstep
      rw [if_neg (by rw [hsock]; decide)] at hstep hkept
      have hmain : step sampleLibc s (.main sampleIo)
          = s.handlerRxData sampleLibc (cached nodeAnswer) := by
        simp only [step, Gateway.mainStep, hplace]
      exact ⟨_, hmain.trans hstep, trivial, hkept.trans hids, hi, hsock, hflag, hbuffer⟩
  | rxStatus uid | rxUnblock | rxClear =>
      simp only [step, Gateway.mainStep, hplace]
      exact ⟨_, rfl, trivial, hids, hi, hsock, hflag, hbuffer⟩
  | sock =>
      refine ⟨{ s with pc := .head }, ?_, trivial, hids, hi, hsock, hflag, hbuffer⟩
      simp [step, Gateway.mainStep, hplace, hflag]
  | tail =>
      refine ⟨s.endRound, ?_, trivial, hids, hi, hsock, hflag, hbuffer⟩
      simp [step, Gateway.mainStep, hplace, hsock]
  | _ =>
      rw [hplace] at hpc
      exact False.elim hpc

/-- The answer comes before the first poll. -/
def answeredStart : Gateway :=
  { startWith [0x01020304] with
    rxSig := true
    dev := { freshDev with receiveBuffer := cached nodeAnswer, cacheBuffer := cached nodeAnswer } }

theorem answered_start : HasAnswered answeredStart := ⟨trivial, rfl, rfl, rfl, rfl, rfl⟩

theorem packet_comes :
    step sampleLibc (startWith [0x01020304]) (.packet nodeAnswer) = some answeredStart := by
  decide +kernel

/-- The answer, and then the parent runs for ever. -/
def answeredOnce : Forever (step sampleLibc) :=
  (Forever.again answeredStart (.main sampleIo) answered_start (fun _ => answered_step)).cons
    (startWith [0x01020304]) (.packet nodeAnswer) packet_comes

theorem answeredOnce_all (n : Nat) : HasAnswered (answeredOnce.state (n + 1)) :=
  Forever.again_invariant answered_start (fun _ => answered_step) n

theorem answeredOnce_nodeCount (n : Nat) : (answeredOnce.state n).nodeCount = 1 := by
  cases n with
  | zero => rfl
  | succ n =>
      rw [← length_ids, (answeredOnce_all n).ids]
      rfl

theorem answeredOnce_fair : FairRun answeredOnce where
  start := startWith_started _
  served := by
    refine fun n => ⟨n + 1, Nat.le_succ n, ⟨sampleIo, rfl⟩, fun q hpc => ?_⟩
    have h := (answeredOnce_all n).pc
    rw [hpc] at h
    exact False.elim h
  room := by
    intro n
    rw [answeredOnce_nodeCount]
    decide

theorem every_answer_ends_once :
    ∃ m, 0 < m ∧ ((∃ reading, sampleLibc.sscanf (nodeAnswer.drop baseData) = some reading
        ∧ Stores sampleLibc 0x01020304 reading (answeredOnce.state m) (answeredOnce.state (m + 1))
        ∧ ∃ k, m < k ∧ (answeredOnce.state k).pc = .rxStatus 0x01020304)
      ∨ Lost 0x01020304 nodeAnswer (answeredOnce.state m) (answeredOnce.state (m + 1))
          (answeredOnce.action m)) :=
  every_answer_ends answeredOnce_fair (fun n => by rw [answeredOnce_nodeCount]; decide) rfl
    (by decide) rfl goodAnswer_nodeAnswer (by decide) (by decide) (by decide) id

end LoRaGateway
