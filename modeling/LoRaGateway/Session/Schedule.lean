/-
  LoRaGateway.Session.Schedule
  ────────────────────────────
  **A SCHEDULE ON ITS WAY FROM THE CLIENT TO THE NODE.**

  Sixteen numbers are read from a text in one order, kept in a struct that has
  another, copied from the shared memory to the record of the node, and printed again
  for the packet.  The text that is printed is as long as the numbers make it, and
  nothing bounds it.

    • `handle` — the parent from the request on, with the packets that it formats,
    • `manual_schedule_fidelity` — the packet holds the numbers of the message, and one
      record gets them,
    • `scheduleInBounds_iff` — for which numbers the text and the packet stay inside
      their arrays.
-/
import LoRaGateway.Session.Grammar
import LoRaGateway.MainLoop.PollIndex

namespace LoRaGateway

open LoRaGateway.Lib

/-! ## §1. The message. -/

/-- `"6 id a1 … a16"`. -/
def manualMessage (z : Int) (numbers : List Int32) : List UInt8 :=
  decimal Code.modeManual.toNat ++ 32 :: (decimal z ++ 32 :: numbersText numbers)

/-- Sixteen numbers that are stored one by one are found again in their order. -/
theorem numbers_ofNumbers {numbers : List Int32} (h : numbers.length = 16) :
    (TimeSet.ofNumbers numbers).numbers = numbers := by
  match numbers, h with
  | [_, _, _, _, _, _, _, _, _, _, _, _, _, _, _, _], _ => rfl

/-- The text that is printed is the text that was read. -/
theorem manualText_ofNumbers {numbers : List Int32} (h : numbers.length = 16) :
    manualText (TimeSet.ofNumbers numbers) = numbersText numbers := by
  unfold manualText numbersText
  rw [numbers_ofNumbers h]

theorem tokens_manualMessage (z : Int) (numbers : List Int32) :
    tokens 32 (manualMessage z numbers)
      = decimal Code.modeManual.toNat :: decimal z :: numbers.map (fun x => decimal x.toInt) := by
  unfold manualMessage
  rw [tokens_append (decimal_ne_nil _) (space_not_mem_decimal _),
    tokens_append (decimal_ne_nil _) (space_not_mem_decimal _), tokens_numbersText]

/-- The message is a text of the grammar, and so says what it is meant to say. -/
theorem says_manualMessage {z : Int} {numbers : List Int32} (hlo : -2147483648 ≤ z)
    (hhi : z < 4294967296) (hsixteen : numbers.length = 16)
    (hlen : (numbersText numbers).length ≤ 49) :
    Says (.manual (UInt32.ofInt z) (TimeSet.ofNumbers numbers)) (manualMessage z numbers) := by
  have hcode : decimal Code.modeManual.toNat = [54] := by decide
  have hzero : (0 : UInt8) ∉ manualMessage z numbers := by
    unfold manualMessage
    simp [hcode, zero_not_mem_decimal z, zero_not_mem_numbersText]
  have hlength : (manualMessage z numbers).length ≤ 1023 := by
    have hid := length_decimal_id hlo hhi
    unfold manualMessage
    simp only [hcode, List.length_append, List.length_cons, List.length_nil]
    omega
  have hnumerals : (numbers.map (fun x => decimal x.toInt)).map numeralValue
      = (TimeSet.ofNumbers numbers).numbers.map (fun x => some x.toInt) := by
    rw [numbers_ofNumbers hsixteen, List.map_map]
    exact List.map_congr_left (fun x _ => numeral_decimal x.toInt)
  exact Order.Written.reads hzero hlength ⟨decimal z, numbers.map (fun x => decimal x.toInt),
    tokens_manualMessage z numbers, ⟨z, numeral_decimal z, hlo, hhi, rfl⟩, hnumerals⟩

/-! ## §2. The parent. -/

namespace Gateway

/-- The packets that a step of the parent formats. -/
def formats (io : Io) (s : Gateway) : List LoRaPacket :=
  match s.pc with
  | .outer => ((s.reg.newLoRa[s.i]?).bind fun node =>
      (MainPacket.requestData io.tm).build node.id).toList
  | .modeLoop kind tmp => ((s.reg.newLoRa[tmp]?).bind fun node =>
      if s.share.idToHandler = node.id then (modePacket io s node kind).1.build node.id
      else none).toList
  | _ => []

/-- The parent handles a request, up to the next `while (--timeout)`: the packets that
it formats, and where it gets. -/
def handle (libc : Libc) : List Io → Gateway → List LoRaPacket × Option Gateway
  | [], s => ([], some s)
  | io :: ios, s =>
      if s.pc = .head then ([], some s)
      else
        match s.mainStep libc io with
        | none => (s.formats io, none)
        | some s' => (s.formats io ++ (handle libc ios s').1, (handle libc ios s').2)

section Handle

variable {libc : Libc} {s : Gateway}

theorem handle_head (ios : List Io) (h : s.pc = .head) : handle libc ios s = ([], some s) := by
  cases ios with
  | nil => rfl
  | cons io ios => exact if_pos h

/-- A step that formats nothing. -/
theorem handle_silent {io : Io} {s' : Gateway} (ios : List Io) (hpc : s.pc ≠ .head)
    (hformats : s.formats io = []) (h : s.mainStep libc io = some s') :
    handle libc (io :: ios) s = handle libc ios s' := by
  rw [handle, if_neg hpc, h, hformats]
  rfl

/-- `socket_flag = 0`, and the request is handled. -/
theorem handle_clear {ios : List Io} (hpc : s.pc = .clear) (hlen : 1 ≤ ios.length) :
    handle libc ios s = ([], some { s with socketFlag := false, pc := .head }) := by
  cases ios with
  | nil => exact absurd hlen (by simp)
  | cons io ios =>
      have hstep : s.mainStep libc io = some { s with socketFlag := false, pc := .head } := by
        simp [mainStep, hpc]
      rw [handle_silent ios (by simp [hpc]) (by simp [formats, hpc]) hstep]
      exact handle_head ios rfl

/-- The `switch` finds MODE_MANUAL. -/
theorem handle_sock {ios : List Io} (hpc : s.pc = .sock) (hflag : s.socketFlag = true)
    (hrequest : s.share.request = Code.modeManual) (hlen : 1 ≤ ios.length) :
    handle libc ios s = handle libc ios.tail { s with pc := .modeLoop .manual 0 } := by
  cases ios with
  | nil => exact absurd hlen (by simp)
  | cons io ios =>
      refine handle_silent ios (by simp [hpc]) (by simp [formats, hpc]) ?_
      simp only [mainStep, hpc, hflag, if_true, dispatch, hrequest]
      rw [if_neg (by decide), if_neg (by decide), if_neg (by decide), if_neg (by decide)]

/-- Records with other ids are passed over. -/
theorem handle_skip {kind : ModeKind} :
    ∀ (d tmp : Nat) (ios : List Io), d ≤ ios.length →
      (∀ j, tmp ≤ j → j < tmp + d →
        ∃ node, s.reg.newLoRa[j]? = some node ∧ node.id ≠ s.share.idToHandler) →
      handle libc ios { s with pc := .modeLoop kind tmp }
        = handle libc (ios.drop d) { s with pc := .modeLoop kind (tmp + d) } := by
  intro d
  induction d with
  | zero => intro tmp ios _ _; rfl
  | succ d ih =>
      intro tmp ios hlen hother
      cases ios with
      | nil => exact absurd hlen (by simp)
      | cons io ios =>
          obtain ⟨node, hnode, hid⟩ := hother tmp (Nat.le_refl _) (by omega)
          have hne : ¬ s.share.idToHandler = node.id := fun h => hid h.symm
          have hlt : tmp < s.nodeCount := (List.getElem?_eq_some_iff.mp hnode).1
          have hstep : mainStep libc io { s with pc := .modeLoop kind tmp }
              = some { s with pc := .modeLoop kind (tmp + 1) } := by
            show modeStep io kind tmp _ = _
            unfold modeStep
            rw [if_pos (show tmp < nodeCount { s with pc := .modeLoop kind tmp } from hlt)]
            show (s.reg.newLoRa[tmp]?).bind _ = _
            rw [hnode, Option.bind_some]
            exact if_neg hne
          rw [handle_silent ios (by simp) (by simp [formats, hnode, hne]) hstep,
            ih (tmp + 1) ios (Nat.le_of_succ_le_succ hlen) (fun j hj hj' =>
              hother j (by omega) (by omega)), List.drop_succ_cons]
          congr 2
          rw [Nat.add_assoc, Nat.add_comm 1 d]

/-- No record has the id: the loop runs to its end. -/
theorem handle_unregistered {kind : ModeKind} {ios : List Io}
    (hid : s.share.idToHandler ∉ s.reg.ids) (hlen : s.nodeCount + 2 ≤ ios.length) :
    handle libc ios { s with pc := .modeLoop kind 0 }
      = ([], some { s with socketFlag := false, pc := .head }) := by
  rw [handle_skip s.nodeCount 0 ios (by omega)]
  · rw [Nat.zero_add]
    have hdrop : 2 ≤ (ios.drop s.nodeCount).length := by
      rw [List.length_drop]
      omega
    cases hios : ios.drop s.nodeCount with
    | nil =>
        rw [hios] at hdrop
        exact absurd hdrop (by simp)
    | cons io rest =>
        have hnone : s.reg.newLoRa[s.nodeCount]? = none := List.getElem?_eq_none (Nat.le_refl _)
        have hstep : mainStep libc io { s with pc := .modeLoop kind s.nodeCount }
            = some { s with pc := .clear } := by
          show modeStep io kind s.nodeCount _ = _
          unfold modeStep
          exact if_neg (Nat.lt_irrefl _)
        rw [hios, List.length_cons] at hdrop
        rw [handle_silent rest (by simp) (by simp [formats, hnone]) hstep]
        exact handle_clear rfl (by omega)
  · intro j _ hj
    rw [Nat.zero_add] at hj
    refine ⟨s.reg.newLoRa[j], List.getElem?_eq_getElem hj, fun h => hid ?_⟩
    rw [← h]
    exact List.mem_map_of_mem (List.getElem_mem hj)

/-- The record with the id: its schedule is set, and the packet is sent. -/
theorem handle_found {k : Nat} {node : LoRaNode} {ios : List Io}
    (hnode : s.reg.newLoRa[k]? = some node) (hid : s.share.idToHandler = node.id)
    {pkt : LoRaPacket} {tx : Buffer packetSize}
    (hbuild : (MainPacket.modeManual (manualText s.share.userSet)).build node.id = some pkt)
    (hformat : formatPkt pkt = some tx) (hlen : 2 ≤ ios.length) :
    ∃ io ∈ ios, handle libc ios { s with pc := .modeLoop .manual k }
      = ([pkt], (s.dev.transmit io.opens tx).map (fun dev =>
          { s with
            reg := { s.reg with
              newLoRa := s.reg.newLoRa.set k { node with workingTime := s.share.userSet } }
            dev := dev
            socketFlag := false
            pc := .head })) := by
  cases ios with
  | nil => exact absurd hlen (by simp)
  | cons io ios =>
      refine ⟨io, List.mem_cons_self, ?_⟩
      have hlt : k < s.nodeCount := (List.getElem?_eq_some_iff.mp hnode).1
      have hformats : formats io { s with pc := .modeLoop .manual k } = [pkt] := by
        show ((s.reg.newLoRa[k]?).bind _).toList = _
        rw [hnode, Option.bind_some]
        show (if s.share.idToHandler = node.id then _ else none).toList = _
        rw [if_pos hid]
        show ((MainPacket.modeManual (manualText s.share.userSet)).build node.id).toList = _
        rw [hbuild]
        rfl
      have hstep : mainStep libc io { s with pc := .modeLoop .manual k }
          = (s.dev.transmit io.opens tx).map (fun dev =>
            { s with
              reg := { s.reg with
                newLoRa := s.reg.newLoRa.set k { node with workingTime := s.share.userSet } }
              dev := dev
              pc := .clear }) := by
        show modeStep io .manual k _ = _
        unfold modeStep
        rw [if_pos (show k < nodeCount { s with pc := .modeLoop .manual k } from hlt)]
        show (s.reg.newLoRa[k]?).bind _ = _
        rw [hnode, Option.bind_some]
        show (if s.share.idToHandler = node.id then _ else _) = _
        rw [if_pos hid]
        show (((MainPacket.modeManual (manualText s.share.userSet)).build node.id).bind
          formatPkt).bind _ = _
        rw [hbuild, Option.bind_some, hformat, Option.bind_some]
        show (s.dev.transmit io.opens tx).bind _ = _
        cases s.dev.transmit io.opens tx with
        | none => rfl
        | some dev => rfl
      rw [handle, if_neg (by simp), hstep, hformats]
      cases s.dev.transmit io.opens tx with
      | none => rfl
      | some dev =>
          show ([pkt] ++ (handle libc ios _).1, (handle libc ios _).2) = _
          rw [handle_clear rfl (Nat.le_of_succ_le_succ hlen)]
          rfl

end Handle

end Gateway

/-! ## §3. From the message to the packet. -/

/-- The registry with this schedule in the record of one node. -/
def Registry.withSchedule (reg : Registry) (id : UInt32) (t : TimeSet) : Registry :=
  { reg with
    newLoRa := reg.newLoRa.map (fun n => if n.id = id then { n with workingTime := t } else n) }

/-- The parent has been told of a request, and comes to `if (socket_flag)`. -/
structure Gateway.Requested (s : Gateway) (m : DeviceCommand) : Prop where
  pc : s.pc = .sock
  socketFlag : s.socketFlag = true
  share : s.share = m

/-- The packet of a schedule. -/
structure IsSchedulePacket (pkt : LoRaPacket) (id : UInt32) (text : List UInt8) : Prop where
  pktType : pkt.pktType = Code.modeManual
  uid : pkt.uid = gatewayId
  destinationId : pkt.destinationId = id
  dataLength : pkt.dataLength.toNat = text.length
  data : pkt.data.bytes.take pkt.dataLength.toNat = text

/-- The first record with an id, when there is one. -/
theorem exists_first_record {reg : Registry} {id : UInt32} (h : id ∈ reg.ids) :
    ∃ (k : Nat) (node : LoRaNode), reg.newLoRa[k]? = some node ∧ node.id = id
      ∧ ∀ j < k, ∃ other : LoRaNode, reg.newLoRa[j]? = some other ∧ other.id ≠ id := by
  obtain ⟨node, hmem, hid⟩ := List.mem_map.mp h
  have hsome : (reg.newLoRa.findIdx? (fun n => decide (n.id = id))).isSome = true := by
    rw [List.findIdx?_isSome, List.any_eq_true]
    exact ⟨node, hmem, decide_eq_true hid⟩
  obtain ⟨k, hk⟩ := Option.isSome_iff_exists.mp hsome
  obtain ⟨hlt, hfound, hbefore⟩ := List.findIdx?_eq_some_iff_getElem.mp hk
  refine ⟨k, reg.newLoRa[k], List.getElem?_eq_getElem hlt, of_decide_eq_true hfound,
    fun j hj => ?_⟩
  refine ⟨reg.newLoRa[j], List.getElem?_eq_getElem (Nat.lt_trans hj hlt), ?_⟩
  simpa using hbefore j hj

/-- A text of at most 49 characters makes a packet of the schedule. -/
theorem build_schedule {id : UInt32} {text : List UInt8} (hlen : text.length ≤ 49)
    (hz : (0 : UInt8) ∉ text) :
    ∃ pkt tx, (MainPacket.modeManual text).build id = some pkt ∧ formatPkt pkt = some tx
      ∧ IsSchedulePacket pkt id text
      ∧ tx.bytes = frame Code.modeManual id text ++ List.replicate (50 - text.length) 0 := by
  obtain ⟨data, hpkt, hdata⟩ := @gatewayPacket_eq Code.modeManual id text hlen hz
  obtain ⟨pkt, tx, hpkt', -, htx, hbytes⟩ :=
    @formatPkt_gatewayPacket Code.modeManual id text hlen hz
  rw [hpkt] at hpkt'
  obtain rfl := Option.some.inj hpkt'
  have hbyte : (UInt8.ofNat text.length).toNat = text.length := by
    rw [UInt8.toNat_ofNat']
    omega
  refine ⟨_, tx, hpkt, htx, ⟨rfl, rfl, rfl, hbyte, ?_⟩, hbytes⟩
  show data.bytes.take (UInt8.ofNat text.length).toNat = text
  rw [hbyte, hdata]

/-- A text of at most 48 characters leaves room for the address byte and the NUL that the
driver adds to a packet. -/
theorem transmit_schedule {d : LoRaDev} {opens : Bool} {id : UInt32} {text : List UInt8}
    {tx : Buffer packetSize} (hlen : text.length ≤ 48)
    (htx : tx.bytes = frame Code.modeManual id text ++ List.replicate (50 - text.length) 0) :
    (d.transmit opens tx).isSome = true := by
  have hz : (0 : UInt8) ∈ tx.bytes := by
    rw [htx]
    exact List.mem_append_right _ (List.mem_replicate.mpr ⟨by omega, rfl⟩)
  have hcstr : (cstr tx.bytes).length ≤ 58 := by
    have hle := (cstr_isPrefixOf (frame Code.modeManual id text)).length_le
    rw [htx, cstr_append_replicate]
    rw [length_frame] at hle
    have : baseData = 10 := rfl
    omega
  unfold LoRaDev.transmit
  split
  · rw [dif_pos ⟨hz, hcstr⟩]
    rfl
  · rfl

/-- The parent sends the schedule to the node that the shared memory names, and stores it
in its record. -/
theorem Gateway.handle_registered (libc : Libc) {s : Gateway} {ios : List Io} (hpc : s.pc = .sock)
    (hflag : s.socketFlag = true) (hrequest : s.share.request = Code.modeManual)
    (hnd : s.reg.ids.Nodup) (hid : s.share.idToHandler ∈ s.reg.ids)
    (hlen : s.nodeCount + 3 ≤ ios.length) {pkt : LoRaPacket} {tx : Buffer packetSize}
    (hbuild : (MainPacket.modeManual (manualText s.share.userSet)).build s.share.idToHandler
      = some pkt) (hformat : formatPkt pkt = some tx) :
    ∃ io ∈ ios, handle libc ios s
      = ([pkt], (s.dev.transmit io.opens tx).map (fun dev =>
          { s with
            reg := s.reg.withSchedule s.share.idToHandler s.share.userSet
            dev := dev
            socketFlag := false
            pc := .head })) := by
  obtain ⟨k, node, hnode, hidNode, hbefore⟩ := exists_first_record hid
  have hlt : k < s.nodeCount := (List.getElem?_eq_some_iff.mp hnode).1
  have htail : ios.tail.length = ios.length - 1 := List.length_tail
  rw [handle_sock hpc hflag hrequest (by omega), handle_skip k 0 ios.tail (by omega) (by
    intro j _ hj
    exact hbefore j (by omega)), Nat.zero_add]
  rw [← hidNode] at hbuild
  have hleft : 2 ≤ (ios.tail.drop k).length := by
    rw [List.length_drop]
    omega
  obtain ⟨io, hio, hfound⟩ :=
    @handle_found libc s k node _ hnode hidNode.symm pkt tx hbuild hformat hleft
  refine ⟨io, List.mem_of_mem_tail (List.mem_of_mem_drop hio), ?_⟩
  rw [hfound, KeyedList.set_eq_map hnd hnode hidNode
    (fun n => { n with workingTime := s.share.userSet })]
  rfl

/-- A request for an id that is not registered changes nothing. -/
theorem Gateway.handle_not_registered {libc : Libc} {s : Gateway} {ios : List Io}
    (hpc : s.pc = .sock) (hflag : s.socketFlag = true)
    (hrequest : s.share.request = Code.modeManual) (hid : s.share.idToHandler ∉ s.reg.ids)
    (hlen : s.nodeCount + 3 ≤ ios.length) :
    handle libc ios s = ([], some { s with socketFlag := false, pc := .head }) := by
  have htail : ios.tail.length = ios.length - 1 := List.length_tail
  rw [handle_sock hpc hflag hrequest (by omega)]
  exact handle_unregistered hid (by omega)

/-- **A SCHEDULE ARRIVES AS IT WAS SENT.**  The message `"6 id a1 … a16"` is one request; the
parent then formats one packet, with the text `"a1 … a16"` for that id, and the record of
that id and no other gets the sixteen numbers.  The driver can send what is not longer than
48 characters.  For an id that is not registered there is no packet, and no record changes. -/
theorem manual_schedule_fidelity (libc : Libc) (d : DeviceCommand) {z : Int}
    (hlo : -2147483648 ≤ z) (hhi : z < 4294967296) {numbers : List Int32}
    (hsixteen : numbers.length = 16) (hlen : (numbersText numbers).length ≤ 49) :
    ∃ ops m, recvMsg (manualMessage z numbers) = some (.message ops) ∧ serve d ops = (m, [m])
      ∧ ∀ (s : Gateway) (ios : List Io), s.Requested m → s.reg.ids.Nodup →
        s.nodeCount + 3 ≤ ios.length →
          (UInt32.ofInt z ∈ s.reg.ids → ∃ pkt tx io, io ∈ ios
            ∧ IsSchedulePacket pkt (UInt32.ofInt z) (numbersText numbers)
            ∧ formatPkt pkt = some tx
            ∧ ((numbersText numbers).length ≤ 48 → (s.dev.transmit io.opens tx).isSome = true)
            ∧ s.handle libc ios = ([pkt], (s.dev.transmit io.opens tx).map (fun dev =>
                { s with
                  reg := s.reg.withSchedule (UInt32.ofInt z) (TimeSet.ofNumbers numbers)
                  dev := dev
                  socketFlag := false
                  pc := .head })))
          ∧ (UInt32.ofInt z ∉ s.reg.ids →
            s.handle libc ios = ([], some { s with socketFlag := false, pc := .head })) := by
  obtain ⟨ops, hops, hcrash, hlast⟩ :=
    recvMsg_says (says_manualMessage hlo hhi hsixteen hlen)
  obtain ⟨m, hserve, hrequest, hid, hset⟩ :=
    serve_announces (recvMsg_announces hops d) hcrash hlast
  refine ⟨ops, m, hops, hserve, fun s ios hrequested hnd hios => ?_⟩
  have hshare := hrequested.share
  rw [← hshare] at hrequest hid hset
  constructor
  · intro hreg
    obtain ⟨pkt, tx, hbuild, htx, hpkt, hbytes⟩ :=
      @build_schedule (UInt32.ofInt z) _ hlen (zero_not_mem_numbersText numbers)
    rw [← manualText_ofNumbers hsixteen, ← hset, ← hid] at hbuild
    rw [← hid] at hreg
    obtain ⟨io, hio, hhandle⟩ := Gateway.handle_registered libc hrequested.pc
      hrequested.socketFlag hrequest hnd hreg hios hbuild htx
    refine ⟨pkt, tx, io, hio, hpkt, htx, fun h48 => transmit_schedule h48 hbytes, ?_⟩
    rw [hhandle, hid, hset]
  · intro hreg
    rw [← hid] at hreg
    exact Gateway.handle_not_registered hrequested.pc hrequested.socketFlag hrequest hreg hios

/-- Sixteen numbers of a day, with one spare character. -/
def dayNumbers : List Int32 := [0, 1, 5, 30, 5, 31, 17, 59, 18, 0, 20, 45, 20, 46, 23, 59]

/-- Of three nodes the second gets them, the others keep what they have, and the driver
takes the packet. -/
theorem manual_schedule_fidelity_day :
    ∃ m pkt s, (Gateway.handle sampleLibc (List.replicate 6 sampleIo)
        { startWith [3, 7, 9] with share := m, socketFlag := true, pc := .sock })
          = ([pkt], some s)
      ∧ IsSchedulePacket pkt 7 (ascii "0 1 5 30 5 31 17 59 18 0 20 45 20 46 23 59")
      ∧ s.reg.newLoRa.map (fun n => (n.id, n.workingTime))
        = [(3, TimeSet.zero), (7, TimeSet.ofNumbers dayNumbers), (9, TimeSet.zero)] := by
  obtain ⟨ops, m, -, -, hall⟩ := @manual_schedule_fidelity sampleLibc
    ⟨0, 0, [], 0, TimeSet.zero⟩ 7 (by decide) (by decide) dayNumbers rfl (by decide)
  have hnd : (startWith [3, 7, 9]).reg.ids.Nodup := by decide
  have hreg : UInt32.ofInt 7 ∈ (startWith [3, 7, 9]).reg.ids := by decide
  obtain ⟨pkt, tx, io, -, hpkt, -, hsent, hhandle⟩ :=
    (hall { startWith [3, 7, 9] with share := m, socketFlag := true, pc := .sock }
      (List.replicate 6 sampleIo) ⟨rfl, rfl, rfl⟩ hnd (Nat.le_refl 6)).1 hreg
  obtain ⟨dev, hdev⟩ := Option.isSome_iff_exists.mp (hsent (by decide))
  have htext : numbersText dayNumbers = ascii "0 1 5 30 5 31 17 59 18 0 20 45 20 46 23 59" := by
    decide
  rw [htext] at hpkt
  rw [hdev] at hhandle
  exact ⟨m, pkt, _, hhandle, hpkt, rfl⟩

/-! ## §4. The arrays. -/

/-- The cells of `gateway.data` that `sprintf` writes: the text and its NUL. -/
def textCells (text : List UInt8) : List Nat := List.range (text.length + 1)

/-- The cells of `tx_buff` that `format_pkt` writes: the `memset`, the header, and the data. -/
def packetCells (dataLength : UInt8) : List Nat :=
  List.range packetSize ++ (List.range baseData
    ++ (copyTouches 0 baseData dataLength.toNat 0).map Prod.snd)

/-- The text of a schedule and its packet stay inside their arrays. -/
structure ScheduleInBounds (t : TimeSet) : Prop where
  text : ∀ i ∈ textCells (manualText t), i < packetSize - baseData
  /-- `data_length` has 8 bits -/
  dataLength : (UInt8.ofNat (manualText t).length).toNat = (manualText t).length
  packet : ∀ i ∈ packetCells (UInt8.ofNat (manualText t).length), i < packetSize

/-- The characters that a number takes: its digits, and a minus sign. -/
def width (x : Int32) : Nat := Nat.log 10 x.toInt.natAbs + 1 + if x.toInt < 0 then 1 else 0

theorem length_decimal (x : Int32) : (decimal x.toInt).length = width x := by
  unfold decimal width
  split
  · rw [List.length_cons, length_decimalNat]
  · rw [length_decimalNat]

/-- One space less than there are words. -/
theorem length_spaced {ws : List (List UInt8)} (h : ws ≠ []) :
    (spaced ws).length + 1 = (ws.map List.length).sum + ws.length := by
  induction ws with
  | nil => exact absurd rfl h
  | cons w ws ih =>
      cases ws with
      | nil =>
          show w.length + 1 = w.length + 0 + 1
          omega
      | cons w' ws =>
          have hrest := ih (List.cons_ne_nil _ _)
          rw [List.map_cons, List.sum_cons, List.length_cons]
          show (w ++ 32 :: spaced (w' :: ws)).length + 1 = _
          rw [List.length_append, List.length_cons]
          omega

theorem length_manualText (t : TimeSet) :
    (manualText t).length = (t.numbers.map width).sum + 15 := by
  have hne : t.numbers.map (fun x => decimal x.toInt) ≠ [] := by
    intro h
    cases h
  have hlen := length_spaced hne
  have hwidths : (t.numbers.map (fun x => decimal x.toInt)).map List.length
      = t.numbers.map width := by
    rw [List.map_map]
    exact List.map_congr_left (fun x _ => length_decimal x)
  rw [hwidths, List.length_map] at hlen
  have hsixteen : t.numbers.length = 16 := rfl
  show (spaced _).length = _
  omega

/-- The three arrays end at the same text. -/
theorem scheduleInBounds_iff_length {t : TimeSet} :
    ScheduleInBounds t ↔ (manualText t).length ≤ 49 := by
  constructor
  · intro h
    have hlast : (manualText t).length < 50 :=
      h.text (manualText t).length (List.mem_range.mpr (Nat.lt_succ_self _))
    omega
  · intro h
    have hbyte : (UInt8.ofNat (manualText t).length).toNat = (manualText t).length := by
      rw [UInt8.toNat_ofNat']
      omega
    refine ⟨fun i hi => ?_, hbyte, fun i hi => ?_⟩
    · have hlt := List.mem_range.mp hi
      show i < 50
      omega
    · rw [packetCells, hbyte] at hi
      rcases List.mem_append.mp hi with hi | hi
      · exact List.mem_range.mp hi
      rcases List.mem_append.mp hi with hi | hi
      · exact Nat.lt_of_lt_of_le (List.mem_range.mp hi) (by decide)
      · obtain ⟨c, hc, rfl⟩ := List.mem_map.mp hi
        obtain ⟨j, -, hj, rfl⟩ := mem_copyTouches.mp hc
        show 10 + j < 60
        omega

/-- **The packet of a schedule is formatted exactly when the arrays hold it.** -/
theorem scheduleInBounds_iff_format {t : TimeSet} {id : UInt32} :
    ScheduleInBounds t ↔ ((MainPacket.modeManual (manualText t)).format id).isSome = true := by
  rw [scheduleInBounds_iff_length]
  unfold MainPacket.format MainPacket.build
  constructor
  · intro h
    obtain ⟨pkt, b, hpkt, -, hb, -⟩ :=
      @formatPkt_gatewayPacket Code.modeManual id _ h (zero_not_mem_manualText t)
    show ((gatewayPacket Code.modeManual id (manualText t)).bind formatPkt).isSome = true
    rw [hpkt, Option.bind_some, hb]
    rfl
  · intro h
    by_contra hlong
    have hnone : gatewayPacket Code.modeManual id (manualText t) = none := by
      unfold gatewayPacket
      rw [Buffer.store_eq_none (by rw [List.length_append]; show 50 < 0 + (_ + 1); omega)]
      rfl
    have hsome : ((gatewayPacket Code.modeManual id (manualText t)).bind formatPkt).isSome
      = true := h
    rw [hnone] at hsome
    cases hsome

/-- Times of day always fit: sixteen numbers of two digits at most. -/
theorem scheduleInBounds_of_clock {t : TimeSet}
    (h : ∀ x ∈ t.numbers, 0 ≤ x.toInt ∧ x.toInt < 100) : ScheduleInBounds t := by
  have hwords : ∀ w ∈ t.numbers.map (fun x => decimal x.toInt), w.length ≤ 2 := by
    intro w hw
    obtain ⟨x, hx, rfl⟩ := List.mem_map.mp hw
    obtain ⟨hlo, hhi⟩ := h x hx
    obtain ⟨n, hn⟩ := Int.eq_ofNat_of_zero_le hlo
    rw [hn]
    exact (length_decimal_lt (by omega)).2
  have hlen : (manualText t).length ≤ 3 * 16 := length_spaced_le hwords
  rw [scheduleInBounds_iff_length]
  omega

/-- **A SCHEDULE STAYS INSIDE ITS ARRAYS EXACTLY WHEN ITS NUMBERS TAKE AT MOST 34
CHARACTERS**, for every request that `recv_msg` issues and as the parent finds it in the
shared memory. -/
theorem scheduleInBounds_iff {bytes : List UInt8} {id : UInt32} {t : TimeSet}
    (h : Issues bytes (.manual id t)) (d : DeviceCommand) :
    ∃ ops m, recvMsg bytes = some (.message ops) ∧ serve d ops = (m, [m])
      ∧ m.request = Code.modeManual ∧ m.idToHandler = id
      ∧ (ScheduleInBounds m.userSet ↔ (t.numbers.map width).sum ≤ 34) := by
  obtain ⟨ops, hops, hmem⟩ := h
  have hlast := (mem_ops hops (by simp)).mp hmem
  have hcrash : ChildOp.crash ∉ ops := by
    rw [mem_ops hops (by simp), hlast]
    simp
  obtain ⟨m, hserve, hrequest, hid, hset⟩ :=
    serve_announces (recvMsg_announces hops d) hcrash hlast
  refine ⟨ops, m, hops, hserve, hrequest, hid, ?_⟩
  rw [hset, scheduleInBounds_iff_length, length_manualText]
  omega

/-- What `%d` prints for an order issues it. -/
theorem issues_text {o : Order} (hconnect : o ≠ .connect) (hdisconnect : o ≠ .disconnect) :
    Issues o.text o := (says_text hconnect hdisconnect).issues

/-- The day above takes 27 characters. -/
theorem scheduleInBounds_day :
    ∃ m : DeviceCommand, m.idToHandler = 7 ∧ ScheduleInBounds m.userSet := by
  obtain ⟨ops, m, -, -, -, hid, hiff⟩ :=
    scheduleInBounds_iff (@issues_text (.manual 7 (TimeSet.ofNumbers dayNumbers)) (by decide)
      (by decide)) ⟨0, 0, [], 0, TimeSet.zero⟩
  exact ⟨m, hid, hiff.mpr (by decide)⟩

/-- Sixteen numbers of four digits. -/
def longNumbers : TimeSet := TimeSet.ofNumbers (List.replicate 16 1000)

/-- `sprintf` writes 80 bytes into `gateway.data`. -/
theorem schedule_overflows :
    Issues (Order.text (.manual 7 longNumbers)) (.manual 7 longNumbers)
      ∧ 7 ∈ (startWith [7]).reg.ids ∧ ¬ ScheduleInBounds longNumbers := by
  refine ⟨issues_text (by decide) (by decide), by decide, fun h => ?_⟩
  have hcell : 79 ∈ textCells (manualText longNumbers) := by decide
  exact absurd (h.text 79 hcell) (by decide)

end LoRaGateway
