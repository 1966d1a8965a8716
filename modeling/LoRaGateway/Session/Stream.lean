/-
  LoRaGateway.Session.Stream
  ──────────────────────────
  **A CLIENT'S MESSAGES ON A STREAM OF BYTES.**

  TCP keeps the bytes and their order, not the boundaries of the client's writes.
  `recv_msg` takes every `read` for one message, keeps nothing from one `read` to
  the next, and a message has neither a length nor an end mark: where a `read`
  returns two messages or a part of one, other requests come out.

    • `Says` — a text is a message for an order, and `says_text` — the text that
      `%d` prints is one,
    • `session` — the shared memory at each SIGUSR2, over a sequence of reads,
    • `requests_of_whole_messages` — when every `read` returns one message, the
      requests are those of the messages,
    • `joined_messages_mixed_up` — two messages in one `read`.
-/
import LoRaGateway.Session.Command
import Mathlib.Data.List.Forall2
import Mathlib.Data.Nat.Digits.Defs

namespace LoRaGateway

open LoRaGateway.Lib

/-! ## §1. Messages. -/

/-- The tokens after the type of a message for this order; more may follow. -/
def Order.Args : Order → List (List UInt8) → Prop
  | .add id, token :: _ => (atoi token).toUInt32 = id
  | .remove id, token :: _ => (atoi token).toUInt32 = id
  | .auto id, token :: _ => (atoi token).toUInt32 = id
  | .manual id t, token :: numbers =>
      (atoi token).toUInt32 = id ∧ (numbers.take 16).map atoi = t.numbers
  | _, _ => False

/-- The text is a message for this order, and leaves room for a NUL in the buffer. -/
structure Says (o : Order) (text : List UInt8) : Prop where
  zero : (0 : UInt8) ∉ text
  fits : text.length < 1024
  words : ∃ args, tokens 32 text = decimal o.code.toNat :: args ∧ o.Args args

/-- The text of an order as a client prints it. -/
def Order.text : Order → List UInt8
  | .add id => codeText Code.addDevice id
  | .remove id => codeText Code.removeDevice id
  | .auto id => codeText Code.modeAuto id
  | .manual id t => codeText Code.modeManual id ++ 32 :: manualText t
  | _ => []

/-! ## §2. What a session makes of its reads. -/

/-- The memory after these operations, and what it held at each SIGUSR2. -/
def serve : DeviceCommand → List ChildOp → DeviceCommand × List DeviceCommand
  | d, [] => (d, [])
  | d, .store w :: ops => serve (w.apply d) ops
  | d, .kill _ :: ops => ((serve d ops).1, d :: (serve d ops).2)
  | d, .crash :: _ => (d, [])

/-- The requests of a sequence of reads: the shared memory at each SIGUSR2.  The
session ends with `"exit"`, or when `strtok` or `atoi` goes wrong. -/
def session : DeviceCommand → List (List UInt8) → List DeviceCommand
  | _, [] => []
  | d, bytes :: reads =>
      match recvMsg bytes with
      | some (.message ops) =>
          if ChildOp.crash ∈ ops then (serve d ops).2
          else (serve d ops).2 ++ session (serve d ops).1 reads
      | _ => []

/-! ## §3. One message. -/

theorem head_code (o : Order) : (decimal o.code.toNat).head? ≠ some 101 := by
  cases o <;> simp only [Order.code] <;> decide

/-- No message begins with `"exit"`: it begins with the digits of its type. -/
theorem Says.not_exit {o : Order} {text : List UInt8} (h : Says o text) :
    text.take 4 ≠ [101, 120, 105, 116] := by
  intro hexit
  obtain ⟨args, hwords, -⟩ := h.words
  obtain ⟨rest, rfl⟩ : ∃ rest, text = 101 :: rest := by
    cases text with
    | nil => cases hexit
    | cons b rest => exact ⟨rest, by rw [(List.cons.inj hexit).1]⟩
  rw [tokens_cut (by decide), List.takeWhile_cons_of_pos (by decide)] at hwords
  have hfirst := congrArg List.head? (List.cons.inj hwords).1
  exact head_code o hfirst.symm

/-- The numbers of a schedule are all there: no crash, and the order comes last. -/
theorem scheduleOps_whole (id : UInt32) :
    ∀ (n : Nat) (rest : List UInt8) (vs : List Int32), n ≤ (tokens 32 rest).length →
      .crash ∉ scheduleOps id n rest vs
        ∧ (scheduleOps id n rest vs).getLast?
          = some (.kill (.manual id (TimeSet.ofNumbers (vs ++ ((tokens 32 rest).take n).map atoi)))) := by
  intro n
  induction n with
  | zero =>
      intro rest vs _
      refine ⟨by simp [scheduleOps], ?_⟩
      rw [List.take_zero, List.map_nil, List.append_nil]
      rfl
  | succ n ih =>
      intro rest vs hn
      cases hwords : tokens 32 rest with
      | nil =>
          rw [hwords] at hn
          exact absurd hn (by simp)
      | cons token more =>
          obtain ⟨rest', hstrtok, hmore⟩ := strtok_of_tokens hwords
          rw [hwords, List.length_cons] at hn
          obtain ⟨hcrash, hlast⟩ := ih rest' (vs ++ [atoi token]) (by rw [hmore]; omega)
          unfold scheduleOps
          rw [hstrtok]
          constructor
          · rw [List.mem_cons, not_or]
            exact ⟨by simp, hcrash⟩
          · rw [List.getLast?_cons, hlast, hmore, List.append_assoc]
            rfl

theorem idOps_whole {code : UInt8} {order : UInt32 → Order} {rest token : List UInt8}
    {more : List (List UInt8)} (h : tokens 32 rest = token :: more) :
    .crash ∉ idOps code order rest
      ∧ (idOps code order rest).getLast? = some (.kill (order (atoi token).toUInt32)) := by
  obtain ⟨rest', hstrtok, -⟩ := strtok_of_tokens h
  unfold idOps
  rw [hstrtok]
  exact ⟨by simp, rfl⟩

/-! The branches of the `switch`. -/

theorem messageOps_add (rest : List UInt8) :
    messageOps (atoi (decimal Code.addDevice.toNat)) rest = idOps Code.addDevice .add rest := by
  unfold messageOps
  rw [if_pos (by decide)]

theorem messageOps_remove (rest : List UInt8) :
    messageOps (atoi (decimal Code.removeDevice.toNat)) rest
      = idOps Code.removeDevice .remove rest := by
  unfold messageOps
  rw [if_neg (by decide), if_pos (by decide)]

theorem messageOps_auto (rest : List UInt8) :
    messageOps (atoi (decimal Code.modeAuto.toNat)) rest = idOps Code.modeAuto .auto rest := by
  unfold messageOps
  rw [if_neg (by decide), if_neg (by decide), if_pos (by decide)]

theorem messageOps_manual (rest : List UInt8) :
    messageOps (atoi (decimal Code.modeManual.toNat)) rest = manualOps rest := by
  unfold messageOps
  rw [if_neg (by decide), if_neg (by decide), if_neg (by decide), if_pos (by decide)]

/-- **A whole message is understood**: no crash, and its order comes last. -/
theorem recvMsg_says {o : Order} {text : List UInt8} (h : Says o text) :
    ∃ ops, recvMsg text = some (.message ops) ∧ .crash ∉ ops
      ∧ ops.getLast? = some (.kill o) := by
  obtain ⟨args, hwords, hargs⟩ := h.words
  obtain ⟨rest, hstrtok, hrest⟩ := strtok_of_tokens hwords
  have hmsg : recvMsg text = some (.message (messageOps (atoi (decimal o.code.toNat)) rest)) := by
    unfold recvMsg
    rw [if_neg h.not_exit, strtokText_eq_self h.fits h.zero, hstrtok]
    rfl
  refine ⟨_, hmsg, ?_⟩
  -- the type of the message chooses the branch
  cases o with
  | connect => exact False.elim hargs
  | disconnect => exact False.elim hargs
  | add id =>
      cases args with
      | nil => exact False.elim hargs
      | cons token more =>
          obtain rfl : (atoi token).toUInt32 = id := hargs
          simp only [Order.code]
          rw [messageOps_add]
          exact idOps_whole hrest
  | remove id =>
      cases args with
      | nil => exact False.elim hargs
      | cons token more =>
          obtain rfl : (atoi token).toUInt32 = id := hargs
          simp only [Order.code]
          rw [messageOps_remove]
          exact idOps_whole hrest
  | auto id =>
      cases args with
      | nil => exact False.elim hargs
      | cons token more =>
          obtain rfl : (atoi token).toUInt32 = id := hargs
          simp only [Order.code]
          rw [messageOps_auto]
          exact idOps_whole hrest
  | manual id t =>
      cases args with
      | nil => exact False.elim hargs
      | cons token numbers =>
          obtain ⟨rfl, hnumbers⟩ := hargs
          obtain ⟨rest', hstrtok', hrest'⟩ := strtok_of_tokens hrest
          have hn : 16 ≤ numbers.length := by
            have hlen := congrArg List.length hnumbers
            rw [List.length_map, List.length_take] at hlen
            have : t.numbers.length = 16 := rfl
            omega
          obtain ⟨hcrash, hlast⟩ := scheduleOps_whole (atoi token).toUInt32 16 rest' []
            (by rw [hrest']; exact hn)
          rw [hrest', hnumbers, List.nil_append, ofNumbers_numbers] at hlast
          simp only [Order.code]
          rw [messageOps_manual]
          unfold manualOps
          rw [hstrtok']
          constructor
          · rw [List.mem_cons, List.mem_cons, not_or, not_or]
            exact ⟨by simp, by simp, hcrash⟩
          · rw [List.getLast?_cons, List.getLast?_cons, hlast]
            rfl

/-- At its only signal a message that is understood has put its order into the memory. -/
theorem serve_finishes {o : Order} :
    ∀ (ops : List ChildOp) (d : DeviceCommand), Finishes d ops → .crash ∉ ops →
      ops.getLast? = some (.kill o) → ∃ m, serve d ops = (m, [m]) ∧ o.In m := by
  intro ops
  induction ops with
  | nil =>
      intro d _ _ hlast
      cases hlast
  | cons op ops ih =>
      intro d hfin hcrash hlast
      rw [List.mem_cons, not_or] at hcrash
      cases op with
      | crash => exact absurd rfl hcrash.1
      | kill o' =>
          cases ops with
          | nil =>
              obtain rfl : o' = o := ChildOp.kill.inj (Option.some.inj hlast)
              exact ⟨d, rfl, hfin⟩
          | cons op' ops => exact False.elim hfin
      | store w =>
          have hrest : Finishes (w.apply d) ops := by
            cases w with
            | request code => exact False.elim hfin
            | idToHandler id => exact hfin
            | userSet k v => exact hfin
          cases ops with
          | nil => exact False.elim hrest
          | cons op' ops => exact ih (w.apply d) hrest hcrash.2 hlast

theorem serve_announces {o : Order} {ops : List ChildOp} {d : DeviceCommand} (h : Announces d ops)
    (hcrash : .crash ∉ ops) (hlast : ops.getLast? = some (.kill o)) :
    ∃ m, serve d ops = (m, [m]) ∧ o.In m := by
  cases ops with
  | nil => cases hlast
  | cons op ops =>
      rw [List.mem_cons, not_or] at hcrash
      cases op with
      | crash => exact absurd rfl hcrash.1
      | kill o' => exact False.elim h
      | store w =>
          cases w with
          | request code =>
              cases ops with
              | nil => exact False.elim h
              | cons op' ops =>
                  exact serve_finishes (op' :: ops) ((Store.request code).apply d) h hcrash.2 hlast
          | idToHandler id => exact False.elim h
          | userSet k v => exact False.elim h

/-! ## §4. Sequences of messages. -/

/-- **REQUESTS OF WHOLE MESSAGES.**  When every `read` returns one message, the
parent is sent one SIGUSR2 for each message, in order, and finds its request, its
id and its arguments in the shared memory, whatever was there before. -/
theorem requests_of_whole_messages (d : DeviceCommand) {orders : List Order}
    {reads : List (List UInt8)} (h : List.Forall₂ Says orders reads) :
    List.Forall₂ (fun o m => o.In m) orders (session d reads) := by
  induction h generalizing d with
  | nil => exact List.Forall₂.nil
  | cons hsays _ ih =>
      obtain ⟨ops, hmsg, hcrash, hlast⟩ := recvMsg_says hsays
      obtain ⟨m, hserve, hin⟩ := serve_announces (recvMsg_announces hmsg d) hcrash hlast
      unfold session
      rw [hmsg]
      simp only [hserve, if_neg hcrash]
      exact List.Forall₂.cons hin (ih m)

/-! ## §5. The texts that a client prints. -/

/-- `%d` and `%u` print at most ten digits and a sign. -/
theorem length_decimal_id {z : Int} (hlo : -2147483648 ≤ z) (hhi : z < 4294967296) :
    (decimal z).length ≤ 11 := by
  have hdigits : (decimalNat z.natAbs).length ≤ 10 :=
    length_decimalNat_le (k := 9) (by show z.natAbs < 10000000000; omega)
  unfold decimal
  split
  · rw [List.length_cons]
    omega
  · omega

theorem length_decimal_le (x : Int32) : (decimal x.toInt).length ≤ 11 := by
  have hhi := x.toInt_lt
  exact length_decimal_id x.le_toInt (by omega)

theorem length_spaced_le {k : Nat} {ws : List (List UInt8)} (h : ∀ w ∈ ws, w.length ≤ k) :
    (spaced ws).length ≤ (k + 1) * ws.length := by
  induction ws with
  | nil => exact Nat.zero_le _
  | cons w ws ih =>
      have hw := h w List.mem_cons_self
      have hws := ih (fun x hx => h x (List.mem_cons_of_mem w hx))
      rw [List.length_cons, Nat.mul_succ]
      cases ws with
      | nil =>
          show w.length ≤ _
          omega
      | cons w' ws =>
          show (w ++ 32 :: spaced (w' :: ws)).length ≤ _
          rw [List.length_append, List.length_cons]
          omega

theorem tokens_spaced {ws : List (List UInt8)} (h : ∀ w ∈ ws, w ≠ [] ∧ (32 : UInt8) ∉ w) :
    tokens 32 (spaced ws) = ws := by
  induction ws with
  | nil => exact tokens_nil
  | cons w ws ih =>
      obtain ⟨hne, hsp⟩ := h w List.mem_cons_self
      have hws := ih (fun x hx => h x (List.mem_cons_of_mem w hx))
      cases ws with
      | nil => exact tokens_single hne hsp
      | cons w' ws =>
          show tokens 32 (w ++ 32 :: spaced (w' :: ws)) = _
          rw [tokens_append hne hsp, hws]

/-- The numbers of a schedule as a text. -/
def numbersText (numbers : List Int32) : List UInt8 :=
  spaced (numbers.map (fun x => decimal x.toInt))

theorem tokens_numbersText (numbers : List Int32) :
    tokens 32 (numbersText numbers) = numbers.map (fun x => decimal x.toInt) := by
  apply tokens_spaced
  intro w hw
  obtain ⟨x, -, rfl⟩ := List.mem_map.mp hw
  exact ⟨decimal_ne_nil _, space_not_mem_decimal _⟩

theorem zero_not_mem_numbersText (numbers : List Int32) : (0 : UInt8) ∉ numbersText numbers := by
  apply zero_not_mem_spaced
  intro w hw
  obtain ⟨x, -, rfl⟩ := List.mem_map.mp hw
  exact zero_not_mem_decimal _

/-- A type and an id are a message. -/
theorem says_codeText {o : Order} {id : UInt32} (hargs : ∀ more, o.Args (printId id :: more)) :
    Says o (codeText o.code id) := by
  have hcode := zero_not_mem_decimal o.code.toNat
  have hid : (0 : UInt8) ∉ printId id := zero_not_mem_decimal _
  refine ⟨by simp [codeText, hcode, hid], ?_, ⟨[printId id], tokens_codeText _ _, hargs []⟩⟩
  have hlen : (printId id).length ≤ 11 := length_decimal_le _
  have htype : (decimal o.code.toNat).length = 1 := by
    cases o <;> simp only [Order.code] <;> decide
  rw [codeText, List.length_append, List.length_cons]
  omega

/-- **What `%d` prints for an order is a message for it.** -/
theorem says_text {o : Order} (hconnect : o ≠ .connect) (hdisconnect : o ≠ .disconnect) :
    Says o o.text := by
  cases o with
  | connect => exact absurd rfl hconnect
  | disconnect => exact absurd rfl hdisconnect
  | add id => exact says_codeText (o := .add id) (fun _ => atoi_printId id)
  | remove id => exact says_codeText (o := .remove id) (fun _ => atoi_printId id)
  | auto id => exact says_codeText (o := .auto id) (fun _ => atoi_printId id)
  | manual id t =>
      have hid : (0 : UInt8) ∉ printId id := zero_not_mem_decimal _
      have hidLength : (printId id).length ≤ 11 := length_decimal_le _
      have hlength : (manualText t).length ≤ 12 * 16 := by
        apply length_spaced_le (k := 11)
        intro w hw
        obtain ⟨x, -, rfl⟩ := List.mem_map.mp hw
        exact length_decimal_le x
      have hnumbers : tokens 32 (manualText t) = t.numbers.map (fun x => decimal x.toInt) :=
        tokens_numbersText t.numbers
      -- the type, the id, and the sixteen numbers
      have htext : Order.text (.manual id t)
          = decimal Code.modeManual.toNat ++ 32 :: (printId id ++ 32 :: manualText t) := by
        simp [Order.text, codeText]
      have htype : decimal Code.modeManual.toNat = [54] := by decide
      rw [htext]
      refine ⟨?_, ?_, ⟨printId id :: t.numbers.map (fun x => decimal x.toInt), ?_,
        atoi_printId id, ?_⟩⟩
      · simp [htype, hid, zero_not_mem_manualText]
      · simp only [htype, List.length_append, List.length_cons, List.length_nil]
        omega
      · rw [tokens_append (decimal_ne_nil _) (space_not_mem_decimal _),
          tokens_append (printId_token id).1 (printId_token id).2, hnumbers]
        rfl
      · have hall : (t.numbers.map (fun x => decimal x.toInt)).length ≤ 16 := Nat.le_refl 16
        rw [List.take_of_length_le hall, List.map_map]
        exact (List.map_congr_left (fun x _ => atoi_decimal x)).trans (List.map_id _)

/-- A removal and the order to run by itself, each in a `read` of its own. -/
theorem requests_of_whole_messages_two :
    List.Forall₂ (fun (o : Order) m => o.In m) [.remove 0xFFFFFFFF, .auto 7]
      (session ⟨0, 0, [], 0, TimeSet.zero⟩ [Order.text (.remove 0xFFFFFFFF), Order.text (.auto 7)]) :=
  requests_of_whole_messages _
    (.cons (says_text (by decide) (by decide)) (.cons (says_text (by decide) (by decide)) .nil))

/-- The messages `"0 7"` and `"0 8"` in one `read`: the bytes are `"0 70 8"`, and
the only request is to add node 70. -/
theorem joined_messages_mixed_up :
    ¬ ∀ (d : DeviceCommand) (orders : List Order) (texts reads : List (List UInt8)),
      List.Forall₂ Says orders texts → reads.flatten = texts.flatten →
        (∀ r ∈ reads, r ≠ [] ∧ r.length ≤ 1024) →
          List.Forall₂ (fun o m => o.In m) orders (session d reads) := by
  intro h
  have hsays : List.Forall₂ Says [.add 7, .add 8] [Order.text (.add 7), Order.text (.add 8)] :=
    .cons (says_text (by decide) (by decide)) (.cons (says_text (by decide) (by decide)) .nil)
  have hjoined := h ⟨0, 0, [], 0, TimeSet.zero⟩ [.add 7, .add 8] _
    [Order.text (.add 7) ++ Order.text (.add 8)] hsays (by decide) (by decide)
  have hone : session ⟨0, 0, [], 0, TimeSet.zero⟩ [Order.text (.add 7) ++ Order.text (.add 8)]
      = [⟨Code.addDevice, 0, [], 70, TimeSet.zero⟩] := by decide
  rw [hone] at hjoined
  exact absurd hjoined.length_eq (by decide)

end LoRaGateway
