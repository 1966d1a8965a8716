/-
  LoRaGateway.Session.Grammar
  ───────────────────────────
  **WHICH MESSAGES `recv_msg` TAKES, AND FOR WHAT.**

  `recv_msg` neither checks that `strtok` found a token nor that a token is a number:
  `atoi` reads a word without digits as 0, which is the code of ADD_DEVICE, and a
  missing word is `atoi(NULL)`.  So what a message does depends on the number that
  `atoi` makes of its first word and on how many words follow.

    • `parse` — the order that the words are taken for, and `recvMsg_last` — `recv_msg`
      does what it says,
    • `harmless_iff` — the messages that do no harm,
    • `acceptsGrammar_iff` — the texts on which `recv_msg` and the grammar agree.
-/
import LoRaGateway.Session.Stream

namespace LoRaGateway

open LoRaGateway.Lib

/-! ## §1. Words. -/

/-- The fields that a message of this type requires; none for a type that there is not. -/
def fieldCount (type : Int) : Nat :=
  if type = Code.addDevice.toNat ∨ type = Code.removeDevice.toNat ∨ type = Code.modeAuto.toNat
  then 1
  else if type = Code.modeManual.toNat then 17
  else 0

/-- The order of this type with these arguments. -/
def orderOf (type : Int32) (args : List (List UInt8)) : Option Order :=
  let id := (atoi (args.headD [])).toUInt32
  if type.toInt = Code.addDevice.toNat then some (.add id)
  else if type.toInt = Code.removeDevice.toNat then some (.remove id)
  else if type.toInt = Code.modeAuto.toNat then some (.auto id)
  else if type.toInt = Code.modeManual.toNat then
    some (.manual id (TimeSet.ofNumbers ((args.tail.take 16).map atoi)))
  else none

/-- What a message is taken for.  It is a failure when a word is missing. -/
inductive Parse where
  | nothing
  | order (o : Order)
  | failure
  deriving DecidableEq

/-- The rest of a message of this type; tokens behind the last field are not looked at. -/
def parseArgs (type : Int32) (args : List (List UInt8)) : Parse :=
  match orderOf type args with
  | none => .nothing
  | some o => if args.length < fieldCount type.toInt then .failure else .order o

/-- What the grammar says of these tokens. -/
def parse : List (List UInt8) → Parse
  | [] => .failure
  | type :: args => parseArgs (atoi type) args

/-- The last operation of a message that is taken for this. -/
def Parse.last : Parse → Option ChildOp
  | .nothing => none
  | .order o => some (.kill o)
  | .failure => some .crash

theorem orderOf_eq_none {type : Int32} {args : List (List UInt8)} :
    orderOf type args = none ↔ fieldCount type.toInt = 0 := by
  unfold orderOf fieldCount
  by_cases hadd : type.toInt = Code.addDevice.toNat
  · rw [if_pos hadd, if_pos (Or.inl hadd)]
    simp
  by_cases hremove : type.toInt = Code.removeDevice.toNat
  · rw [if_neg hadd, if_pos hremove, if_pos (Or.inr (Or.inl hremove))]
    simp
  by_cases hauto : type.toInt = Code.modeAuto.toNat
  · rw [if_neg hadd, if_neg hremove, if_pos hauto, if_pos (Or.inr (Or.inr hauto))]
    simp
  have hnone : ¬ (type.toInt = Code.addDevice.toNat ∨ type.toInt = Code.removeDevice.toNat
      ∨ type.toInt = Code.modeAuto.toNat) := by simp [hadd, hremove, hauto]
  by_cases hmanual : type.toInt = Code.modeManual.toNat
  · rw [if_neg hadd, if_neg hremove, if_neg hauto, if_pos hmanual, if_neg hnone, if_pos hmanual]
    simp
  · rw [if_neg hadd, if_neg hremove, if_neg hauto, if_neg hmanual, if_neg hnone, if_neg hmanual]
    simp

/-- A message does nothing when its type is none of the four. -/
theorem parseArgs_eq_nothing {type : Int32} {args : List (List UInt8)} :
    parseArgs type args = .nothing ↔ fieldCount type.toInt = 0 := by
  rw [← @orderOf_eq_none type args]
  unfold parseArgs
  cases orderOf type args with
  | none => simp
  | some o =>
      show (if _ then _ else _) = _ ↔ _
      split <;> simp

/-- A message fails when a field that its type requires is missing. -/
theorem parseArgs_eq_failure {type : Int32} {args : List (List UInt8)} :
    parseArgs type args = .failure ↔ args.length < fieldCount type.toInt := by
  have hnone := @orderOf_eq_none type args
  unfold parseArgs
  cases horder : orderOf type args with
  | none =>
      have hzero := hnone.mp horder
      refine iff_of_false (by simp) ?_
      omega
  | some o =>
      show (if _ then _ else _) = _ ↔ _
      split
      next h => exact iff_of_true rfl h
      next h => exact iff_of_false (by simp) h

/-! ## §2. Operations. -/

/-- A signal and a crash are the end of a message. -/
theorem Finishes.getLast {op : ChildOp} (hop : ∀ w, op ≠ .store w) :
    ∀ (ops : List ChildOp) (d : DeviceCommand), Finishes d ops → op ∈ ops →
      ops.getLast? = some op := by
  intro ops
  induction ops with
  | nil =>
      intro d _ hmem
      exact absurd hmem List.not_mem_nil
  | cons first ops ih =>
      intro d hfin hmem
      cases first with
      | crash =>
          cases ops with
          | nil => rw [List.mem_singleton.mp hmem]; rfl
          | cons next ops => exact False.elim hfin
      | kill o =>
          cases ops with
          | nil => rw [List.mem_singleton.mp hmem]; rfl
          | cons next ops => exact False.elim hfin
      | store w =>
          have hrest : Finishes (w.apply d) ops := by
            cases w with
            | request code => exact False.elim hfin
            | idToHandler id => exact hfin
            | userSet k v => exact hfin
          have hmem' : op ∈ ops := (List.mem_cons.mp hmem).resolve_left (hop w)
          rw [List.getLast?_cons, ih _ hrest hmem']
          rfl

theorem Announces.getLast {op : ChildOp} {ops : List ChildOp} {d : DeviceCommand}
    (h : Announces d ops) (hop : ∀ w, op ≠ .store w) (hmem : op ∈ ops) :
    ops.getLast? = some op := by
  cases ops with
  | nil => exact absurd hmem List.not_mem_nil
  | cons first ops =>
      cases first with
      | crash => exact False.elim h
      | kill o => exact False.elim h
      | store w =>
          have hmem' : op ∈ ops := (List.mem_cons.mp hmem).resolve_left (hop w)
          cases w with
          | request code =>
              rw [List.getLast?_cons, Finishes.getLast hop ops _ h hmem']
              rfl
          | idToHandler id => exact False.elim h
          | userSet k v => exact False.elim h

theorem idOps_last (code : UInt8) (order : UInt32 → Order) (rest : List UInt8) :
    (idOps code order rest).getLast?
      = some (if (tokens 32 rest).length < 1 then .crash
        else .kill (order (atoi ((tokens 32 rest).headD [])).toUInt32)) := by
  cases hwords : tokens 32 rest with
  | nil =>
      unfold idOps
      rw [strtok_eq_none.mpr hwords]
      rfl
  | cons token more => exact (idOps_whole hwords).2

/-- The numbers of a schedule are not all there. -/
theorem scheduleOps_short (id : UInt32) :
    ∀ (n : Nat) (rest : List UInt8) (vs : List Int32), (tokens 32 rest).length < n →
      (scheduleOps id n rest vs).getLast? = some .crash := by
  intro n
  induction n with
  | zero =>
      intro rest vs h
      exact absurd h (Nat.not_lt_zero _)
  | succ n ih =>
      intro rest vs h
      unfold scheduleOps
      cases hstrtok : strtok 32 rest with
      | none => rfl
      | some out =>
          obtain ⟨token, rest'⟩ := out
          rw [(tokens_of_strtok hstrtok).1, List.length_cons] at h
          rw [List.getLast?_cons, ih rest' _ (Nat.lt_of_succ_lt_succ h)]
          rfl

theorem manualOps_last (rest : List UInt8) :
    (manualOps rest).getLast?
      = some (if (tokens 32 rest).length < 17 then .crash
        else .kill (.manual (atoi ((tokens 32 rest).headD [])).toUInt32
          (TimeSet.ofNumbers (((tokens 32 rest).tail.take 16).map atoi)))) := by
  unfold manualOps
  cases hwords : tokens 32 rest with
  | nil =>
      rw [strtok_eq_none.mpr hwords]
      rfl
  | cons token more =>
      obtain ⟨rest', hstrtok, hmore⟩ := strtok_of_tokens hwords
      rw [hstrtok, List.getLast?_cons, List.getLast?_cons, List.length_cons]
      by_cases hn : more.length < 16
      · rw [if_pos (by omega), scheduleOps_short _ 16 rest' [] (by rw [hmore]; exact hn)]
        rfl
      · rw [if_neg (by omega), (scheduleOps_whole _ 16 rest' [] (by rw [hmore]; omega)).2, hmore]
        rfl

/-- The `switch` ends where the words say. -/
theorem messageOps_last (type : Int32) (rest : List UInt8) :
    (messageOps type rest).getLast? = (parseArgs type (tokens 32 rest)).last := by
  unfold messageOps parseArgs orderOf fieldCount
  by_cases hadd : type.toInt = Code.addDevice.toNat
  · simp only [if_pos hadd, if_pos (Or.inl hadd), idOps_last]
    split <;> rfl
  by_cases hremove : type.toInt = Code.removeDevice.toNat
  · simp only [if_neg hadd, if_pos hremove, if_pos (Or.inr (Or.inl hremove)), idOps_last]
    split <;> rfl
  by_cases hauto : type.toInt = Code.modeAuto.toNat
  · simp only [if_neg hadd, if_neg hremove, if_pos hauto, if_pos (Or.inr (Or.inr hauto)),
      idOps_last]
    split <;> rfl
  have hnone : ¬ (type.toInt = Code.addDevice.toNat ∨ type.toInt = Code.removeDevice.toNat
      ∨ type.toInt = Code.modeAuto.toNat) := by simp [hadd, hremove, hauto]
  by_cases hmanual : type.toInt = Code.modeManual.toNat
  · simp only [if_neg hadd, if_neg hremove, if_neg hauto, if_pos hmanual, if_neg hnone,
      manualOps_last]
    split <;> rfl
  · simp only [if_neg hadd, if_neg hremove, if_neg hauto, if_neg hmanual]
    rfl

/-! ## §3. A whole `read`. -/

/-- `recv_msg` sends SIGUSR2 for this order. -/
def Issues (bytes : List UInt8) (o : Order) : Prop :=
  ∃ ops, recvMsg bytes = some (.message ops) ∧ .kill o ∈ ops

/-- No `atoi(NULL)`, and no `strtok` off the buffer. -/
def ParsesInBounds (bytes : List UInt8) : Prop :=
  ∃ r, recvMsg bytes = some r ∧ ∀ ops, r = .message ops → .crash ∉ ops

theorem recvMsg_exit {bytes : List UInt8} (h : bytes.take 4 = [101, 120, 105, 116]) :
    recvMsg bytes = some .exit := by
  unfold recvMsg
  rw [if_pos h]

/-- There is no first word. -/
theorem recvMsg_nil {bytes : List UInt8} (h : bytes.take 4 ≠ [101, 120, 105, 116])
    (hwords : tokens 32 (strtokText bytes) = []) : recvMsg bytes = none := by
  unfold recvMsg
  rw [if_neg h, strtok_eq_none.mpr hwords]
  rfl

/-- **What `recv_msg` does is what the words are taken for.** -/
theorem recvMsg_last {bytes type : List UInt8} {args : List (List UInt8)}
    (h : bytes.take 4 ≠ [101, 120, 105, 116])
    (hwords : tokens 32 (strtokText bytes) = type :: args) :
    ∃ ops, recvMsg bytes = some (.message ops)
      ∧ ops.getLast? = (parseArgs (atoi type) args).last := by
  obtain ⟨rest, hstrtok, hrest⟩ := strtok_of_tokens hwords
  refine ⟨messageOps (atoi type) rest, ?_, ?_⟩
  · unfold recvMsg
    rw [if_neg h, hstrtok]
    rfl
  · rw [messageOps_last, hrest]

/-- A signal and a crash are there exactly when they are the last operation. -/
theorem mem_ops {bytes : List UInt8} {ops : List ChildOp} {op : ChildOp}
    (h : recvMsg bytes = some (.message ops)) (hop : ∀ w, op ≠ .store w) :
    op ∈ ops ↔ ops.getLast? = some op := by
  constructor
  · intro hmem
    exact (recvMsg_announces h ⟨0, 0, [], 0, TimeSet.zero⟩).getLast hop hmem
  · exact List.mem_of_getLast?

/-- **A request is issued exactly when the words are taken for it.** -/
theorem issues_iff {bytes : List UInt8} {o : Order} :
    Issues bytes o ↔ bytes.take 4 ≠ [101, 120, 105, 116]
      ∧ parse (tokens 32 (strtokText bytes)) = .order o := by
  by_cases hexit : bytes.take 4 = [101, 120, 105, 116]
  · refine iff_of_false ?_ (fun h => h.1 hexit)
    intro hissues
    obtain ⟨ops, hops, -⟩ := hissues
    rw [recvMsg_exit hexit] at hops
    cases hops
  cases hwords : tokens 32 (strtokText bytes) with
  | nil =>
      refine iff_of_false ?_ (fun h => by cases h.2)
      intro hissues
      obtain ⟨ops, hops, -⟩ := hissues
      rw [recvMsg_nil hexit hwords] at hops
      cases hops
  | cons type args =>
      obtain ⟨ops, hops, hlast⟩ := recvMsg_last hexit hwords
      have hissues : Issues bytes o ↔ ops.getLast? = some (.kill o) := by
        rw [← mem_ops hops (by simp)]
        constructor
        · intro hissues
          obtain ⟨ops', hops', hmem⟩ := hissues
          rw [hops] at hops'
          cases hops'
          exact hmem
        · intro hmem
          exact ⟨ops, hops, hmem⟩
      rw [hissues, hlast]
      show _ ↔ _ ∧ parseArgs (atoi type) args = _
      cases parseArgs (atoi type) args with
      | nothing => simp [Parse.last]
      | failure => simp [Parse.last]
      | order o' => simp [Parse.last, hexit]

theorem parsesInBounds_iff {bytes : List UInt8} :
    ParsesInBounds bytes ↔ bytes.take 4 = [101, 120, 105, 116]
      ∨ parse (tokens 32 (strtokText bytes)) ≠ .failure := by
  by_cases hexit : bytes.take 4 = [101, 120, 105, 116]
  · exact iff_of_true ⟨_, recvMsg_exit hexit, by simp⟩ (Or.inl hexit)
  cases hwords : tokens 32 (strtokText bytes) with
  | nil =>
      refine iff_of_false ?_ ?_
      · intro hparses
        obtain ⟨r, hr, -⟩ := hparses
        rw [recvMsg_nil hexit hwords] at hr
        cases hr
      · intro h
        rcases h with h | h
        · exact hexit h
        · exact h rfl
  | cons type args =>
      obtain ⟨ops, hops, hlast⟩ := recvMsg_last hexit hwords
      have hbounds : ParsesInBounds bytes ↔ ops.getLast? ≠ some .crash := by
        rw [Ne, ← mem_ops hops (by simp)]
        constructor
        · intro hparses
          obtain ⟨r, hr, hcrash⟩ := hparses
          rw [hops] at hr
          exact hcrash ops (Option.some.inj hr).symm
        · intro hcrash
          refine ⟨_, hops, fun ops' h => ?_⟩
          cases h
          exact hcrash
      rw [hbounds, hlast]
      show _ ↔ _ ∨ parseArgs (atoi type) args ≠ _
      cases parseArgs (atoi type) args with
      | nothing => simp [Parse.last]
      | failure => simp [Parse.last, hexit]
      | order o' => simp [Parse.last]

/-! ## §4. Malformed messages. -/

/-- The text has no numeric type, or not all the fields that its type requires. -/
def Lacks : List (List UInt8) → Prop
  | [] => True
  | type :: args =>
      match numeralValue type with
      | none => True
      | some z => args.length < fieldCount z

/-- No SIGUSR2, and a request that is in the shared memory stays as it is. -/
def Unheard (ops : List ChildOp) : Prop :=
  ∀ d, (serve d ops).2 = [] ∧ (serve d ops).1.request = d.request
    ∧ (serve d ops).1.idToHandler = d.idToHandler ∧ (serve d ops).1.userSet = d.userSet

/-- Parsing has a result, and a message that lacks something is not heard of. -/
structure Harmless (bytes : List UInt8) : Prop where
  parses : ParsesInBounds bytes
  unheard : Lacks (tokens 32 (cstr bytes)) →
    ∀ ops, recvMsg bytes = some (.message ops) → Unheard ops

/-- A message that ends the session, one of another type, or one whose type is a number
and whose fields are all there (in a full buffer, all cut off by a space). -/
def Complete (bytes : List UInt8) : Prop :=
  bytes.take 4 = [101, 120, 105, 116]
    ∨ ∃ type args, tokens 32 (strtokText bytes) = type :: args
      ∧ (fieldCount (atoi type).toInt = 0
        ∨ ((numeralValue type).isSome = true ∧ fieldCount (atoi type).toInt ≤ args.length))

/-- The words that `strtok` can cut off are the first ones of the text. -/
theorem tokens_strtokText (bytes : List UInt8) :
    ∃ more, tokens 32 (cstr bytes) = tokens 32 (strtokText bytes) ++ more := by
  unfold strtokText
  split
  next hfull =>
      rw [cstr_eq_self hfull.2]
      obtain ⟨tail, htail⟩ := List.rdropWhile_prefix (fun b => decide (b ≠ 32)) bytes
      by_cases hnil : bytes.rdropWhile (fun b => decide (b ≠ 32)) = []
      · rw [hnil]
        exact ⟨tokens 32 bytes, rfl⟩
      · -- the part ends in a space
        have hlast := List.rdropWhile_last_not (fun b => decide (b ≠ 32)) bytes hnil
        have hspace : (bytes.rdropWhile (fun b => decide (b ≠ 32))).getLast hnil = 32 := by
          simpa using hlast
        have hcut := List.dropLast_append_getLast hnil
        rw [hspace] at hcut
        refine ⟨tokens 32 tail, ?_⟩
        conv_lhs => rw [← htail, ← hcut, List.append_assoc]
        conv_rhs => rw [← hcut]
        rw [List.singleton_append, tokens_append_sep, tokens_append_sep, tokens_nil,
          List.append_nil]
  next => exact ⟨[], (List.append_nil _).symm⟩

/-- The four codes are small: the type that `atoi` makes of a numeral of one is that one. -/
theorem fieldCount_of_numeral {type : List UInt8} {z : Int} (h : numeralValue type = some z)
    (hz : fieldCount z ≠ 0) : (atoi type).toInt = z := by
  have hsmall : z = 0 ∨ z = 4 ∨ z = 7 ∨ z = 6 := by
    by_contra hnot
    apply hz
    have h0 : z ≠ Code.addDevice.toNat := fun h => hnot (Or.inl h)
    have h4 : z ≠ Code.removeDevice.toNat := fun h => hnot (Or.inr (Or.inl h))
    have h7 : z ≠ Code.modeAuto.toNat := fun h => hnot (Or.inr (Or.inr (Or.inl h)))
    have h6 : z ≠ Code.modeManual.toNat := fun h => hnot (Or.inr (Or.inr (Or.inr h)))
    unfold fieldCount
    rw [if_neg (by simp [h0, h4, h7]), if_neg h6]
  rw [atoi_of_numeral h (by unfold longMin; omega) (by unfold longMax; omega)]
  exact Int32.toInt_ofInt_of_le (by omega) (by omega)

/-- A message that sends a signal is heard of. -/
theorem not_unheard {bytes : List UInt8} {ops : List ChildOp} {o : Order}
    (h : recvMsg bytes = some (.message ops)) (hlast : ops.getLast? = some (.kill o)) :
    ¬ Unheard ops := by
  intro hun
  have hcrash : ChildOp.crash ∉ ops := by
    rw [mem_ops h (by simp), hlast]
    simp
  obtain ⟨m, hserve, -⟩ := serve_announces
    (recvMsg_announces h ⟨0, 0, [], 0, TimeSet.zero⟩) hcrash hlast
  have hnone := (hun ⟨0, 0, [], 0, TimeSet.zero⟩).1
  rw [hserve] at hnone
  cases hnone

theorem parse_ne_failure {type : Int32} {args : List (List UInt8)} :
    parseArgs type args ≠ .failure ↔ fieldCount type.toInt ≤ args.length := by
  rw [Ne, parseArgs_eq_failure, Nat.not_lt]

section Words

variable {bytes type : List UInt8} {args : List (List UInt8)}

/-- The first word is read, and after it as many as its type asks for. -/
theorem parsesInBounds_iff_fields (hexit : bytes.take 4 ≠ [101, 120, 105, 116])
    (hwords : tokens 32 (strtokText bytes) = type :: args) :
    ParsesInBounds bytes ↔ fieldCount (atoi type).toInt ≤ args.length := by
  rw [parsesInBounds_iff, hwords, ← parse_ne_failure]
  exact or_iff_right hexit

/-- A type that is no number lacks what it stands for. -/
theorem lacks_of_not_numeral {words : List (List UInt8)} (h : ¬ (numeralValue type).isSome = true) :
    Lacks (type :: words) := by
  show match numeralValue type with | none => True | some z => _ < fieldCount z
  rw [Option.not_isSome_iff_eq_none.mp h]
  trivial

/-- A number that `atoi` reads as its value lacks nothing when the words are there. -/
theorem not_lacks_of_fields {more : List (List UInt8)}
    (hnumeral : (numeralValue type).isSome = true)
    (hfields : fieldCount (atoi type).toInt ≤ args.length) : ¬ Lacks (type :: args ++ more) := by
  intro hlacks
  obtain ⟨z, hz⟩ := Option.isSome_iff_exists.mp hnumeral
  have hshort : (args ++ more).length < fieldCount z := by
    have hmatch : match numeralValue type with
      | none => True
      | some z => (args ++ more).length < fieldCount z := hlacks
    rw [hz] at hmatch
    exact hmatch
  rw [List.length_append] at hshort
  rw [fieldCount_of_numeral hz (by omega)] at hfields
  omega

theorem Harmless.complete (hexit : bytes.take 4 ≠ [101, 120, 105, 116])
    (hwords : tokens 32 (strtokText bytes) = type :: args) (h : Harmless bytes) :
    Complete bytes := by
  have hfields := (parsesInBounds_iff_fields hexit hwords).mp h.parses
  refine Or.inr ⟨type, args, hwords, ?_⟩
  by_cases hzero : fieldCount (atoi type).toInt = 0
  · exact Or.inl hzero
  refine Or.inr ⟨?_, hfields⟩
  -- the message is heard of, so its type is a number
  by_contra hnumeral
  obtain ⟨more, hmore⟩ := tokens_strtokText bytes
  have hlacks : Lacks (tokens 32 (cstr bytes)) := by
    rw [hmore, hwords]
    exact lacks_of_not_numeral hnumeral
  obtain ⟨ops, hops, hlast⟩ := recvMsg_last hexit hwords
  cases hparse : parseArgs (atoi type) args with
  | nothing => exact hzero (parseArgs_eq_nothing.mp hparse)
  | failure => exact parse_ne_failure.mpr hfields hparse
  | order o =>
      rw [hparse] at hlast
      exact not_unheard hops hlast (h.unheard hlacks ops hops)

/-- A type that is not one of the four: nothing is done. -/
theorem harmless_of_other_type (hexit : bytes.take 4 ≠ [101, 120, 105, 116])
    (hwords : tokens 32 (strtokText bytes) = type :: args)
    (hzero : fieldCount (atoi type).toInt = 0) : Harmless bytes := by
  obtain ⟨ops, hops, hlast⟩ := recvMsg_last hexit hwords
  refine ⟨(parsesInBounds_iff_fields hexit hwords).mpr (by omega), fun _ ops' hops' => ?_⟩
  rw [hops] at hops'
  cases hops'
  rw [parseArgs_eq_nothing.mpr hzero] at hlast
  rw [List.getLast?_eq_none_iff.mp hlast]
  exact fun d => ⟨rfl, rfl, rfl, rfl⟩

/-- A message with all its fields lacks nothing. -/
theorem harmless_of_fields (hexit : bytes.take 4 ≠ [101, 120, 105, 116])
    (hwords : tokens 32 (strtokText bytes) = type :: args)
    (hnumeral : (numeralValue type).isSome = true)
    (hfields : fieldCount (atoi type).toInt ≤ args.length) : Harmless bytes := by
  obtain ⟨more, hmore⟩ := tokens_strtokText bytes
  refine ⟨(parsesInBounds_iff_fields hexit hwords).mpr hfields, fun hlacks => ?_⟩
  rw [hmore, hwords] at hlacks
  exact absurd hlacks (not_lacks_of_fields hnumeral hfields)

end Words

/-- **THE READS THAT DO NO HARM ARE THE COMPLETE MESSAGES.** -/
theorem harmless_iff (bytes : List UInt8) : Harmless bytes ↔ Complete bytes := by
  by_cases hexit : bytes.take 4 = [101, 120, 105, 116]
  · refine iff_of_true ⟨parsesInBounds_iff.mpr (Or.inl hexit), fun _ ops hops => ?_⟩ (Or.inl hexit)
    rw [recvMsg_exit hexit] at hops
    cases hops
  cases hwords : tokens 32 (strtokText bytes) with
  | nil =>
      -- no word, and `atoi` is called on it
      refine iff_of_false (fun h => ?_) ?_
      · have hparses := (parsesInBounds_iff.mp h.parses).resolve_left hexit
        rw [hwords] at hparses
        exact hparses rfl
      · intro h
        rcases h with h | ⟨type, args, h, -⟩
        · exact hexit h
        · rw [hwords] at h
          cases h
  | cons type args =>
      constructor
      · intro h
        exact h.complete hexit hwords
      · intro h
        rcases h with h | ⟨type', args', heq, hzero | ⟨hnumeral, hfields⟩⟩
        · exact absurd h hexit
        · exact harmless_of_other_type hexit heq hzero
        · exact harmless_of_fields hexit heq hnumeral hfields

/-- A failing `read`, a message without an id, and one whose type is not a number. -/
theorem harm_of_malformed :
    ¬ Harmless [] ∧ ¬ Harmless (ascii "0") ∧ ¬ Harmless (ascii "abc 5") := by
  refine ⟨fun h => ?_, fun h => ?_, fun h => ?_⟩
  · obtain ⟨r, hr, -⟩ := h.parses
    cases hr
  · obtain ⟨r, hr, hcrash⟩ := h.parses
    have hops : recvMsg (ascii "0") = some (.message [.store (.request 0), .crash]) := by decide
    rw [hops] at hr
    exact hcrash _ (Option.some.inj hr).symm (by decide)
  · have hops : recvMsg (ascii "abc 5")
        = some (.message [.store (.request 0), .store (.idToHandler 5), .kill (.add 5)]) := by decide
    have hnone := (h.unheard trivial _ hops ⟨0, 0, [], 0, TimeSet.zero⟩).1
    cases hnone

/-! ## §5. The grammar. -/

/-- The token is a decimal id: a number that an `int` or an `unsigned` can hold. -/
def DecimalId (token : List UInt8) (id : UInt32) : Prop :=
  ∃ z, numeralValue token = some z ∧ -2147483648 ≤ z ∧ z < 4294967296 ∧ UInt32.ofInt z = id

/-- **The grammar**: the numeral of a code and a decimal id, and for a schedule
sixteen decimal integers. -/
def Order.Written : Order → List (List UInt8) → Prop
  | .add id, words => ∃ token, words = [decimal Code.addDevice.toNat, token] ∧ DecimalId token id
  | .remove id, words =>
      ∃ token, words = [decimal Code.removeDevice.toNat, token] ∧ DecimalId token id
  | .auto id, words => ∃ token, words = [decimal Code.modeAuto.toNat, token] ∧ DecimalId token id
  | .manual id t, words =>
      ∃ token numbers, words = decimal Code.modeManual.toNat :: token :: numbers
        ∧ DecimalId token id
        ∧ numbers.map numeralValue = t.numbers.map (fun x => some x.toInt)
  | _, _ => False

/-- `recv_msg` and the grammar agree on the text. -/
def AcceptsGrammar (text : List UInt8) : Prop :=
  ∀ o, Issues text o ↔ o.Written (tokens 32 text)

/-- `recv_msg` takes the text for no request: the text ends the session, or has no words, or
its type is not one of the four, or a field is missing. -/
def Refused (text : List UInt8) : Prop :=
  text.take 4 = [101, 120, 105, 116] ∨ tokens 32 text = []
    ∨ ∃ type args, tokens 32 text = type :: args
      ∧ (fieldCount (atoi type).toInt = 0 ∨ args.length < fieldCount (atoi type).toInt)

/-- An `int` and an `unsigned` of the same number have the same bits. -/
theorem toUInt32_ofInt (z : Int) : (Int32.ofInt z).toUInt32 = UInt32.ofInt z := by
  apply UInt32.toNat_inj.mp
  show (BitVec.ofInt 32 z).toNat = (UInt32.ofNat (z % 2 ^ 32).toNat).toNat
  rw [BitVec.toNat_ofInt, UInt32.toNat_ofNat']
  show (z % 4294967296).toNat = (z % 4294967296).toNat % 4294967296
  omega

theorem atoi_of_decimalId {token : List UInt8} {id : UInt32} (h : DecimalId token id) :
    (atoi token).toUInt32 = id := by
  obtain ⟨z, hz, hlo, hhi, rfl⟩ := h
  rw [atoi_of_numeral hz (by unfold longMin; omega) (by unfold longMax; omega)]
  exact toUInt32_ofInt z

/-- Numerals of sixteen `int`s are read as these. -/
theorem atoi_of_numerals {numbers : List (List UInt8)} {xs : List Int32}
    (h : numbers.map numeralValue = xs.map (fun x => some x.toInt)) : numbers.map atoi = xs := by
  induction numbers generalizing xs with
  | nil =>
      cases xs with
      | nil => rfl
      | cons x xs => cases h
  | cons token numbers ih =>
      cases xs with
      | nil => cases h
      | cons x xs =>
          rw [List.map_cons, List.map_cons] at h
          obtain ⟨hx, hxs⟩ := List.cons.inj h
          have hlo := x.le_toInt
          have hhi := x.toInt_lt
          rw [List.map_cons, ih hxs, atoi_of_numeral hx (by unfold longMin; omega)
            (by unfold longMax; omega), Int32.ofInt_toInt]

/-- A text of the grammar is a message for its order. -/
theorem Order.Written.reads {o : Order} {text : List UInt8} (hz : (0 : UInt8) ∉ text)
    (hlen : text.length ≤ 1023) (h : o.Written (tokens 32 text)) : Says o text := by
  refine ⟨hz, Nat.lt_succ_of_le hlen, ?_⟩
  cases o with
  | connect => exact False.elim h
  | disconnect => exact False.elim h
  | add id =>
      obtain ⟨token, hwords, hid⟩ := h
      exact ⟨[token], hwords, atoi_of_decimalId hid⟩
  | remove id =>
      obtain ⟨token, hwords, hid⟩ := h
      exact ⟨[token], hwords, atoi_of_decimalId hid⟩
  | auto id =>
      obtain ⟨token, hwords, hid⟩ := h
      exact ⟨[token], hwords, atoi_of_decimalId hid⟩
  | manual id t =>
      obtain ⟨token, numbers, hwords, hid, hnumbers⟩ := h
      refine ⟨token :: numbers, hwords, atoi_of_decimalId hid, ?_⟩
      have hsixteen : numbers.length ≤ 16 := by
        have hl := congrArg List.length hnumbers
        rw [List.length_map, List.length_map] at hl
        exact Nat.le_of_eq hl
      rw [List.take_of_length_le hsixteen]
      exact atoi_of_numerals hnumbers

/-- A message issues its order. -/
theorem Says.issues {o : Order} {text : List UInt8} (h : Says o text) : Issues text o := by
  obtain ⟨ops, hops, -, hlast⟩ := recvMsg_says h
  exact ⟨ops, hops, List.mem_of_getLast? hlast⟩

/-- So does a text of the grammar. -/
theorem Order.Written.issues {o : Order} {text : List UInt8} (hz : (0 : UInt8) ∉ text)
    (hlen : text.length ≤ 1023) (h : o.Written (tokens 32 text)) : Issues text o :=
  (h.reads hz hlen).issues

theorem refused_iff {text : List UInt8} (hz : (0 : UInt8) ∉ text) (hlen : text.length ≤ 1023) :
    Refused text ↔ ∀ o, ¬ Issues text o := by
  have hissues : ∀ o, Issues text o ↔ text.take 4 ≠ [101, 120, 105, 116]
      ∧ parse (tokens 32 text) = .order o := by
    intro o
    rw [issues_iff, strtokText_eq_self (Nat.lt_succ_of_le hlen) hz]
  simp only [hissues]
  unfold Refused
  by_cases hexit : text.take 4 = [101, 120, 105, 116]
  · exact iff_of_true (Or.inl hexit) (fun o h => h.1 hexit)
  cases hwords : tokens 32 text with
  | nil =>
      refine iff_of_true (Or.inr (Or.inl rfl)) ?_
      intro o hissues
      obtain ⟨-, h⟩ := hissues
      cases h
  | cons type args =>
      constructor
      · intro h o hissues
        obtain ⟨-, horder⟩ := hissues
        rcases h with h | h | ⟨type', args', heq, h⟩
        · exact hexit h
        · cases h
        obtain ⟨rfl, rfl⟩ := List.cons.inj heq
        rw [show parse (type :: args) = parseArgs (atoi type) args from rfl] at horder
        rcases h with h | h
        · rw [parseArgs_eq_nothing.mpr h] at horder
          cases horder
        · rw [parseArgs_eq_failure.mpr h] at horder
          cases horder
      · intro h
        refine Or.inr (Or.inr ⟨type, args, rfl, ?_⟩)
        cases hparse : parseArgs (atoi type) args with
        | nothing => exact Or.inl (parseArgs_eq_nothing.mp hparse)
        | failure => exact Or.inr (parseArgs_eq_failure.mp hparse)
        | order o => exact absurd ⟨hexit, hparse⟩ (h o)

/-- One `read` issues one request at most. -/
theorem Issues.unique {bytes : List UInt8} {o o' : Order} (h : Issues bytes o)
    (h' : Issues bytes o') : o = o' := by
  have hparse := (issues_iff.mp h).2
  rw [(issues_iff.mp h').2] at hparse
  exact (Parse.order.inj hparse).symm

/-- **`recv_msg` ACCEPTS ITS GRAMMAR ON THE TEXTS OF THE GRAMMAR, AND ON THOSE THAT IT
TAKES FOR NO REQUEST.** -/
theorem acceptsGrammar_iff {text : List UInt8} (hz : (0 : UInt8) ∉ text)
    (hlen : text.length ≤ 1023) :
    AcceptsGrammar text ↔ (∃ o : Order, o.Written (tokens 32 text)) ∨ Refused text := by
  constructor
  · intro h
    by_cases hany : ∃ o, Issues text o
    · obtain ⟨o, ho⟩ := hany
      exact Or.inl ⟨o, (h o).mp ho⟩
    · exact Or.inr ((refused_iff hz hlen).mpr (fun o ho => hany ⟨o, ho⟩))
  · intro h o'
    rcases h with ⟨o, ho⟩ | h
    · constructor
      · intro h'
        rw [← Issues.unique (ho.issues hz hlen) h']
        exact ho
      · exact fun h' => h'.issues hz hlen
    · constructor
      · intro h'
        exact absurd h' ((refused_iff hz hlen).mp h o')
      · intro h'
        exact absurd (h'.issues hz hlen) ((refused_iff hz hlen).mp h o')

/-- The order to run by itself, for a node whose id prints as a negative number. -/
theorem acceptsGrammar_auto : AcceptsGrammar (ascii "7 -1") := by
  apply (acceptsGrammar_iff (by decide) (by decide)).mpr
  refine Or.inl ⟨.auto 0xFFFFFFFF, ascii "-1", by decide, -1, by decide, by decide, by decide, ?_⟩
  decide

/-- `atoi` reads `hello` as 0, which is ADD_DEVICE. -/
theorem hello_adds_device : ¬ AcceptsGrammar (ascii "hello 5") := by
  intro h
  have hissues : Issues (ascii "hello 5") (.add 5) := by
    apply issues_iff.mpr
    decide
  obtain ⟨token, hwords, -⟩ := (h (.add 5)).mp hissues
  have htype : some (ascii "hello") = some (decimal Code.addDevice.toNat) :=
    congrArg List.head? hwords
  exact absurd htype (by decide)

end LoRaGateway
