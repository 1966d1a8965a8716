/-
  LoRaGateway.Registry.Restart
  ────────────────────────────
  **THE ROUND TRIP THROUGH THE NODE FILE.**

  The writer prints ids with `%d`, through a conversion to `int`; the reader goes
  through `strtok`, `atoi` and a conversion back.  Nothing else is known here of
  `atoi` than that it reads back what `%d` prints, so start-up is stated again
  with that function as a parameter (`setupNodeWith_atoi`: it is the same).

    • `setupLoopWith_eq` — whatever the file holds, start-up adds the values of
      its tokens one by one,
    • `addAll_ids` — of which the first occurrences stay,
    • `restart_round_trip` — written registries come back, and what comes out of
      an arbitrary file comes out again.
-/
import LoRaGateway.Lib.Tokens
import LoRaGateway.Registry.Durable

namespace LoRaGateway

open LoRaGateway.Lib

/-! ## §1. Start-up over any `atoi`. -/

/-- A function that reads back every `int` from what `%d` prints for it. -/
def ReadsPrinted (readInt : List UInt8 → Int32) : Prop := ∀ x : Int32, readInt (decimal x.toInt) = x

theorem readsPrinted_atoi : ReadsPrinted atoi := atoi_decimal

/-- The loop of `setup_node`. -/
def setupLoopWith (readInt : List UInt8 → Int32) (call : Nat → Host) :
    Nat → List UInt8 → Registry → Registry
  | 0, _, r => r
  | k + 1, text, r =>
      match strtok 32 text with
      | none => r
      | some (token, rest) =>
          setupLoopWith readInt call k rest (addDevice (call k) (readInt token).toUInt32 r).2

/-- `setup_node`. -/
def setupNodeWith (readInt : List UInt8 → Int32) (s : SetupHost) (r : Registry) :
    Int × Registry :=
  match r.nodeFile with
  | none => (-1, r)
  | some f =>
      if s.opens then
        if f.contents.length > 0 then
          if s.allocates then
            let r' := setupLoopWith readInt s.call f.contents.length (cstr f.contents) r
            (r'.nodeCount, r')
          else (-1, r)
        else (r.nodeCount, r)
      else (-1, r)

theorem setupLoopWith_atoi (call : Nat → Host) (k : Nat) :
    ∀ (text : List UInt8) (r : Registry), setupLoopWith atoi call k text r = setupLoop call k text r := by
  induction k with
  | zero =>
      intro text r
      rfl
  | succ k ih =>
      intro text r
      unfold setupLoopWith setupLoop
      cases strtok 32 text with
      | none => rfl
      | some out => exact ih _ _

/-- With the C library's `atoi` it is the start-up of the gateway. -/
theorem setupNodeWith_atoi (s : SetupHost) (r : Registry) :
    setupNodeWith atoi s r = setupNode s r := by
  unfold setupNodeWith setupNode
  cases r.nodeFile with
  | none => rfl
  | some f => simp only [setupLoopWith_atoi]

/-! ## §2. The values of a text. -/

/-- The ids that the tokens of a text stand for. -/
def tokenIds (readInt : List UInt8 → Int32) (text : List UInt8) : List UInt32 :=
  (tokens 32 text).map (fun token => (readInt token).toUInt32)

/-- Start-up adds the values of the tokens one by one. -/
theorem setupLoopWith_eq (readInt : List UInt8 → Int32) (call : Nat → Host) (k : Nat) :
    ∀ (text : List UInt8) (r : Registry), text.length ≤ k →
      setupLoopWith readInt call k text r = addAll call k (tokenIds readInt text) r := by
  induction k with
  | zero =>
      intro text r hk
      have hnil : text = [] := List.eq_nil_of_length_eq_zero (by omega)
      rw [hnil]
      rfl
  | succ k ih =>
      intro text r hk
      unfold setupLoopWith
      cases htok : strtok 32 text with
      | none =>
          unfold tokenIds
          rw [strtok_eq_none.mp htok]
          rfl
      | some out =>
          obtain ⟨token, rest⟩ := out
          obtain ⟨hcut, hlt⟩ := tokens_of_strtok htok
          unfold tokenIds
          rw [hcut]
          exact ih rest _ (by omega)

theorem readInt_printId {readInt : List UInt8 → Int32} (hback : ReadsPrinted readInt) (id : UInt32) :
    (readInt (printId id)).toUInt32 = id := by
  unfold printId
  rw [hback]
  exact UInt32.toUInt32_toInt32 id

/-- The text of a list of ids stands for that list. -/
theorem tokenIds_encodeIds {readInt : List UInt8 → Int32} (hback : ReadsPrinted readInt)
    (ids : List UInt32) : tokenIds readInt (encodeIds ids) = ids := by
  induction ids with
  | nil => rfl
  | cons id ids ih =>
      obtain ⟨hne, hsp⟩ := printId_token id
      have hcut : encodeIds (id :: ids) = printId id ++ 32 :: encodeIds ids := by
        simp [encodeIds, oneNode]
      unfold tokenIds at ih ⊢
      rw [hcut, tokens_append hne hsp, List.map_cons, ih, readInt_printId hback]

/-! ## §3. Adding ids one by one. -/

/-- A record without its schedule, the part of it that `LoRa_init` leaves alone. -/
def LoRaNode.known (n : LoRaNode) : LoRaNode := { n with workingTime := TimeSet.zero }

/-- The record of a new node. -/
def newNode (id : UInt32) : LoRaNode := loRaInit LoRaNode.zero id

/-- The records are new ones. -/
def AllNew (r : Registry) : Prop := r.newLoRa.map LoRaNode.known = r.ids.map newNode

theorem addDevice_allNew (h : Host) (id : UInt32) {r : Registry} (hnew : AllNew r) :
    AllNew (addDevice h id r).2 := by
  rw [addDevice_eq]
  by_cases hid : id ∈ r.ids
  · rw [if_pos hid]
    exact hnew
  · rw [if_neg hid]
    unfold AllNew at hnew ⊢
    rw [syncListToFile_newLoRa, syncListToFile_ids]
    show (r.newLoRa ++ [appended h id r]).map _ = ((r.newLoRa ++ [appended h id r]).map _).map _
    rw [List.map_append, List.map_append, List.map_append, hnew]
    rfl

theorem addAll_allNew (call : Nat → Host) (more : List UInt32) :
    ∀ (k : Nat) (r : Registry), AllNew r → AllNew (addAll call k more r) := by
  induction more with
  | nil =>
      intro k r hnew
      exact hnew
  | cons id more ih =>
      intro k r hnew
      exact ih _ _ (addDevice_allNew _ id hnew)

theorem addAll_nodup (call : Nat → Host) (more : List UInt32) :
    ∀ (k : Nat) (r : Registry), r.ids.Nodup → (addAll call k more r).ids.Nodup := by
  induction more with
  | nil =>
      intro k r hnd
      exact hnd
  | cons id more ih =>
      intro k r hnd
      apply ih
      rw [addDevice_ids]
      split
      next => exact hnd
      next hid =>
          rw [List.nodup_append']
          exact ⟨hnd, List.nodup_singleton id, by simpa using hid⟩

/-- **Of the added ids the first occurrences stay**, in order. -/
theorem addAll_ids (call : Nat → Host) (more : List UInt32) :
    ∀ (k : Nat) (r : Registry), r.ids.eraseDups = r.ids →
      (addAll call k more r).ids = (r.ids ++ more).eraseDups := by
  induction more with
  | nil =>
      intro k r hnd
      rw [List.append_nil, hnd]
      rfl
  | cons id more ih =>
      intro k r hnd
      rw [addAll]
      by_cases hid : id ∈ r.ids
      -- refused: `id` is one of the earlier ones
      · have hids : (addDevice (call (k - 1)) id r).2.ids = r.ids := by
          rw [addDevice_ids, if_pos hid]
        have hskip : (id :: more).removeAll r.ids = more.removeAll r.ids := by
          unfold List.removeAll
          rw [List.filter_cons_of_neg (by simpa using hid)]
        rw [ih _ _ (by rw [hids, hnd]), hids, List.eraseDups_append, List.eraseDups_append, hskip]
      · have hids : (addDevice (call (k - 1)) id r).2.ids = r.ids ++ [id] := by
          rw [addDevice_ids, if_neg hid]
        have hnd' : (r.ids ++ [id]).eraseDups = r.ids ++ [id] := by
          rw [List.eraseDups_append, hnd]
          unfold List.removeAll
          rw [List.filter_cons_of_pos (by simpa using hid)]
          rfl
        rw [ih _ _ (by rw [hids, hnd']), hids, List.append_assoc]
        rfl

/-- The file is rewritten as soon as one id is added; before, it stays. -/
theorem addAll_saved {call : Nat → Host} (hopen : ∀ k, (call k).opens = true)
    (more : List UInt32) :
    ∀ (k : Nat) (r : Registry) (f : NodeFile), r.nodeFile = some f →
      r.Saved ∨ (r.ids = [] ∧ more ≠ []) → (addAll call k more r).Saved := by
  induction more with
  | nil =>
      intro k r f _ h
      rcases h with hsaved | ⟨-, hne⟩
      · exact hsaved
      · exact absurd rfl hne
  | cons id more ih =>
      intro k r f hf h
      rw [addAll]
      by_cases hid : id ∈ r.ids
      · have hsame : (addDevice (call (k - 1)) id r).2 = r := by
          rw [addDevice_eq, if_pos hid]
        rw [hsame]
        rcases h with hsaved | ⟨hnil, -⟩
        · exact ih _ r f hf (Or.inl hsaved)
        · rw [hnil] at hid
          exact absurd hid (by simp)
      · have hnew := (addDevice_new (hopen (k - 1)) hf hid).2
        have hret : ((RegistryOp.add (call (k - 1)) id).exec r).1 = 0 := by
          rw [RegistryOp.exec, addDevice_eq, if_neg hid]
        exact ih _ _ _ hnew
          (Or.inl ((exec_saved_iff hret).mpr ⟨f, hf, Or.inl (hopen (k - 1))⟩))

/-! ## §4. The round trip. -/

/-- A process that starts with this text in the node file. -/
def startUp (readInt : List UInt8 → Int32) (s : SetupHost) (text : List UInt8) : Registry :=
  (setupNodeWith readInt s (boot text)).2

/-- What a file without NULs makes of a new process. -/
theorem startUp_eq (readInt : List UInt8 → Int32) {s : SetupHost} (hs : s.Ok) {text : List UInt8}
    (hz : (0 : UInt8) ∉ text) :
    startUp readInt s text = addAll s.call text.length (tokenIds readInt text) (boot text) := by
  have hcont : (⟨text, []⟩ : NodeFile).contents = text := rfl
  unfold startUp setupNodeWith boot Registry.empty
  simp only [hcont, hs.opens, hs.allocates, if_true, cstr_eq_self hz]
  by_cases h0 : text.length > 0
  · rw [if_pos h0, setupLoopWith_eq readInt s.call text.length text _ (Nat.le_refl _)]
  · -- an empty file is not read, and has no token
    have hnil : text = [] := List.eq_nil_of_length_eq_zero (by omega)
    rw [if_neg h0, hnil]
    rfl

theorem startUp_ids (readInt : List UInt8 → Int32) {s : SetupHost} (hs : s.Ok) {text : List UInt8}
    (hz : (0 : UInt8) ∉ text) :
    (startUp readInt s text).ids = (tokenIds readInt text).eraseDups := by
  rw [startUp_eq readInt hs hz, addAll_ids s.call _ _ _ rfl]
  rfl

/-- Start-up saves the registry, or has found no token and left the file alone. -/
theorem startUp_file (readInt : List UInt8 → Int32) {s : SetupHost} (hs : s.Ok)
    {text : List UInt8} (hz : (0 : UInt8) ∉ text) :
    (startUp readInt s text).Saved
      ∨ (tokenIds readInt text = [] ∧ startUp readInt s text = boot text) := by
  rw [startUp_eq readInt hs hz]
  by_cases hnone : tokenIds readInt text = []
  · right
    rw [hnone]
    exact ⟨rfl, rfl⟩
  · exact Or.inl (addAll_saved hs.call _ _ _ ⟨text, []⟩ rfl (Or.inr ⟨rfl, hnone⟩))

theorem startUp_allNew (readInt : List UInt8 → Int32) {s : SetupHost} (hs : s.Ok)
    {text : List UInt8} (hz : (0 : UInt8) ∉ text) : AllNew (startUp readInt s text) := by
  rw [startUp_eq readInt hs hz]
  exact addAll_allNew s.call _ _ _ rfl

/-- Distinct ids are their own first occurrences. -/
theorem eraseDups_of_nodup {ids : List UInt32} (hnd : ids.Nodup) : ids.eraseDups = ids := by
  induction ids with
  | nil => rfl
  | cons id ids ih =>
      obtain ⟨hid, hnd⟩ := List.nodup_cons.mp hnd
      have hkeep : ids.filter (fun b => !b == id) = ids := by
        apply List.filter_eq_self.mpr
        intro b hb
        have hne : b ≠ id := fun h => hid (h ▸ hb)
        simpa using hne
      rw [List.eraseDups_cons, hkeep, ih hnd]

/-- **A saved registry comes back**, and its file stays as it is. -/
theorem startUp_saved {readInt : List UInt8 → Int32} (hback : ReadsPrinted readInt) {s : SetupHost}
    (hs : s.Ok) {ids : List UInt32} (hnd : ids.Nodup) :
    (startUp readInt s (encodeIds ids)).ids = ids
      ∧ (startUp readInt s (encodeIds ids)).nodeFile.map NodeFile.contents
          = some (encodeIds ids) := by
  have hz := zero_not_mem_encodeIds ids
  have hids : (startUp readInt s (encodeIds ids)).ids = ids := by
    rw [startUp_ids readInt hs hz, tokenIds_encodeIds hback, eraseDups_of_nodup hnd]
  refine ⟨hids, ?_⟩
  rcases startUp_file readInt hs hz with ⟨f, hf, hcont⟩ | ⟨-, hsame⟩
  · rw [hf, Option.map_some, hcont, hids]
  · rw [hsame]
    rfl

/-- With a file that always opens, every accepted call writes. -/
theorem along_ackWrites (ops : List RegistryOp) :
    ∀ {r : Registry} {f : NodeFile}, r.nodeFile = some f →
      (∀ op ∈ ops, op.host.opens = true) → Along registryStep AckWrites r ops := by
  induction ops with
  | nil =>
      intro r f _ _
      trivial
  | cons op ops ih =>
      intro r f hf hopen
      have hwrites : op.Writes r := ⟨f, hf, Or.inl (hopen op List.mem_cons_self)⟩
      refine ⟨fun _ => hwrites, fun r' hr' => ?_⟩
      obtain rfl : (op.exec r).2 = r' := Option.some.inj hr'
      have hopen' : ∀ op' ∈ ops, op'.host.opens = true :=
        fun op' hm => hopen op' (List.mem_cons_of_mem op hm)
      rcases exec_spec op r with hrefused | ⟨hret, -⟩
      · rw [hrefused]
        exact ih hf hopen'
      · obtain ⟨f', hf', -⟩ := (exec_saved_iff hret).mpr hwrites
        exact ih hf' hopen'

/-- **THE ROUND TRIP THROUGH THE NODE FILE**, for any `atoi` that reads back what
`%d` prints.  The registry of a run with at least one accepted call comes back
from its file, in order, and the file stays as it is.  From an arbitrary text
start-up loads the first occurrences of the values of its tokens, and a second
start from the file that this leaves loads the same records again. -/
theorem restart_round_trip (readInt : List UInt8 → Int32) (hback : ReadsPrinted readInt)
    (s : SetupHost) (hs : s.Ok) :
    (∀ (file : NodeFile) (ops : List RegistryOp), (∀ op ∈ ops, op.host.opens = true) →
        0 ∈ answers (Registry.empty (some file)) ops →
        ∃ f, (runOps (Registry.empty (some file)) ops).nodeFile = some f
          ∧ (startUp readInt s f.contents).ids = (runOps (Registry.empty (some file)) ops).ids
          ∧ (startUp readInt s f.contents).nodeFile.map NodeFile.contents = some f.contents)
      ∧ ∀ text : List UInt8, (0 : UInt8) ∉ text →
          (startUp readInt s text).ids = (tokenIds readInt text).eraseDups
            ∧ ∃ f, (startUp readInt s text).nodeFile = some f
              ∧ ∀ s' : SetupHost, s'.Ok →
                (startUp readInt s' f.contents).ids = (startUp readInt s text).ids
                  ∧ (startUp readInt s' f.contents).newLoRa.map LoRaNode.known
                    = (startUp readInt s text).newLoRa.map LoRaNode.known := by
  constructor
  · intro file ops hopen hack
    obtain ⟨f, hf, hcont⟩ :=
      runOps_saved ops (along_ackWrites ops rfl hopen) (Or.inr hack)
    refine ⟨f, hf, ?_⟩
    rw [hcont]
    exact startUp_saved hback hs (runOps_nodup (some file) ops)
  · intro text hz
    have hids := startUp_ids readInt hs hz
    have hnew := startUp_allNew readInt hs hz
    refine ⟨hids, ?_⟩
    rcases startUp_file readInt hs hz with ⟨f, hf, hcont⟩ | ⟨hnone, hsame⟩
    -- the file holds the registry that was loaded
    · refine ⟨f, hf, fun s' hs' => ?_⟩
      have hnd : (startUp readInt s text).ids.Nodup := by
        rw [startUp_eq readInt hs hz]
        exact addAll_nodup s.call _ _ _ List.nodup_nil
      have hagain := (startUp_saved hback hs' hnd).1
      rw [hcont]
      refine ⟨hagain, ?_⟩
      have hnew' := startUp_allNew readInt hs' (zero_not_mem_encodeIds (startUp readInt s text).ids)
      unfold AllNew at hnew hnew'
      rw [hnew', hagain, hnew]
    -- no token, and the text is still there
    · refine ⟨⟨text, []⟩, by rw [hsame]; rfl, fun s' hs' => ?_⟩
      show (startUp readInt s' text).ids = _ ∧ (startUp readInt s' text).newLoRa.map _ = _
      have hids' := startUp_ids readInt hs' hz
      refine ⟨by rw [hids', hids], ?_⟩
      have hnew' := startUp_allNew readInt hs' hz
      unfold AllNew at hnew hnew'
      rw [hnew', hids', hnew, hids]

/-- Two ids of a run come back; `"7 x 7"` holds the ids 7 and 0. -/
theorem restart_round_trip_sample :
    (startUp atoi quietHost (encodeIds [0xFFFFFFFF, 7])).ids = [0xFFFFFFFF, 7]
      ∧ (startUp atoi quietHost [55, 32, 120, 32, 32, 55]).ids = [7, 0] := by
  obtain ⟨hrun, htext⟩ := restart_round_trip atoi readsPrinted_atoi quietHost quietHost_ok
  have hops : ∀ op ∈ [RegistryOp.add ⟨LoRaNode.zero, true⟩ 0xFFFFFFFF,
      .add ⟨LoRaNode.zero, true⟩ 7], op.host.opens = true := by decide
  obtain ⟨f, hf, hids, -⟩ := hrun ⟨[], []⟩ _ hops (by decide)
  constructor
  · have hcont : f.contents = encodeIds [0xFFFFFFFF, 7] := by
      rw [← Option.some.inj hf]
      decide
    rw [hcont] at hids
    rw [hids]
    decide
  · rw [(htext [55, 32, 120, 32, 32, 55] (by decide)).1]
    decide

end LoRaGateway
