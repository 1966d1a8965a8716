/-
  LoRaGateway.MainLoop.Cloud
  ──────────────────────────
  **THE DATABASE FOLLOWS THE REGISTRY.**

  From the start of the process on, whatever the node file held, every `add_device` and
  every `remove_device` that succeeds is told to the database, and nothing else is: a
  response changes the record and not the child.

    • `mainStep_cloud` — only the two commands send requests,
    • `cloud_follows_registry` — in every run, and whichever requests the database serves:
      the child of an id whose last request was served is there, with the values of a new
      node, exactly when the id is registered.
-/
import LoRaGateway.MainLoop.History
import LoRaGateway.Registry.Firebase

namespace LoRaGateway

open LoRaGateway.Lib

/-! ## §1. Runs. -/

section Runs

variable {libc : Libc} {s s' : Gateway}

/-- **Only `add_device` and `remove_device` send requests.** -/
theorem mainStep_cloud {io : Io} (hadd : s.pc ≠ .addDev) (hremove : s.pc ≠ .removeDev)
    (h : s.mainStep libc io = some s') : s'.reg.cloud = s.reg.cloud := by
  cases hpc : s.pc with
  | addDev => exact absurd hpc hadd
  | removeDev => exact absurd hpc hremove
  | rxHandle buff =>
      simp only [Gateway.mainStep, hpc] at h
      rcases Gateway.handlerRxData_spec h with rfl | rfl | ⟨uid, k, node, text, screen, -, rfl⟩
      · rfl
      · rfl
      · rfl
  | modeLoop kind tmp =>
      simp only [Gateway.mainStep, hpc] at h
      rcases Gateway.modeStep_spec h with rfl | rfl | ⟨node, dev, -, -, rfl⟩
      · rfl
      · rfl
      · rfl
  | _ =>
      rw [(Gateway.mainStep_records (by rw [hpc]; exact id) h).1]

theorem step_cloudTold {a : Action} (ht : CloudTold s.reg) (h : step libc s a = some s') :
    CloudTold s'.reg := by
  cases a with
  | main io =>
      have h : s.mainStep libc io = some s' := h
      by_cases hadd : s.pc = .addDev
      · simp only [Gateway.mainStep, hadd] at h
        rw [← Option.some.inj h]
        exact ht.add io.host s.share.idToHandler
      by_cases hremove : s.pc = .removeDev
      · simp only [Gateway.mainStep, hremove] at h
        rw [← Option.some.inj h]
        exact ht.remove io.host s.share.idToHandler
      · have hcloud := mainStep_cloud hadd hremove h
        have hids := (Gateway.mainStep_frame h).ids hadd hremove
        exact ⟨hids.symm ▸ ht.nodup, hcloud.symm ▸ ht.brings, fun id => by
          rw [hcloud, hids]
          exact ht.told id⟩
  | packet p =>
      obtain ⟨dev, signalled, -, rfl⟩ := Gateway.packetStep_spec h
      exact ht
  | childWrite request ack id userSet =>
      rw [← Option.some.inj h]
      exact ht
  | usr2 =>
      rw [← Option.some.inj h]
      exact ht

end Runs

/-! ## §2. The database. -/

/-- **THE DATABASE FOLLOWS THE REGISTRY**, in every run of a process, and for any
requests that the database serves and others that it does not.  Each request fits the
arrays that it is printed to.  A child whose requests all failed is as it was; every
registered id has been asked for; and a child whose last request was served is there,
as that of a new node, exactly when its id is registered. -/
theorem cloud_follows_registry (db : Database) {libc : Libc} {printF2 : UInt32 → List UInt8}
    (hzero : printF2 0 = ascii "0.00") {host : SetupHost} {file : Option NodeFile}
    {s₀ s : Gateway} (hstart : s₀.reg = (setupNode host (Registry.empty file)).2)
    (h : Reach (step libc) Any s₀ s) {sent : List (CloudOp × Bool)}
    (hsent : sent.map Prod.fst = s.reg.cloud) (d₀ : db.State) :
    ∃ d, db.serveAll printF2 sent d₀ = some d ∧ ∀ id,
      ((∀ x ∈ sent, x.1.node.id = id → x.2 = false) →
          db.child d (unsigned id) = db.child d₀ (unsigned id))
        ∧ (id ∈ s.reg.ids → ∃ x ∈ sent, x.1 = .patch x.1.node ∧ x.1.node.id = id)
        ∧ (latest (wasServed id) sent = some true →
          db.shown d (unsigned id) = if id ∈ s.reg.ids then some db.newNode else none) := by
  have htold₀ : CloudTold s₀.reg := by
    rw [hstart]
    exact (cloudTold_empty file).setup host
  have htold : CloudTold s.reg :=
    Reach.invariant (P := fun s => CloudTold s.reg) htold₀
      (fun _ _ _ ht _ hs => step_cloudTold ht hs) h
  have hbrings : ∀ x ∈ sent, x.1.BringsNew :=
    fun x hx => htold.brings x.1 (hsent ▸ List.mem_map_of_mem hx)
  refine ⟨_, serveAll_eq hzero hbrings d₀, fun id => ⟨fun hfailed => child_replay d₀ hfailed,
    fun hid => ?_, fun hlast => ?_⟩⟩
  · have hkept := (htold.told id).mpr hid
    rw [← hsent, latest_map] at hkept
    obtain ⟨⟨op, done⟩, hx, hop⟩ := exists_of_latest hkept
    refine ⟨_, hx, ?_⟩
    cases op with
    | patch node => exact ⟨rfl, (Option.ite_none_right_eq_some.mp hop).1⟩
    | delete node => exact absurd (Option.ite_none_right_eq_some.mp hop).2 (by simp)
  · obtain ⟨kept, hkept⟩ := exists_keeps hlast
    rw [shown_last d₀ hlast hkept]
    rw [hsent] at hkept
    have hiff := htold.told id
    rw [hkept, Option.some_inj] at hiff
    by_cases hid : id ∈ s.reg.ids
    · rw [if_pos hid, hiff.mpr hid]
      rfl
    · cases kept with
      | true => exact absurd (hiff.mp rfl) hid
      | false => rw [if_neg hid]; rfl

/-! ## §3. A database. -/

/-- The members of an object, from the quote of the first one on. -/
def readMembers : Nat → List UInt8 → List (List UInt8 × List UInt8)
  | 0, _ => []
  | fuel + 1, text =>
      let name := (text.drop 1).takeWhile (fun b => b ≠ 34)
      let behind := text.drop (name.length + 4)
      let value := behind.takeWhile (fun b => isDigit b || b = 46)
      (name, value) ::
        match behind.drop value.length with
        | 44 :: _ :: more => readMembers fuel more
        | _ => []

/-- The members of a JSON object. -/
def readObject (text : List UInt8) : List (List UInt8 × List UInt8) :=
  readMembers text.length (text.drop 1)

section Json

theorem quote_not_mem {name : List UInt8} (h : MemberName name) : (34 : UInt8) ∉ name :=
  fun hq => absurd (h.2 34 hq) (by decide)

theorem digits_of_jsonNumber {value : List UInt8} (h : JsonNumber value) :
    ∀ b ∈ value, (isDigit b || decide (b = 46)) = true := by
  cases h with
  | whole n => exact fun b hb => by simp [isDigit_of_mem_decimalNat n b hb]
  | point n hne hdigits =>
      intro b hb
      rcases List.mem_append.mp hb with hb | hb
      · simp [isDigit_of_mem_decimalNat n b hb]
      · rcases List.mem_cons.mp hb with rfl | hb
        · rfl
        · simp [hdigits b hb]

/-- One member, and what is behind it. -/
theorem readMembers_cons (fuel : Nat) {m : List UInt8 × List UInt8} {t : List UInt8}
    (hname : MemberName m.1) (hvalue : JsonNumber m.2)
    (htail : t.takeWhile (fun b => isDigit b || b = 46) = []) :
    ∃ rest, readMembers (fuel + 1) (memberText m ++ t) = m :: rest
      ∧ (t = [125] → rest = [])
      ∧ ∀ more, t = 44 :: 32 :: more → rest = readMembers fuel more := by
  obtain ⟨name, value⟩ := m
  have htext : memberText (name, value) ++ t
      = 34 :: (name ++ (34 :: 58 :: 32 :: (value ++ t))) := by
    simp [memberText]
  have hplain : ∀ b ∈ name, decide (b ≠ 34) = true := by
    intro b hb
    exact decide_eq_true (fun h => quote_not_mem hname (h ▸ hb))
  have hread : (name ++ (34 :: 58 :: 32 :: (value ++ t))).takeWhile (fun b => b ≠ 34) = name := by
    rw [List.takeWhile_append_of_pos hplain, List.takeWhile_cons_of_neg (by simp),
      List.append_nil]
  have hbehind : (34 :: (name ++ (34 :: 58 :: 32 :: (value ++ t)))).drop (name.length + 4)
      = value ++ t := by
    rw [show name.length + 4 = (name.length + 3) + 1 from rfl, List.drop_succ_cons,
      ← List.drop_drop, List.drop_left]
    rfl
  have hdigits : (value ++ t).takeWhile (fun b => isDigit b || b = 46) = value := by
    rw [List.takeWhile_append_of_pos (digits_of_jsonNumber hvalue), htail, List.append_nil]
  rw [htext, readMembers.eq_2]
  simp only [List.drop_one, List.tail_cons, hread, hbehind, hdigits, List.drop_left]
  refine ⟨_, rfl, fun h => ?_, fun more h => ?_⟩
  · rw [h]
    rfl
  · rw [h]
    rfl

/-- The members behind the first one. -/
def moreText (ms : List (List UInt8 × List UInt8)) : List UInt8 :=
  ms.flatMap (fun m => [44, 32] ++ memberText m)

theorem length_le_moreText (ms : List (List UInt8 × List UInt8)) :
    ms.length ≤ (moreText ms).length := by
  unfold moreText
  induction ms with
  | nil => exact Nat.le_refl _
  | cons m ms ih =>
      rw [List.flatMap_cons, List.length_append, List.length_cons, List.length_append]
      simp only [List.length_cons]
      omega

theorem readMembers_all (ms : List (List UInt8 × List UInt8)) :
    ∀ {m : List UInt8 × List UInt8} {fuel : Nat}, ms.length < fuel →
      (∀ x ∈ m :: ms, MemberName x.1 ∧ JsonNumber x.2) →
      readMembers fuel (memberText m ++ (moreText ms ++ [125])) = m :: ms := by
  induction ms with
  | nil =>
      intro m fuel hfuel hgood
      obtain ⟨k, rfl⟩ : ∃ k, fuel = k + 1 := ⟨fuel - 1, by omega⟩
      obtain ⟨hname, hvalue⟩ := hgood m List.mem_cons_self
      obtain ⟨rest, heq, hend, -⟩ := readMembers_cons k (t := [125]) hname hvalue rfl
      rw [show moreText [] ++ [125] = [125] from rfl, heq, hend rfl]
  | cons x ms ih =>
      intro m fuel hfuel hgood
      rw [List.length_cons] at hfuel
      obtain ⟨k, rfl⟩ : ∃ k, fuel = k + 1 := ⟨fuel - 1, by omega⟩
      obtain ⟨hname, hvalue⟩ := hgood m List.mem_cons_self
      have hmore : moreText (x :: ms) ++ [125]
          = 44 :: 32 :: (memberText x ++ (moreText ms ++ [125])) := by
        unfold moreText
        rw [List.flatMap_cons, List.append_assoc, List.append_assoc]
        rfl
      obtain ⟨rest, heq, -, hrest⟩ := readMembers_cons k
        (t := 44 :: 32 :: (memberText x ++ (moreText ms ++ [125]))) hname hvalue rfl
      rw [hmore, heq, hrest _ rfl,
        ih (by omega) (fun y hy => hgood y (List.mem_cons_of_mem _ hy))]

/-- **What is written is read back.** -/
theorem readObject_objectText {members : List (List UInt8 × List UInt8)} (hne : members ≠ [])
    (hgood : ∀ m ∈ members, MemberName m.1 ∧ JsonNumber m.2) :
    readObject (objectText members) = members := by
  cases members with
  | nil => exact absurd rfl hne
  | cons m ms =>
      have htext : objectText (m :: ms) = 123 :: (memberText m ++ (moreText ms ++ [125])) :=
        congrArg (List.cons 123) (List.append_assoc _ _ _)
      have hlength := length_le_moreText ms
      unfold readObject
      rw [htext]
      refine readMembers_all ms ?_ hgood
      simp only [List.length_cons, List.length_append]
      omega

end Json

theorem childUrl_inj {key key' : List UInt8} (h : childUrl key = childUrl key') : key = key' := by
  unfold childUrl at h
  rw [List.append_left_inj, List.append_left_inj, List.append_right_inj] at h
  exact h

/-- A database that keeps the values as texts, by the URL of the child. -/
def sampleDatabase : Database where
  State := List UInt8 → Option (List UInt8 → Option (List UInt8))
  Value := List UInt8
  number := id
  child := fun s key => s (childUrl key)
  serve := fun s request url =>
    if url = request.url then
      match request.method with
      | .delete => none
      | .patch => some fun name =>
          match (readObject request.data).lookup name with
          | some value => some value
          | none => (s url).bind (fun members => members name)
    else s url
  patched := by
    intro s key members _ hne hgood
    simp only [if_true, readObject_objectText hne hgood]
    rfl
  deleted := fun s key _ => if_pos rfl
  others := fun s method data key key' _ _ hne => if_neg (fun h => hne (childUrl_inj h))

/-- The parent after `setup_node` has loaded the ids 7 and 9. -/
def loadedGateway : Gateway :=
  { startWith [] with
    reg := (setupNode quietHost (Registry.empty (some ⟨oneNode 7 ++ oneNode 9, []⟩))).2 }

/-- `"%.2f"` of the values that are sent. -/
def sampleF2 : UInt32 → List UInt8 := fun _ => ascii "0.00"

/-- The client has node 7 removed. -/
def removeSeven : List Action :=
  [.childWrite Code.removeDevice 0 7 TimeSet.zero, .usr2] ++ mains 6

/-- The requests of both nodes and of the removal, each served. -/
theorem cloud_follows_registry_removed : ∃ s, Reach (step sampleLibc) Any loadedGateway s
    ∧ s.reg.ids = [9] ∧ ∃ d,
      sampleDatabase.serveAll sampleF2 (s.reg.cloud.map (fun op => (op, true))) (fun _ => none)
          = some d
        ∧ sampleDatabase.shown d (unsigned 7) = none
        ∧ sampleDatabase.shown d (unsigned 9) = some sampleDatabase.newNode := by
  have hrun : (run (step sampleLibc) loadedGateway removeSeven).map
      (fun s => (s.reg.ids, s.reg.cloud))
      = some ([9], [.patch (loRaInit LoRaNode.zero 7), .patch (loRaInit LoRaNode.zero 9),
        .delete (loRaInit LoRaNode.zero 7)]) := by
    decide +kernel
  obtain ⟨s, hs, hfields⟩ := Option.map_eq_some_iff.mp hrun
  obtain ⟨hids, hcloud⟩ := Prod.mk.inj hfields
  have hreach := reach_any_of_run _ hs
  have hzero : sampleF2 0 = ascii "0.00" := rfl
  have hstart : loadedGateway.reg
      = (setupNode quietHost (Registry.empty (some ⟨oneNode 7 ++ oneNode 9, []⟩))).2 := rfl
  have hsent : (s.reg.cloud.map (fun op => (op, true))).map Prod.fst = s.reg.cloud := by
    rw [List.map_map]
    exact List.map_id _
  obtain ⟨d, hd, hchild⟩ :=
    cloud_follows_registry sampleDatabase hzero hstart hreach hsent (fun _ => none)
  refine ⟨s, hreach, hids, d, hd, ?_, ?_⟩
  · have h7 := (hchild 7).2.2
    rw [hids, hcloud] at h7
    exact h7 (by decide)
  · have h9 := (hchild 9).2.2
    rw [hids, hcloud] at h9
    exact h9 (by decide)

end LoRaGateway
