/-
  LoRaGateway.MainLoop.View
  ─────────────────────────
  **THE CLIENT'S VIEW OF THE REGISTRY.**

  A client that starts from nothing, adds the id of every `"0 id"` and drops the
  id of every `"4 id"` has the registry in front of it: first from the node list
  that GOT_SOCK makes the parent post, then from the replies to its commands.

    • `interpret` — what a text does to the set of ids,
    • `Mirror` — what the client will have made of the text that is being posted,
      for each place of the parent,
    • `view_mirrors_registry` — whenever no request is being handled, it is the
      set of the registered ids.
-/
import LoRaGateway.MainLoop.PollIndex
import LoRaGateway.Registry.Refinement
import Mathlib.Data.Finset.Basic
import Mathlib.Data.Finset.Dedup

namespace LoRaGateway

open LoRaGateway.Lib

/-! ## §1. The client. -/

/-- `"0 id"` inserts the id, `"4 id"` deletes it; ids are read with `atoi`. -/
def interpret (view : Finset UInt32) (text : List UInt8) : Finset UInt32 :=
  match tokens 32 text with
  | [code, id] =>
      if code = decimal Code.addDevice.toNat then insert (atoi id).toUInt32 view
      else if code = decimal Code.removeDevice.toNat then view.erase (atoi id).toUInt32
      else view
  | _ => view

/-- The set of ids after these texts. -/
def viewOf (told : List (List UInt8)) : Finset UInt32 := told.foldl interpret ∅

theorem viewOf_append (told : List (List UInt8)) (text : List UInt8) :
    viewOf (told ++ [text]) = interpret (viewOf told) text := by
  unfold viewOf
  rw [List.foldl_append]
  rfl

section Interpret

variable (view : Finset UInt32) (id : UInt32)

theorem interpret_add : interpret view (codeText Code.addDevice id) = insert id view := by
  unfold interpret
  rw [tokens_codeText]
  simp only [if_true]
  rw [atoi_printId]

theorem interpret_remove : interpret view (codeText Code.removeDevice id) = view.erase id := by
  unfold interpret
  rw [tokens_codeText]
  simp only
  rw [if_neg (by decide), if_pos trivial, atoi_printId]

/-- Any other first token leaves the view as it is. -/
theorem interpret_tagged {text code : List UInt8} {more : List (List UInt8)}
    (htok : tokens 32 text = code :: more) (hadd : code ≠ decimal Code.addDevice.toNat)
    (hremove : code ≠ decimal Code.removeDevice.toNat) : interpret view text = view := by
  unfold interpret
  rw [htok]
  split
  next c i heq =>
      obtain rfl : code = c := (List.cons.inj heq).1
      rw [if_neg hadd, if_neg hremove]
  next => rfl

theorem interpret_failed : interpret view Gateway.failedText = view :=
  interpret_tagged view (tokens_single (by decide) (by decide)) (by decide) (by decide)

end Interpret

/-! ## §2. The watched machine. -/

/-- The parent, and the texts posted since GOT_SOCK. -/
structure Mirrored where
  gw : Gateway
  told : List (List UInt8)

/-- The texts that a step of the parent posts. -/
def Gateway.postedText (s : Gateway) : Action → List (List UInt8)
  | .main _ =>
      match s.pc with
      | .post _ .signal => [s.share.dataToSend]
      | _ => []
  | _ => []

/-- A step, with the texts that the client has been told. -/
def mirrorStep (libc : Libc) (w : Mirrored) (a : Action) : Option Mirrored :=
  (step libc w.gw a).map (fun s => ⟨s, w.told ++ w.gw.postedText a⟩)

/-- An ADD_DEVICE or a REMOVE_DEVICE is being handled. -/
def Serving : Pc → Prop
  | .addDev | .removeDev => True
  | .post p _ => Gateway.IsReply p
  | _ => False

/-- Request and id are stable while a command is handled. -/
def Stable (w : Mirrored) : Action → Prop
  | .childWrite request _ id _ => Serving w.gw.pc →
      request = w.gw.share.request ∧ id = w.gw.share.idToHandler
  | _ => True

/-! ## §3. What the client will have. -/

/-- The first `k` ids have been listed, and nothing that is not registered. -/
def Listed (r : Registry) (k : Nat) (view : Finset UInt32) : Prop :=
  (r.ids.take k).toFinset ⊆ view ∧ view ⊆ r.ids.toFinset

/-- The view once the text of this place is posted. -/
def AfterText (r : Registry) (view : Finset UInt32) : Post → Prop
  | .nodeList k => Listed r (k + 1) view
  | _ => view = r.ids.toFinset

/-- The view at each place of the parent. -/
def Mirror (libc : Libc) (s : Gateway) (view : Finset UInt32) : Prop :=
  match s.pc with
  | .scanList k => Listed s.reg k view
  | .post p .wait => AfterText s.reg view p
  | .post p .signal => AfterText s.reg (interpret view s.share.dataToSend) p
  -- `scan_node_list` clears `ack` first and fills `data_to_send` then
  | .post (.nodeList k) _ =>
      ∀ text, s.text libc (.nodeList k) = some text →
        AfterText s.reg (interpret view text) (.nodeList k)
  | .post p .clearAck => AfterText s.reg (interpret view s.share.dataToSend) p
  | .post p .fill => ∀ text, s.text libc p = some text → AfterText s.reg (interpret view text) p
  | _ => view = s.reg.ids.toFinset

section Mirror

variable {libc : Libc} {s s' : Gateway} {view : Finset UInt32}

/-- Only the node list and the replies speak of registered ids. -/
theorem interpret_text {p : Post} {text : List UInt8} (h : s.text libc p = some text)
    (hlist : ∀ k, p ≠ .nodeList k) (hadded : p ≠ .added) (hremoved : p ≠ .removed) :
    interpret view text = view := by
  cases p with
  | added => exact absurd rfl hadded
  | removed => exact absurd rfl hremoved
  | nodeList k => exact absurd rfl (hlist k)
  | addFailed =>
      rw [← Option.some.inj h]
      exact interpret_failed view
  | removeFailed =>
      rw [← Option.some.inj h]
      exact interpret_failed view
  | nodeData k =>
      obtain ⟨node, -, rfl⟩ := Option.map_eq_some_iff.mp h
      exact interpret_tagged view
        (tokens_append (decimal_ne_nil _) (space_not_mem_decimal _)) (by decide) (by decide)
  | dataAvailable uid data =>
      rw [← Option.some.inj h]
      have htok : tokens 32 (codeText Code.dataAvailable uid ++ 32 :: data)
          = decimal Code.dataAvailable.toNat :: tokens 32 (printId uid ++ 32 :: data) := by
        unfold codeText
        rw [List.append_assoc]
        exact tokens_append (decimal_ne_nil _) (space_not_mem_decimal _)
      exact interpret_tagged view htok (by decide) (by decide)
  | disconnected =>
      rw [← Option.some.inj h]
      exact interpret_tagged view (tokens_codeText _ _) (by decide) (by decide)

/-- No text is being posted, and no node list is being sent. -/
def Between : Pc → Prop
  | .scanList _ | .post _ _ => False
  | _ => True

theorem mirror_of_between (hpc : Between s.pc) :
    Mirror libc s view ↔ view = s.reg.ids.toFinset := by
  unfold Mirror
  cases h : s.pc with
  | scanList k =>
      rw [h] at hpc
      exact False.elim hpc
  | post p stage =>
      rw [h] at hpc
      exact False.elim hpc
  | _ => exact Iff.rfl

/-- A place that posts begins with its text not written yet. -/
theorem mirror_of_fill {p : Post} (hpc : s.pc = .post p .fill)
    (h : ∀ text, s.text libc p = some text → AfterText s.reg (interpret view text) p) :
    Mirror libc s view := by
  unfold Mirror
  rw [hpc]
  cases p <;> exact h

/-! ## §4. One step of the parent. -/

/-- Outside the node list and the two commands the parent goes on to such a place,
or begins a node list, or begins a text that changes nothing. -/
theorem next_of_between {pc pc' : Pc} (h : Gateway.Next pc pc') (hl : Between pc)
    (hadd : pc ≠ .addDev) (hremove : pc ≠ .removeDev) :
    Between pc' ∨ pc' = .scanList 0
      ∨ ∃ p, pc' = .post p .fill ∧ (∀ k, p ≠ .nodeList k) ∧ p ≠ .added ∧ p ≠ .removed := by
  cases h with
  | connect => exact Or.inr (Or.inl rfl)
  | report buff uid data => exact Or.inr (Or.inr ⟨_, rfl, by simp, by simp, by simp⟩)
  | disconnected => exact Or.inr (Or.inr ⟨_, rfl, by simp, by simp, by simp⟩)
  | nodeData k => exact Or.inr (Or.inr ⟨_, rfl, by simp, by simp, by simp⟩)
  | addFailed => exact absurd rfl hadd
  | added => exact absurd rfl hadd
  | removeFailed => exact absurd rfl hremove
  | removed => exact absurd rfl hremove
  | _ => first | exact Or.inl trivial | exact False.elim hl

/-- A registry that is in view is listed up to any place. -/
theorem listed_all (r : Registry) (k : Nat) : Listed r k r.ids.toFinset := by
  refine ⟨fun id hid => ?_, Finset.Subset.refl _⟩
  rw [List.mem_toFinset] at hid ⊢
  exact List.mem_of_mem_take hid

theorem between_step {io : Io} (hl : Between s.pc) (hadd : s.pc ≠ .addDev)
    (hremove : s.pc ≠ .removeDev) (hview : view = s.reg.ids.toFinset)
    (h : s.mainStep libc io = some s') : Mirror libc s' view := by
  have hframe := Gateway.mainStep_frame h
  have hids := hframe.ids hadd hremove
  rcases next_of_between hframe.next hl hadd hremove with hl' | hpc' | ⟨p, hpc', h1, h2, h3⟩
  · rw [mirror_of_between hl', hids]
    exact hview
  · unfold Mirror
    rw [hpc', hview, ← hids]
    exact listed_all s'.reg 0
  · refine mirror_of_fill hpc' (fun text htext => ?_)
    rw [interpret_text htext h1 h2 h3]
    cases p with
    | nodeList k => exact absurd rfl (h1 k)
    | _ =>
        show view = s'.reg.ids.toFinset
        rw [hids]
        exact hview

theorem scanList_step {io : Io} {k : Nat} (hpc : s.pc = .scanList k) (hview : Listed s.reg k view)
    (h : s.mainStep libc io = some s') : Mirror libc s' view := by
  obtain ⟨htaken, hsub⟩ := hview
  simp only [Gateway.mainStep, hpc, Gateway.scanListStep] at h
  rw [← Option.some.inj h]
  split
  next hk =>
      -- the next id of the list comes to the view
      intro text htext
      obtain ⟨node, hnode, rfl⟩ := Option.map_eq_some_iff.mp htext
      have hid : s.reg.ids[k]? = some node.id := by
        unfold Registry.ids
        rw [List.getElem?_map]
        exact congrArg (Option.map LoRaNode.id) hnode
      rw [interpret_add]
      constructor
      · intro id hmem
        rw [List.mem_toFinset, List.take_add_one, hid, List.mem_append] at hmem
        rw [Finset.mem_insert]
        rcases hmem with hold | hnew
        · exact Or.inr (htaken (List.mem_toFinset.mpr hold))
        · exact Or.inl (by simpa using hnew)
      · intro id hmem
        rcases Finset.mem_insert.mp hmem with rfl | hold
        · exact List.mem_toFinset.mpr (List.mem_of_getElem? hid)
        · exact hsub hold
  next hk =>
      have hall : s.reg.ids.take k = s.reg.ids := by
        apply List.take_of_length_le
        unfold Registry.ids
        rw [List.length_map]
        exact Nat.not_lt.mp hk
      show view = s.reg.ids.toFinset
      rw [hall] at htaken
      exact Finset.Subset.antisymm hsub htaken

theorem add_step {io : Io} (hpc : s.pc = .addDev) (hview : view = s.reg.ids.toFinset)
    (h : s.mainStep libc io = some s') : Mirror libc s' view := by
  simp only [Gateway.mainStep, hpc, Gateway.addStep] at h
  have hids := addDevice_ids io.host s.share.idToHandler s.reg
  rw [addDevice_ret] at h
  by_cases hid : s.share.idToHandler ∈ s.reg.ids
  · rw [if_pos hid] at h hids
    rw [if_pos (by decide)] at h
    rw [← Option.some.inj h]
    refine mirror_of_fill rfl (fun text htext => ?_)
    rw [interpret_text htext (by simp) (by simp) (by simp)]
    show view = (addDevice _ _ _).2.ids.toFinset
    rw [hids]
    exact hview
  · rw [if_neg hid] at h hids
    rw [if_neg (by decide)] at h
    rw [← Option.some.inj h]
    refine mirror_of_fill rfl (fun text htext => ?_)
    rw [← Option.some.inj htext]
    show interpret view (codeText Code.addDevice s.share.idToHandler)
      = (addDevice _ _ _).2.ids.toFinset
    rw [interpret_add, hids, hview]
    ext id
    rw [Finset.mem_insert, List.mem_toFinset, List.mem_toFinset, List.mem_append,
      List.mem_singleton, or_comm]

theorem remove_step {io : Io} (hpc : s.pc = .removeDev) (hnd : s.reg.ids.Nodup)
    (hview : view = s.reg.ids.toFinset) (h : s.mainStep libc io = some s') :
    Mirror libc s' view := by
  simp only [Gateway.mainStep, hpc, Gateway.removeStep] at h
  have hids := removeDevice_ids io.host s.share.idToHandler s.reg
  rw [removeDevice_ret] at h
  by_cases hid : s.share.idToHandler ∈ s.reg.ids
  · rw [if_pos hid] at h
    rw [if_neg (by decide)] at h
    rw [← Option.some.inj h]
    refine mirror_of_fill rfl (fun text htext => ?_)
    rw [← Option.some.inj htext]
    show interpret view (codeText Code.removeDevice s.share.idToHandler)
      = (removeDevice _ _ _).2.ids.toFinset
    rw [interpret_remove, hids, hview]
    ext id
    rw [Finset.mem_erase, List.mem_toFinset, List.mem_toFinset, hnd.mem_erase_iff]
  · rw [if_neg hid] at h
    rw [if_pos (by decide)] at h
    rw [List.erase_of_not_mem hid] at hids
    rw [← Option.some.inj h]
    refine mirror_of_fill rfl (fun text htext => ?_)
    rw [interpret_text htext (by simp) (by simp) (by simp)]
    show view = (removeDevice _ _ _).2.ids.toFinset
    rw [hids]
    exact hview

/-- The stages of a post before SIGUSR2, and the end of the wait. -/
theorem post_step {io : Io} {p : Post} {stage : Stage} (hpc : s.pc = .post p stage)
    (hne : stage ≠ .signal) (hview : Mirror libc s view) (h : s.mainStep libc io = some s') :
    Mirror libc s' view := by
  unfold Mirror at hview
  simp only [Gateway.mainStep, hpc, Gateway.postStep] at h hview
  cases stage with
  | fill =>
      obtain ⟨text, htext, h⟩ := Option.bind_eq_some_iff.mp h
      rw [← Option.some.inj h]
      cases p <;> exact hview text htext
  | clearAck =>
      rw [← Option.some.inj h]
      cases p <;> exact hview
  | signal => exact absurd rfl hne
  | wait =>
      simp only at h
      split at h
      next =>
          rw [← Option.some.inj h]
          unfold Mirror
          rw [hpc]
          exact hview
      next =>
          rw [← Option.some.inj h]
          cases p <;> exact hview

/-- SIGUSR2 takes the text to the client. -/
theorem told_step {io : Io} {p : Post} (hpc : s.pc = .post p .signal)
    (hview : Mirror libc s view) (h : s.mainStep libc io = some s') :
    Mirror libc s' (interpret view s.share.dataToSend) := by
  unfold Mirror at hview
  simp only [Gateway.mainStep, hpc, Gateway.postStep] at h hview
  rw [← Option.some.inj h]
  exact hview

end Mirror

/-! ## §5. Runs. -/

/-- The ids are distinct, and the view is what it should be at this place. -/
structure InView (libc : Libc) (w : Mirrored) : Prop where
  nodup : w.gw.reg.ids.Nodup
  mirror : Mirror libc w.gw (viewOf w.told)

section Runs

variable {libc : Libc} {w w' : Mirrored}

/-- Only SIGUSR2 posts a text. -/
theorem postedText_eq_nil {s : Gateway} (io : Io) (h : ∀ p, s.pc ≠ .post p .signal) :
    s.postedText (.main io) = [] := by
  unfold Gateway.postedText
  cases hpc : s.pc with
  | post p stage =>
      cases stage with
      | signal => exact absurd hpc (h p)
      | _ => rfl
  | _ => rfl

theorem main_inView {io : Io} {s' : Gateway} (hinv : InView libc w)
    (h : w.gw.mainStep libc io = some s') :
    InView libc ⟨s', w.told ++ w.gw.postedText (.main io)⟩ := by
  obtain ⟨hnd, hview⟩ := hinv
  refine ⟨Gateway.mainStep_nodup hnd h, ?_⟩
  show Mirror libc s' (viewOf (w.told ++ w.gw.postedText (.main io)))
  by_cases hsignal : ∃ p, w.gw.pc = .post p .signal
  · obtain ⟨p, hpc⟩ := hsignal
    have hposted : w.gw.postedText (.main io) = [w.gw.share.dataToSend] := by
      simp only [Gateway.postedText, hpc]
    rw [hposted, viewOf_append]
    exact told_step hpc hview h
  · rw [postedText_eq_nil io (fun p hpc => hsignal ⟨p, hpc⟩), List.append_nil]
    cases hpc : w.gw.pc with
    | post p stage => exact post_step hpc (fun hs => hsignal ⟨p, by rw [hpc, hs]⟩) hview h
    | scanList k =>
        unfold Mirror at hview
        rw [hpc] at hview
        exact scanList_step hpc hview h
    | addDev => exact add_step hpc ((mirror_of_between (by rw [hpc]; trivial)).mp hview) h
    | removeDev =>
        exact remove_step hpc hnd ((mirror_of_between (by rw [hpc]; trivial)).mp hview) h
    | _ =>
        have hl : Between w.gw.pc := by
          rw [hpc]
          trivial
        exact between_step hl (by simp [hpc]) (by simp [hpc]) ((mirror_of_between hl).mp hview) h

/-- A write of the child changes no text that is still to be written. -/
theorem childWrite_text {s : Gateway} {p : Post} {stage : Stage} {request ack : UInt8} {id : UInt32}
    {userSet : TimeSet} (hpc : s.pc = .post p stage)
    (hstable : Serving s.pc → id = s.share.idToHandler) :
    Gateway.text libc { s with share := ⟨request, ack, s.share.dataToSend, id, userSet⟩ } p
      = s.text libc p := by
  rw [hpc] at hstable
  cases p with
  | added => simp [Gateway.text, hstable trivial]
  | removed => simp [Gateway.text, hstable trivial]
  | _ => rfl

/-- The view at a place depends on the registry and the text only. -/
theorem Mirror.of_eq {s s' : Gateway} {view : Finset UInt32} (h : Mirror libc s view)
    (hpc : s'.pc = s.pc) (hreg : s'.reg = s.reg) (hdata : s'.share.dataToSend = s.share.dataToSend)
    (htext : ∀ p stage, s.pc = .post p stage → s'.text libc p = s.text libc p) :
    Mirror libc s' view := by
  unfold Mirror at h ⊢
  rw [hpc, hreg, hdata]
  cases hp : s.pc with
  | post p stage =>
      simp only [hp] at h ⊢
      have htext' := htext p stage hp
      cases stage with
      | fill => cases p <;> exact fun text ht => h text (htext' ▸ ht)
      | clearAck =>
          cases p with
          | nodeList k => exact fun text ht => h text (htext' ▸ ht)
          | _ => exact h
      | signal => exact h
      | wait => exact h
  | _ =>
      simp only [hp] at h
      exact h

theorem inView_step {a : Action} (hinv : InView libc w) (hok : Stable w a)
    (hs : mirrorStep libc w a = some w') : InView libc w' := by
  obtain ⟨s', hstep, rfl⟩ := Option.map_eq_some_iff.mp hs
  cases a with
  | main io => exact main_inView hinv hstep
  | packet p =>
      obtain ⟨dev, signalled, -, rfl⟩ := Gateway.packetStep_spec hstep
      refine ⟨hinv.nodup, ?_⟩
      show Mirror libc _ (viewOf (w.told ++ []))
      rw [List.append_nil]
      refine hinv.mirror.of_eq rfl rfl rfl (fun p stage _ => ?_)
      cases p <;> rfl
  | childWrite request ack id userSet =>
      rw [← Option.some.inj hstep]
      refine ⟨hinv.nodup, ?_⟩
      show Mirror libc _ (viewOf (w.told ++ []))
      rw [List.append_nil]
      exact hinv.mirror.of_eq rfl rfl rfl
        (fun p stage hpc => childWrite_text hpc (fun hserving => (hok hserving).2))
  | usr2 =>
      rw [← Option.some.inj hstep]
      refine ⟨hinv.nodup, ?_⟩
      show Mirror libc _ (viewOf (w.told ++ []))
      rw [List.append_nil]
      refine hinv.mirror.of_eq rfl rfl rfl (fun p stage _ => ?_)
      cases p <;> rfl

end Runs

/-- **THE CLIENT'S VIEW MIRRORS THE REGISTRY.**  From the moment GOT_SOCK is handled,
with any registry of distinct ids, and as long as request and id are stable while a
command is handled: whenever no text is being posted, above all after the GOT_SOCK
handling and after each handled command, the ids that the posted texts make of the
empty set are the registered ones. -/
theorem view_mirrors_registry {libc : Libc} {s₀ : Gateway} (hpc₀ : s₀.pc = .scanList 0)
    (hnd : s₀.reg.ids.Nodup) {w : Mirrored} (h : Reach (mirrorStep libc) Stable ⟨s₀, []⟩ w)
    (hpc : Between w.gw.pc) : viewOf w.told = w.gw.reg.ids.toFinset := by
  have hstart : InView libc ⟨s₀, []⟩ := by
    refine ⟨hnd, ?_⟩
    unfold Mirror
    rw [hpc₀]
    exact ⟨by simp, Finset.empty_subset _⟩
  have hinv : InView libc w := Reach.invariant hstart (fun _ _ _ => inView_step) h
  exact (mirror_of_between hpc).mp hinv.mirror

/-- The parent has two nodes and is about to handle its first GOT_SOCK. -/
def greeting : Gateway :=
  { startWith [7, 0xFFFFFFFF] with
    pc := .scanList 0
    socketFlag := true
    share := ⟨Code.gotSock, 0, [], 0, TimeSet.zero⟩ }

/-- `n` steps up to the wait of a text, and the answer of the child. -/
def acknowledged (n : Nat) (request : UInt8) (id : UInt32) : List Action :=
  mains n ++ [.childWrite request 1 id TimeSet.zero, .main sampleIo]

/-- The node list and the data of both nodes, and then the removal of the first one. -/
def listThenRemove : List Action :=
  acknowledged 4 Code.gotSock 0 ++ acknowledged 4 Code.gotSock 0 ++ mains 1
    ++ acknowledged 4 Code.gotSock 0 ++ acknowledged 4 Code.gotSock 0 ++ mains 2
    ++ [.childWrite Code.removeDevice 1 7 TimeSet.zero, .usr2] ++ mains 3
    ++ acknowledged 4 Code.removeDevice 7

/-- The child keeps request and id at every step: enough for `Stable`. -/
def keepsRequest (w : Mirrored) : Action → Bool
  | .childWrite request _ id _ =>
      w.gw.pc = .head || (request = w.gw.share.request && id = w.gw.share.idToHandler)
  | _ => true

theorem stable_of_keepsRequest (w : Mirrored) (a : Action) (h : keepsRequest w a = true) :
    Stable w a := by
  cases a with
  | childWrite request ack id userSet =>
      intro hserving
      simp only [keepsRequest, Bool.or_eq_true, Bool.and_eq_true, decide_eq_true_eq] at h
      rcases h with hhead | hsame
      · rw [hhead] at hserving
        exact False.elim hserving
      · exact hsame
  | _ => trivial

/-- After the removal of the first of two nodes the client knows the second one. -/
theorem view_mirrors_registry_removed :
    ∃ w, Reach (mirrorStep sampleLibc) Stable ⟨greeting, []⟩ w ∧ w.gw.pc = .clear
      ∧ w.told.length = 5 ∧ w.gw.reg.ids = [0xFFFFFFFF] ∧ viewOf w.told = w.gw.reg.ids.toFinset := by
  have hrun : (run (only (mirrorStep sampleLibc) keepsRequest) ⟨greeting, []⟩ listThenRemove).map
      (fun w => (w.gw.pc, w.told.length, w.gw.reg.ids)) = some (.clear, 5, [0xFFFFFFFF]) := by
    decide
  obtain ⟨w, hw, hout⟩ := Option.map_eq_some_iff.mp hrun
  simp only [Prod.mk.injEq] at hout
  obtain ⟨hpc, htold, hids⟩ := hout
  have hreach : Reach (mirrorStep sampleLibc) Stable ⟨greeting, []⟩ w :=
    (reach_of_run _ hw).mono stable_of_keepsRequest
  exact ⟨w, hreach, hpc, htold, hids,
    view_mirrors_registry rfl (by decide) hreach (by rw [hpc]; trivial)⟩

end LoRaGateway
