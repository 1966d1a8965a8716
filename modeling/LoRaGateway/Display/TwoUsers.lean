/-
  LoRaGateway.Display.TwoUsers
  ────────────────────────────
  **THE STATUS LINES, PRINTED BY TWO USERS AT ONCE.**

  `PUT_NODE_INFO` renews the four lower lines and the periodic work the four upper
  ones.  Each transfer is on its own, so that one user can move the window and the
  cursor while the other prints a row.

    • `EachShown` — every line shows the text of its update,
    • `rows_shown` — so they do, when nobody goes on while the other is inside a
      section, from `ssd1306_goto_xy` to the last glyph or zero after it,
    • `rows_mixed` — what happens otherwise.
-/
import LoRaGateway.Display.Texts

namespace LoRaGateway

open LoRaGateway.Lib
open LoRaGateway.Lib.Program (AtRest Sections Ended sections_ret sections_bind)

/-! ## §1. The lines of each user. -/

/-- What the ioctl prints. -/
def nodeUpdates (node : NodeInfo) : List Update :=
  [⟨.numberOfNode, true, managerText node.nodeCount⟩, ⟨.lastIdHandled, true, lastIdText node.id⟩,
    ⟨.brightness, true, brightnessText node.illuminance⟩, ⟨.mode, true, modeText node.mode⟩]

/-- What is printed of the interface. -/
def networkUpdates : Network → List Update
  | .absent => [⟨.wifi, true, ascii "WIFI is disable!"⟩]
  | .unconfigured => []
  | .address a b c d => [⟨.wifi, true, ipText a b c d⟩]

/-- What is printed of the temperature. -/
def temperatureUpdates : Option Int32 → List Update
  | none => []
  | some t => [⟨.cpuTemp, true, temperatureText t⟩]

/-- What is printed of the modem. -/
def loraUpdates : Option LoRaStatus → List Update
  | none => []
  | some s => [⟨.lora, true, loraText s⟩]

/-- What the work prints. -/
def infoUpdates (r : Readings) : List Update :=
  networkUpdates r.wlan0 ++ ⟨.wallTime, false, wallTimeText r.seconds⟩
    :: temperatureUpdates r.cpuTemperature ++ loraUpdates r.loraStatus

/-- The memory after these updates, one after the other. -/
def paintAll (m : Ram) (us : List Update) : Ram := us.foldl Update.paint m

section Updates

variable {rows : Nat → Prop} {m : Ram} {s₀ s : Screen} {Q : Unit → Screen → Screen → Prop}

/-- The four lines of `PUT_NODE_INFO`. -/
theorem sections_showLastestNodeInfo {node : NodeInfo}
    (hrows : ∀ page, 4 ≤ page → rows page) (hfits : (managerText node.nodeCount).length ≤ 20)
    (h : RowsAt rows m s₀ s)
    (hQ : ∀ s₁ s', RowsAt rows (paintAll m (nodeUpdates node)) s₁ s' →
      Behind .mode (modeText node.mode) s' → Q () s₁ s') :
    (showLastestNodeInfo node).Sections screen Opens (ownRows rows) Q s₀ s := by
  refine sections_bind (sections_renew (hrows 4 (by omega)) (fits_managerText hfits) h ?_)
  intro s₁ t₁ h₁ _
  refine sections_bind (sections_renew (hrows 5 (by omega)) (fits_lastIdText _) h₁ ?_)
  intro s₂ t₂ h₂ _
  refine sections_bind (sections_renew (hrows 6 (by omega)) (fits_brightnessText _) h₂ ?_)
  intro s₃ t₃ h₃ _
  exact sections_renew (hrows 7 (by omega)) (fits_modeText _) h₃ hQ

theorem sections_getNetworkIpByName {wlan0 : Network} (hrow : rows 1) (h : RowsAt rows m s₀ s)
    (hQ : ∀ s₁ s', RowsAt rows (paintAll m (networkUpdates wlan0)) s₁ s' → Q () s₁ s') :
    (getNetworkIpByName wlan0 .wifi).Sections screen Opens (ownRows rows) Q s₀ s := by
  cases wlan0 with
  | absent => exact sections_renew hrow (by decide) h (fun s₁ s' h' _ => hQ s₁ s' h')
  | unconfigured => exact sections_ret (hQ s₀ s h)
  | address a b c d =>
      exact sections_renew hrow (fits_ipText a b c d) h (fun s₁ s' h' _ => hQ s₁ s' h')

theorem sections_getCpuTemperatureAndPrint {t : Option Int32} (hrow : rows 3)
    (h : RowsAt rows m s₀ s)
    (hQ : ∀ s₁ s', RowsAt rows (paintAll m (temperatureUpdates t)) s₁ s' → Q () s₁ s') :
    (getCpuTemperatureAndPrint t .cpuTemp).Sections screen Opens (ownRows rows) Q s₀ s := by
  cases t with
  | none => exact sections_ret (hQ s₀ s h)
  | some t =>
      exact sections_renew hrow (fits_temperatureText t) h (fun s₁ s' h' _ => hQ s₁ s' h')

theorem sections_getLoraStatusAndPrint {status : Option LoRaStatus} (hrow : rows 0)
    (h : RowsAt rows m s₀ s)
    (hQ : ∀ s₁ s', RowsAt rows (paintAll m (loraUpdates status)) s₁ s' → Q () s₁ s') :
    (getLoraStatusAndPrint status .lora).Sections screen Opens (ownRows rows) Q s₀ s := by
  cases status with
  | none => exact sections_ret (hQ s₀ s h)
  | some t => exact sections_renew hrow (fits_loraText t) h (fun s₁ s' h' _ => hQ s₁ s' h')

/-- The four lines of the periodic work. -/
theorem sections_getinfo {r : Readings} (hrows : ∀ page, page < 4 → rows page)
    (h : RowsAt rows m s₀ s)
    (hQ : ∀ s₁ s', RowsAt rows (paintAll m (infoUpdates r)) s₁ s' → Q () s₁ s') :
    (getinfo r).Sections screen Opens (ownRows rows) Q s₀ s := by
  have hall : paintAll m (infoUpdates r)
      = paintAll (paintAll (Update.paint (paintAll m (networkUpdates r.wlan0))
        ⟨.wallTime, false, wallTimeText r.seconds⟩) (temperatureUpdates r.cpuTemperature))
          (loraUpdates r.loraStatus) := by
    unfold paintAll infoUpdates
    rw [List.foldl_append, List.foldl_append, List.foldl_cons]
  rw [hall] at hQ
  refine sections_bind (sections_getNetworkIpByName (hrows 1 (by omega)) h ?_)
  intro s₁ t₁ h₁
  refine sections_bind (sections_print (hrows 2 (by omega)) (fits_wallTimeText _) h₁ ?_)
  intro s₂ t₂ h₂ _
  refine sections_bind (sections_getCpuTemperatureAndPrint (hrows 3 (by omega)) h₂ ?_)
  intro s₃ t₃ h₃
  exact sections_getLoraStatusAndPrint (hrows 0 (by omega)) h₃ hQ

end Updates

/-! ## §2. What the display shows. -/

/-- The row shows the text of the update, with blanks behind it if it was cleared. -/
def Update.Shown (u : Update) (before after : Ram) : Prop :=
  ∀ col, after u.row col = u.column (before u.row col) col

/-- Every update is shown, and the other rows are as they were. -/
def EachShown (us : List Update) (before after : Ram) : Prop :=
  (∀ u ∈ us, u.Shown before after) ∧ ∀ page, (∀ u ∈ us, u.row ≠ page) → after page = before page

theorem paintAll_other {us : List Update} {page : Nat} (h : ∀ u ∈ us, u.row ≠ page) :
    ∀ m : Ram, paintAll m us page = m page := by
  induction us with
  | nil => exact fun m => rfl
  | cons u us ih =>
      intro m
      have hne : ¬ page = u.row := fun heq => h u List.mem_cons_self heq.symm
      have hfirst : Update.paint m u page = m page := by
        funext col
        exact if_neg hne
      exact (ih (fun v hv => h v (List.mem_cons_of_mem u hv)) _).trans hfirst

theorem paintAll_shown {us : List Update} (hrows : (us.map Update.row).Nodup) :
    ∀ m : Ram, ∀ u ∈ us, u.Shown m (paintAll m us) := by
  induction us with
  | nil => exact fun m u hu => absurd hu List.not_mem_nil
  | cons v us ih =>
      intro m u hu col
      rw [List.map_cons, List.nodup_cons] at hrows
      rcases List.mem_cons.mp hu with rfl | hu
      · -- no later update has the same row
        have hlater : ∀ w ∈ us, w.row ≠ u.row :=
          fun w hw heq => hrows.1 (heq ▸ List.mem_map_of_mem hw)
        show paintAll (Update.paint m u) us u.row col = _
        rw [paintAll_other hlater]
        exact if_pos rfl
      · have hne : u.row ≠ v.row := fun heq => hrows.1 (heq ▸ List.mem_map_of_mem hu)
        have hfirst : Update.paint m v u.row = m u.row := by
          funext c
          exact if_neg hne
        have hrest := ih hrows.2 (Update.paint m v) u hu col
        rw [hfirst] at hrest
        exact hrest

/-- **One update after the other**, of different rows. -/
theorem paintAll_eachShown {us : List Update} (hrows : (us.map Update.row).Nodup) (m : Ram) :
    EachShown us m (paintAll m us) :=
  ⟨paintAll_shown hrows m, fun _ hp => paintAll_other hp m⟩

/-- What is shown is determined. -/
theorem EachShown.unique {us : List Update} {m a b : Ram} (ha : EachShown us m a)
    (hb : EachShown us m b) : a = b := by
  funext page col
  by_cases h : ∃ u ∈ us, u.row = page
  · obtain ⟨u, hu, rfl⟩ := h
    rw [ha.1 u hu col, hb.1 u hu col]
  · have hother : ∀ u ∈ us, u.row ≠ page := fun u hu heq => h ⟨u, hu, heq⟩
    rw [ha.2 page hother, hb.2 page hother]

/-! ## §3. Both users. -/

/-- `PUT_NODE_INFO`, and the work item. -/
inductive User where
  | ioctl
  | work
  deriving DecidableEq

/-- The rows that a user prints on. -/
def User.rows : User → Nat → Prop
  | .ioctl, page => 4 ≤ page
  | .work, page => page < 4

/-- A user writes on its own rows, and leaves the others as they are. -/
def User.terms (u : User) : Terms Screen := ownRows u.rows

/-- Both users, before they begin. -/
def twoUsers (node : NodeInfo) (r : Readings) (s : Screen) :
    Crew User OledOp OledOp.Resp OutsideFont Unit Screen :=
  ⟨fun | .ioctl => showLastestNodeInfo node | .work => getinfo r, s⟩

/-- What a user leaves in its rows. -/
def User.promise (node : NodeInfo) (r : Readings) (m : Ram) : User → Unit → Screen → Prop
  | .ioctl, _ => Holds User.ioctl.rows (paintAll m (nodeUpdates node))
  | .work, _ => Holds User.work.rows (paintAll m (infoUpdates r))

/-- Each line shows its text, and this is what both orders of the two updates, one
after the other, give. -/
def LinesRight (node : NodeInfo) (r : Readings) (s s' : Screen) : Prop :=
  EachShown (nodeUpdates node ++ infoUpdates r) s.panel.ram s'.panel.ram
    ∧ (∃ t, (showLastestNodeInfo node >>= fun _ => getinfo r).exec screen s = some ((), t)
      ∧ s'.panel.ram = t.panel.ram)
    ∧ ∃ t, (getinfo r >>= fun _ => showLastestNodeInfo node).exec screen s = some ((), t)
      ∧ s'.panel.ram = t.panel.ram

theorem terms_compatible : Compatible User.terms := by
  intro u v huv s s' h
  refine ⟨h.1, fun page hpage => h.2 page (fun hu => hpage (fun hv => ?_))⟩
  cases u <;> cases v
  · exact huv rfl
  · exact absurd hu (Nat.not_le.mpr hv)
  · exact absurd hv (Nat.not_le.mpr hu)
  · exact huv rfl

/-- Both users begin with `ssd1306_goto_xy`. -/
theorem twoUsers_atRest (node : NodeInfo) (r : Readings) (s : Screen) (u : User) :
    ((twoUsers node r s).program u).AtRest Opens := by
  cases u with
  | ioctl => exact (rfl : Opens _)
  | work =>
      obtain ⟨wlan0, seconds, cpuTemperature, loraStatus⟩ := r
      cases wlan0 <;> exact (rfl : Opens _)

section Both

variable {node : NodeInfo} {r : Readings} {s : Screen}

theorem rowsAt_start (rows : Nat → Prop) (hs : s.Idle) : RowsAt rows s.panel.ram s s :=
  ⟨⟨fun h => h, fun _ _ => rfl⟩, hs, fun _ _ => rfl⟩

theorem RowsAt.ended {rows : Nat → Prop} {m : Ram} {s₀ s' : Screen} (h : RowsAt rows m s₀ s') :
    Ended (ownRows rows) (fun _ : Unit => Holds rows m) () s₀ s' :=
  ⟨h.1, fun _ ht => h.2.later ht⟩

/-- Every user does its updates. -/
theorem twoUsers_sections (hs : s.Idle) (hfits : (managerText node.nodeCount).length ≤ 20)
    (u : User) :
    ((twoUsers node r s).program u).Sections screen Opens u.terms
      (Ended u.terms (u.promise node r s.panel.ram)) s s := by
  cases u with
  | ioctl =>
      exact sections_showLastestNodeInfo (fun _ h => h) hfits (rowsAt_start _ hs)
        (fun _ _ h _ => h.ended)
  | work => exact sections_getinfo (fun _ h => h) (rowsAt_start _ hs) (fun _ _ h => h.ended)

/-- The rows of all updates are different. -/
theorem rows_nodup (node : NodeInfo) (r : Readings) :
    ((nodeUpdates node ++ infoUpdates r).map Update.row).Nodup := by
  obtain ⟨wlan0, seconds, cpuTemperature, loraStatus⟩ := r
  cases wlan0 <;> cases cpuTemperature <;> cases loraStatus <;> exact of_decide_eq_true rfl

theorem EachShown.comm {us vs : List Update} {m a : Ram} (h : EachShown (us ++ vs) m a) :
    EachShown (vs ++ us) m a := by
  have hmem : ∀ u, u ∈ vs ++ us ↔ u ∈ us ++ vs := by
    intro u
    rw [List.mem_append, List.mem_append]
    exact Or.comm
  exact ⟨fun u hu => h.1 u ((hmem u).mp hu),
    fun page hp => h.2 page (fun u hu => hp u ((hmem u).mpr hu))⟩

/-- One user after the other. -/
theorem exec_in_order (hs : s.Idle) (hfits : (managerText node.nodeCount).length ≤ 20) :
    (∃ t, (showLastestNodeInfo node >>= fun _ => getinfo r).exec screen s = some ((), t)
        ∧ EachShown (nodeUpdates node ++ infoUpdates r) s.panel.ram t.panel.ram)
      ∧ ∃ t, (getinfo r >>= fun _ => showLastestNodeInfo node).exec screen s = some ((), t)
        ∧ EachShown (nodeUpdates node ++ infoUpdates r) s.panel.ram t.panel.ram := by
  -- whoever is alone owns all rows
  have hstart := rowsAt_start (fun _ => True) hs
  have hram : ∀ {us vs : List Update} {s₁ t : Screen},
      RowsAt (fun _ => True) (paintAll (paintAll s.panel.ram us) vs) s₁ t →
        t.panel.ram = paintAll s.panel.ram (us ++ vs) := by
    intro us vs s₁ t h
    funext page
    rw [h.2.ram page trivial]
    unfold paintAll
    rw [List.foldl_append]
  constructor
  · have hsec : (showLastestNodeInfo node >>= fun _ => getinfo r).Sections screen Opens
        (ownRows fun _ => True) (fun _ => RowsAt (fun _ => True)
          (paintAll (paintAll s.panel.ram (nodeUpdates node)) (infoUpdates r))) s s :=
      sections_bind (sections_showLastestNodeInfo (fun _ _ => trivial) hfits hstart
        (fun _ _ h _ => sections_getinfo (fun _ _ => trivial) h (fun _ _ h' => h')))
    obtain ⟨a, s₁, t, he, ht⟩ := hsec.exec
    refine ⟨t, he, ?_⟩
    rw [hram ht]
    exact paintAll_eachShown (rows_nodup node r) _
  · have hsec : (getinfo r >>= fun _ => showLastestNodeInfo node).Sections screen Opens
        (ownRows fun _ => True) (fun _ => RowsAt (fun _ => True)
          (paintAll (paintAll s.panel.ram (infoUpdates r)) (nodeUpdates node))) s s :=
      sections_bind (sections_getinfo (fun _ _ => trivial) hstart
        (fun _ _ h => sections_showLastestNodeInfo (fun _ _ => trivial) hfits h
          (fun _ _ h' _ => h')))
    obtain ⟨a, s₁, t, he, ht⟩ := hsec.exec
    have hnodup : ((infoUpdates r ++ nodeUpdates node).map Update.row).Nodup := by
      rw [(List.perm_append_comm.map Update.row).nodup_iff]
      exact rows_nodup node r
    refine ⟨t, he, ?_⟩
    rw [hram ht]
    exact (paintAll_eachShown hnodup _).comm

theorem row_nodeUpdates {u : Update} (hu : u ∈ nodeUpdates node) : 4 ≤ u.row := by
  have hall : (nodeUpdates node).all (fun u => decide (4 ≤ u.row)) = true := rfl
  exact of_decide_eq_true (List.all_eq_true.mp hall u hu)

theorem row_infoUpdates {u : Update} (hu : u ∈ infoUpdates r) : u.row < 4 := by
  have hall : (infoUpdates r).all (fun u => decide (u.row < 4)) = true := by
    obtain ⟨wlan0, seconds, cpuTemperature, loraStatus⟩ := r
    cases wlan0 <;> cases cpuTemperature <;> cases loraStatus <;> rfl
  exact of_decide_eq_true (List.all_eq_true.mp hall u hu)

/-- Each user's rows, taken together. -/
theorem eachShown_of_rows {m after : Ram}
    (hnode : ∀ page, 4 ≤ page → after page = paintAll m (nodeUpdates node) page)
    (hinfo : ∀ page, page < 4 → after page = paintAll m (infoUpdates r) page) :
    EachShown (nodeUpdates node ++ infoUpdates r) m after := by
  have hnodup := rows_nodup node r
  rw [List.map_append, List.nodup_append] at hnodup
  refine ⟨fun u hu col => ?_, fun page hp => ?_⟩
  · rcases List.mem_append.mp hu with hu | hu
    · rw [hnode u.row (row_nodeUpdates hu)]
      exact paintAll_shown hnodup.1 m u hu col
    · rw [hinfo u.row (row_infoUpdates hu)]
      exact paintAll_shown hnodup.2.1 m u hu col
  · rcases Nat.lt_or_ge page 4 with hlt | hge
    · rw [hinfo page hlt]
      exact paintAll_other (fun u hu => hp u (List.mem_append_right _ hu)) m
    · rw [hnode page hge]
      exact paintAll_other (fun u hu => hp u (List.mem_append_left _ hu)) m

/-- Alone, `PUT_NODE_INFO` leaves the cursor behind its last line. -/
theorem exec_showLastestNodeInfo (hs : s.Idle)
    (hfits : (managerText node.nodeCount).length ≤ 20) :
    ∃ t, (showLastestNodeInfo node).exec screen s = some ((), t)
      ∧ Holds (fun _ => True) (paintAll s.panel.ram (nodeUpdates node)) t
      ∧ Behind .mode (modeText node.mode) t := by
  have hsec : (showLastestNodeInfo node).Sections screen Opens (ownRows fun _ => True)
      (fun _ _ t => Holds (fun _ => True) (paintAll s.panel.ram (nodeUpdates node)) t
        ∧ Behind .mode (modeText node.mode) t) s s :=
    sections_showLastestNodeInfo (fun _ _ => trivial) hfits (rowsAt_start _ hs)
      (fun _ _ h hb => ⟨h.2, hb⟩)
  obtain ⟨a, s₁, t, he, ht⟩ := hsec.exec
  exact ⟨t, he, ht⟩

/-- Such a run exists: one user after the other. -/
theorem twoUsers_in_order (hs : s.Idle) (hfits : (managerText node.nodeCount).length ≤ 20) :
    ∃ w, Reach (Crew.step screen) (Yields Opens) (twoUsers node r s) w ∧ w.Done := by
  obtain ⟨t, he, ht, -⟩ := exec_showLastestNodeInfo hs hfits
  have hinfo : (getinfo r).Sections screen Opens (ownRows fun _ => True)
      (fun _ _ _ => True) t t :=
    sections_getinfo (fun _ _ => trivial) (rowsAt_start _ ht.idle) (fun _ _ _ => trivial)
  obtain ⟨b, -, t', he', -⟩ := hinfo.exec
  -- `PUT_NODE_INFO` before the work has begun, then the work
  have hfirst : Reach (Crew.step screen) (Yields Opens) (twoUsers node r s)
      ((twoUsers node r s).move .ioctl (.ret ()) t) := by
    refine Crew.reach_of_return ?_ rfl he
    intro q s' u hu
    rw [Crew.move_other _ _ _ hu]
    exact twoUsers_atRest node r s u
  have hsecond : Reach (Crew.step screen) (Yields Opens)
      ((twoUsers node r s).move .ioctl (.ret ()) t)
      (((twoUsers node r s).move .ioctl (.ret ()) t).move .work (.ret ()) t') := by
    refine Crew.reach_of_return ?_ (Crew.move_other _ _ _ (by decide)) he'
    intro q s' u hu
    cases u with
    | ioctl =>
        rw [Crew.move_other _ _ _ (by decide), Crew.move_self]
        trivial
    | work => exact absurd rfl hu
  refine ⟨_, hfirst.trans hsecond, fun u => ⟨(), ?_⟩⟩
  cases u with
  | ioctl => rw [Crew.move_other _ _ _ (by decide), Crew.move_self]
  | work => rw [Crew.move_self]

/-- **EACH STATUS LINE SHOWS ITS TEXT**, as in either order of the two updates, in
every run in which nobody goes on while the other is inside a section; and such a run
goes on until both have returned. -/
theorem rows_shown (node : NodeInfo) (r : Readings) (s : Screen) (hs : s.Idle)
    (hfits : (managerText node.nodeCount).length ≤ 20)
    {w : Crew User OledOp OledOp.Resp OutsideFont Unit Screen}
    (hreach : Reach (Crew.step screen) (Yields Opens) (twoUsers node r s) w) :
    (w.Done → LinesRight node r s w.state)
      ∧ (¬ w.Done → ∃ u w', Yields Opens w u ∧ w.step screen u = some w') := by
  have horderly := orderly_of_reach terms_compatible
    (orderly_start User.ioctl (fun u => ⟨twoUsers_atRest node r s u, twoUsers_sections hs hfits u⟩))
    hreach
  refine ⟨fun hdone => ?_, horderly.progress terms_compatible⟩
  obtain ⟨a, ha⟩ := hdone .ioctl
  obtain ⟨b, hb⟩ := hdone .work
  have hnode := (horderly.ends terms_compatible hdone ha).ram
  have hinfo := (horderly.ends terms_compatible hdone hb).ram
  have hshown := eachShown_of_rows hnode hinfo
  obtain ⟨⟨t, ht, htshown⟩, ⟨t', ht', htshown'⟩⟩ := exec_in_order (r := r) hs hfits
  exact ⟨hshown, ⟨t, ht, hshown.unique htshown⟩, ⟨t', ht', hshown.unique htshown'⟩⟩

end Both

/-! ## §4. Two runs. -/

/-- A cleared display, with the cursor at its origin. -/
def blankScreen : Screen := ⟨⟨fun _ _ => 0, 0, 127, 0, 7, 0, 0, []⟩, 0, 0⟩

/-- Two nodes; the last that was handled. -/
def secondOfTwo : NodeInfo := ⟨20021163, 1, 2, 80⟩

/-- Everything can be read. -/
def allReadings : Readings := ⟨.address 192 168 1 7, 0, some 45000, some .ok⟩

/-- One user after the other. -/
theorem rows_shown_in_order : ∃ w,
    Reach (Crew.step screen) (Yields Opens) (twoUsers secondOfTwo allReadings blankScreen) w
      ∧ w.Done ∧ LinesRight secondOfTwo allReadings blankScreen w.state := by
  have hidle : blankScreen.Idle := rfl
  have hfits : (managerText secondOfTwo.nodeCount).length ≤ 20 := by decide
  obtain ⟨w, hw, hdone⟩ := twoUsers_in_order (r := allReadings) hidle hfits
  exact ⟨w, hw, hdone, (rows_shown secondOfTwo allReadings blankScreen hidle hfits hw).1 hdone⟩

/-- Nothing but the time can be printed, and it is seven o'clock. -/
def onlyTime : Readings := ⟨.unconfigured, 0, none, none⟩

/-- What is left of the work after `Wall Time: `. -/
def restOfTime : Oled Unit := do
  ssd1306SendString (ascii " 7: 0") .white
  getCpuTemperatureAndPrint none .cpuTemp
  getLoraStatusAndPrint none .lora

theorem getinfo_onlyTime : getinfo onlyTime
    = (do
        ssd1306GotoXy 0 LineT.wallTime.row
        ssd1306SendString (ascii "Wall Time: ") .white : Oled Unit) >>= fun _ => restOfTime := by
  have htext : wallTimeText 0 = ascii "Wall Time: " ++ ascii " 7: 0" := by decide
  show ((do
    ssd1306GotoXy 0 LineT.wallTime.row
    ssd1306SendString (wallTimeText 0) .white : Oled Unit) >>= fun _ => _) = _
  rw [htext, sendString_append]
  unfold restOfTime
  simp only [Program.bind_assoc]
  rfl

/-- **The lines of both users get mixed**: `PUT_NODE_INFO` comes between `Wall Time: `
and the digits, which are printed behind its last line. -/
theorem rows_mixed : ∃ w,
    Reach (Crew.step screen) Any (twoUsers secondOfTwo onlyTime blankScreen) w
      ∧ w.Done ∧ ¬ LinesRight secondOfTwo onlyTime blankScreen w.state := by
  let w₀ := twoUsers secondOfTwo onlyTime blankScreen
  -- the work prints the first part of its line
  have hprint : (do
      ssd1306GotoXy 0 LineT.wallTime.row
      ssd1306SendString (ascii "Wall Time: ") .white : Oled Unit).Sections screen Opens
        (ownRows fun _ => True) (fun _ _ t => Holds (fun _ => True)
          (Update.paint blankScreen.panel.ram ⟨.wallTime, false, ascii "Wall Time: "⟩) t)
        blankScreen blankScreen :=
    sections_print trivial (by decide) (rowsAt_start _ rfl) (fun _ _ h _ => h.2)
  obtain ⟨a, s₁, t₁, he₁, ht₁⟩ := hprint.exec
  have hfirst : Reach (Crew.step screen) Any w₀ (w₀.move .work restOfTime t₁) :=
    Crew.reach_of_exec (f := fun _ => restOfTime) (fun _ _ => trivial) getinfo_onlyTime he₁
  -- the other user prints all its lines
  have hfits : (managerText secondOfTwo.nodeCount).length ≤ 20 := by decide
  obtain ⟨t₂, he₂, ht₂, hcursor⟩ := exec_showLastestNodeInfo ht₁.idle hfits
  have hsecond : Reach (Crew.step screen) Any (w₀.move .work restOfTime t₁)
      ((w₀.move .work restOfTime t₁).move .ioctl (.ret ()) t₂) :=
    Crew.reach_of_return (fun _ _ => trivial) (Crew.move_other _ _ _ (by decide)) he₂
  -- the digits
  have hx : t₂.currentX.toNat + (ascii " 7: 0").length ≤ 20 := by
    rw [hcursor.x]
    decide
  have hdigits : (ssd1306SendString (ascii " 7: 0") .white).Sections screen Opens
      (ownRows fun _ => True) (fun _ _ t => t = t₂.printed (ascii " 7: 0")) t₂ t₂ :=
    sections_sendString hcursor.aligned (show Fits (ascii " 7: 0") by decide).1 hx rfl
  obtain ⟨b, s₃, t₃, he₃, rfl⟩ := hdigits.exec
  have hthird : Reach (Crew.step screen) Any
      ((w₀.move .work restOfTime t₁).move .ioctl (.ret ()) t₂)
      (((w₀.move .work restOfTime t₁).move .ioctl (.ret ()) t₂).move .work (.ret ())
        (t₂.printed (ascii " 7: 0"))) := by
    have hwork : ((w₀.move .work restOfTime t₁).move .ioctl (.ret ()) t₂).program .work
        = ssd1306SendString (ascii " 7: 0") .white >>= fun _ => .ret () := by
      rw [Crew.move_other _ _ _ (by decide), Crew.move_self]
      rfl
    exact Crew.reach_of_exec (f := fun _ => .ret ()) (fun _ _ => trivial) hwork he₃
  refine ⟨_, (hfirst.trans hsecond).trans hthird, fun u => ⟨(), ?_⟩, fun h => ?_⟩
  · cases u with
    | ioctl => rw [Crew.move_other _ _ _ (by decide), Crew.move_self]
    | work => rw [Crew.move_self]
  · -- the first column of the 7
    have hshown := h.1.1 ⟨.wallTime, false, wallTimeText 0⟩ (by simp [infoUpdates, onlyTime]) 72
    have hpage : ¬ 2 = t₂.panel.page := by
      rw [hcursor.aligned.page, hcursor.y]
      decide
    have hcell : (t₂.printed (ascii " 7: 0")).panel.ram 2 72 = 0 := by
      show (if 2 = t₂.panel.page ∧ _ then _ else t₂.panel.ram 2 72) = 0
      have hother : ∀ u ∈ nodeUpdates secondOfTwo, u.row ≠ 2 := by
        intro u hu hrow
        have hge := row_nodeUpdates hu
        omega
      rw [if_neg (fun hp => hpage hp.1), ht₂.ram 2 trivial, paintAll_other hother,
        ht₁.ram 2 trivial]
      rfl
    have hcolumn : Update.column ⟨.wallTime, false, wallTimeText 0⟩ 0 72 = 1 := by decide +kernel
    have hzero : (0 : UInt8) = 1 := hcell.symm.trans (hshown.trans hcolumn)
    exact absurd hzero (by decide)

end LoRaGateway
