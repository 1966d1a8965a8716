/-
  LoRaGateway.Display.Station
  ───────────────────────────
  **THE GATEWAY AND ITS SCREEN.**

  Two programs print on one display: the parent process, which hands every response
  that it stores to `PUT_NODE_INFO`, and the work of every minute.  They begin when they
  like, any number of times, and go on transfer by transfer; the parent does nothing
  else while it is inside the ioctl.  `Display.TwoUsers` shows what becomes of a row
  into which the other one steps; here nobody does.

    • `stationStep` — the parent and the display together,
    • `paintAll_latest` — a row shows the last update of it,
    • `screen_follows_gateway` — in every such run each of the eight lines, when the one
      who prints it has finished, shows what was said last: the four lower ones the last
      response that was stored, the four upper ones the last minute that could read
      something; and whatever the parent does alone, it does with the display, too.
-/
import LoRaGateway.Display.TwoUsers
import LoRaGateway.MainLoop.History
import LoRaGateway.MainLoop.Response
import Mathlib.Data.List.GetD

namespace LoRaGateway

open LoRaGateway.Lib
open LoRaGateway.Lib.Program (Ended)

/-! ## §1. The station. -/

/-- `put_data_to_screen`: nothing is sent when `/dev/oled` does not open. -/
def putDataToScreen (opens : Bool) (node : NodeInfo) : Oled Unit :=
  if opens then showLastestNodeInfo node else return ()

/-- The parent, and the display with what its two users have left to do there; the user
`ioctl` is the parent inside `PUT_NODE_INFO`. -/
structure Station where
  gw : Gateway
  oled : Crew User OledOp OledOp.Resp OutsideFont Unit Screen

/-- The user has returned. -/
def returned : Oled Unit → Bool
  | .ret _ => true
  | _ => false

/-- The display, when nobody prints. -/
def unused (s : Screen) : Crew User OledOp OledOp.Resp OutsideFont Unit Screen :=
  ⟨fun _ => .ret (), s⟩

/-- What happens at the station. -/
inductive StationAction where
  /-- a step of the parent or an event outside it, with what `open("/dev/oled")` would answer -/
  | parent (a : Action) (opens : Bool)
  /-- a worker takes the work of a minute, which will read `r` -/
  | minute (r : Readings)
  /-- one transfer of a user, or one access to the cursor -/
  | display (u : User)

/-- It is the parent that goes on. -/
def Action.isMain : Action → Bool
  | .main _ => true
  | _ => false

/-- What `put_data_to_screen` is called with in a step: the values are stored when
`handler_rx_data` goes on to the client or to the status. -/
def Gateway.put (s s' : Gateway) : Option NodeInfo :=
  match s.pc, s'.pc with
  | .rxHandle _, .post _ _ => s'.screen
  | .rxHandle _, .rxStatus _ => s'.screen
  | _, _ => none

/-- One step of the parent, of what is around it, or of a user of the display. -/
def stationStep (libc : Libc) (w : Station) : StationAction → Option Station
  | .parent a opens =>
      -- inside the ioctl the parent does nothing else
      if a.isMain && !returned (w.oled.program .ioctl) then none
      else do
        let gw ← step libc w.gw a
        match w.gw.put gw with
        | none => some { w with gw := gw }
        | some node => some ⟨gw, w.oled.move .ioctl (putDataToScreen opens node) w.oled.state⟩
  | .minute r =>
      -- a work item runs once at a time
      if returned (w.oled.program .work) then
        some { w with oled := w.oled.move .work (getinfo r) w.oled.state }
      else none
  | .display u => (w.oled.step screen u).map (fun oled => { w with oled := oled })

/-! ## §2. What is said. -/

/-- A response that is put on the screen, or the work of a minute. -/
inductive StationEvent where
  | stored (node : NodeInfo)
  | minute (r : Readings)

/-- What an action says; it is said when its user begins to print it. -/
def Station.events (libc : Libc) (w : Station) : StationAction → List StationEvent
  | .parent a opens =>
      if opens then ((w.gw.events libc a).filterMap NodeEvent.shown).map StationEvent.stored
      else []
  | .minute r => [.minute r]
  | .display _ => []

/-- Who prints it. -/
def StationEvent.user : StationEvent → User
  | .stored _ => .ioctl
  | .minute _ => .work

/-- Who prints the line. -/
def LineT.user : LineT → User
  | .lora | .wifi | .wallTime | .cpuTemp => .work
  | _ => .ioctl

/-- The updates that an event makes. -/
def StationEvent.updates : StationEvent → List Update
  | .stored node => nodeUpdates node
  | .minute r => infoUpdates r

/-- What is said of the interface. -/
def networkText : Network → Option (List UInt8)
  | .absent => some (ascii "WIFI is disable!")
  | .unconfigured => none
  | .address a b c d => some (ipText a b c d)

/-- What an event says of a line. -/
def StationEvent.text (line : LineT) : StationEvent → Option (List UInt8)
  | .stored node =>
      match line with
      | .numberOfNode => some (managerText node.nodeCount)
      | .lastIdHandled => some (lastIdText node.id)
      | .brightness => some (brightnessText node.illuminance)
      | .mode => some (modeText node.mode)
      | _ => none
  | .minute r =>
      match line with
      | .lora => r.loraStatus.map loraText
      | .wifi => networkText r.wlan0
      | .wallTime => some (wallTimeText r.seconds)
      | .cpuTemp => r.cpuTemperature.map temperatureText
      | _ => none

/-- The line shows a text with blanks behind it. -/
def LineShows (m : Ram) (line : LineT) (text : List UInt8) : Prop :=
  ∀ col, col < 120 → m line.row.toNat col = (columns text).getD col 0

/-! ## §3. Rows. -/

section Rows

theorem row_injective {line line' : LineT} (h : line.row.toNat = line'.row.toNat) :
    line = line' := by
  cases line <;> cases line' <;> first | rfl | exact absurd h (by decide)

theorem paintAll_append (m : Ram) (us vs : List Update) :
    paintAll m (us ++ vs) = paintAll (paintAll m us) vs := List.foldl_append

/-- What an update says of a line. -/
def Update.said (line : LineT) (u : Update) : Option (List UInt8) :=
  if u.line = line then some u.text else none

theorem paint_other {m : Ram} {u : Update} {line : LineT} (h : u.line ≠ line) :
    Update.paint m u line.row.toNat = m line.row.toNat := by
  funext col
  exact if_neg (fun hrow => h (row_injective hrow.symm))

/-- **A row shows the last update of it**, when every update of it, on a row with
`good`, leaves its text with blanks behind it, and a row with `good`. -/
theorem paintAll_latest {line : LineT} {m : Ram} (good : (Nat → UInt8) → Prop)
    (hm : good (m line.row.toNat)) (us : List Update)
    (hown : ∀ u ∈ us, u.line = line → ∀ m : Ram, good (m line.row.toNat) →
      good (Update.paint m u line.row.toNat) ∧ LineShows (Update.paint m u) line u.text) :
    good (paintAll m us line.row.toNat)
      ∧ (∀ text, latest (Update.said line) us = some text → LineShows (paintAll m us) line text)
      ∧ (latest (Update.said line) us = none →
          paintAll m us line.row.toNat = m line.row.toNat) := by
  induction us using List.reverseRecOn with
  | nil => exact ⟨hm, fun text h => absurd h (by simp), fun _ => rfl⟩
  | append_singleton us u ih =>
      obtain ⟨hgood, hshows, hsame⟩ := ih (fun v hv => hown v (List.mem_append_left _ hv))
      have hlast : paintAll m (us ++ [u]) = Update.paint (paintAll m us) u :=
        paintAll_append m us [u]
      rw [hlast]
      by_cases hline : u.line = line
      · obtain ⟨hgood', hshown⟩ := hown u (by simp) hline _ hgood
        have hsaid : Update.said line u = some u.text := if_pos hline
        rw [latest_concat_some hsaid]
        refine ⟨hgood', fun text h => ?_, fun h => absurd h (by simp)⟩
        rw [← Option.some.inj h]
        exact hshown
      · have hsaid : Update.said line u = none := if_neg hline
        have hrow := paint_other (m := paintAll m us) hline
        rw [latest_concat_none hsaid]
        refine ⟨hrow ▸ hgood, fun text h col hcol => ?_, fun h => hrow.trans (hsame h)⟩
        rw [hrow]
        exact hshows text h col hcol

theorem paint_self (m : Ram) (u : Update) (col : Nat) :
    Update.paint m u u.line.row.toNat col = u.column (m u.line.row.toNat col) col := if_pos rfl

/-- A cleared row, whatever was in it. -/
theorem shows_cleared (m : Ram) {u : Update} (hfits : Fits u.text) (hc : u.cleared = true) :
    LineShows (Update.paint m u) u.line u.text := by
  intro col hcol
  rw [paint_self]
  unfold Update.column
  have hlen : (columns u.text).length = fontX * u.text.length := length_columns hfits.1
  by_cases htext : col < fontX * u.text.length
  · rw [if_pos htext]
  · have hrow : col < 20 * fontX := hcol
    rw [if_neg htext, if_pos ⟨hc, hrow⟩, List.getD_eq_default _ _ (by omega)]

/-- Behind `n` characters the row is blank. -/
def BlankBehind (n : Nat) (row : Nat → UInt8) : Prop :=
  ∀ col, fontX * n ≤ col → col < 120 → row col = 0

/-- A row that is printed over by a text as long as the one before. -/
theorem shows_over {m : Ram} {u : Update} (hfits : Fits u.text) (hc : u.cleared = false)
    (hblank : BlankBehind u.text.length (m u.line.row.toNat)) :
    BlankBehind u.text.length (Update.paint m u u.line.row.toNat)
      ∧ LineShows (Update.paint m u) u.line u.text := by
  have hlen : (columns u.text).length = fontX * u.text.length := length_columns hfits.1
  have hpaint : ∀ col, Update.paint m u u.line.row.toNat col
      = if col < fontX * u.text.length then (columns u.text).getD col 0
        else m u.line.row.toNat col := by
    intro col
    rw [paint_self]
    unfold Update.column
    by_cases htext : col < fontX * u.text.length
    · rw [if_pos htext, if_pos htext]
    · rw [if_neg htext, if_neg htext, if_neg (fun h => by rw [hc] at h; cases h.1)]
  constructor
  · intro col hge hcol
    rw [hpaint, if_neg (by omega)]
    exact hblank col hge hcol
  · intro col hcol
    rw [hpaint]
    by_cases htext : col < fontX * u.text.length
    · rw [if_pos htext]
    · rw [if_neg htext, List.getD_eq_default _ _ (by omega)]
      exact hblank col (by omega) hcol

end Rows

/-! ## §4. One step. -/

section Steps

variable {libc : Libc} {s s' : Gateway} {t : Screen}

/-- **What is put on the screen is what was heard.** -/
theorem put_eq {a : Action} (hnd : s.reg.ids.Nodup) (hs : step libc s a = some s') :
    (s.put s').toList = (s.events libc a).filterMap NodeEvent.shown := by
  cases a with
  | main io =>
      have hs : s.mainStep libc io = some s' := hs
      cases hpc : s.pc with
      | rxHandle buff =>
          have hev : s.events libc (.main io)
              = (s.heard libc buff).toList.map fun x => .answered x.1 x.2 s.nodeCount := by
            unfold Gateway.events
            rw [hpc]
          simp only [Gateway.mainStep, hpc] at hs
          rw [hev]
          unfold Gateway.put
          rcases Gateway.handlerRxData_heard hnd hs with
            ⟨hheard, -, -, hpc' | hpc'⟩ | ⟨uid, text, r, hheard, -, -, hscreen, hpc'⟩
          · rw [hheard, hpc, hpc']
            rfl
          · rw [hheard, hpc, hpc']
            rfl
          · rw [hheard, hscreen]
            by_cases hsock : s.sockStatus ≠ 0
            · rw [if_pos hsock] at hpc'
              rw [hpc, hpc']
              rfl
            · rw [if_neg hsock] at hpc'
              rw [hpc, hpc']
              rfl
      | addDev =>
          unfold Gateway.put Gateway.events
          rw [hpc]
          simp only
          split <;> rfl
      | removeDev =>
          unfold Gateway.put Gateway.events
          rw [hpc]
          simp only
          split <;> rfl
      | modeLoop kind tmp =>
          unfold Gateway.put Gateway.events
          rw [hpc]
          cases kind with
          | auto => rfl
          | manual =>
              simp only
              split <;> rfl
      | _ =>
          unfold Gateway.put Gateway.events
          rw [hpc]
          rfl
  -- the place is the same before and after
  | packet p =>
      obtain ⟨dev, signalled, -, rfl⟩ := Gateway.packetStep_spec hs
      unfold Gateway.put
      cases s.pc <;> rfl
  | childWrite request ack id userSet =>
      rw [← Option.some.inj hs]
      unfold Gateway.put
      cases s.pc <;> rfl
  | usr2 =>
      rw [← Option.some.inj hs]
      unfold Gateway.put
      cases s.pc <;> rfl

/-- The number of nodes has at most six digits. -/
theorem length_managerText {n : Nat} (hn : n < 1000000) :
    (managerText (UInt32.ofNat n)).length ≤ 20 := by
  have hint : (UInt32.ofNat n).toInt32.toInt = (n : Int) := by
    rw [UInt32.toInt32_ofNat', Int32.toInt_ofNat_of_lt (by omega)]
  have hdigits : (decimalNat n).length ≤ 6 := length_decimalNat_le (k := 5) hn
  have hnat : decimal (n : Int) = decimalNat n := by
    unfold decimal
    rw [if_neg (by omega)]
    rfl
  unfold managerText printId
  rw [hint, hnat, List.length_append, List.length_append]
  have h9 : (ascii "Manager: ").length = 9 := by decide
  have h5 : (ascii " node").length = 5 := by decide
  omega

/-- The number of nodes that is put on the screen is that of the step. -/
theorem put_nodeCount {a : Action} {node : NodeInfo} (hnd : s.reg.ids.Nodup)
    (hs : step libc s a = some s') (hput : s.put s' = some node) :
    node.nodeCount = UInt32.ofNat s.nodeCount := by
  have hmem : node ∈ (s.events libc a).filterMap NodeEvent.shown := by
    rw [← put_eq hnd hs, hput]
    exact List.mem_singleton.mpr rfl
  obtain ⟨e, he, hshown⟩ := List.mem_filterMap.mp hmem
  cases e with
  | answered id r n =>
      obtain rfl := Option.some.inj hshown
      have hn : n = s.nodeCount := by
        unfold Gateway.events at he
        split at he
        · split at he
          · obtain ⟨x, -, hx⟩ := List.mem_map.mp he
            simp only [NodeEvent.answered.injEq] at hx
            exact hx.2.2.symm
          all_goals (try split at he) <;> simp at he
        · exact absurd he List.not_mem_nil
      rw [hn]
  | registered id t => exact absurd hshown (by simp [NodeEvent.shown])
  | removed id => exact absurd hshown (by simp [NodeEvent.shown])
  | scheduled id t => exact absurd hshown (by simp [NodeEvent.shown])

end Steps

/-! ## §5. The updates. -/

section Updates

variable {node : NodeInfo} {r : Readings}

/-- The row is cleared first, or it is that of the time, whose texts have one length. -/
def Update.Covers (u : Update) : Prop :=
  (u.cleared = true ∧ u.line ≠ .wallTime)
    ∨ (u.cleared = false ∧ u.line = .wallTime ∧ u.text.length = 16)

theorem fits_nodeUpdates (hfits : (managerText node.nodeCount).length ≤ 20) :
    ∀ u ∈ nodeUpdates node, Fits u.text := by
  unfold nodeUpdates
  simp only [List.forall_mem_cons, List.not_mem_nil, false_imp_iff, implies_true, and_true]
  exact ⟨fits_managerText hfits, fits_lastIdText _, fits_brightnessText _, fits_modeText _⟩

theorem covers_nodeUpdates : ∀ u ∈ nodeUpdates node, u.Covers := by
  intro u hu
  have hall : (nodeUpdates node).all (fun u => u.cleared && decide (u.line ≠ .wallTime)) = true :=
    rfl
  exact Or.inl (by simpa using List.all_eq_true.mp hall u hu)

theorem length_padded {n : Nat} (h : n < 100) : (padded n).length = 2 := by
  have hlen := length_decimalNat_le (k := 1) (by omega : n < 10 ^ 2)
  unfold padded
  rw [List.length_append, List.length_replicate]
  omega

/-- Every time of day has the same length. -/
theorem length_wallTimeText (seconds : Nat) : (wallTimeText seconds).length = 16 := by
  have hhour : (padded ((seconds + 7 * 3600) / 3600 % 24)).length = 2 := length_padded (by omega)
  have hmin : (padded ((seconds + 7 * 3600) / 60 % 60)).length = 2 := length_padded (by omega)
  have hname : (ascii "Wall Time: ").length = 11 := by decide
  unfold wallTimeText
  simp only [List.length_append, List.length_cons, hhour, hmin, hname]

theorem networkUpdates_spec (wlan0 : Network) :
    ∀ u ∈ networkUpdates wlan0, Fits u.text ∧ u.Covers := by
  intro u hu
  cases wlan0 with
  | absent =>
      rw [List.mem_singleton.mp hu]
      exact ⟨by decide, Or.inl ⟨rfl, by simp⟩⟩
  | unconfigured => exact absurd hu List.not_mem_nil
  | address a b c d =>
      rw [List.mem_singleton.mp hu]
      exact ⟨fits_ipText a b c d, Or.inl ⟨rfl, by simp⟩⟩

theorem temperatureUpdates_spec (t : Option Int32) :
    ∀ u ∈ temperatureUpdates t, Fits u.text ∧ u.Covers := by
  intro u hu
  cases t with
  | none => exact absurd hu List.not_mem_nil
  | some t =>
      rw [List.mem_singleton.mp hu]
      exact ⟨fits_temperatureText t, Or.inl ⟨rfl, by simp⟩⟩

theorem loraUpdates_spec (status : Option LoRaStatus) :
    ∀ u ∈ loraUpdates status, Fits u.text ∧ u.Covers := by
  intro u hu
  cases status with
  | none => exact absurd hu List.not_mem_nil
  | some status =>
      rw [List.mem_singleton.mp hu]
      exact ⟨fits_loraText status, Or.inl ⟨rfl, by simp⟩⟩

/-- What the work of a minute prints fits and covers what was there. -/
theorem infoUpdates_spec : ∀ u ∈ infoUpdates r, Fits u.text ∧ u.Covers := by
  intro u hu
  simp only [infoUpdates, List.mem_append, List.mem_cons] at hu
  rcases hu with (hu | rfl | hu) | hu
  · exact networkUpdates_spec r.wlan0 u hu
  · exact ⟨fits_wallTimeText r.seconds, Or.inr ⟨rfl, rfl, length_wallTimeText r.seconds⟩⟩
  · exact temperatureUpdates_spec r.cpuTemperature u hu
  · exact loraUpdates_spec r.loraStatus u hu

theorem covers_updates (e : StationEvent) : ∀ u ∈ e.updates, u.Covers := by
  cases e with
  | stored node => exact covers_nodeUpdates
  | minute r => exact fun u hu => (infoUpdates_spec u hu).2

end Updates

/-! ## §6. Runs. -/

/-- What a user has brought its rows to, when it has printed what was said. -/
def promised (m₀ : Ram) (log : List StationEvent) (u : User) (_ : Unit) : Screen → Prop :=
  Holds u.rows (paintAll m₀ (log.flatMap StationEvent.updates))

/-- Each user prints what was said last. -/
structure UpToDate (m₀ : Ram) (w : Station) (log : List StationEvent) : Prop where
  nodup : w.gw.reg.ids.Nodup
  orderly : Orderly screen Opens User.terms (promised m₀ log) w.oled
  fits : ∀ u ∈ log.flatMap StationEvent.updates, Fits u.text

/-- So few nodes that their number fits in its line; and nobody goes on while the other is
inside a section, from `ssd1306_goto_xy` to the last glyph or zero after it. -/
def GivesWay (w : Station) : StationAction → Prop
  | .parent _ _ => w.gw.nodeCount < 1000000
  | .minute _ => True
  | .display u => Yields Opens w.oled u

/-- Nobody is inside a section, and the one who prints the line has returned. -/
structure Station.Settled (w : Station) (line : LineT) : Prop where
  rest : ∀ u, (w.oled.program u).AtRest Opens
  done : w.oled.program line.user = .ret ()

section Runs

variable {libc : Libc} {m₀ : Ram} {w w' : Station} {log : List StationEvent}

theorem eq_ret_of_returned {p : Oled Unit} (h : returned p = true) : p = .ret () := by
  cases p with
  | ret a => rfl
  | _ => cases h

/-- The rows of an event are those of its user. -/
theorem rows_updates (e : StationEvent) : ∀ v ∈ e.updates, e.user.rows v.row := by
  cases e with
  | stored node => exact fun v hv => row_nodeUpdates hv
  | minute r => exact fun v hv => row_infoUpdates hv

theorem rows_disjoint {u v : User} (h : u ≠ v) {page : Nat} (hu : u.rows page) :
    ¬ v.rows page := by
  intro hv
  cases u <;> cases v
  · exact h rfl
  · exact absurd hu (Nat.not_le.mpr hv)
  · exact absurd hv (Nat.not_le.mpr hu)
  · exact h rfl

theorem Holds.congr {rows : Nat → Prop} {m m' : Ram} {s : Screen}
    (h : ∀ page, rows page → m page = m' page) (hm : Holds rows m s) : Holds rows m' s :=
  ⟨hm.idle, fun page hpage => (hm.ram page hpage).trans (h page hpage)⟩

/-- What one user says is nothing to the other. -/
theorem promised_other {e : StationEvent} {u : User} (h : u ≠ e.user) :
    promised m₀ (log ++ [e]) u = promised m₀ log u := by
  have hsame : ∀ page, u.rows page →
      paintAll m₀ ((log ++ [e]).flatMap StationEvent.updates) page
        = paintAll m₀ (log.flatMap StationEvent.updates) page := by
    intro page hpage
    rw [List.flatMap_append, paintAll_append, List.flatMap_singleton]
    refine paintAll_other (fun v hv heq => rows_disjoint h hpage ?_) _
    rw [← heq]
    exact rows_updates e v hv
  funext _ s
  exact propext ⟨Holds.congr hsame, Holds.congr (fun page hpage => (hsame page hpage).symm)⟩

theorem Holds.rowsAt {rows : Nat → Prop} {m : Ram} {s : Screen} (h : Holds rows m s) :
    RowsAt rows m s s :=
  ⟨⟨fun hidle => hidle, fun _ _ => rfl⟩, h⟩

/-- The user of an event begins to print it. -/
theorem UpToDate.begins (h : UpToDate m₀ w log) {e : StationEvent} {p : Oled Unit}
    (hret : w.oled.program e.user = .ret ()) (hp : p.AtRest Opens)
    (hsec : ∀ m s, Holds e.user.rows m s → p.Sections screen Opens e.user.terms
      (Ended e.user.terms (fun _ => Holds e.user.rows (paintAll m e.updates))) s s)
    (hfits : ∀ u ∈ e.updates, Fits u.text) {gw : Gateway} (hnd : gw.reg.ids.Nodup) :
    UpToDate m₀ ⟨gw, w.oled.move e.user p w.oled.state⟩ (log ++ [e]) := by
  refine ⟨hnd, h.orderly.begin terms_compatible hret hp (fun s hs => ?_)
    (fun j hj => promised_other hj), fun u hu => ?_⟩
  · have hnext := hsec _ s hs
    rw [← paintAll_append, ← List.flatMap_singleton StationEvent.updates e,
      ← List.flatMap_append] at hnext
    exact hnext
  · rw [List.flatMap_append, List.flatMap_singleton] at hu
    exact (List.mem_append.mp hu).elim (h.fits u) (hfits u)

/-- The display is left alone. -/
theorem UpToDate.quiet (h : UpToDate m₀ w log) {gw : Gateway} (hnd : gw.reg.ids.Nodup) :
    UpToDate m₀ ⟨gw, w.oled⟩ (log ++ []) := by
  rw [List.append_nil]
  exact ⟨hnd, h.orderly, h.fits⟩

theorem events_parent {s' : Gateway} {a : Action} (opens : Bool)
    (hput : (w.gw.put s').toList = (w.gw.events libc a).filterMap NodeEvent.shown) :
    w.events libc (.parent a opens)
      = if opens then (w.gw.put s').toList.map StationEvent.stored else [] := by
  show (if opens then ((w.gw.events libc a).filterMap NodeEvent.shown).map _ else []) = _
  rw [hput]

/-- Only a step of the parent puts something on the screen. -/
theorem put_main {s s' : Gateway} {a : Action} {node : NodeInfo} (hnd : s.reg.ids.Nodup)
    (hs : step libc s a = some s') (hput : s.put s' = some node) : a.isMain = true := by
  cases a with
  | main io => rfl
  | _ =>
      have hnone := put_eq hnd hs
      rw [hput] at hnone
      exact absurd hnone (by simp [Gateway.events])

/-- What a step of the station does with the parent. -/
theorem stationStep_parent {a : Action} {opens : Bool}
    (hs : stationStep libc w (.parent a opens) = some w') :
    (a.isMain = true → w.oled.program .ioctl = .ret ()) ∧ step libc w.gw a = some w'.gw
      ∧ w' = match w.gw.put w'.gw with
        | none => ⟨w'.gw, w.oled⟩
        | some node => ⟨w'.gw, w.oled.move .ioctl (putDataToScreen opens node) w.oled.state⟩ := by
  obtain ⟨hfree, hs⟩ := Option.ite_none_left_eq_some.mp hs
  obtain ⟨gw, hgw, hs⟩ := Option.bind_eq_some_iff.mp hs
  refine ⟨fun hmain => eq_ret_of_returned ?_, ?_⟩
  · simpa [hmain] using hfree
  cases hnode : w.gw.put gw with
  | none =>
      simp only [hnode] at hs
      obtain rfl := Option.some.inj hs
      exact ⟨hgw, by simp only [hnode]⟩
  | some node =>
      simp only [hnode] at hs
      obtain rfl := Option.some.inj hs
      exact ⟨hgw, by simp only [hnode]⟩

theorem upToDate_step {a : StationAction} (h : UpToDate m₀ w log) (hok : GivesWay w a)
    (hs : stationStep libc w a = some w') : UpToDate m₀ w' (log ++ w.events libc a) := by
  cases a with
  | display u =>
      obtain ⟨oled, holed, rfl⟩ := Option.map_eq_some_iff.mp hs
      show UpToDate m₀ _ (log ++ [])
      rw [List.append_nil]
      exact ⟨h.nodup, h.orderly.step terms_compatible hok holed, h.fits⟩
  | minute r =>
      obtain ⟨hfree, hs⟩ := Option.ite_none_right_eq_some.mp hs
      obtain rfl := Option.some.inj hs
      exact h.begins (e := .minute r) (eq_ret_of_returned hfree)
        (twoUsers_atRest ⟨0, 0, 0, 0⟩ r w.oled.state .work)
        (fun m s hm => sections_getinfo (fun _ hp => hp) hm.rowsAt (fun _ _ h' => h'.ended))
        (fun u hu => (infoUpdates_spec u hu).1) h.nodup
  | parent a opens =>
      obtain ⟨hfree, hgw, hw'⟩ := stationStep_parent hs
      have hnd := Gateway.step_nodup h.nodup hgw
      have hev := events_parent opens (put_eq h.nodup hgw)
      cases hnode : w.gw.put w'.gw with
      | none =>
          simp only [hnode] at hw' hev
          rw [hev, hw']
          cases opens <;> exact h.quiet hnd
      | some node =>
          simp only [hnode] at hw' hev
          have hret := hfree (put_main h.nodup hgw hnode)
          rw [hev, hw']
          cases opens with
          | false =>
              -- nothing is sent
              have hsame : w.oled.move .ioctl (.ret ()) w.oled.state = w.oled := by
                unfold Crew.move
                rw [← hret, Function.update_eq_self]
              show UpToDate m₀ ⟨w'.gw, w.oled.move .ioctl (.ret ()) w.oled.state⟩ (log ++ [])
              rw [hsame]
              exact h.quiet hnd
          | true =>
              have hfits : (managerText node.nodeCount).length ≤ 20 := by
                rw [put_nodeCount h.nodup hgw hnode]
                exact length_managerText hok
              refine h.begins (e := .stored node) hret ?_
                (fun m s hm => sections_showLastestNodeInfo (fun _ hp => hp) hfits hm.rowsAt
                  (fun _ _ h' _ => h'.ended))
                (fits_nodeUpdates hfits) hnd
              exact (rfl : Opens _)

/-- What the updates of an event say of a line is what the event says. -/
theorem latest_updates (line : LineT) (e : StationEvent) :
    latest (Update.said line) e.updates = e.text line := by
  cases e with
  | stored node => cases line <;> rfl
  | minute r =>
      obtain ⟨wlan0, seconds, cpuTemperature, loraStatus⟩ := r
      cases line <;> cases wlan0 <;> cases cpuTemperature <;> cases loraStatus <;> rfl

theorem rows_line (line : LineT) : line.user.rows line.row.toNat := by
  cases line with
  | lora | wifi | wallTime | cpuTemp =>
      show _ < 4
      decide
  | numberOfNode | lastIdHandled | brightness | mode =>
      show 4 ≤ _
      decide

/-- **The line of a user who has printed what was said.** -/
theorem UpToDate.line (h : UpToDate m₀ w log) (hblank : BlankBehind 16 (m₀ 2)) {line : LineT}
    (hsettled : w.Settled line) :
    (∀ text, latest (StationEvent.text line) log = some text →
        LineShows w.oled.state.panel.ram line text)
      ∧ (latest (StationEvent.text line) log = none →
          w.oled.state.panel.ram line.row.toNat = m₀ line.row.toNat) := by
  have hsaid : latest (Update.said line) (log.flatMap StationEvent.updates)
      = latest (StationEvent.text line) log := by
    rw [latest_flatMap]
    exact congrArg (fun f => latest f log) (funext (latest_updates line))
  have hcovers : ∀ u ∈ log.flatMap StationEvent.updates, u.Covers := by
    intro u hu
    obtain ⟨e, -, hu⟩ := List.mem_flatMap.mp hu
    exact covers_updates e u hu
  have hholds :
      Holds line.user.rows (paintAll m₀ (log.flatMap StationEvent.updates)) w.oled.state :=
    h.orderly.kept terms_compatible hsettled.rest hsettled.done
  unfold LineShows
  rw [hholds.ram _ (rows_line line), ← hsaid]
  by_cases hline : line = .wallTime
  · subst hline
    refine (paintAll_latest (BlankBehind 16) hblank _ (fun u hu hu2 m hm => ?_)).2
    rcases hcovers u hu with ⟨-, hne⟩ | ⟨hc, -, hlen⟩
    · exact absurd hu2 hne
    · have hover := shows_over (m := m) (h.fits u hu) hc (by rw [hlen, hu2]; exact hm)
      rw [hlen, hu2] at hover
      exact hover
  · refine (paintAll_latest (fun _ => True) trivial _ (fun u hu hu2 m _ => ⟨trivial, ?_⟩)).2
    rcases hcovers u hu with ⟨hc, -⟩ | ⟨-, htime, -⟩
    · rw [← hu2]
      exact shows_cleared m (h.fits u hu) hc
    · exact absurd (hu2.symm.trans htime) hline

theorem eq_unused {w : Crew User OledOp OledOp.Resp OutsideFont Unit Screen}
    (h : ∀ u, w.program u = .ret ()) : w = unused w.state := by
  obtain ⟨program, state⟩ := w
  obtain rfl : program = fun _ => .ret () := funext h
  rfl

/-- Both users come to their end, when they let each other. -/
theorem exists_unused (h : UpToDate m₀ w log) :
    ∃ s', Reach (Crew.step screen) (Yields Opens) w.oled (unused s') := by
  obtain ⟨r, s₀, hby⟩ := h.orderly
  obtain ⟨⟨⟩, s₁, hfirst⟩ := hby.finish
  have horderly := orderly_of_reach terms_compatible h.orderly hfirst
  have hrest : ∀ j, ((w.oled.move r (.ret ()) s₁).program j).AtRest Opens := by
    intro j
    by_cases hj : j = r
    · rw [hj, Crew.move_self]
      trivial
    · rw [Crew.move_other _ _ _ hj]
      exact (hby.2 j hj).1
  obtain ⟨other, hother⟩ : ∃ other, other ≠ r ∧ ∀ j, j = r ∨ j = other := by
    cases r with
    | ioctl => exact ⟨.work, by simp, fun j => by cases j <;> simp⟩
    | work => exact ⟨.ioctl, by simp, fun j => by cases j <;> simp⟩
  obtain ⟨⟨⟩, s₂, hsecond⟩ := horderly.finish terms_compatible hrest other
  have hend := eq_unused (w := (w.oled.move r (.ret ()) s₁).move other (.ret ()) s₂) (fun j => by
    rcases hother.2 j with rfl | rfl
    · rw [Crew.move_other _ _ _ hother.1.symm, Crew.move_self]
    · rw [Crew.move_self])
  rw [hend] at hsecond
  exact ⟨s₂, hfirst.trans hsecond⟩

/-- What the users do is nothing to the parent, and says nothing new. -/
theorem reach_display {oled : Crew User OledOp OledOp.Resp OutsideFont Unit Screen}
    (h : Reach (Crew.step screen) (Yields Opens) w.oled oled) (log : List StationEvent) :
    Reach (recordStep (stationStep libc) (Station.events libc)) (fun w => GivesWay w.state)
      ⟨w, log⟩ ⟨⟨w.gw, oled⟩, log⟩ := by
  induction h with
  | refl => exact Reach.refl _
  | @tail c c' _ hlast ih =>
      obtain ⟨u, hok, hs⟩ := hlast
      have hstep : stationStep libc ⟨w.gw, c⟩ (.display u) = some ⟨w.gw, c'⟩ := by
        show (c.step screen u).map _ = _
        rw [hs]
        rfl
      refine ih.tail (a := .display u) hok ((recordStep_of_step hstep log).trans ?_)
      rw [show Station.events libc ⟨w.gw, c⟩ (.display u) = [] from rfl, List.append_nil]

theorem settled_unused (gw : Gateway) (s : Screen) (line : LineT) :
    Station.Settled ⟨gw, unused s⟩ line := ⟨fun _ => trivial, rfl⟩

/-- Between two commands the chip waits for none. -/
theorem UpToDate.idle (h : UpToDate m₀ w log) {line : LineT} (hsettled : w.Settled line) :
    w.oled.state.Idle :=
  (h.orderly.kept terms_compatible hsettled.rest hsettled.done).idle

/-- A minute that begins, and both users up to their end. -/
theorem UpToDate.minute_printed (h : UpToDate m₀ w log)
    (hret : w.oled.program .work = .ret ()) (r : Readings) :
    ∃ s', UpToDate m₀ ⟨w.gw, unused s'⟩ (log ++ [.minute r])
      ∧ Reach (recordStep (stationStep libc) (Station.events libc)) (fun w => GivesWay w.state)
        ⟨w, log⟩ ⟨⟨w.gw, unused s'⟩, log ++ [.minute r]⟩ := by
  have hbegun : stationStep libc w (.minute r)
      = some { w with oled := w.oled.move .work (getinfo r) w.oled.state } := by
    refine if_pos ?_
    rw [hret]
    rfl
  have hgives : GivesWay w (.minute r) := trivial
  have hup := upToDate_step h hgives hbegun
  obtain ⟨s', hprinted⟩ := exists_unused hup
  refine ⟨s', ⟨h.nodup, orderly_of_reach terms_compatible hup.orderly hprinted, hup.fits⟩, ?_⟩
  refine Reach.trans (Reach.tail (Reach.refl _) ?_ (recordStep_of_step hbegun log))
    (reach_display hprinted _)
  exact hgives

/-- What the parent can do, it can do when nobody prints. -/
theorem stationStep_unused {gw gw' : Gateway} {s : Screen} {a : Action}
    (hs : step libc gw a = some gw') :
    ∃ w', stationStep libc ⟨gw, unused s⟩ (.parent a true) = some w' ∧ w'.gw = gw' := by
  show ∃ w', (if a.isMain && !true then none else (step libc gw a).bind _) = some w' ∧ _
  rw [if_neg (by simp), hs, Option.bind_some]
  split
  · exact ⟨_, rfl, rfl⟩
  · exact ⟨_, rfl, rfl⟩

/-- **The display never stops the parent.** -/
theorem UpToDate.follows {w : Recorded Station StationEvent} (h : UpToDate m₀ w.state w.log)
    {s' : Gateway}
    (hrun : Reach (step libc) (fun s _ => s.nodeCount < 1000000) w.state.gw s') :
    ∃ oled log, Reach (recordStep (stationStep libc) (Station.events libc))
        (fun w => GivesWay w.state) w ⟨⟨s', unused oled⟩, log⟩
      ∧ UpToDate m₀ ⟨s', unused oled⟩ log := by
  have hkeeps : ∀ {v : Recorded Station StationEvent}, UpToDate m₀ v.state v.log →
      ∃ oled, Reach (recordStep (stationStep libc) (Station.events libc))
          (fun w => GivesWay w.state) v ⟨⟨v.state.gw, unused oled⟩, v.log⟩
        ∧ UpToDate m₀ ⟨v.state.gw, unused oled⟩ v.log := by
    intro v hv
    obtain ⟨oled, hreach⟩ := exists_unused hv
    exact ⟨oled, reach_display hreach v.log,
      hv.nodup, orderly_of_reach terms_compatible hv.orderly hreach, hv.fits⟩
  induction hrun with
  | refl =>
      obtain ⟨oled, hreach, hup⟩ := hkeeps h
      exact ⟨oled, w.log, hreach, hup⟩
  | tail _ hlast ih =>
      obtain ⟨oled, log, hreach, hup⟩ := ih
      obtain ⟨a, hfew, hs⟩ := hlast
      obtain ⟨w₁, hstep, rfl⟩ := stationStep_unused (s := oled) hs
      have hok : GivesWay ⟨_, unused oled⟩ (.parent a true) := hfew
      have hup₁ := upToDate_step hup hok hstep
      obtain ⟨oled', hreach', hup'⟩ := hkeeps (v := ⟨w₁, _⟩) hup₁
      exact ⟨oled', _, (hreach.tail hok (recordStep_of_step hstep log)).trans hreach', hup'⟩

theorem upToDate_start {gw : Gateway} {s : Screen} (hnd : gw.reg.ids.Nodup) (hidle : s.Idle) :
    UpToDate s.panel.ram ⟨gw, unused s⟩ [] := by
  refine ⟨hnd, orderly_start .ioctl (fun u => ⟨trivial, ?_⟩),
    fun _ hu => absurd hu List.not_mem_nil⟩
  exact (show RowsAt u.rows s.panel.ram s s from rowsAt_start _ hidle).ended

end Runs

/-- **THE SCREEN FOLLOWS THE GATEWAY.**  From any state of the display in which no command
is half sent and the line of the time is blank behind its sixteen characters, and as long
as the number of nodes has six digits: in every run of the parent, of whatever happens
around it and of the work of the minutes, in which nobody steps into the other's row, a
line that nobody is printing shows what was said of it last, the last response that was
stored or the last minute that could read something, or it is as it was.  And what the
parent can do alone, it can do with the display, too. -/
theorem screen_follows_gateway {libc : Libc} {gw : Gateway} {s : Screen} (hnd : gw.reg.ids.Nodup)
    (hidle : s.Idle) (hblank : BlankBehind 16 (s.panel.ram 2))
    {w : Recorded Station StationEvent}
    (h : Reach (recordStep (stationStep libc) (Station.events libc)) (fun w => GivesWay w.state)
      ⟨⟨gw, unused s⟩, []⟩ w) :
    (∀ line : LineT, w.state.Settled line →
        (∀ text, latest (StationEvent.text line) w.log = some text →
            LineShows w.state.oled.state.panel.ram line text)
          ∧ (latest (StationEvent.text line) w.log = none →
              w.state.oled.state.panel.ram line.row.toNat = s.panel.ram line.row.toNat))
      ∧ ∀ s', Reach (step libc) (fun s _ => s.nodeCount < 1000000) w.state.gw s' →
        ∃ oled log, Reach (recordStep (stationStep libc) (Station.events libc))
          (fun w => GivesWay w.state) w ⟨⟨s', unused oled⟩, log⟩ := by
  have hinv : UpToDate s.panel.ram w.state w.log :=
    recorded_invariant (upToDate_start hnd hidle)
      (fun _ _ _ _ hup hok hs => upToDate_step hup hok hs) h
  refine ⟨fun line hsettled => hinv.line hblank hsettled, fun s' hrun => ?_⟩
  obtain ⟨oled, log, hreach, -⟩ := hinv.follows hrun
  exact ⟨oled, log, hreach⟩

/-- Node 1 has answered, and the parent is about to handle it. -/
def answeredStation : Station := ⟨answerRead, unused blankScreen⟩

/-- The answer is stored, and a minute is over before it is on the screen. -/
theorem screen_follows_gateway_answered : ∃ w,
    Reach (recordStep (stationStep sampleLibc) (Station.events sampleLibc))
        (fun w => GivesWay w.state) ⟨answeredStation, []⟩ w
      ∧ w.log = [.stored ⟨1, 0, 1, 2⟩, .minute allReadings]
      ∧ LineShows w.state.oled.state.panel.ram .lastIdHandled (lastIdText 1)
      ∧ LineShows w.state.oled.state.panel.ram .wallTime (wallTimeText 0) := by
  have hnd : answeredStation.gw.reg.ids.Nodup := by decide
  have hidle : blankScreen.Idle := rfl
  -- the answer
  obtain ⟨gw, hgw⟩ : ∃ gw, step sampleLibc answerRead (.main sampleIo) = some gw := by
    have hsome : (step sampleLibc answerRead (.main sampleIo)).isSome = true := by decide +kernel
    exact Option.isSome_iff_exists.mp hsome
  obtain ⟨w₁, hw₁, -⟩ := stationStep_unused (s := blankScreen) hgw
  have hfew : GivesWay answeredStation (.parent (.main sampleIo) true) :=
    show answerRead.nodeCount < 1000000 by decide
  have hevents : answeredStation.events sampleLibc (.parent (.main sampleIo) true)
      = [.stored ⟨1, 0, 1, 2⟩] := by
    show (((answerRead.events sampleLibc (.main sampleIo)).filterMap NodeEvent.shown).map _) = _
    rw [show answerRead.events sampleLibc (.main sampleIo)
      = [.answered 1 ⟨1, 2, 0x40400000, 0x40800000, 7⟩ 1] by decide +kernel]
    rfl
  have hup₁ : UpToDate blankScreen.panel.ram w₁ [.stored ⟨1, 0, 1, 2⟩] := by
    rw [← hevents]
    exact upToDate_step (upToDate_start hnd hidle) hfew hw₁
  -- the minute, and then both print
  have hwork : w₁.oled.program .work = .ret () := by
    rw [(stationStep_parent hw₁).2.2]
    split
    · rfl
    · exact Crew.move_other _ _ _ (by decide)
  obtain ⟨s, -, hprinted⟩ := hup₁.minute_printed hwork allReadings
  have hfirst : recordStep (stationStep sampleLibc) (Station.events sampleLibc)
      ⟨answeredStation, []⟩ (.parent (.main sampleIo) true)
      = some ⟨w₁, [.stored ⟨1, 0, 1, 2⟩]⟩ := by
    refine (recordStep_of_step hw₁ []).trans ?_
    rw [show Station.events sampleLibc ⟨answerRead, unused blankScreen⟩ _ = _ from hevents]
    rfl
  have hreach : Reach (recordStep (stationStep sampleLibc) (Station.events sampleLibc))
      (fun w => GivesWay w.state) ⟨answeredStation, []⟩
      ⟨⟨w₁.gw, unused s⟩, [.stored ⟨1, 0, 1, 2⟩, .minute allReadings]⟩ := by
    refine Reach.trans (Reach.tail (Reach.refl _) ?_ hfirst) hprinted
    exact hfew
  obtain ⟨hlines, -⟩ := screen_follows_gateway hnd hidle (fun _ _ _ => rfl) hreach
  exact ⟨_, hreach, rfl, (hlines .lastIdHandled (settled_unused _ _ _)).1 _ rfl,
    (hlines .wallTime (settled_unused _ _ _)).1 _ rfl⟩

end LoRaGateway
