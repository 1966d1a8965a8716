/-
  LoRaGateway.Display.Cursor
  ──────────────────────────
  **THE TEXT CURSOR AND THE POINTER OF THE CHIP**, over any texts in either colour.

  The screen has eight rows of twenty characters.  `current_X` may be 20, behind the
  last character of a row: the line wraps only when the next character comes.  The
  characters of a text go to the cells in reading order, from cell `20 * y + x` on.

    • `AtCell.ready`, `AtCell.sent` — the cursor and the pointer, character after character,
    • `exec_textCalls` — every glyph of a run goes to its cell,
    • `exec_rowUpdate` — an update of a row changes columns 0..119 of that row only,
    • `cursor_and_rows` — both, for all runs.
-/
import LoRaGateway.Display.Clear

namespace LoRaGateway

open LoRaGateway.Lib
open LoRaGateway.Lib.Program (exec exec_bind)

/-! ## §1. Cells. -/

/-- Row and column of the cursor. -/
def Screen.cell (s : Screen) : Nat × Nat := (s.currentY.toNat, s.currentX.toNat)

/-- The next character goes to cell `n`. -/
structure AtCell (s : Screen) (n : Nat) : Prop where
  aligned : Aligned s
  inPage : s.currentY.toNat < 8
  cell : scanCell 20 8 (20 * s.currentY.toNat + s.currentX.toNat) = scanCell 20 8 n

section Cells

variable {s : Screen} {n : Nat}

theorem atCell_placed (s : Screen) {x y : UInt8} (hx : x.toNat ≤ 20) (hy : y.toNat ≤ 7) :
    AtCell (s.placed x y) (20 * y.toNat + x.toNat) :=
  ⟨aligned_placed s hx hy, Nat.lt_succ_of_le hy, rfl⟩

/-- **The line wrap**: the cursor is at the cell itself then. -/
theorem AtCell.ready (h : AtCell s n) :
    Aligned s.ready ∧ s.ready.currentX.toNat < 20 ∧ s.ready.cell = scanCell 20 8 n := by
  have hrow := h.inPage
  have hcol := h.aligned.inRow
  rw [← h.cell]
  unfold Screen.ready
  by_cases hx : s.currentX = maxX
  · rw [if_pos hx]
    have hx20 : s.currentX.toNat = 20 := by
      rw [hx]
      rfl
    -- the next row, or the first one
    have hnext : (if s.currentY = maxY then (0 : UInt8) else s.currentY + 1).toNat
        = (s.currentY.toNat + 1) % 8 := by
      by_cases hy : s.currentY = maxY
      · rw [if_pos hy, hy]
        rfl
      · have hy7 : s.currentY.toNat ≠ 7 := fun heq => hy (UInt8.toNat_inj.mp heq)
        rw [if_neg hy, UInt8.toNat_add]
        show (s.currentY.toNat + 1) % 256 = (s.currentY.toNat + 1) % 8
        omega
    refine ⟨aligned_placed s (by decide) ?_, by show (0 : Nat) < 20; omega, ?_⟩
    · rw [hnext]
      omega
    · show ((if s.currentY = maxY then (0 : UInt8) else s.currentY + 1).toNat, 0) = _
      unfold scanCell
      rw [hnext, hx20]
      congr 1
      · omega
      · omega
  · rw [if_neg hx]
    have hlt : s.currentX.toNat < 20 := by
      have hx20 : s.currentX.toNat ≠ 20 := fun heq => hx (UInt8.toNat_inj.mp heq)
      omega
    exact ⟨h.aligned, hlt, (scanCell_of_lt hrow hlt).symm⟩

/-- A glyph fills its six columns. -/
theorem AtCell.sent_eq (h : AtCell s n) {columns : List UInt8} (hlen : columns.length = fontX) :
    s.sent columns
      = { s.ready with
          panel := s.ready.panel.fill columns, currentX := s.ready.currentX + 1 } := by
  obtain ⟨haligned, hlt, -⟩ := h.ready
  have hroom : s.ready.panel.col + columns.length < oledWidth := by
    rw [haligned.col, hlen]
    show 6 * s.ready.currentX.toNat + 6 < 128
    omega
  have hfill : s.ready.panel.transfer .data columns = s.ready.panel.fill columns :=
    Panel.foldl_data haligned.colEnd hroom
  unfold Screen.sent
  rw [hfill]

/-- **One character further.** -/
theorem AtCell.sent (h : AtCell s n) {columns : List UInt8} (hlen : columns.length = fontX) :
    AtCell (s.sent columns) (n + 1) := by
  obtain ⟨haligned, hlt, hcell⟩ := h.ready
  have hx : (s.ready.currentX + 1).toNat = s.ready.currentX.toNat + 1 := by
    rw [UInt8.toNat_add]
    show (s.ready.currentX.toNat + 1) % 256 = s.ready.currentX.toNat + 1
    omega
  have hrow : s.ready.currentY.toNat < 8 := by
    have hy := congrArg Prod.fst hcell
    show (s.ready.cell).1 < 8
    rw [hy]
    exact Nat.mod_lt _ (by omega)
  rw [h.sent_eq hlen]
  refine ⟨⟨haligned.idle, haligned.colEnd, ?_, haligned.page, ?_⟩, hrow, ?_⟩
  · show s.ready.panel.col + columns.length = fontX * (s.ready.currentX + 1).toNat
    rw [hx, haligned.col, hlen, Nat.mul_succ]
  · show (s.ready.currentX + 1).toNat ≤ 20
    omega
  · show scanCell 20 8 (20 * s.ready.currentY.toNat + (s.ready.currentX + 1).toNat) = _
    have hnumber : scanCell 20 8 (20 * s.ready.currentY.toNat + s.ready.currentX.toNat)
        = scanCell 20 8 n := (scanCell_of_lt hrow hlt).trans hcell
    rw [hx, ← Nat.add_assoc, ← scanNext_scanCell (by omega) (by omega), hnumber,
      scanNext_scanCell (by omega) (by omega)]

end Cells

/-! ## §2. Texts. -/

/-- The pointer is where the cursor says, and the six columns of the glyph are in one
page, before column 120. -/
structure WellPlaced (w : Screen × List UInt8) : Prop where
  col : w.1.panel.col = 6 * w.1.currentX.toNat
  page : w.1.panel.page = w.1.currentY.toNat
  inRow : w.1.panel.col + 6 ≤ 120
  inMemory : w.1.panel.page < 8
  size : w.2.length = 6
  drawn : ∀ page col, (w.1.panel.transfer .data w.2).ram page col
    = if page = w.1.panel.page ∧ w.1.panel.col ≤ col ∧ col < w.1.panel.col + 6 then
        w.2.getD (col - w.1.panel.col) 0
      else w.1.panel.ram page col

/-- The columns of a character. -/
def charColumns (color : Color) (b : UInt8) : List UInt8 := inked color ((glyph b).getD [])

/-- The cells of a text that begins in cell `n`, with the columns that go to each. -/
def cellsOfText (color : Color) : Nat → List UInt8 → List ((Nat × Nat) × List UInt8)
  | _, [] => []
  | n, b :: text => (scanCell 20 8 n, charColumns color b) :: cellsOfText color (n + 1) text

section Text

variable {s : Screen} {n : Nat} {color : Color} {b : UInt8} {text : List UInt8}

theorem length_charColumns (color : Color) (hb : Printable b) :
    (charColumns color b).length = fontX := by
  unfold charColumns inked
  split
  · exact length_glyph_getD hb
  · rw [List.length_map]
    exact length_glyph_getD hb

theorem wellPlaced_ready (h : AtCell s n) {columns : List UInt8} (hlen : columns.length = fontX) :
    WellPlaced (s.ready, columns) := by
  obtain ⟨haligned, hlt, hcell⟩ := h.ready
  have hrow : s.ready.currentY.toNat < 8 := by
    show (s.ready.cell).1 < 8
    rw [hcell]
    exact Nat.mod_lt _ (by omega)
  have hcol : s.ready.panel.col = 6 * s.ready.currentX.toNat := haligned.col
  refine ⟨hcol, haligned.page, ?_, ?_, hlen, fun page col => ?_⟩
  · show s.ready.panel.col + 6 ≤ 120
    omega
  · show s.ready.panel.page < 8
    rw [haligned.page]
    exact hrow
  · have hroom : s.ready.panel.col + columns.length < oledWidth := by
      rw [hlen, hcol]
      show 6 * s.ready.currentX.toNat + 6 < 128
      omega
    show (columns.foldl Panel.data s.ready.panel).ram page col = _
    rw [Panel.foldl_data haligned.colEnd hroom]
    show (if page = s.ready.panel.page ∧ s.ready.panel.col ≤ col
      ∧ col < s.ready.panel.col + columns.length then _ else _) = _
    rw [hlen]
    rfl

theorem exec_sendChar_printable (color : Color) (hs : s.Idle) (hb : Printable b) :
    (ssd1306SendChar b color).exec screen s = some ((), s.sent (charColumns color b))
      ∧ glyphWrites (ssd1306SendChar b color) s = [(s.ready, charColumns color b)] := by
  obtain ⟨g, hg⟩ := Option.isSome_iff_exists.mp (isSome_glyph_iff.mpr hb)
  have hcolumns : charColumns color b = inked color g := by
    unfold charColumns
    rw [hg, Option.getD_some]
  rw [hcolumns]
  exact ⟨exec_sendChar hs hg, glyphWrites_sendChar hs hg⟩

/-- What is written of a text is its glyphs, wherever the cursor is. -/
theorem columns_glyphWrites (hs : s.Idle) (hp : ∀ b ∈ text, Printable b) :
    (glyphWrites (ssd1306SendString text color) s).map (·.2) = text.map (charColumns color) := by
  induction text generalizing s with
  | nil => rfl
  | cons b text ih =>
      obtain ⟨hexec, hwrites⟩ :=
        exec_sendChar_printable color hs (hp b List.mem_cons_self)
      have hrest := ih (hs.sent (charColumns color b))
        (fun c hc => hp c (List.mem_cons_of_mem b hc))
      show (glyphWrites (ssd1306SendChar b color >>= fun _ => ssd1306SendString text color) s).map
        (·.2) = _
      rw [glyphWrites_bind hexec, hwrites, List.map_append, hrest]
      rfl

/-- **A text goes to its cells**, glyph after glyph. -/
theorem glyphWrites_sendString (color : Color) (h : AtCell s n) (hp : ∀ b ∈ text, Printable b) :
    AtCell (s.sentString text color) (n + text.length)
      ∧ (∀ w ∈ glyphWrites (ssd1306SendString text color) s, WellPlaced w)
      ∧ (glyphWrites (ssd1306SendString text color) s).map (fun w => (w.1.cell, w.2))
          = cellsOfText color n text := by
  induction text generalizing s n with
  | nil => exact ⟨h, fun w hw => absurd hw List.not_mem_nil, rfl⟩
  | cons b text ih =>
      have hb := hp b List.mem_cons_self
      have hlen := length_charColumns color hb
      obtain ⟨hexec, hwrites⟩ := exec_sendChar_printable color h.aligned.idle hb
      obtain ⟨hat, hplaced, hcells⟩ :=
        ih (h.sent hlen) (fun c hc => hp c (List.mem_cons_of_mem b hc))
      have hall : glyphWrites (ssd1306SendString (b :: text) color) s
          = (s.ready, charColumns color b)
            :: glyphWrites (ssd1306SendString text color) (s.sent (charColumns color b)) := by
        show glyphWrites (ssd1306SendChar b color >>= fun _ => ssd1306SendString text color) s = _
        rw [glyphWrites_bind hexec, hwrites]
        rfl
      refine ⟨?_, ?_, ?_⟩
      · rw [List.length_cons, Nat.add_comm text.length, ← Nat.add_assoc]
        exact hat
      · rw [hall]
        exact List.forall_mem_cons.mpr ⟨wellPlaced_ready h hlen, hplaced⟩
      · rw [hall, List.map_cons, hcells, h.ready.2.2]
        rfl

end Text

/-- A call of `ssd1306_goto_xy` on the screen, or of `ssd1306_send_string` with
printable characters. -/
inductive TextCall where
  | gotoXy (x y : UInt8) (hx : x.toNat ≤ 20) (hy : y.toNat ≤ 7)
  | sendString (text : List UInt8) (color : Color) (hp : ∀ b ∈ text, Printable b)

/-- The call itself. -/
def TextCall.program : TextCall → Oled Unit
  | .gotoXy x y _ _ => ssd1306GotoXy x y
  | .sendString text color _ => ssd1306SendString text color

/-- One call after the other. -/
def textCalls : List TextCall → Oled Unit
  | [] => return ()
  | c :: cs => do
      c.program
      textCalls cs

/-- The cells of the glyphs, from cell `n` on. -/
def cellsOfCalls : Nat → List TextCall → List ((Nat × Nat) × List UInt8)
  | _, [] => []
  | _, .gotoXy x y _ _ :: cs => cellsOfCalls (20 * y.toNat + x.toNat) cs
  | n, .sendString text color _ :: cs =>
      cellsOfText color n text ++ cellsOfCalls (n + text.length) cs

/-- **Any calls**: every glyph is well placed, and goes to its cell. -/
theorem exec_textCalls (cs : List TextCall) : ∀ {s : Screen} {n : Nat}, AtCell s n →
    ∃ s', (textCalls cs).exec screen s = some ((), s') ∧ s'.Idle
      ∧ (∀ w ∈ glyphWrites (textCalls cs) s, WellPlaced w)
      ∧ (glyphWrites (textCalls cs) s).map (fun w => (w.1.cell, w.2)) = cellsOfCalls n cs := by
  induction cs with
  | nil =>
      intro s n h
      exact ⟨s, rfl, h.aligned.idle, fun w hw => absurd hw List.not_mem_nil, rfl⟩
  | cons c cs ih =>
      intro s n h
      cases c with
      | gotoXy x y hx hy =>
          have hexec := exec_gotoXy h.aligned.idle x y
          obtain ⟨s', hrest, hidle, hplaced, hcells⟩ := ih (atCell_placed s hx hy)
          have hall : glyphWrites (textCalls (.gotoXy x y hx hy :: cs)) s
              = glyphWrites (textCalls cs) (s.placed x y) := by
            show glyphWrites (ssd1306GotoXy x y >>= fun _ => textCalls cs) s = _
            rw [glyphWrites_bind hexec, glyphWrites_gotoXy, List.nil_append]
          refine ⟨s', (exec_bind hexec).trans hrest, hidle, ?_, ?_⟩
          · rw [hall]
            exact hplaced
          · rw [hall]
            exact hcells
      | sendString text color hp =>
          have hexec := exec_sendString color h.aligned.idle hp
          obtain ⟨hat, hplaced, hcells⟩ := glyphWrites_sendString color h hp
          obtain ⟨s', hrest, hidle, hplaced', hcells'⟩ := ih hat
          have hall : glyphWrites (textCalls (.sendString text color hp :: cs)) s
              = glyphWrites (ssd1306SendString text color) s
                ++ glyphWrites (textCalls cs) (s.sentString text color) := by
            show glyphWrites (ssd1306SendString text color >>= fun _ => textCalls cs) s = _
            exact glyphWrites_bind hexec
          refine ⟨s', (exec_bind hexec).trans hrest, hidle, ?_, ?_⟩
          · rw [hall]
            intro w hw
            exact (List.mem_append.mp hw).elim (hplaced w) (hplaced' w)
          · rw [hall, List.map_append, hcells, hcells']
            rfl

/-! ## §3. Rows. -/

/-- `ssd1306_clear_row(row)`, `ssd1306_goto_xy(0, row)` and `ssd1306_send_string(text)`,
of a text that fits in the row. -/
structure RowUpdate where
  row : UInt8
  text : List UInt8
  color : Color
  onScreen : row.toNat ≤ 7
  printable : ∀ b ∈ text, Printable b
  short : text.length ≤ 20

namespace RowUpdate

/-- `ssd1306_clear_row`, `ssd1306_goto_xy` and `ssd1306_send_string`, as every update calls them. -/
def program (u : RowUpdate) : Oled Unit := do
  ssd1306ClearRow u.row
  ssd1306GotoXy 0 u.row
  ssd1306SendString u.text u.color

/-- The columns of the text, with blanks behind them. -/
def column (u : RowUpdate) (col : Nat) : UInt8 := (u.text.flatMap (charColumns u.color)).getD col 0

end RowUpdate

/-- One update after the other. -/
def rowUpdates : List RowUpdate → Oled Unit
  | [] => return ()
  | u :: us => do
      u.program
      rowUpdates us

section Rows

variable {s : Screen} {color : Color} {text : List UInt8}

theorem length_flatMap_charColumns (color : Color) (hp : ∀ b ∈ text, Printable b) :
    (text.flatMap (charColumns color)).length = 6 * text.length :=
  length_flatMap_of_length (fun b hb => length_charColumns color (hp b hb))

/-- **A text that fits in its row** fills its columns. -/
theorem panel_sentString (hp : ∀ b ∈ text, Printable b) : ∀ {s : Screen}, Aligned s →
    s.currentY.toNat < 8 → s.currentX.toNat + text.length ≤ 20 →
      (s.sentString text color).panel = s.panel.fill (text.flatMap (charColumns color)) := by
  induction text with
  | nil =>
      intro s _ _ _
      exact (Panel.fill_nil s.panel).symm
  | cons b text ih =>
      intro s hs hrow hlen
      rw [List.length_cons] at hlen
      have hat : AtCell s (20 * s.currentY.toNat + s.currentX.toNat) := ⟨hs, hrow, rfl⟩
      have hb := length_charColumns color (hp b List.mem_cons_self)
      have hready : s.ready = s := by
        unfold Screen.ready
        refine if_neg (fun heq => ?_)
        rw [heq] at hlen
        have hmax : maxX.toNat = 20 := rfl
        omega
      have hsent := hat.sent_eq hb
      rw [hready] at hsent
      have hx : (s.sent (charColumns color b)).currentX.toNat = s.currentX.toNat + 1 := by
        rw [hsent]
        show (s.currentX + 1).toNat = s.currentX.toNat + 1
        rw [UInt8.toNat_add]
        show (s.currentX.toNat + 1) % 256 = s.currentX.toNat + 1
        omega
      have hy : (s.sent (charColumns color b)).currentY = s.currentY := by
        rw [hsent]
      have hrest := ih (fun c hc => hp c (List.mem_cons_of_mem b hc)) (hat.sent hb).aligned
        (by rw [hy]; exact hrow) (by rw [hx]; omega)
      show ((s.sent (charColumns color b)).sentString text color).panel = _
      rw [hrest, hsent, List.flatMap_cons]
      exact Panel.fill_append _ _ _

/-- Bytes from the start of a row. -/
theorem ram_fill_placed (s : Screen) {row : UInt8} (hrow : row.toNat ≤ 7) (bytes : List UInt8)
    (page col : Nat) :
    ((s.placed 0 row).panel.fill bytes).ram page col
      = if page = row.toNat ∧ col < bytes.length then bytes.getD col 0
        else s.panel.ram page col := by
  have hpage : (s.placed 0 row).panel.page = row.toNat :=
    (aligned_placed s (x := 0) (by decide) hrow).page
  have hcol : (s.placed 0 row).panel.col = 0 := rfl
  unfold Panel.fill
  simp only [hpage, hcol, Nat.zero_le, true_and, Nat.zero_add, Nat.sub_zero]
  rfl

/-- **An update of a row** changes columns 0..119 of the row, and no other byte. -/
theorem exec_rowUpdate (hs : s.Idle) (u : RowUpdate) :
    ∃ s', u.program.exec screen s = some ((), s') ∧ s'.Idle
      ∧ ∀ page col, s'.panel.ram page col
          = if page = u.row.toNat ∧ col < 120 then u.column col else s.panel.ram page col := by
  have hle : u.row ≤ maxY := UInt8.le_iff_toNat_le.mpr u.onScreen
  have hclear := exec_clearRow hs u.row
  rw [if_pos hle] at hclear
  let s₁ : Screen := (s.placed 0 u.row).zeroed (20 * fontX)
  have hidle : s₁.Idle := Screen.Idle.zeroed (rfl : (s.placed 0 u.row).Idle) _
  have hplaced := aligned_placed s₁ (x := 0) (y := u.row) (by decide) u.onScreen
  have hlen : (s₁.placed 0 u.row).currentX.toNat + u.text.length ≤ 20 := by
    show 0 + u.text.length ≤ 20
    have hshort := u.short
    omega
  refine ⟨(s₁.placed 0 u.row).sentString u.text u.color, ?_, hplaced.idle.sentString,
    fun page col => ?_⟩
  · unfold RowUpdate.program
    rw [exec_bind hclear, exec_bind (exec_gotoXy hidle 0 u.row),
      exec_sendString u.color hplaced.idle u.printable]
  · have hzeros : ∀ page col, s₁.panel.ram page col
        = if page = u.row.toNat ∧ col < 120 then 0 else s.panel.ram page col := by
      intro page col
      have hroom : (s.placed 0 u.row).panel.col + (List.replicate (20 * fontX) (0 : UInt8)).length
          < oledWidth := by
        rw [List.length_replicate]
        show 0 + 20 * 6 < 128
        omega
      have hzeroed : s₁.panel.ram
          = ((List.replicate (20 * fontX) 0).foldl Panel.data (s.placed 0 u.row).panel).ram :=
        ram_zeroed (s.placed 0 u.row) (20 * fontX)
      have hfirst := aligned_placed s (x := 0) (y := u.row) (by decide) u.onScreen
      rw [hzeroed, Panel.foldl_data hfirst.colEnd hroom, ram_fill_placed s u.onScreen,
        List.length_replicate]
      show (if page = u.row.toNat ∧ col < 120 then _ else _) = _
      split
      next hin =>
        have hcol : col < 20 * fontX := hin.2
        rw [List.getD_eq_getElem?_getD, List.getElem?_replicate, if_pos hcol]
        rfl
      next => rfl
    rw [panel_sentString u.printable hplaced (Nat.lt_succ_of_le u.onScreen) hlen,
      ram_fill_placed s₁ u.onScreen, hzeros]
    have hsize := length_flatMap_charColumns u.color u.printable
    have hshort := u.short
    unfold RowUpdate.column
    by_cases hpage : page = u.row.toNat
    · by_cases htext : col < (u.text.flatMap (charColumns u.color)).length
      · rw [if_pos ⟨hpage, htext⟩, if_pos ⟨hpage, by omega⟩]
      · rw [if_neg (fun h => htext h.2)]
        -- behind the text
        rw [List.getD_eq_default _ _ (by omega)]
    · rw [if_neg (fun h => hpage h.1), if_neg (fun h => hpage h.1), if_neg (fun h => hpage h.1)]

theorem rowUpdates_append (us vs : List RowUpdate) :
    rowUpdates (us ++ vs) = rowUpdates us >>= fun _ => rowUpdates vs := by
  induction us with
  | nil => rfl
  | cons u us ih =>
      show (u.program >>= fun _ => rowUpdates (us ++ vs))
        = (u.program >>= fun _ => rowUpdates us) >>= fun _ => rowUpdates vs
      rw [ih, Program.bind_assoc]

/-- Updates leave the other rows alone. -/
theorem exec_rowUpdates (us : List RowUpdate) : ∀ {s : Screen}, s.Idle →
    ∃ s', (rowUpdates us).exec screen s = some ((), s') ∧ s'.Idle
      ∧ ∀ page, (∀ u ∈ us, u.row.toNat ≠ page) → s'.panel.ram page = s.panel.ram page := by
  induction us with
  | nil =>
      intro s hs
      exact ⟨s, rfl, hs, fun _ _ => rfl⟩
  | cons u us ih =>
      intro s hs
      obtain ⟨s₁, hexec, hidle, hram⟩ := exec_rowUpdate hs u
      obtain ⟨s', hrest, hidle', hother⟩ := ih hidle
      refine ⟨s', (exec_bind hexec).trans hrest, hidle', fun page hpage => ?_⟩
      rw [hother page (fun v hv => hpage v (List.mem_cons_of_mem u hv))]
      funext col
      rw [hram, if_neg (fun h => hpage u List.mem_cons_self h.1.symm)]

/-- **The latest update of a row** is what it shows, and no update changes another row. -/
theorem rowUpdates_latest (hs : s.Idle) (before : List RowUpdate) (u : RowUpdate)
    (after : List RowUpdate) :
    ∃ s₁ s₂ s₃, (rowUpdates before).exec screen s = some ((), s₁)
      ∧ u.program.exec screen s₁ = some ((), s₂)
      ∧ (rowUpdates (before ++ u :: after)).exec screen s = some ((), s₃)
      ∧ (∀ page, page ≠ u.row.toNat → s₂.panel.ram page = s₁.panel.ram page)
      ∧ ((∀ v ∈ after, v.row ≠ u.row) →
          ∀ col, col < 120 → s₃.panel.ram u.row.toNat col = u.column col) := by
  obtain ⟨s₁, hexec₁, hidle₁, -⟩ := exec_rowUpdates before hs
  obtain ⟨s₂, hexec₂, hidle₂, hram⟩ := exec_rowUpdate hidle₁ u
  obtain ⟨s₃, hexec₃, -, hother⟩ := exec_rowUpdates after hidle₂
  refine ⟨s₁, s₂, s₃, hexec₁, hexec₂, ?_, fun page hpage => ?_, fun hlast col hcol => ?_⟩
  · rw [rowUpdates_append, exec_bind hexec₁]
    exact (exec_bind hexec₂).trans hexec₃
  · funext col
    rw [hram, if_neg (fun h => hpage h.1)]
  · rw [hother u.row.toNat (fun v hv heq => hlast v hv (UInt8.toNat_inj.mp heq)), hram,
      if_pos ⟨rfl, hcol⟩]

end Rows

/-! ## §4. After `oled_probe`. -/

/-- **CURSOR AND ROWS.**  After `oled_probe`, any texts: each glyph is written where the
cursor says, and goes to its cell.  After these, any updates of rows: a row that has
been updated shows its latest text, and an update changes no other row. -/
theorem cursor_and_rows (ram : Ram) (cs : List TextCall) : ∃ d s, oledProbe ram = some d
    ∧ (textCalls cs).exec screen d.screen = some ((), s)
    ∧ (∀ w ∈ glyphWrites (textCalls cs) d.screen, WellPlaced w)
    ∧ (glyphWrites (textCalls cs) d.screen).map (fun w => (w.1.cell, w.2)) = cellsOfCalls 0 cs
    ∧ ∀ (before : List RowUpdate) (u : RowUpdate) (after : List RowUpdate), ∃ s₁ s₂ s₃,
        (rowUpdates before).exec screen s = some ((), s₁)
          ∧ u.program.exec screen s₁ = some ((), s₂)
          ∧ (rowUpdates (before ++ u :: after)).exec screen s = some ((), s₃)
          ∧ (∀ page, page ≠ u.row.toNat → s₂.panel.ram page = s₁.panel.ram page)
          ∧ ((∀ v ∈ after, v.row ≠ u.row) →
              ∀ col, col < 120 → s₃.panel.ram u.row.toNat col = u.column col) := by
  have hstart : AtCell (((powerOn ram).zeroed 1024).placed 0 0) 0 :=
    atCell_placed _ (x := 0) (y := 0) (by decide) (by decide)
  obtain ⟨s, hexec, hidle, hplaced, hcells⟩ := exec_textCalls cs hstart
  exact ⟨_, s, oledProbe_eq ram, hexec, hplaced, hcells, rowUpdates_latest hidle⟩

end LoRaGateway
