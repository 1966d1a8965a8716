/-
  LoRaGateway.Display.Rows
  ────────────────────────
  **WHAT THE UPDATE OF A ROW DOES TO THE DISPLAY**, in sections that begin where
  `ssd1306_goto_xy` sends its first command: from there on the window, the pointer
  and the cursor are the update's own.

    • `sections_gotoXy`, `sections_writeZeros`, `sections_sendString` — the exact state
      after each function,
    • `RowsAt` — what an update knows of its rows between two sections,
    • `sections_renew`, `sections_print` — an update of a row.
-/
import LoRaGateway.Lib.Layout
import LoRaGateway.Lib.Sections
import LoRaGateway.Display.Def

namespace LoRaGateway

open LoRaGateway.Lib
open LoRaGateway.Lib.Program (Sections sections_ret sections_bind sections_perform
  sections_begin)

/-! ## §1. The cursor. -/

/-- The first command of `ssd1306_goto_xy`. -/
def Opens (o : OledOp) : Prop := o = .transfer .command [0x21]

instance : DecidablePred Opens := fun o => inferInstanceAs (Decidable (o = _))

/-- The chip is not in the middle of a command. -/
def Screen.Idle (s : Screen) : Prop := s.panel.pending = []

/-- The cursor is on the screen, and the pointer of the chip is where it says. -/
structure Aligned (s : Screen) : Prop where
  idle : s.Idle
  colEnd : s.panel.colEnd = oledWidth - 1
  col : s.panel.col = fontX * s.currentX.toNat
  page : s.panel.page = s.currentY.toNat
  inRow : s.currentX.toNat ≤ 20

/-- After `ssd1306_goto_xy`. -/
def Screen.placed (s : Screen) (x y : UInt8) : Screen :=
  ⟨{ s.panel with
      colStart := (x * 6).toNat % oledWidth, colEnd := 127, col := (x * 6).toNat % oledWidth
      pageStart := y.toNat % 8, pageEnd := 7, page := y.toNat % 8, pending := [] }, x, y⟩

theorem aligned_placed (s : Screen) {x y : UInt8} (hx : x.toNat ≤ 20) (hy : y.toNat ≤ 7) :
    Aligned (s.placed x y) := by
  have hcol : (x * 6).toNat % oledWidth = fontX * x.toNat := by
    rw [UInt8.toNat_mul]
    show x.toNat * 6 % 256 % 128 = 6 * x.toNat
    omega
  refine ⟨rfl, rfl, hcol, ?_, hx⟩
  show y.toNat % 8 = y.toNat
  omega

/-- The six commands. -/
theorem foldl_goto {p : Panel} (hp : p.pending = []) (a b : UInt8) :
    (((((p.command 0x21).command a).command 127).command 0x22).command b).command maxY
      = { p with
          colStart := a.toNat % oledWidth, colEnd := 127, col := a.toNat % oledWidth
          pageStart := b.toNat % 8, pageEnd := 7, page := b.toNat % 8, pending := [] } := by
  rw [Panel.command_three hp rfl, Panel.command_three rfl rfl]
  rfl

section Cursor

variable {T : Terms Screen} {s₀ s : Screen} {Q : Unit → Screen → Screen → Prop}

/-- **`ssd1306_goto_xy`** ends a section and begins the next; what the display was
left in by others does not matter. -/
theorem sections_gotoXy {x y : UInt8} (hy : y.toNat ≤ 7) (hguar : T.guar s₀ s)
    (h : ∀ s', Relation.ReflTransGen T.rely s s' → s'.Idle ∧ Q () s' (s'.placed x y)) :
    (ssd1306GotoXy x y).Sections screen Opens T Q s₀ s := by
  have hx : ¬ Opens (.transfer .command [x * 6]) := by
    intro hopen
    have heq : x * 6 = 0x21 := by simpa [Opens] using hopen
    have hnat := congrArg UInt8.toNat heq
    rw [UInt8.toNat_mul] at hnat
    simp only [UInt8.reduceToNat] at hnat
    omega
  have hyb : ¬ Opens (.transfer .command [y]) := by
    intro hopen
    have heq : y = 0x21 := by simpa [Opens] using hopen
    rw [heq] at hy
    exact absurd hy (by decide)
  unfold ssd1306GotoXy ssd1306Write Oled.setX Oled.setY
  refine sections_bind (sections_begin (show Opens (.transfer .command [0x21]) from rfl) hguar
    (fun s' hs => ?_))
  obtain ⟨hidle, hQ⟩ := h s' hs
  refine sections_bind (sections_perform hx ?_)
  refine sections_bind (sections_perform (by decide) ?_)
  refine sections_bind (sections_perform (by decide) ?_)
  refine sections_bind (sections_perform hyb ?_)
  refine sections_bind (sections_perform (by decide) ?_)
  refine sections_bind (sections_perform (by simp [Opens]) ?_)
  refine sections_perform (by simp [Opens]) ?_
  simp only [screen, Panel.transfer, List.foldl_cons, List.foldl_nil]
  rw [foldl_goto hidle]
  exact hQ

/-- Zeros, as long as they stay before the last column. -/
theorem sections_writeZeros : ∀ {n : Nat} {s : Screen}, s.panel.colEnd = oledWidth - 1 →
    s.panel.col + n < oledWidth →
      Q () s₀ { s with panel := s.panel.fill (List.replicate n 0) } →
        (writeZeros n).Sections screen Opens T Q s₀ s := by
  intro n
  induction n with
  | zero =>
      intro s _ _ h
      rw [List.replicate_zero, Panel.fill_nil] at h
      exact h
  | succ n ih =>
      intro s hend hlt h
      refine sections_bind (sections_perform (by decide) ?_)
      have hfirst : s.panel.transfer .data [0] = s.panel.fill [0] :=
        Panel.data_eq_fill hend (by omega)
      show (writeZeros n).Sections screen Opens T Q s₀
        { s with panel := s.panel.transfer .data [0] }
      rw [hfirst]
      apply ih (s := { s with panel := s.panel.fill [0] }) hend
      · show s.panel.col + 1 + n < oledWidth
        omega
      · rw [List.replicate_succ, ← Panel.fill_cons] at h
        exact h

end Cursor

/-! ## §2. Texts. -/

/-- The columns of a text. -/
def columns (text : List UInt8) : List UInt8 := text.flatMap (fun b => (glyph b).getD [])

theorem sendString_append (as bs : List UInt8) (color : Color) :
    ssd1306SendString (as ++ bs) color
      = ssd1306SendString as color >>= fun _ => ssd1306SendString bs color := by
  induction as with
  | nil => rfl
  | cons a as ih =>
      show (ssd1306SendChar a color >>= fun _ => ssd1306SendString (as ++ bs) color)
        = (ssd1306SendChar a color >>= fun _ => ssd1306SendString as color)
          >>= fun _ => ssd1306SendString bs color
      rw [ih, Program.bind_assoc]

/-- After `text` has been sent. -/
def Screen.printed (s : Screen) (text : List UInt8) : Screen :=
  { s with
    panel := s.panel.fill (columns text)
    currentX := s.currentX + UInt8.ofNat text.length }

theorem length_columns {text : List UInt8} (h : ∀ b ∈ text, Printable b) :
    (columns text).length = fontX * text.length :=
  length_flatMap_of_length (fun b hb => length_glyph_getD (h b hb))

section Text

variable {T : Terms Screen} {s₀ s : Screen} {n : Nat} {Q : Unit → Screen → Screen → Prop}

theorem columns_append (as bs : List UInt8) : columns (as ++ bs) = columns as ++ columns bs :=
  List.flatMap_append

/-- One text after the other. -/
theorem printed_append (s : Screen) (as bs : List UInt8) :
    (s.printed as).printed bs = s.printed (as ++ bs) := by
  have hx : s.currentX + UInt8.ofNat as.length + UInt8.ofNat bs.length
      = s.currentX + UInt8.ofNat (as ++ bs).length := by
    rw [List.length_append, UInt8.ofNat_add, UInt8.add_assoc]
  unfold Screen.printed
  simp only [Panel.fill_append, columns_append, hx]

theorem toNat_printed (hx : s.currentX.toNat + n ≤ 20) :
    (s.currentX + UInt8.ofNat n).toNat = s.currentX.toNat + n := by
  rw [UInt8.toNat_add, UInt8.toNat_ofNat']
  omega

theorem Aligned.printed (h : Aligned s) {text : List UInt8} (hp : ∀ b ∈ text, Printable b)
    (hlen : s.currentX.toNat + text.length ≤ 20) : Aligned (s.printed text) := by
  refine ⟨h.idle, h.colEnd, ?_, h.page, ?_⟩
  · show s.panel.col + (columns text).length
      = fontX * (s.currentX + UInt8.ofNat text.length).toNat
    rw [length_columns hp, toNat_printed hlen, h.col, Nat.mul_add]
  · show (s.currentX + UInt8.ofNat text.length).toNat ≤ 20
    rw [toNat_printed hlen]
    exact hlen

/-- A character that is not the first of a new row. -/
theorem sections_sendChar (h : Aligned s) {b : UInt8} (hb : Printable b)
    (hx : s.currentX.toNat < 20) (hQ : Q () s₀ (s.printed [b])) :
    (ssd1306SendChar b .white).Sections screen Opens T Q s₀ s := by
  obtain ⟨g, hg⟩ := Option.isSome_iff_exists.mp (isSome_glyph_iff.mpr hb)
  have hne : s.currentX ≠ maxX := by
    intro heq
    rw [heq] at hx
    exact absurd hx (by decide)
  have hcolumns : columns [b] = g := by
    unfold columns
    rw [List.flatMap_cons, hg, Option.getD_some, List.flatMap_nil, List.append_nil]
  unfold ssd1306SendChar
  refine sections_bind (sections_perform (by decide) ?_)
  show Sections screen Opens T (if s.currentX = maxX then _ else _) Q s₀ s
  rw [if_neg hne, hg]
  refine sections_bind (sections_ret ?_)
  refine sections_bind (sections_perform (by simp [Opens]) ?_)
  refine sections_bind (sections_perform (by decide) ?_)
  refine sections_perform (by simp [Opens]) ?_
  have hlen : s.panel.col + g.length < oledWidth := by
    rw [h.col, length_glyph hg]
    show 6 * s.currentX.toNat + 6 < 128
    omega
  simp only [screen, Panel.transfer, if_true, Panel.foldl_data h.colEnd hlen]
  rw [Screen.printed, hcolumns] at hQ
  exact hQ

/-- **A text that fits** into the rest of its row. -/
theorem sections_sendString : ∀ {text : List UInt8} {s : Screen}, Aligned s →
    (∀ b ∈ text, Printable b) → s.currentX.toNat + text.length ≤ 20 →
      Q () s₀ (s.printed text) →
        (ssd1306SendString text .white).Sections screen Opens T Q s₀ s := by
  intro text
  induction text with
  | nil =>
      intro s _ _ _ h
      have hx : s.currentX + UInt8.ofNat 0 = s.currentX := UInt8.add_zero _
      have hnil : s.printed [] = s := by
        show { s with panel := s.panel.fill [], currentX := s.currentX + UInt8.ofNat 0 } = s
        rw [Panel.fill_nil, hx]
      rw [hnil] at h
      exact h
  | cons b bs ih =>
      intro s hs hp hlen h
      rw [List.length_cons] at hlen
      have hb : ∀ c ∈ [b], Printable c := fun c hc => hp c (by simp_all)
      refine sections_bind (sections_sendChar hs (hp b List.mem_cons_self) (by omega) ?_)
      have hfirst := hs.printed hb (by rw [List.length_singleton]; omega)
      apply ih hfirst (fun c hc => hp c (List.mem_cons_of_mem b hc))
      · show (s.currentX + UInt8.ofNat 1).toNat + bs.length ≤ 20
        rw [toNat_printed (by omega)]
        omega
      · rw [printed_append]
        exact h

end Text

/-! ## §3. Updates. -/

/-- A line, whether its row is cleared, and its text. -/
structure Update where
  line : LineT
  cleared : Bool
  text : List UInt8

/-- The text is printable, and a row holds it. -/
def Fits (text : List UInt8) : Prop := (∀ b ∈ text, Printable b) ∧ text.length ≤ 20

instance (text : List UInt8) : Decidable (Fits text) :=
  decidable_of_iff ((text.all fun b => decide (Printable b)) = true ∧ text.length ≤ 20)
    (and_congr_left' (by simp))

namespace Update

/-- The page that the update prints on. -/
def row (u : Update) : Nat := u.line.row.toNat

/-- What the update leaves in a column of its row, in which there was `old`. -/
def column (u : Update) (old : UInt8) (col : Nat) : UInt8 :=
  if col < fontX * u.text.length then (columns u.text).getD col 0
  else if u.cleared = true ∧ col < 20 * fontX then 0
  else old

/-- The display bytes after the update. -/
def paint (m : Ram) (u : Update) : Ram :=
  fun page col => if page = u.row then u.column (m page col) col else m page col

theorem paint_text (m : Ram) (line : LineT) (text : List UInt8) (page col : Nat) :
    paint m ⟨line, false, text⟩ page col
      = if page = line.row.toNat ∧ col < fontX * text.length then (columns text).getD col 0
        else m page col := by
  unfold paint column row
  by_cases hpage : page = line.row.toNat
  · by_cases hcol : col < fontX * text.length <;> simp [hpage, hcol]
  · simp [hpage]

theorem paint_blank (m : Ram) (line : LineT) (page col : Nat) :
    paint m ⟨line, true, []⟩ page col
      = if page = line.row.toNat ∧ col < 20 * fontX then 0 else m page col := by
  unfold paint column row
  by_cases hpage : page = line.row.toNat
  · by_cases hcol : col < 20 * fontX <;> simp [hpage, hcol]
  · simp [hpage]

/-- A row that is cleared and then printed to. -/
theorem paint_cleared (m : Ram) (line : LineT) (text : List UInt8) :
    paint (paint m ⟨line, true, []⟩) ⟨line, false, text⟩ = paint m ⟨line, true, text⟩ := by
  funext page col
  rw [paint_text, paint_blank]
  unfold paint column row
  by_cases hpage : page = line.row.toNat
  · by_cases hcol : col < fontX * text.length <;> simp [hpage, hcol]
  · simp [hpage]

end Update

/-! ## §4. Rows that belong to somebody. -/

/-- Nothing but rows of `rows` changes, and no command is left half sent. -/
def ChangesOnly (rows : Nat → Prop) (s s' : Screen) : Prop :=
  (s.Idle → s'.Idle) ∧ ∀ page, ¬ rows page → s'.panel.ram page = s.panel.ram page

/-- The terms of a user who owns `rows`. -/
def ownRows (rows : Nat → Prop) : Terms Screen :=
  ⟨ChangesOnly (fun page => ¬ rows page), ChangesOnly rows⟩

/-- The rows are as in `m`. -/
structure Holds (rows : Nat → Prop) (m : Ram) (s : Screen) : Prop where
  idle : s.Idle
  ram : ∀ page, rows page → s.panel.ram page = m page

/-- A user has brought the rows to `m`, and a section can end. -/
def RowsAt (rows : Nat → Prop) (m : Ram) (s₀ s : Screen) : Prop :=
  ChangesOnly rows s₀ s ∧ Holds rows m s

/-- The cursor stands behind a text at the start of a row. -/
structure Behind (line : LineT) (text : List UInt8) (s : Screen) : Prop where
  aligned : Aligned s
  x : s.currentX.toNat = text.length
  y : s.currentY = line.row

section Rows

variable {rows : Nat → Prop} {m : Ram} {s₀ s s' : Screen} {line : LineT} {text : List UInt8}
  {Q : Unit → Screen → Screen → Prop}

/-- The others do not touch the rows. -/
theorem Holds.later (h : Holds rows m s)
    (hs : Relation.ReflTransGen (ownRows rows).rely s s') : Holds rows m s' := by
  induction hs with
  | refl => exact h
  | tail _ hlast ih =>
      exact ⟨hlast.1 ih.idle, fun page hpage =>
        (hlast.2 page (not_not_intro hpage)).trans (ih.ram page hpage)⟩

theorem row_le (line : LineT) : line.row.toNat ≤ 7 := by
  cases line <;> decide

/-- Bytes from the start of a row. -/
theorem Holds.fill (h : Holds rows m s) (hrow : rows line.row.toNat) {bytes : List UInt8}
    {x : UInt8} {m' : Ram}
    (hm : ∀ page col, m' page col
      = if page = line.row.toNat ∧ col < bytes.length then bytes.getD col 0 else m page col) :
    RowsAt rows m' s
      ⟨(s.placed 0 line.row).panel.fill bytes, x, (s.placed 0 line.row).currentY⟩ := by
  have hpage : (s.placed 0 line.row).panel.page = line.row.toNat :=
    (aligned_placed s (x := 0) (by decide) (row_le line)).page
  have hram : ∀ page col, ((s.placed 0 line.row).panel.fill bytes).ram page col
      = if page = line.row.toNat ∧ col < bytes.length then bytes.getD col 0
        else s.panel.ram page col := by
    intro page col
    have hcol : (s.placed 0 line.row).panel.col = 0 := rfl
    unfold Panel.fill
    simp only [hpage, hcol, Nat.zero_le, true_and, Nat.zero_add, Nat.sub_zero]
    rfl
  refine ⟨⟨fun _ => rfl, fun page hother => ?_⟩, rfl, fun page hown => ?_⟩
  · funext col
    have hne : ¬ (page = line.row.toNat ∧ col < bytes.length) := fun hp => hother (hp.1 ▸ hrow)
    exact (hram page col).trans (if_neg hne)
  · funext col
    rw [hm page col, ← h.ram page hown]
    exact hram page col

/-- **A row is printed to** from its start. -/
theorem sections_print (hrow : rows line.row.toNat) (ht : Fits text)
    (h : RowsAt rows m s₀ s)
    (hQ : ∀ s₁ s', RowsAt rows (Update.paint m ⟨line, false, text⟩) s₁ s' → Behind line text s' →
      Q () s₁ s') :
    (do
      ssd1306GotoXy 0 line.row
      ssd1306SendString text .white : Oled Unit).Sections screen Opens (ownRows rows) Q s₀ s := by
  refine sections_bind (sections_gotoXy (row_le line) h.1 (fun s' hs => ?_))
  have hheld := h.2.later hs
  have hplaced := aligned_placed s' (x := 0) (y := line.row) (by decide) (row_le line)
  have hlen : (s'.placed 0 line.row).currentX.toNat + text.length ≤ 20 := by
    show 0 + text.length ≤ 20
    rw [Nat.zero_add]
    exact ht.2
  refine ⟨hheld.idle, sections_sendString hplaced ht.1 hlen (hQ _ _ ?_ ?_)⟩
  · apply hheld.fill hrow
    intro page col
    rw [length_columns ht.1]
    exact Update.paint_text m line text page col
  · refine ⟨hplaced.printed ht.1 hlen, ?_, rfl⟩
    exact (toNat_printed hlen).trans (Nat.zero_add _)

/-- **A row is cleared.** -/
theorem sections_clearRow (hrow : rows line.row.toNat) (h : RowsAt rows m s₀ s)
    (hQ : ∀ s₁ s', RowsAt rows (Update.paint m ⟨line, true, []⟩) s₁ s' → Q () s₁ s') :
    (ssd1306ClearRow line.row).Sections screen Opens (ownRows rows) Q s₀ s := by
  have hle : line.row ≤ maxY := UInt8.le_iff_toNat_le.mpr (row_le line)
  unfold ssd1306ClearRow
  rw [if_pos hle]
  refine sections_bind (sections_gotoXy (row_le line) h.1 (fun s' hs => ?_))
  have hheld := h.2.later hs
  have hlt : (s'.placed 0 line.row).panel.col + 20 * fontX < oledWidth := by
    show 0 + 20 * 6 < 128
    omega
  refine ⟨hheld.idle, sections_writeZeros rfl hlt (hQ _ _ ?_)⟩
  apply hheld.fill hrow
  intro page col
  rw [List.length_replicate, Update.paint_blank]
  split
  next hin => rw [List.getD_eq_getElem?_getD, List.getElem?_replicate, if_pos hin.2]; rfl
  next => rfl

/-- **A row is renewed.** -/
theorem sections_renew (hrow : rows line.row.toNat) (ht : Fits text) (h : RowsAt rows m s₀ s)
    (hQ : ∀ s₁ s', RowsAt rows (Update.paint m ⟨line, true, text⟩) s₁ s' → Behind line text s' →
      Q () s₁ s') :
    (renew line text).Sections screen Opens (ownRows rows) Q s₀ s := by
  refine sections_bind (sections_clearRow hrow h (fun s₁ s' hcleared => ?_))
  apply sections_print hrow ht hcleared
  rw [Update.paint_cleared]
  exact hQ

end Rows

end LoRaGateway
