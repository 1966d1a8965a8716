/-
  LoRaGateway.Display.Calls
  ─────────────────────────
  **THE FUNCTIONS OF THE DISPLAY DRIVER, RUN ONE AFTER ANOTHER.**

  Nobody else uses the display meanwhile, so each function takes the chip and the
  cursor from one state to another.  What it needs is that no command is half sent.

    • `exec_gotoXy`, `exec_writeZeros`, `exec_clear`, `exec_init` — the states after them,
    • `exec_sendChar`, `exec_sendString` — the states after a text, with its line wraps,
    • `glyphWrites_sendChar` — what is sent to the display memory, and in which state.
-/
import LoRaGateway.Display.Rows

namespace LoRaGateway

open LoRaGateway.Lib
open LoRaGateway.Lib.Program (exec exec_bind history_bind)

/-! ## §1. Cursor and zeros. -/

/-- After `n` zeros. -/
def Screen.zeroed (s : Screen) (n : Nat) : Screen :=
  { s with panel := (List.replicate n 0).foldl Panel.data s.panel }

section Cursor

variable {s : Screen}

theorem exec_write (data : UInt8) (mode : WriteMode) (s : Screen) :
    (ssd1306Write data mode).exec screen s
      = some ((), { s with panel := s.panel.transfer mode [data] }) := rfl

theorem exec_setX (x : UInt8) (s : Screen) :
    (Oled.setX x).exec screen s = some ((), { s with currentX := x }) := rfl

theorem exec_setY (y : UInt8) (s : Screen) :
    (Oled.setY y).exec screen s = some ((), { s with currentY := y }) := rfl

theorem exec_gotoXy (hs : s.Idle) (x y : UInt8) :
    (ssd1306GotoXy x y).exec screen s = some ((), s.placed x y) := by
  unfold ssd1306GotoXy
  rw [exec_bind (exec_write _ _ _), exec_bind (exec_write _ _ _), exec_bind (exec_write _ _ _),
    exec_bind (exec_write _ _ _), exec_bind (exec_write _ _ _), exec_bind (exec_write _ _ _),
    exec_bind (exec_setX _ _), exec_setY]
  simp only [Panel.transfer, List.foldl_cons, List.foldl_nil]
  rw [foldl_goto hs]
  rfl

theorem exec_writeZeros (s : Screen) (n : Nat) :
    (writeZeros n).exec screen s = some ((), s.zeroed n) := by
  induction n generalizing s with
  | zero => rfl
  | succ n ih => exact ih { s with panel := s.panel.transfer .data [0] }

/-- Data bytes are no part of a command. -/
theorem Screen.Idle.zeroed (hs : s.Idle) (n : Nat) : (s.zeroed n).Idle :=
  (Panel.pending_foldl s.panel _).trans hs

theorem exec_clear (hs : s.Idle) :
    ssd1306Clear.exec screen s = some ((), (s.zeroed 1024).placed 0 0) := by
  unfold ssd1306Clear
  rw [exec_bind (exec_writeZeros s 1024), exec_gotoXy (hs.zeroed 1024)]

theorem exec_clearRow (hs : s.Idle) (row : UInt8) :
    (ssd1306ClearRow row).exec screen s
      = some ((), if row ≤ maxY then (s.placed 0 row).zeroed (20 * fontX) else s) := by
  unfold ssd1306ClearRow
  by_cases hrow : row ≤ maxY
  · rw [if_pos hrow, if_pos hrow, exec_bind (exec_gotoXy hs 0 row), exec_writeZeros]
  · rw [if_neg hrow, if_neg hrow]
    rfl

theorem exec_writeCommands (s : Screen) (cs : List UInt8) :
    (writeCommands cs).exec screen s
      = some ((), { s with panel := cs.foldl Panel.command s.panel }) := by
  induction cs generalizing s with
  | nil => rfl
  | cons c cs ih => exact ih { s with panel := s.panel.transfer .command [c] }

/-- The commands of `ssd1306_init` leave the window and the pointer alone. -/
theorem foldl_initCommands {p : Panel} (hp : p.pending = []) :
    initCommands.foldl Panel.command p = p := by
  unfold initCommands
  simp only [List.foldl_cons, List.foldl_nil]
  rw [Panel.command_two hp (by decide), Panel.command_two hp (by decide),
    Panel.command_two hp (by decide), Panel.command_alone hp (by decide),
    Panel.command_two hp (by decide), Panel.command_two hp (by decide),
    Panel.command_alone hp (by decide), Panel.command_alone hp (by decide),
    Panel.command_two hp (by decide), Panel.command_two hp (by decide),
    Panel.command_two hp (by decide), Panel.command_two hp (by decide),
    Panel.command_alone hp (by decide), Panel.command_alone hp (by decide),
    Panel.command_alone hp (by decide), Panel.command_alone hp (by decide),
    Panel.command_alone hp (by decide)]

/-- **`ssd1306_init`** leaves what `ssd1306_clear` leaves. -/
theorem exec_init (hs : s.Idle) :
    ssd1306Init.exec screen s = some ((), (s.zeroed 1024).placed 0 0) := by
  unfold ssd1306Init
  rw [exec_bind (exec_writeCommands s initCommands), foldl_initCommands hs, exec_clear hs]

end Cursor

/-! ## §2. Texts. -/

/-- A glyph in a colour. -/
def inked (color : Color) (columns : List UInt8) : List UInt8 :=
  if color = .white then columns else columns.map (~~~ ·)

/-- Before a glyph: the line wraps when the row is full. -/
def Screen.ready (s : Screen) : Screen :=
  if s.currentX = maxX then s.placed 0 (if s.currentY = maxY then 0 else s.currentY + 1) else s

/-- After the columns of a glyph. -/
def Screen.sent (s : Screen) (columns : List UInt8) : Screen :=
  { s.ready with
    panel := s.ready.panel.transfer .data columns
    currentX := s.ready.currentX + 1 }

/-- After a text. -/
def Screen.sentString (s : Screen) (text : List UInt8) (color : Color) : Screen :=
  text.foldl (fun s b => s.sent (inked color ((glyph b).getD []))) s

/-- What a run sends to the display memory, with the state before each transfer. -/
def glyphWrites (p : Oled Unit) (s : Screen) : List (Screen × List UInt8) :=
  (p.history screen s).filterMap fun e =>
    match e.2 with
    | .transfer .data bytes => some (e.1, bytes)
    | _ => none

section Text

variable {s : Screen} {b : UInt8} {color : Color}

theorem glyphWrites_bind {p q : Oled Unit} {s' : Screen} (h : p.exec screen s = some ((), s')) :
    glyphWrites (p >>= fun _ => q) s = glyphWrites p s ++ glyphWrites q s' := by
  unfold glyphWrites
  rw [history_bind h, List.filterMap_append]

theorem exec_getX (s : Screen) : Oled.getX.exec screen s = some (s.currentX, s) := rfl

theorem exec_getY (s : Screen) : Oled.getY.exec screen s = some (s.currentY, s) := rfl

theorem exec_goToNextLine (hs : s.Idle) :
    ssd1306GoToNextLine.exec screen s
      = some ((), s.placed 0 (if s.currentY = maxY then 0 else s.currentY + 1)) := by
  unfold ssd1306GoToNextLine
  rw [exec_bind (exec_getY s), exec_bind (exec_setY _ _), exec_bind (exec_getY _)]
  exact exec_gotoXy hs 0 _

theorem Screen.Idle.ready (hs : s.Idle) : s.ready.Idle := by
  unfold Screen.ready
  split
  · rfl
  · exact hs

/-- A character, when the row has room for it. -/
def putChar (data : UInt8) (color : Color) : Oled Unit := do
  let columns ← Program.ofOption (.glyph data) (glyph data)
  ssd1306BurstWrite (inked color columns) .data
  Oled.setX ((← Oled.getX) + 1)

theorem sendChar_eq (data : UInt8) (color : Color) :
    ssd1306SendChar data color
      = Oled.getX >>= fun x =>
          if x = maxX then ssd1306GoToNextLine >>= fun _ => putChar data color
          else putChar data color := rfl

variable {columns : List UInt8}

theorem exec_putChar (hg : glyph b = some columns) :
    (putChar b color).exec screen s
      = some ((), { s with
          panel := s.panel.transfer .data (inked color columns), currentX := s.currentX + 1 }) := by
  unfold putChar
  rw [hg]
  rfl

theorem glyphWrites_putChar (hg : glyph b = some columns) :
    glyphWrites (putChar b color) s = [(s, inked color columns)] := by
  unfold putChar glyphWrites
  rw [hg]
  rfl

/-- **A character.** -/
theorem exec_sendChar (hs : s.Idle) (hg : glyph b = some columns) :
    (ssd1306SendChar b color).exec screen s = some ((), s.sent (inked color columns)) := by
  rw [sendChar_eq, exec_bind (exec_getX s)]
  unfold Screen.sent Screen.ready
  by_cases hx : s.currentX = maxX
  · rw [if_pos hx, if_pos hx, exec_bind (exec_goToNextLine hs), exec_putChar hg]
  · rw [if_neg hx, if_neg hx, exec_putChar hg]

/-- Only commands. -/
theorem glyphWrites_goToNextLine (s : Screen) : glyphWrites ssd1306GoToNextLine s = [] := rfl

theorem glyphWrites_gotoXy (s : Screen) (x y : UInt8) : glyphWrites (ssd1306GotoXy x y) s = [] :=
  rfl

/-- **Its glyph is what is written**, behind the line wrap. -/
theorem glyphWrites_sendChar (hs : s.Idle) (hg : glyph b = some columns) :
    glyphWrites (ssd1306SendChar b color) s = [(s.ready, inked color columns)] := by
  have hget : glyphWrites (ssd1306SendChar b color) s
      = glyphWrites (if s.currentX = maxX then ssd1306GoToNextLine >>= fun _ => putChar b color
          else putChar b color) s := rfl
  rw [hget]
  unfold Screen.ready
  by_cases hx : s.currentX = maxX
  · rw [if_pos hx, if_pos hx, glyphWrites_bind (exec_goToNextLine hs), glyphWrites_goToNextLine,
      glyphWrites_putChar hg, List.nil_append]
  · rw [if_neg hx, if_neg hx, glyphWrites_putChar hg]

theorem Screen.Idle.sent (hs : s.Idle) (columns : List UInt8) : (s.sent columns).Idle :=
  (Panel.pending_foldl s.ready.panel columns).trans hs.ready

/-- A character of the text, and the rest of it. -/
theorem sentString_cons (s : Screen) (b : UInt8) (text : List UInt8) (color : Color) :
    s.sentString (b :: text) color
      = (s.sent (inked color ((glyph b).getD []))).sentString text color := rfl

theorem Screen.Idle.sentString {text : List UInt8} (hs : s.Idle) :
    (s.sentString text color).Idle := by
  induction text generalizing s with
  | nil => exact hs
  | cons b text ih => exact ih (hs.sent _)

/-- **A text.** -/
theorem exec_sendString (color : Color) {text : List UInt8} (hs : s.Idle)
    (hp : ∀ b ∈ text, Printable b) :
    (ssd1306SendString text color).exec screen s = some ((), s.sentString text color) := by
  induction text generalizing s with
  | nil => rfl
  | cons b text ih =>
      obtain ⟨g, hg⟩ :=
        Option.isSome_iff_exists.mp (isSome_glyph_iff.mpr (hp b List.mem_cons_self))
      have hrest := ih (hs.sent (inked color g)) (fun c hc => hp c (List.mem_cons_of_mem b hc))
      rw [sentString_cons, hg, Option.getD_some, ← hrest]
      exact exec_bind (exec_sendChar hs hg)

/-- A character outside the font ends the run. -/
theorem exec_sendChar_eq_none (hs : s.Idle) (hb : ¬ Printable b) :
    (ssd1306SendChar b color).exec screen s = none := by
  have hg : glyph b = none := by
    rw [← Option.not_isSome_iff_eq_none]
    exact fun h => hb (isSome_glyph_iff.mp h)
  have hput : ∀ t : Screen, (putChar b color).exec screen t = none := by
    intro t
    unfold putChar
    rw [hg]
    rfl
  rw [sendChar_eq, exec_bind (exec_getX s)]
  by_cases hx : s.currentX = maxX
  · rw [if_pos hx, exec_bind (exec_goToNextLine hs), hput]
  · rw [if_neg hx, hput]

theorem exec_sendString_eq_none {text : List UInt8} (hs : s.Idle)
    (hp : ¬ ∀ b ∈ text, Printable b) : (ssd1306SendString text color).exec screen s = none := by
  induction text generalizing s with
  | nil => exact absurd (fun b hb => absurd hb List.not_mem_nil) hp
  | cons b text ih =>
      show (ssd1306SendChar b color >>= fun _ => ssd1306SendString text color).exec screen s = none
      by_cases hb : Printable b
      · obtain ⟨g, hg⟩ := Option.isSome_iff_exists.mp (isSome_glyph_iff.mpr hb)
        rw [exec_bind (exec_sendChar hs hg)]
        exact ih (hs.sent _) (fun h => hp (List.forall_mem_cons.mpr ⟨hb, h⟩))
      · rw [Program.exec_bind_eq, exec_sendChar_eq_none hs hb]
        rfl

end Text

end LoRaGateway
