/-
  LoRaGateway.Display.Clear
  ─────────────────────────
  **WHAT `ssd1306_clear` ERASES.**

  It writes 1024 zeros to wherever the window is, and sets the full window only
  then.  The window is the one that the last `ssd1306_goto_xy` left, from its column
  and page to the last ones: the zeros go around in it, and what is outside stays.

    • `sound_of_reach` — the pointer stays in the window, whatever is called,
    • `clear_erases_iff` — when `ssd1306_clear` erases the whole screen.
-/
import LoRaGateway.Lib.Run
import LoRaGateway.Display.Bitmap
import LoRaGateway.Display.Calls

namespace LoRaGateway

open LoRaGateway.Lib

/-! ## §1. Calls of the driver's functions. -/

/-- `struct ssd1306`, as far as these functions use it, with the chip. -/
structure Ssd1306 where
  screen : Screen
  buffer : FrameBuffer

/-- A call of one of the functions that draw, inside the driver. -/
inductive OledCall where
  | gotoXy (x y : UInt8)
  | clearRow (row : UInt8)
  | clear
  | sendString (text : List UInt8) (color : Color)
  | drawBitmap {width height : UInt8} (bitmap : Bitmap width height) (x y : UInt8) (color : Color)

namespace Ssd1306

/-- A function that leaves the frame buffer alone. -/
def perform (d : Ssd1306) (p : Oled Unit) : Option Ssd1306 :=
  (p.exec LoRaGateway.screen d.screen).map (fun r => { d with screen := r.2 })

/-- `ssd1306_draw_bitmap` draws into the buffer, and sends it. -/
def drawBitmap {width height : UInt8} (d : Ssd1306) (bitmap : Bitmap width height) (x y : UInt8)
    (color : Color) : Option Ssd1306 :=
  (drawLoops bitmap x y color d.buffer).bind fun buffer =>
    ((ssd1306Sync buffer).exec LoRaGateway.screen d.screen).map (fun r => ⟨r.2, r.1⟩)

/-- A call; nothing when it leaves the font or the frame buffer. -/
def call (d : Ssd1306) : OledCall → Option Ssd1306
  | .gotoXy x y => d.perform (ssd1306GotoXy x y)
  | .clearRow row => d.perform (ssd1306ClearRow row)
  | .clear => d.perform ssd1306Clear
  | .sendString text color => d.perform (ssd1306SendString text color)
  | .drawBitmap bitmap x y color => d.drawBitmap bitmap x y color

end Ssd1306

/-- The chip after a reset, with whatever is in its memory. -/
def powerOn (ram : Ram) : Screen := ⟨⟨ram, 0, 127, 0, 7, 0, 0, []⟩, 0, 0⟩

/-- `oled_probe`, as far as `ssd1306_init`. -/
def oledProbe (ram : Ram) : Option Ssd1306 :=
  (⟨powerOn ram, Buffer.zero 1024⟩ : Ssd1306).perform ssd1306Init

/-- The states that any calls lead to. -/
def Called (ram : Ram) (d : Ssd1306) : Prop :=
  ∃ d₀, oledProbe ram = some d₀ ∧ Reach Ssd1306.call Any d₀ d

/-! ## §2. The window. -/

/-- No command is half sent, and the pointer is in the window. -/
structure Screen.Sound (s : Screen) : Prop where
  idle : s.Idle
  windowed : s.panel.Windowed

section Sound

variable {s : Screen}

theorem sound_placed (s : Screen) (x y : UInt8) : (s.placed x y).Sound := by
  have hx : (x * 6).toNat % oledWidth < 128 := Nat.mod_lt _ (by decide)
  have hy : y.toNat % 8 < 8 := Nat.mod_lt _ (by decide)
  refine ⟨rfl, ⟨Nat.le_refl _, ?_⟩, ⟨Nat.le_refl _, ?_⟩,
    show 127 < 128 by decide, show 7 < 8 by decide⟩
  · show (x * 6).toNat % oledWidth ≤ 127
    omega
  · show y.toNat % 8 ≤ 7
    omega

theorem Screen.Sound.data (hs : s.Sound) (bytes : List UInt8) :
    ({ s with panel := s.panel.transfer .data bytes } : Screen).Sound :=
  ⟨(Panel.pending_foldl s.panel bytes).trans hs.idle, hs.windowed.foldl bytes⟩

theorem Screen.Sound.zeroed (hs : s.Sound) (n : Nat) : (s.zeroed n).Sound :=
  ⟨hs.idle.zeroed n, hs.windowed.foldl _⟩

theorem Screen.Sound.sent (hs : s.Sound) (columns : List UInt8) : (s.sent columns).Sound := by
  have hready : s.ready.Sound := by
    unfold Screen.ready
    split
    · exact sound_placed s _ _
    · exact hs
  exact ⟨(hready.data columns).idle, (hready.data columns).windowed⟩

theorem Screen.Sound.sentString {text : List UInt8} {color : Color} (hs : s.Sound) :
    (s.sentString text color).Sound := by
  induction text generalizing s with
  | nil => exact hs
  | cons b text ih => exact ih (hs.sent _)

end Sound

namespace Ssd1306

variable {d d' : Ssd1306}

theorem perform_eq {p : Oled Unit} {s : Screen}
    (h : p.exec LoRaGateway.screen d.screen = some ((), s)) :
    d.perform p = some { d with screen := s } := by
  unfold perform
  rw [h]
  rfl

/-- **No call takes the pointer out of the window.** -/
theorem sound_call (hd : d.screen.Sound) {c : OledCall} (h : d.call c = some d') :
    d'.screen.Sound := by
  cases c with
  | gotoXy x y =>
      rw [call, perform_eq (exec_gotoXy hd.idle x y)] at h
      rw [← Option.some.inj h]
      exact sound_placed d.screen x y
  | clearRow row =>
      rw [call, perform_eq (exec_clearRow hd.idle row)] at h
      rw [← Option.some.inj h]
      by_cases hrow : row ≤ maxY
      · rw [if_pos hrow]
        exact (sound_placed d.screen 0 row).zeroed _
      · rw [if_neg hrow]
        exact hd
  | clear =>
      rw [call, perform_eq (exec_clear hd.idle)] at h
      rw [← Option.some.inj h]
      exact sound_placed _ 0 0
  | sendString text color =>
      by_cases hp : ∀ b ∈ text, Printable b
      · rw [call, perform_eq (exec_sendString color hd.idle hp)] at h
        rw [← Option.some.inj h]
        exact hd.sentString
      · have hnone : d.perform (ssd1306SendString text color) = none := by
          unfold perform
          rw [exec_sendString_eq_none hd.idle hp]
          rfl
        exact absurd (hnone.symm.trans h) (by simp)
  | drawBitmap bitmap x y color =>
      obtain ⟨buffer, -, hsync⟩ := Option.bind_eq_some_iff.mp h
      obtain rfl := Option.some.inj hsync
      exact hd.data buffer.bytes

end Ssd1306

theorem oledProbe_eq (ram : Ram) :
    oledProbe ram
      = some ⟨((powerOn ram).zeroed 1024).placed 0 0, Buffer.zero 1024⟩ :=
  Ssd1306.perform_eq (exec_init rfl)

theorem sound_of_called {ram : Ram} {d : Ssd1306} (h : Called ram d) : d.screen.Sound := by
  obtain ⟨d₀, h₀, hreach⟩ := h
  have hstart : d₀.screen.Sound := by
    rw [oledProbe_eq] at h₀
    rw [← Option.some.inj h₀]
    exact sound_placed _ 0 0
  exact hreach.invariant (P := fun d => d.screen.Sound) hstart
    (fun _ _ _ hd _ hstep => Ssd1306.sound_call hd hstep)

/-! ## §3. Erasing. -/

/-- Cursor and pointer are at the origin of the full window. -/
structure Screen.AtOrigin (s : Screen) : Prop where
  cursor : s.currentX = 0 ∧ s.currentY = 0
  pointer : s.panel.col = 0 ∧ s.panel.page = 0
  columns : s.panel.colStart = 0 ∧ s.panel.colEnd = 127
  pages : s.panel.pageStart = 0 ∧ s.panel.pageEnd = 7

/-- `ssd1306_clear` erases the whole screen. -/
def Clears (s : Screen) : Prop :=
  ∃ s', ssd1306Clear.exec screen s = some ((), s')
    ∧ (∀ page col, page < 8 → col < 128 → s'.panel.ram page col = 0) ∧ s'.AtOrigin

/-- What is outside the window is blank. -/
def Panel.BlankOutside (p : Panel) : Prop :=
  ∀ page col, page < 8 → col < 128 → ¬ p.InWindow page col → p.ram page col = 0

theorem ram_placed (s : Screen) (x y : UInt8) : (s.placed x y).panel.ram = s.panel.ram := rfl

theorem ram_zeroed (s : Screen) (n : Nat) :
    (s.zeroed n).panel.ram = ((List.replicate n 0).foldl Panel.data s.panel).ram := rfl

theorem ram_sentString_single (s : Screen) (b : UInt8) :
    (s.sentString [b] .white).panel.ram
      = (((glyph b).getD []).foldl Panel.data s.ready.panel).ram := rfl

theorem atOrigin_placed (s : Screen) : (s.placed 0 0).AtOrigin :=
  ⟨⟨rfl, rfl⟩, ⟨rfl, rfl⟩, ⟨rfl, rfl⟩, ⟨rfl, rfl⟩⟩

/-- It erases the window, and nothing else. -/
theorem clears_iff {s : Screen} (hs : s.Sound) : Clears s ↔ s.panel.BlankOutside := by
  constructor
  · intro h
    obtain ⟨s', hexec, hblank, -⟩ := h
    rw [exec_clear hs.idle] at hexec
    obtain ⟨-, hs'⟩ := Prod.mk.inj (Option.some.inj hexec)
    intro page col hpage hcol hout
    have hzero := hblank page col hpage hcol
    rw [← hs', ram_placed, ram_zeroed, Panel.ram_foldl_outside hs.windowed hout] at hzero
    exact hzero
  · intro h
    refine ⟨_, exec_clear hs.idle, fun page col hpage hcol => ?_, atOrigin_placed _⟩
    rw [ram_placed, ram_zeroed]
    by_cases hin : s.panel.InWindow page col
    · exact Panel.ram_foldl_zeros hs.windowed hin
    · rw [Panel.ram_foldl_outside hs.windowed hin]
      exact h page col hpage hcol hin

/-- **`ssd1306_clear` erases the whole screen exactly when what the last
`ssd1306_goto_xy` put outside the window is blank already.** -/
theorem clear_erases_iff (ram : Ram) {d : Ssd1306} (h : Called ram d) :
    Clears d.screen ↔ d.screen.panel.BlankOutside := clears_iff (sound_of_called h)

/-- Right after `oled_probe` the window is the whole memory. -/
theorem clear_erases_probed :
    Clears (((powerOn fun _ _ => 0xFF).zeroed 1024).placed 0 0) := by
  refine (clear_erases_iff (fun _ _ => 0xFF)
    ⟨_, oledProbe_eq _, Reach.refl _⟩).mpr (fun page col hpage hcol hout => absurd ?_ hout)
  show (0 ≤ page ∧ page ≤ 7) ∧ 0 ≤ col ∧ col ≤ 127
  omega

/-- An `A` in the first row stays when the cursor was sent to the second one. -/
theorem clear_leaves_row : ∃ d, Called (fun _ _ => 0) d ∧ ¬ Clears d.screen := by
  -- under a name, so that no step below evaluates the 1024 zeros
  obtain ⟨s₀, hs₀⟩ : ∃ s₀, s₀ = (powerOn fun _ _ => 0).zeroed 1024 := ⟨_, rfl⟩
  have hprobe : oledProbe (fun _ _ => 0) = some ⟨s₀.placed 0 0, Buffer.zero 1024⟩ := by
    rw [hs₀]
    exact oledProbe_eq _
  have hs : (s₀.placed 0 0).Sound := sound_placed _ 0 0
  have hprintable : ∀ b ∈ [65], Printable b := printable_of_all (by decide)
  have hfirst : (⟨s₀.placed 0 0, Buffer.zero 1024⟩ : Ssd1306).call (.sendString [65] .white)
      = some ⟨(s₀.placed 0 0).sentString [65] .white, Buffer.zero 1024⟩ :=
    Ssd1306.perform_eq (exec_sendString .white hs.idle hprintable)
  have hsecond : (⟨(s₀.placed 0 0).sentString [65] .white, Buffer.zero 1024⟩ : Ssd1306).call
      (.gotoXy 0 1)
      = some ⟨((s₀.placed 0 0).sentString [65] .white).placed 0 1, Buffer.zero 1024⟩ :=
    Ssd1306.perform_eq (exec_gotoXy hs.idle.sentString 0 1)
  have hreach : Reach Ssd1306.call Any ⟨s₀.placed 0 0, Buffer.zero 1024⟩
      ⟨((s₀.placed 0 0).sentString [65] .white).placed 0 1, Buffer.zero 1024⟩ :=
    reach_any_of_run [.sendString [65] .white, .gotoXy 0 1] (run_two hfirst hsecond)
  refine ⟨_, ⟨_, hprobe, hreach⟩, fun hclears => ?_⟩
  have hblank := (clears_iff (sound_placed _ 0 1)).mp hclears 0 0 (by omega) (by omega)
    (fun hin => absurd hin.1.1 (show ¬ 1 ≤ 0 by omega))
  have hready : (s₀.placed 0 0).ready = s₀.placed 0 0 :=
    if_neg (show ¬ (0 : UInt8) = 20 by decide)
  rw [ram_placed, ram_sentString_single, hready,
    Panel.foldl_data rfl (show 0 + 6 < 128 by omega)] at hblank
  have hcolumn : (0x7C : UInt8) = 0 := hblank
  exact absurd hcolumn (by decide)

end LoRaGateway
