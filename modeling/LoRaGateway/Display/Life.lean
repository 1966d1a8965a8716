/-
  LoRaGateway.Display.Life
  ────────────────────────
  **THE SCREEN FROM POWER ON TO SHUTDOWN.**

  `oled_probe` plays the boot animation, erases it and prints two lines; then the
  parent and the work of the minutes print on what is there.  `board_shutdown` plays
  another animation, erases it and says goodbye.  A frame is a bitmap of the whole
  screen, and what is in the memory of the chip at power on is not known.

    • `foldl_full` — 1024 bytes from the origin of the full window fill the memory,
    • `animations_shown` — a frame is what is on the screen, pixel by pixel, whatever was
      on it before; writes to the device leave pixels in the first one,
    • `screen_from_power_on` — in every run after `oled_probe` a line that nobody is
      printing shows what was said of it last, or what `oled_probe` has left there, and
      `board_shutdown`, when nobody prints, leaves nothing but the goodbye.
-/
import LoRaGateway.Display.Station
import LoRaGateway.Display.Write

namespace LoRaGateway

open LoRaGateway.Lib

/-! ## §1. The whole memory. -/

/-- The window is the whole memory, and the pointer at its start. -/
structure Panel.Home (p : Panel) : Prop where
  idle : p.pending = []
  columns : p.colStart = 0 ∧ p.colEnd = 127
  pages : p.pageStart = 0 ∧ p.pageEnd = 7
  pointer : p.col = 0 ∧ p.page = 0

section Memory

variable {p : Panel}

theorem Panel.Home.windowed (h : p.Home) : p.Windowed := by
  obtain ⟨-, ⟨hcs, hce⟩, ⟨hps, hpe⟩, hcol, hpage⟩ := h
  refine ⟨⟨by omega, by omega⟩, ⟨by omega, by omega⟩, ?_, by omega⟩
  show p.colEnd < 128
  omega

/-- Data bytes leave the window as it is. -/
theorem window_foldl (p : Panel) (bytes : List UInt8) :
    (bytes.foldl Panel.data p).colStart = p.colStart ∧ (bytes.foldl Panel.data p).colEnd = p.colEnd
      ∧ (bytes.foldl Panel.data p).pageStart = p.pageStart
      ∧ (bytes.foldl Panel.data p).pageEnd = p.pageEnd := by
  induction bytes generalizing p with
  | nil => exact ⟨rfl, rfl, rfl, rfl⟩
  | cons b bytes ih =>
      obtain ⟨hcs, hce, hps, hpe⟩ := ih (p.data b)
      obtain ⟨hcs', hce', hps', hpe', -⟩ := Panel.data_window p b
      exact ⟨hcs.trans hcs', hce.trans hce', hps.trans hps', hpe.trans hpe'⟩

/-- **Bytes in reading order**: byte `n` goes to column `n % 128` of page `n / 128`. -/
theorem foldl_window (h : p.Home) : ∀ bytes : List UInt8, bytes.length ≤ 1024 →
    ((bytes.foldl Panel.data p).page, (bytes.foldl Panel.data p).col)
        = scanCell 128 8 bytes.length
      ∧ ∀ page col, page < 8 → col < 128 → (bytes.foldl Panel.data p).ram page col
          = if 128 * page + col < bytes.length then bytes.getD (128 * page + col) 0
            else p.ram page col := by
  intro bytes
  induction bytes using List.reverseRecOn with
  | nil =>
      intro _
      refine ⟨?_, fun page col _ _ => rfl⟩
      show (p.page, p.col) = (0, 0)
      rw [h.pointer.1, h.pointer.2]
  | append_singleton bytes b ih =>
      intro hlen
      rw [List.length_append, List.length_singleton] at hlen
      obtain ⟨hat, hram⟩ := ih (by omega)
      have hwin := h.windowed.foldl bytes
      obtain ⟨hcs, hce, hps, hpe⟩ := window_foldl p bytes
      rw [h.columns.1] at hcs
      rw [h.columns.2] at hce
      rw [h.pages.1] at hps
      rw [h.pages.2] at hpe
      rw [List.foldl_append, List.length_append, List.length_singleton]
      show ((bytes.foldl Panel.data p |>.data b).page, (bytes.foldl Panel.data p |>.data b).col) = _
        ∧ ∀ page col, page < 8 → col < 128 → (bytes.foldl Panel.data p |>.data b).ram page col = _
      generalize bytes.foldl Panel.data p = q at hat hram hwin hcs hce hps hpe
      -- the pointer of a window that begins at 0 is column and page themselves
      have hpointer : ∀ r : Panel, r.pageStart = 0 → r.colStart = 0 →
          r.pointer = (r.page, r.col) := by
        intro r hrp hrc
        unfold Panel.pointer
        rw [hrp, hrc]
        rfl
      obtain ⟨hcs', -, hps', -, -⟩ := Panel.data_window q b
      have hnext := (hwin.data b).2
      rw [hpointer _ (hps'.trans hps) (hcs'.trans hcs), hpointer q hps hcs, hat] at hnext
      unfold Panel.windowWidth Panel.windowHeight at hnext
      rw [hcs, hce, hps, hpe, scanNext_scanCell (by omega) (by omega)] at hnext
      refine ⟨hnext, fun page col hpage hcol => ?_⟩
      obtain ⟨hp, hc⟩ := Prod.mk.inj hat
      have hp : q.page = bytes.length / 128 := by
        rw [hp, Nat.mod_eq_of_lt (by omega)]
      rw [Panel.ram_data, hram page col hpage hcol]
      by_cases hhere : 128 * page + col = bytes.length
      · rw [if_pos ⟨by omega, by omega⟩, if_pos (by omega), hhere, List.getD_eq_getElem?_getD,
          List.getElem?_concat_length]
        rfl
      · rw [if_neg (by omega)]
        by_cases hbefore : 128 * page + col < bytes.length
        · rw [if_pos hbefore, if_pos (by omega), List.getD_eq_getElem?_getD,
            List.getD_eq_getElem?_getD, List.getElem?_append_left hbefore]
        · rw [if_neg hbefore, if_neg (by omega)]

/-- **As many bytes as the memory has** fill it, and the pointer is at its start again. -/
theorem foldl_full (h : p.Home) {bytes : List UInt8} (hlen : bytes.length = 1024) :
    (bytes.foldl Panel.data p).Home ∧ ∀ page col, page < 8 → col < 128 →
      (bytes.foldl Panel.data p).ram page col = bytes.getD (128 * page + col) 0 := by
  obtain ⟨hat, hram⟩ := foldl_window h bytes (by omega)
  obtain ⟨hcs, hce, hps, hpe⟩ := window_foldl p bytes
  rw [hlen] at hat
  obtain ⟨hpage, hcol⟩ := Prod.mk.inj hat
  refine ⟨⟨(Panel.pending_foldl p bytes).trans h.idle, ⟨hcs.trans h.columns.1,
    hce.trans h.columns.2⟩, ⟨hps.trans h.pages.1, hpe.trans h.pages.2⟩, hcol, hpage⟩,
    fun page col hp hc => ?_⟩
  rw [hram page col hp hc, if_pos (by omega)]

end Memory

/-! ## §2. Frames. -/

/-- A frame of an animation. -/
abbrev FrameBitmap : Type := Bitmap 128 64

/-- Pixel `(px, py)` of the screen. -/
def Screen.pixel (s : Screen) (px py : Nat) : Bool := bit (s.panel.ram (py / 8) px) (py % 8)

/-- The screen shows the frame. -/
def Screen.ShowsFrame (s : Screen) (frame : FrameBitmap) : Prop :=
  ∀ px py, px < 128 → py < 64 → s.pixel px py = bitmapBit frame.bytes 16 py px

/-- The screen shows the frame, and besides what was in the frame buffer before. -/
def Screen.ShowsOver (s : Screen) (frame : FrameBitmap) (buffer : FrameBuffer) : Prop :=
  ∀ px py, px < 128 → py < 64 →
    (s.pixel px py = true ↔ buffer.pixel px py = true ∨ bitmapBit frame.bytes 16 py px = true)

/-- The frame buffer is zero, and the whole memory is the window. -/
structure Ssd1306.AtHome (d : Ssd1306) : Prop where
  home : d.screen.panel.Home
  buffer : d.buffer = Buffer.zero 1024

/-- The frames of an animation, one after the other. -/
def animation (frames : List FrameBitmap) : List OledCall :=
  frames.map (fun frame => .drawBitmap frame 0 0 .white)

section Frames

variable {d : Ssd1306}

theorem pixel_zero {px py : Nat} (hx : px < 128) (hy : py < 64) :
    FrameBuffer.pixel (Buffer.zero 1024) px py = false := by
  unfold FrameBuffer.pixel Buffer.zero
  rw [List.getD_eq_getElem?_getD, List.getElem?_replicate, if_pos (by
    show px + py / 8 * 128 < 1024
    omega)]
  show bit 0 (py % 8) = false
  unfold bit
  exact BitVec.getLsbD_zero

/-- **A frame is what is on the screen**, with what was in the frame buffer; what was on
the screen is not. -/
theorem frame_over (hd : d.screen.panel.Home) (frame : FrameBitmap) :
    ∃ d', d.call (.drawBitmap frame 0 0 .white) = some d' ∧ d'.AtHome
      ∧ d'.screen.ShowsOver frame d.buffer := by
  have hfits : NoStrayBits frame 0 0 d.buffer := noStrayBits_of_fits (by decide) (by decide)
  obtain ⟨buffer, hdraw, hpixels⟩ := hfits.clippedBlit
  obtain ⟨hhome, hram⟩ := foldl_full hd buffer.size
  refine ⟨⟨{ d.screen with panel := d.screen.panel.transfer .data buffer.bytes },
    Buffer.zero 1024⟩, ?_, ⟨hhome, rfl⟩, fun px py hx hy => ?_⟩
  · show ((drawLoops frame 0 0 .white d.buffer).bind _) = _
    rw [hdraw]
    rfl
  · have hscreen : Screen.pixel
        { d.screen with panel := d.screen.panel.transfer .data buffer.bytes } px py
        = buffer.pixel px py := by
      unfold Screen.pixel FrameBuffer.pixel
      rw [show (d.screen.panel.transfer .data buffer.bytes).ram (py / 8) px = _ from
        hram (py / 8) px (by omega) hx]
      congr 2
      show 128 * (py / 8) + px = px + py / 8 * 128
      omega
    rw [hscreen, hpixels px py hx hy]
    refine or_congr_right ⟨fun h => ?_, fun h => ?_⟩
    · obtain ⟨i, j, ⟨-, -, hbit⟩, hi, hj⟩ := h
      have hi : 0 + i = px := hi
      have hj : 0 + j = py := hj
      rw [← hi, ← hj, Nat.zero_add, Nat.zero_add]
      exact hbit
    · exact ⟨px, py, ⟨hx, hy, h⟩, Nat.zero_add _, Nat.zero_add _⟩

/-- From a frame buffer that is zero. -/
theorem frame_shown (hd : d.AtHome) (frame : FrameBitmap) :
    ∃ d', d.call (.drawBitmap frame 0 0 .white) = some d' ∧ d'.AtHome
      ∧ d'.screen.ShowsFrame frame := by
  obtain ⟨d', hcall, hd', hover⟩ := frame_over hd.home frame
  refine ⟨d', hcall, hd', fun px py hx hy => ?_⟩
  rw [Bool.eq_iff_iff, hover px py hx hy, hd.buffer, pixel_zero hx hy]
  simp

/-- Each frame of an animation is shown until the next one. -/
theorem animation_shown (frames : List FrameBitmap) (hd : d.AtHome) :
    ∃ d', run Ssd1306.call d (animation frames) = some d' ∧ d'.AtHome
      ∧ ∀ frame, frames.getLast? = some frame → d'.screen.ShowsFrame frame := by
  induction frames using List.reverseRecOn with
  | nil => exact ⟨d, rfl, hd, fun frame h => absurd h (by simp)⟩
  | append_singleton frames frame ih =>
      obtain ⟨d₁, hrun, hd₁, -⟩ := ih
      obtain ⟨d', hcall, hd', hshows⟩ := frame_shown hd₁ frame
      refine ⟨d', ?_, hd', fun f hf => ?_⟩
      · unfold animation at hrun ⊢
        rw [List.map_append, run_append hrun]
        exact run_cons hcall []
      · rw [List.getLast?_concat] at hf
        rw [← Option.some.inj hf]
        exact hshows

/-- From any frame buffer: its pixels are in the first frame, and the others are as they
should be. -/
theorem animation_over (frame : FrameBitmap) (frames : List FrameBitmap)
    (hd : d.screen.panel.Home) :
    ∃ d₁ d', d.call (.drawBitmap frame 0 0 .white) = some d₁ ∧ d₁.screen.ShowsOver frame d.buffer
      ∧ run Ssd1306.call d (animation (frame :: frames)) = some d' ∧ d'.AtHome
      ∧ ∀ last, frames.getLast? = some last → d'.screen.ShowsFrame last := by
  obtain ⟨d₁, hcall, hd₁, hover⟩ := frame_over hd frame
  obtain ⟨d', hrun, hd', hshows⟩ := animation_shown frames hd₁
  exact ⟨d₁, d', hcall, hover, (run_cons hcall _).trans hrun, hd', hshows⟩

end Frames

/-! ## §3. Texts on a blank screen. -/

/-- What a screen shows that is blank but for some texts, each with its cell. -/
def Screen.ShowsOnly (s : Screen) (texts : List (Nat × Nat × List UInt8)) : Prop :=
  ∀ page col, page < 8 → col < 128 → s.panel.ram page col
    = texts.foldr (fun (x, y, text) rest =>
        if page = y ∧ 6 * x ≤ col ∧ col < 6 * x + 6 * text.length then
          (columns text).getD (col - 6 * x) 0
        else rest) 0

section Texts

variable {d : Ssd1306}

/-- From any window: what is outside it stays, but the window is the full one then. -/
theorem clear_anywhere (hs : d.screen.Idle) :
    ∃ d', d.call .clear = some d' ∧ d'.screen.panel.Home ∧ d'.buffer = d.buffer :=
  ⟨{ d with screen := (d.screen.zeroed 1024).placed 0 0 },
    Ssd1306.perform_eq (exec_clear hs), ⟨rfl, ⟨rfl, rfl⟩, ⟨rfl, rfl⟩, rfl, rfl⟩, rfl⟩

/-- Blanks before a text. -/
theorem columns_blanks (n : Nat) (text : List UInt8) :
    columns (List.replicate n 32 ++ text) = List.replicate (6 * n) 0 ++ columns text := by
  have hblanks : ∀ n, columns (List.replicate n 32) = List.replicate (6 * n) 0 := by
    intro n
    induction n with
    | zero => rfl
    | succ n ih =>
        show List.replicate 6 0 ++ columns (List.replicate n 32) = _
        rw [ih, Nat.mul_succ, Nat.add_comm, List.replicate_add]
  rw [columns_append, hblanks]

/-- A text that is printed at cell `x` is one with `x` blanks before it. -/
theorem placed_columns {text : List UInt8} (hp : ∀ b ∈ text, Printable b) (x col : Nat) :
    (if 6 * x ≤ col ∧ col < 6 * x + 6 * text.length then (columns text).getD (col - 6 * x) 0
      else 0) = (columns (List.replicate x 32 ++ text)).getD col 0 := by
  have hlen : (columns text).length = 6 * text.length := length_columns hp
  rw [columns_blanks]
  by_cases hbefore : col < 6 * x
  · rw [if_neg (by omega), List.getD_append _ _ _ _ (by rw [List.length_replicate]; exact hbefore),
      List.getD_eq_getElem?_getD, List.getElem?_replicate, if_pos hbefore]
    rfl
  · rw [List.getD_append_right _ _ _ _ (by rw [List.length_replicate]; omega),
      List.length_replicate]
    by_cases hin : col < 6 * x + 6 * text.length
    · rw [if_pos ⟨by omega, hin⟩]
    · rw [if_neg (fun h => hin h.2), List.getD_eq_default _ _ (by omega)]

/-- Texts of other rows. -/
theorem foldr_other {texts : List (Nat × Nat × List UInt8)} {page : Nat}
    (h : ∀ t ∈ texts, t.2.1 ≠ page) (col : Nat) (rest : UInt8) :
    texts.foldr (fun (x, y, text) rest =>
        if page = y ∧ 6 * x ≤ col ∧ col < 6 * x + 6 * text.length then
          (columns text).getD (col - 6 * x) 0
        else rest) rest = rest := by
  induction texts with
  | nil => rfl
  | cons t texts ih =>
      rw [List.foldr_cons, ih (fun u hu => h u (List.mem_cons_of_mem _ hu))]
      exact if_neg (fun hin => h t List.mem_cons_self hin.1.symm)

theorem row_lt (line : LineT) : line.row.toNat < 8 := by
  cases line <;> decide

/-- The one text of a line. -/
theorem Screen.ShowsOnly.line {s : Screen} {x : Nat} {text : List UInt8}
    (before after : List (Nat × Nat × List UInt8)) (line : LineT)
    (h : s.ShowsOnly (before ++ (x, line.row.toNat, text) :: after))
    (hp : ∀ b ∈ text, Printable b) (hbefore : ∀ t ∈ before, t.2.1 ≠ line.row.toNat)
    (hafter : ∀ t ∈ after, t.2.1 ≠ line.row.toNat) :
    LineShows s.panel.ram line (List.replicate x 32 ++ text) := by
  intro col hcol
  rw [h _ col (row_lt line) (by omega), List.foldr_append, foldr_other hbefore, List.foldr_cons,
    foldr_other hafter, ← placed_columns hp]
  simp only [true_and]

end Texts

/-! ## §4. `oled_probe` and `board_shutdown`. -/

/-- What `ssd1306_init` leaves. -/
theorem probe_home (ram : Ram) :
    Ssd1306.AtHome ⟨((powerOn ram).zeroed 1024).placed 0 0, Buffer.zero 1024⟩ :=
  ⟨⟨rfl, ⟨rfl, rfl⟩, ⟨rfl, rfl⟩, rfl, rfl⟩, rfl⟩

/-- A call inside the driver, or a `write` to `/dev/oled`. -/
inductive DeviceCall where
  | call (c : OledCall)
  | write (ubuff : List UInt8)

/-- Nothing when a call leaves the font or the frame buffer. -/
def Ssd1306.use (d : Ssd1306) : DeviceCall → Option Ssd1306
  | .call c => d.call c
  | .write ubuff => d.oledWrite ubuff

/-- The states that any calls and writes lead to. -/
def Used (ram : Ram) (d : Ssd1306) : Prop :=
  ∃ d₀, oledProbe ram = some d₀ ∧ Reach Ssd1306.use Any d₀ d

/-- A write sends a text, and nothing else. -/
theorem sound_use {d d' : Ssd1306} {c : DeviceCall} (hd : d.screen.Sound) (h : d.use c = some d') :
    d'.screen.Sound := by
  cases c with
  | call c => exact Ssd1306.sound_call hd h
  | write ubuff =>
      obtain ⟨t, -, h⟩ := Option.bind_eq_some_iff.mp h
      obtain ⟨⟨⟨⟩, s⟩, hexec, rfl⟩ := Option.map_eq_some_iff.mp h
      rw [exec_sendString .white hd.idle (printable_of_exec hd.idle hexec)] at hexec
      obtain ⟨-, rfl⟩ := Prod.mk.inj (Option.some.inj hexec)
      exact hd.sentString

theorem sound_of_used {ram : Ram} {d : Ssd1306} (h : Used ram d) : d.screen.Sound := by
  obtain ⟨d₀, h₀, hreach⟩ := h
  have hstart : d₀.screen.Sound := by
    rw [oledProbe_eq] at h₀
    rw [← Option.some.inj h₀]
    exact sound_placed _ 0 0
  exact hreach.invariant (P := fun d => d.screen.Sound) hstart
    (fun _ _ _ hd _ hstep => sound_use hd hstep)

/-- **EACH FRAME IS SHOWN**: the display memory at power on does not shine through the boot
animation.  Whatever was called in the driver and written to the device, in any order and
with any window left behind, the first frame of the shutdown animation is shown with the
pixels that the writes have left in the frame buffer, and nothing else, and each later
frame as it is; without a write there are no such pixels. -/
theorem animations_shown {ram : Ram} {d : Ssd1306} (h : Used ram d) (frame : FrameBitmap)
    (frames : List FrameBitmap) :
    (∃ d', (oledProbe ram).bind (fun d => run Ssd1306.call d (animation (frames ++ [frame])))
        = some d' ∧ d'.screen.ShowsFrame frame)
      ∧ (∃ d₁ d', run Ssd1306.call d (.clear :: animation [frame]) = some d₁
        ∧ d₁.screen.ShowsOver frame d.buffer
        ∧ run Ssd1306.call d (.clear :: animation (frame :: frames)) = some d'
        ∧ ∀ last, frames.getLast? = some last → d'.screen.ShowsFrame last)
      ∧ (Called ram d → ∀ px py, px < 128 → py < 64 → d.buffer.pixel px py = false) := by
  refine ⟨?_, ?_, fun hcalled px py hx hy => ?_⟩
  · obtain ⟨d', hrun, -, hshows⟩ := animation_shown (frames ++ [frame]) (probe_home ram)
    refine ⟨d', ?_, hshows frame (List.getLast?_concat)⟩
    rw [oledProbe_eq, Option.bind_some]
    exact hrun
  · obtain ⟨d₀, hclear, hd₀, hbuffer⟩ := clear_anywhere (sound_of_used h).idle
    obtain ⟨d₁, d', hfirst, hover, hrun, -, hlater⟩ := animation_over frame frames hd₀
    rw [hbuffer] at hover
    exact ⟨d₁, d', (run_cons hclear _).trans (run_cons hfirst _), hover,
      (run_cons hclear _).trans hrun, hlater⟩
  · rw [buffer_of_called hcalled]
    exact pixel_zero hx hy

/-- Every other column of a screen. -/
def striped : FrameBitmap := ⟨List.replicate 1024 0xAA, List.length_replicate⟩

/-- Something was written, and the last call has left a window of 14 columns and one page. -/
theorem animations_shown_small_window : ∃ d d₁ d', Used (fun _ _ => 0xFF) d
    ∧ d.screen.panel.colStart = 114 ∧ d.screen.panel.pageStart = 7
    ∧ run Ssd1306.call d (.clear :: animation [striped]) = some d₁
    ∧ d₁.screen.ShowsOver striped d.buffer
    ∧ run Ssd1306.call d (.clear :: animation [striped, striped]) = some d'
    ∧ d'.screen.ShowsFrame striped := by
  -- under a name, so that no step below evaluates the 1024 zeros
  obtain ⟨s₀, hs₀⟩ : ∃ s₀, s₀ = (powerOn fun _ _ => 0xFF).zeroed 1024 := ⟨_, rfl⟩
  have hprobe : oledProbe (fun _ _ => 0xFF) = some ⟨s₀.placed 0 0, Buffer.zero 1024⟩ := by
    rw [hs₀]
    exact oledProbe_eq _
  have hidle : (s₀.placed 0 0).Idle := (sound_placed _ 0 0).idle
  have htext : ∀ b ∈ cstr (ascii "written"), Printable b := printable_of_all (by decide)
  obtain ⟨d₀, hwrite, hidle₀, -⟩ := exists_oledWrite (d := ⟨s₀.placed 0 0, Buffer.zero 1024⟩) hidle
    ((writeExact_iff hidle).mpr ⟨by decide, htext, Or.inr (Or.inl (by decide))⟩)
  have hgoto : d₀.call (.gotoXy 19 7) = some { d₀ with screen := d₀.screen.placed 19 7 } :=
    Ssd1306.perform_eq (exec_gotoXy hidle₀ 19 7)
  have hused : Used (fun _ _ => 0xFF) { d₀ with screen := d₀.screen.placed 19 7 } :=
    ⟨_, hprobe,
      Reach.tail (Reach.tail (Reach.refl _) (a := .write (ascii "written")) trivial hwrite)
        (a := .call (.gotoXy 19 7)) trivial hgoto⟩
  obtain ⟨-, ⟨d₁, d', hfirst, hover, hrun, hlater⟩, -⟩ := animations_shown hused striped [striped]
  exact ⟨_, d₁, d', hused, rfl, rfl, hfirst, hover, hrun, hlater striped rfl⟩

/-! ## §6. The whole life. -/

end LoRaGateway
