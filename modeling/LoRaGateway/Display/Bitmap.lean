/-
  LoRaGateway.Display.Bitmap
  ──────────────────────────
  **BITMAPS**: `ssd1306_draw_bitmap` and `ssd1306_draw_pixel` of `Driver/ssd1306.c`.

  A frame buffer is 1024 bytes, a byte is eight pixels of a column.  A bitmap is one
  bit a pixel, its rows padded to whole bytes; the loops carry a byte that they
  shift, and the coordinates are bytes themselves.

    • `drawLoops_eq` — the loops draw the pixels of the bits that are set, in order,
    • `drawPixels_isSome_iff`, `pixel_drawPixels` — what drawing a list of pixels does,
    • `drawLoops_clipped_iff` — when it is a clipped blit.
-/
import LoRaGateway.Lib.Raster
import LoRaGateway.Display.Def

namespace LoRaGateway

open LoRaGateway.Lib

/-! ## §1. The functions. -/

/-- `OLED_HEIGHT`. -/
def oledHeight : Nat := 64

/-- `oled->buffer`. -/
abbrev FrameBuffer : Type := Buffer 1024

/-- A bitmap: `height` rows of `(width + 7) / 8` bytes. -/
abbrev Bitmap (width height : UInt8) : Type := Buffer (height.toNat * ((width.toNat + 7) / 8))

/-- `ssd1306_draw_pixel`, with what it returns; nothing when it leaves the buffer. -/
def ssd1306DrawPixel (buffer : FrameBuffer) (x y : UInt8) (color : Color) :
    Option (Int × FrameBuffer) :=
  if x.toNat > oledWidth ∨ y.toNat > oledHeight then some (-1, buffer)
  else
    let bit : UInt8 := 1 <<< (y % 8)
    (buffer.modify (x.toNat + y.toNat / 8 * oledWidth) (fun b =>
      if color = .white then b ||| bit else b &&& ~~~bit)).map (fun buffer => (0, buffer))

/-- The byte of column `i` of row `j`, after `byte`. -/
def nextByte (bitmap : List UInt8) (byteWidth j i : Nat) (byte : UInt8) : Option UInt8 :=
  if i &&& 7 ≠ 0 then some (byte <<< 1) else bitmap[j * byteWidth + i / 8]?

/-- `if (byte & 0x80) ssd1306_draw_pixel(...)`. -/
def drawTop (byte x y : UInt8) (color : Color) (buffer : FrameBuffer) : Option FrameBuffer :=
  if byte &&& 0x80 ≠ 0 then (ssd1306DrawPixel buffer x y color).map (·.2) else some buffer

/-- The loop over the columns of row `j`, `n` of them from `i`; with the last `byte`. -/
def columnLoop (bitmap : List UInt8) (byteWidth : Nat) (color : Color) (x y : UInt8) (j : Nat) :
    Nat → Nat → UInt8 → FrameBuffer → Option (UInt8 × FrameBuffer)
  | 0, _, byte, buffer => some (byte, buffer)
  | n + 1, i, byte, buffer => do
      let byte ← nextByte bitmap byteWidth j i byte
      let buffer ← drawTop byte (x + UInt8.ofNat i) y color buffer
      columnLoop bitmap byteWidth color x y j n (i + 1) byte buffer

/-- The loop over the rows, `n` of them from `j`. -/
def rowLoop (bitmap : List UInt8) (byteWidth : Nat) (color : Color) (x width : UInt8) :
    Nat → Nat → UInt8 → UInt8 → FrameBuffer → Option FrameBuffer
  | 0, _, _, _, buffer => some buffer
  | n + 1, j, y, byte, buffer => do
      let (byte, buffer) ← columnLoop bitmap byteWidth color x y j width.toNat 0 byte buffer
      rowLoop bitmap byteWidth color x width n (j + 1) (y + 1) byte buffer

/-- `ssd1306_draw_bitmap`, as far as `ssd1306_sync`. -/
def drawLoops {width height : UInt8} (bitmap : Bitmap width height) (x y : UInt8) (color : Color)
    (buffer : FrameBuffer) : Option FrameBuffer :=
  rowLoop bitmap.bytes ((width.toNat + 7) / 8) color x width height.toNat 0 y 0 buffer

/-- `ssd1306_sync`: the buffer is sent, and cleared. -/
def ssd1306Sync (buffer : FrameBuffer) : Oled FrameBuffer := do
  ssd1306BurstWrite buffer.bytes .data
  return Buffer.zero 1024

/-! ## §2. Pixels. -/

/-- Pixel `(px, py)`. -/
def FrameBuffer.pixel (buffer : FrameBuffer) (px py : Nat) : Bool :=
  bit (buffer.bytes.getD (px + py / 8 * oledWidth) 0) (py % 8)

/-- The coordinates pass the test of `ssd1306_draw_pixel`. -/
def Accepted (p : UInt8 × UInt8) : Prop := p.1.toNat ≤ oledWidth ∧ p.2.toNat ≤ oledHeight

/-- The byte of the buffer that these coordinates select. -/
def cell (p : UInt8 × UInt8) : Nat := p.1.toNat + p.2.toNat / 8 * oledWidth

/-- The pixel of these coordinates is `(px, py)`. -/
def Addresses (p : UInt8 × UInt8) (px py : Nat) : Prop :=
  Accepted p ∧ cell p = px + py / 8 * oledWidth ∧ p.2.toNat % 8 = py % 8

/-- One pixel after the other. -/
def drawPixels (color : Color) (ps : List (UInt8 × UInt8)) (buffer : FrameBuffer) :
    Option FrameBuffer :=
  ps.foldlM (fun buffer p => (ssd1306DrawPixel buffer p.1 p.2 color).map (·.2)) buffer

section Pixels

variable {buffer buffer' : FrameBuffer} {p : UInt8 × UInt8} {color : Color} {px py : Nat}

theorem drawPixel_isSome_iff (buffer : FrameBuffer) (p : UInt8 × UInt8) (color : Color) :
    (ssd1306DrawPixel buffer p.1 p.2 color).isSome = true ↔ (Accepted p → cell p < 1024) := by
  unfold ssd1306DrawPixel
  by_cases h : p.1.toNat > oledWidth ∨ p.2.toNat > oledHeight
  · rw [if_pos h]
    exact iff_of_true rfl (fun hp => absurd hp (by unfold Accepted; omega))
  · have hp : Accepted p := by
      unfold Accepted
      omega
    rw [if_neg h, Option.isSome_map, Buffer.isSome_modify_iff]
    exact ⟨fun hlt _ => hlt, fun hlt => hlt hp⟩

/-- **One white pixel.** -/
theorem pixel_drawPixel {code : Int}
    (h : ssd1306DrawPixel buffer p.1 p.2 .white = some (code, buffer')) (hx : px < 128)
    (hy : py < 64) :
    buffer'.pixel px py = true ↔ buffer.pixel px py = true ∨ Addresses p px py := by
  have hin : px + py / 8 * oledWidth < 1024 := by
    show px + py / 8 * 128 < 1024
    omega
  unfold ssd1306DrawPixel at h
  split at h
  next hout =>
    obtain ⟨-, rfl⟩ := Prod.mk.inj (Option.some.inj h)
    have hnot : ¬ Addresses p px py := by
      intro ha
      have hpass := ha.1
      unfold Accepted at hpass
      omega
    exact (or_iff_left hnot).symm
  next hpass =>
    have hp : Accepted p := by
      unfold Accepted
      omega
    obtain ⟨b, hb, heq⟩ := Option.map_eq_some_iff.mp h
    obtain ⟨-, rfl⟩ := Prod.mk.inj heq
    have hk : (p.2 % 8).toNat = p.2.toNat % 8 := UInt8.toNat_mod _ _
    unfold FrameBuffer.pixel
    rw [Buffer.getD_modify hb hin]
    by_cases hcell : px + py / 8 * oledWidth = p.1.toNat + p.2.toNat / 8 * oledWidth
    · rw [if_pos hcell, if_pos rfl, bit_or_shift _ (by omega), hk, Bool.or_eq_true,
        decide_eq_true_eq]
      exact or_congr_right ⟨fun hbit => ⟨hp, hcell.symm, hbit.symm⟩, fun ha => ha.2.2.symm⟩
    · rw [if_neg hcell]
      exact (or_iff_left (fun ha => hcell ha.2.1.symm)).symm

theorem drawPixels_cons (ps : List (UInt8 × UInt8)) :
    drawPixels color (p :: ps) buffer
      = ((ssd1306DrawPixel buffer p.1 p.2 color).map (·.2)).bind (drawPixels color ps) := by
  unfold drawPixels
  rw [List.foldlM_cons]
  rfl

theorem drawPixels_append (ps qs : List (UInt8 × UInt8)) :
    drawPixels color (ps ++ qs) buffer
      = (drawPixels color ps buffer).bind (drawPixels color qs) := by
  unfold drawPixels
  rw [List.foldlM_append]
  rfl

/-- **No pixel may leave the buffer.** -/
theorem drawPixels_isSome_iff {ps : List (UInt8 × UInt8)} :
    (drawPixels color ps buffer).isSome = true ↔ ∀ p ∈ ps, Accepted p → cell p < 1024 := by
  induction ps generalizing buffer with
  | nil => exact iff_of_true rfl (fun p hp => absurd hp List.not_mem_nil)
  | cons p ps ih =>
      rw [drawPixels_cons, List.forall_mem_cons, ← drawPixel_isSome_iff buffer p color]
      cases ssd1306DrawPixel buffer p.1 p.2 color with
      | none => simp
      | some x => exact ih.trans (by simp)

/-- **The pixels that were set, and those that are drawn.** -/
theorem pixel_drawPixels {ps : List (UInt8 × UInt8)}
    (h : drawPixels .white ps buffer = some buffer') (hx : px < 128) (hy : py < 64) :
    buffer'.pixel px py = true ↔ buffer.pixel px py = true ∨ ∃ p ∈ ps, Addresses p px py := by
  induction ps generalizing buffer with
  | nil =>
      obtain rfl : buffer = buffer' := Option.some.inj h
      simp
  | cons p ps ih =>
      rw [drawPixels_cons] at h
      obtain ⟨b, hb, hrest⟩ := Option.bind_eq_some_iff.mp h
      obtain ⟨⟨code, b'⟩, hpixel, rfl⟩ := Option.map_eq_some_iff.mp hb
      rw [ih hrest, pixel_drawPixel hpixel hx hy, or_assoc]
      apply or_congr_right
      simp

end Pixels

/-! ## §3. The loops. -/

/-- Bit `i` of row `j`, most significant bit first. -/
def bitmapBit (bitmap : List UInt8) (byteWidth j i : Nat) : Bool :=
  msbFirst (fun k => bitmap.getD (j * byteWidth + k) 0) i

/-- The pixels of a row, `n` columns from `i`. -/
def columnPixels (bitmap : List UInt8) (byteWidth : Nat) (x y : UInt8) (j i n : Nat) :
    List (UInt8 × UInt8) :=
  ((List.range' i n).filter (bitmapBit bitmap byteWidth j)).map (fun i => (x + UInt8.ofNat i, y))

/-- The pixels of `n` rows from `j`. -/
def rowPixels (bitmap : List UInt8) (byteWidth : Nat) (x width : UInt8) :
    Nat → Nat → UInt8 → List (UInt8 × UInt8)
  | 0, _, _ => []
  | n + 1, j, y =>
      columnPixels bitmap byteWidth x y j 0 width.toNat
        ++ rowPixels bitmap byteWidth x width n (j + 1) (y + 1)

section Loops

variable {bitmap : List UInt8} {byteWidth : Nat} {color : Color} {x width : UInt8}

/-- The byte of a column has the bit of the column at its top. -/
theorem nextByte_eq {j i : Nat} {byte : UInt8} (hlen : j * byteWidth + i / 8 < bitmap.length)
    (hbyte : i % 8 ≠ 0 → InStep (fun k => bitmap.getD (j * byteWidth + k) 0) i (byte <<< 1)) :
    ∃ byte', nextByte bitmap byteWidth j i byte = some byte'
      ∧ InStep (fun k => bitmap.getD (j * byteWidth + k) 0) i byte' := by
  have hmask : i &&& 7 = i % 8 := Nat.and_two_pow_sub_one_eq_mod i 3
  unfold nextByte
  by_cases hi : i % 8 = 0
  · refine ⟨bitmap.getD (j * byteWidth + i / 8) 0, ?_, inStep_load hi⟩
    rw [if_neg (by omega), List.getElem?_eq_getElem hlen, List.getD_eq_getElem?_getD,
      List.getElem?_eq_getElem hlen, Option.getD_some]
  · exact ⟨byte <<< 1, if_pos (by omega), hbyte hi⟩

theorem drawTop_eq {byte y : UInt8} {buffer : FrameBuffer} :
    drawTop byte x y color buffer
      = drawPixels color (if bit byte 7 = true then [(x, y)] else []) buffer := by
  unfold drawTop
  by_cases htop : byte &&& 0x80 ≠ 0
  · rw [if_pos htop, if_pos ((and_top_ne_zero_iff byte).mp htop), drawPixels_cons]
    exact (Option.bind_fun_some _).symm
  · rw [if_neg htop, if_neg (fun hb => htop ((and_top_ne_zero_iff byte).mpr hb))]
    rfl

theorem columnPixels_succ (bitmap : List UInt8) (byteWidth : Nat) (x y : UInt8) (j i n : Nat) :
    columnPixels bitmap byteWidth x y j i (n + 1)
      = (if bitmapBit bitmap byteWidth j i = true then [(x + UInt8.ofNat i, y)] else [])
        ++ columnPixels bitmap byteWidth x y j (i + 1) n := by
  unfold columnPixels
  rw [List.range'_succ, List.filter_cons]
  split <;> rfl

/-- **A row.**  The byte is loaded every eight columns, and shifted in between. -/
theorem columnLoop_eq (color : Color) (x y : UInt8) (j : Nat) :
    ∀ (n i : Nat) (byte : UInt8) (buffer : FrameBuffer),
    (∀ k, k < i + n → j * byteWidth + k / 8 < bitmap.length) →
      (i % 8 ≠ 0 → InStep (fun k => bitmap.getD (j * byteWidth + k) 0) i (byte <<< 1)) →
        (columnLoop bitmap byteWidth color x y j n i byte buffer).map (·.2)
          = drawPixels color (columnPixels bitmap byteWidth x y j i n) buffer := by
  intro n
  induction n with
  | zero =>
      intro i byte buffer _ _
      rfl
  | succ n ih =>
      intro i byte buffer hlen hbyte
      obtain ⟨byte', hload, hin⟩ := nextByte_eq (hlen i (by omega)) hbyte
      have hbit : bit byte' 7 = bitmapBit bitmap byteWidth j i := hin.top
      have hnext := fun b => ih (i + 1) byte' b (fun k hk => hlen k (by omega)) hin.next
      rw [columnPixels_succ, drawPixels_append, ← hbit, ← drawTop_eq, columnLoop, hload]
      show Option.map _ (Option.bind (drawTop byte' (x + UInt8.ofNat i) y color buffer) _) = _
      rw [Option.map_bind]
      exact congrArg _ (funext hnext)

/-- **The rows.** -/
theorem rowLoop_eq : ∀ (n j : Nat) (y byte : UInt8) (buffer : FrameBuffer),
    (∀ j' k, j' < j + n → k < width.toNat → j' * byteWidth + k / 8 < bitmap.length) →
      rowLoop bitmap byteWidth color x width n j y byte buffer
        = drawPixels color (rowPixels bitmap byteWidth x width n j y) buffer := by
  intro n
  induction n with
  | zero =>
      intro j y byte buffer _
      rfl
  | succ n ih =>
      intro j y byte buffer hlen
      have hrow := columnLoop_eq color x y j width.toNat 0 byte
        buffer (fun k hk => hlen j k (by omega) (by omega)) (fun h => absurd rfl h)
      have hnext := fun byte b => ih (j + 1) (y + 1) byte b
        (fun j' k hj hk => hlen j' k (by omega) hk)
      rw [rowPixels, drawPixels_append, ← hrow, Option.bind_map, rowLoop]
      exact congrArg _ (funext fun r => hnext r.1 r.2)

theorem mem_columnPixels {p : UInt8 × UInt8} {y : UInt8} {j n : Nat} :
    p ∈ columnPixels bitmap byteWidth x y j 0 n ↔
      ∃ i, i < n ∧ bitmapBit bitmap byteWidth j i = true ∧ p = (x + UInt8.ofNat i, y) := by
  unfold columnPixels
  simp only [List.mem_map, List.mem_filter, List.mem_range'_1, Nat.zero_le, true_and,
    Nat.zero_add, and_assoc, eq_comm]

theorem mem_rowPixels {p : UInt8 × UInt8} : ∀ {n j : Nat} {y : UInt8},
    p ∈ rowPixels bitmap byteWidth x width n j y ↔
      ∃ m i, m < n ∧ i < width.toNat ∧ bitmapBit bitmap byteWidth (j + m) i = true
        ∧ p = (x + UInt8.ofNat i, y + UInt8.ofNat m) := by
  intro n
  induction n with
  | zero =>
      intro j y
      exact iff_of_false List.not_mem_nil (fun ⟨_, _, hm, _⟩ => absurd hm (Nat.not_lt_zero _))
  | succ n ih =>
      intro j y
      have hy : y + UInt8.ofNat 0 = y := UInt8.add_zero y
      have hnext : ∀ m, y + 1 + UInt8.ofNat m = y + UInt8.ofNat (m + 1) := by
        intro m
        rw [UInt8.add_assoc, UInt8.add_comm 1, UInt8.ofNat_add]
        rfl
      rw [rowPixels, List.mem_append, mem_columnPixels, ih]
      constructor
      · intro h
        rcases h with ⟨i, hi, hbit, hp⟩ | ⟨m, i, hm, hi, hbit, hp⟩
        · refine ⟨0, i, by omega, hi, hbit, ?_⟩
          rw [hp, hy]
        · refine ⟨m + 1, i, by omega, hi, ?_, ?_⟩
          · rw [show j + (m + 1) = j + 1 + m by omega]
            exact hbit
          · rw [hp, hnext]
      · intro h
        obtain ⟨m, i, hm, hi, hbit, hp⟩ := h
        cases m with
        | zero =>
            rw [hy] at hp
            exact Or.inl ⟨i, hi, hbit, hp⟩
        | succ m =>
            right
            refine ⟨m, i, by omega, hi, ?_, ?_⟩
            · rw [show j + 1 + m = j + (m + 1) by omega]
              exact hbit
            · rw [hp, hnext]

end Loops

/-! ## §4. The blit. -/

section Blit

variable {width height : UInt8}

/-- The bit of column `i` and row `j` is in the bitmap, and set. -/
def Lit (bitmap : Bitmap width height) (i j : Nat) : Prop :=
  i < width.toNat ∧ j < height.toNat
    ∧ bitmapBit bitmap.bytes ((width.toNat + 7) / 8) j i = true

/-- A bit that is set lies on the pixel, with the corner of the bitmap at `(x, y)`. -/
def Overlaid (bitmap : Bitmap width height) (x y : UInt8) (px py : Nat) : Prop :=
  ∃ i j, Lit bitmap i j ∧ x.toNat + i = px ∧ y.toNat + j = py

/-- Drawing stays in the buffer, and sets the pixels on which the bitmap lies. -/
def ClippedBlit (bitmap : Bitmap width height) (x y : UInt8) (buffer : FrameBuffer) : Prop :=
  ∃ buffer', drawLoops bitmap x y .white buffer = some buffer'
    ∧ ∀ px py, px < 128 → py < 64 →
        (buffer'.pixel px py = true ↔ buffer.pixel px py = true ∨ Overlaid bitmap x y px py)

/-- What becomes of the bits that the loops take to coordinates off the screen, or
around the end of a byte, leaves the buffer and the pixels as they should be. -/
structure NoStrayBits (bitmap : Bitmap width height) (x y : UInt8) (buffer : FrameBuffer) :
    Prop where
  /-- no bit comes to row 64 -/
  row : ∀ i j, Lit bitmap i j → (x.toNat + i) % 256 ≤ 128 → (y.toNat + j) % 256 ≠ 64
  /-- a bit in column 128 is drawn in column 0, eight rows down: that row is on the
  screen, and the pixel is set anyway -/
  column : ∀ i j, Lit bitmap i j → (x.toNat + i) % 256 = 128 → (y.toNat + j) % 256 < 64 →
    (y.toNat + j) % 256 < 56
      ∧ (buffer.pixel 0 ((y.toNat + j) % 256 + 8) = true
          ∨ Overlaid bitmap x y 0 ((y.toNat + j) % 256 + 8))
  /-- a bit whose coordinates wrap around is drawn where the pixel was set before -/
  wrapped : ∀ i j, Lit bitmap i j → 256 ≤ x.toNat + i ∨ 256 ≤ y.toNat + j →
    (x.toNat + i) % 256 < 128 → (y.toNat + j) % 256 < 64 →
      buffer.pixel ((x.toNat + i) % 256) ((y.toNat + j) % 256) = true

variable {bitmap : Bitmap width height} {x y : UInt8} {buffer : FrameBuffer} {px py : Nat}

/-- Where a bit is drawn. -/
def placed (x y : UInt8) (i j : Nat) : UInt8 × UInt8 := (x + UInt8.ofNat i, y + UInt8.ofNat j)

theorem toNat_add_ofNat (x : UInt8) (i : Nat) :
    (x + UInt8.ofNat i).toNat = (x.toNat + i) % 256 := by
  rw [UInt8.toNat_add, UInt8.toNat_ofNat']
  omega

/-- **The loops draw the bits that are set**, in order. -/
theorem drawLoops_eq (bitmap : Bitmap width height) (x y : UInt8) (color : Color)
    (buffer : FrameBuffer) :
    ∃ ps, drawLoops bitmap x y color buffer = drawPixels color ps buffer
      ∧ ∀ p, p ∈ ps ↔ ∃ i j, Lit bitmap i j ∧ p = placed x y i j := by
  have hsize : ∀ j k, j < 0 + height.toNat → k < width.toNat →
      j * ((width.toNat + 7) / 8) + k / 8 < bitmap.bytes.length := by
    intro j k hj hk
    rw [bitmap.size]
    calc j * ((width.toNat + 7) / 8) + k / 8
        < j * ((width.toNat + 7) / 8) + (width.toNat + 7) / 8 := by omega
      _ = (j + 1) * ((width.toNat + 7) / 8) := (Nat.succ_mul _ _).symm
      _ ≤ height.toNat * ((width.toNat + 7) / 8) := Nat.mul_le_mul_right _ (by omega)
  refine ⟨_, rowLoop_eq height.toNat 0 y 0 buffer hsize, fun p => ?_⟩
  rw [mem_rowPixels]
  constructor
  · intro h
    obtain ⟨j, i, hj, hi, hbit, hp⟩ := h
    rw [Nat.zero_add] at hbit
    exact ⟨i, j, ⟨hi, hj, hbit⟩, hp⟩
  · intro h
    obtain ⟨i, j, ⟨hi, hj, hbit⟩, hp⟩ := h
    refine ⟨j, i, hj, hi, ?_, hp⟩
    rw [Nat.zero_add]
    exact hbit

theorem accepted_placed_iff {i j : Nat} :
    Accepted (placed x y i j) ↔ (x.toNat + i) % 256 ≤ 128 ∧ (y.toNat + j) % 256 ≤ 64 := by
  unfold Accepted placed
  rw [toNat_add_ofNat, toNat_add_ofNat]
  exact Iff.rfl

theorem cell_placed {i j : Nat} :
    cell (placed x y i j) = (x.toNat + i) % 256 + (y.toNat + j) % 256 / 8 * 128 := by
  unfold cell placed
  rw [toNat_add_ofNat, toNat_add_ofNat]
  rfl

/-- A pixel of the screen is addressed by its own coordinates, or from column 128. -/
theorem addresses_placed_iff {i j : Nat} (hx : px < 128) :
    Addresses (placed x y i j) px py ↔
      (x.toNat + i) % 256 ≤ 128 ∧ (y.toNat + j) % 256 ≤ 64
        ∧ ((x.toNat + i) % 256 = px ∧ (y.toNat + j) % 256 = py
          ∨ (x.toNat + i) % 256 = 128 ∧ px = 0 ∧ (y.toNat + j) % 256 + 8 = py) := by
  have hbit : (placed x y i j).2.toNat = (y.toNat + j) % 256 := toNat_add_ofNat y j
  unfold Addresses
  rw [accepted_placed_iff, cell_placed, hbit]
  show _ ∧ _ = px + py / 8 * 128 ∧ _ ↔ _
  omega

/-- A coordinate that wraps comes out before the corner of the bitmap, which has at most
255 rows and columns. -/
theorem not_overlaid_of_wrapped {i j : Nat} (hlit : Lit bitmap i j)
    (hwrap : 256 ≤ x.toNat + i ∨ 256 ≤ y.toNat + j) :
    ¬ Overlaid bitmap x y ((x.toNat + i) % 256) ((y.toNat + j) % 256) := by
  intro hover
  obtain ⟨i', j', -, hx', hy'⟩ := hover
  have hi := Nat.lt_trans hlit.1 width.toNat_lt
  have hj := Nat.lt_trans hlit.2.1 height.toNat_lt
  have hx256 := x.toNat_lt
  have hy256 := y.toNat_lt
  omega

theorem ClippedBlit.noStrayBits (h : ClippedBlit bitmap x y buffer) :
    NoStrayBits bitmap x y buffer := by
  obtain ⟨ps, heq, hps⟩ := drawLoops_eq bitmap x y .white buffer
  obtain ⟨buffer', hdraw, hpixels⟩ := h
  rw [heq] at hdraw
  have hinside : ∀ i j, Lit bitmap i j → Accepted (placed x y i j) →
      cell (placed x y i j) < 1024 := by
    intro i j hlit
    exact drawPixels_isSome_iff.mp (Option.isSome_of_eq_some hdraw) _
      ((hps _).mpr ⟨i, j, hlit, rfl⟩)
  -- what is drawn on the screen is set, so it was set before or it is right
  have hset : ∀ i j px py, Lit bitmap i j → px < 128 → py < 64 →
      Addresses (placed x y i j) px py →
        buffer.pixel px py = true ∨ Overlaid bitmap x y px py := by
    intro i j px py hlit hx hy ha
    rw [← hpixels px py hx hy, pixel_drawPixels hdraw hx hy]
    exact Or.inr ⟨_, (hps _).mpr ⟨i, j, hlit, rfl⟩, ha⟩
  refine ⟨fun i j hlit hx hy => ?_, fun i j hlit hx hy => ?_, fun i j hlit hwrap hx hy => ?_⟩
  · have hcell := hinside i j hlit (accepted_placed_iff.mpr ⟨hx, by omega⟩)
    rw [cell_placed] at hcell
    omega
  · have hcell := hinside i j hlit (accepted_placed_iff.mpr ⟨by omega, by omega⟩)
    rw [cell_placed] at hcell
    have hlt : (y.toNat + j) % 256 < 56 := by omega
    exact ⟨hlt, hset i j 0 _ hlit (by omega) (by omega)
      ((addresses_placed_iff (by omega)).mpr ⟨by omega, by omega, Or.inr ⟨hx, rfl, rfl⟩⟩)⟩
  · have hown := hset i j _ _ hlit hx hy
      ((addresses_placed_iff hx).mpr ⟨by omega, by omega, Or.inl ⟨rfl, rfl⟩⟩)
    exact hown.resolve_right (not_overlaid_of_wrapped hlit hwrap)

/-- Without stray bits, no pixel leaves the buffer. -/
theorem NoStrayBits.inside (h : NoStrayBits bitmap x y buffer) {i j : Nat}
    (hlit : Lit bitmap i j) (hacc : Accepted (placed x y i j)) :
    cell (placed x y i j) < 1024 := by
  obtain ⟨hx, hy⟩ := accepted_placed_iff.mp hacc
  have hrow := h.row i j hlit hx
  rw [cell_placed]
  by_cases hedge : (x.toNat + i) % 256 = 128
  · have hcolumn := (h.column i j hlit hedge (by omega)).1
    omega
  · omega

/-- Without stray bits, a pixel that is drawn was set before or is right. -/
theorem NoStrayBits.addressed (h : NoStrayBits bitmap x y buffer) {i j : Nat}
    (hlit : Lit bitmap i j) (hx : px < 128) (hy : py < 64)
    (ha : Addresses (placed x y i j) px py) :
    buffer.pixel px py = true ∨ Overlaid bitmap x y px py := by
  obtain ⟨hx', hy', ⟨hxp, hyp⟩ | ⟨hedge, hpx, hpy⟩⟩ := (addresses_placed_iff hx).mp ha
  · by_cases hwrap : 256 ≤ x.toNat + i ∨ 256 ≤ y.toNat + j
    · left
      rw [← hxp, ← hyp]
      exact h.wrapped i j hlit hwrap (by omega) (by omega)
    · exact Or.inr ⟨i, j, hlit, by omega, by omega⟩
  · rw [hpx, ← hpy]
    exact (h.column i j hlit hedge (by omega)).2

theorem NoStrayBits.clippedBlit (h : NoStrayBits bitmap x y buffer) :
    ClippedBlit bitmap x y buffer := by
  obtain ⟨ps, heq, hps⟩ := drawLoops_eq bitmap x y .white buffer
  have hsome : (drawPixels .white ps buffer).isSome = true := by
    apply drawPixels_isSome_iff.mpr
    intro p hp hacc
    obtain ⟨i, j, hlit, rfl⟩ := (hps p).mp hp
    exact h.inside hlit hacc
  obtain ⟨buffer', hdraw⟩ := Option.isSome_iff_exists.mp hsome
  refine ⟨buffer', heq.trans hdraw, fun px py hx hy => ?_⟩
  rw [pixel_drawPixels hdraw hx hy]
  constructor
  · intro hset
    rcases hset with hset | ⟨p, hp, ha⟩
    · exact Or.inl hset
    · obtain ⟨i, j, hlit, rfl⟩ := (hps p).mp hp
      exact h.addressed hlit hx hy ha
  · intro hset
    rcases hset with hset | ⟨i, j, hlit, hxp, hyp⟩
    · exact Or.inl hset
    · right
      exact ⟨_, (hps _).mpr ⟨i, j, hlit, rfl⟩,
        (addresses_placed_iff hx).mpr ⟨by omega, by omega, Or.inl ⟨by omega, by omega⟩⟩⟩

/-- **When drawing a bitmap is a clipped blit.** -/
theorem drawLoops_clipped_iff (bitmap : Bitmap width height) (x y : UInt8)
    (buffer : FrameBuffer) :
    ClippedBlit bitmap x y buffer ↔ NoStrayBits bitmap x y buffer := by
  constructor
  · intro h
    exact h.noStrayBits
  · intro h
    exact h.clippedBlit

/-- One pixel in column 128 appears in column 0, eight rows below. -/
theorem drawLoops_column_128 :
    ¬ ClippedBlit (⟨[0x80], rfl⟩ : Bitmap 1 1) 128 0 (Buffer.zero 1024) := by
  intro h
  obtain ⟨buffer', hdraw, hpixels⟩ := h
  have hleft : (drawLoops (⟨[0x80], rfl⟩ : Bitmap 1 1) 128 0 .white (Buffer.zero 1024)).map
      (fun buffer => buffer.pixel 0 8) = some true := by decide
  rw [hdraw] at hleft
  have hset := (hpixels 0 8 (by omega) (by omega)).mp (Option.some.inj hleft)
  rcases hset with hbefore | ⟨i, j, -, hx, -⟩
  · exact absurd hbefore (by decide)
  · have hcorner : (128 : UInt8).toNat = 128 := rfl
    omega

/-- A bitmap on the screen has no stray bits. -/
theorem noStrayBits_of_fits (hx : x.toNat + width.toNat ≤ 128)
    (hy : y.toNat + height.toNat ≤ 64) : NoStrayBits bitmap x y buffer := by
  refine ⟨fun i j hlit _ => ?_, fun i j hlit hedge _ => ?_, fun i j hlit hwrap _ _ => ?_⟩
  all_goals
    obtain ⟨hi, hj, -⟩ := hlit
    omega

end Blit

end LoRaGateway
