/-
  LoRaGateway.Display.Font — the glyphs of `Driver/ssd1306.h`.

  A glyph is six columns of a text row, the last of them blank; a byte is a column,
  its lowest bit on top.  The table starts at the space and ends at the tilde.
-/
import Mathlib.Data.List.Basic

namespace LoRaGateway

/-- `FONT_X`. -/
def fontX : Nat := 6

/-- `ssd1306_font`. -/
def ssd1306Font : List (List UInt8) :=
  [ [0x00, 0x00, 0x00, 0x00, 0x00, 0x00], [0x00, 0x00, 0x2F, 0x00, 0x00, 0x00],
    [0x00, 0x07, 0x00, 0x07, 0x00, 0x00], [0x14, 0x7F, 0x14, 0x7F, 0x14, 0x00],
    [0x24, 0x2A, 0x7F, 0x2A, 0x12, 0x00], [0x23, 0x13, 0x08, 0x64, 0x62, 0x00],
    [0x36, 0x49, 0x55, 0x22, 0x50, 0x00], [0x00, 0x05, 0x03, 0x00, 0x00, 0x00],
    [0x00, 0x1C, 0x22, 0x41, 0x00, 0x00], [0x00, 0x41, 0x22, 0x1C, 0x00, 0x00],
    [0x14, 0x08, 0x3E, 0x08, 0x14, 0x00], [0x08, 0x08, 0x3E, 0x08, 0x08, 0x00],
    [0x00, 0x00, 0xA0, 0x60, 0x00, 0x00], [0x08, 0x08, 0x08, 0x08, 0x08, 0x00],
    [0x00, 0x60, 0x60, 0x00, 0x00, 0x00], [0x20, 0x10, 0x08, 0x04, 0x02, 0x00],
    [0x3E, 0x51, 0x49, 0x45, 0x3E, 0x00], [0x00, 0x42, 0x7F, 0x40, 0x00, 0x00],
    [0x42, 0x61, 0x51, 0x49, 0x46, 0x00], [0x21, 0x41, 0x45, 0x4B, 0x31, 0x00],
    [0x18, 0x14, 0x12, 0x7F, 0x10, 0x00], [0x27, 0x45, 0x45, 0x45, 0x39, 0x00],
    [0x3C, 0x4A, 0x49, 0x49, 0x30, 0x00], [0x01, 0x71, 0x09, 0x05, 0x03, 0x00],
    [0x36, 0x49, 0x49, 0x49, 0x36, 0x00], [0x06, 0x49, 0x49, 0x29, 0x1E, 0x00],
    [0x00, 0x36, 0x36, 0x00, 0x00, 0x00], [0x00, 0x56, 0x36, 0x00, 0x00, 0x00],
    [0x08, 0x14, 0x22, 0x41, 0x00, 0x00], [0x14, 0x14, 0x14, 0x14, 0x14, 0x00],
    [0x00, 0x41, 0x22, 0x14, 0x08, 0x00], [0x02, 0x01, 0x51, 0x09, 0x06, 0x00],
    [0x32, 0x49, 0x59, 0x51, 0x3E, 0x00], [0x7C, 0x12, 0x11, 0x12, 0x7C, 0x00],
    [0x7F, 0x49, 0x49, 0x49, 0x36, 0x00], [0x3E, 0x41, 0x41, 0x41, 0x22, 0x00],
    [0x7F, 0x41, 0x41, 0x22, 0x1C, 0x00], [0x7F, 0x49, 0x49, 0x49, 0x41, 0x00],
    [0x7F, 0x09, 0x09, 0x09, 0x01, 0x00], [0x3E, 0x41, 0x49, 0x49, 0x7A, 0x00],
    [0x7F, 0x08, 0x08, 0x08, 0x7F, 0x00], [0x00, 0x41, 0x7F, 0x41, 0x00, 0x00],
    [0x20, 0x40, 0x41, 0x3F, 0x01, 0x00], [0x7F, 0x08, 0x14, 0x22, 0x41, 0x00],
    [0x7F, 0x40, 0x40, 0x40, 0x40, 0x00], [0x7F, 0x02, 0x0C, 0x02, 0x7F, 0x00],
    [0x7F, 0x04, 0x08, 0x10, 0x7F, 0x00], [0x3E, 0x41, 0x41, 0x41, 0x3E, 0x00],
    [0x7F, 0x09, 0x09, 0x09, 0x06, 0x00], [0x3E, 0x41, 0x51, 0x21, 0x5E, 0x00],
    [0x7F, 0x09, 0x19, 0x29, 0x46, 0x00], [0x46, 0x49, 0x49, 0x49, 0x31, 0x00],
    [0x01, 0x01, 0x7F, 0x01, 0x01, 0x00], [0x3F, 0x40, 0x40, 0x40, 0x3F, 0x00],
    [0x1F, 0x20, 0x40, 0x20, 0x1F, 0x00], [0x3F, 0x40, 0x38, 0x40, 0x3F, 0x00],
    [0x63, 0x14, 0x08, 0x14, 0x63, 0x00], [0x07, 0x08, 0x70, 0x08, 0x07, 0x00],
    [0x61, 0x51, 0x49, 0x45, 0x43, 0x00], [0x00, 0x7F, 0x41, 0x41, 0x00, 0x00],
    [0x55, 0xAA, 0x55, 0xAA, 0x55, 0x00], [0x00, 0x41, 0x41, 0x7F, 0x00, 0x00],
    [0x04, 0x02, 0x01, 0x02, 0x04, 0x00], [0x40, 0x40, 0x40, 0x40, 0x40, 0x00],
    [0x00, 0x03, 0x05, 0x00, 0x00, 0x00], [0x20, 0x54, 0x54, 0x54, 0x78, 0x00],
    [0x7F, 0x48, 0x44, 0x44, 0x38, 0x00], [0x38, 0x44, 0x44, 0x44, 0x20, 0x00],
    [0x38, 0x44, 0x44, 0x48, 0x7F, 0x00], [0x38, 0x54, 0x54, 0x54, 0x18, 0x00],
    [0x08, 0x7E, 0x09, 0x01, 0x02, 0x00], [0x18, 0xA4, 0xA4, 0xA4, 0x7C, 0x00],
    [0x7F, 0x08, 0x04, 0x04, 0x78, 0x00], [0x00, 0x44, 0x7D, 0x40, 0x00, 0x00],
    [0x40, 0x80, 0x84, 0x7D, 0x00, 0x00], [0x7F, 0x10, 0x28, 0x44, 0x00, 0x00],
    [0x00, 0x41, 0x7F, 0x40, 0x00, 0x00], [0x7C, 0x04, 0x18, 0x04, 0x78, 0x00],
    [0x7C, 0x08, 0x04, 0x04, 0x78, 0x00], [0x38, 0x44, 0x44, 0x44, 0x38, 0x00],
    [0xFC, 0x24, 0x24, 0x24, 0x18, 0x00], [0x18, 0x24, 0x24, 0x18, 0xFC, 0x00],
    [0x7C, 0x08, 0x04, 0x04, 0x08, 0x00], [0x48, 0x54, 0x54, 0x54, 0x20, 0x00],
    [0x04, 0x3F, 0x44, 0x40, 0x20, 0x00], [0x3C, 0x40, 0x40, 0x20, 0x7C, 0x00],
    [0x1C, 0x20, 0x40, 0x20, 0x1C, 0x00], [0x3C, 0x40, 0x30, 0x40, 0x3C, 0x00],
    [0x44, 0x28, 0x10, 0x28, 0x44, 0x00], [0x1C, 0xA0, 0xA0, 0xA0, 0x7C, 0x00],
    [0x44, 0x64, 0x54, 0x4C, 0x44, 0x00], [0x00, 0x10, 0x7C, 0x82, 0x00, 0x00],
    [0x00, 0x00, 0xFF, 0x00, 0x00, 0x00], [0x00, 0x82, 0x7C, 0x10, 0x00, 0x00],
    [0x00, 0x06, 0x09, 0x09, 0x06, 0x00]]

/-- `ssd1306_font[data - 32]`, where that is an element of the table. -/
def glyph (data : UInt8) : Option (List UInt8) :=
  if 32 ≤ data.toNat then ssd1306Font[data.toNat - 32]? else none

/-- Printable ASCII. -/
def Printable (data : UInt8) : Prop := 32 ≤ data.toNat ∧ data.toNat < 127

instance (data : UInt8) : Decidable (Printable data) := inferInstanceAs (Decidable (_ ∧ _))

/-- A text is checked character by character. -/
theorem printable_of_all {text : List UInt8} (h : (text.all fun b => decide (Printable b)) = true) :
    ∀ b ∈ text, Printable b := by
  intro b hb
  exact of_decide_eq_true (List.all_eq_true.mp h b hb)

theorem length_ssd1306Font : ssd1306Font.length = 95 := rfl

theorem length_of_mem_ssd1306Font {g : List UInt8} (h : g ∈ ssd1306Font) : g.length = fontX := by
  have hall : ssd1306Font.all (fun g => g.length == fontX) = true := rfl
  exact beq_iff_eq.mp (List.all_eq_true.mp hall g h)

/-- **The table has the printable characters.** -/
theorem isSome_glyph_iff {data : UInt8} : (glyph data).isSome = true ↔ Printable data := by
  unfold glyph Printable
  by_cases h : 32 ≤ data.toNat
  · rw [if_pos h, Option.isSome_iff_ne_none, ne_eq, List.getElem?_eq_none_iff,
      length_ssd1306Font]
    omega
  · rw [if_neg h]
    exact iff_of_false (by simp) (fun hp => h hp.1)

theorem length_glyph {data : UInt8} {g : List UInt8} (h : glyph data = some g) :
    g.length = fontX := by
  unfold glyph at h
  split at h
  · exact length_of_mem_ssd1306Font (List.mem_of_getElem? h)
  · cases h

/-- The columns of a printable character. -/
theorem length_glyph_getD {data : UInt8} (h : Printable data) :
    ((glyph data).getD []).length = fontX := by
  obtain ⟨g, hg⟩ := Option.isSome_iff_exists.mp (isSome_glyph_iff.mpr h)
  rw [hg, Option.getD_some]
  exact length_glyph hg

end LoRaGateway
