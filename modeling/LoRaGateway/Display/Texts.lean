/-
  LoRaGateway.Display.Texts
  ─────────────────────────
  **THE TEXTS OF THE STATUS LINES FIT INTO THEIR ROWS**, for all that they print, but
  for the number of nodes, which has room for six characters.
-/
import LoRaGateway.Display.Rows

namespace LoRaGateway

open LoRaGateway.Lib

/-! ## §1. Numbers. -/

/-- At most `n` printable characters. -/
def Within (n : Nat) (text : List UInt8) : Prop := (∀ b ∈ text, Printable b) ∧ text.length ≤ n

instance (n : Nat) (text : List UInt8) : Decidable (Within n text) :=
  decidable_of_iff ((text.all fun b => decide (Printable b)) = true ∧ text.length ≤ n)
    (and_congr_left' (by simp))

/-- One text behind the other. -/
theorem Within.append {m n : Nat} {as bs : List UInt8} (ha : Within m as) (hb : Within n bs) :
    Within (m + n) (as ++ bs) := by
  refine ⟨fun b h => ?_, ?_⟩
  · rcases List.mem_append.mp h with h | h
    · exact ha.1 b h
    · exact hb.1 b h
  · rw [List.length_append]
    exact Nat.add_le_add ha.2 hb.2

/-- One more character. -/
theorem Within.cons {n : Nat} {b : UInt8} {bs : List UInt8} (hb : Printable b)
    (h : Within n bs) : Within (1 + n) (b :: bs) := by
  have hone : Within 1 [b] :=
    ⟨fun c hc => by rw [List.mem_singleton.mp hc]; exact hb, Nat.le_refl 1⟩
  exact hone.append h

/-- A row has twenty characters. -/
theorem Within.fits {n : Nat} {text : List UInt8} (h : Within n text) (hn : n ≤ 20) : Fits text :=
  ⟨h.1, Nat.le_trans h.2 hn⟩

/-- Digits are printable. -/
theorem printable_of_isDigit {b : UInt8} (h : isDigit b = true) : Printable b := by
  simp only [isDigit, Bool.and_eq_true, decide_eq_true_eq, UInt8.le_iff_toNat_le,
    UInt8.reduceToNat] at h
  unfold Printable
  omega

/-- So are numbers. -/
theorem printable_decimalNat (n : Nat) : ∀ b ∈ decimalNat n, Printable b :=
  fun b hb => printable_of_isDigit (isDigit_of_mem_decimalNat n b hb)

/-- Below `10 ^ (k + 1)` there are `k + 1` digits. -/
theorem within_decimalNat {k n : Nat} (h : n < 10 ^ (k + 1)) : Within (k + 1) (decimalNat n) :=
  ⟨printable_decimalNat n, length_decimalNat_le h⟩

/-- The digits and the sign. -/
theorem within_decimal {k : Nat} {z : Int} (h : z.natAbs < 10 ^ (k + 1)) :
    Within (1 + (k + 1)) (decimal z) := by
  unfold decimal
  split
  · exact (within_decimalNat h).cons (by decide)
  · obtain ⟨hp, hlen⟩ := within_decimalNat h
    exact ⟨hp, by omega⟩

/-- A byte has at most three digits. -/
theorem within_byte (x : UInt8) : Within 3 (decimalNat x.toNat) :=
  within_decimalNat (k := 2) (by have := x.toNat_lt; omega)

/-- An `int` has at most ten digits. -/
theorem within_printId (id : UInt32) : Within 11 (printId id) := by
  have hlo := id.toInt32.le_toInt
  have hhi := id.toInt32.toInt_lt
  exact within_decimal (k := 9) (by omega)

/-- `%2d` of two digits. -/
theorem within_padded {n : Nat} (h : n < 100) : Within 2 (padded n) := by
  obtain ⟨hp, hlen⟩ := within_decimalNat (k := 1) (by omega : n < 10 ^ 2)
  refine ⟨fun b hb => ?_, ?_⟩
  · rcases List.mem_append.mp hb with hb | hb
    · rw [List.eq_of_mem_replicate hb]
      decide
    · exact hp b hb
  · unfold padded
    rw [List.length_append, List.length_replicate]
    omega

/-! ## §2. Lines. -/

/-- What is printed is printable, however long it is. -/
theorem fits_managerText {nodeCount : UInt32} (h : (managerText nodeCount).length ≤ 20) :
    Fits (managerText nodeCount) := by
  have hname : Within 9 (ascii "Manager: ") := by decide
  have hunit : Within 5 (ascii " node") := by decide
  exact ⟨((hname.append (within_printId nodeCount)).append hunit).1, h⟩

/-- The id of a node. -/
theorem fits_lastIdText (id : UInt32) : Fits (lastIdText id) := by
  have hname : Within 9 (ascii "Last ID: ") := by decide
  exact (hname.append (within_printId id)).fits (by decide)

/-- A brightness is a byte. -/
theorem within_brightnessText (illuminance : UInt8) : Within 15 (brightnessText illuminance) := by
  have hname : Within 12 (ascii "Brightness: ") := by decide
  exact hname.append (within_byte illuminance)

theorem fits_brightnessText (illuminance : UInt8) : Fits (brightnessText illuminance) :=
  (within_brightnessText illuminance).fits (by decide)

/-- One of the names of the modes. -/
theorem within_modeText (mode : UInt32) : Within 12 (modeText mode) := by
  unfold modeText
  split <;> decide

theorem fits_modeText (mode : UInt32) : Fits (modeText mode) :=
  (within_modeText mode).fits (by decide)

/-- Four bytes and three dots. -/
theorem within_ipText (a b c d : UInt8) : Within 19 (ipText a b c d) := by
  have hname : Within 4 (ascii "IP: ") := by decide
  have hdot : ∀ x : UInt8, Within (1 + 3) (46 :: decimalNat x.toNat) :=
    fun x => (within_byte x).cons (by decide)
  exact (((hname.append (within_byte a)).append (hdot b)).append (hdot c)).append (hdot d)

/-- An address fits, with one character to spare. -/
theorem fits_ipText (a b c d : UInt8) : Fits (ipText a b c d) :=
  (within_ipText a b c d).fits (by decide)

/-- Hour and minute have two digits each. -/
theorem within_wallTimeText (seconds : Nat) : Within 16 (wallTimeText seconds) := by
  have hname : Within 11 (ascii "Wall Time: ") := by decide
  have hhour : Within 2 (padded ((seconds + 7 * 3600) / 3600 % 24)) := within_padded (by omega)
  have hmin : Within 2 (padded ((seconds + 7 * 3600) / 60 % 60)) := within_padded (by omega)
  exact (hname.append hhour).append (hmin.cons (by decide : Printable 58))

/-- The time fits. -/
theorem fits_wallTimeText (seconds : Nat) : Fits (wallTimeText seconds) :=
  (within_wallTimeText seconds).fits (by decide)

/-- Degrees, with at most seven digits and a sign. -/
theorem fits_temperatureText (t : Int32) : Fits (temperatureText t) := by
  have hname : Within 10 (ascii "CPU Temp: ") := by decide
  have hunit : Within 2 (ascii "*C") := by decide
  have hlo := t.le_toInt
  have hhi := t.toInt_lt
  have hdegrees : (t.toInt.tdiv 1000).natAbs < 10 ^ 7 := by
    have heq : (t.toInt.tdiv 1000).natAbs = t.toInt.natAbs / 1000 := Int.natAbs_tdiv _ _
    omega
  exact ((hname.append (within_decimal (k := 6) hdegrees)).append hunit).fits (by decide)

/-- One of two words. -/
theorem within_loraText (status : LoRaStatus) : Within 17 (loraText status) := by
  cases status <;> decide

theorem fits_loraText (status : LoRaStatus) : Fits (loraText status) :=
  (within_loraText status).fits (by decide)

end LoRaGateway
