/-
  LoRaGateway.Display.LineBuffers
  ───────────────────────────────
  **THE STATUS LINES IN THE ARRAYS THAT `sprintf` PRINTS THEM TO.**

  Each of the functions has an array on the stack: twenty bytes, but for the
  temperature, which has ten.  A row has twenty characters, and an array needs one
  byte for the NUL.

    • `Printed.fits_iff` — a text fits when it is shorter than its array,
    • `lines_fit_iff` — for which values all lines fit.
-/
import LoRaGateway.Lib.CBuffer
import LoRaGateway.Display.TwoUsers

namespace LoRaGateway

open LoRaGateway.Lib

/-! ## §1. Lines. -/

/-- A text, and the size of the array that it is printed to. -/
structure Printed where
  size : Nat
  text : List UInt8

namespace Printed

/-- `sprintf`; nothing when it leaves the array. -/
def sprintf (l : Printed) (buff : Buffer l.size) : Option (Buffer l.size) :=
  buff.store 0 (l.text ++ [0])

/-- The text is printed with its NUL, and stays on its row. -/
def Fits (l : Printed) : Prop :=
  (∀ buff, ∃ buff', l.sprintf buff = some buff' ∧ cstr buff'.bytes = l.text)
    ∧ l.text.length ≤ 20

end Printed

/-- `u8 buff[20]` of `show_lastest_node_info`. -/
def nodeLines (node : NodeInfo) : List Printed :=
  [⟨20, managerText node.nodeCount⟩, ⟨20, lastIdText node.id⟩,
    ⟨20, brightnessText node.illuminance⟩, ⟨20, modeText node.mode⟩]

/-- `char ip_address[20]`. -/
def networkLines : Network → List Printed
  | .address a b c d => [⟨20, ipText a b c d⟩]
  | _ => []

/-- `u8 a[10]`, which held the digits that were read. -/
def temperatureLines : Option Int32 → List Printed
  | none => []
  | some t => [⟨10, temperatureText t⟩]

/-- `u8 foo[20]`. -/
def loraLines : Option LoRaStatus → List Printed
  | none => []
  | some s => [⟨20, loraText s⟩]

/-- The arrays of `getinfo`; that of `print_time` is `u8 buff[20]`. -/
def infoLines (r : Readings) : List Printed :=
  networkLines r.wlan0 ++ ⟨20, wallTimeText r.seconds⟩
    :: temperatureLines r.cpuTemperature ++ loraLines r.loraStatus

/-- These are the texts that are sent to the display. -/
theorem text_nodeLines (node : NodeInfo) :
    (nodeLines node).map Printed.text = (nodeUpdates node).map Update.text := rfl

/-- A text that is in no array. -/
def constantTexts : Network → List (List UInt8)
  | .absent => [ascii "WIFI is disable!"]
  | _ => []

theorem text_infoLines (r : Readings) :
    (infoUpdates r).map Update.text
      = constantTexts r.wlan0 ++ (infoLines r).map Printed.text := by
  obtain ⟨wlan0, seconds, cpuTemperature, loraStatus⟩ := r
  cases wlan0 <;> cases cpuTemperature <;> cases loraStatus <;> rfl

/-! ## §2. What fits. -/

theorem zero_not_mem_of_printable {text : List UInt8} (h : ∀ b ∈ text, Printable b) :
    (0 : UInt8) ∉ text := fun hz => absurd (h 0 hz) (by decide)

namespace Printed

/-- **A text without a NUL fits when the array has a byte more.** -/
theorem fits_iff {l : Printed} (h : (0 : UInt8) ∉ l.text) :
    l.Fits ↔ l.text.length < l.size ∧ l.text.length ≤ 20 := by
  have hsize : (l.text ++ [0]).length = l.text.length + 1 := List.length_append
  refine and_congr_left' ⟨fun hstore => ?_, fun hlt buff => ?_⟩
  · obtain ⟨buff', hbuff, -⟩ := hstore (Buffer.zero l.size)
    by_contra hge
    have hnone : l.sprintf (Buffer.zero l.size) = none := Buffer.store_eq_none (by omega)
    exact absurd (hnone.symm.trans hbuff) (by simp)
  · obtain ⟨buff', hbuff⟩ := Buffer.exists_store buff 0 (l.text ++ [0])
      (by omega)
    refine ⟨buff', hbuff, ?_⟩
    -- the NUL ends the text, whatever is behind it
    rw [Buffer.bytes_store hbuff, List.take_zero, List.nil_append, List.append_assoc,
      cstr_append h]
    exact List.append_nil _

theorem fits_of_within {size n : Nat} {text : List UInt8} (h : Within n text) (hsize : n < size)
    (hrow : n ≤ 20) : (⟨size, text⟩ : Printed).Fits :=
  (fits_iff (zero_not_mem_of_printable h.1)).mpr
    ⟨Nat.lt_of_le_of_lt h.2 hsize, Nat.le_trans h.2 hrow⟩

end Printed

section Lines

variable {node : NodeInfo} {r : Readings}

/-- Five characters are left for the number of nodes. -/
theorem fits_managerLine_iff (nodeCount : UInt32) :
    (⟨20, managerText nodeCount⟩ : Printed).Fits ↔
      -10000 < nodeCount.toInt32.toInt ∧ nodeCount.toInt32.toInt < 100000 := by
  have hname : Within 9 (ascii "Manager: ") := by decide
  have hunit : Within 5 (ascii " node") := by decide
  have hprintable := ((hname.append (within_printId nodeCount)).append hunit).1
  have hlen : (managerText nodeCount).length = (printId nodeCount).length + 14 := by
    unfold managerText
    rw [List.length_append, List.length_append]
    show 9 + _ + 5 = _
    omega
  have hwidth : (printId nodeCount).length ≤ 5 ↔ _ := length_decimal_le_iff (k := 3)
  rw [Printed.fits_iff (zero_not_mem_of_printable hprintable)]
  show (managerText nodeCount).length < 20 ∧ (managerText nodeCount).length ≤ 20 ↔ _
  omega

/-- And ten for the id: the sign and nine digits, or ten digits. -/
theorem fits_lastIdLine_iff (id : UInt32) :
    (⟨20, lastIdText id⟩ : Printed).Fits ↔ -1000000000 < id.toInt32.toInt := by
  have hprintable := (fits_lastIdText id).1
  have hlen : (lastIdText id).length = (printId id).length + 9 := by
    unfold lastIdText
    rw [List.length_append]
    show 9 + _ = _
    omega
  have hwidth : (printId id).length ≤ 10 ↔ _ := length_decimal_le_iff (k := 8)
  have hint := id.toInt32.toInt_lt
  rw [Printed.fits_iff (zero_not_mem_of_printable hprintable)]
  show (lastIdText id).length < 20 ∧ (lastIdText id).length ≤ 20 ↔ _
  omega

/-- Ten bytes are taken by `CPU Temp: `. -/
theorem not_fits_temperatureLine (t : Int32) : ¬ (⟨10, temperatureText t⟩ : Printed).Fits := by
  intro h
  rw [Printed.fits_iff (zero_not_mem_of_printable (fits_temperatureText t).1)] at h
  have hlen : 10 ≤ (temperatureText t).length := by
    unfold temperatureText
    rw [List.length_append, List.length_append]
    show 10 ≤ 10 + _ + 2
    omega
  have hlt : (temperatureText t).length < 10 := h.1
  omega

theorem fits_nodeLines_iff :
    (∀ l ∈ nodeLines node, l.Fits) ↔
      (-10000 < node.nodeCount.toInt32.toInt ∧ node.nodeCount.toInt32.toInt < 100000)
        ∧ -1000000000 < node.id.toInt32.toInt := by
  have hbrightness : (⟨20, brightnessText node.illuminance⟩ : Printed).Fits :=
    Printed.fits_of_within (within_brightnessText node.illuminance) (by omega) (by omega)
  have hmode : (⟨20, modeText node.mode⟩ : Printed).Fits :=
    Printed.fits_of_within (within_modeText node.mode) (by omega) (by omega)
  rw [← fits_managerLine_iff, ← fits_lastIdLine_iff]
  simp only [nodeLines, List.forall_mem_cons, List.not_mem_nil, false_implies, implies_true,
    and_true, hbrightness, hmode]

theorem fits_networkLines (wlan0 : Network) : ∀ l ∈ networkLines wlan0, l.Fits := by
  intro l hl
  cases wlan0 with
  | absent => cases hl
  | unconfigured => cases hl
  | address a b c d =>
      rw [List.mem_singleton.mp hl]
      exact Printed.fits_of_within (within_ipText a b c d) (by omega) (by omega)

theorem fits_loraLines (status : Option LoRaStatus) : ∀ l ∈ loraLines status, l.Fits := by
  intro l hl
  cases status with
  | none => cases hl
  | some s =>
      rw [List.mem_singleton.mp hl]
      exact Printed.fits_of_within (within_loraText s) (by omega) (by omega)

theorem fits_infoLines_iff : (∀ l ∈ infoLines r, l.Fits) ↔ r.cpuTemperature = none := by
  constructor
  · intro h
    cases ht : r.cpuTemperature with
    | none => rfl
    | some t =>
        have hmem : (⟨10, temperatureText t⟩ : Printed) ∈ infoLines r := by
          simp [infoLines, temperatureLines, ht]
        exact absurd (h _ hmem) (not_fits_temperatureLine t)
  · intro h l hl
    simp only [infoLines, h, temperatureLines, List.mem_append, List.mem_cons, List.not_mem_nil,
      or_false] at hl
    rcases hl with (hl | hl) | hl
    · exact fits_networkLines _ l hl
    · rw [hl]
      exact Printed.fits_of_within (within_wallTimeText r.seconds) (by omega) (by omega)
    · exact fits_loraLines _ l hl

end Lines

/-! ## §3. All lines. -/

/-- **When all lines fit**: no temperature is printed, the number of nodes takes five
characters, and the id ten. -/
theorem lines_fit_iff (node : NodeInfo) (r : Readings) :
    (∀ l ∈ nodeLines node ++ infoLines r, l.Fits) ↔
      ((-10000 < node.nodeCount.toInt32.toInt ∧ node.nodeCount.toInt32.toInt < 100000)
          ∧ -1000000000 < node.id.toInt32.toInt)
        ∧ r.cpuTemperature = none := by
  rw [List.forall_mem_append, fits_nodeLines_iff, fits_infoLines_iff]

/-- Forty-five degrees do not fit. -/
theorem lines_overflow :
    ¬ ∀ l ∈ nodeLines secondOfTwo ++ infoLines allReadings, l.Fits := by
  intro h
  have hmem : (⟨10, temperatureText 45000⟩ : Printed)
      ∈ nodeLines secondOfTwo ++ infoLines allReadings := by
    simp [infoLines, allReadings, temperatureLines]
  exact not_fits_temperatureLine 45000 (h _ hmem)

end LoRaGateway
