/-
  LoRaGateway.Driver.DataRate
  ───────────────────────────
  **THE LOW-DATA-RATE BIT AND THE SYMBOL TIME.**

  The chip wants bit 3 of `RegModemConfig3` set when a symbol takes more than 16 ms.
  The driver computes this from its fields: in `int`s, rounded down, and with the
  spreading factor as the user gave it, while the register holds the clamped one.

    • `LdoRight` — the bit agrees with the registers and the exact symbol time,
    • `LdoExact` — the pairs of fields for which the computation is exact,
    • `ldo_iff` — along a schedule whose steps leave such pairs, and whose coding
      rates fit their three bits, the bit is right after every step.
-/
import LoRaGateway.Driver.Ioctl
import LoRaGateway.Driver.Mode
import Mathlib.Algebra.Order.Field.Rat
import Mathlib.Tactic.NormNum

namespace LoRaGateway

open LoRaGateway.Lib

/-! ## §1. The symbol time. -/

/-- `2^SF / bandwidth` in milliseconds, for a bandwidth in tenths of a kHz. -/
def symbolTime (sf width : Nat) : ℚ := 2 ^ sf / ((width : ℚ) / 10)

theorem lt_symbolTime_iff {sf width : Nat} (h : 0 < width) :
    (16 : ℚ) < symbolTime sf width ↔ 16 * width < 10 * 2 ^ sf := by
  have hwidth : (0 : ℚ) < (width : ℚ) / 10 := div_pos (Nat.cast_pos.mpr h) (by norm_num)
  unfold symbolTime
  rw [lt_div_iff₀ hwidth, ← mul_div_assoc, div_lt_iff₀ (by norm_num), mul_comm ((2 : ℚ) ^ sf)]
  exact_mod_cast Iff.rfl

/-- The low-data-rate bit is right for the spreading factor and the bandwidth that
the registers hold. -/
def Radio.LdoRight (r : Radio) : Prop :=
  ∃ width, bwTable[(r.modemConfig1 >>> 4).toNat]? = some width
    ∧ (r.modemConfig3 &&& 0x08 ≠ 0 ↔ (16 : ℚ) < symbolTime (r.modemConfig2 >>> 4).toNat width)

/-- An `ioctl` whose index into the table is in range is carried out, leaves the bit
right, and changes no other bit of `RegModemConfig3`. -/
def KeepsLdo (w : Modem) (a : ModemIoctl) : Prop :=
  InRange w a → ∃ w', w.step a = some w' ∧ w'.radio.LdoRight
    ∧ w'.radio.modemConfig3 &&& 0xF7 = w.radio.modemConfig3 &&& 0xF7

/-! ## §2. When the computation is exact. -/

/-- For a spreading factor up to 12: the symbol time is not strictly between 16 ms
and 17 ms.  Above, the register holds 12, and the `int` that is shifted is 20 times
larger or has overflown: the bandwidth of 500 kHz is then the one that needs no bit. -/
def LdoExact (sf bw : Nat) : Prop :=
  if sf ≤ 12 then
    ¬ (16 * bwTable.getD bw 0 < 10 * 2 ^ max 7 sf ∧ 10 * 2 ^ max 7 sf < 17 * bwTable.getD bw 0)
  else sf = 13 ∨ (sf < 32 ∧ (bw ≠ 9 ↔ (sf < 28 ∨ sf = 29)))

instance (sf bw : Nat) : Decidable (LdoExact sf bw) := by
  unfold LdoExact
  infer_instance

/-- The fields after the step are such a pair; the coding rate stays off the bits of
the bandwidth. -/
def LeavesExact (w : Modem) (a : ModemIoctl) : Prop :=
  InRange w a → match a with
    | .bandWidth bw => LdoExact w.settings.spreadingFactor.toNat bw.toNat
    | .codingRate cd => cd &&& 0x78 = 0
    | .spreadingFactor sf => LdoExact sf.toNat w.settings.bandWidth.toNat

/-- The pairs of fields of the table, one by one. -/
theorem ldoExact_table : ∀ sf < 32, ∀ bw < 10,
    ∃ c, calculatedBW (UInt32.ofNat sf) (UInt32.ofNat bw) = some c
      ∧ ((c > 16 ↔ 16 * bwTable.getD bw 0 < 10 * 2 ^ (clampSF (UInt32.ofNat sf)).toNat)
        ↔ LdoExact sf bw) := by
  have hbool : ∀ sf < 32, ∀ bw < 10,
      (calculatedBW (UInt32.ofNat sf) (UInt32.ofNat bw)).any (fun c => decide
        ((c > 16 ↔ 16 * bwTable.getD bw 0 < 10 * 2 ^ (clampSF (UInt32.ofNat sf)).toNat)
          ↔ LdoExact sf bw)) = true := by decide +kernel
  intro sf hsf bw hbw
  have hpair := hbool sf hsf bw hbw
  cases hc : calculatedBW (UInt32.ofNat sf) (UInt32.ofNat bw) with
  | none =>
      rw [hc] at hpair
      cases hpair
  | some c =>
      rw [hc] at hpair
      exact ⟨c, rfl, of_decide_eq_true hpair⟩

/-- What is computed from the fields is right for the clamped spreading factor
exactly for these pairs. -/
theorem calculatedBW_exact_iff {sf bw : UInt32} (hsf : sf < 32) (hbw : bw.toNat < bwTable.length) :
    ∃ c width, calculatedBW sf bw = some c ∧ bwTable[bw.toNat]? = some width
      ∧ ((c > 16 ↔ (16 : ℚ) < symbolTime (clampSF sf).toNat width) ↔ LdoExact sf.toNat bw.toNat) := by
  obtain ⟨c, hc, hiff⟩ := ldoExact_table sf.toNat (UInt32.lt_iff_toNat_lt.mp hsf) bw.toNat hbw
  rw [UInt32.ofNat_toNat, UInt32.ofNat_toNat] at hc
  rw [UInt32.ofNat_toNat] at hiff
  have hwidth : bwTable[bw.toNat]? = some (bwTable.getD bw.toNat 0) := by
    rw [List.getD_eq_getElem?_getD, List.getElem?_eq_getElem hbw, Option.getD_some]
  have hpos : 0 < bwTable.getD bw.toNat 0 := by
    have hall : ∀ i < 10, 0 < bwTable.getD i 0 := by decide
    exact hall bw.toNat hbw
  refine ⟨c, _, hc, hwidth, ?_⟩
  rw [lt_symbolTime_iff hpos]
  exact hiff

/-! ## §3. The bits of the registers. -/

/-- The upper half of a register that was set to `v`. -/
theorem put_high (v x : UInt8) : put 0x0F v x >>> 4 = v >>> 4 := by
  unfold put
  rw [UInt8.shiftRight_or, UInt8.shiftRight_and, show (0x0F : UInt8) >>> (4 : UInt8) = 0 from rfl,
    UInt8.and_zero, UInt8.zero_or]

/-- The upper half does not depend on the lower one. -/
theorem high_of_and {x y : UInt8} (h : x &&& 0xF0 = y &&& 0xF0) : x >>> 4 = y >>> 4 := by
  have hmask : ∀ z : UInt8, (z &&& 0xF0) >>> 4 = z >>> 4 := by
    intro z
    rw [UInt8.shiftRight_and]
    have hall : ∀ b : BitVec 8, (b >>> 4) &&& (0xF0 >>> 4) = b >>> 4 := by decide
    exact UInt8.toBitVec_inj.1 (hall z.toBitVec)
  rw [← hmask x, h, hmask y]

/-- A value of four bits, put in the upper half. -/
theorem high_shift {v : UInt32} (h : v.toNat < 16) : ((v <<< 4).toUInt8 >>> 4).toNat = v.toNat := by
  have hall : ∀ i < 16, ((UInt32.ofNat i <<< 4).toUInt8 >>> 4).toNat = i := by decide
  have hv := hall v.toNat h
  rwa [UInt32.ofNat_toNat] at hv

theorem clampSF_lt (sf : UInt32) : (clampSF sf).toNat < 16 := by
  unfold clampSF
  simp only [gt_iff_lt, UInt32.lt_iff_toNat_lt]
  split
  · split
    · decide
    · decide
  next h =>
    split
    · decide
    · have hle : ¬ 12 < sf.toNat := h
      omega

/-- The bit, computed from fields that the registers agree with. -/
theorem ldoRight_iff {r : Radio} {sf bw : UInt32} {c : Int} {x : UInt8} (hsf : sf < 32)
    (hbw : bw.toNat < bwTable.length) (hc : calculatedBW sf bw = some c)
    (hband : (r.modemConfig1 >>> 4).toNat = bw.toNat)
    (hfactor : (r.modemConfig2 >>> 4).toNat = (clampSF sf).toNat)
    (hbit : r.modemConfig3 = setLdo (decide (c > 16)) x) :
    r.LdoRight ↔ LdoExact sf.toNat bw.toNat := by
  obtain ⟨c', width, hc', hwidth, hiff⟩ := calculatedBW_exact_iff hsf hbw
  obtain rfl : c = c' := Option.some.inj (hc.symm.trans hc')
  have hset : r.modemConfig3 &&& 0x08 ≠ 0 ↔ c > 16 := by
    rw [hbit, setLdo_bit, decide_eq_true_iff]
  rw [← hiff]
  unfold Radio.LdoRight
  rw [hband, hfactor, hset]
  constructor
  · rintro ⟨width', hwidth', h⟩
    obtain rfl : width = width' := Option.some.inj (hwidth.symm.trans hwidth')
    exact h
  · intro h
    exact ⟨width, hwidth, h⟩

/-! ## §4. The invariant. -/

/-- The registers hold what the fields say, and the bit is right. -/
structure DataRateInv (w : Modem) : Prop where
  band : (w.radio.modemConfig1 >>> 4).toNat = w.settings.bandWidth.toNat
  bandInRange : w.settings.bandWidth.toNat < bwTable.length
  factor : (w.radio.modemConfig2 >>> 4).toNat = (clampSF w.settings.spreadingFactor).toNat
  shift : w.settings.spreadingFactor < 32
  right : w.radio.LdoRight

variable {w w' : Modem}

/-- An exact pair has a shift that is defined. -/
theorem LdoExact.lt {sf : UInt32} {bw : Nat} (h : LdoExact sf.toNat bw) : sf < 32 := by
  rw [UInt32.lt_iff_toNat_lt]
  show sf.toNat < 32
  unfold LdoExact at h
  split at h <;> omega

/-- A step that sets the bit leaves the other bits of `RegModemConfig3`. -/
theorem exists_step_iff {w₁ : Modem} {on : Bool}
    (hconfig3 : w₁.radio.modemConfig3 = setLdo on w.radio.modemConfig3) :
    (∃ w', some w₁ = some w' ∧ w'.radio.LdoRight
        ∧ w'.radio.modemConfig3 &&& 0xF7 = w.radio.modemConfig3 &&& 0xF7)
      ↔ w₁.radio.LdoRight := by
  constructor
  · intro h
    obtain ⟨w', hw', hright, -⟩ := h
    rw [Option.some.inj hw']
    exact hright
  · intro h
    refine ⟨w₁, rfl, h, ?_⟩
    rw [hconfig3]
    exact setLdo_others _ _

/-- `BAND_WIDTH`: the bit is right exactly when the new pair is exact. -/
theorem keepsLdo_bandWidth_iff (hinv : DataRateInv w) {bw : UInt32} :
    KeepsLdo w (.bandWidth bw) ↔ LeavesExact w (.bandWidth bw) := by
  refine forall_congr' (fun hrange => ?_)
  have hlt : bw.toNat < 16 := Nat.lt_trans hrange (by decide)
  obtain ⟨c, hc⟩ := Option.isSome_iff_exists.mp (calculatedBW_isSome_iff.mpr ⟨hinv.shift, hrange⟩)
  have hstep := w.step_bandWidth bw
  rw [hc, Option.map_some] at hstep
  have hright := ldoRight_iff (r := { w.radio with
      modemConfig1 := put 0x0F (bw <<< 4).toUInt8 w.radio.modemConfig1
      modemConfig3 := setLdo (decide (c > 16)) w.radio.modemConfig3 }) hinv.shift hrange hc
    (by rw [put_high, high_shift hlt]) hinv.factor rfl
  rw [hstep, exists_step_iff rfl]
  exact hright

theorem keepsLdo_spreadingFactor_iff (hinv : DataRateInv w) {sf : UInt32} :
    KeepsLdo w (.spreadingFactor sf) ↔ LeavesExact w (.spreadingFactor sf) := by
  refine forall_congr' (fun hrange => ?_)
  have hstep := w.step_spreadingFactor sf
  by_cases hsf : sf < 32
  · obtain ⟨c, hc⟩ := Option.isSome_iff_exists.mp (calculatedBW_isSome_iff.mpr ⟨hsf, hrange⟩)
    rw [hc, Option.map_some] at hstep
    have hright := ldoRight_iff (r := { w.radio with
        modemConfig2 := put 0x0F (clampSF sf <<< 4).toUInt8 w.radio.modemConfig2
        modemConfig3 := setLdo (decide (c > 16)) w.radio.modemConfig3 }) hsf hrange hc
      hinv.band (by rw [put_high, high_shift (clampSF_lt sf)]) rfl
    rw [hstep, exists_step_iff rfl]
    exact hright
  · -- the shift is undefined
    have hnone : calculatedBW sf w.settings.bandWidth = none := by
      rw [← Option.not_isSome_iff_eq_none, calculatedBW_isSome_iff]
      exact fun h => hsf h.1
    rw [hstep, hnone]
    constructor
    · rintro ⟨w', hw', -⟩
      cases hw'
    · intro h
      exact absurd h.lt hsf

/-- A coding rate of three bits leaves the bandwidth alone. -/
theorem high_codingRate {cd : UInt32} (h : cd &&& 0x78 = 0) (x : UInt8) :
    put 0xF1 (cd <<< 1).toUInt8 x >>> 4 = x >>> 4 :=
  high_of_and (put_frame (by decide) (codingRate_bits.mpr h))

theorem keepsLdo_codingRate (hinv : DataRateInv w) {cd : UInt32} (h : cd &&& 0x78 = 0) :
    KeepsLdo w (.codingRate cd) := by
  intro _
  refine ⟨_, w.step_codingRate cd, ?_, rfl⟩
  obtain ⟨width, hwidth, hright⟩ := hinv.right
  refine ⟨width, ?_, hright⟩
  show bwTable[(put 0xF1 (cd <<< 1).toUInt8 w.radio.modemConfig1 >>> 4).toNat]? = some width
  rw [high_codingRate h]
  exact hwidth

/-- The coding rates stay in their three bits. -/
def FitsCodingRate (a : ModemIoctl) : Prop := ∀ cd, a = .codingRate cd → cd &&& 0x78 = 0

theorem keepsLdo_of_leavesExact (hinv : DataRateInv w) {a : ModemIoctl} (h : LeavesExact w a) :
    KeepsLdo w a := by
  cases a with
  | bandWidth bw => exact (keepsLdo_bandWidth_iff hinv).mpr h
  | codingRate cd => exact keepsLdo_codingRate hinv (h trivial)
  | spreadingFactor sf => exact (keepsLdo_spreadingFactor_iff hinv).mpr h

theorem leavesExact_of_keepsLdo (hinv : DataRateInv w) {a : ModemIoctl} (h : KeepsLdo w a)
    (hfit : FitsCodingRate a) : LeavesExact w a := by
  cases a with
  | bandWidth bw => exact (keepsLdo_bandWidth_iff hinv).mp h
  | codingRate cd => exact fun _ => hfit cd rfl
  | spreadingFactor sf => exact (keepsLdo_spreadingFactor_iff hinv).mp h

/-- **One step that leaves an exact pair keeps registers, fields and bit together.** -/
theorem DataRateInv.step (hinv : DataRateInv w) {a : ModemIoctl} (h : LeavesExact w a)
    (hs : w.step a = some w') : DataRateInv w' := by
  have hrange := inRange_of_step hs
  obtain ⟨w'', hw'', hright, -⟩ := keepsLdo_of_leavesExact hinv h hrange
  obtain rfl : w' = w'' := Option.some.inj (hs.symm.trans hw'')
  cases a with
  | bandWidth bw =>
      rw [w.step_bandWidth bw] at hs
      obtain ⟨c, hc, rfl⟩ := Option.map_eq_some_iff.mp hs
      refine ⟨?_, hrange, hinv.factor, hinv.shift, hright⟩
      show (put 0x0F (bw <<< 4).toUInt8 w.radio.modemConfig1 >>> 4).toNat = bw.toNat
      rw [put_high, high_shift (Nat.lt_trans hrange (by decide))]
  | codingRate cd =>
      rw [w.step_codingRate cd] at hs
      obtain rfl := Option.some.inj hs
      refine ⟨?_, hinv.bandInRange, hinv.factor, hinv.shift, hright⟩
      show (put 0xF1 (cd <<< 1).toUInt8 w.radio.modemConfig1 >>> 4).toNat = _
      rw [high_codingRate (h trivial)]
      exact hinv.band
  | spreadingFactor sf =>
      rw [w.step_spreadingFactor sf] at hs
      obtain ⟨c, hc, rfl⟩ := Option.map_eq_some_iff.mp hs
      refine ⟨hinv.band, hinv.bandInRange, ?_, (h hrange).lt, hright⟩
      show (put 0x0F (clampSF sf <<< 4).toUInt8 w.radio.modemConfig2 >>> 4).toNat = _
      rw [put_high, high_shift (clampSF_lt sf)]

/-! ## §5. `LoRa_init`. -/

/-- The registers after `LoRa_init`: `SF_7`. -/
def FactorSet (r : Radio) : Prop := r.modemConfig2 >>> 4 = 7

/-- And `BW_125_KHZ`. -/
def BandSet (r : Radio) : Prop := FactorSet r ∧ r.modemConfig1 >>> 4 = 7

/-- And no low-data-rate bit. -/
def ModemSet (r : Radio) : Prop := BandSet r ∧ r.modemConfig3 &&& 0x08 = 0

theorem turns_gotoMode_kept {A : Radio → Prop} {mode : UInt32} (hmode : mode ∈ Mode.handled)
    (h : ∀ r opMode currentMode, A r → A { r with opMode := opMode, currentMode := currentMode }) :
    Turns A (loRaGotoMode mode) (fun _ => A) := by
  rw [loRaGotoMode_eq hmode]
  apply turns_bind (turns_look _)
  intro read
  apply turns_bind (R := fun _ => A)
  · exact turns_perform (fun s hs => h s.1 s.1.opMode mode hs)
  · intro _
    exact turns_write (fun r hr => h r _ r.currentMode hr)

theorem turns_setFactor :
    Turns (fun _ => True) (loRaSetSpreadingFactor .probed 7) (fun _ => FactorSet) := by
  unfold loRaSetSpreadingFactor
  apply turns_bind (turns_any _)
  intro read
  apply turns_bind (R := fun _ => FactorSet)
  · apply turns_write
    intro r _
    show ((clampSF 7 <<< 4).toUInt8 ||| (read &&& (0x0F : UInt8))) >>> 4 = 7
    rw [UInt8.or_comm]
    exact put_high _ _
  · intro _
    exact turns_setAutoLDO _ (fun _ _ h => h)

theorem turns_setBand (data : UInt8) :
    Turns FactorSet (loRaWrite Reg.modemConfig1 ((data &&& 0x01) ||| 0x72)) (fun _ => BandSet) := by
  apply turns_write
  intro r hr
  refine ⟨hr, ?_⟩
  show ((data &&& 0x01) ||| 0x72) >>> 4 = 7
  rw [UInt8.shiftRight_or, UInt8.shiftRight_and, show (0x01 : UInt8) >>> (4 : UInt8) = 0 from rfl,
    UInt8.and_zero, UInt8.zero_or]
  rfl

/-- A symbol of 128 chips at 125 kHz takes 1 ms. -/
theorem turns_clearLdo : Turns BandSet (loRaSetAutoLDO .probed) (fun _ => ModemSet) := by
  have hone : calculatedBW ModemSettings.probed.spreadingFactor ModemSettings.probed.bandWidth
      = some 1 := by decide
  unfold loRaSetAutoLDO
  rw [hone]
  apply turns_bind (R := fun c r => BandSet r ∧ c = 1)
  · exact turns_defined (fun c r hc hr => ⟨hr, (Option.some.inj hc).symm⟩)
  intro c
  apply turns_fact
  rintro rfl
  apply turns_bind (turns_look _)
  intro read
  apply turns_write
  intro r hr
  refine ⟨hr, ?_⟩
  show read &&& 0xF7 &&& 0x08 = 0
  rw [UInt8.and_assoc]
  exact UInt8.and_zero

/-- The last setting of each of the three, for the values of `sx1278_probe`. -/
theorem turns_configure_probed :
    Turns (fun _ => True) (loRaConfigure .probed) (fun _ => ModemSet) := by
  unfold loRaConfigure
  iterate 8
    apply turns_bind (turns_any _)
    intro _
  apply turns_bind turns_setFactor
  intro _
  apply turns_bind (turns_kept (fun _ h => h))
  intro _
  apply turns_bind (turns_look _)
  intro data
  apply turns_bind (turns_setBand data)
  intro _
  apply turns_bind turns_clearLdo
  intro _
  apply turns_bind (turns_kept (fun _ h => h))
  intro _
  apply turns_bind (turns_kept (fun _ h => h))
  intro _
  apply turns_bind (turns_look _)
  intro read'
  apply turns_bind (turns_kept (fun _ h => h))
  intro _
  exact turns_gotoMode_kept (by decide) (fun _ _ _ h => h)

/-- After `LoRa_init` the registers hold what the fields say. -/
theorem Radio.Initialised.dataRateInv {r : Radio} (h : r.Initialised .probed) :
    DataRateInv ⟨r, .probed⟩ := by
  have hinit : Turns (fun _ => True) (sx1278LoRaInit true .probed)
      (fun status r => status = .ok → ModemSet r) :=
    turns_init turns_configure_probed
  obtain ⟨r₀, answers, hrun⟩ := h
  obtain ⟨⟨hfactor, hband⟩, hbit⟩ := hinit.run trivial hrun rfl
  have hsf : (r.modemConfig2 >>> 4).toNat = 7 := by rw [show r.modemConfig2 >>> 4 = 7 from hfactor]; rfl
  have hbw : (r.modemConfig1 >>> 4).toNat = 7 := by rw [hband]; rfl
  have hfast : ¬ (16 : ℚ) < symbolTime 7 1250 := by
    rw [lt_symbolTime_iff (by decide)]
    decide
  refine ⟨hbw, (by decide : 7 < 10), hsf, (by decide : (7 : UInt32) < 32), 1250,
    by rw [hbw]; rfl, ?_⟩
  rw [hsf]
  exact ⟨fun hne => absurd hbit hne, fun hslow => absurd hslow hfast⟩

/-! ## §6. Every schedule. -/

/-- **THE LOW-DATA-RATE BIT IS RIGHT ALONG A SCHEDULE WHOSE STEPS LEAVE EXACT PAIRS**;
and where the coding rates fit their bits, only along such a schedule. -/
theorem ldo_iff {r : Radio} (h : r.Initialised .probed) (as : List ModemIoctl) :
    (Along Modem.step LeavesExact ⟨r, .probed⟩ as → Along Modem.step KeepsLdo ⟨r, .probed⟩ as)
      ∧ ((∀ a ∈ as, FitsCodingRate a) →
        Along Modem.step KeepsLdo ⟨r, .probed⟩ as → Along Modem.step LeavesExact ⟨r, .probed⟩ as) := by
  constructor
  · exact Along.of_invariant (I := DataRateInv) (fun _ _ hinv hQ => keepsLdo_of_leavesExact hinv hQ)
      (fun _ _ _ hinv hQ hs => hinv.step hQ hs) h.dataRateInv
  · intro hfit hkeeps
    exact Along.of_invariant (I := DataRateInv)
      (fun _ _ hinv hP => leavesExact_of_keepsLdo hinv hP.1 hP.2)
      (fun _ _ _ hinv hP hs => hinv.step (leavesExact_of_keepsLdo hinv hP.1 hP.2) hs)
      h.dataRateInv (hkeeps.and (along_of_mem hfit))

/-- `SF_9` at 31.25 kHz: a symbol takes 16.36 ms, which is rounded down to 16. -/
theorem ldo_rounds :
    ¬ ∀ r : Radio, r.Initialised .probed →
      ∀ as : List ModemIoctl, Along Modem.step KeepsLdo ⟨r, .probed⟩ as := by
  intro h
  have hall := h radioAtStart radioAtStart_initialised [.bandWidth 4, .spreadingFactor 9]
  have hband : Modem.step ⟨radioAtStart, .probed⟩ (.bandWidth 4)
      = some ⟨{ radioAtStart with modemConfig1 := 0x42 },
          { ModemSettings.probed with bandWidth := 4 }⟩ := by decide
  have hfactor : Modem.step ⟨{ radioAtStart with modemConfig1 := 0x42 },
        { ModemSettings.probed with bandWidth := 4 }⟩ (.spreadingFactor 9)
      = some ⟨{ radioAtStart with modemConfig1 := 0x42, modemConfig2 := 0x97 },
          { ModemSettings.probed with bandWidth := 4, spreadingFactor := 9 }⟩ := by decide
  obtain ⟨w', hw', ⟨width, hwidth, hbit⟩, -⟩ := (hall.2 _ hband).1 (by decide : 4 < 10)
  obtain rfl := Option.some.inj (hfactor.symm.trans hw')
  obtain rfl : 313 = width := Option.some.inj hwidth
  have hslow : (16 : ℚ) < symbolTime 9 313 := (lt_symbolTime_iff (by decide)).mpr (by decide)
  exact absurd (hbit.mpr hslow) (by decide)

/-- The largest spreading factor, then the largest bandwidth. -/
theorem ldo_slow :
    Along Modem.step KeepsLdo ⟨radioAtStart, .probed⟩ [.spreadingFactor 12, .bandWidth 9] := by
  have hfactor : Modem.step ⟨radioAtStart, .probed⟩ (.spreadingFactor 12)
      = some ⟨{ radioAtStart with modemConfig2 := 0xC7, modemConfig3 := 0x08 },
          { ModemSettings.probed with spreadingFactor := 12 }⟩ := by decide
  refine (ldo_iff radioAtStart_initialised _).1 ⟨fun _ => (by decide : LdoExact 12 7), ?_⟩
  intro s' hs
  obtain rfl := Option.some.inj (hfactor.symm.trans hs)
  exact ⟨fun _ => (by decide : LdoExact 12 9), fun _ _ => trivial⟩

end LoRaGateway
