/-
  LoRaGateway.Driver.FieldBits
  ────────────────────────────
  **WHICH BITS A MODEM `ioctl` CHANGES.**

  Bandwidth and coding rate share `RegModemConfig1`, the spreading factor has the
  upper half of `RegModemConfig2`.  Each setter reads the register, clears its field
  and ors its value in; the value of `CODING_RATE` is not cut to the three bits of
  its field.

    • `ModemIoctl.step_registers` — the registers after an `ioctl`,
    • `reg1_comm`, `reg2_comm` — values that fit can be set in either order,
    • `fields_iff` — every `ioctl` of a schedule is independent of the other
      parameters exactly when the coding rates fit and the shifts are defined,
    • `lastField` — then the last `ioctl` of a parameter decides its field.
-/
import LoRaGateway.Driver.Ioctl
import LoRaGateway.Lib.Run

namespace LoRaGateway

open LoRaGateway.Lib

/-! ## §1. Fields. -/

/-- The parameter that an `ioctl` sets. -/
inductive ModemParameter where
  | bandWidth
  | codingRate
  | spreadingFactor
  deriving DecidableEq

/-- The parameter that it sets. -/
def ModemIoctl.parameter : ModemIoctl → ModemParameter
  | .bandWidth _ => .bandWidth
  | .codingRate _ => .codingRate
  | .spreadingFactor _ => .spreadingFactor

/-- The bits of a parameter in `RegModemConfig1`. -/
def ModemParameter.mask1 : ModemParameter → UInt8
  | .bandWidth => 0xF0
  | .codingRate => 0x0E
  | .spreadingFactor => 0

/-- The bits of a parameter in `RegModemConfig2`. -/
def ModemParameter.mask2 : ModemParameter → UInt8
  | .spreadingFactor => 0xF0
  | _ => 0

/-- Off the field of its own parameter, and off the low-data-rate bit, nothing changes. -/
def OwnBitsOnly (p : ModemParameter) (r r' : Radio) : Prop :=
  r'.modemConfig1 &&& ~~~p.mask1 = r.modemConfig1 &&& ~~~p.mask1
    ∧ r'.modemConfig2 &&& ~~~p.mask2 = r.modemConfig2 &&& ~~~p.mask2
    ∧ r'.modemConfig3 &&& 0xF7 = r.modemConfig3 &&& 0xF7

/-- Two states have the same field of the parameter. -/
def SameField (p : ModemParameter) (r r' : Radio) : Prop :=
  r.modemConfig1 &&& p.mask1 = r'.modemConfig1 &&& p.mask1
    ∧ r.modemConfig2 &&& p.mask2 = r'.modemConfig2 &&& p.mask2

/-- The two `ioctl`s, where both orders are defined, leave the same in
`RegModemConfig1` and `RegModemConfig2`. -/
def CommuteAt (w : Modem) (a b : ModemIoctl) : Prop :=
  ∀ u u', run Modem.step w [a, b] = some u → run Modem.step w [b, a] = some u' →
    u.radio.modemConfig1 = u'.radio.modemConfig1 ∧ u.radio.modemConfig2 = u'.radio.modemConfig2

/-- The value stays inside the field of its parameter. -/
def ModemIoctl.Fits : ModemIoctl → Prop
  | .codingRate cd => cd &&& 0x78 = 0
  | _ => True

/-- An `ioctl` whose index into the table is in range is carried out; it changes its
own bits only, to bits that do not depend on the state before; and it commutes with
every `ioctl` of another parameter that fits. -/
def Independent (w : Modem) (a : ModemIoctl) : Prop :=
  InRange w a → ∃ w', w.step a = some w' ∧ OwnBitsOnly a.parameter w.radio w'.radio
    ∧ (∀ v v' : Modem, v.step a = some v' → SameField a.parameter v'.radio w'.radio)
    ∧ ∀ b : ModemIoctl, b.parameter ≠ a.parameter → b.Fits → CommuteAt w a b

/-- The coding rate has no bit above its field, and the shift by the spreading factor
is defined. -/
def FitsBits (w : Modem) (a : ModemIoctl) : Prop :=
  InRange w a → a.Fits ∧ ∀ sf, a = .spreadingFactor sf → sf < 32

/-! ## §2. The registers after an `ioctl`. -/

/-- `RegModemConfig1` after it. -/
def ModemIoctl.reg1 (x : UInt8) : ModemIoctl → UInt8
  | .bandWidth bw => put 0x0F (bw <<< 4).toUInt8 x
  | .codingRate cd => put 0xF1 (cd <<< 1).toUInt8 x
  | .spreadingFactor _ => x

/-- `RegModemConfig2` after it. -/
def ModemIoctl.reg2 (x : UInt8) : ModemIoctl → UInt8
  | .spreadingFactor sf => put 0x0F (clampSF sf <<< 4).toUInt8 x
  | _ => x

variable {w w' : Modem} {a b : ModemIoctl}

/-- **What one `ioctl` does to the registers.** -/
theorem ModemIoctl.step_registers (hs : w.step a = some w') :
    w'.radio.modemConfig1 = a.reg1 w.radio.modemConfig1
      ∧ w'.radio.modemConfig2 = a.reg2 w.radio.modemConfig2
      ∧ w'.radio.modemConfig3 &&& 0xF7 = w.radio.modemConfig3 &&& 0xF7 := by
  cases a with
  | bandWidth bw =>
      rw [w.step_bandWidth bw] at hs
      obtain ⟨c, -, rfl⟩ := Option.map_eq_some_iff.mp hs
      exact ⟨rfl, rfl, setLdo_others _ _⟩
  | codingRate cd =>
      rw [w.step_codingRate cd] at hs
      obtain rfl := Option.some.inj hs
      exact ⟨rfl, rfl, rfl⟩
  | spreadingFactor sf =>
      rw [w.step_spreadingFactor sf] at hs
      obtain ⟨c, -, rfl⟩ := Option.map_eq_some_iff.mp hs
      exact ⟨rfl, rfl, setLdo_others _ _⟩

/-- A value shifted to the upper half. -/
theorem shifted_bits (v : UInt32) :
    (v <<< 4).toUInt8 &&& (0x0F : UInt8) = 0 ∧ (v <<< 4).toUInt8 &&& (0xF1 : UInt8) = (v <<< 4).toUInt8 := by
  have hall : ∀ b : BitVec 8, (b <<< 4) &&& 0x0F = 0 ∧ (b <<< 4) &&& 0xF1 = b <<< 4 := by decide
  have hbyte : (v <<< 4).toUInt8 = v.toUInt8 <<< 4 := UInt32.toUInt8_shiftLeft v 4 (by decide)
  obtain ⟨hlow, hkept⟩ := hall v.toUInt8.toBitVec
  rw [hbyte]
  exact ⟨UInt8.toBitVec_inj.1 hlow, UInt8.toBitVec_inj.1 hkept⟩

/-- A coding rate that fits has its bits in the field only. -/
theorem codingRate_inside {cd : UInt32} (h : cd &&& 0x78 = 0) :
    (cd <<< 1).toUInt8 &&& (0xF1 : UInt8) = 0 ∧ (cd <<< 1).toUInt8 &&& (0x0F : UInt8) = (cd <<< 1).toUInt8 := by
  have hall : ∀ b : BitVec 8, (b <<< 1) &&& 0xF0 = 0 →
      (b <<< 1) &&& 0xF1 = 0 ∧ (b <<< 1) &&& 0x0F = b <<< 1 := by decide
  have hbyte : (cd <<< 1).toUInt8 = cd.toUInt8 <<< 1 := UInt32.toUInt8_shiftLeft cd 1 (by decide)
  have hbits := codingRate_bits.mpr h
  rw [hbyte] at hbits ⊢
  obtain ⟨hkept, hlow⟩ := hall cd.toUInt8.toBitVec (UInt8.toBitVec_inj.2 hbits)
  exact ⟨UInt8.toBitVec_inj.1 hkept, UInt8.toBitVec_inj.1 hlow⟩

/-- The bits off each field. -/
theorem not_mask : ~~~ModemParameter.bandWidth.mask1 = 0x0F
    ∧ ~~~ModemParameter.codingRate.mask1 = 0xF1
    ∧ ~~~ModemParameter.spreadingFactor.mask2 = 0x0F := by decide

/-- Off its field the register is kept. -/
theorem reg1_others (h : a.Fits) (x : UInt8) :
    a.reg1 x &&& ~~~a.parameter.mask1 = x &&& ~~~a.parameter.mask1 := by
  cases a with
  | bandWidth bw =>
      rw [ModemIoctl.parameter, not_mask.1]
      exact put_frame (by decide) (shifted_bits bw).1
  | codingRate cd =>
      rw [ModemIoctl.parameter, not_mask.2.1]
      exact put_frame (by decide) (codingRate_inside h).1
  | spreadingFactor sf => rfl

theorem reg2_others (a : ModemIoctl) (x : UInt8) :
    a.reg2 x &&& ~~~a.parameter.mask2 = x &&& ~~~a.parameter.mask2 := by
  cases a with
  | spreadingFactor sf =>
      rw [ModemIoctl.parameter, not_mask.2.2]
      exact put_frame (by decide) (shifted_bits (clampSF sf)).1
  | _ => rfl

/-- A field that is set is the same whatever was there. -/
theorem put_field_same {keep v mask : UInt8} (h : keep &&& mask = 0) (x y : UInt8) :
    put keep v x &&& mask = put keep v y &&& mask := (put_field h).trans (put_field h).symm

theorem reg1_field (a : ModemIoctl) (x y : UInt8) :
    a.reg1 x &&& a.parameter.mask1 = a.reg1 y &&& a.parameter.mask1 := by
  cases a with
  | bandWidth bw => exact put_field_same (by decide : (0x0F : UInt8) &&& 0xF0 = 0) x y
  | codingRate cd => exact put_field_same (by decide : (0xF1 : UInt8) &&& 0x0E = 0) x y
  | spreadingFactor sf => exact UInt8.and_zero.trans UInt8.and_zero.symm

theorem reg2_field (a : ModemIoctl) (x y : UInt8) :
    a.reg2 x &&& a.parameter.mask2 = a.reg2 y &&& a.parameter.mask2 := by
  cases a with
  | spreadingFactor sf => exact put_field_same (by decide : (0x0F : UInt8) &&& 0xF0 = 0) x y
  | _ => exact UInt8.and_zero.trans UInt8.and_zero.symm

/-- Bandwidth and coding rate, in either order. -/
theorem put_bandWidth_codingRate (bw : UInt32) {cd : UInt32} (h : cd &&& 0x78 = 0) (x : UInt8) :
    put 0x0F (bw <<< 4).toUInt8 (put 0xF1 (cd <<< 1).toUInt8 x)
      = put 0xF1 (cd <<< 1).toUInt8 (put 0x0F (bw <<< 4).toUInt8 x) :=
  put_comm (shifted_bits bw).2 (codingRate_inside h).2

theorem reg1_comm (hne : b.parameter ≠ a.parameter) (ha : a.Fits) (hb : b.Fits) (x : UInt8) :
    b.reg1 (a.reg1 x) = a.reg1 (b.reg1 x) := by
  cases a with
  | bandWidth bw =>
      cases b with
      | bandWidth bw' => exact absurd rfl hne
      | codingRate cd => exact (put_bandWidth_codingRate bw hb x).symm
      | spreadingFactor sf => rfl
  | codingRate cd =>
      cases b with
      | bandWidth bw => exact put_bandWidth_codingRate bw ha x
      | codingRate cd' => exact absurd rfl hne
      | spreadingFactor sf => rfl
  | spreadingFactor sf => rfl

/-- Only one of two parameters is in `RegModemConfig2`. -/
theorem reg2_comm (hne : b.parameter ≠ a.parameter) (x : UInt8) :
    b.reg2 (a.reg2 x) = a.reg2 (b.reg2 x) := by
  cases a with
  | spreadingFactor sf =>
      cases b with
      | spreadingFactor sf' => exact absurd rfl hne
      | _ => rfl
  | _ => rfl

/-! ## §3. One `ioctl`. -/

/-- The fields allow the division: the shift is defined, the index is in range. -/
def FieldsDefined (w : Modem) : Prop :=
  w.settings.spreadingFactor < 32 ∧ w.settings.bandWidth.toNat < bwTable.length

theorem exists_step (hw : FieldsDefined w) (hrange : InRange w a)
    (hshift : ∀ sf, a = .spreadingFactor sf → sf < 32) : ∃ w', w.step a = some w' := by
  cases a with
  | bandWidth bw =>
      obtain ⟨c, hc⟩ := Option.isSome_iff_exists.mp (calculatedBW_isSome_iff.mpr ⟨hw.1, hrange⟩)
      rw [w.step_bandWidth bw, hc]
      exact ⟨_, rfl⟩
  | codingRate cd => exact ⟨_, w.step_codingRate cd⟩
  | spreadingFactor sf =>
      obtain ⟨c, hc⟩ := Option.isSome_iff_exists.mp
        (calculatedBW_isSome_iff.mpr ⟨hshift sf rfl, hrange⟩)
      rw [w.step_spreadingFactor sf, hc]
      exact ⟨_, rfl⟩

theorem FieldsDefined.step (hw : FieldsDefined w) (hs : w.step a = some w') :
    FieldsDefined w' := by
  cases a with
  | bandWidth bw =>
      rw [w.step_bandWidth bw] at hs
      obtain ⟨c, hc, rfl⟩ := Option.map_eq_some_iff.mp hs
      exact calculatedBW_isSome_iff.mp (Option.isSome_iff_exists.mpr ⟨c, hc⟩)
  | codingRate cd =>
      rw [w.step_codingRate cd] at hs
      obtain rfl := Option.some.inj hs
      exact hw
  | spreadingFactor sf =>
      rw [w.step_spreadingFactor sf] at hs
      obtain ⟨c, hc, rfl⟩ := Option.map_eq_some_iff.mp hs
      exact calculatedBW_isSome_iff.mp (Option.isSome_iff_exists.mpr ⟨c, hc⟩)

/-- The registers after two `ioctl`s. -/
theorem run_pair_registers {u : Modem} (h : run Modem.step w [a, b] = some u) :
    u.radio.modemConfig1 = b.reg1 (a.reg1 w.radio.modemConfig1)
      ∧ u.radio.modemConfig2 = b.reg2 (a.reg2 w.radio.modemConfig2) := by
  obtain ⟨v, hv, h⟩ := Option.bind_eq_some_iff.mp h
  obtain ⟨u', hu, h⟩ := Option.bind_eq_some_iff.mp h
  obtain rfl : u' = u := Option.some.inj h
  obtain ⟨hfirst₁, hfirst₂, -⟩ := ModemIoctl.step_registers hv
  obtain ⟨hsecond₁, hsecond₂, -⟩ := ModemIoctl.step_registers hu
  rw [hsecond₁, hsecond₂, hfirst₁, hfirst₂]
  exact ⟨rfl, rfl⟩

theorem independent_of_fitsBits (hw : FieldsDefined w) (h : FitsBits w a) : Independent w a := by
  intro hrange
  obtain ⟨hfit, hshift⟩ := h hrange
  obtain ⟨w', hs⟩ := exists_step hw hrange hshift
  obtain ⟨hreg1, hreg2, hreg3⟩ := ModemIoctl.step_registers hs
  refine ⟨w', hs, ⟨?_, ?_, hreg3⟩, ?_, ?_⟩
  · rw [hreg1]
    exact reg1_others hfit _
  · rw [hreg2]
    exact reg2_others a _
  · intro v v' hv
    obtain ⟨hv1, hv2, -⟩ := ModemIoctl.step_registers hv
    unfold SameField
    rw [hv1, hv2, hreg1, hreg2]
    exact ⟨reg1_field a _ _, reg2_field a _ _⟩
  · intro b hne hb u u' hu hu'
    obtain ⟨hu1, hu2⟩ := run_pair_registers hu
    obtain ⟨hu1', hu2'⟩ := run_pair_registers hu'
    rw [hu1, hu2, hu1', hu2']
    exact ⟨reg1_comm hne hfit hb _, reg2_comm hne _⟩

/-- A coding rate that does not fit leaves bits in the bandwidth, unless the bandwidth
is set after it. -/
theorem fits_of_commuteAt (hw : FieldsDefined w) {cd : UInt32}
    (h : CommuteAt w (.codingRate cd) (.bandWidth 0)) : cd &&& 0x78 = 0 := by
  have hrange : ∀ v : Modem, InRange v (.bandWidth 0) := fun _ => (by decide : 0 < 10)
  -- both orders are defined
  obtain ⟨v, hv⟩ := exists_step hw (a := .codingRate cd) trivial (fun _ ha => (by cases ha))
  obtain ⟨u, hu⟩ := exists_step (hw.step hv) (hrange v) (fun _ ha => (by cases ha))
  obtain ⟨v', hv'⟩ := exists_step hw (hrange w) (fun _ ha => (by cases ha))
  obtain ⟨u', hu'⟩ := exists_step (hw.step hv') (a := .codingRate cd) trivial
    (fun _ ha => (by cases ha))
  have heq := (h u u' (run_two hv hu) (run_two hv' hu')).1
  rw [(run_pair_registers (run_two hv hu)).1, (run_pair_registers (run_two hv' hu')).1] at heq
  -- the bandwidth is 0 in one order, and has the bits of the coding rate in the other
  have hzero : ∀ x : UInt8, (ModemIoctl.bandWidth 0).reg1 x &&& 0xF0 = 0 := fun x =>
    put_field (by decide : (0x0F : UInt8) &&& 0xF0 = 0)
  have hupper : (ModemIoctl.codingRate cd).reg1
      ((ModemIoctl.bandWidth 0).reg1 w.radio.modemConfig1) &&& (0xF0 : UInt8)
        = (cd <<< 1).toUInt8 &&& (0xF0 : UInt8) := by
    show put _ _ _ &&& 0xF0 = _
    rw [put_and, show (0xF1 : UInt8) &&& 0xF0 = 0xF0 by decide, hzero, UInt8.zero_or]
  rw [← codingRate_bits, ← hupper, ← heq, hzero]

theorem independent_iff (hw : FieldsDefined w) (a : ModemIoctl) :
    Independent w a ↔ FitsBits w a := by
  refine ⟨fun h hrange => ?_, independent_of_fitsBits hw⟩
  obtain ⟨w', hs, -, -, hcomm⟩ := h hrange
  cases a with
  | bandWidth bw => exact ⟨trivial, fun _ ha => (by cases ha)⟩
  | codingRate cd =>
      have hcommutes := hcomm (.bandWidth 0) (by simp [ModemIoctl.parameter]) trivial
      exact ⟨fits_of_commuteAt hw hcommutes, fun _ ha => (by cases ha)⟩
  | spreadingFactor sf =>
      rw [w.step_spreadingFactor sf] at hs
      obtain ⟨c, hc, -⟩ := Option.map_eq_some_iff.mp hs
      refine ⟨trivial, fun sf' ha => ?_⟩
      obtain rfl := ModemIoctl.spreadingFactor.inj ha
      exact (calculatedBW_isSome_iff.mp (Option.isSome_iff_exists.mpr ⟨c, hc⟩)).1

/-! ## §4. Every schedule. -/

/-- The fields of two parameters have no bit in common. -/
theorem mask_disjoint {p q : ModemParameter} (h : p ≠ q) :
    ~~~q.mask1 &&& p.mask1 = p.mask1 ∧ ~~~q.mask2 &&& p.mask2 = p.mask2 := by
  cases p <;> cases q <;> first | exact absurd rfl h | decide

/-- An `ioctl` of another parameter leaves the field as it is. -/
theorem OwnBitsOnly.sameField {p q : ModemParameter} {r r' : Radio} (h : OwnBitsOnly q r r')
    (hne : p ≠ q) : SameField p r' r := by
  have hkeep : ∀ {x y m n : UInt8}, m &&& n = n → x &&& m = y &&& m → x &&& n = y &&& n := by
    intro x y m n hmn hxy
    rw [← hmn, ← UInt8.and_assoc, ← UInt8.and_assoc, hxy]
  obtain ⟨hmask1, hmask2⟩ := mask_disjoint hne
  exact ⟨hkeep hmask1 h.1, hkeep hmask2 h.2.1⟩

/-- As long as the parameter is not set, its field stays. -/
theorem sameField_of_run {p : ModemParameter} :
    ∀ {bs : List ModemIoctl} {w w' : Modem}, Along Modem.step Independent w bs →
      (∀ b ∈ bs, p ≠ b.parameter) → run Modem.step w bs = some w' → SameField p w'.radio w.radio := by
  intro bs
  induction bs with
  | nil =>
      intro w w' _ _ hrun
      obtain rfl : w = w' := Option.some.inj hrun
      exact ⟨rfl, rfl⟩
  | cons b bs ih =>
      intro w w' h hne hrun
      obtain ⟨t, ht, hrest⟩ := Option.bind_eq_some_iff.mp hrun
      obtain ⟨t', ht', hown, -⟩ := h.1 (inRange_of_step ht)
      obtain rfl : t = t' := Option.some.inj (ht.symm.trans ht')
      have hlater := ih (h.2 t ht) (fun b' hb' => hne b' (List.mem_cons_of_mem b hb')) hrest
      have hnow := hown.sameField (hne b List.mem_cons_self)
      exact ⟨hlater.1.trans hnow.1, hlater.2.trans hnow.2⟩

/-- The field of the last `ioctl` `a` of its parameter: as `a` leaves it in any state. -/
def LastDecides (w : Modem) (as : List ModemIoctl) : Prop :=
  ∀ as₁ a as₂, as = as₁ ++ a :: as₂ → (∀ b ∈ as₂, a.parameter ≠ b.parameter) →
    ∀ w', run Modem.step w as = some w' →
      ∀ v v' : Modem, v.step a = some v' → SameField a.parameter w'.radio v'.radio

theorem lastDecides_of_independent {as : List ModemIoctl}
    (h : Along Modem.step Independent w as) : LastDecides w as := by
  rintro as₁ a as₂ rfl hlast w' hrun v v' hv
  obtain ⟨t, hfirst, hrest⟩ := exists_run_append hrun
  obtain ⟨hnow, hlater⟩ := h.drop hfirst
  obtain ⟨u, hu, hrest⟩ := Option.bind_eq_some_iff.mp hrest
  obtain ⟨u', hu', -, hfield, -⟩ := hnow (inRange_of_step hu)
  obtain rfl : u = u' := Option.some.inj (hu.symm.trans hu')
  have hstays := sameField_of_run (hlater u hu) hlast hrest
  have hset := hfield v v' hv
  exact ⟨hstays.1.trans hset.1.symm, hstays.2.trans hset.2.symm⟩

/-- **EVERY `ioctl` IS INDEPENDENT OF THE OTHER PARAMETERS EXACTLY WHEN THE CODING RATES
FIT** and the shifts are defined; then the last `ioctl` of a parameter decides its field. -/
theorem fields_iff (r : Radio) (as : List ModemIoctl) :
    (Along Modem.step Independent ⟨r, .probed⟩ as ↔ Along Modem.step FitsBits ⟨r, .probed⟩ as)
      ∧ (Along Modem.step FitsBits ⟨r, .probed⟩ as → LastDecides ⟨r, .probed⟩ as) := by
  have hstart : FieldsDefined ⟨r, .probed⟩ := ⟨(by decide : (7 : UInt32) < 32), (by decide : 7 < 10)⟩
  have hiff : Along Modem.step Independent ⟨r, .probed⟩ as
      ↔ Along Modem.step FitsBits ⟨r, .probed⟩ as :=
    along_iff (I := FieldsDefined) (fun _ a hw => independent_iff hw a)
      (fun _ _ _ hw _ hs => hw.step hs) as hstart
  exact ⟨hiff, fun h => lastDecides_of_independent (hiff.mpr h)⟩

/-- A coding rate of 8, after the bandwidth was set to 7.8 kHz: it becomes 10.4 kHz. -/
theorem fields_overlap :
    ¬ ∀ (r : Radio) (as : List ModemIoctl), Along Modem.step Independent ⟨r, .probed⟩ as := by
  intro h
  have hall := h ⟨0x81, 0x72, 0x77, 0x00, 1, 0x12⟩ [.bandWidth 0, .codingRate 8]
  have hband : Modem.step ⟨⟨0x81, 0x72, 0x77, 0x00, 1, 0x12⟩, .probed⟩ (.bandWidth 0)
      = some ⟨⟨0x81, 0x02, 0x77, 0x00, 1, 0x12⟩, { ModemSettings.probed with bandWidth := 0 }⟩ := by
    decide
  obtain ⟨w', hw', hown, -⟩ := (hall.2 _ hband).1 trivial
  obtain rfl := Option.some.inj hw'
  exact absurd hown.1 (by decide)

end LoRaGateway
