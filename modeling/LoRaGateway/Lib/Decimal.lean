/-
  LoRaGateway.Lib.Decimal
  ───────────────────────
  **DECIMAL TEXTS AND TOKENS, AS THE C LIBRARY PRINTS AND READS THEM.**

  `decimal` is what `%d` prints, `atoi` is the C function (leading white space,
  one sign, digits, the value cut to 32 bits), `strtok` cuts the next token off
  a text.  The two facts that a printed list of numbers needs:

    * `atoi_decimal` — every 32-bit integer reads back from what `%d` prints,
    * `atoi_of_numeral` — a decimal numeral is read as its value,
    * `strtok_append` — a token that was written with a separator after it is cut
      off whole.
-/
import Mathlib.Data.List.Basic
import Mathlib.Data.List.TakeWhile
import Mathlib.Algebra.Group.Nat.Defs
import Mathlib.Data.Nat.Log

namespace LoRaGateway.Lib

/-! ## §1. Printing. -/

/-- The bytes of a string constant. -/
def ascii (s : String) : List UInt8 := s.toList.map (fun c => UInt8.ofNat c.toNat)

/-- The decimal digits of `n`, as ASCII. -/
def decimalNat (n : Nat) : List UInt8 := (Nat.toDigits 10 n).map (fun c => UInt8.ofNat c.toNat)

/-- `%d`: a minus sign for a negative number, then its digits. -/
def decimal (z : Int) : List UInt8 :=
  if z < 0 then 45 :: decimalNat z.natAbs else decimalNat z.natAbs

/-! ## §2. Reading. -/

/-- `isdigit`. -/
def isDigit (b : UInt8) : Bool := 48 ≤ b && b ≤ 57

/-- `isspace` in the C locale. -/
def isSpace (b : UInt8) : Bool := b = 32 || (9 ≤ b && b ≤ 13)

/-- The value of the digits at the start of `s`. -/
def digitsValue (s : List UInt8) : Nat :=
  (s.takeWhile isDigit).foldl (fun v b => 10 * v + (b.toNat - 48)) 0

/-- The value of an optional sign and the digits after it. -/
def signedValue : List UInt8 → Int
  | 45 :: t => -(digitsValue t : Int)
  | 43 :: t => digitsValue t
  | t => digitsValue t

/-- `LONG_MIN` and `LONG_MAX` of a 64-bit `long`. -/
def longMin : Int := -9223372036854775808

/-- `LONG_MAX`. -/
def longMax : Int := 9223372036854775807

/-- `strtol(s, NULL, 10)`: out of range saturates. -/
def strtol (s : List UInt8) : Int :=
  max longMin (min longMax (signedValue (s.dropWhile isSpace)))

/-- `atoi(s)`: the `long` cut to an `int`. -/
def atoi (s : List UInt8) : Int32 := Int32.ofInt (strtol s)

/-- `strtok` with one separator: the next token and what is left after the
separator that ended it. -/
def strtok (sep : UInt8) (s : List UInt8) : Option (List UInt8 × List UInt8) :=
  match s.dropWhile (· = sep) with
  | [] => none
  | t => some (t.takeWhile (· ≠ sep), (t.dropWhile (· ≠ sep)).tail)

/-! ## §3. The digits of a number. -/

theorem decimalNat_eq (n : Nat) :
    decimalNat n = (if n < 10 then [] else decimalNat (n / 10)) ++ [UInt8.ofNat (48 + n % 10)] := by
  unfold decimalNat
  rw [Nat.toDigits_eq_if (by omega)]
  split
  next h =>
      rw [List.map_singleton, Nat.toNat_digitChar_of_lt_ten h, Nat.mod_eq_of_lt h]
      rfl
  next =>
      rw [List.map_append, List.map_singleton,
        Nat.toNat_digitChar_of_lt_ten (Nat.mod_lt n (by omega))]

theorem toNat_digit {d : Nat} (h : d < 10) : (UInt8.ofNat (48 + d)).toNat = 48 + d := by
  rw [UInt8.toNat_ofNat']
  exact Nat.mod_eq_of_lt (by omega)

theorem isDigit_digit {d : Nat} (h : d < 10) : isDigit (UInt8.ofNat (48 + d)) = true := by
  have hd := toNat_digit h
  simp only [isDigit, Bool.and_eq_true, decide_eq_true_eq, UInt8.le_iff_toNat_le, hd]
  exact ⟨by simp, by simp; omega⟩

theorem isDigit_of_mem_decimalNat (n : Nat) : ∀ b ∈ decimalNat n, isDigit b = true := by
  induction n using Nat.strong_induction_on with
  | _ n ih =>
    intro b hb
    rw [decimalNat_eq, List.mem_append, List.mem_singleton] at hb
    rcases hb with hb | hb
    · by_cases h10 : n < 10
      · simp [h10] at hb
      · rw [if_neg h10] at hb
        exact ih (n / 10) (by omega) b hb
    · rw [hb]
      exact isDigit_digit (Nat.mod_lt n (by omega))

/-- The number of digits. -/
theorem length_decimalNat (n : Nat) : (decimalNat n).length = Nat.log 10 n + 1 := by
  induction n using Nat.strong_induction_on with
  | _ n ih =>
    rw [decimalNat_eq, List.length_append, List.length_singleton]
    by_cases h10 : n < 10
    · rw [if_pos h10, Nat.log_of_lt h10, List.length_nil]
    · have hlog : Nat.log 10 n = Nat.log 10 (n / 10) + 1 :=
        Nat.log_of_one_lt_of_le (by omega) (by omega)
      rw [if_neg h10, ih (n / 10) (by omega), hlog]

/-- A number below `10 ^ (k + 1)` has at most `k + 1` digits. -/
theorem length_decimalNat_le {k n : Nat} (h : n < 10 ^ (k + 1)) :
    (decimalNat n).length ≤ k + 1 := by
  rw [length_decimalNat]
  by_cases hn : n = 0
  · rw [hn, Nat.log_zero_right]
    omega
  · have hlog : Nat.log 10 n < k + 1 := Nat.log_lt_of_lt_pow hn h
    omega

theorem length_decimalNat_le_iff {k n : Nat} :
    (decimalNat n).length ≤ k + 1 ↔ n < 10 ^ (k + 1) := by
  refine ⟨fun h => ?_, length_decimalNat_le⟩
  rw [length_decimalNat] at h
  exact Nat.lt_pow_of_log_lt (by omega) (by omega)

/-- The sign takes one of the characters. -/
theorem length_decimal_le_iff {k : Nat} {z : Int} :
    (decimal z).length ≤ k + 2 ↔ -(10 ^ (k + 1) : Nat) < z ∧ z < (10 ^ (k + 2) : Nat) := by
  have hneg := @length_decimalNat_le_iff k z.natAbs
  have hpos := @length_decimalNat_le_iff (k + 1) z.natAbs
  have h₁ : 0 < 10 ^ (k + 1) := Nat.pow_pos (by omega)
  have h₂ : 0 < 10 ^ (k + 2) := Nat.pow_pos (by omega)
  generalize 10 ^ (k + 1) = a at *
  generalize 10 ^ (k + 2) = b at *
  unfold decimal
  split
  next hz =>
    rw [List.length_cons, Nat.add_le_add_iff_right (n := 1), hneg]
    omega
  next hz =>
    rw [hpos]
    omega

theorem decimalNat_ne_nil (n : Nat) : decimalNat n ≠ [] := by
  rw [decimalNat_eq]
  simp

/-- The digits of `n`, read in order, have the value `n`. -/
theorem foldl_decimalNat (n : Nat) :
    (decimalNat n).foldl (fun v b => 10 * v + (b.toNat - 48)) 0 = n := by
  induction n using Nat.strong_induction_on with
  | _ n ih =>
    rw [decimalNat_eq, List.foldl_append, List.foldl_cons, List.foldl_nil,
      toNat_digit (Nat.mod_lt n (by omega))]
    by_cases h10 : n < 10
    · rw [if_pos h10, List.foldl_nil]
      omega
    · rw [if_neg h10, ih (n / 10) (by omega)]
      omega

theorem digitsValue_decimalNat (n : Nat) : digitsValue (decimalNat n) = n := by
  unfold digitsValue
  rw [List.takeWhile_eq_self_iff.mpr (isDigit_of_mem_decimalNat n)]
  exact foldl_decimalNat n

/-! ## §4. `atoi` reads back what `%d` prints. -/

/-- A digit is neither white space nor a sign. -/
theorem isDigit_head {b : UInt8} (h : isDigit b = true) :
    isSpace b = false ∧ b ≠ 45 ∧ b ≠ 43 ∧ b ≠ 32 := by
  simp only [isDigit, Bool.and_eq_true, decide_eq_true_eq, UInt8.le_iff_toNat_le] at h
  have h48 : (48 : UInt8).toNat = 48 := rfl
  have h57 : (57 : UInt8).toNat = 57 := rfl
  have hne : ∀ c : UInt8, c.toNat < 48 → b ≠ c := by
    intro c hc hbc
    rw [hbc] at h
    omega
  refine ⟨?_, hne 45 (by decide), hne 43 (by decide), hne 32 (by decide)⟩
  have h13 : ¬ b ≤ 13 := by
    rw [UInt8.le_iff_toNat_le]
    have : (13 : UInt8).toNat = 13 := rfl
    omega
  simp [isSpace, h13, hne 32 (by decide)]

/-- What `%d` prints starts with a minus sign or with a digit. -/
theorem dropWhile_decimal (z : Int) : (decimal z).dropWhile isSpace = decimal z := by
  unfold decimal
  split
  · rw [List.dropWhile_cons_of_neg (by decide)]
  · obtain ⟨b, t, hbt⟩ := List.exists_cons_of_ne_nil (decimalNat_ne_nil z.natAbs)
    have hb : isDigit b = true :=
      isDigit_of_mem_decimalNat z.natAbs b (by rw [hbt]; exact List.mem_cons_self)
    rw [hbt, List.dropWhile_cons_of_neg (by simp [(isDigit_head hb).1])]

theorem signedValue_decimal (z : Int) : signedValue (decimal z) = z := by
  have hdig := digitsValue_decimalNat z.natAbs
  unfold decimal
  split
  next hneg =>
      show -(digitsValue (decimalNat z.natAbs) : Int) = z
      rw [hdig]
      omega
  next hneg =>
      obtain ⟨b, t, hbt⟩ := List.exists_cons_of_ne_nil (decimalNat_ne_nil z.natAbs)
      have hb : isDigit b = true :=
        isDigit_of_mem_decimalNat z.natAbs b (by rw [hbt]; exact List.mem_cons_self)
      obtain ⟨_, h45, h43, _⟩ := isDigit_head hb
      rw [hbt] at hdig ⊢
      unfold signedValue
      split
      next h => exact absurd (List.cons.inj h).1 h45
      next h => exact absurd (List.cons.inj h).1 h43
      next =>
          rw [hdig]
          omega

theorem strtol_decimal {z : Int} (hlo : longMin ≤ z) (hhi : z ≤ longMax) :
    strtol (decimal z) = z := by
  unfold strtol
  rw [dropWhile_decimal, signedValue_decimal]
  omega

/-- **Every `int` reads back from what `%d` prints for it.** -/
theorem atoi_decimal (x : Int32) : atoi (decimal x.toInt) = x := by
  have hlo := x.le_toInt
  have hhi := x.toInt_lt
  unfold atoi
  rw [strtol_decimal (by unfold longMin; omega) (by unfold longMax; omega)]
  exact Int32.ofInt_toInt x

/-! ## §5. Numerals. -/

/-- The value of a decimal numeral, a minus sign or none and then digits only;
nothing when the text is something else. -/
def numeralValue : List UInt8 → Option Int
  | 45 :: t => if t ≠ [] ∧ t.all isDigit = true then some (-(digitsValue t : Int)) else none
  | t => if t ≠ [] ∧ t.all isDigit = true then some (digitsValue t : Int) else none

/-- A numeral begins with a minus sign or with a digit. -/
theorem numeral_head {t : List UInt8} {z : Int} (h : numeralValue t = some z) :
    ∃ b u, t = b :: u ∧ (b = 45 ∨ isDigit b = true) := by
  unfold numeralValue at h
  split at h
  next u => exact ⟨45, u, rfl, Or.inl rfl⟩
  next hminus =>
      split at h
      next hdigits =>
          obtain ⟨b, u, rfl⟩ := List.exists_cons_of_ne_nil hdigits.1
          exact ⟨b, u, rfl, Or.inr (List.all_eq_true.mp hdigits.2 b List.mem_cons_self)⟩
      next => exact absurd h (by simp)

theorem signedValue_of_numeral {t : List UInt8} {z : Int} (h : numeralValue t = some z) :
    signedValue t = z := by
  unfold numeralValue at h
  split at h
  next u =>
      split at h
      next => exact Option.some.inj h
      next => exact absurd h (by simp)
  next hminus =>
      split at h
      next hdigits =>
          obtain ⟨b, u, rfl⟩ := List.exists_cons_of_ne_nil hdigits.1
          have hb : isDigit b = true := List.all_eq_true.mp hdigits.2 b List.mem_cons_self
          have hplus : b ≠ 43 := (isDigit_head hb).2.2.1
          rw [← Option.some.inj h]
          unfold signedValue
          split
          next heq => exact absurd heq (hminus _)
          next heq => exact absurd (List.cons.inj heq).1 hplus
          next => rfl
      next => exact absurd h (by simp)

/-- `strtol` reads the value of a numeral, and saturates. -/
theorem strtol_of_numeral {t : List UInt8} {z : Int} (h : numeralValue t = some z) :
    strtol t = max longMin (min longMax z) := by
  obtain ⟨b, u, rfl, hb⟩ := numeral_head h
  have hspace : isSpace b = false := by
    rcases hb with rfl | hb
    · rfl
    · exact (isDigit_head hb).1
  unfold strtol
  rw [List.dropWhile_cons_of_neg (by simp [hspace]), signedValue_of_numeral h]

/-- **A decimal numeral is read as its value**, cut to an `int`. -/
theorem atoi_of_numeral {t : List UInt8} {z : Int} (h : numeralValue t = some z) (hlo : longMin ≤ z)
    (hhi : z ≤ longMax) : atoi t = Int32.ofInt z := by
  unfold atoi
  rw [strtol_of_numeral h, Int.min_eq_right hhi, Int.max_eq_right hlo]

/-- What `%d` prints is a numeral of the number. -/
theorem numeral_decimal (z : Int) : numeralValue (decimal z) = some z := by
  have hall : (decimalNat z.natAbs).all isDigit = true :=
    List.all_eq_true.mpr (isDigit_of_mem_decimalNat _)
  have hvalue := digitsValue_decimalNat z.natAbs
  unfold decimal
  split
  next hneg =>
      show (if _ then _ else _) = _
      rw [if_pos ⟨decimalNat_ne_nil _, hall⟩, hvalue]
      congr 1
      omega
  next hneg =>
      obtain ⟨b, t, hbt⟩ := List.exists_cons_of_ne_nil (decimalNat_ne_nil z.natAbs)
      have hfirst : b ∈ decimalNat z.natAbs := by
        rw [hbt]
        exact List.mem_cons_self
      have hb : isDigit b = true := List.all_eq_true.mp hall b hfirst
      unfold numeralValue
      split
      next u heq =>
          rw [hbt] at heq
          exact absurd (List.cons.inj heq).1 (isDigit_head hb).2.1
      next =>
          rw [if_pos ⟨decimalNat_ne_nil _, hall⟩, hvalue]
          congr 1
          omega

/-! ## §6. Tokens. -/

/-- A number is printed with digits and a minus sign. -/
theorem not_mem_decimal {b : UInt8} (hdigit : isDigit b = false) (hsign : b ≠ 45) (z : Int) :
    b ∉ decimal z := by
  have hnat : b ∉ decimalNat z.natAbs := by
    intro h
    rw [isDigit_of_mem_decimalNat _ _ h] at hdigit
    cases hdigit
  unfold decimal
  split
  · intro h
    rcases List.mem_cons.mp h with h | h
    · exact hsign h
    · exact hnat h
  · exact hnat

theorem space_not_mem_decimal (z : Int) : (32 : UInt8) ∉ decimal z :=
  not_mem_decimal (by decide) (by decide) z

theorem zero_not_mem_decimal (z : Int) : (0 : UInt8) ∉ decimal z :=
  not_mem_decimal (by decide) (by decide) z

theorem decimal_ne_nil (z : Int) : decimal z ≠ [] := by
  unfold decimal
  split
  · exact List.cons_ne_nil _ _
  · exact decimalNat_ne_nil _

/-- A token followed by its separator is cut off whole. -/
theorem strtok_append {sep : UInt8} {t rest : List UInt8} (hne : t ≠ []) (hsep : sep ∉ t) :
    strtok sep (t ++ sep :: rest) = some (t, rest) := by
  obtain ⟨b, u, rfl⟩ := List.exists_cons_of_ne_nil hne
  have hb : b ≠ sep := fun h => hsep (by simp [h])
  have hall : ∀ c ∈ b :: u, decide (c ≠ sep) = true := by
    intro c hc
    have hcs : c ≠ sep := fun h => hsep (h ▸ hc)
    simpa using hcs
  unfold strtok
  rw [List.cons_append, List.dropWhile_cons_of_neg (by simpa using hb)]
  simp only [← List.cons_append]
  rw [List.takeWhile_append_of_pos hall, List.dropWhile_append_of_pos hall]
  simp

end LoRaGateway.Lib
