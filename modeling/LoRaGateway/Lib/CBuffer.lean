/-
  LoRaGateway.Lib.CBuffer
  ───────────────────────
  **BYTE ARRAYS OF A FIXED SIZE AND THE C STRING FUNCTIONS ON THEM.**

  A `Buffer n` is an array of exactly `n` bytes: the size is part of the type,
  so a store outside the array cannot build one (`Buffer.store` gives nothing
  there).  The string functions read a byte list up to its first NUL and give
  nothing when they would run off its end, which is the case that C leaves
  undefined.

  Main facts:
    * `strlen_of_mem` — when `strlen` is defined and what it returns,
    * `strncmp_eq_zero` — a comparison of `k` non-NUL bytes is prefix equality,
    * `strlen_pad`, `cstr_pad` — a text stored into a zeroed array reads back,
    * `copyLoop_eq` — a byte-by-byte loop that stays inside both arrays is one
      store; `copyLoop_isSome_iff` — it stays inside when the cells it touches are there.
-/
import Mathlib.Data.List.Basic
import Mathlib.Data.List.TakeWhile

namespace LoRaGateway.Lib

/-! ## §1. Arrays of a fixed size. -/

/-- An array of `n` bytes. -/
structure Buffer (n : Nat) where
  bytes : List UInt8
  size : bytes.length = n
  deriving DecidableEq

namespace Buffer

variable {n : Nat}

@[ext] theorem ext {a b : Buffer n} (h : a.bytes = b.bytes) : a = b := by
  cases a
  cases b
  simpa using h

/-- `memset(b, 0, n)`. -/
def zero (n : Nat) : Buffer n := ⟨List.replicate n 0, List.length_replicate⟩

/-- `memcpy(&b[off], src, length of src)`; nothing when the copy leaves `b`. -/
def store (b : Buffer n) (off : Nat) (src : List UInt8) : Option (Buffer n) :=
  if h : off + src.length ≤ n then
    some ⟨b.bytes.take off ++ src ++ b.bytes.drop (off + src.length), by
      have hb := b.size
      simp only [List.length_append, List.length_take, List.length_drop, hb]
      omega⟩
  else none

/-- `src` at the start of an array that is zero after it. -/
def pad (n : Nat) (src : List UInt8) (h : src.length ≤ n) : Buffer n :=
  ⟨src ++ List.replicate (n - src.length) 0, by
    rw [List.length_append, List.length_replicate]
    omega⟩

theorem store_zero {src : List UInt8} (h : src.length ≤ n) :
    (zero n).store 0 src = some (pad n src h) := by
  unfold store
  rw [dif_pos (by omega)]
  simp [zero, pad]

theorem store_eq_none {b : Buffer n} {off : Nat} {src : List UInt8}
    (h : n < off + src.length) : b.store off src = none := by
  unfold store
  rw [dif_neg (by omega)]

theorem exists_store (b : Buffer n) (off : Nat) (src : List UInt8)
    (h : off + src.length ≤ n) : ∃ b', b.store off src = some b' := by
  unfold store
  exact ⟨_, dif_pos h⟩

theorem bytes_store {b b' : Buffer n} {off : Nat} {src : List UInt8}
    (h : b.store off src = some b') :
    b'.bytes = b.bytes.take off ++ src ++ b.bytes.drop (off + src.length) := by
  unfold store at h
  split at h
  next => rw [← Option.some.inj h]
  next => exact absurd h (by simp)

/-- Two neighbouring stores are one. -/
theorem store_store {b b' : Buffer n} {off : Nat} {src more : List UInt8}
    (h : b.store off src = some b') :
    b'.store (off + src.length) more = b.store off (src ++ more) := by
  have hsize := b.size
  have hb' := bytes_store h
  have hle : off + src.length ≤ n := by
    by_contra hgt
    rw [store_eq_none (by omega)] at h
    exact absurd h (by simp)
  -- both fail when the second one does not fit
  by_cases hfit : off + src.length + more.length ≤ n
  · unfold store
    rw [dif_pos hfit, dif_pos (by rw [List.length_append]; omega)]
    congr 1
    apply ext
    have hpre : (b.bytes.take off ++ src).length = off + src.length := by
      rw [List.length_append, List.length_take, hsize]
      omega
    have htake : b'.bytes.take (off + src.length) = b.bytes.take off ++ src := by
      rw [hb', ← hpre, List.take_left]
    have hdrop : b'.bytes.drop (off + src.length + more.length)
        = b.bytes.drop (off + (src ++ more).length) := by
      rw [hb', ← hpre, List.drop_length_add_append, hpre, List.drop_drop, List.length_append]
      congr 1
      omega
    simp only [htake, hdrop, List.append_assoc]
  · rw [store_eq_none (by omega), store_eq_none (by rw [List.length_append]; omega)]

end Buffer

/-- `for (; rounds left; i++) dst[to + i] = src[from + i];` -/
def copyLoop {n : Nat} (src : List UInt8) (fromIdx toIdx : Nat) :
    Nat → Nat → Buffer n → Option (Buffer n)
  | 0, _, dst => some dst
  | k + 1, i, dst =>
      match src[fromIdx + i]? with
      | none => none
      | some b => (dst.store (toIdx + i) [b]).bind (copyLoop src fromIdx toIdx k (i + 1))

/-- **A copy loop that stays inside both arrays is one store.** -/
theorem copyLoop_eq {n : Nat} {src : List UInt8} {fromIdx toIdx : Nat} :
    ∀ (k i : Nat) (dst : Buffer n), fromIdx + i + k ≤ src.length → toIdx + i + k ≤ n →
      copyLoop src fromIdx toIdx k i dst
        = dst.store (toIdx + i) ((src.drop (fromIdx + i)).take k) := by
  intro k
  induction k with
  | zero =>
      intro i dst _ hdst
      rw [copyLoop, List.take_zero]
      unfold Buffer.store
      rw [dif_pos (by simpa using hdst)]
      congr 1
      apply Buffer.ext
      simp
  | succ k ih =>
      intro i dst hsrc hdst
      have hlt : fromIdx + i < src.length := by omega
      -- the first byte now, the others by induction, and the two stores are neighbours
      have hcut : (src.drop (fromIdx + i)).take (k + 1)
          = [src[fromIdx + i]] ++ (src.drop (fromIdx + (i + 1))).take k := by
        rw [List.drop_eq_getElem_cons hlt, List.take_succ_cons]
        rfl
      rw [copyLoop, List.getElem?_eq_getElem hlt, hcut]
      cases hone : dst.store (toIdx + i) [src[fromIdx + i]] with
      | none =>
          unfold Buffer.store at hone
          rw [dif_pos (by rw [List.length_singleton]; omega)] at hone
          exact absurd hone (by simp)
      | some dst' =>
          show (dst.store (toIdx + i) [src[fromIdx + i]]).bind _ = _
          rw [hone, ← Buffer.store_store hone]
          exact ih (i + 1) dst' (by omega) (by omega)

/-- The cells that the loop touches: one of the source and one of the array in each round. -/
def copyTouches (fromIdx toIdx : Nat) : Nat → Nat → List (Nat × Nat)
  | 0, _ => []
  | k + 1, i => (fromIdx + i, toIdx + i) :: copyTouches fromIdx toIdx k (i + 1)

theorem mem_copyTouches {fromIdx toIdx : Nat} {c : Nat × Nat} :
    ∀ {k i : Nat}, c ∈ copyTouches fromIdx toIdx k i
      ↔ ∃ j, i ≤ j ∧ j < i + k ∧ c = (fromIdx + j, toIdx + j) := by
  intro k
  induction k with
  | zero =>
      intro i
      constructor
      · intro h
        exact absurd h List.not_mem_nil
      · rintro ⟨j, hi, hj, -⟩
        omega
  | succ k ih =>
      intro i
      rw [copyTouches, List.mem_cons, ih]
      constructor
      · rintro (rfl | ⟨j, hi, hj, rfl⟩)
        · exact ⟨i, Nat.le_refl _, by omega, rfl⟩
        · exact ⟨j, by omega, by omega, rfl⟩
      · rintro ⟨j, hi, hj, rfl⟩
        by_cases hji : j = i
        · exact Or.inl (by rw [hji])
        · exact Or.inr ⟨j, by omega, by omega, rfl⟩

/-- The loop has a result exactly when every cell it touches is there. -/
theorem copyLoop_isSome_iff {n : Nat} {src : List UInt8} {fromIdx toIdx : Nat} :
    ∀ {k i : Nat} {dst : Buffer n}, (copyLoop src fromIdx toIdx k i dst).isSome = true
      ↔ ∀ c ∈ copyTouches fromIdx toIdx k i, c.1 < src.length ∧ c.2 < n := by
  intro k
  induction k with
  | zero =>
      intro i dst
      simp [copyLoop, copyTouches]
  | succ k ih =>
      intro i dst
      rw [copyLoop, copyTouches, List.forall_mem_cons]
      by_cases hsrc : fromIdx + i < src.length
      · rw [List.getElem?_eq_getElem hsrc]
        by_cases hdst : toIdx + i < n
        · have hfit : toIdx + i + ([src[fromIdx + i]] : List UInt8).length ≤ n := by
            rw [List.length_singleton]
            omega
          obtain ⟨dst', hone⟩ := Buffer.exists_store dst _ _ hfit
          show ((dst.store _ _).bind _).isSome = true ↔ _
          rw [hone, Option.bind_some, ih]
          exact ⟨fun h => ⟨⟨hsrc, hdst⟩, h⟩, fun h => h.2⟩
        · show ((dst.store _ _).bind _).isSome = true ↔ _
          rw [Buffer.store_eq_none (by rw [List.length_singleton]; omega)]
          exact ⟨fun h => absurd h (by simp), fun h => absurd h.1.2 hdst⟩
      · rw [List.getElem?_eq_none (by omega)]
        exact ⟨fun h => absurd h (by simp), fun h => absurd h.1.1 hsrc⟩

/-! ## §2. Strings inside an array. -/

/-- The text of a C string: the bytes before the first NUL. -/
def cstr (s : List UInt8) : List UInt8 := s.takeWhile (· ≠ 0)

/-- `strlen(s)`; nothing when `s` has no NUL. -/
def strlen : List UInt8 → Option Nat
  | [] => none
  | b :: s => if b = 0 then some 0 else (strlen s).map (· + 1)

/-- `strncmp(a, b, k)`; nothing when it reads past the end of `a` or of `b`. -/
def strncmp : List UInt8 → List UInt8 → Nat → Option Int
  | _, _, 0 => some 0
  | x :: a, y :: b, k + 1 =>
      if x ≠ y then some ((x.toNat : Int) - y.toNat)
      else if x = 0 then some 0
      else strncmp a b k
  | _, _, _ + 1 => none

/-- `strncpy(dst, src, k)` into an array of `n` bytes: the text of `src` cut at
`k` bytes, and NULs up to `k`. -/
def strncpy {n : Nat} (dst : Buffer n) (src : List UInt8) (k : Nat) : Option (Buffer n) :=
  let text := cstr (src.take k)
  dst.store 0 (text ++ List.replicate (k - text.length) 0)

theorem cstr_cons (b : UInt8) (s : List UInt8) :
    cstr (b :: s) = if b = 0 then [] else b :: cstr s := by
  unfold cstr
  by_cases h : b = 0
  · rw [if_pos h, List.takeWhile_cons_of_neg (by simpa using h)]
  · rw [if_neg h, List.takeWhile_cons_of_pos (by simpa using h)]

theorem cstr_isPrefixOf (s : List UInt8) : cstr s <+: s := List.takeWhile_prefix _

theorem zero_not_mem_cstr (s : List UInt8) : (0 : UInt8) ∉ cstr s := by
  intro h
  have := List.mem_takeWhile_imp h
  simp at this

theorem take_cstr_length (s : List UInt8) : s.take (cstr s).length = cstr s :=
  (List.prefix_iff_eq_take.mp (cstr_isPrefixOf s)).symm

/-- The text of a NUL-free list is the list. -/
theorem cstr_eq_self {s : List UInt8} (h : (0 : UInt8) ∉ s) : cstr s = s := by
  apply List.takeWhile_eq_self_iff.mpr
  intro b hb
  have hne : b ≠ 0 := fun h0 => h (h0 ▸ hb)
  simpa using hne

theorem cstr_append {s t : List UInt8} (h : (0 : UInt8) ∉ s) :
    cstr (s ++ t) = s ++ cstr t := by
  induction s with
  | nil => rfl
  | cons b s ih =>
      have hb : b ≠ 0 := fun h0 => h (by simp [h0])
      have hs : (0 : UInt8) ∉ s := fun hm => h (List.mem_cons_of_mem b hm)
      rw [List.cons_append, cstr_cons, if_neg hb, ih hs]
      rfl

/-- What follows a NUL is not part of the text. -/
theorem cstr_append_zero {s t : List UInt8} (h : (0 : UInt8) ∈ s) :
    cstr (s ++ t) = cstr s := by
  induction s with
  | nil => simp at h
  | cons b s ih =>
      rw [List.cons_append, cstr_cons, cstr_cons]
      by_cases hb : b = 0
      · rw [if_pos hb, if_pos hb]
      · have hs : (0 : UInt8) ∈ s := by
          rcases List.mem_cons.mp h with h0 | hs
          · exact absurd h0.symm hb
          · exact hs
        rw [if_neg hb, if_neg hb, ih hs]

theorem cstr_replicate (k : Nat) : cstr (List.replicate k 0) = [] := by
  cases k with
  | zero => rfl
  | succ k => rw [List.replicate_succ, cstr_cons, if_pos rfl]

/-- Zeros after a text add nothing to it. -/
theorem cstr_append_replicate (s : List UInt8) (k : Nat) :
    cstr (s ++ List.replicate k 0) = cstr s := by
  by_cases hz : (0 : UInt8) ∈ s
  · exact cstr_append_zero hz
  · rw [cstr_append hz, cstr_replicate, List.append_nil, cstr_eq_self hz]

/-! ## §3. `strlen`. -/

theorem strlen_of_mem {s : List UInt8} (h : (0 : UInt8) ∈ s) :
    strlen s = some (cstr s).length := by
  induction s with
  | nil => simp at h
  | cons b s ih =>
      rw [strlen, cstr_cons]
      by_cases hb : b = 0
      · rw [if_pos hb, if_pos hb]
        rfl
      · have hs : (0 : UInt8) ∈ s := by
          rcases List.mem_cons.mp h with h0 | hs
          · exact absurd h0.symm hb
          · exact hs
        rw [if_neg hb, if_neg hb, ih hs]
        rfl

theorem strlen_of_not_mem {s : List UInt8} (h : (0 : UInt8) ∉ s) : strlen s = none := by
  induction s with
  | nil => rfl
  | cons b s ih =>
      have hb : b ≠ 0 := fun h0 => h (by simp [h0])
      have hs : (0 : UInt8) ∉ s := fun hm => h (List.mem_cons_of_mem b hm)
      rw [strlen, if_neg hb, ih hs]
      rfl

/-- The text of an array that holds a NUL is shorter than the array. -/
theorem length_cstr_lt {n : Nat} {b : Buffer n} (h : (0 : UInt8) ∈ b.bytes) :
    (cstr b.bytes).length < n := by
  apply Nat.lt_of_le_of_ne ((cstr_isPrefixOf b.bytes).length_le.trans_eq b.size)
  intro heq
  have hall : cstr b.bytes = b.bytes := (cstr_isPrefixOf b.bytes).eq_of_length (heq.trans b.size.symm)
  exact zero_not_mem_cstr b.bytes (hall.symm ▸ h)

/-! ## §4. Texts in zeroed arrays. -/

section Pad

variable {n : Nat} {src : List UInt8}

theorem zero_mem_pad (h : src.length ≤ n) (hz : (0 : UInt8) ∈ src ∨ src.length < n) :
    (0 : UInt8) ∈ (Buffer.pad n src h).bytes := by
  rcases hz with hz | hz
  · exact List.mem_append_left _ hz
  · apply List.mem_append_right
    rw [List.mem_replicate]
    exact ⟨by omega, rfl⟩

/-- A zeroed array is without a NUL only when a NUL-free text fills it. -/
theorem zero_mem_pad_iff (h : src.length ≤ n) :
    (0 : UInt8) ∈ (Buffer.pad n src h).bytes ↔ src.length < n ∨ (0 : UInt8) ∈ src := by
  constructor
  · intro hm
    rcases List.mem_append.mp hm with hm | hm
    · exact Or.inr hm
    · rw [List.mem_replicate] at hm
      exact Or.inl (by omega)
  · intro hm
    exact zero_mem_pad h hm.symm

theorem cstr_pad (h : src.length ≤ n) : cstr (Buffer.pad n src h).bytes = cstr src :=
  cstr_append_replicate src _

/-- The zeros behind what was stored do not make a text longer. -/
theorem prefix_pad_iff {t : List UInt8} (h : src.length ≤ n) (ht : (0 : UInt8) ∉ t) :
    t <+: (Buffer.pad n src h).bytes ↔ t <+: src := by
  show t <+: src ++ List.replicate (n - src.length) 0 ↔ _
  constructor
  · intro hpre
    rcases List.prefix_or_prefix_of_prefix hpre (List.prefix_append _ _) with hle | ⟨rest, rfl⟩
    · exact hle
    -- what goes beyond `src` is zeros, and `t` has none
    · have hzeros : rest <+: List.replicate (n - src.length) 0 :=
        (List.prefix_append_right_inj src).mp hpre
      have hnil : rest = [] := by
        cases rest with
        | nil => rfl
        | cons b rest =>
            have hb : b = 0 := List.eq_of_mem_replicate (hzeros.subset List.mem_cons_self)
            exact absurd (List.mem_append_right src (hb ▸ List.mem_cons_self)) ht
      rw [hnil]
      exact ⟨[], by rw [List.append_nil, List.append_nil]⟩
  · intro hpre
    exact hpre.trans (List.prefix_append _ _)

/-- A NUL-free text shorter than its zeroed array has its own length. -/
theorem strlen_pad (h : src.length < n) (hz : (0 : UInt8) ∉ src) :
    strlen (Buffer.pad n src h.le).bytes = some src.length := by
  rw [strlen_of_mem (zero_mem_pad h.le (Or.inr h)), cstr_pad, cstr_eq_self hz]

end Pad

/-! ## §5. `strncmp` and `strncpy`. -/

/-- Comparing `k` bytes that are not NUL is comparing the two prefixes. -/
theorem strncmp_eq_zero {a b : List UInt8} {k : Nat} (hz : (0 : UInt8) ∉ a.take k)
    (ha : k ≤ a.length) (hb : k ≤ b.length) :
    ∃ d, strncmp a b k = some d ∧ (d = 0 ↔ a.take k = b.take k) := by
  induction k generalizing a b with
  | zero => exact ⟨0, by simp [strncmp], by simp⟩
  | succ k ih =>
      match a, b with
      | [], _ => simp at ha
      | _ :: _, [] => simp at hb
      | x :: a, y :: b =>
          have hx : x ≠ 0 := fun h0 => hz (by simp [h0])
          have hza : (0 : UInt8) ∉ a.take k := fun hm => hz (by simp [hm])
          obtain ⟨d, hd, hiff⟩ := ih hza (by simpa using ha) (by simpa using hb)
          -- the loop stops at the first difference, and its sign is not zero
          by_cases hxy : x = y
          · refine ⟨d, by simp [strncmp, hxy, hxy ▸ hx, hd], ?_⟩
            rw [hiff]
            simp [hxy]
          · refine ⟨(x.toNat : Int) - y.toNat, by simp [strncmp, hxy], ?_⟩
            have hne : x.toNat ≠ y.toNat := fun h => hxy (UInt8.toNat.inj h)
            constructor
            · intro h
              omega
            · intro h
              simp [hxy] at h

/-- Copying the whole text of a string into a zeroed array. -/
theorem strncpy_zero {n : Nat} {src : List UInt8} (h : (cstr src).length ≤ n) :
    strncpy (Buffer.zero n) src (cstr src).length = some (Buffer.pad n (cstr src) h) := by
  unfold strncpy
  rw [take_cstr_length, cstr_eq_self (zero_not_mem_cstr src)]
  simp only [Nat.sub_self, List.replicate_zero, List.append_nil]
  exact Buffer.store_zero h

end LoRaGateway.Lib
