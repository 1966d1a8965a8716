/-
  LoRaGateway.Lib.ArrayLoop
  ─────────────────────────
  **TWO ARRAY LOOPS: LINEAR SEARCH, AND DELETION BY SHIFTING LEFT.**

  The loops are written as C runs them: an index, and the number of rounds that
  the loop test still allows.  An index outside the array ends the loop.

    • `findLoop_take` — the search over the first cells is `List.findIdx?`,
    • `take_shiftLoop` — shifting `a[j] = a[j + 1]` from `i` to the end and
      dropping the last cell is `List.eraseIdx`.
-/
import Mathlib.Data.List.Basic

namespace LoRaGateway.Lib

variable {α : Type}

/-! ## §1. The loops. -/

/-- `for (; rounds left; i++) if (p(a[i])) return i;` -/
def findLoop (p : α → Bool) (a : List α) : Nat → Nat → Option Nat
  | 0, _ => none
  | k + 1, i =>
      match a[i]? with
      | some x => if p x then some i else findLoop p a k (i + 1)
      | none => none

/-- `for (; rounds left; j++) a[j] = a[j + 1];` -/
def shiftLoop (a : List α) : Nat → Nat → List α
  | 0, _ => a
  | k + 1, j =>
      match a[j + 1]? with
      | some x => shiftLoop (a.set j x) k (j + 1)
      | none => a

/-! ## §2. Linear search. -/

theorem findLoop_take_drop (p : α → Bool) (a : List α) :
    ∀ (k i : Nat), i + k ≤ a.length →
      findLoop p a k i = (((a.drop i).take k).findIdx? p).map (· + i) := by
  intro k
  induction k with
  | zero =>
      intro i _
      rfl
  | succ k ih =>
      intro i hi
      have hlt : i < a.length := by omega
      rw [findLoop, List.getElem?_eq_getElem hlt, List.drop_eq_getElem_cons hlt,
        List.take_succ_cons, List.findIdx?_cons]
      simp only
      -- the index found in the rest counts from one cell further
      by_cases hp : p a[i] = true
      · rw [if_pos hp, if_pos hp]
        simp
      · rw [if_neg hp, if_neg hp, ih (i + 1) (by omega), Option.map_map]
        congr 1
        funext m
        simp only [Function.comp_apply]
        omega

/-- **The search loop over the first `k` cells.** -/
theorem findLoop_take (p : α → Bool) {a : List α} {k : Nat} (hk : k ≤ a.length) :
    findLoop p a k 0 = (a.take k).findIdx? p := by
  rw [findLoop_take_drop p a k 0 (by omega), List.drop_zero]
  cases (a.take k).findIdx? p <;> rfl

/-- The search loop over the whole array. -/
theorem findLoop_eq (p : α → Bool) (a : List α) :
    findLoop p a a.length 0 = a.findIdx? p := by
  rw [findLoop_take p (Nat.le_refl _), List.take_length]

/-! ## §3. Deletion by shifting. -/

/-- After the shift, the cells `j, …, j + k - 1` hold what stood one further. -/
theorem getElem?_shiftLoop (a : List α) :
    ∀ (k j : Nat), j + k < a.length → ∀ m : Nat,
      (shiftLoop a k j)[m]? = if j ≤ m ∧ m < j + k then a[m + 1]? else a[m]? := by
  intro k
  induction k generalizing a with
  | zero =>
      intro j _ m
      rw [shiftLoop, if_neg (by omega)]
  | succ k ih =>
      intro j hj m
      have hlt : j + 1 < a.length := by omega
      rw [shiftLoop, List.getElem?_eq_getElem hlt]
      simp only
      rw [ih (a.set j a[j + 1]) (j + 1) (by rw [List.length_set]; omega),
        List.getElem?_set, List.getElem?_set]
      -- the cell `j` was written in this round, the cells after it come later
      by_cases hm : m = j
      · rw [if_neg (by omega), if_pos hm.symm, if_pos (by omega), if_pos (by omega), hm,
          List.getElem?_eq_getElem hlt]
      · rw [if_neg (show ¬ j = m from fun h => hm h.symm)]
        by_cases hin : j + 1 ≤ m ∧ m < j + 1 + k
        · rw [if_pos hin, if_neg (by omega), if_pos (by omega)]
        · rw [if_neg hin, if_neg (by omega)]

/-- **Deletion in place**: shift from `i` to the end, then drop the last cell. -/
theorem take_shiftLoop (a : List α) {i : Nat} (hi : i < a.length) :
    (shiftLoop a (a.length - 1 - i) i).take (a.length - 1) = a.eraseIdx i := by
  apply List.ext_getElem?
  intro m
  rw [List.getElem?_take, getElem?_shiftLoop a _ i (by omega), List.getElem?_eraseIdx]
  by_cases hm : m < a.length - 1
  · rw [if_pos hm]
    by_cases him : m < i
    · rw [if_neg (by omega), if_pos him]
    · rw [if_pos (by omega), if_neg him]
  · rw [if_neg hm]
    by_cases him : m < i
    · omega
    · rw [if_neg him, List.getElem?_eq_none (by omega)]

end LoRaGateway.Lib
