/-
  LoRaGateway.Lib.Scan
  ────────────────────
  **THE CELLS OF A GRID IN READING ORDER**: row after row, each from its first
  column, and from the last cell back to the first.

  `scanCell w h n` is cell number `n` of a grid of `h` rows of `w` cells, as (row,
  column); the numbers go on behind the last cell.

    • `scanNext_scanCell` — the step from a cell to the next one,
    • `scan_reaches` — from any cell, fewer than `w * h` steps come to any other.
-/
import Mathlib.Logic.Function.Iterate
import Mathlib.Data.Nat.ModEq

namespace LoRaGateway.Lib

variable {w h n : Nat}

/-- Row and column of cell `n`, in reading order. -/
def scanCell (w h n : Nat) : Nat × Nat := (n / w % h, n % w)

/-- The cell after `c`. -/
def scanNext (w h : Nat) (c : Nat × Nat) : Nat × Nat :=
  if c.2 + 1 = w then (if c.1 + 1 = h then 0 else c.1 + 1, 0) else (c.1, c.2 + 1)

/-- The last column of a row. -/
theorem div_mod_succ_of_eq (hw : 0 < w) (hlast : n % w + 1 = w) :
    (n + 1) / w = n / w + 1 ∧ (n + 1) % w = 0 := by
  have hn : n + 1 = w * (n / w + 1) := by
    have heq := Nat.div_add_mod n w
    rw [Nat.mul_succ]
    omega
  rw [hn, Nat.mul_div_cancel_left _ hw]
  exact ⟨rfl, Nat.mul_mod_right _ _⟩

/-- Any other column. -/
theorem div_mod_succ_of_ne (hw : 0 < w) (hlast : n % w + 1 ≠ w) :
    (n + 1) / w = n / w ∧ (n + 1) % w = n % w + 1 := by
  have hlt : n % w + 1 < w := by
    have hmod := Nat.mod_lt n hw
    omega
  have hn : n + 1 = w * (n / w) + (n % w + 1) := by
    have heq := Nat.div_add_mod n w
    omega
  constructor
  · calc (n + 1) / w = (w * (n / w) + (n % w + 1)) / w := congrArg (· / w) hn
      _ = n / w := by rw [Nat.mul_add_div hw, Nat.div_eq_of_lt hlt, Nat.add_zero]
  · calc (n + 1) % w = (w * (n / w) + (n % w + 1)) % w := congrArg (· % w) hn
      _ = n % w + 1 := by rw [Nat.mul_add_mod, Nat.mod_eq_of_lt hlt]

/-- **The next cell is the next number.** -/
theorem scanNext_scanCell (hw : 0 < w) (hh : 0 < h) (n : Nat) :
    scanNext w h (scanCell w h n) = scanCell w h (n + 1) := by
  unfold scanNext scanCell
  by_cases hlast : n % w + 1 = w
  · obtain ⟨hdiv, hmod⟩ := div_mod_succ_of_eq hw hlast
    rw [if_pos hlast, hdiv, hmod]
    -- the rows are numbered in the same way
    by_cases hrow : n / w % h + 1 = h
    · rw [if_pos hrow, (div_mod_succ_of_eq hh hrow).2]
    · rw [if_neg hrow, (div_mod_succ_of_ne hh hrow).2]
  · obtain ⟨hdiv, hmod⟩ := div_mod_succ_of_ne hw hlast
    rw [if_neg hlast, hdiv, hmod]

theorem iterate_scanNext (hw : 0 < w) (hh : 0 < h) (k n : Nat) :
    (scanNext w h)^[k] (scanCell w h n) = scanCell w h (n + k) := by
  induction k generalizing n with
  | zero => rfl
  | succ k ih =>
      rw [Function.iterate_succ_apply, scanNext_scanCell hw hh, ih]
      congr 1
      omega

/-- A cell of the grid has its number. -/
theorem scanCell_of_lt {r j : Nat} (hr : r < h) (hj : j < w) :
    scanCell w h (w * r + j) = (r, j) := by
  unfold scanCell
  rw [Nat.mul_add_div (by omega), Nat.mul_add_mod, Nat.div_eq_of_lt hj, Nat.mod_eq_of_lt hj,
    Nat.add_zero, Nat.mod_eq_of_lt hr]

/-- The numbers go on behind the last cell. -/
theorem scanCell_mod (w h n : Nat) : scanCell w h (n % (w * h)) = scanCell w h n := by
  unfold scanCell
  rw [Nat.mod_mul_right_div_self, Nat.mod_mod, Nat.mod_mul_right_mod]

/-- **Every cell is reached**, within as many steps as there are cells. -/
theorem scan_reaches {c x : Nat × Nat} (hc : c.1 < h ∧ c.2 < w) (hx : x.1 < h ∧ x.2 < w) :
    ∃ k, k < w * h ∧ (scanNext w h)^[k] c = x := by
  have hw : 0 < w := by omega
  have hh : 0 < h := by omega
  have hsize : 0 < w * h := Nat.mul_pos hw hh
  have hbound : w * c.1 + c.2 < w * h := by
    calc w * c.1 + c.2 < w * c.1 + w := by omega
      _ = w * (c.1 + 1) := (Nat.mul_succ _ _).symm
      _ ≤ w * h := Nat.mul_le_mul_left _ hc.1
  -- the number of `x`, counted from `c` on
  have hcount : w * c.1 + c.2 + (w * x.1 + x.2 + (w * h - (w * c.1 + c.2)))
      = w * x.1 + x.2 + w * h := by omega
  refine ⟨(w * x.1 + x.2 + (w * h - (w * c.1 + c.2))) % (w * h), Nat.mod_lt _ hsize, ?_⟩
  calc (scanNext w h)^[(w * x.1 + x.2 + (w * h - (w * c.1 + c.2))) % (w * h)] c
      = (scanNext w h)^[(w * x.1 + x.2 + (w * h - (w * c.1 + c.2))) % (w * h)]
          (scanCell w h (w * c.1 + c.2)) := by rw [scanCell_of_lt hc.1 hc.2]
    _ = scanCell w h (w * x.1 + x.2 + w * h) := by
        rw [iterate_scanNext hw hh, ← scanCell_mod, Nat.add_mod_mod, hcount, scanCell_mod]
    _ = x := by
        rw [← scanCell_mod, Nat.add_mod_right, scanCell_mod, scanCell_of_lt hx.1 hx.2]

end LoRaGateway.Lib
