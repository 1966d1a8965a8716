/-
  LoRaGateway.Lib.RoundRobin
  ──────────────────────────
  **TAKING TURNS AT A LIST THAT CHANGES.**

  An index goes round a list of distinct items and gives each one its turn, while
  items are appended at the end and erased anywhere.  The index is not adjusted
  when an item is erased, so the items behind it move one place to the left under
  the index.

    • `Ahead l i b a` — from place `i` on, `b` comes before `a`,
    • `robinStep` — one turn, one item more, or one item less,
    • `fair_step` — after a turn of `a`, `b` comes before `a` again, unless an
      item on the left is erased while the index stands on `b`.
-/
import LoRaGateway.Lib.Run
import Mathlib.Data.List.Nodup
import Mathlib.Data.List.Basic

namespace LoRaGateway.Lib

variable {α : Type}

/-! ## §1. Who comes first. -/

/-- The place after `i`. -/
def Follows (l : List α) (i i' : Nat) : Prop := i' = i + 1 ∨ (i + 1 = l.length ∧ i' = 0)

theorem follows_next {l : List α} {i : Nat} {x : α} (h : l[i]? = some x) :
    Follows l i (if i = l.length - 1 then 0 else i + 1) := by
  obtain ⟨hi, -⟩ := List.getElem?_eq_some_iff.mp h
  split
  next hlast => exact Or.inr ⟨by omega, rfl⟩
  next => exact Or.inl rfl

section Ahead

variable [DecidableEq α] {l : List α} {i i' : Nat} {a b x : α}

/-- Going round from place `i`, `b` is met before `a`. -/
def Ahead (l : List α) (i : Nat) (b a : α) : Prop :=
  (i ≤ l.idxOf b ∧ l.idxOf b < l.idxOf a) ∨ (l.idxOf a < i ∧ i ≤ l.idxOf b)
    ∨ (l.idxOf b < l.idxOf a ∧ l.idxOf a < i)

theorem idxOf_ne (hab : a ≠ b) (ha : a ∈ l) : l.idxOf a ≠ l.idxOf b := by
  intro h
  have hget := List.getElem?_idxOf ha
  by_cases hb : b ∈ l
  · rw [h, List.getElem?_idxOf hb] at hget
    exact hab (Option.some.inj hget).symm
  · rw [h, List.idxOf_eq_length hb, List.getElem?_eq_none (Nat.le_refl _)] at hget
    cases hget

/-- In a list of distinct items the place of an item is where it is found. -/
theorem idxOf_of_getElem? (hnd : l.Nodup) (h : l[i]? = some x) : l.idxOf x = i := by
  obtain ⟨hi, rfl⟩ := List.getElem?_eq_some_iff.mp h
  exact hnd.idxOf_getElem i hi

/-- When `b` is ahead of `a`, it is not the turn of `a`. -/
theorem Ahead.not_turn (hnd : l.Nodup) (h : Ahead l i b a) : l[i]? ≠ some a := by
  intro hturn
  have ha := idxOf_of_getElem? hnd hturn
  unfold Ahead at h
  omega

/-- After its own turn, `a` is behind everyone else. -/
theorem ahead_after_turn (hnd : l.Nodup) (hab : a ≠ b) (hb : b ∈ l) (hturn : l[i]? = some a)
    (hi : Follows l i i') : Ahead l i' b a := by
  have ha := idxOf_of_getElem? hnd hturn
  have hlt := List.idxOf_lt_length_of_mem hb
  have hne := idxOf_ne hab (List.mem_of_getElem? hturn)
  unfold Ahead
  rcases hi with rfl | ⟨hlast, rfl⟩
  · omega
  · omega

/-- The turn of a third item changes nothing between the two. -/
theorem Ahead.after_other (hnd : l.Nodup) (hb : b ∈ l) (h : Ahead l i b a) (hturn : l[i]? = some x)
    (hxb : x ≠ b) (hi : Follows l i i') : Ahead l i' b a := by
  have hx := idxOf_of_getElem? hnd hturn
  have hlt := List.idxOf_lt_length_of_mem hb
  have hne := idxOf_ne hxb (List.mem_of_getElem? hturn)
  unfold Ahead at h ⊢
  rcases hi with rfl | ⟨hlast, rfl⟩
  · omega
  · omega

theorem ahead_append (ha : a ∈ l) (hb : b ∈ l) (m : List α) :
    Ahead (l ++ m) i b a ↔ Ahead l i b a := by
  unfold Ahead
  rw [List.idxOf_append_of_mem ha, List.idxOf_append_of_mem hb]

/-- Erasing an item moves those behind it one place to the left. -/
theorem idxOf_erase (hxa : x ≠ a) (hx : x ∈ l) :
    (l.erase x).idxOf a = if l.idxOf x < l.idxOf a then l.idxOf a - 1 else l.idxOf a := by
  induction l with
  | nil => cases hx
  | cons c t ih =>
      by_cases hc : c = x
      · subst hc
        rw [List.erase_cons_head, List.idxOf_cons_self, List.idxOf_cons_ne t hxa]
        rw [if_pos (Nat.succ_pos _)]
        rfl
      · have hxt : x ∈ t := (List.mem_cons.mp hx).resolve_left (Ne.symm hc)
        rw [List.erase_cons_tail (by simpa using hc), List.idxOf_cons_ne t hc]
        by_cases hca : c = a
        · subst hca
          rw [List.idxOf_cons_self, List.idxOf_cons_self]
          rfl
        · rw [List.idxOf_cons_ne _ hca, List.idxOf_cons_ne t hca, ih hxt]
          split <;> split <;> omega

/-- Erasing a third item keeps `b` ahead, unless the index stands on `b` and would
be moved past it. -/
theorem Ahead.after_erase (hxa : x ≠ a) (hxb : x ≠ b) (hx : x ∈ l) (hb : b ∈ l)
    (hskip : l.idxOf x < i → l[i]? ≠ some b) (h : Ahead l i b a) : Ahead (l.erase x) i b a := by
  have hna := idxOf_ne hxa hx
  have hnb := idxOf_ne hxb hx
  have hi : l.idxOf x < i → l.idxOf b ≠ i := by
    intro hlt hib
    apply hskip hlt
    rw [← hib]
    exact List.getElem?_idxOf hb
  unfold Ahead at h ⊢
  rw [idxOf_erase hxa hx, idxOf_erase hxb hx]
  split <;> split <;> omega

end Ahead

/-! ## §2. Turns, the last one first. -/

/-- `a` has had a turn since the last one of `b`. -/
def Due (a b : α) : List α → Prop
  | [] => False
  | x :: turns => x = a ∨ (x ≠ b ∧ Due a b turns)

/-- Between two turns of `a` there is one of `b`. -/
def Covered (a b : α) (turns : List α) : Prop :=
  ∀ later between earlier, turns = later ++ a :: (between ++ a :: earlier) → b ∈ between

section Covered

variable {a b x : α} {turns : List α}

theorem covered_nil (a b : α) : Covered a b [] := by
  intro later between earlier h
  exact absurd h.symm (by simp)

/-- Without a turn of `b` since an earlier one of `a`, it is due. -/
theorem due_of_not_mem {between earlier : List α} (h : b ∉ between) :
    Due a b (between ++ a :: earlier) := by
  induction between with
  | nil => exact Or.inl rfl
  | cons x between ih =>
      rw [List.mem_cons, not_or] at h
      exact Or.inr ⟨Ne.symm h.1, ih h.2⟩

/-- One more turn, which is not one of `a` while `b` is due. -/
theorem Covered.cons (h : Covered a b turns) (hx : x = a → ¬ Due a b turns) :
    Covered a b (x :: turns) := by
  intro later between earlier heq
  cases later with
  | nil =>
      obtain ⟨hxa, rfl⟩ := List.cons.inj heq
      by_contra hnot
      exact hx hxa (due_of_not_mem hnot)
  | cons y later => exact h later between earlier (List.cons.inj heq).2

end Covered

/-! ## §3. The machine. -/

/-- The items, the index, and the turns so far. -/
structure Robin (α : Type) where
  items : List α
  place : Nat
  turns : List α

/-- What happens to the list. -/
inductive RobinOp (α : Type) where
  | turn
  | append (x : α)
  | erase (x : α)

section Machine

variable [DecidableEq α]

/-- One turn, or one change of the list; an item is in it once. -/
def robinStep (r : Robin α) : RobinOp α → Option (Robin α)
  | .turn => (r.items[r.place]?).map (fun x =>
      { r with place := if r.place = r.items.length - 1 then 0 else r.place + 1
               turns := x :: r.turns })
  | .append x => if x ∈ r.items then none else some { r with items := r.items ++ [x] }
  | .erase x => if x ∈ r.items then some { r with items := r.items.erase x } else none

/-- `b` does not lose its turn: when it is due and its turn is next, no item on
the left of the index is erased. -/
def KeepsTurn (a b : α) (r : Robin α) : RobinOp α → Prop
  | .erase x => Due a b r.turns → r.items.idxOf x < r.place → r.items[r.place]? ≠ some b
  | _ => True

/-- Between two turns of `a` there is one of `b`, and there will be one before the next. -/
structure Fair (a b : α) (r : Robin α) : Prop where
  nodup : r.items.Nodup
  covered : Covered a b r.turns
  ahead : a ∈ r.items → b ∈ r.items → Due a b r.turns → Ahead r.items r.place b a

/-- **One step keeps the turns fair**, as long as both items are in the list. -/
theorem fair_step {a b : α} (hab : a ≠ b) {r r' : Robin α} {op : RobinOp α} (hinv : Fair a b r)
    (ha : a ∈ r.items) (hb : b ∈ r.items) (hok : KeepsTurn a b r op)
    (hs : robinStep r op = some r') : Fair a b r' := by
  obtain ⟨hnd, hcov, hahead⟩ := hinv
  cases op with
  | turn =>
      obtain ⟨x, hx, rfl⟩ := Option.map_eq_some_iff.mp hs
      have hfollows := follows_next hx
      refine ⟨hnd, hcov.cons ?_, fun _ _ hdue => ?_⟩
      · -- when `b` is due, `a` has to wait
        rintro rfl hdue
        exact (hahead ha hb hdue).not_turn hnd hx
      · rcases hdue with rfl | ⟨hxb, hdue⟩
        · exact ahead_after_turn hnd hab hb hx hfollows
        · exact (hahead ha hb hdue).after_other hnd hb hx hxb hfollows
  | append x =>
      simp only [robinStep] at hs
      split at hs
      next => cases hs
      next hx =>
          rw [← Option.some.inj hs]
          refine ⟨?_, hcov, fun _ _ hdue => (ahead_append ha hb _).mpr (hahead ha hb hdue)⟩
          rw [List.nodup_append']
          exact ⟨hnd, List.nodup_singleton _, by simpa using hx⟩
  | erase x =>
      simp only [robinStep] at hs
      split at hs
      next hx =>
          rw [← Option.some.inj hs]
          refine ⟨hnd.erase x, hcov, fun ha' hb' hdue => ?_⟩
          have hxa : x ≠ a := fun h => (hnd.mem_erase_iff.mp ha').1 h.symm
          have hxb : x ≠ b := fun h => (hnd.mem_erase_iff.mp hb').1 h.symm
          exact (hahead ha hb hdue).after_erase hxa hxb hx hb (hok hdue)
      next => cases hs

end Machine

end LoRaGateway.Lib
