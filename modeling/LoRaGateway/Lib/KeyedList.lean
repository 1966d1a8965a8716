/-
  LoRaGateway.Lib.KeyedList
  ─────────────────────────
  **AN ORDERED LIST WITHOUT DUPLICATE KEYS.**

  What a registry is for, in its own terms: items in the order in which they
  came, no two with one key.  The type carries the distinctness, so a list with
  a repeated key cannot be built.  `insert` refuses a key that is present,
  `remove` refuses a key that is absent; each says what the list is afterwards
  and nothing else changes.
-/
import Mathlib.Data.List.Nodup

namespace LoRaGateway.Lib

/-- Items in order, with pairwise distinct keys. -/
structure KeyedList {α κ : Type} (key : α → κ) where
  items : List α
  nodup : (items.map key).Nodup

namespace KeyedList

variable {α κ : Type} {key : α → κ}

@[ext] theorem ext {l m : KeyedList key} (h : l.items = m.items) : l = m := by
  cases l
  cases m
  simpa using h

/-- The distinctness is not compared. -/
theorem some_eq_some_iff {l m : KeyedList key} : some l = some m ↔ m.items = l.items := by
  constructor
  · intro h
    rw [Option.some.inj h]
  · intro h
    exact congrArg some (ext h.symm)

/-- The keys, in order. -/
def keys (l : KeyedList key) : List κ := l.items.map key

/-- The list without items. -/
def empty : KeyedList key := ⟨[], List.nodup_nil⟩

variable [DecidableEq κ]

/-- Append an item whose key is new. -/
def insert (l : KeyedList key) (x : α) : Option (KeyedList key) :=
  if h : key x ∈ l.keys then none
  else some ⟨l.items ++ [x], by
    rw [List.map_append, List.nodup_append']
    refine ⟨l.nodup, List.nodup_singleton _, ?_⟩
    simpa [keys] using h⟩

/-- Drop the item with the key `k`. -/
def remove (l : KeyedList key) (k : κ) : Option (KeyedList key) :=
  if k ∈ l.keys then
    some ⟨l.items.filter (fun x => key x ≠ k), l.nodup.sublist (List.filter_sublist.map key)⟩
  else none

theorem insert_eq_some {l m : KeyedList key} {x : α} :
    l.insert x = some m ↔ key x ∉ l.keys ∧ m.items = l.items ++ [x] := by
  unfold insert
  split
  next h =>
      constructor
      · intro hm
        exact absurd hm (by simp)
      · intro hm
        exact absurd h hm.1
  next h =>
      rw [some_eq_some_iff]
      exact (and_iff_right h).symm

theorem insert_eq_none {l : KeyedList key} {x : α} :
    l.insert x = none ↔ key x ∈ l.keys := by
  unfold insert
  split
  next h => simp [h]
  next h => simp [h]

theorem remove_eq_some {l m : KeyedList key} {k : κ} :
    l.remove k = some m ↔ k ∈ l.keys ∧ m.items = l.items.filter (fun x => key x ≠ k) := by
  unfold remove
  split
  next h =>
      rw [some_eq_some_iff]
      exact (and_iff_right h).symm
  next h =>
      constructor
      · intro hm
        exact absurd hm (by simp)
      · intro hm
        exact absurd hm.1 h

theorem remove_eq_none {l : KeyedList key} {k : κ} :
    l.remove k = none ↔ k ∉ l.keys := by
  unfold remove
  split
  next h => simp [h]
  next h => simp [h]

/-- Erasing the first item with the key `k` erases the first `k` from the keys. -/
theorem map_eraseIdx_findIdx {l : List α} {k : κ} {i : Nat}
    (hi : l.findIdx? (fun x => decide (key x = k)) = some i) :
    (l.eraseIdx i).map key = (l.map key).erase k := by
  induction l generalizing i with
  | nil => simp at hi
  | cons x l ih =>
      rw [List.findIdx?_cons] at hi
      by_cases hx : key x = k
      · rw [if_pos (by simpa using hx)] at hi
        obtain rfl : 0 = i := Option.some.inj hi
        rw [List.eraseIdx_cons_zero, List.map_cons, hx, List.erase_cons_head]
      · rw [if_neg (by simpa using hx)] at hi
        obtain ⟨j, hj, rfl⟩ := Option.map_eq_some_iff.mp hi
        rw [List.eraseIdx_cons_succ, List.map_cons, ih hj, List.map_cons,
          List.erase_cons_tail (by simpa using hx)]

/-- With distinct keys, erasing the first item with the key `k` erases the only one. -/
theorem eraseIdx_findIdx {l : List α} (hnd : (l.map key).Nodup) {k : κ} {i : Nat}
    (hi : l.findIdx? (fun x => decide (key x = k)) = some i) :
    l.eraseIdx i = l.filter (fun x => key x ≠ k) := by
  induction l generalizing i with
  | nil => simp at hi
  | cons x l ih =>
      rw [List.map_cons, List.nodup_cons] at hnd
      rw [List.findIdx?_cons] at hi
      by_cases hx : key x = k
      · rw [if_pos (by simpa using hx)] at hi
        obtain rfl : 0 = i := Option.some.inj hi
        have hrest : ∀ y ∈ l, decide (key y ≠ k) = true := by
          intro y hy
          have hne : key y ≠ k := fun h => hnd.1 (hx ▸ h ▸ List.mem_map_of_mem hy)
          simpa using hne
        rw [List.eraseIdx_cons_zero, List.filter_cons_of_neg (by simpa using hx),
          List.filter_eq_self.mpr hrest]
      · rw [if_neg (by simpa using hx)] at hi
        obtain ⟨j, hj, rfl⟩ := Option.map_eq_some_iff.mp hi
        rw [List.eraseIdx_cons_succ, List.filter_cons_of_pos (by simpa using hx), ih hnd.2 hj]

/-- With distinct keys, changing the item at one place changes every item with its key. -/
theorem set_eq_map {l : List α} (hnd : (l.map key).Nodup) {i : Nat} {x : α} {k : κ}
    (hx : l[i]? = some x) (hk : key x = k) (f : α → α) :
    l.set i (f x) = l.map (fun y => if key y = k then f y else y) := by
  obtain ⟨hi, hget⟩ := List.getElem?_eq_some_iff.mp hx
  apply List.ext_getElem
  · rw [List.length_set, List.length_map]
  · intro j hj _
    rw [List.length_set] at hj
    rw [List.getElem_set, List.getElem_map]
    by_cases hij : i = j
    · subst hij
      rw [if_pos rfl, hget, if_pos hk]
    · rw [if_neg hij, if_neg]
      intro hsame
      -- two items with the key would be one
      have hkeys : (l.map key)[i]? = (l.map key)[j]? := by
        rw [List.getElem?_map, List.getElem?_map, hx, List.getElem?_eq_getElem hj,
          Option.map_some, Option.map_some, hk, hsame]
      have hi' : i < (l.map key).length := by rwa [List.length_map]
      exact hij ((List.getElem?_inj hi' hnd).mp hkeys)

end KeyedList

end LoRaGateway.Lib
