/-
  LoRaGateway.Lib.Ledger
  ──────────────────────
  **RESOURCES THAT ARE ACQUIRED AND RELEASED.**

  A ledger has what is held and the releases that were wrong: of a resource that is
  not held, or while another resource that uses it still is.

    • `releaseAll_unwind` — giving everything back in the opposite order is right,
    • `faults_releaseAll_ne` — giving back something that is not held is found,
    • `got` — what a series of attempts adds, of which some fail.
-/
import Mathlib.Data.List.Basic

namespace LoRaGateway.Lib

/-- What is held, and the wrong releases, the latest first. -/
structure Ledger (R : Type) where
  held : List R
  faults : List R
  deriving DecidableEq

namespace Ledger

variable {R : Type} [DecidableEq R] {users : R → List R} {s : Ledger R} {r : R}

/-- One more resource is held. -/
def take (s : Ledger R) (r : R) : Ledger R := { s with held := r :: s.held }

/-- `users r` are the resources that make use of `r`. -/
def release (users : R → List R) (s : Ledger R) (r : R) : Ledger R :=
  if r ∈ s.held ∧ ∀ u ∈ users r, u ∉ s.held then { s with held := s.held.erase r }
  else ⟨s.held.erase r, r :: s.faults⟩

/-- Releases, one after the other. -/
def releaseAll (users : R → List R) (s : Ledger R) (rs : List R) : Ledger R :=
  rs.foldl (release users) s

/-! ## §1. Wrong releases. -/

theorem held_release (users : R → List R) (s : Ledger R) (r : R) :
    (s.release users r).held = s.held.erase r := by
  unfold release
  split <;> rfl

/-- Wrong releases stay on record. -/
theorem faults_release (users : R → List R) (s : Ledger R) (r : R) :
    s.faults <:+ (s.release users r).faults := by
  unfold release
  split
  · exact List.suffix_refl _
  · exact List.suffix_cons _ _

theorem faults_releaseAll (rs : List R) : ∀ s : Ledger R,
    s.faults <:+ (s.releaseAll users rs).faults := by
  induction rs with
  | nil => exact fun s => List.suffix_refl _
  | cons r rs ih => exact fun s => (faults_release users s r).trans (ih _)

/-- A wrong release, and whatever is released after it. -/
theorem faults_ne_of_wrong (h : ¬ (r ∈ s.held ∧ ∀ u ∈ users r, u ∉ s.held)) {t : Ledger R}
    (ht : (s.release users r).faults <:+ t.faults) : t.faults ≠ s.faults := by
  intro heq
  rw [release, if_neg h, heq] at ht
  have hlen := ht.length_le
  rw [List.length_cons] at hlen
  omega

/-- **Giving back something that is not held is found**, wherever it stands. -/
theorem faults_releaseAll_ne :
    ∀ {rs : List R} {s : Ledger R}, r ∈ rs → r ∉ s.held →
      (s.releaseAll users rs).faults ≠ s.faults := by
  intro rs
  induction rs with
  | nil =>
      intro s h
      exact absurd h List.not_mem_nil
  | cons x rs ih =>
      intro s h hs
      by_cases hx : x = r
      · exact faults_ne_of_wrong (by rw [hx]; exact fun hn => hs hn.1) (faults_releaseAll rs _)
      · have hrest : r ∈ rs := (List.mem_cons.mp h).resolve_left (fun hr => hx hr.symm)
        have hnot : r ∉ (s.release users x).held := by
          rw [held_release]
          exact fun hm => hs (List.mem_of_mem_erase hm)
        have hne := ih hrest hnot
        -- the first release is right, or it is on record as well
        by_cases hright : x ∈ s.held ∧ ∀ u ∈ users x, u ∉ s.held
        · have hsame : (s.release users x).faults = s.faults := by rw [release, if_pos hright]
          rw [← hsame]
          exact hne
        · exact faults_ne_of_wrong hright (faults_releaseAll rs _)

/-! ## §2. Unwinding. -/

/-- The resource acquired last is released first. -/
theorem release_top {h f : List R} (hu : ∀ u ∈ users r, u ≠ r ∧ u ∉ h) :
    (⟨r :: h, f⟩ : Ledger R).release users r = ⟨h, f⟩ := by
  have hfree : ∀ u ∈ users r, u ∉ r :: h := by
    intro u hur
    rw [List.mem_cons, not_or]
    exact hu u hur
  rw [release, if_pos ⟨List.mem_cons_self, hfree⟩, List.erase_cons_head]

/-- **Giving everything back in the opposite order**, users first, is right. -/
theorem releaseAll_unwind {h f : List R} :
    ∀ {rs : List R}, (rs.Pairwise fun r later => later ∉ users r) →
      (∀ r ∈ rs, ∀ u ∈ users r, u ≠ r ∧ u ∉ h) →
        (⟨rs ++ h, f⟩ : Ledger R).releaseAll users rs = ⟨h, f⟩ := by
  intro rs
  induction rs with
  | nil =>
      intro _ _
      rfl
  | cons r rs ih =>
      intro hpair hfree
      obtain ⟨hfirst, hrest⟩ := List.pairwise_cons.mp hpair
      have htop : (⟨r :: (rs ++ h), f⟩ : Ledger R).release users r = ⟨rs ++ h, f⟩ := by
        apply release_top
        intro u hu
        obtain ⟨hne, hnot⟩ := hfree r List.mem_cons_self u hu
        refine ⟨hne, fun hm => ?_⟩
        rcases List.mem_append.mp hm with hm | hm
        · exact hfirst u hm hu
        · exact hnot hm
      show ((⟨r :: (rs ++ h), f⟩ : Ledger R).release users r).releaseAll users rs = _
      rw [htop]
      exact ih hrest (fun r' hr' => hfree r' (List.mem_cons_of_mem r hr'))

/-! ## §3. Attempts. -/

/-- The ledger after attempts at `rs`, the latest first, of which those in `p`
succeeded. -/
def got (s : Ledger R) (p : R → Bool) (rs : List R) : Ledger R :=
  ⟨rs.filter p ++ s.held, s.faults⟩

omit [DecidableEq R] in
theorem got_cons (s : Ledger R) (p : R → Bool) (r : R) (rs : List R) :
    (if p r then (s.got p rs).take r else s.got p rs) = s.got p (r :: rs) := by
  unfold got take
  by_cases h : p r
  · rw [if_pos h, List.filter_cons_of_pos h]
    rfl
  · rw [if_neg h, List.filter_cons_of_neg h]

/-- **Giving back what was attempted is right exactly when every attempt succeeded.** -/
theorem releaseAll_got_iff {p : R → Bool} {rs : List R}
    (hpair : rs.Pairwise fun r later => later ∉ users r)
    (hfree : ∀ r ∈ rs, ∀ u ∈ users r, u ≠ r ∧ u ∉ s.held) (hfresh : ∀ r ∈ rs, r ∉ s.held) :
    ((s.got p rs).releaseAll users rs).faults = s.faults ↔ ∀ r ∈ rs, p r = true := by
  constructor
  · intro h r hr
    by_contra hp
    refine faults_releaseAll_ne (s := s.got p rs) hr ?_ h
    show r ∉ rs.filter p ++ s.held
    rw [List.mem_append, not_or]
    exact ⟨fun hm => hp (List.mem_filter.mp hm).2, hfresh r hr⟩
  · intro h
    unfold got
    rw [List.filter_eq_self.mpr h, releaseAll_unwind hpair hfree]

/-- Then what was held before is left. -/
theorem releaseAll_got {p : R → Bool} {rs : List R}
    (hpair : rs.Pairwise fun r later => later ∉ users r)
    (hfree : ∀ r ∈ rs, ∀ u ∈ users r, u ≠ r ∧ u ∉ s.held) (h : ∀ r ∈ rs, p r = true) :
    (s.got p rs).releaseAll users rs = s := by
  unfold got
  rw [List.filter_eq_self.mpr h, releaseAll_unwind hpair hfree]

end Ledger

end LoRaGateway.Lib
