/-
  LoRaGateway.Lib.Tokens
  ──────────────────────
  **WHAT A LOOP OF `strtok` SEES OF A TEXT.**

  `tokens sep s` are the non-empty pieces of `s` between separators.  One call of
  `strtok` gives the first of them and leaves a text with the others, so a loop
  that calls it to the end sees `tokens`, in order, whatever the text is:

    * `strtok_eq_none`, `tokens_of_strtok` — one call,
    * `tokens_append` — a token that was written with a separator after it.
-/
import LoRaGateway.Lib.Decimal

namespace LoRaGateway.Lib

variable {sep : UInt8} {s t rest : List UInt8}

/-- The non-empty pieces of a text between its separators. -/
def tokens (sep : UInt8) (s : List UInt8) : List (List UInt8) :=
  (s.splitOn sep).filter (fun t => decide (t ≠ []))

/-! ## §1. Texts that were written. -/

theorem tokens_nil : tokens sep [] = [] := rfl

/-- A separator at the start adds no token. -/
theorem tokens_cons_sep : tokens sep (sep :: s) = tokens sep s := by
  unfold tokens
  rw [List.splitOn_cons_eq_if_modifyHead, if_pos (by simp), List.filter_cons_of_neg (by simp)]

/-- A text without a separator is one token. -/
theorem tokens_single (hne : t ≠ []) (hsep : sep ∉ t) : tokens sep t = [t] := by
  unfold tokens
  rw [List.splitOn_eq_singleton hsep, List.filter_cons_of_pos (by simpa using hne),
    List.filter_nil]

/-- A token that was written with a separator after it. -/
theorem tokens_append (hne : t ≠ []) (hsep : sep ∉ t) :
    tokens sep (t ++ sep :: rest) = t :: tokens sep rest := by
  unfold tokens
  rw [List.splitOn_append_cons_self_of_not_mem hsep,
    List.filter_cons_of_pos (by simpa using hne)]

/-- A separator is the end of a token, whatever stands before and behind it. -/
theorem tokens_append_sep (s rest : List UInt8) :
    tokens sep (s ++ sep :: rest) = tokens sep s ++ tokens sep rest := by
  unfold tokens
  rw [List.splitOn_append_cons_self, List.filter_append]

/-! ## §2. One call of `strtok`. -/

/-- Separators before the first token do not count. -/
theorem tokens_dropWhile : tokens sep (s.dropWhile (fun b => decide (b = sep))) = tokens sep s := by
  induction s with
  | nil => rfl
  | cons b s ih =>
      by_cases hb : b = sep
      · rw [List.dropWhile_cons_of_pos (by simpa using hb), ih, hb, tokens_cons_sep]
      · rw [List.dropWhile_cons_of_neg (by simpa using hb)]

/-- The first byte that `dropWhile` keeps. -/
theorem head_dropWhile {p : UInt8 → Bool} {b : UInt8} {u : List UInt8}
    (h : s.dropWhile p = b :: u) : p b = false := by
  have hhead := List.head?_dropWhile_not p s
  rw [h] at hhead
  exact hhead

/-- The rest of a text up to its next separator, and what follows it. -/
theorem tokens_cut {b : UInt8} (hb : b ≠ sep) :
    tokens sep (b :: s)
      = (b :: s).takeWhile (fun c => decide (c ≠ sep))
        :: tokens sep ((b :: s).dropWhile (fun c => decide (c ≠ sep))).tail := by
  have hsplit := List.takeWhile_append_dropWhile (p := fun c => decide (c ≠ sep)) (l := b :: s)
  have hne : (b :: s).takeWhile (fun c => decide (c ≠ sep)) ≠ [] := by
    rw [List.takeWhile_cons_of_pos (by simpa using hb)]
    exact List.cons_ne_nil _ _
  have hsep : sep ∉ (b :: s).takeWhile (fun c => decide (c ≠ sep)) := by
    intro hm
    simpa using List.mem_takeWhile_imp hm
  cases hdrop : (b :: s).dropWhile (fun c => decide (c ≠ sep)) with
  -- no separator follows: the whole text is the token
  | nil =>
      rw [hdrop, List.append_nil] at hsplit
      rw [hsplit] at hne hsep ⊢
      exact tokens_single hne hsep
  | cons c u =>
      have hc : c = sep := by simpa using head_dropWhile hdrop
      rw [hdrop, hc] at hsplit
      conv_lhs => rw [← hsplit]
      exact tokens_append hne hsep

/-- `strtok` finds nothing exactly when there is no token. -/
theorem strtok_eq_none : strtok sep s = none ↔ tokens sep s = [] := by
  rw [← tokens_dropWhile]
  unfold strtok
  cases hdrop : s.dropWhile (fun b => decide (b = sep)) with
  | nil => simp [tokens_nil]
  | cons b u =>
      have hb : b ≠ sep := by simpa using head_dropWhile hdrop
      rw [tokens_cut hb]
      simp

/-- **One call of `strtok`** takes the first token off, and leaves a shorter text
with the others. -/
theorem tokens_of_strtok (h : strtok sep s = some (t, rest)) :
    tokens sep s = t :: tokens sep rest ∧ rest.length < s.length := by
  rw [← tokens_dropWhile]
  unfold strtok at h
  have hle := (List.dropWhile_sublist (fun b => decide (b = sep)) (l := s)).length_le
  cases hdrop : s.dropWhile (fun b => decide (b = sep)) with
  | nil =>
      rw [hdrop] at h
      exact absurd h (by simp)
  | cons b u =>
      have hb : b ≠ sep := by simpa using head_dropWhile hdrop
      rw [hdrop] at h hle
      obtain ⟨rfl, rfl⟩ := Prod.mk.inj (Option.some.inj h)
      refine ⟨tokens_cut hb, ?_⟩
      have hcut := (List.dropWhile_sublist (fun c => decide (c ≠ sep)) (l := b :: u)).length_le
      rw [List.length_tail]
      rw [List.length_cons] at hcut hle
      omega

/-- The first token of a text is what `strtok` finds. -/
theorem strtok_of_tokens {ts : List (List UInt8)} (h : tokens sep s = t :: ts) :
    ∃ rest, strtok sep s = some (t, rest) ∧ tokens sep rest = ts := by
  cases hs : strtok sep s with
  | none =>
      rw [strtok_eq_none.mp hs] at h
      cases h
  | some out =>
      obtain ⟨t', rest⟩ := out
      rw [(tokens_of_strtok hs).1] at h
      obtain ⟨rfl, hrest⟩ := List.cons.inj h
      exact ⟨rest, rfl, hrest⟩

end LoRaGateway.Lib
