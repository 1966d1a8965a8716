/-
  LoRaGateway.Lib.BufferTokens
  ────────────────────────────
  **`strtok` ON AN ARRAY**, which need not have a NUL: byte after byte, and nothing
  when the next byte would be behind the end of the array.

    • `strtokIn_of_mem` — with a NUL ahead it is `strtok` on the C string,
    • `strtokIn_of_not_mem` — without one it runs off the array, or finds a token and
      comes two bytes closer to the end.
-/
import LoRaGateway.Lib.CBuffer
import LoRaGateway.Lib.Tokens

namespace LoRaGateway.Lib

variable {sep : UInt8} {s : List UInt8}

/-! ## §1. The scans. -/

/-- `s += strspn(s, sep)`. -/
def skipIn (sep : UInt8) : List UInt8 → Option (List UInt8)
  | [] => none
  | b :: s => if b = sep then skipIn sep s else some (b :: s)

/-- `strcspn(s, sep)`: the token, and what is behind the separator; the NUL stays. -/
def tokenIn (sep : UInt8) : List UInt8 → Option (List UInt8 × List UInt8)
  | [] => none
  | b :: s =>
      if b = 0 then some ([], b :: s)
      else if b = sep then some ([], s)
      else (tokenIn sep s).map (fun x => (b :: x.1, x.2))

/-- `strtok`: `some none` when there is no token. -/
def strtokIn (sep : UInt8) (s : List UInt8) : Option (Option (List UInt8 × List UInt8)) :=
  (skipIn sep s).bind fun s => if s.head? = some 0 then some none else (tokenIn sep s).map some

/-! ## §2. A NUL ahead. -/

theorem skipIn_of_mem (hsep : sep ≠ 0) (h : (0 : UInt8) ∈ s) :
    ∃ s', skipIn sep s = some s' ∧ (0 : UInt8) ∈ s'
      ∧ cstr s' = (cstr s).dropWhile (fun b => decide (b = sep)) := by
  induction s with
  | nil => cases h
  | cons b s ih =>
      rw [skipIn, cstr_cons]
      by_cases hb : b = sep
      · have hne : b ≠ 0 := fun h0 => hsep (hb.symm.trans h0)
        have hrest : (0 : UInt8) ∈ s := (List.mem_cons.mp h).resolve_left (fun h0 => hne h0.symm)
        rw [if_pos hb, if_neg hne, List.dropWhile_cons_of_pos (by simpa using hb)]
        exact ih hrest
      · refine ⟨b :: s, if_neg hb, h, ?_⟩
        rw [cstr_cons]
        by_cases h0 : b = 0
        · rw [if_pos h0]
          rfl
        · rw [if_neg h0, List.dropWhile_cons_of_neg (by simpa using hb)]

theorem tokenIn_of_mem (sep : UInt8) (h : (0 : UInt8) ∈ s) :
    ∃ rest, tokenIn sep s = some ((cstr s).takeWhile (fun b => decide (b ≠ sep)), rest)
      ∧ (0 : UInt8) ∈ rest
      ∧ cstr rest = ((cstr s).dropWhile (fun b => decide (b ≠ sep))).tail := by
  induction s with
  | nil => cases h
  | cons b s ih =>
      rw [tokenIn, cstr_cons]
      by_cases h0 : b = 0
      · rw [if_pos h0, if_pos h0]
        refine ⟨b :: s, rfl, h, ?_⟩
        rw [cstr_cons, if_pos h0]
        rfl
      · have hrest : (0 : UInt8) ∈ s := (List.mem_cons.mp h).resolve_left (fun heq => h0 heq.symm)
        rw [if_neg h0, if_neg h0]
        by_cases hb : b = sep
        · rw [if_pos hb, List.takeWhile_cons_of_neg (by simpa using hb),
            List.dropWhile_cons_of_neg (by simpa using hb)]
          exact ⟨s, rfl, hrest, rfl⟩
        · obtain ⟨rest, htoken, hzero, hcut⟩ := ih hrest
          rw [if_neg hb, htoken, List.takeWhile_cons_of_pos (by simpa using hb),
            List.dropWhile_cons_of_pos (by simpa using hb)]
          exact ⟨rest, rfl, hzero, hcut⟩

/-- **With a NUL ahead** the C string is what counts. -/
theorem strtokIn_of_mem (hsep : sep ≠ 0) (h : (0 : UInt8) ∈ s) :
    match strtok sep (cstr s) with
    | none => strtokIn sep s = some none
    | some (t, u) =>
        ∃ rest, strtokIn sep s = some (some (t, rest)) ∧ (0 : UInt8) ∈ rest ∧ cstr rest = u := by
  obtain ⟨s', hskip, hzero, hcut⟩ := skipIn_of_mem hsep h
  unfold strtokIn strtok
  rw [hskip, Option.bind_some, ← hcut]
  cases s' with
  | nil => cases hzero
  | cons b s' =>
      rw [cstr_cons]
      by_cases h0 : b = 0
      · rw [if_pos h0]
        exact if_pos (congrArg some h0)
      · obtain ⟨rest, htoken, hrest, heq⟩ := tokenIn_of_mem sep hzero
        have hhead : ¬ (b :: s').head? = some 0 := fun heq => h0 (Option.some.inj heq)
        rw [cstr_cons, if_neg h0] at htoken heq
        rw [if_neg h0, if_neg hhead, htoken]
        exact ⟨rest, rfl, hrest, heq⟩

/-! ## §3. No NUL. -/

theorem skipIn_of_not_mem (sep : UInt8) (h : (0 : UInt8) ∉ s) :
    skipIn sep s = none ∨ ∃ b s', skipIn sep s = some (b :: s') ∧ (0 : UInt8) ∉ b :: s' ∧ b ≠ sep
      ∧ s'.length < s.length := by
  induction s with
  | nil => exact Or.inl rfl
  | cons b s ih =>
      rw [skipIn]
      by_cases hb : b = sep
      · rw [if_pos hb]
        rcases ih (fun hz => h (List.mem_cons_of_mem b hz)) with hnone | ⟨c, s', hs, hz, hc, hlt⟩
        · exact Or.inl hnone
        · exact Or.inr ⟨c, s', hs, hz, hc, Nat.lt_succ_of_lt hlt⟩
      · rw [if_neg hb]
        exact Or.inr ⟨b, s, rfl, h, hb, Nat.lt_succ_self _⟩

theorem tokenIn_of_not_mem (sep : UInt8) (h : (0 : UInt8) ∉ s) :
    tokenIn sep s = none ∨ ∃ t rest, tokenIn sep s = some (t, rest) ∧ (0 : UInt8) ∉ rest
      ∧ rest.length < s.length := by
  induction s with
  | nil => exact Or.inl rfl
  | cons b s ih =>
      have h0 : b ≠ 0 := fun heq => h (by rw [heq]; exact List.mem_cons_self)
      have hrest : (0 : UInt8) ∉ s := fun hz => h (List.mem_cons_of_mem b hz)
      rw [tokenIn, if_neg h0]
      by_cases hb : b = sep
      · rw [if_pos hb]
        exact Or.inr ⟨[], s, rfl, hrest, Nat.lt_succ_self _⟩
      · rw [if_neg hb]
        rcases ih hrest with hnone | ⟨t, rest, htoken, hz, hlt⟩
        · rw [hnone]
          exact Or.inl rfl
        · rw [htoken]
          exact Or.inr ⟨b :: t, rest, rfl, hz, Nat.lt_succ_of_lt hlt⟩

/-- **Without a NUL** a token takes two bytes at least, itself and the separator. -/
theorem strtokIn_of_not_mem (sep : UInt8) (h : (0 : UInt8) ∉ s) :
    strtokIn sep s = none ∨ ∃ t rest, strtokIn sep s = some (some (t, rest))
      ∧ (0 : UInt8) ∉ rest ∧ rest.length + 2 ≤ s.length := by
  unfold strtokIn
  rcases skipIn_of_not_mem sep h with hnone | ⟨b, s', hs, hz, hb, hlt⟩
  · rw [hnone]
    exact Or.inl rfl
  · have h0 : b ≠ 0 := fun heq => hz (by rw [heq]; exact List.mem_cons_self)
    have hhead : ¬ (b :: s').head? = some 0 := fun heq => h0 (Option.some.inj heq)
    have hrest : (0 : UInt8) ∉ s' := fun hm => hz (List.mem_cons_of_mem b hm)
    rw [hs, Option.bind_some, if_neg hhead, tokenIn, if_neg h0, if_neg hb]
    rcases tokenIn_of_not_mem sep hrest with hnone | ⟨t, rest, htoken, hz', hlt'⟩
    · rw [hnone]
      exact Or.inl rfl
    · rw [htoken]
      exact Or.inr ⟨b :: t, rest, rfl, hz', by omega⟩

end LoRaGateway.Lib
