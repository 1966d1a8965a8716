/-
  LoRaGateway.Lib.Run
  ───────────────────
  **RUNS OF A PARTIAL STEP FUNCTION.**

  A machine is a function `step : σ → ι → Option σ`: from a state, an action
  (whose turn it is, and what it reads from outside) gives the next state, or
  nothing when the action cannot happen there.  What holds of every run is
  what holds of every state that `Reach` relates to the start; what holds of the
  runs whose steps all meet a condition `ok` is the same with that condition.

    • `Reach.invariant` — the induction over a run, done once,
    • `run` / `reach_of_run` — an explicit schedule, so that one concrete run
      can be evaluated,
    • `along_iff` — two conditions that agree under an invariant hold of the same
      schedules.
-/
import Mathlib.Logic.Relation

namespace LoRaGateway.Lib

variable {σ ι : Type}

/-! ## §1. Guarded reachability. -/

/-- One step, by some action that meets `ok` in the state before it. -/
def StepBy (step : σ → ι → Option σ) (ok : σ → ι → Prop) (s s' : σ) : Prop :=
  ∃ a, ok s a ∧ step s a = some s'

/-- `s'` is reached from `s` by a run whose steps all meet `ok`. -/
def Reach (step : σ → ι → Option σ) (ok : σ → ι → Prop) : σ → σ → Prop :=
  Relation.ReflTransGen (StepBy step ok)

/-- The condition that every step meets: the runs of the machine itself. -/
def Any : σ → ι → Prop := fun _ _ => True

section Reach

variable {step : σ → ι → Option σ} {ok : σ → ι → Prop} {s s' s'' : σ}

theorem Reach.refl (s : σ) : Reach step ok s s := Relation.ReflTransGen.refl

theorem Reach.trans (h₁ : Reach step ok s s') (h₂ : Reach step ok s' s'') :
    Reach step ok s s'' := Relation.ReflTransGen.trans h₁ h₂

theorem Reach.tail {a : ι} (h : Reach step ok s s') (hok : ok s' a)
    (hs : step s' a = some s'') : Reach step ok s s'' :=
  Relation.ReflTransGen.tail h ⟨a, hok, hs⟩

/-- A run under a condition is a run under any weaker one. -/
theorem Reach.mono {ok' : σ → ι → Prop} (hw : ∀ s a, ok s a → ok' s a)
    (h : Reach step ok s s') : Reach step ok' s s' := by
  induction h with
  | refl => exact Reach.refl s
  | tail _ hlast ih =>
      obtain ⟨a, hok, hs⟩ := hlast
      exact Reach.tail ih (hw _ a hok) hs

/-- **The invariant rule.**  What holds at the start and survives every step
that meets `ok` holds in every state of a run. -/
theorem Reach.invariant {P : σ → Prop} (h0 : P s)
    (hstep : ∀ t a t', P t → ok t a → step t a = some t' → P t')
    (h : Reach step ok s s') : P s' := by
  induction h with
  | refl => exact h0
  | tail _ hlast ih =>
      obtain ⟨a, hok, hs⟩ := hlast
      exact hstep _ a _ ih hok hs

end Reach

/-! ## §2. Explicit schedules. -/

/-- Follow a schedule of actions. -/
def run (step : σ → ι → Option σ) : σ → List ι → Option σ
  | s, [] => some s
  | s, a :: as => (step s a).bind (fun s' => run step s' as)

theorem run_two {step : σ → ι → Option σ} {s t u : σ} {a b : ι} (ha : step s a = some t)
    (hb : step t b = some u) : run step s [a, b] = some u := by
  simp only [run, ha, hb, Option.bind_some]

theorem run_cons {step : σ → ι → Option σ} {s t : σ} {a : ι} (h : step s a = some t)
    (as : List ι) : run step s (a :: as) = run step t as := by
  rw [run, h, Option.bind_some]

theorem run_append {step : σ → ι → Option σ} {as : List ι} {s t : σ} (h : run step s as = some t)
    (bs : List ι) : run step s (as ++ bs) = run step t bs := by
  induction as generalizing s with
  | nil =>
      obtain rfl : s = t := Option.some.inj h
      rfl
  | cons a as ih =>
      obtain ⟨s', hs, hrest⟩ := Option.bind_eq_some_iff.mp h
      rw [List.cons_append, run_cons hs]
      exact ih hrest

/-- A run in two parts. -/
theorem exists_run_append {step : σ → ι → Option σ} {bs : List ι} {u : σ} :
    ∀ {as : List ι} {s : σ}, run step s (as ++ bs) = some u →
      ∃ t, run step s as = some t ∧ run step t bs = some u := by
  intro as
  induction as with
  | nil =>
      intro s h
      exact ⟨s, rfl, h⟩
  | cons a as ih =>
      intro s h
      obtain ⟨s', hs, hrest⟩ := Option.bind_eq_some_iff.mp h
      obtain ⟨t, ht, hu⟩ := ih hrest
      exact ⟨t, by rw [run, hs]; exact ht, hu⟩

/-- The machine that refuses a step which does not meet `ok`. -/
def only (step : σ → ι → Option σ) (ok : σ → ι → Bool) : σ → ι → Option σ :=
  fun s a => if ok s a then step s a else none

/-- A schedule that `only` accepts is a run whose steps all meet `ok`. -/
theorem reach_of_run {step : σ → ι → Option σ} {ok : σ → ι → Bool} :
    ∀ (as : List ι) {s s' : σ}, run (only step ok) s as = some s' →
      Reach step (fun t a => ok t a = true) s s' := by
  intro as
  induction as with
  | nil =>
      intro s s' h
      have hs : s = s' := Option.some.inj h
      rw [hs]
      exact Reach.refl s'
  | cons a as ih =>
      intro s s' h
      obtain ⟨t, ht, hrest⟩ := Option.bind_eq_some_iff.mp h
      have hok : ok s a = true := by
        cases hb : ok s a with
        | true => rfl
        | false => simp [only, hb] at ht
      have hstep : step s a = some t := by
        simpa [only, hok] using ht
      exact Reach.trans (Reach.tail (Reach.refl s) hok hstep) (ih hrest)

/-- A schedule is a run of the machine itself. -/
theorem reach_any_of_run {step : σ → ι → Option σ} (as : List ι) {s s' : σ}
    (h : run step s as = some s') : Reach step Any s s' := by
  have honly : only step (fun _ _ => true) = step := by
    funext t a
    exact if_pos rfl
  have hreach : Reach step (fun _ _ => true = true) s s' := reach_of_run as (honly.symm ▸ h)
  exact hreach.mono (fun _ _ _ => trivial)

/-! ## §3. What holds of every step of a schedule. -/

/-- Every step of the schedule meets `P`, in the state it starts from. -/
def Along (step : σ → ι → Option σ) (P : σ → ι → Prop) : σ → List ι → Prop
  | _, [] => True
  | s, a :: as => P s a ∧ ∀ s', step s a = some s' → Along step P s' as

/-- A schedule that `only` accepts meets `ok` at every step. -/
theorem along_of_run {step : σ → ι → Option σ} {ok : σ → ι → Bool} :
    ∀ (as : List ι) {s s' : σ}, run (only step ok) s as = some s' →
      Along step (fun t a => ok t a = true) s as := by
  intro as
  induction as with
  | nil =>
      intro s s' _
      trivial
  | cons a as ih =>
      intro s s' h
      obtain ⟨t, ht, hrest⟩ := Option.bind_eq_some_iff.mp h
      cases hb : ok s a with
      | false => simp [only, hb] at ht
      | true =>
          have hstep : step s a = some t := by simpa [only, hb] using ht
          refine ⟨hb, fun t' ht' => ?_⟩
          obtain rfl : t = t' := Option.some.inj (hstep.symm.trans ht')
          exact ih hrest

theorem Along.mono {step : σ → ι → Option σ} {P Q : σ → ι → Prop} {as : List ι} {s : σ}
    (h : Along step P s as) (hw : ∀ s a, P s a → Q s a) : Along step Q s as := by
  induction as generalizing s with
  | nil => trivial
  | cons a as ih => exact ⟨hw s a h.1, fun s' hs => ih (h.2 s' hs)⟩

/-- Two schedules one after the other. -/
theorem Along.append {step : σ → ι → Option σ} {P : σ → ι → Prop} {bs : List ι} :
    ∀ {as : List ι} {s : σ}, Along step P s as → (∀ s', Along step P s' bs) →
      Along step P s (as ++ bs) := by
  intro as
  induction as with
  | nil =>
      intro s _ hbs
      exact hbs s
  | cons a as ih =>
      intro s h hbs
      exact ⟨h.1, fun s' hs => ih (h.2 s' hs) hbs⟩

/-- The first part of a schedule. -/
theorem Along.of_append {step : σ → ι → Option σ} {P : σ → ι → Prop} {bs : List ι} :
    ∀ {as : List ι} {s : σ}, Along step P s (as ++ bs) → Along step P s as := by
  intro as
  induction as with
  | nil =>
      intro s _
      trivial
  | cons a as ih =>
      intro s h
      exact ⟨h.1, fun s' hs => ih (h.2 s' hs)⟩

/-- The last part of a schedule, from the state that the first part leads to. -/
theorem Along.drop {step : σ → ι → Option σ} {P : σ → ι → Prop} {bs : List ι} {t : σ} :
    ∀ {as : List ι} {s : σ}, Along step P s (as ++ bs) → run step s as = some t →
      Along step P t bs := by
  intro as
  induction as with
  | nil =>
      intro s h hrun
      obtain rfl : s = t := Option.some.inj hrun
      exact h
  | cons a as ih =>
      intro s h hrun
      obtain ⟨s', hs, hrest⟩ := Option.bind_eq_some_iff.mp hrun
      exact ih (h.2 s' hs) hrest

/-- The last step of a schedule meets `P` in the state that the others lead to. -/
theorem Along.last {step : σ → ι → Option σ} {P : σ → ι → Prop} {a : ι} (as : List ι) {s s' : σ}
    (h : Along step P s (as ++ [a])) (hrun : run step s as = some s') : P s' a := (h.drop hrun).1

/-- A condition on the actions alone. -/
theorem along_of_mem {step : σ → ι → Option σ} {F : ι → Prop} :
    ∀ {as : List ι} {s : σ}, (∀ a ∈ as, F a) → Along step (fun _ a => F a) s as := by
  intro as
  induction as with
  | nil =>
      intro s _
      trivial
  | cons a as ih =>
      intro s h
      exact ⟨h a List.mem_cons_self, fun s' _ => ih (fun b hb => h b (List.mem_cons_of_mem a hb))⟩

theorem Along.and {step : σ → ι → Option σ} {P Q : σ → ι → Prop} :
    ∀ {as : List ι} {s : σ}, Along step P s as → Along step Q s as →
      Along step (fun s a => P s a ∧ Q s a) s as := by
  intro as
  induction as with
  | nil =>
      intro s _ _
      trivial
  | cons a as ih =>
      intro s hP hQ
      exact ⟨⟨hP.1, hQ.1⟩, fun s' hs => ih (hP.2 s' hs) (hQ.2 s' hs)⟩

/-- A condition that follows from another one, under an invariant that the latter
maintains, follows from it along every schedule. -/
theorem Along.of_invariant {step : σ → ι → Option σ} {P Q : σ → ι → Prop} {I : σ → Prop}
    (himp : ∀ s a, I s → Q s a → P s a)
    (hstep : ∀ s a s', I s → Q s a → step s a = some s' → I s') :
    ∀ {as : List ι} {s : σ}, I s → Along step Q s as → Along step P s as := by
  intro as
  induction as with
  | nil =>
      intro s _ _
      trivial
  | cons a as ih =>
      intro s hI h
      exact ⟨himp s a hI h.1, fun s' hs => ih (hstep s a s' hI h.1 hs) (h.2 s' hs)⟩

/-- **Two conditions on steps that agree under an invariant** — an invariant that
the second one maintains — hold of the same schedules. -/
theorem along_iff {step : σ → ι → Option σ} {P Q : σ → ι → Prop} {I : σ → Prop}
    (hagree : ∀ s a, I s → (P s a ↔ Q s a))
    (hstep : ∀ s a s', I s → Q s a → step s a = some s' → I s') :
    ∀ (as : List ι) {s : σ}, I s → (Along step P s as ↔ Along step Q s as) := by
  intro as
  induction as with
  | nil =>
      intro s _
      exact Iff.rfl
  | cons a as ih =>
      intro s hI
      constructor
      · rintro ⟨hP, hrest⟩
        have hQ : Q s a := (hagree s a hI).mp hP
        exact ⟨hQ, fun s' hs => (ih (hstep s a s' hI hQ hs)).mp (hrest s' hs)⟩
      · rintro ⟨hQ, hrest⟩
        exact ⟨(hagree s a hI).mpr hQ, fun s' hs => (ih (hstep s a s' hI hQ hs)).mpr (hrest s' hs)⟩

end LoRaGateway.Lib
