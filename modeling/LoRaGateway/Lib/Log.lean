/-
  LoRaGateway.Lib.Log
  ───────────────────
  **A MACHINE AND THE LOG OF WHAT IT ACCEPTS.**

  A log is a list of events, the latest one last.  A machine that writes a log says of
  each step, before it is taken, which events it is; the machine itself does not read
  the log.

    • `latest` — what the last event that speaks of something says of it,
    • `foldl_latest` — what a replay makes of something that events set,
    • `recordStep` — the machine with its log,
    • `recorded_invariant` — what each step keeps of a state and the log that led to it.
-/
import LoRaGateway.Lib.Run
import Mathlib.Data.List.Induction

namespace LoRaGateway.Lib

/-! ## §1. What a log says last. -/

section Latest

variable {ε β : Type} {f : ε → Option β}

/-- The value of the last event that has one. -/
def latest (f : ε → Option β) (log : List ε) : Option β := (log.filterMap f).getLast?

@[simp] theorem latest_nil (f : ε → Option β) : latest f [] = none := rfl

theorem latest_append (f : ε → Option β) (as bs : List ε) :
    latest f (as ++ bs) = (latest f bs).or (latest f as) := by
  unfold latest
  rw [List.filterMap_append, List.getLast?_append]

theorem latest_concat (f : ε → Option β) (log : List ε) (e : ε) :
    latest f (log ++ [e]) = (f e).or (latest f log) := by
  rw [latest_append]
  unfold latest
  cases h : f e with
  | none => rw [List.filterMap_cons_none h, List.filterMap_nil, List.getLast?_nil]
  | some b => rw [List.filterMap_cons_some h, List.filterMap_nil, List.getLast?_singleton]

/-- An event that does not speak of it. -/
theorem latest_concat_none {log : List ε} {e : ε} (h : f e = none) :
    latest f (log ++ [e]) = latest f log := by
  rw [latest_concat, h, Option.none_or]

theorem latest_concat_some {log : List ε} {e : ε} {b : β} (h : f e = some b) :
    latest f (log ++ [e]) = some b := by
  rw [latest_concat, h, Option.some_or]

/-- Events that are lists of smaller ones. -/
theorem latest_flatMap {δ : Type} (g : δ → List ε) (f : ε → Option β) (log : List δ) :
    latest f (log.flatMap g) = latest (fun d => latest f (g d)) log := by
  induction log using List.reverseRecOn with
  | nil => rfl
  | append_singleton log d ih =>
      rw [List.flatMap_append, latest_append, latest_concat, ih, List.flatMap_singleton]

/-- **The last event**: nothing behind it speaks of it. -/
theorem latest_eq_some_iff {log : List ε} {b : β} :
    latest f log = some b
      ↔ ∃ earlier e later, log = earlier ++ e :: later ∧ f e = some b
        ∧ ∀ x ∈ later, f x = none := by
  constructor
  · intro h
    induction log using List.reverseRecOn with
    | nil => simp at h
    | append_singleton log e ih =>
        cases he : f e with
        | some c =>
            rw [latest_concat_some he] at h
            exact ⟨log, e, [], rfl, he.trans h, fun x hx => absurd hx List.not_mem_nil⟩
        | none =>
            rw [latest_concat_none he] at h
            obtain ⟨earlier, x, later, rfl, hx, hlater⟩ := ih h
            refine ⟨earlier, x, later ++ [e], by simp, hx, fun y hy => ?_⟩
            rcases List.mem_append.mp hy with hy | hy
            · exact hlater y hy
            · rw [List.mem_singleton.mp hy]
              exact he
  · rintro ⟨earlier, e, later, rfl, he, hlater⟩
    have hsilent : later.filterMap f = [] := List.filterMap_eq_nil_iff.mpr hlater
    rw [List.append_cons, latest_append, latest_concat_some he]
    show ((later.filterMap f).getLast?).or (some b) = some b
    rw [hsilent]
    rfl

/-- The events of a log that carry something more. -/
theorem latest_map {δ : Type} (g : δ → ε) (f : ε → Option β) (log : List δ) :
    latest f (log.map g) = latest (fun d => f (g d)) log := by
  unfold latest
  rw [List.filterMap_map]
  rfl

/-- Some event speaks of it. -/
theorem exists_of_latest {log : List ε} {b : β} (h : latest f log = some b) :
    ∃ e ∈ log, f e = some b := by
  obtain ⟨earlier, e, later, rfl, he, -⟩ := latest_eq_some_iff.mp h
  exact ⟨e, by simp, he⟩

/-- **Replay.**  Where each event sets what is observed, or leaves it alone, it is what
was set last. -/
theorem foldl_latest {σ : Type} {apply : σ → ε → σ} (obs : σ → β) (s : σ) (log : List ε)
    (hset : ∀ e ∈ log, ∀ s b, f e = some b → obs (apply s e) = b)
    (hkeep : ∀ e ∈ log, ∀ s, f e = none → obs (apply s e) = obs s) :
    obs (log.foldl apply s) = (latest f log).getD (obs s) := by
  induction log using List.reverseRecOn with
  | nil => rfl
  | append_singleton log e ih =>
      have hbefore := ih (fun e he => hset e (List.mem_append_left _ he))
        (fun e he => hkeep e (List.mem_append_left _ he))
      have hlast : e ∈ log ++ [e] := by simp
      rw [List.foldl_append]
      show obs (apply (log.foldl apply s) e) = _
      cases he : f e with
      | none =>
          rw [latest_concat_none he, hkeep e hlast _ he]
          exact hbefore
      | some b =>
          rw [latest_concat_some he, hset e hlast _ b he]
          rfl

end Latest

/-! ## §2. The machine with its log. -/

/-- A state, and the events that led to it. -/
structure Recorded (σ ε : Type) where
  state : σ
  log : List ε

variable {σ ι ε : Type}

/-- The events are those of the step, as the state before it has them. -/
def recordStep (step : σ → ι → Option σ) (events : σ → ι → List ε) (w : Recorded σ ε) (a : ι) :
    Option (Recorded σ ε) :=
  (step w.state a).map (fun s => ⟨s, w.log ++ events w.state a⟩)

section Record

variable {step : σ → ι → Option σ} {events : σ → ι → List ε} {ok : σ → ι → Prop} {s s' : σ}
  {w w' : Recorded σ ε}

theorem recordStep_eq_some {a : ι} (h : recordStep step events w a = some w') :
    step w.state a = some w'.state ∧ w'.log = w.log ++ events w.state a := by
  obtain ⟨s, hs, rfl⟩ := Option.map_eq_some_iff.mp h
  exact ⟨hs, rfl⟩

/-- A step, recorded. -/
theorem recordStep_of_step {a : ι} (h : step s a = some s') (log : List ε) :
    recordStep step events ⟨s, log⟩ a = some ⟨s', log ++ events s a⟩ := by
  show (step s a).map _ = _
  rw [h]
  rfl

/-- **The invariant rule with a log**: what holds of the start and the empty log, and
survives every step that meets `ok` with its events, holds in every state of a run. -/
theorem recorded_invariant {P : σ → List ε → Prop} (h0 : P s [])
    (hstep : ∀ t a t' log, P t log → ok t a → step t a = some t' → P t' (log ++ events t a))
    (h : Reach (recordStep step events) (fun w => ok w.state) ⟨s, []⟩ w) : P w.state w.log := by
  refine Reach.invariant (P := fun w => P w.state w.log) h0 ?_ h
  intro t a t' hP hok hs
  obtain ⟨hs', hlog⟩ := recordStep_eq_some hs
  rw [hlog]
  exact hstep t.state a t'.state t.log hP hok hs'

end Record

end LoRaGateway.Lib
