/-
  LoRaGateway.Lib.Parallel
  ────────────────────────
  **ONE PROGRAM AMONG ANY NUMBER OF OTHERS, ON ONE DEVICE.**

  The others come at any time, and each of them, the device itself and the one
  program take turns operation by operation.  The one is known by its weakest
  precondition in a `Setting`; of the others it is only known which operations they
  can perform at all.

    • `Within` — the operations of a program lie in a set, with a rule for each way
      of building programs,
    • `Within.meets` — a program of harmless operations keeps what the setting keeps,
    • `parallel_step` — what is known of the one stays known.
-/
import LoRaGateway.Lib.Interleave

namespace LoRaGateway.Lib

variable {Op : Type} {Resp : Op → Type} {ε α β σ ι π : Type}

namespace Program

/-! ## §1. The operations of a program. -/

/-- Whatever the answers, the program performs operations of `P` only. -/
def Within (P : Op → Prop) : Program Op Resp ε α → Prop
  | ret _ => True
  | stop _ => True
  | op o k => P o ∧ ∀ r, (k r).Within P

section Within

variable {P : Op → Prop}

theorem within_ret (a : α) : (ret a : Program Op Resp ε α).Within P := trivial

theorem within_perform {o : Op} (h : P o) :
    (perform o : Program Op Resp ε (Resp o)).Within P := ⟨h, fun _ => trivial⟩

theorem within_bind {p : Program Op Resp ε α} {f : α → Program Op Resp ε β} (hp : p.Within P)
    (hf : ∀ a, (f a).Within P) : (p >>= f).Within P := by
  induction p with
  | ret a => exact hf a
  | stop e => trivial
  | op o k ih => exact ⟨hp.1, fun r => ih r (hp.2 r)⟩

/-- A computation that may have no result. -/
theorem within_ofOption {e : ε} {o : Option α} {f : α → Program Op Resp ε β}
    (h : ∀ a, o = some a → (f a).Within P) : (ofOption e o >>= f).Within P := by
  cases o with
  | none => trivial
  | some a => exact h a rfl

/-- The operation that comes next, and the ones after it. -/
theorem Within.advance {device : σ → (o : Op) → Resp o × σ} {p p' : Program Op Resp ε α} {s s' : σ}
    (h : p.Within P) (hadv : Lib.advance device s p = some (p', s')) :
    p'.Within P ∧ ∃ o, P o ∧ s' = (device s o).2 := by
  cases p with
  | ret a => exact absurd hadv (by simp [Lib.advance])
  | stop e => exact absurd hadv (by simp [Lib.advance])
  | op o k =>
      obtain ⟨rfl, rfl⟩ := Prod.mk.inj (Option.some.inj hadv)
      exact ⟨h.2 _, o, h.1, rfl⟩

/-- **A program of harmless operations** keeps whatever the others keep. -/
theorem Within.meets {E : Setting Op Resp ε σ} {p : Program Op Resp ε α} (h : p.Within P)
    (hharmless : ∀ s o, P o → E.rely s (E.device s o).2) (hinside : ∀ s, E.inside s)
    (hstops : ∀ e, E.stops e) {A : σ → Prop} (hA : KeptBy E.rely A) :
    Meets E A p (fun _ => A) := by
  induction p with
  | ret a => exact meets_ret hA (fun _ hs => hs)
  | stop e => exact meets_stop (hstops e)
  | op o k ih =>
      intro s hs t ht
      have hdone : A (E.device t o).2 := hA _ _ (hA.star hs ht) (hharmless t o h.1)
      exact ⟨hinside t, ih _ (h.2 _) _ hdone⟩

end Within

end Program

open Program (Setting Wp)

/-! ## §2. The machine. -/

/-- The one program, those that have come since, and the device. -/
structure Parallel (Op : Type) (Resp : Op → Type) (ε α β σ : Type) where
  one : Program Op Resp ε α
  others : List (Program Op Resp ε β)
  state : σ

/-- One operation of the one or of another, another one that comes, or something that
the device does. -/
inductive ParallelMove (ι π : Type) where
  | one
  | other (i : Nat)
  | come (x : π)
  | event (e : ι)

/-- The device with its events, and the programs that may come. -/
structure Crowd (Op : Type) (Resp : Op → Type) (ε β σ ι π : Type) where
  device : σ → (o : Op) → Resp o × σ
  event : σ → ι → Option σ
  program : π → Program Op Resp ε β

/-- One move. -/
def parallelStep (c : Crowd Op Resp ε β σ ι π) (w : Parallel Op Resp ε α β σ) :
    ParallelMove ι π → Option (Parallel Op Resp ε α β σ)
  | .one =>
      (advance c.device w.state w.one).map (fun out => { w with one := out.1, state := out.2 })
  | .other i =>
      (w.others[i]?).bind (fun p => (advance c.device w.state p).map (fun out =>
        { w with others := w.others.set i out.1, state := out.2 }))
  | .come x => some { w with others := w.others ++ [c.program x] }
  | .event e => (c.event w.state e).map (fun s => { w with state := s })

/-- Everybody but the one does what the setting reckons with. -/
structure Crowd.Obeys (c : Crowd Op Resp ε β σ ι π) (E : Setting Op Resp ε σ) (P : Op → Prop) :
    Prop where
  device : E.device = c.device
  harmless : ∀ s o, P o → E.rely s (E.device s o).2
  event : ∀ s e s', c.event s e = some s' → E.rely s s'
  program : ∀ x, (c.program x).Within P

/-! ## §3. One step. -/

section Step

variable {c : Crowd Op Resp ε β σ ι π} {E : Setting Op Resp ε σ} {P : Op → Prop}
  {w w' : Parallel Op Resp ε α β σ} {Q : α → σ → Prop}

/-- The one will end in `Q`, and the others perform operations of `P` only. -/
def Parallel.Leads (E : Setting Op Resp ε σ) (P : Op → Prop) (Q : α → σ → Prop)
    (w : Parallel Op Resp ε α β σ) : Prop :=
  w.one.Wp E Q w.state ∧ ∀ p ∈ w.others, p.Within P

/-- **Whoever takes the next step, the one still leads to its end.** -/
theorem parallel_step (hc : c.Obeys E P) {move : ParallelMove ι π} (h : w.Leads E P Q)
    (hs : parallelStep c w move = some w') : w'.Leads E P Q := by
  obtain ⟨hone, hothers⟩ := h
  cases move with
  | one =>
      obtain ⟨⟨p, s⟩, hadv, rfl⟩ := Option.map_eq_some_iff.mp hs
      refine ⟨?_, hothers⟩
      cases hp : w.one with
      | ret a => exact absurd hadv (by simp [hp, advance])
      | stop e => exact absurd hadv (by simp [hp, advance])
      | op o k =>
          rw [hp, ← hc.device] at hadv
          obtain ⟨rfl, rfl⟩ := Prod.mk.inj (Option.some.inj hadv)
          rw [hp] at hone
          exact (hone w.state Relation.ReflTransGen.refl).2
  | other i =>
      obtain ⟨p, hp, hs⟩ := Option.bind_eq_some_iff.mp hs
      obtain ⟨⟨p', s⟩, hadv, rfl⟩ := Option.map_eq_some_iff.mp hs
      obtain ⟨hwithin, o, ho, rfl⟩ := (hothers p (List.mem_of_getElem? hp)).advance hadv
      refine ⟨?_, fun q hq => ?_⟩
      · rw [← hc.device]
        exact Wp.later hone (hc.harmless w.state o ho)
      · rcases List.mem_or_eq_of_mem_set hq with hq | rfl
        · exact hothers q hq
        · exact hwithin
  | come x =>
      obtain rfl := Option.some.inj hs
      refine ⟨hone, fun q hq => ?_⟩
      rcases List.mem_append.mp hq with hq | hq
      · exact hothers q hq
      · rw [List.mem_singleton.mp hq]
        exact hc.program x
  | event e =>
      obtain ⟨s, he, rfl⟩ := Option.map_eq_some_iff.mp hs
      exact ⟨Wp.later hone (hc.event w.state e s he), hothers⟩

/-- A program that has returned is where it was to end. -/
theorem Parallel.Leads.done {a : α} (h : w.Leads E P Q) (hret : w.one = .ret a) : Q a w.state := by
  have hone := h.1
  rw [hret] at hone
  exact hone w.state Relation.ReflTransGen.refl

end Step

end LoRaGateway.Lib
