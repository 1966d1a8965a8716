/-
  LoRaGateway.Lib.Program
  ───────────────────────
  **PROGRAMS THAT TALK TO A DEVICE, AND THEIR TRACES.**

  A `Program` returns, stops early for some reason, or performs an operation and
  goes on with the answer.  The answer is not computed here: a `Trace` allows
  every answer at every operation, so what holds of all traces holds whatever the
  device does, and whatever else uses the device in between.

    • `Shows` — what an observer of some of the operations sees: a rule for each
      way of building programs (`shows_bind`, …), and `Shows.sound`, which turns
      it into a statement about traces,
    • `Returns` — what a run that returns has shown, with the answers,
    • `Ends` — a device on which the program comes to its end,
    • `NeverReturns`, `Total` — a program that stops early on every device, and on none,
    • `exec` — the run on a device that is given as a state machine,
    • `history` — its operations, each with the state that it finds.
-/
import Mathlib.Data.List.Basic

namespace LoRaGateway.Lib

/-! ## §1. Programs. -/

/-- Operations `Op`, answered in `Resp`; `ε` are the reasons to stop. -/
inductive Program (Op : Type) (Resp : Op → Type) (ε α : Type) where
  | ret (a : α)
  | stop (e : ε)
  | op (o : Op) (k : Resp o → Program Op Resp ε α)

namespace Program

variable {Op : Type} {Resp : Op → Type} {ε α β γ : Type}

/-- One program after the other; an error ends both. -/
def bind : Program Op Resp ε α → (α → Program Op Resp ε β) → Program Op Resp ε β
  | ret a, f => f a
  | stop e, _ => stop e
  | op o k, f => op o (fun r => (k r).bind f)

instance : Monad (Program Op Resp ε) where
  pure := ret
  bind := bind

theorem bind_assoc (p : Program Op Resp ε α) (f : α → Program Op Resp ε β)
    (g : β → Program Op Resp ε γ) : p >>= f >>= g = p >>= fun a => f a >>= g := by
  induction p with
  | ret a => rfl
  | stop e => rfl
  | op o k ih => exact congrArg (op o) (funext ih)

theorem bind_ret (p : Program Op Resp ε α) : p >>= ret = p := by
  induction p with
  | ret a => rfl
  | stop e => rfl
  | op o k ih => exact congrArg (op o) (funext ih)

/-- One operation; its answer is the result. -/
def perform (o : Op) : Program Op Resp ε (Resp o) := op o ret

/-- What the program returned, when it is through. -/
def result? : Program Op Resp ε α → Option α
  | ret a => some a
  | _ => none

theorem eq_ret_of_result? {p : Program Op Resp ε α} {a : α} (h : p.result? = some a) :
    p = ret a := by
  cases p with
  | ret b => exact congrArg ret (Option.some.inj h)
  | stop e => exact absurd h (by simp [result?])
  | op o k => exact absurd h (by simp [result?])

/-- A computation that may have no result. -/
def ofOption (e : ε) : Option α → Program Op Resp ε α
  | some a => ret a
  | none => stop e

/-! ## §2. Traces. -/

/-- How a run looks when it is observed: it returned, it stopped, or it goes on. -/
inductive Outcome (ε α : Type) where
  | returned (a : α)
  | stopped (e : ε)
  | running

/-- The operations that a run has performed, with their answers. -/
inductive Trace : Program Op Resp ε α → List (Sigma Resp) → Outcome ε α → Prop
  | cut (p : Program Op Resp ε α) : Trace p [] .running
  | ret (a : α) : Trace (.ret a) [] (.returned a)
  | stop (e : ε) : Trace (.stop e) [] (.stopped e)
  | op {o : Op} {k : Resp o → Program Op Resp ε α} {r : Resp o} {t : List (Sigma Resp)}
      {out : Outcome ε α} : Trace (k r) t out → Trace (.op o k) (⟨o, r⟩ :: t) out

/-- What an observer who sees `see o` of an operation `o` has seen. -/
def seen (see : Op → List γ) (t : List (Sigma Resp)) : List γ := t.flatMap (fun e => see e.1)

/-! ## §3. What a program shows. -/

/-- Whatever the answers, the observer sees the list `bs`, or a first part of it
as long as the program has not returned; it stops only for a reason in `ok`. -/
def Shows (see : Op → List γ) (ok : ε → Prop) : Program Op Resp ε α → List γ → Prop
  | ret _, bs => bs = []
  | stop e, _ => ok e
  | op o k, bs => ∃ rest, bs = see o ++ rest ∧ ∀ r, (k r).Shows see ok rest

section Shows

variable {see : Op → List γ} {ok : ε → Prop}

theorem shows_ret (a : α) : (ret a : Program Op Resp ε α).Shows see ok [] := rfl

theorem shows_perform (o : Op) :
    (perform o : Program Op Resp ε (Resp o)).Shows see ok (see o) :=
  ⟨[], (List.append_nil _).symm, fun _ => rfl⟩

theorem shows_silent {o : Op} (h : see o = []) :
    (perform o : Program Op Resp ε (Resp o)).Shows see ok [] := by
  rw [← h]
  exact shows_perform o

/-- **Sequencing** appends what is seen. -/
theorem shows_bind {p : Program Op Resp ε α} {f : α → Program Op Resp ε β} :
    ∀ {bs cs : List γ}, p.Shows see ok bs → (∀ a, (f a).Shows see ok cs) →
      (p >>= f).Shows see ok (bs ++ cs) := by
  induction p with
  | ret a =>
      rintro bs cs rfl hf
      exact hf a
  | stop e =>
      intro bs cs hp _
      exact hp
  | op o k ih =>
      rintro bs cs ⟨rest, rfl, hk⟩ hf
      exact ⟨rest ++ cs, List.append_assoc _ _ _, fun r => ih r (hk r) hf⟩

/-- A silent first part changes nothing. -/
theorem shows_bind_silent {p : Program Op Resp ε α} {f : α → Program Op Resp ε β} {cs : List γ}
    (hp : p.Shows see ok []) (hf : ∀ a, (f a).Shows see ok cs) :
    (p >>= f).Shows see ok cs := shows_bind hp hf

/-- A silent last part changes nothing. -/
theorem shows_bind_last {p : Program Op Resp ε α} {f : α → Program Op Resp ε β} {bs : List γ}
    (hp : p.Shows see ok bs) (hf : ∀ a, (f a).Shows see ok []) : (p >>= f).Shows see ok bs := by
  rw [← List.append_nil bs]
  exact shows_bind hp hf

/-- **What a program shows is what its traces show.** -/
theorem Shows.sound {p : Program Op Resp ε α} {bs : List γ} (h : p.Shows see ok bs)
    {t : List (Sigma Resp)} {out : Outcome ε α} (ht : Trace p t out) :
    seen see t <+: bs ∧ (∀ a, out = .returned a → seen see t = bs)
      ∧ (∀ e, out = .stopped e → ok e) := by
  induction ht generalizing bs with
  | cut p =>
      refine ⟨List.nil_prefix, fun a ha => ?_, fun e he => ?_⟩
      · cases ha
      · cases he
  | ret a =>
      refine ⟨List.nil_prefix, fun _ _ => Eq.symm h, fun e he => ?_⟩
      cases he
  | stop e =>
      refine ⟨List.nil_prefix, fun a ha => ?_, fun e' he => ?_⟩
      · cases ha
      · cases he
        exact h
  | op _ ih =>
      obtain ⟨rest, rfl, hk⟩ := h
      obtain ⟨hpre, hret, hstop⟩ := ih (hk _)
      refine ⟨?_, fun a ha => ?_, hstop⟩
      · exact (List.prefix_append_right_inj _).mpr hpre
      · exact congrArg (see _ ++ ·) (hret a ha)

end Shows

/-! ## §4. What a run that returns has shown. -/

/-- A run in two parts. -/
theorem Trace.split {p : Program Op Resp ε α} {f : α → Program Op Resp ε β} {b : β} :
    ∀ {t : List (Sigma Resp)}, Trace (p >>= f) t (.returned b) →
      ∃ a t₁ t₂, t = t₁ ++ t₂ ∧ Trace p t₁ (.returned a) ∧ Trace (f a) t₂ (.returned b) := by
  induction p with
  | ret a =>
      intro t h
      exact ⟨a, [], t, rfl, Trace.ret a, h⟩
  | stop e =>
      intro t h
      cases h
  | op o k ih =>
      intro t h
      cases h with
      | @op _ _ r t _ ht =>
          obtain ⟨a, t₁, t₂, rfl, h₁, h₂⟩ := ih r ht
          exact ⟨a, ⟨o, r⟩ :: t₁, t₂, rfl, Trace.op h₁, h₂⟩

/-- Of a run that returns `a`, an observer who also sees the answers has seen a list
with `Q a`. -/
structure Returns (watch : Sigma Resp → List γ) (p : Program Op Resp ε α)
    (Q : α → List γ → Prop) : Prop where
  sound : ∀ t a, Trace p t (.returned a) → Q a (t.flatMap watch)

section Returns

variable {watch : Sigma Resp → List γ}

theorem returns_ret {a : α} {Q : α → List γ → Prop} (h : Q a []) :
    (ret a : Program Op Resp ε α).Returns watch Q := by
  refine ⟨fun t b ht => ?_⟩
  cases ht
  exact h

theorem returns_stop {e : ε} {Q : α → List γ → Prop} :
    (stop e : Program Op Resp ε α).Returns watch Q := by
  refine ⟨fun t b ht => ?_⟩
  cases ht

theorem returns_perform {o : Op} {Q : Resp o → List γ → Prop} (h : ∀ r, Q r (watch ⟨o, r⟩)) :
    (perform o : Program Op Resp ε (Resp o)).Returns watch Q := by
  refine ⟨fun t b ht => ?_⟩
  cases ht with
  | op ht =>
      -- the answer is what is returned
      cases ht
      show Q b (watch ⟨o, b⟩ ++ [])
      rw [List.append_nil]
      exact h b

/-- **Sequencing**: the second part goes on behind what the first one has shown. -/
theorem returns_bind {p : Program Op Resp ε α} {f : α → Program Op Resp ε β}
    {Q : α → List γ → Prop} {R : β → List γ → Prop} (hp : p.Returns watch Q)
    (hf : ∀ a xs, Q a xs → (f a).Returns watch (fun b ys => R b (xs ++ ys))) :
    (p >>= f).Returns watch R := by
  refine ⟨fun t b ht => ?_⟩
  obtain ⟨a, t₁, t₂, rfl, h₁, h₂⟩ := ht.split
  rw [List.flatMap_append]
  exact (hf a _ (hp.sound t₁ a h₁)).sound t₂ b h₂

/-- A first part of which it is known what it shows. -/
theorem returns_bind_shown {p : Program Op Resp ε α} {f : α → Program Op Resp ε β} {bs : List γ}
    {R : β → List γ → Prop} (hp : p.Returns watch (fun _ xs => xs = bs))
    (hf : ∀ a, (f a).Returns watch (fun b ys => R b (bs ++ ys))) : (p >>= f).Returns watch R := by
  apply returns_bind hp
  intro a xs hxs
  rw [hxs]
  exact hf a

/-- A silent first part changes nothing. -/
theorem returns_bind_silent {p : Program Op Resp ε α} {f : α → Program Op Resp ε β}
    {R : β → List γ → Prop} (hp : p.Returns watch (fun _ xs => xs = []))
    (hf : ∀ a, (f a).Returns watch R) : (p >>= f).Returns watch R := returns_bind_shown hp hf

theorem Returns.mono {p : Program Op Resp ε α} {Q R : α → List γ → Prop}
    (hp : p.Returns watch Q) (h : ∀ a xs, Q a xs → R a xs) : p.Returns watch R :=
  ⟨fun t a ht => h a _ (hp.sound t a ht)⟩

end Returns

/-! ## §5. A device on which the program returns. -/

/-- With the answers of `answer`, the program does not stop for a reason in `ok`. -/
def Ends (answer : (o : Op) → Resp o) (ok : ε → Prop) : Program Op Resp ε α → Prop
  | ret _ => True
  | stop e => ¬ ok e
  | op o k => (k (answer o)).Ends answer ok

section Ends

variable {answer : (o : Op) → Resp o} {ok : ε → Prop}

theorem ends_bind {p : Program Op Resp ε α} {f : α → Program Op Resp ε β}
    (hp : p.Ends answer ok) (hf : ∀ a, (f a).Ends answer ok) : (p >>= f).Ends answer ok := by
  induction p with
  | ret a => exact hf a
  | stop e => exact hp
  | op o k ih => exact ih (answer o) hp

/-- **A run that returns**: the program shows something, so it can only stop for a
reason in `ok`, and for these answers it does not. -/
theorem Shows.returns {see : Op → List γ} {p : Program Op Resp ε α} {bs : List γ}
    (h : p.Shows see ok bs) (he : p.Ends answer ok) : ∃ t a, Trace p t (.returned a) := by
  induction p generalizing bs with
  | ret a => exact ⟨[], a, Trace.ret a⟩
  | stop e => exact absurd h he
  | op o k ih =>
      obtain ⟨rest, -, hk⟩ := h
      obtain ⟨t, a, ht⟩ := ih (answer o) (hk _) he
      exact ⟨_, a, Trace.op ht⟩

/-- On such a device the program returns, or it stops for another reason. -/
theorem Ends.exists_trace {p : Program Op Resp ε α} (h : p.Ends answer ok) :
    ∃ t out, Trace p t out ∧ ((∃ a, out = .returned a) ∨ ∃ e, ¬ ok e ∧ out = .stopped e) := by
  induction p with
  | ret a => exact ⟨[], _, Trace.ret a, Or.inl ⟨a, rfl⟩⟩
  | stop e => exact ⟨[], _, Trace.stop e, Or.inr ⟨e, h, rfl⟩⟩
  | op o k ih =>
      obtain ⟨t, out, ht, hout⟩ := ih (answer o) h
      exact ⟨_, out, Trace.op ht, hout⟩

end Ends

/-- Whatever the answers, the program does not return. -/
def NeverReturns : Program Op Resp ε α → Prop
  | ret _ => False
  | stop _ => True
  | op _ k => ∀ r, (k r).NeverReturns

section NeverReturns

theorem neverReturns_bind {p : Program Op Resp ε α} {f : α → Program Op Resp ε β}
    (h : ∀ a, (f a).NeverReturns) : (p >>= f).NeverReturns := by
  induction p with
  | ret a => exact h a
  | stop e => trivial
  | op o k ih => exact fun r => ih r

theorem neverReturns_bind_left {p : Program Op Resp ε α} {f : α → Program Op Resp ε β}
    (h : p.NeverReturns) : (p >>= f).NeverReturns := by
  induction p with
  | ret a => exact False.elim h
  | stop e => trivial
  | op o k ih => exact fun r => ih r (h r)

theorem NeverReturns.sound {p : Program Op Resp ε α} (h : p.NeverReturns) {t : List (Sigma Resp)}
    {a : α} : ¬ Trace p t (.returned a) := by
  induction p generalizing t with
  | ret b => exact False.elim h
  | stop e =>
      intro ht
      cases ht
  | op o k ih =>
      intro ht
      cases ht with
      | op ht => exact ih _ (h _) ht

end NeverReturns

/-- Whatever the answers, the program does not stop early. -/
def Total : Program Op Resp ε α → Prop
  | ret _ => True
  | stop _ => False
  | op _ k => ∀ r, (k r).Total

theorem total_bind {p : Program Op Resp ε α} {f : α → Program Op Resp ε β} (hp : p.Total)
    (hf : ∀ a, (f a).Total) : (p >>= f).Total := by
  induction p with
  | ret a => exact hf a
  | stop e => exact False.elim hp
  | op o k ih => exact fun r => ih r (hp r)

/-! ## §6. A device with a state. -/

/-- Run on a device that answers from its state; the result, if the program does
not stop, and the state of the device. -/
def exec {σ : Type} (device : σ → (o : Op) → Resp o × σ) :
    Program Op Resp ε α → σ → Option (α × σ)
  | ret a, s => some (a, s)
  | stop _, _ => none
  | op o k, s => (k (device s o).1).exec device (device s o).2

theorem Total.exec {σ : Type} {device : σ → (o : Op) → Resp o × σ} {p : Program Op Resp ε α}
    (h : p.Total) (s : σ) : ∃ x, p.exec device s = some x := by
  induction p generalizing s with
  | ret a => exact ⟨(a, s), rfl⟩
  | stop e => exact False.elim h
  | op o k ih => exact ih _ (h _) _

theorem NeverReturns.exec {σ : Type} {device : σ → (o : Op) → Resp o × σ}
    {p : Program Op Resp ε α} (h : p.NeverReturns) (s : σ) : p.exec device s = none := by
  induction p generalizing s with
  | ret a => exact False.elim h
  | stop e => rfl
  | op o k ih => exact ih _ (h _) _

theorem exec_bind_eq {σ : Type} {device : σ → (o : Op) → Resp o × σ} {p : Program Op Resp ε α}
    {f : α → Program Op Resp ε β} (s : σ) :
    (p >>= f).exec device s = (p.exec device s).bind (fun x => (f x.1).exec device x.2) := by
  induction p generalizing s with
  | ret a => rfl
  | stop e => rfl
  | op o k ih => exact ih (device s o).1 (device s o).2

theorem exec_bind {σ : Type} {device : σ → (o : Op) → Resp o × σ} {p : Program Op Resp ε α}
    {f : α → Program Op Resp ε β} {a : α} {s s' : σ} (h : p.exec device s = some (a, s')) :
    (p >>= f).exec device s = (f a).exec device s' := by
  rw [exec_bind_eq, h]
  rfl

/-- If two parts return, the first one does. -/
theorem exec_bind_some {σ : Type} {device : σ → (o : Op) → Resp o × σ}
    {p : Program Op Resp ε α} {f : α → Program Op Resp ε β} {s : σ} {x : β × σ}
    (h : (p >>= f).exec device s = some x) :
    ∃ a s', p.exec device s = some (a, s') ∧ (f a).exec device s' = some x := by
  rw [exec_bind_eq] at h
  obtain ⟨⟨a, s'⟩, hp, hf⟩ := Option.bind_eq_some_iff.mp h
  exact ⟨a, s', hp, hf⟩

/-- The operations of the run, each with the state of the device before it. -/
def history {σ : Type} (device : σ → (o : Op) → Resp o × σ) :
    Program Op Resp ε α → σ → List (σ × Op)
  | op o k, s => (s, o) :: (k (device s o).1).history device (device s o).2
  | _, _ => []

theorem history_bind {σ : Type} {device : σ → (o : Op) → Resp o × σ} {p : Program Op Resp ε α}
    {f : α → Program Op Resp ε β} {a : α} {s s' : σ} (h : p.exec device s = some (a, s')) :
    (p >>= f).history device s = p.history device s ++ (f a).history device s' := by
  induction p generalizing s with
  | ret b =>
      obtain ⟨rfl, rfl⟩ := Prod.mk.inj (Option.some.inj h)
      rfl
  | stop e => cases h
  | op o k ih => exact congrArg ((s, o) :: ·) (ih (device s o).1 h)

end Program

end LoRaGateway.Lib
