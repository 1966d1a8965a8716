/-
  LoRaGateway.Lib.Interleave
  ──────────────────────────
  **A PROGRAM AND A HANDLER ON ONE DEVICE.**

  A `Program` performs its operations one by one; between two of them the device
  can change by itself, and another program can use it.  A `Setting` says how far
  this goes, and `Wp` is the weakest precondition of a program in such a setting.
  `Meets` are the triples that follow from it, with assertions that the others keep.

  A `Pair` is a program, a handler that an arrival starts once, and the device:

    • `meets_bind`, `meets_perform`, … — one rule for each way of building programs,
    • `Serves` — what is known of the handler, before, during and after its run,
    • `Prelude` — the first operations of a program, when they may fall into a run
      of the handler without harm.
-/
import LoRaGateway.Lib.Program
import LoRaGateway.Lib.Run

namespace LoRaGateway.Lib

variable {Op : Type} {Resp : Op → Type} {ε α β σ ι κ : Type}

namespace Program

/-! ## §1. Weakest preconditions. -/

/-- A device, what others may do to it between two operations, where operations may
be performed, and the reasons for which a program may stop. -/
structure Setting (Op : Type) (Resp : Op → Type) (ε σ : Type) where
  device : σ → (o : Op) → Resp o × σ
  rely : σ → σ → Prop
  inside : σ → Prop
  stops : ε → Prop

/-- From `s` the program performs its operations `inside`, and ends in `Q` or stops
for a reason that is allowed. -/
def Wp (E : Setting Op Resp ε σ) : Program Op Resp ε α → (α → σ → Prop) → σ → Prop
  | ret a, Q, s => ∀ s', Relation.ReflTransGen E.rely s s' → Q a s'
  | stop e, _, _ => E.stops e
  | op o k, Q, s => ∀ s', Relation.ReflTransGen E.rely s s' →
      E.inside s' ∧ (k (E.device s' o).1).Wp E Q (E.device s' o).2

section Wp

variable {E E' : Setting Op Resp ε σ}

/-- What the others do was reckoned with. -/
theorem Wp.later {p : Program Op Resp ε α} {Q : α → σ → Prop} {s s' : σ} (h : p.Wp E Q s)
    (hs : E.rely s s') : p.Wp E Q s' := by
  cases p with
  | ret a => exact fun t ht => h t (Relation.ReflTransGen.head hs ht)
  | stop e => exact h
  | op o k => exact fun t ht => h t (Relation.ReflTransGen.head hs ht)

theorem Wp.mono {p : Program Op Resp ε α} {Q Q' : α → σ → Prop} (hQ : ∀ a s, Q a s → Q' a s) :
    ∀ {s : σ}, p.Wp E Q s → p.Wp E Q' s := by
  induction p with
  | ret a =>
      intro s h t ht
      exact hQ a t (h t ht)
  | stop e =>
      intro s h
      exact h
  | op o k ih =>
      intro s h t ht
      exact ⟨(h t ht).1, ih _ (h t ht).2⟩

/-- What follows a program starts where the program ends. -/
theorem Wp.bind {p : Program Op Resp ε α} {f : α → Program Op Resp ε β} {Q : β → σ → Prop} :
    ∀ {s : σ}, p.Wp E (fun a t => (f a).Wp E Q t) s → (p >>= f).Wp E Q s := by
  induction p with
  | ret a =>
      intro s h
      exact h s Relation.ReflTransGen.refl
  | stop e =>
      intro s h
      exact h
  | op o k ih =>
      intro s h t ht
      exact ⟨(h t ht).1, ih _ (h t ht).2⟩

/-- Less can happen in another setting of the same device. -/
structure Setting.Narrows (E' E : Setting Op Resp ε σ) : Prop where
  device : E'.device = E.device
  rely : ∀ s s', E'.rely s s' → E.rely s s'
  inside : ∀ s, E.inside s → E'.inside s
  stops : ∀ e, E.stops e → E'.stops e

theorem Wp.narrow (hE : E'.Narrows E) {p : Program Op Resp ε α} {Q : α → σ → Prop} :
    ∀ {s : σ}, p.Wp E Q s → p.Wp E' Q s := by
  induction p with
  | ret a =>
      intro s h t ht
      exact h t (Relation.ReflTransGen.mono hE.rely _ _ ht)
  | stop e =>
      intro s h
      exact hE.stops e h
  | op o k ih =>
      intro s h t ht
      obtain ⟨hinside, hrest⟩ := h t (Relation.ReflTransGen.mono hE.rely _ _ ht)
      refine ⟨hE.inside t hinside, ?_⟩
      rw [hE.device]
      exact ih _ hrest

end Wp

/-! ## §2. Triples. -/

/-- What `rely` keeps. -/
def KeptBy (rely : σ → σ → Prop) (P : σ → Prop) : Prop := ∀ s s', P s → rely s s' → P s'

theorem KeptBy.star {rely : σ → σ → Prop} {P : σ → Prop} (hP : KeptBy rely P) {s s' : σ} (h : P s)
    (hs : Relation.ReflTransGen rely s s') : P s' := by
  induction hs with
  | refl => exact h
  | tail _ hlast ih => exact hP _ _ ih hlast

theorem KeptBy.and {rely : σ → σ → Prop} {P P' : σ → Prop} (hP : KeptBy rely P)
    (hP' : KeptBy rely P') : KeptBy rely (fun s => P s ∧ P' s) :=
  fun s s' h hs => ⟨hP s s' h.1 hs, hP' s s' h.2 hs⟩

/-- A fact that is not about the state stays true. -/
theorem KeptBy.and_fact {rely : σ → σ → Prop} {P : σ → Prop} (hP : KeptBy rely P) (R : Prop) :
    KeptBy rely (fun s => P s ∧ R) := hP.and (fun _ _ h _ => h)

/-- From `P` the program ends in `Q`. -/
def Meets (E : Setting Op Resp ε σ) (P : σ → Prop) (p : Program Op Resp ε α)
    (Q : α → σ → Prop) : Prop := ∀ s, P s → p.Wp E Q s

section Meets

variable {E E' : Setting Op Resp ε σ} {P P' : σ → Prop}

theorem meets_ret {a : α} {Q : α → σ → Prop} (hP : KeptBy E.rely P) (h : ∀ s, P s → Q a s) :
    Meets E P (ret a) Q := by
  intro s hs t ht
  exact h t (hP.star hs ht)

theorem meets_stop {e : ε} {Q : α → σ → Prop} (h : E.stops e) :
    Meets E P (stop e) Q := fun _ _ => h

/-- One operation takes one assertion to the other. -/
theorem meets_perform {o : Op} {Q : Resp o → σ → Prop} (hP : KeptBy E.rely P)
    (hQ : ∀ r, KeptBy E.rely (Q r))
    (h : ∀ s, P s → E.inside s ∧ Q (E.device s o).1 (E.device s o).2) :
    Meets E P (perform o) Q := by
  intro s hs t ht
  obtain ⟨hinside, hdone⟩ := h t (hP.star hs ht)
  exact ⟨hinside, fun u hu => (hQ _).star hdone hu⟩

theorem meets_bind {p : Program Op Resp ε α} {f : α → Program Op Resp ε β} {R : α → σ → Prop}
    {Q : β → σ → Prop} (hp : Meets E P p R) (hf : ∀ a, Meets E (R a) (f a) Q) :
    Meets E P (p >>= f) Q := by
  intro s hs
  exact Wp.bind (Wp.mono (fun a t ht => hf a t ht) (hp s hs))

/-- A fact in the precondition. -/
theorem meets_fact {R : Prop} {p : Program Op Resp ε α} {Q : α → σ → Prop}
    (h : R → Meets E P p Q) : Meets E (fun s => P s ∧ R) p Q := fun s hs => h hs.2 s hs.1

/-- The precondition may be stronger. -/
theorem Meets.pre {p : Program Op Resp ε α} {Q : α → σ → Prop} (h : Meets E P p Q)
    (hP : ∀ s, P' s → P s) : Meets E P' p Q := fun s hs => h s (hP s hs)

/-- The postcondition may be weaker. -/
theorem Meets.post {p : Program Op Resp ε α} {Q Q' : α → σ → Prop} (h : Meets E P p Q)
    (hQ : ∀ a s, Q a s → Q' a s) : Meets E P p Q' := fun s hs => Wp.mono hQ (h s hs)

theorem Meets.narrow {p : Program Op Resp ε α} {Q : α → σ → Prop} (h : Meets E P p Q)
    (hE : E'.Narrows E) : Meets E' P p Q := fun s hs => Wp.narrow hE (h s hs)

end Meets

/-! A program that nobody disturbs. -/

/-- The program has the device for itself, and may stop for any reason. -/
def alone (device : σ → (o : Op) → Resp o × σ) : Setting Op Resp ε σ :=
  ⟨device, fun _ _ => False, fun _ => True, fun _ => True⟩

theorem kept_alone {device : σ → (o : Op) → Resp o × σ} (P : σ → Prop) :
    KeptBy (alone (ε := ε) device).rely P := fun _ _ _ h => False.elim h

/-- **A triple about a program alone is about its runs.** -/
theorem Meets.exec {device : σ → (o : Op) → Resp o × σ} {P : σ → Prop} {Q : α → σ → Prop}
    {p : Program Op Resp ε α} (h : Meets (alone device) P p Q) {s s' : σ} {a : α} (hs : P s)
    (he : p.exec device s = some (a, s')) : Q a s' := by
  have hwp : ∀ (p : Program Op Resp ε α) {s : σ}, p.Wp (alone device) Q s →
      p.exec device s = some (a, s') → Q a s' := by
    intro p
    induction p with
    | ret b =>
        intro s hp he
        obtain ⟨rfl, rfl⟩ := Prod.mk.inj (Option.some.inj he)
        exact hp s Relation.ReflTransGen.refl
    | stop e =>
        intro s _ he
        cases he
    | op o k ih =>
        intro s hp he
        exact ih _ (hp s Relation.ReflTransGen.refl).2 he
  exact hwp p (h s hs) he

end Program

open Program (Setting Wp KeptBy)

/-! ## §3. A program and a handler. -/

/-- A program, the handler with the arrival that started it, and the device. -/
structure Pair (Op : Type) (Resp : Op → Type) (ε α β σ κ : Type) where
  left : Program Op Resp ε α
  right : Option (κ × Program Op Resp ε β)
  state : σ

/-- One operation of the program or of the handler, an event of the device, or the
arrival that starts the handler. -/
inductive PairMove (ι κ : Type) where
  | left
  | right
  | event (e : ι)
  | arrive (x : κ)

/-- A device with its events, and the handler of an arrival. -/
structure Plant (Op : Type) (Resp : Op → Type) (ε β σ ι κ : Type) where
  device : σ → (o : Op) → Resp o × σ
  event : σ → ι → Option σ
  arrive : σ → κ → Option σ
  handler : Program Op Resp ε β

/-- One operation. -/
def advance (device : σ → (o : Op) → Resp o × σ) (s : σ) :
    Program Op Resp ε α → Option (Program Op Resp ε α × σ)
  | .op o k => some (k (device s o).1, (device s o).2)
  | _ => none

/-- One move. -/
def pairStep (plant : Plant Op Resp ε β σ ι κ) (w : Pair Op Resp ε α β σ κ) :
    PairMove ι κ → Option (Pair Op Resp ε α β σ κ)
  | .left =>
      (advance plant.device w.state w.left).map
        (fun out => { w with left := out.1, state := out.2 })
  | .right =>
      match w.right with
      | none => none
      | some (x, r) =>
          (advance plant.device w.state r).map
            (fun out => { w with right := some (x, out.1), state := out.2 })
  | .event e => (plant.event w.state e).map (fun s => { w with state := s })
  | .arrive x =>
      match w.right with
      | none =>
          (plant.arrive w.state x).map
            (fun s => { w with right := some (x, plant.handler), state := s })
      | some _ => none

/-- The handler is started and has not returned. -/
def Busy (w : Pair Op Resp ε α β σ κ) : Prop := ∃ x r, w.right = some (x, r) ∧ ∀ b, r ≠ .ret b

/-- While the handler runs, the program performs only operations that are `tame` in
the state before them. -/
def Undisturbed (tame : σ → Op → Prop) (w : Pair Op Resp ε α β σ κ) : PairMove ι κ → Prop
  | .left => Busy w → ∀ o k, w.left = .op o k → tame w.state o
  | _ => True

/-- The same, to be evaluated. -/
def undisturbed? (tame : σ → Op → Bool) (w : Pair Op Resp ε α β σ κ) : PairMove ι κ → Bool
  | .left =>
      match w.right, w.left with
      | some (_, r), .op o _ => r.result?.isSome || tame w.state o
      | _, _ => true
  | _ => true

/-- The handler has not started, or it has returned. -/
theorem not_busy_iff {w : Pair Op Resp ε α β σ κ} :
    ¬ Busy w ↔ ∀ x r, w.right = some (x, r) → r.result?.isSome = true := by
  constructor
  · intro h x r hr
    cases r with
    | ret b => rfl
    | stop e => exact absurd ⟨x, _, hr, fun b hb => by cases hb⟩ h
    | op o k => exact absurd ⟨x, _, hr, fun b hb => by cases hb⟩ h
  · rintro h ⟨x, r, hr, hret⟩
    obtain ⟨b, hb⟩ := Option.isSome_iff_exists.mp (h x r hr)
    exact hret b (Program.eq_ret_of_result? hb)

theorem undisturbed_of_check {tame : σ → Op → Bool} {w : Pair Op Resp ε α β σ κ}
    {move : PairMove ι κ} (h : undisturbed? tame w move = true) :
    Undisturbed (fun s o => tame s o = true) w move := by
  cases move with
  | left =>
      rintro ⟨x, r, hr, hret⟩ o k hl
      rw [undisturbed?, hr, hl] at h
      rcases Bool.or_eq_true_iff.mp h with h | h
      · obtain ⟨b, hb⟩ := Option.isSome_iff_exists.mp h
        exact absurd (Program.eq_ret_of_result? hb) (hret b)
      · exact h
  | right => trivial
  | event e => trivial
  | arrive x => trivial

section Step

variable {plant : Plant Op Resp ε β σ ι κ} {w w' : Pair Op Resp ε α β σ κ}

theorem pairStep_left (h : pairStep plant w .left = some w') :
    ∃ o k, w.left = .op o k
      ∧ w' = { w with
        left := k (plant.device w.state o).1, state := (plant.device w.state o).2 } := by
  obtain ⟨out, hout, rfl⟩ := Option.map_eq_some_iff.mp h
  cases hl : w.left with
  | ret a => exact absurd hout (by simp [hl, advance])
  | stop e => exact absurd hout (by simp [hl, advance])
  | op o k =>
      rw [hl] at hout
      obtain rfl := Option.some.inj hout
      exact ⟨o, k, rfl, rfl⟩

theorem pairStep_right (h : pairStep plant w .right = some w') :
    ∃ x r out, w.right = some (x, r) ∧ advance plant.device w.state r = some out
      ∧ w' = { w with right := some (x, out.1), state := out.2 } := by
  unfold pairStep at h
  cases hr : w.right with
  | none => exact absurd h (by simp [hr])
  | some xr =>
      simp only [hr] at h
      obtain ⟨out, hout, rfl⟩ := Option.map_eq_some_iff.mp h
      exact ⟨xr.1, xr.2, out, rfl, hout, rfl⟩

theorem pairStep_event {e : ι} (h : pairStep plant w (.event e) = some w') :
    ∃ s, plant.event w.state e = some s ∧ w' = { w with state := s } := by
  obtain ⟨s, hs, rfl⟩ := Option.map_eq_some_iff.mp h
  exact ⟨s, hs, rfl⟩

theorem pairStep_arrive {x : κ} (h : pairStep plant w (.arrive x) = some w') :
    w.right = none ∧ ∃ s, plant.arrive w.state x = some s
      ∧ w' = { w with right := some (x, plant.handler), state := s } := by
  unfold pairStep at h
  cases hr : w.right with
  | some xr => exact absurd h (by simp [hr])
  | none =>
      simp only [hr] at h
      obtain ⟨s, hs, rfl⟩ := Option.map_eq_some_iff.mp h
      exact ⟨rfl, s, hs, rfl⟩

end Step

/-! ## §4. The handler. -/

/-- The handler has not started, or it will find `F` again and give what is `good`. -/
def Serves (E : Setting Op Resp ε σ) (F : σ → Prop) (good : κ → β → Prop) (s : σ) :
    Option (κ × Program Op Resp ε β) → Prop
  | none => F s
  | some (x, r) => r.Wp E (fun b t => good x b ∧ F t) s

section Serves

variable {E : Setting Op Resp ε σ} {F : σ → Prop} {good : κ → β → Prop} {s s' : σ}
  {right : Option (κ × Program Op Resp ε β)}

theorem Serves.later (hF : KeptBy E.rely F) (h : Serves E F good s right) (hs : E.rely s s') :
    Serves E F good s' right := by
  cases right with
  | none => exact hF s s' h hs
  | some xr => exact Wp.later h hs

/-- One operation of the handler. -/
theorem Serves.advance {x : κ} {r r' : Program Op Resp ε β} (h : Serves E F good s (some (x, r)))
    (hadv : Lib.advance E.device s r = some (r', s')) : Serves E F good s' (some (x, r')) := by
  cases r with
  | ret b => exact absurd hadv (by simp [Lib.advance])
  | stop e => exact absurd hadv (by simp [Lib.advance])
  | op o k =>
      obtain ⟨rfl, rfl⟩ := Prod.mk.inj (Option.some.inj hadv)
      exact (h s Relation.ReflTransGen.refl).2

/-- A handler that has returned, with what it gave. -/
theorem Serves.done {x : κ} {b : β} (h : Serves E F good s (some (x, .ret b))) :
    good x b ∧ F s := h s Relation.ReflTransGen.refl

end Serves

/-- The device is where the handler may go on, or where it has ended. -/
theorem Serves.inside {E : Setting Op Resp ε σ} {F : σ → Prop} {good : κ → β → Prop} {s : σ}
    {right : Option (κ × Program Op Resp ε β)} (h : Serves E F good s right)
    (hF : ∀ s, F s → E.inside s) (hstops : ∀ e, ¬ E.stops e) : E.inside s := by
  cases right with
  | none => exact hF s h
  | some xr =>
      obtain ⟨x, r⟩ := xr
      cases r with
      | ret b => exact hF s h.done.2
      | stop e => exact absurd h (hstops e)
      | op o k => exact (h s Relation.ReflTransGen.refl).1

/-- The handler has not started, or it has returned what is `good`. -/
def Rests (good : κ → β → Prop) : Option (κ × Program Op Resp ε β) → Prop
  | none => True
  | some (x, r) => ∃ b, r = .ret b ∧ good x b

theorem Rests.good {good : κ → β → Prop} {x : κ} {r : Program Op Resp ε β} {b : β}
    (h : Rests good (some (x, r))) (hr : r.result? = some b) : good x b := by
  obtain ⟨b', rfl, hgood⟩ := h
  obtain rfl := Option.some.inj hr
  exact hgood

/-- A handler that is not running left `F`. -/
theorem Serves.rests {E : Setting Op Resp ε σ} {F : σ → Prop} {good : κ → β → Prop}
    {w : Pair Op Resp ε α β σ κ} (h : Serves E F good w.state w.right) (hbusy : ¬ Busy w) :
    Rests good w.right ∧ F w.state := by
  cases hr : w.right with
  | none =>
      rw [hr] at h
      exact ⟨trivial, h⟩
  | some xr =>
      obtain ⟨x, r⟩ := xr
      rw [hr] at h
      cases r with
      | ret b => exact ⟨⟨b, rfl, h.done.1⟩, h.done.2⟩
      | stop e => exact absurd ⟨x, _, hr, fun b hb => by cases hb⟩ hbusy
      | op o k => exact absurd ⟨x, _, hr, fun b hb => by cases hb⟩ hbusy

/-! ## §5. The first operations of a program. -/

/-- The program begins with operations that do to the device what `meddle` allows,
whatever else happens to it as long as it is `calm`; the first operation that is not
tame leads to `goes`. -/
def Prelude (device : σ → (o : Op) → Resp o × σ) (meddle : σ → σ → Prop) (tame : Op → Prop)
    (calm : σ → Prop) (goes : Program Op Resp ε α → σ → Prop) : Program Op Resp ε α → Prop
  | .ret _ => False
  | .stop _ => True
  | .op o k =>
      (∀ s, calm s → meddle s (device s o).2
          ∧ Prelude device meddle tame calm goes (k (device s o).1))
      ∨ (¬ tame o ∧ ∀ s, calm s → goes (k (device s o).1) (device s o).2)

section Prelude

variable {device : σ → (o : Op) → Resp o × σ} {meddle : σ → σ → Prop} {tame : Op → Prop}
  {calm : σ → Prop} {goes : Program Op Resp ε α → σ → Prop}

/-- One more operation of the prelude. -/
theorem prelude_perform {o : Op} {f : Resp o → Program Op Resp ε α}
    (h : ∀ s, calm s → meddle s (device s o).2)
    (hf : ∀ r, Prelude device meddle tame calm goes (f r)) :
    Prelude device meddle tame calm goes (Program.perform o >>= f) :=
  Or.inl (fun s hs => ⟨h s hs, hf _⟩)

/-- The operation that ends it. -/
theorem prelude_last {o : Op} {f : Resp o → Program Op Resp ε α} (ho : ¬ tame o)
    (h : ∀ s, calm s → goes (f (device s o).1) (device s o).2) :
    Prelude device meddle tame calm goes (Program.perform o >>= f) := Or.inr ⟨ho, h⟩

end Prelude

end LoRaGateway.Lib
