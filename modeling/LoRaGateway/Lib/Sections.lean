/-
  LoRaGateway.Lib.Sections
  ────────────────────────
  **PROGRAMS ON ONE DEVICE THAT GIVE WAY BETWEEN THEIR SECTIONS.**

  Some operations begin a section, which lasts until the next of them, or until the
  program ends.  A program rests when its next operation begins a section.  As long
  as nobody performs an operation while another is inside a section, a section is
  one step for the others: `guar` says what it does to the device, and `rely` what
  the others do while the program rests.

    • `sections_bind`, `sections_perform`, `sections_begin` — a rule for each way of
      building programs,
    • `Orderly` — the invariant of any number of programs: one is inside a section,
      and the others rest since it began,
    • `orderly_of_reach`, `Orderly.ends` — what each program promised holds in the end,
    • `Orderly.begin` — who has returned may begin another program.
-/
import LoRaGateway.Lib.Interleave

namespace LoRaGateway.Lib

variable {Op : Type} {Resp : Op → Type} {ε α β σ ι : Type}

/-- What the others do while a program rests, and what it does in a section. -/
structure Terms (σ : Type) where
  rely : σ → σ → Prop
  guar : σ → σ → Prop

namespace Program

/-! ## §1. Sections. -/

/-- The program is between two sections. -/
def AtRest (begins : Op → Prop) : Program Op Resp ε α → Prop
  | op o _ => begins o
  | _ => True

/-- In `s`, within a section that began in `s₀`, the program goes on without a stop,
keeps its terms in every section that it ends, and returns with `Q`, of which the
last section is not ended. -/
def Sections (device : σ → (o : Op) → Resp o × σ) (begins : Op → Prop) (T : Terms σ) :
    Program Op Resp ε α → (α → σ → σ → Prop) → σ → σ → Prop
  | ret a, Q, s₀, s => Q a s₀ s
  | stop _, _, _, _ => False
  | op o k, Q, s₀, s =>
      (begins o → T.guar s₀ s ∧ ∀ s', Relation.ReflTransGen T.rely s s' →
          (k (device s' o).1).Sections device begins T Q s' (device s' o).2)
        ∧ (¬ begins o → (k (device s o).1).Sections device begins T Q s₀ (device s o).2)

/-- The end of the last section. -/
def Ended (T : Terms σ) (Q : α → σ → Prop) (a : α) (s₀ s : σ) : Prop :=
  T.guar s₀ s ∧ ∀ s', Relation.ReflTransGen T.rely s s' → Q a s'

/-- What a program that rests will do, after anything that the others do. -/
def Waits (device : σ → (o : Op) → Resp o × σ) (begins : Op → Prop) (T : Terms σ)
    (Q : α → σ → Prop) : Program Op Resp ε α → σ → Prop
  | ret a, s => ∀ s', Relation.ReflTransGen T.rely s s' → Q a s'
  | stop _, _ => False
  | op o k, s => ∀ s', Relation.ReflTransGen T.rely s s' →
      (k (device s' o).1).Sections device begins T (Ended T Q) s' (device s' o).2

section Sections

variable {device : σ → (o : Op) → Resp o × σ} {begins : Op → Prop} {T : Terms σ}
  {s₀ s s' : σ}

theorem sections_ret {a : α} {Q : α → σ → σ → Prop} (h : Q a s₀ s) :
    (ret a : Program Op Resp ε α).Sections device begins T Q s₀ s := h

theorem sections_bind {p : Program Op Resp ε α} {f : α → Program Op Resp ε β}
    {Q : β → σ → σ → Prop} : ∀ {s₀ s : σ},
      p.Sections device begins T (fun a => (f a).Sections device begins T Q) s₀ s →
        (p >>= f).Sections device begins T Q s₀ s := by
  induction p with
  | ret a => exact fun h => h
  | stop e => exact fun h => h
  | op o k ih =>
      intro s₀ s h
      refine ⟨fun hb => ?_, fun hb => ih _ (h.2 hb)⟩
      obtain ⟨hguar, hrest⟩ := h.1 hb
      exact ⟨hguar, fun s' hs => ih _ (hrest s' hs)⟩

/-- An operation within a section. -/
theorem sections_perform {o : Op} (ho : ¬ begins o) {Q : Resp o → σ → σ → Prop}
    (h : Q (device s o).1 s₀ (device s o).2) :
    (perform o : Program Op Resp ε (Resp o)).Sections device begins T Q s₀ s :=
  ⟨fun hb => absurd hb ho, fun _ => h⟩

/-- The operation that begins a section, when the one before it is ended. -/
theorem sections_begin {o : Op} (ho : begins o) {Q : Resp o → σ → σ → Prop}
    (hguar : T.guar s₀ s)
    (h : ∀ s', Relation.ReflTransGen T.rely s s' → Q (device s' o).1 s' (device s' o).2) :
    (perform o : Program Op Resp ε (Resp o)).Sections device begins T Q s₀ s :=
  ⟨fun _ => ⟨hguar, h⟩, fun hb => absurd ho hb⟩

/-- **Run alone**, the program comes to its end. -/
theorem Sections.exec {p : Program Op Resp ε α} {Q : α → σ → σ → Prop} : ∀ {s₀ s : σ},
    p.Sections device begins T Q s₀ s →
      ∃ a s₁ s', p.exec device s = some (a, s') ∧ Q a s₁ s' := by
  induction p with
  | ret a => exact fun {s₀ s} h => ⟨a, s₀, s, rfl, h⟩
  | stop e => exact fun h => False.elim h
  | op o k ih =>
      intro s₀ s h
      by_cases hb : begins o
      · exact ih _ ((h.1 hb).2 s Relation.ReflTransGen.refl)
      · exact ih _ (h.2 hb)

/-- At rest the section is ended. -/
theorem sections_atRest_iff {p : Program Op Resp ε α} {Q : α → σ → Prop}
    (hp : p.AtRest begins) :
    p.Sections device begins T (Ended T Q) s₀ s ↔ T.guar s₀ s ∧ p.Waits device begins T Q s := by
  cases p with
  | ret a => exact Iff.rfl
  | stop e => exact ⟨fun h => False.elim h, fun h => h.2⟩
  | op o k => exact ⟨fun h => h.1 hp, fun h => ⟨fun _ => h, fun hn => absurd hp hn⟩⟩

/-- A program that waits comes to its end, when it is run alone. -/
theorem Waits.exec {p : Program Op Resp ε α} {Q : α → σ → Prop}
    (h : p.Waits device begins T Q s) : ∃ a s', p.exec device s = some (a, s') := by
  cases p with
  | ret a => exact ⟨a, s, rfl⟩
  | stop e => exact False.elim h
  | op o k =>
      obtain ⟨a, -, s', he, -⟩ := (h s Relation.ReflTransGen.refl).exec
      exact ⟨a, s', he⟩

/-- What the others do was reckoned with. -/
theorem Waits.later {p : Program Op Resp ε α} {Q : α → σ → Prop}
    (h : p.Waits device begins T Q s) (hs : T.rely s s') : p.Waits device begins T Q s' := by
  cases p with
  | ret a => exact fun t ht => h t (Relation.ReflTransGen.head hs ht)
  | stop e => exact h
  | op o k => exact fun t ht => h t (Relation.ReflTransGen.head hs ht)

end Sections

end Program

open Program (AtRest Sections Ended Waits sections_atRest_iff)

/-! ## §2. Any number of programs. -/

/-- A program for each party, and the device. -/
structure Crew (ι : Type) (Op : Type) (Resp : Op → Type) (ε α σ : Type) where
  program : ι → Program Op Resp ε α
  state : σ

variable [DecidableEq ι]

/-- Party `i` has come to `p`, and the device to `s`. -/
def Crew.move (w : Crew ι Op Resp ε α σ) (i : ι) (p : Program Op Resp ε α) (s : σ) :
    Crew ι Op Resp ε α σ := ⟨Function.update w.program i p, s⟩

/-- One operation of one party. -/
def Crew.step (device : σ → (o : Op) → Resp o × σ) (w : Crew ι Op Resp ε α σ) (i : ι) :
    Option (Crew ι Op Resp ε α σ) :=
  (advance device w.state (w.program i)).map (fun out => w.move i out.1 out.2)

/-- The others are between two sections. -/
def Yields (begins : Op → Prop) (w : Crew ι Op Resp ε α σ) (i : ι) : Prop :=
  ∀ j, j ≠ i → (w.program j).AtRest begins

/-- Everybody has returned. -/
def Crew.Done (w : Crew ι Op Resp ε α σ) : Prop := ∀ i, ∃ a, w.program i = .ret a

section Crew

variable {device : σ → (o : Op) → Resp o × σ} {begins : Op → Prop} {T : ι → Terms σ}
  {Q : ι → α → σ → Prop} {w w' : Crew ι Op Resp ε α σ} {i : ι}

@[simp] theorem Crew.move_self (w : Crew ι Op Resp ε α σ) (p : Program Op Resp ε α) (s : σ) :
    (w.move i p s).program i = p := by
  unfold Crew.move
  exact Function.update_self _ _ _

theorem Crew.move_other (w : Crew ι Op Resp ε α σ) (p : Program Op Resp ε α) (s : σ) {j : ι}
    (hj : j ≠ i) : (w.move i p s).program j = w.program j := by
  unfold Crew.move
  exact Function.update_of_ne hj _ _

theorem Crew.step_spec (h : w.step device i = some w') :
    ∃ o k, w.program i = .op o k
      ∧ w' = w.move i (k (device w.state o).1) (device w.state o).2 := by
  obtain ⟨out, hout, rfl⟩ := Option.map_eq_some_iff.mp h
  cases hp : w.program i with
  | ret a => exact absurd hout (by simp [hp, advance])
  | stop e => exact absurd hout (by simp [hp, advance])
  | op o k =>
      rw [hp] at hout
      obtain rfl := Option.some.inj hout
      exact ⟨o, k, rfl, rfl⟩

theorem Crew.move_move (w : Crew ι Op Resp ε α σ) (p p' : Program Op Resp ε α) (s s' : σ) :
    (w.move i p s).move i p' s' = w.move i p' s' := by
  unfold Crew.move
  rw [Function.update_idem]

/-- **One party at work**: it comes through the first part of its program. -/
theorem Crew.reach_of_exec {ok : Crew ι Op Resp ε α σ → ι → Prop} {p : Program Op Resp ε β}
    {f : β → Program Op Resp ε α} {b : β} {s' : σ} :
    ∀ {w : Crew ι Op Resp ε α σ}, (∀ q s, ok (w.move i q s) i) → w.program i = p >>= f →
      p.exec device w.state = some (b, s') →
        Reach (Crew.step device) ok w (w.move i (f b) s') := by
  induction p with
  | ret b' =>
      intro w _ hw he
      obtain ⟨rfl, rfl⟩ := Prod.mk.inj (Option.some.inj he)
      have hsame : w.move i (f b') w.state = w := by
        have hf : f b' = w.program i := hw.symm
        unfold Crew.move
        rw [hf, Function.update_eq_self]
      rw [hsame]
      exact Reach.refl w
  | stop e =>
      intro w _ _ he
      cases he
  | op o k ih =>
      intro w hok hw he
      have hstart : w.move i (w.program i) w.state = w := by
        unfold Crew.move
        rw [Function.update_eq_self]
      have hok' : ok w i := hstart ▸ hok (w.program i) w.state
      have hstep : w.step device i
          = some (w.move i (k (device w.state o).1 >>= f) (device w.state o).2) := by
        rw [Crew.step, hw]
        rfl
      have hrest := ih (device w.state o).1
        (w := w.move i (k (device w.state o).1 >>= f) (device w.state o).2)
        (fun q s => by rw [Crew.move_move]; exact hok q s) (Crew.move_self _ _ _) he
      rw [Crew.move_move] at hrest
      exact Reach.trans (Reach.tail (Reach.refl w) hok' hstep) hrest

/-- It comes to its end. -/
theorem Crew.reach_of_return {ok : Crew ι Op Resp ε α σ → ι → Prop} {p : Program Op Resp ε α}
    {a : α} {s' : σ} (hok : ∀ q s, ok (w.move i q s) i) (hw : w.program i = p)
    (he : p.exec device w.state = some (a, s')) :
    Reach (Crew.step device) ok w (w.move i (.ret a) s') :=
  Crew.reach_of_exec (f := .ret) hok (hw.trans (Program.bind_ret p).symm) he

/-- Party `r` is in a section that began in `s₀`, since when the others rest. -/
def OrderlyBy (device : σ → (o : Op) → Resp o × σ) (begins : Op → Prop) (T : ι → Terms σ)
    (Q : ι → α → σ → Prop) (w : Crew ι Op Resp ε α σ) (r : ι) (s₀ : σ) : Prop :=
  (w.program r).Sections device begins (T r) (Ended (T r) (Q r)) s₀ w.state
    ∧ ∀ j, j ≠ r →
      (w.program j).AtRest begins ∧ (w.program j).Waits device begins (T j) (Q j) s₀

/-- **One party is inside a section, at most, and all will keep what they promise.** -/
def Orderly (device : σ → (o : Op) → Resp o × σ) (begins : Op → Prop) (T : ι → Terms σ)
    (Q : ι → α → σ → Prop) (w : Crew ι Op Resp ε α σ) : Prop :=
  ∃ r s₀, OrderlyBy device begins T Q w r s₀

/-- What a party does in a section is what the others reckon with. -/
def Compatible (T : ι → Terms σ) : Prop :=
  ∀ i j, i ≠ j → ∀ s s', (T i).guar s s' → (T j).rely s s'

/-- When the party at work rests as well, everybody waits in the state as it is. -/
theorem OrderlyBy.all_wait (hT : Compatible T) {r : ι} {s₀ : σ}
    (h : OrderlyBy device begins T Q w r s₀) (hr : (w.program r).AtRest begins) (j : ι) :
    (w.program j).AtRest begins ∧ (w.program j).Waits device begins (T j) (Q j) w.state := by
  obtain ⟨hguar, hwaits⟩ := (sections_atRest_iff hr).mp h.1
  by_cases hj : j = r
  · subst hj
    exact ⟨hr, hwaits⟩
  · obtain ⟨hrest, hj'⟩ := h.2 j hj
    exact ⟨hrest, hj'.later (hT r j (Ne.symm hj) _ _ hguar)⟩

/-- A party begins a section in a state in which everybody waits. -/
theorem orderly_of_begin {o : Op} {k : Resp o → Program Op Resp ε α}
    (h : ∀ j, (w.program j).AtRest begins
      ∧ (w.program j).Waits device begins (T j) (Q j) w.state)
    (hi : w.program i = .op o k) :
    OrderlyBy device begins T Q (w.move i (k (device w.state o).1) (device w.state o).2) i
      w.state := by
  constructor
  · have hwaits := (h i).2
    rw [hi] at hwaits
    rw [Crew.move_self]
    exact hwaits _ Relation.ReflTransGen.refl
  · intro j hj
    rw [Crew.move_other _ _ _ hj]
    exact h j

/-- **One operation.** -/
theorem Orderly.step (hT : Compatible T) (h : Orderly device begins T Q w)
    (hy : Yields begins w i) (hs : w.step device i = some w') :
    Orderly device begins T Q w' := by
  obtain ⟨o, k, hi, rfl⟩ := Crew.step_spec hs
  obtain ⟨r, s₀, hby⟩ := h
  by_cases hrest : (w.program r).AtRest begins
  · exact ⟨i, w.state, orderly_of_begin (hby.all_wait hT hrest) hi⟩
  · -- only the party inside its section can go on
    have hri : r = i := by
      by_contra hne
      exact hrest (hy r hne)
    subst hri
    obtain ⟨hsec, hothers⟩ := hby
    rw [hi] at hrest hsec
    refine ⟨r, s₀, ?_, fun j hj => ?_⟩
    · rw [Crew.move_self]
      exact hsec.2 hrest
    · rw [Crew.move_other _ _ _ hj]
      exact hothers j hj

/-- **Every run in which nobody steps into another's section.** -/
theorem orderly_of_reach (hT : Compatible T) (h : Orderly device begins T Q w)
    (hreach : Reach (Crew.step device) (Yields begins) w w') : Orderly device begins T Q w' :=
  hreach.invariant (P := Orderly device begins T Q) h (fun _ _ _ hinv hy hs => hinv.step hT hy hs)

omit [DecidableEq ι] in
/-- The start, where everybody rests. -/
theorem orderly_start (i : ι) (h : ∀ j, (w.program j).AtRest begins
      ∧ (w.program j).Sections device begins (T j) (Ended (T j) (Q j)) w.state w.state) :
    Orderly device begins T Q w :=
  ⟨i, w.state, (h i).2, fun j _ => ⟨(h j).1, ((sections_atRest_iff (h j).1).mp (h j).2).2⟩⟩

/-- Where everybody rests, who has returned has kept the promise. -/
theorem Orderly.kept (hT : Compatible T) (h : Orderly device begins T Q w)
    (hrest : ∀ j, (w.program j).AtRest begins) {a : α} (hi : w.program i = .ret a) :
    Q i a w.state := by
  obtain ⟨r, s₀, hby⟩ := h
  have hwaits := (hby.all_wait hT (hrest r) i).2
  rw [hi] at hwaits
  exact hwaits _ Relation.ReflTransGen.refl

/-- **The end**: everybody has kept the promise. -/
theorem Orderly.ends (hT : Compatible T) (h : Orderly device begins T Q w) (hdone : w.Done)
    {a : α} (hi : w.program i = .ret a) : Q i a w.state := by
  refine h.kept hT (fun j => ?_) hi
  obtain ⟨b, hb⟩ := hdone j
  rw [hb]
  trivial

/-- **Another program.**  Who has returned begins one, wherever the others are, when the
promise that was kept is enough for it; `Q'` has what it promises in turn. -/
theorem Orderly.begin (hT : Compatible T) (h : Orderly device begins T Q w) {a : α}
    (hi : w.program i = .ret a) {p : Program Op Resp ε α} {Q' : ι → α → σ → Prop}
    (hp : p.AtRest begins)
    (hsec : ∀ s, Q i a s → p.Sections device begins (T i) (Ended (T i) (Q' i)) s s)
    (hothers : ∀ j, j ≠ i → Q' j = Q j) :
    Orderly device begins T Q' (w.move i p w.state) := by
  obtain ⟨r, s₀, hby⟩ := h
  by_cases hrest : (w.program r).AtRest begins
  · -- everybody waits, in the state as it is
    have hall := hby.all_wait hT hrest
    have hwaits := (hall i).2
    rw [hi] at hwaits
    refine ⟨i, w.state, ?_, fun j hj => ?_⟩
    · rw [Crew.move_self]
      exact hsec _ (hwaits _ Relation.ReflTransGen.refl)
    · rw [Crew.move_other _ _ _ hj, hothers j hj]
      exact hall j
  · -- another one is inside its section, and this one waits since it began
    have hne : i ≠ r := by
      rintro rfl
      rw [hi] at hrest
      exact hrest trivial
    refine ⟨r, s₀, ?_, fun j hj => ?_⟩
    · rw [Crew.move_other _ _ _ (Ne.symm hne), hothers r (Ne.symm hne)]
      exact hby.1
    · by_cases hji : j = i
      · subst hji
        have hwaits := (hby.2 j hj).2
        rw [hi] at hwaits
        rw [Crew.move_self]
        exact ⟨hp, ((sections_atRest_iff hp).mp
          (hsec s₀ (hwaits _ Relation.ReflTransGen.refl))).2⟩
      · rw [Crew.move_other _ _ _ hji, hothers j hji]
        exact hby.2 j hj

/-- The party inside its section comes to its end, when the others let it. -/
theorem OrderlyBy.finish {r : ι} {s₀ : σ} (h : OrderlyBy device begins T Q w r s₀) :
    ∃ a s', Reach (Crew.step device) (Yields begins) w (w.move r (.ret a) s') := by
  obtain ⟨a, -, s', he, -⟩ := h.1.exec
  refine ⟨a, s', Crew.reach_of_return (fun q s j hj => ?_) rfl he⟩
  rw [Crew.move_other _ _ _ hj]
  exact (h.2 j hj).1

/-- Where everybody rests, each of them can come to its end. -/
theorem Orderly.finish (hT : Compatible T) (h : Orderly device begins T Q w)
    (hrest : ∀ j, (w.program j).AtRest begins) (i : ι) :
    ∃ a s', Reach (Crew.step device) (Yields begins) w (w.move i (.ret a) s') := by
  obtain ⟨r, s₀, hby⟩ := h
  obtain ⟨a, s', he⟩ := (hby.all_wait hT (hrest r) i).2.exec
  refine ⟨a, s', Crew.reach_of_return (fun q s j hj => ?_) rfl he⟩
  rw [Crew.move_other _ _ _ hj]
  exact hrest j

/-- Somebody can go on, until everybody has returned. -/
theorem Orderly.progress (hT : Compatible T) (h : Orderly device begins T Q w)
    (hdone : ¬ w.Done) : ∃ i w', Yields begins w i ∧ w.step device i = some w' := by
  obtain ⟨r, s₀, hby⟩ := h
  by_cases hrest : (w.program r).AtRest begins
  · -- everybody rests, and somebody has not returned
    obtain ⟨i, hi⟩ := not_forall.mp hdone
    have hall := hby.all_wait hT hrest
    cases hp : w.program i with
    | ret a => exact absurd ⟨a, hp⟩ hi
    | stop e =>
        have hwaits := (hall i).2
        rw [hp] at hwaits
        exact False.elim hwaits
    | op o k => exact ⟨i, _, fun j _ => (hall j).1, by rw [Crew.step, hp]; rfl⟩
  · cases hp : w.program r with
    | ret a => exact absurd (by rw [hp]; trivial) hrest
    | stop e => exact absurd (by rw [hp]; trivial) hrest
    | op o k => exact ⟨r, _, fun j hj => (hby.2 j hj).1, by rw [Crew.step, hp]; rfl⟩

end Crew

end LoRaGateway.Lib
