/-
  LoRaGateway.Display.Write
  ─────────────────────────
  **WRITES TO THE DISPLAY'S DEVICE FILE**: `oled_write` of `Driver/ssd1306.c`.

  The bytes are copied to the start of `oled->buffer`, of which only the first
  sixteen bytes are cleared before, and what is sent to the display goes on to the
  next NUL, wherever that is.  The caller's memory is taken to be readable.

    • `oledText_eq` — the text that a call sends,
    • `writeExact_iff` — when one call sends what it was given,
    • `writes_exact_iff` — when each call of a sequence does.
-/
import LoRaGateway.Display.Cursor

namespace LoRaGateway

open LoRaGateway.Lib
open LoRaGateway.Lib.Program (exec exec_bind)

/-! ## §1. `oled_write`. -/

/-- The buffer after `memset` and `copy_from_user`, and the text in it; nothing when
the copy leaves the buffer, or no NUL ends the text. -/
def oledText (buffer : FrameBuffer) (ubuff : List UInt8) : Option (FrameBuffer × List UInt8) :=
  (buffer.store 0 (List.replicate 16 0)).bind fun buffer =>
    (buffer.store 0 ubuff).bind fun buffer =>
      (strlen buffer.bytes).map fun n => (buffer, buffer.bytes.take n)

/-- `oled_write`; nothing either when a character is outside the font. -/
def Ssd1306.oledWrite (d : Ssd1306) (ubuff : List UInt8) : Option Ssd1306 :=
  (oledText d.buffer ubuff).bind fun t =>
    ((ssd1306SendString t.2 .white).exec LoRaGateway.screen d.screen).map fun r => ⟨r.2, t.1⟩

/-- The copy stays in the buffer and the glyphs in the font; and if the bytes are
printable, their glyphs are what is sent. -/
def WriteExact (d : Ssd1306) (ubuff : List UInt8) : Prop :=
  ∃ buffer text s, oledText d.buffer ubuff = some (buffer, text)
    ∧ (ssd1306SendString text .white).exec screen d.screen = some ((), s)
    ∧ ((∀ b ∈ ubuff, Printable b) →
        (glyphWrites (ssd1306SendString text .white) d.screen).map (·.2)
          = ubuff.map (charColumns .white))

/-! ## §2. One call. -/

section Call

variable {buffer : FrameBuffer} {ubuff : List UInt8} {d d' : Ssd1306}

/-- The buffer behind the bytes: zeros up to the sixteenth byte, then what was there. -/
def behind (buffer : FrameBuffer) (n : Nat) : List UInt8 :=
  List.replicate (16 - n) 0 ++ buffer.bytes.drop (max 16 n)

/-- A copy that leaves the buffer. -/
theorem oledText_eq_none (h : 1024 < ubuff.length) : oledText buffer ubuff = none := by
  unfold oledText
  obtain ⟨buffer₁, h₁⟩ := Buffer.exists_store buffer 0 (List.replicate 16 0)
    (by rw [List.length_replicate]; omega)
  rw [h₁]
  show (buffer₁.store 0 ubuff).bind _ = none
  rw [Buffer.store_eq_none (by omega)]
  rfl

/-- **The bytes, and what is behind them.** -/
theorem store_eq (buffer : FrameBuffer) (h : ubuff.length ≤ 1024) : ∃ buffer₁ buffer₂ : FrameBuffer,
    buffer.store 0 (List.replicate 16 0) = some buffer₁ ∧ buffer₁.store 0 ubuff = some buffer₂
      ∧ buffer₂.bytes = ubuff ++ behind buffer ubuff.length := by
  obtain ⟨buffer₁, h₁⟩ := Buffer.exists_store buffer 0 (List.replicate 16 0)
    (by rw [List.length_replicate]; omega)
  obtain ⟨buffer₂, h₂⟩ := Buffer.exists_store buffer₁ 0 ubuff (by omega)
  refine ⟨buffer₁, buffer₂, h₁, h₂, ?_⟩
  have hbytes₁ := Buffer.bytes_store h₁
  rw [List.take_zero, List.nil_append, List.length_replicate, Nat.zero_add] at hbytes₁
  rw [Buffer.bytes_store h₂, List.take_zero, List.nil_append, Nat.zero_add, hbytes₁,
    List.drop_append, List.drop_replicate, List.length_replicate, List.drop_drop]
  unfold behind
  congr 3
  omega

/-- **The text of a call** goes on to the next NUL. -/
theorem oledText_eq (buffer : FrameBuffer) (h : ubuff.length ≤ 1024) : ∃ buffer' : FrameBuffer,
    buffer'.bytes = ubuff ++ behind buffer ubuff.length
      ∧ oledText buffer ubuff
          = if (0 : UInt8) ∈ buffer'.bytes then some (buffer', cstr buffer'.bytes) else none := by
  obtain ⟨buffer₁, buffer', h₁, h₂, hbytes⟩ := store_eq buffer h
  refine ⟨buffer', hbytes, ?_⟩
  unfold oledText
  rw [h₁, Option.bind_some, h₂, Option.bind_some]
  by_cases hz : (0 : UInt8) ∈ buffer'.bytes
  · rw [if_pos hz, strlen_of_mem hz, Option.map_some,
      ← List.prefix_iff_eq_take.mp (cstr_isPrefixOf buffer'.bytes)]
  · rw [if_neg hz, strlen_of_not_mem hz, Option.map_none]

/-- Behind the bytes there is a NUL at once. -/
theorem behind_eq_cons_iff (h : ubuff.length ≤ 1024) :
    (∃ rest, behind buffer ubuff.length = 0 :: rest) ↔
      ubuff.length < 16 ∨ ubuff.length < 1024 ∧ buffer.bytes.getD ubuff.length 0 = 0 := by
  have hsize := buffer.size
  unfold behind
  by_cases hshort : ubuff.length < 16
  · refine iff_of_true ?_ (Or.inl hshort)
    rw [show 16 - ubuff.length = 15 - ubuff.length + 1 by omega, List.replicate_succ]
    exact ⟨_, rfl⟩
  · rw [show 16 - ubuff.length = 0 by omega, List.replicate_zero, List.nil_append,
      Nat.max_eq_right (by omega)]
    by_cases hend : ubuff.length < 1024
    · have hlt : ubuff.length < buffer.bytes.length := by omega
      rw [List.drop_eq_getElem_cons hlt, List.getD_eq_getElem?_getD,
        List.getElem?_eq_getElem hlt, Option.getD_some]
      constructor
      · intro hcons
        obtain ⟨rest, hrest⟩ := hcons
        exact Or.inr ⟨hend, (List.cons.inj hrest).1⟩
      · intro hcell
        exact ⟨_, congrArg (· :: _) (hcell.resolve_left hshort).2⟩
    · rw [List.drop_eq_nil_of_le (by omega)]
      exact iff_of_false (fun ⟨_, hnil⟩ => by cases hnil) (by omega)

/-- The bytes fit in the buffer, they are printable up to their first NUL, and if they
have none, there is one behind them: they are fewer than sixteen, or `old` has one. -/
structure Separate (old : Nat → UInt8) (ubuff : List UInt8) : Prop where
  size : ubuff.length ≤ 1024
  printable : ∀ b ∈ cstr ubuff, Printable b
  ended : (0 : UInt8) ∈ ubuff ∨ ubuff.length < 16
    ∨ ubuff.length < 1024 ∧ old ubuff.length = 0

/-- What the buffer has in a cell. -/
def FrameBuffer.content (buffer : FrameBuffer) (n : Nat) : UInt8 := buffer.bytes.getD n 0

/-- A text with a character outside the font is not sent. -/
theorem printable_of_exec {text : List UInt8} {s s' : Screen} (hs : s.Idle)
    (h : (ssd1306SendString text .white).exec screen s = some ((), s')) :
    ∀ b ∈ text, Printable b := by
  by_contra hp
  rw [exec_sendString_eq_none hs hp] at h
  cases h

/-- **When a call sends what it was given.** -/
theorem writeExact_iff (hs : d.screen.Idle) :
    WriteExact d ubuff ↔ Separate d.buffer.content ubuff := by
  constructor
  · intro hexact
    obtain ⟨buffer, text, s, htext, hexec, hglyphs⟩ := hexact
    have hsize : ubuff.length ≤ 1024 := by
      by_contra hlong
      rw [oledText_eq_none (by omega)] at htext
      cases htext
    obtain ⟨buffer', hbytes, heq⟩ := oledText_eq d.buffer hsize
    have hprintable := printable_of_exec hs hexec
    rw [heq] at htext
    by_cases hended : (0 : UInt8) ∈ buffer'.bytes
    · rw [if_pos hended] at htext
      obtain ⟨-, rfl⟩ := Prod.mk.inj (Option.some.inj htext)
      rw [hbytes] at hended hprintable hglyphs
      by_cases hz : (0 : UInt8) ∈ ubuff
      · rw [cstr_append_zero hz] at hprintable
        exact ⟨hsize, hprintable, Or.inl hz⟩
      · rw [cstr_append hz] at hprintable hglyphs
        have hown : ∀ b ∈ ubuff, Printable b := fun b hb =>
          hprintable b (List.mem_append_left _ hb)
        refine ⟨hsize, ?_, Or.inr ((behind_eq_cons_iff hsize).mp ?_)⟩
        · rw [cstr_eq_self hz]
          exact hown
        · -- as many glyphs as bytes: nothing comes after them
          have hlen := congrArg List.length (hglyphs hown)
          rw [columns_glyphWrites hs hprintable, List.length_map, List.length_map,
            List.length_append] at hlen
          have hnone : cstr (behind d.buffer ubuff.length) = [] :=
            List.eq_nil_of_length_eq_zero (by omega)
          cases hbehind : behind d.buffer ubuff.length with
          | nil =>
              rw [hbehind, List.append_nil] at hended
              exact absurd hended hz
          | cons b rest =>
              rw [hbehind, cstr_cons] at hnone
              by_cases hb : b = 0
              · exact ⟨rest, by rw [hb]⟩
              · rw [if_neg hb] at hnone
                cases hnone
    · rw [if_neg hended] at htext
      cases htext
  · intro hsep
    obtain ⟨buffer', hbytes, heq⟩ := oledText_eq d.buffer hsep.size
    by_cases hz : (0 : UInt8) ∈ ubuff
    · have hended : (0 : UInt8) ∈ buffer'.bytes := by
        rw [hbytes]
        exact List.mem_append_left _ hz
      have htext : cstr buffer'.bytes = cstr ubuff := by
        rw [hbytes, cstr_append_zero hz]
      refine ⟨buffer', cstr ubuff, _, ?_, exec_sendString .white hs hsep.printable, fun hall => ?_⟩
      · rw [heq, if_pos hended, htext]
      · exact absurd (hall 0 hz) (by decide)
    · obtain ⟨rest, hrest⟩ := (behind_eq_cons_iff hsep.size).mpr (hsep.ended.resolve_left hz)
      have hended : (0 : UInt8) ∈ buffer'.bytes := by
        rw [hbytes, hrest]
        exact List.mem_append_right _ List.mem_cons_self
      have htext : cstr buffer'.bytes = ubuff := by
        rw [hbytes, hrest, cstr_append hz]
        exact List.append_nil _
      have hprintable := hsep.printable
      rw [cstr_eq_self hz] at hprintable
      refine ⟨buffer', ubuff, _, ?_, exec_sendString .white hs hprintable, fun _ => ?_⟩
      · rw [heq, if_pos hended, htext]
      · exact columns_glyphWrites hs hprintable

end Call

/-! ## §3. Sequences of calls. -/

/-- What a call leaves in a cell behind the sixteenth, where there was `old`. -/
def overwritten (old : Nat → UInt8) (ubuff : List UInt8) : Nat → UInt8 :=
  fun n => if n < ubuff.length then ubuff.getD n 0 else old n

/-- What the calls leave, one after the other. -/
def leftBy (old : Nat → UInt8) (calls : List (List UInt8)) : Nat → UInt8 :=
  calls.foldl overwritten old

/-- The same beyond the part of the buffer that each call clears. -/
def SameBehind (f g : Nat → UInt8) : Prop := ∀ n, 16 ≤ n → n < 1024 → f n = g n

section Calls

variable {f g : Nat → UInt8} {ubuff : List UInt8} {d : Ssd1306}

theorem SameBehind.overwritten (h : SameBehind f g) (ubuff : List UInt8) :
    SameBehind (overwritten f ubuff) (overwritten g ubuff) := by
  intro n hlo hhi
  unfold LoRaGateway.overwritten
  rw [h n hlo hhi]

theorem SameBehind.leftBy (h : SameBehind f g) (calls : List (List UInt8)) :
    SameBehind (leftBy f calls) (leftBy g calls) := by
  induction calls generalizing f g with
  | nil => exact h
  | cons c cs ih => exact ih (h.overwritten c)

theorem Separate.congr (hsep : Separate f ubuff) (h : SameBehind f g) : Separate g ubuff := by
  refine ⟨hsep.size, hsep.printable, ?_⟩
  rcases hsep.ended with hz | hshort | ⟨hend, hcell⟩
  · exact Or.inl hz
  · exact Or.inr (Or.inl hshort)
  · by_cases hshort : ubuff.length < 16
    · exact Or.inr (Or.inl hshort)
    · rw [h ubuff.length (by omega) hend] at hcell
      exact Or.inr (Or.inr ⟨hend, hcell⟩)

/-- **A call that is exact** leaves its bytes in the buffer. -/
theorem exists_oledWrite (hs : d.screen.Idle) (h : WriteExact d ubuff) :
    ∃ d', d.oledWrite ubuff = some d' ∧ d'.screen.Idle
      ∧ SameBehind d'.buffer.content (overwritten d.buffer.content ubuff) := by
  have hsize := ((writeExact_iff hs).mp h).size
  obtain ⟨buffer, text, s, htext, hexec, -⟩ := h
  have hprintable := printable_of_exec hs hexec
  obtain ⟨buffer', hbytes, heq⟩ := oledText_eq d.buffer hsize
  have hsame : buffer = buffer' := by
    rw [heq] at htext
    split at htext
    · exact (Prod.mk.inj (Option.some.inj htext)).1.symm
    · cases htext
  refine ⟨⟨d.screen.sentString text .white, buffer⟩, ?_, hs.sentString, fun n hlo hhi => ?_⟩
  · unfold Ssd1306.oledWrite
    rw [htext, Option.bind_some, exec_sendString .white hs hprintable, Option.map_some]
  · show buffer.bytes.getD n 0 = _
    unfold overwritten FrameBuffer.content
    rw [hsame, hbytes]
    by_cases hn : n < ubuff.length
    · rw [if_pos hn, List.getD_append _ _ _ _ hn]
    · rw [if_neg hn, List.getD_append_right _ _ _ _ (by omega)]
      unfold behind
      rw [List.getD_append_right _ _ _ _ (by rw [List.length_replicate]; omega),
        List.length_replicate, List.getD_eq_getElem?_getD, List.getElem?_drop,
        List.getD_eq_getElem?_getD]
      congr 2
      omega

/-- **Each call of a sequence sends what it was given**, exactly when each of them is
separate from what those before it leave. -/
theorem writes_exact_iff_separate (calls : List (List UInt8)) : ∀ {d : Ssd1306},
    d.screen.Idle →
      (Along Ssd1306.oledWrite WriteExact d calls ↔
        ∀ before ubuff after, calls = before ++ ubuff :: after →
          Separate (leftBy d.buffer.content before) ubuff) := by
  induction calls with
  | nil =>
      intro d _
      refine iff_of_true trivial (fun before ubuff after heq => ?_)
      exact absurd heq.symm (by simp)
  | cons c cs ih =>
      intro d hs
      constructor
      · intro h before ubuff after heq
        cases before with
        | nil =>
            obtain ⟨rfl, -⟩ := List.cons.inj heq
            exact (writeExact_iff hs).mp h.1
        | cons b before =>
            obtain ⟨rfl, hrest⟩ := List.cons.inj heq
            obtain ⟨d', hstep, hs', hsame⟩ := exists_oledWrite hs h.1
            exact ((ih hs').mp (h.2 d' hstep) before ubuff after hrest).congr (hsame.leftBy before)
      · intro h
        have hfirst := (writeExact_iff hs).mpr (h [] c cs rfl)
        obtain ⟨d', hstep, hs', hsame⟩ := exists_oledWrite hs hfirst
        refine ⟨hfirst, fun d'' hstep' => ?_⟩
        obtain rfl : d' = d'' := Option.some.inj (hstep.symm.trans hstep')
        apply (ih hs').mpr
        intro before ubuff after hrest
        have hback : SameBehind (overwritten d.buffer.content c) d'.buffer.content :=
          fun n hlo hhi => (hsame n hlo hhi).symm
        exact (h (c :: before) ubuff after (congrArg (c :: ·) hrest)).congr (hback.leftBy before)

end Calls

/-! ## §4. After `oled_probe`. -/

theorem buffer_perform {d d' : Ssd1306} {p : Oled Unit} (h : d.perform p = some d') :
    d'.buffer = d.buffer := by
  obtain ⟨r, -, rfl⟩ := Option.map_eq_some_iff.mp h
  rfl

/-- Whatever is called, the frame buffer is zero again. -/
theorem buffer_of_called {ram : Ram} {d : Ssd1306} (h : Called ram d) :
    d.buffer = Buffer.zero 1024 := by
  obtain ⟨d₀, h₀, hreach⟩ := h
  have hstart : d₀.buffer = Buffer.zero 1024 := by
    rw [oledProbe_eq] at h₀
    rw [← Option.some.inj h₀]
  refine hreach.invariant (P := fun d => d.buffer = Buffer.zero 1024) hstart ?_
  intro d c d' hd _ hstep
  cases c with
  | gotoXy x y => exact (buffer_perform hstep).trans hd
  | clearRow row => exact (buffer_perform hstep).trans hd
  | clear => exact (buffer_perform hstep).trans hd
  | sendString text color => exact (buffer_perform hstep).trans hd
  | drawBitmap bitmap x y color =>
      -- `ssd1306_sync` clears it
      obtain ⟨buffer, -, hsync⟩ := Option.bind_eq_some_iff.mp hstep
      rw [← Option.some.inj hsync]

theorem content_zero : FrameBuffer.content (Buffer.zero 1024) = fun _ => 0 := by
  funext n
  show (List.replicate 1024 (0 : UInt8)).getD n 0 = 0
  rw [List.getD_eq_getElem?_getD, List.getElem?_replicate]
  split <;> rfl

/-- **When the display shows what is written**: no call is longer than the buffer, or has
a character outside the font before its first NUL; and a call without a NUL is shorter
than sixteen bytes, or it is shorter than the buffer and the calls before it have left a
zero where it ends. -/
theorem writes_exact_iff (ram : Ram) {d : Ssd1306} (h : Called ram d)
    (calls : List (List UInt8)) :
    Along Ssd1306.oledWrite WriteExact d calls ↔
      ∀ before ubuff after, calls = before ++ ubuff :: after →
        Separate (leftBy (fun _ => 0) before) ubuff := by
  have hiff := writes_exact_iff_separate calls (sound_of_called h).idle
  rwa [buffer_of_called h, content_zero] at hiff

/-- One text, right after `oled_probe`. -/
theorem writes_exact_once :
    Along Ssd1306.oledWrite WriteExact
      ⟨((powerOn fun _ _ => 0).zeroed 1024).placed 0 0, Buffer.zero 1024⟩
      [ascii "a text of twenty one."] := by
  refine (writes_exact_iff (fun _ _ => 0) ⟨_, oledProbe_eq _, Reach.refl _⟩ _).mpr ?_
  intro before ubuff after heq
  cases before with
  | nil =>
      obtain ⟨rfl, -⟩ := List.cons.inj heq
      exact ⟨by decide, printable_of_all (by decide), Or.inr (Or.inr ⟨by decide, rfl⟩)⟩
  | cons c cs => exact absurd (List.cons.inj heq).2.symm (by simp)

/-- Sixteen `B` after twenty `A`: four of the `A` are shown behind them. -/
theorem writes_left_over : ∃ d, Called (fun _ _ => 0) d
    ∧ ¬ Along Ssd1306.oledWrite WriteExact d [List.replicate 20 65, List.replicate 16 66] := by
  refine ⟨_, ⟨_, oledProbe_eq _, Reach.refl _⟩, fun h => ?_⟩
  have hsep := (writes_exact_iff_separate _ (sound_placed _ 0 0).idle).mp h [List.replicate 20 65]
    (List.replicate 16 66) [] rfl
  rw [content_zero] at hsep
  rcases hsep.ended with hz | hshort | ⟨-, hcell⟩
  · exact absurd hz (by decide)
  · exact absurd hshort (by decide)
  · exact absurd hcell (by decide)

end LoRaGateway
