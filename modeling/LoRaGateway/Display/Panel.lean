/-
  LoRaGateway.Display.Panel
  ─────────────────────────
  **THE DISPLAY CHIP**, an SSD1306 in horizontal addressing mode, as far as its
  memory goes: eight pages of 128 columns, a window of columns and pages, and a
  pointer that data bytes move through the window, row by row and back to its start.

  A command and its parameters may come in transfers of their own.

    • `foldl_data` — data bytes that stay on a page fill their columns,
    • `ram_foldl_outside`, `ram_foldl_zeros` — data bytes stay in the window, and
      enough zeros erase it.
-/
import Mathlib.Data.List.Basic
import LoRaGateway.Lib.Scan

namespace LoRaGateway

/-! ## §1. The chip. -/

/-- `OLED_WIDTH`. -/
def oledWidth : Nat := 128

/-- The display bytes, by page and column. -/
abbrev Ram : Type := Nat → Nat → UInt8

/-- The chip: its memory, the window in it and the pointer in the window. -/
structure Panel where
  ram : Ram
  colStart : Nat
  colEnd : Nat
  pageStart : Nat
  pageEnd : Nat
  col : Nat
  page : Nat
  /-- a command that waits for parameters, with those it has -/
  pending : List UInt8

/-- `write_mode_t`. -/
inductive WriteMode where
  | command
  | data
  deriving DecidableEq

namespace Panel

/-- How many parameters a command takes, of those that the driver sends. -/
def parameters (c : UInt8) : Nat :=
  if c = 0x21 ∨ c = 0x22 then 2
  else if c ∈ ([0x20, 0x81, 0x8D, 0xA8, 0xD3, 0xD5, 0xD9, 0xDA, 0xDB] : List UInt8) then 1
  else 0

/-- A command with its parameters: the column and the page window are set, and the
pointer goes to the start of the window; other commands leave both alone. -/
def execute (p : Panel) : List UInt8 → Panel
  | [0x21, a, b] =>
      { p with
        colStart := a.toNat % oledWidth, colEnd := b.toNat % oledWidth
        col := a.toNat % oledWidth }
  | [0x22, a, b] =>
      { p with pageStart := a.toNat % 8, pageEnd := b.toNat % 8, page := a.toNat % 8 }
  | _ => p

/-- A byte of a command. -/
def command (p : Panel) (b : UInt8) : Panel :=
  let bytes := p.pending ++ [b]
  if bytes.length = 1 + parameters (bytes.headD 0) then { p.execute bytes with pending := [] }
  else { p with pending := bytes }

/-- A display byte. -/
def data (p : Panel) (b : UInt8) : Panel :=
  let ram : Ram := fun page col => if page = p.page ∧ col = p.col then b else p.ram page col
  if p.col = p.colEnd then
    { p with
      ram := ram, col := p.colStart
      page := if p.page = p.pageEnd then p.pageStart else (p.page + 1) % 8 }
  else { p with ram := ram, col := (p.col + 1) % oledWidth }

/-- One I2C transfer: the control byte says what the bytes after it are. -/
def transfer (p : Panel) : WriteMode → List UInt8 → Panel
  | .command, bytes => bytes.foldl command p
  | .data, bytes => bytes.foldl data p

/-! ## §2. Commands. -/

section Command

variable {p : Panel} {c a : UInt8}

theorem command_opens (hp : p.pending = []) (hc : parameters c ≠ 0) :
    p.command c = { p with pending := [c] } := by
  unfold command
  rw [hp]
  exact if_neg (fun h => hc (by simpa using h.symm))

theorem command_waits (hp : p.pending = [c]) (hc : parameters c = 2) :
    p.command a = { p with pending := [c, a] } := by
  unfold command
  rw [hp]
  exact if_neg (by simp [hc])

theorem command_executes (hp : p.pending = [c, a]) (hc : parameters c = 2) (b : UInt8) :
    p.command b = { p.execute [c, a, b] with pending := [] } := by
  unfold command
  rw [hp]
  exact if_pos (by simp [hc])

/-- Only the windows are set. -/
theorem execute_short {bytes : List UInt8} (h : bytes.length ≤ 2) : p.execute bytes = p := by
  unfold execute
  split
  · simp at h
  · simp at h
  · rfl

/-- A command without parameters. -/
theorem command_alone (hp : p.pending = []) (hc : parameters c = 0) : p.command c = p := by
  unfold command
  rw [hp]
  have hcomplete : ([] ++ [c]).length = 1 + parameters (([] ++ [c]).headD 0) := by simp [hc]
  refine (if_pos hcomplete).trans ?_
  rw [execute_short (by simp), ← hp]

/-- A command with one parameter, each in a transfer. -/
theorem command_two (hp : p.pending = []) (hc : parameters c = 1) :
    (p.command c).command a = p := by
  rw [command_opens hp (by omega)]
  unfold command
  have hcomplete : ([c] ++ [a]).length = 1 + parameters (([c] ++ [a]).headD 0) := by simp [hc]
  refine (if_pos hcomplete).trans ?_
  rw [execute_short (by simp)]
  show { p with pending := [] } = p
  rw [← hp]

/-- The command byte and its two parameters, each in a transfer. -/
theorem command_three (hp : p.pending = []) (hc : parameters c = 2) (b : UInt8) :
    ((p.command c).command a).command b = { p.execute [c, a, b] with pending := [] } := by
  rw [command_opens hp (by omega), command_waits (p := { p with pending := [c] }) rfl hc,
    command_executes (p := { p with pending := [c, a] }) rfl hc]
  unfold execute
  split <;> rfl

end Command

/-! ## §3. Bytes within a page. -/

/-- `bytes` at the pointer, which is behind them then. -/
def fill (p : Panel) (bytes : List UInt8) : Panel :=
  { p with
    ram := fun page col =>
      if page = p.page ∧ p.col ≤ col ∧ col < p.col + bytes.length then
        bytes.getD (col - p.col) 0
      else p.ram page col
    col := p.col + bytes.length }

theorem fill_nil (p : Panel) : p.fill [] = p := by
  have hram : (fun page col =>
      if page = p.page ∧ p.col ≤ col ∧ col < p.col + ([] : List UInt8).length then
        ([] : List UInt8).getD (col - p.col) 0
      else p.ram page col) = p.ram := by
    funext page col
    rw [if_neg]
    rw [List.length_nil]
    omega
  unfold fill
  rw [hram]
  rfl

/-- One byte after the other. -/
theorem fill_cons (p : Panel) (b : UInt8) (bs : List UInt8) :
    (p.fill [b]).fill bs = p.fill (b :: bs) := by
  have hram : ∀ page col, ((p.fill [b]).fill bs).ram page col = (p.fill (b :: bs)).ram page col := by
    intro page col
    show (if page = p.page ∧ p.col + 1 ≤ col ∧ col < p.col + 1 + bs.length then
          bs.getD (col - (p.col + 1)) 0
        else if page = p.page ∧ p.col ≤ col ∧ col < p.col + 1 then [b].getD (col - p.col) 0
        else p.ram page col)
      = if page = p.page ∧ p.col ≤ col ∧ col < p.col + (bs.length + 1) then
          (b :: bs).getD (col - p.col) 0
        else p.ram page col
    by_cases hfirst : page = p.page ∧ col = p.col
    · have hlater : ¬ (page = p.page ∧ p.col + 1 ≤ col ∧ col < p.col + 1 + bs.length) := by omega
      have hself : page = p.page ∧ p.col ≤ col ∧ col < p.col + 1 := by omega
      have hall : page = p.page ∧ p.col ≤ col ∧ col < p.col + (bs.length + 1) := by omega
      rw [if_neg hlater, if_pos hself, if_pos hall, hfirst.2, Nat.sub_self]
      rfl
    · have hself : ¬ (page = p.page ∧ p.col ≤ col ∧ col < p.col + 1) := by omega
      rw [if_neg hself]
      by_cases hlater : page = p.page ∧ p.col + 1 ≤ col ∧ col < p.col + 1 + bs.length
      · have hall : page = p.page ∧ p.col ≤ col ∧ col < p.col + (bs.length + 1) := by omega
        rw [if_pos hlater, if_pos hall, show col - p.col = (col - (p.col + 1)) + 1 by omega,
          List.getD_cons_succ]
      · have hall : ¬ (page = p.page ∧ p.col ≤ col ∧ col < p.col + (bs.length + 1)) := by omega
        rw [if_neg hlater, if_neg hall]
  have hcol : ((p.fill [b]).fill bs).col = (p.fill (b :: bs)).col := by
    show p.col + [b].length + bs.length = p.col + (b :: bs).length
    simp only [List.length_cons, List.length_nil]
    omega
  calc (p.fill [b]).fill bs
      = { p with ram := ((p.fill [b]).fill bs).ram, col := ((p.fill [b]).fill bs).col } := rfl
    _ = { p with ram := (p.fill (b :: bs)).ram, col := (p.fill (b :: bs)).col } := by
        rw [funext fun page => funext (hram page), hcol]
    _ = p.fill (b :: bs) := rfl

theorem fill_append (p : Panel) (bs cs : List UInt8) : (p.fill bs).fill cs = p.fill (bs ++ cs) := by
  induction bs generalizing p with
  | nil => rw [fill_nil, List.nil_append]
  | cons b bs ih => rw [← fill_cons, ih, fill_cons, List.cons_append]

/-- A byte before the end of the window. -/
theorem data_eq_fill {p : Panel} {b : UInt8} (hend : p.colEnd = oledWidth - 1)
    (h : p.col + 1 < oledWidth) : p.data b = p.fill [b] := by
  have hram : (fun page col => if page = p.page ∧ col = p.col then b else p.ram page col)
      = (p.fill [b]).ram := by
    funext page col
    simp only [fill, List.length_singleton]
    by_cases hcol : page = p.page ∧ col = p.col
    · rw [if_pos hcol, if_pos (by omega), hcol.2, Nat.sub_self]
      rfl
    · rw [if_neg hcol, if_neg (by omega)]
  have hne : p.col ≠ p.colEnd := by omega
  unfold data
  rw [hram, if_neg hne, Nat.mod_eq_of_lt h]
  rfl

/-- **Data bytes that stay before the end of the window fill their columns.** -/
theorem foldl_data : ∀ {bytes : List UInt8} {p : Panel}, p.colEnd = oledWidth - 1 →
    p.col + bytes.length < oledWidth → bytes.foldl data p = p.fill bytes := by
  intro bytes
  induction bytes with
  | nil =>
      intro p _ _
      exact (fill_nil p).symm
  | cons b bs ih =>
      intro p hend h
      rw [List.length_cons] at h
      have hrest : (p.fill [b]).col + bs.length < oledWidth := by
        show p.col + 1 + bs.length < oledWidth
        omega
      rw [List.foldl_cons, data_eq_fill hend (by omega), ih (p := p.fill [b]) hend hrest,
        fill_cons]

/-! ## §4. Around the window. -/

/-- The pointer is in the window, and the window in the memory. -/
structure Windowed (p : Panel) : Prop where
  col : p.colStart ≤ p.col ∧ p.col ≤ p.colEnd
  page : p.pageStart ≤ p.page ∧ p.page ≤ p.pageEnd
  colEnd : p.colEnd < oledWidth
  pageEnd : p.pageEnd < 8

/-- The byte is in the window. -/
def InWindow (p : Panel) (page col : Nat) : Prop :=
  (p.pageStart ≤ page ∧ page ≤ p.pageEnd) ∧ p.colStart ≤ col ∧ col ≤ p.colEnd

/-- Columns of the window. -/
def windowWidth (p : Panel) : Nat := p.colEnd + 1 - p.colStart

/-- Pages of the window. -/
def windowHeight (p : Panel) : Nat := p.pageEnd + 1 - p.pageStart

/-- Where the pointer is in the window. -/
def pointer (p : Panel) : Nat × Nat := (p.page - p.pageStart, p.col - p.colStart)

section Window

variable {p : Panel} {page col : Nat}

/-- A data byte leaves the window as it is. -/
theorem data_window (p : Panel) (b : UInt8) :
    (p.data b).colStart = p.colStart ∧ (p.data b).colEnd = p.colEnd
      ∧ (p.data b).pageStart = p.pageStart ∧ (p.data b).pageEnd = p.pageEnd
      ∧ (p.data b).pending = p.pending := by
  unfold data
  split <;> exact ⟨rfl, rfl, rfl, rfl, rfl⟩

theorem ram_data (p : Panel) (b : UInt8) (page col : Nat) :
    (p.data b).ram page col = if page = p.page ∧ col = p.col then b else p.ram page col := by
  unfold data
  split <;> rfl

theorem inWindow_data {b : UInt8} : (p.data b).InWindow page col ↔ p.InWindow page col := by
  obtain ⟨hcs, hce, hps, hpe, -⟩ := data_window p b
  unfold InWindow
  rw [hcs, hce, hps, hpe]

/-- **The pointer goes on in reading order.** -/
theorem Windowed.data (hp : p.Windowed) (b : UInt8) :
    (p.data b).Windowed
      ∧ (p.data b).pointer = Lib.scanNext p.windowWidth p.windowHeight p.pointer := by
  obtain ⟨⟨hcol, hcol'⟩, ⟨hpage, hpage'⟩, hce, hpe⟩ := hp
  unfold oledWidth at hce
  unfold Panel.data
  by_cases hlast : p.col = p.colEnd
  · rw [if_pos hlast]
    have hw : p.col - p.colStart + 1 = p.windowWidth := by
      unfold windowWidth
      omega
    by_cases hbottom : p.page = p.pageEnd
    · have hh : p.page - p.pageStart + 1 = p.windowHeight := by
        unfold windowHeight
        omega
      refine ⟨⟨⟨Nat.le_refl _, ?_⟩, ?_, hce, hpe⟩, ?_⟩
      · show p.colStart ≤ p.colEnd
        omega
      · show p.pageStart ≤ (if p.page = p.pageEnd then p.pageStart else (p.page + 1) % 8)
          ∧ (if p.page = p.pageEnd then p.pageStart else (p.page + 1) % 8) ≤ p.pageEnd
        rw [if_pos hbottom]
        omega
      · show ((if p.page = p.pageEnd then p.pageStart else (p.page + 1) % 8) - p.pageStart,
            p.colStart - p.colStart) = _
        unfold Lib.scanNext pointer
        rw [if_pos hw, if_pos hh, if_pos hbottom, Nat.sub_self, Nat.sub_self]
    · have hh : ¬ p.page - p.pageStart + 1 = p.windowHeight := by
        unfold windowHeight
        omega
      have hnext : (p.page + 1) % 8 = p.page + 1 := Nat.mod_eq_of_lt (by omega)
      refine ⟨⟨⟨Nat.le_refl _, ?_⟩, ?_, hce, hpe⟩, ?_⟩
      · show p.colStart ≤ p.colEnd
        omega
      · show p.pageStart ≤ (if p.page = p.pageEnd then p.pageStart else (p.page + 1) % 8)
          ∧ (if p.page = p.pageEnd then p.pageStart else (p.page + 1) % 8) ≤ p.pageEnd
        rw [if_neg hbottom, hnext]
        omega
      · show ((if p.page = p.pageEnd then p.pageStart else (p.page + 1) % 8) - p.pageStart,
            p.colStart - p.colStart) = _
        unfold Lib.scanNext pointer
        rw [if_pos hw, if_neg hh, if_neg hbottom, hnext, Nat.sub_self]
        congr 1
        omega
  · rw [if_neg hlast]
    have hw : ¬ p.col - p.colStart + 1 = p.windowWidth := by
      unfold windowWidth
      omega
    have hnext : (p.col + 1) % oledWidth = p.col + 1 := Nat.mod_eq_of_lt (by
      show p.col + 1 < 128
      omega)
    refine ⟨⟨?_, ⟨hpage, hpage'⟩, hce, hpe⟩, ?_⟩
    · show p.colStart ≤ (p.col + 1) % oledWidth ∧ (p.col + 1) % oledWidth ≤ p.colEnd
      rw [hnext]
      omega
    · show (p.page - p.pageStart, (p.col + 1) % oledWidth - p.colStart) = _
      unfold Lib.scanNext pointer
      rw [if_neg hw, hnext]
      congr 1
      omega

/-- Data bytes keep the pointer in the window. -/
theorem Windowed.foldl (hp : p.Windowed) (bytes : List UInt8) :
    (bytes.foldl Panel.data p).Windowed := by
  induction bytes generalizing p with
  | nil => exact hp
  | cons b bs ih => exact ih (hp.data b).1

theorem pending_foldl (p : Panel) (bytes : List UInt8) :
    (bytes.foldl Panel.data p).pending = p.pending := by
  induction bytes generalizing p with
  | nil => rfl
  | cons b bs ih => exact (ih (p.data b)).trans (data_window p b).2.2.2.2

/-- **Data bytes do not come out of the window.** -/
theorem ram_foldl_outside (hp : p.Windowed) (h : ¬ p.InWindow page col) (bytes : List UInt8) :
    (bytes.foldl Panel.data p).ram page col = p.ram page col := by
  induction bytes generalizing p with
  | nil => rfl
  | cons b bs ih =>
      have hnot : ¬ (page = p.page ∧ col = p.col) := by
        intro hat
        rw [hat.1, hat.2] at h
        exact h ⟨hp.page, hp.col⟩
      rw [List.foldl_cons, ih (hp.data b).1 (fun hin => h (inWindow_data.mp hin)), ram_data,
        if_neg hnot]

/-- What is zero, and what the pointer comes to, is zero after zeros. -/
theorem ram_foldl_visited (hp : p.Windowed) (hin : p.InWindow page col) (n : Nat)
    (h : p.ram page col = 0 ∨ ∃ k, k < n ∧ (Lib.scanNext p.windowWidth p.windowHeight)^[k] p.pointer
      = (page - p.pageStart, col - p.colStart)) :
    ((List.replicate n 0).foldl Panel.data p).ram page col = 0 := by
  induction n generalizing p with
  | zero =>
      rcases h with h | ⟨k, hk, -⟩
      · exact h
      · omega
  | succ n ih =>
      obtain ⟨hcs, hce, hps, hpe, -⟩ := data_window p 0
      obtain ⟨hnext, hpointer⟩ := hp.data 0
      rw [List.replicate_succ, List.foldl_cons]
      apply ih hnext (inWindow_data.mpr hin)
      rw [ram_data]
      by_cases hat : page = p.page ∧ col = p.col
      · exact Or.inl (if_pos hat)
      · rw [if_neg hat]
        rcases h with h | ⟨k, hk, hvisit⟩
        · exact Or.inl h
        · right
          cases k with
          | zero =>
              -- the pointer is there now
              obtain ⟨hr, hj⟩ := Prod.mk.inj hvisit
              have hpage := hp.page
              have hcol := hp.col
              obtain ⟨⟨hin₁, -⟩, hin₂, -⟩ := hin
              exact absurd ⟨by omega, by omega⟩ hat
          | succ k =>
              refine ⟨k, by omega, ?_⟩
              rw [Function.iterate_succ_apply] at hvisit
              unfold windowWidth windowHeight at hvisit hpointer ⊢
              rw [hcs, hce, hps, hpe, hpointer]
              exact hvisit

/-- **As many zeros as the memory has bytes erase the window.** -/
theorem ram_foldl_zeros (hp : p.Windowed) (hin : p.InWindow page col) :
    ((List.replicate 1024 0).foldl Panel.data p).ram page col = 0 := by
  apply ram_foldl_visited hp hin
  obtain ⟨⟨hin₁, hin₂⟩, hin₃, hin₄⟩ := hin
  obtain ⟨hcol, hpage, hce, hpe⟩ := hp
  unfold oledWidth at hce
  have hreach := Lib.scan_reaches (w := p.windowWidth) (h := p.windowHeight) (c := p.pointer)
    (x := (page - p.pageStart, col - p.colStart))
    (by unfold pointer windowWidth windowHeight; constructor <;> simp only <;> omega)
    (by unfold windowWidth windowHeight; constructor <;> simp only <;> omega)
  obtain ⟨k, hk, hvisit⟩ := hreach
  have hsize : p.windowWidth * p.windowHeight ≤ 128 * 8 := by
    apply Nat.mul_le_mul
    · unfold windowWidth
      omega
    · unfold windowHeight
      omega
  exact Or.inr ⟨k, by omega, hvisit⟩

end Window

end Panel

end LoRaGateway
