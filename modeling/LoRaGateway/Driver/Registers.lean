/-
  LoRaGateway.Driver.Registers
  ────────────────────────────
  **THE CHIP AS A SET OF REGISTERS**: the values that the driver wrote last to
  `RegOpMode` and the three `RegModemConfig`s, together with `current_mode`.

  `RegOpMode` reads with the upper five bits that were written and any mode in the
  lower three; the other registers that the chip changes, and local variables that
  were never set, read as the answers that a run is given.

    • `meets_readRegister`, `meets_writeRegister` — one access.
-/
import LoRaGateway.Driver.Modem
import LoRaGateway.Lib.BitField
import LoRaGateway.Lib.Interleave

namespace LoRaGateway

open LoRaGateway.Lib
open LoRaGateway.Lib.Program (Setting Meets KeptBy alone kept_alone meets_perform)

/-! ## §1. The registers. -/

/-- What was written last, and the version of the silicon. -/
structure Radio where
  opMode : UInt8
  modemConfig1 : UInt8
  modemConfig2 : UInt8
  modemConfig3 : UInt8
  currentMode : UInt32
  version : UInt8
  deriving DecidableEq

/-- What a register reads as; `fresh` is what the chip puts there by itself. -/
def Radio.register (r : Radio) (address fresh : UInt8) : UInt8 :=
  if address = Reg.opMode then (r.opMode &&& 0xF8) ||| (fresh &&& 0x07)
  else if address = Reg.modemConfig1 then r.modemConfig1
  else if address = Reg.modemConfig2 then r.modemConfig2
  else if address = Reg.modemConfig3 then r.modemConfig3
  else if address = Reg.version then r.version
  else fresh

/-- A write, by the address byte of the transfer. -/
def Radio.set (r : Radio) (address value : UInt8) : Radio :=
  if address = Reg.opMode ||| 0x80 then { r with opMode := value }
  else if address = Reg.modemConfig1 ||| 0x80 then { r with modemConfig1 := value }
  else if address = Reg.modemConfig2 ||| 0x80 then { r with modemConfig2 := value }
  else if address = Reg.modemConfig3 ||| 0x80 then { r with modemConfig3 := value }
  else r

/-- A transfer; those of more than one byte are for the FIFO. -/
def Radio.transfer (r : Radio) : List UInt8 → Radio
  | [address, value] => r.set address value
  | _ => r

/-- The chip, with the answers to come: each operation takes one. -/
def Radio.answer (s : Radio × (Nat → UInt8)) : (o : DriverOp) → o.Resp × (Radio × (Nat → UInt8))
  | .spiWrite bytes => ((), s.1.transfer bytes, fun n => s.2 (n + 1))
  | .spiWriteThenRead address => (s.1.register address (s.2 0), s.1, fun n => s.2 (n + 1))
  | .getMode => (s.1.currentMode, s.1, fun n => s.2 (n + 1))
  | .setMode mode => ((), { s.1 with currentMode := mode }, fun n => s.2 (n + 1))
  | .setTransmitBuffer _ => ((), s.1, fun n => s.2 (n + 1))
  | .uninitialised => (s.2 0, s.1, fun n => s.2 (n + 1))

/-- A run of the driver, with these answers. -/
def Radio.run {α : Type} (r : Radio) (p : Driver α) (answers : Nat → UInt8) : Option (α × Radio) :=
  (p.exec Radio.answer (r, answers)).map (fun out => (out.1, out.2.1))

/-- `r` is what `LoRa_init` leaves when it returns `LORA_OK`, whatever was in the
registers after the reset. -/
def Radio.Initialised (m : ModemSettings) (r : Radio) : Prop :=
  ∃ (r₀ : Radio) (answers : Nat → UInt8), r₀.run (sx1278LoRaInit true m) answers = some (.ok, r)

/-! ## §2. Triples. -/

/-- From `A` the program, run alone, ends in `B`. -/
def Turns {α : Type} (A : Radio → Prop) (p : Driver α) (B : α → Radio → Prop) : Prop :=
  Meets (alone Radio.answer) (fun s => A s.1) p (fun a s => B a s.1)

section Turns

variable {α β : Type} {A A' : Radio → Prop}

theorem Turns.run {p : Driver α} {B : α → Radio → Prop} (h : Turns A p B) {r r' : Radio} {a : α}
    {answers : Nat → UInt8} (hr : A r) (hrun : r.run p answers = some (a, r')) : B a r' := by
  obtain ⟨⟨b, s⟩, hexec, heq⟩ := Option.map_eq_some_iff.mp hrun
  obtain ⟨rfl, rfl⟩ := Prod.mk.inj heq
  exact Meets.exec (Q := fun a (s : Radio × (Nat → UInt8)) => B a s.1) h hr hexec

theorem turns_ret {a : α} {B : α → Radio → Prop} (h : ∀ r, A r → B a r) :
    Turns A (pure a) B :=
  Program.meets_ret (kept_alone _) (fun s hs => h s.1 hs)

theorem turns_bind {p : Driver α} {f : α → Driver β} {R : α → Radio → Prop}
    {B : β → Radio → Prop} (hp : Turns A p R) (hf : ∀ a, Turns (R a) (f a) B) :
    Turns A (p >>= f) B := Program.meets_bind hp hf

theorem Turns.pre {p : Driver α} {B : α → Radio → Prop} (h : Turns A p B)
    (hA : ∀ r, A' r → A r) : Turns A' p B := Program.Meets.pre h (fun s => hA s.1)

theorem Turns.post {p : Driver α} {B B' : α → Radio → Prop} (h : Turns A p B)
    (hB : ∀ a r, B a r → B' a r) : Turns A p B' := Program.Meets.post h (fun a s => hB a s.1)

theorem turns_fact {R : Prop} {p : Driver α} {B : α → Radio → Prop} (h : R → Turns A p B) :
    Turns (fun r => A r ∧ R) p B := Program.meets_fact h

theorem turns_perform {o : DriverOp} {B : o.Resp → Radio → Prop}
    (h : ∀ s, A s.1 → B (Radio.answer s o).1 (Radio.answer s o).2.1) :
    Turns A (perform o) B :=
  meets_perform (kept_alone _) (fun _ => kept_alone _) (fun s hs => ⟨trivial, h s hs⟩)

/-- Nothing is asked of the end. -/
theorem turns_any (p : Driver α) : Turns A p (fun _ _ => True) := by
  have hwp : ∀ (p : Driver α) (s : Radio × (Nat → UInt8)),
      p.Wp (alone Radio.answer) (fun _ _ => True) s := by
    intro p
    induction p with
    | ret a => exact fun _ _ _ => trivial
    | stop e => exact fun _ => trivial
    | op o k ih => exact fun _ t _ => ⟨trivial, ih _ _⟩
  exact fun s _ => hwp p s

/-- An undefined step ends the run. -/
theorem turns_defined {o : Option α} {B : α → Radio → Prop} (h : ∀ a r, o = some a → A r → B a r) :
    Turns A (defined o) B := by
  cases o with
  | none => exact Program.meets_stop trivial
  | some a => exact turns_ret (fun r hr => h a r rfl hr)

/-- Reading a register changes none. -/
theorem turns_read (address : UInt8) :
    Turns A (loRaRead address)
      (fun v r => A r ∧ ∃ fresh, v = r.register (address &&& 0x7F) fresh) :=
  turns_perform (fun s hs => ⟨hs, s.2 0, rfl⟩)

theorem turns_look (address : UInt8) : Turns A (loRaRead address) (fun _ => A) :=
  (turns_read address).post (fun _ _ h => h.1)

theorem turns_write {address value : UInt8} {B : Radio → Prop}
    (h : ∀ r, A r → B (r.set (address ||| 0x80) value)) :
    Turns A (loRaWrite address value) (fun _ => B) :=
  turns_perform (fun s hs => h s.1 hs)

/-- A write that does not matter. -/
theorem turns_kept {address value : UInt8} (h : ∀ r, A r → A (r.set (address ||| 0x80) value)) :
    Turns A (loRaWrite address value) (fun _ => A) := turns_write h

end Turns

end LoRaGateway
