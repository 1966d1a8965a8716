/-
  LoRaGateway.Driver.Read
  ───────────────────────
  **READING THE DEVICE FILE.**

  `sx1278_read` works out what it returns from `size`, the offset and the length of
  the packet, in mixed types, and copies the whole packet whatever came out; the offset
  stays with the open file while `workqueue_fn` puts other packets into
  `receive_buffer`.

    • `OpenFile` — an open file and the packet that it reads, and `sx1278Read_eq` — one
      call of `sx1278_read` on it,
    • `ReadExact` — what a read should do,
    • `reads_exact_iff` — for which reads of a run it does.
-/
import LoRaGateway.Driver.Receive
import LoRaGateway.Lib.Run

namespace LoRaGateway

open LoRaGateway.Lib

/-! ## §1. An open file. -/

/-- A packet that ends inside `receive_buffer`. -/
structure RxPacketBuffer where
  buffer : Buffer packetSize
  terminated : (0 : UInt8) ∈ buffer.bytes

/-- The device with an open file: its packet, and the offset in the file. -/
structure OpenFile where
  packet : RxPacketBuffer
  offset : UInt64

namespace OpenFile

/-- The packet, without its NUL. -/
def text (s : OpenFile) : List UInt8 := cstr s.packet.buffer.bytes

/-- `strlen(lora->receive_buffer) - *offset`. -/
def left (s : OpenFile) : UInt64 := UInt64.ofNat s.text.length - s.offset

/-- `to_read`, which is also the result. -/
def toRead (s : OpenFile) (size : UInt64) : Int32 :=
  (if size > s.left then s.left else size).toUInt32.toInt32

/-- The bytes that `copy_to_user` copies. -/
def copied (s : OpenFile) : List UInt8 := s.text

/-- A `read` from user space, or a new packet from `workqueue_fn`. -/
inductive Event where
  | read (size : UInt64)
  | replace (packet : RxPacketBuffer)

/-- A read moves the offset; a packet replaces what is there. -/
def step (s : OpenFile) : Event → Option OpenFile
  | .read size => some { s with offset := s.offset + (s.toRead size).toInt64.toUInt64 }
  | .replace packet => some { s with packet := packet }

/-- **One call of `sx1278_read`**, into any user buffer. -/
theorem sx1278Read_eq {n : Nat} {d : LoRaDev} {s : OpenFile}
    (hd : d.receiveBuffer = s.packet.buffer) (userBuff : Buffer n) (size : UInt64) :
    sx1278Read d userBuff size s.offset = (userBuff.store 0 s.copied).map (fun b =>
      (s.toRead size, b, s.offset + (s.toRead size).toInt64.toUInt64)) := by
  unfold sx1278Read
  rw [hd, strlen_of_mem s.packet.terminated]
  show ((userBuff.store 0 (s.packet.buffer.bytes.take _)).bind _) = _
  rw [take_cstr_length]
  show ((userBuff.store 0 s.copied).bind _) = _
  cases userBuff.store 0 s.copied with
  | none => rfl
  | some b => rfl

/-! ## §2. What a read should do. -/

/-- It copies as many bytes as it returns, not more than `size`, from the offset on, and
nothing at the end of the packet. -/
structure ReadExact (s : OpenFile) (size : UInt64) : Prop where
  count : (s.copied.length : Int) = (s.toRead size).toInt
  bounded : s.copied.length ≤ size.toNat
  start : s.copied = (s.text.drop s.offset.toNat).take s.copied.length
  atEnd : s.text.length ≤ s.offset.toNat → s.toRead size = 0

/-- The read is exact. -/
def Exact (s : OpenFile) (e : Event) : Prop := ∀ size, e = .read size → s.ReadExact size

/-- The whole packet is asked for from its start; or, at another offset, there is no
packet, and the size is a multiple of `2 ^ 32`. -/
def AsksForAll (s : OpenFile) (e : Event) : Prop :=
  ∀ size, e = .read size → (s.offset = 0 ∧ s.text.length ≤ size.toNat)
    ∨ (s.offset ≠ 0 ∧ s.text = [] ∧ size.toNat % 4294967296 = 0)

/-! ## §3. Which reads do it. -/

section Arithmetic

variable {s : OpenFile} {size : UInt64}

theorem length_text_lt (s : OpenFile) : s.text.length < 60 := length_cstr_lt s.packet.terminated

/-- An `int` is zero when the 32 bits that it is cut from are. -/
theorem cut_eq_zero {v : UInt64} : v.toUInt32.toInt32 = 0 ↔ v.toNat % 4294967296 = 0 := by
  have hcut : v.toUInt32.toNat = v.toNat % 4294967296 := UInt64.toNat_toUInt32 v
  rw [← hcut]
  constructor
  · intro h
    have hzero : v.toUInt32 = 0 := congrArg Int32.toUInt32 h
    rw [hzero]
    rfl
  · intro h
    have hzero : v.toUInt32 = 0 := UInt32.toNat_inj.mp h
    rw [hzero]
    rfl

/-- From the start of the packet, what is left is the packet. -/
theorem toRead_start (hoff : s.offset = 0) (hsize : s.text.length ≤ size.toNat) :
    s.toRead size = Int32.ofNat s.text.length := by
  have hlt := s.length_text_lt
  have hleft : s.left = UInt64.ofNat s.text.length := by
    unfold left
    rw [hoff, UInt64.sub_zero]
  have hnat : (UInt64.ofNat s.text.length).toNat = s.text.length := by
    rw [UInt64.toNat_ofNat']
    omega
  have hmin : (if size > s.left then s.left else size) = UInt64.ofNat s.text.length := by
    rw [hleft]
    split
    next => rfl
    next hle =>
        -- the size is the length of the packet
        apply UInt64.toNat_inj.mp
        have hnot : ¬ (UInt64.ofNat s.text.length).toNat < size.toNat := hle
        omega
  unfold toRead
  rw [hmin]
  have hall : ∀ k : Fin 60, (UInt64.ofNat k.val).toUInt32.toInt32 = Int32.ofNat k.val := by decide
  exact hall ⟨s.text.length, hlt⟩

/-- The offset after a whole packet. -/
theorem offset_after {k : Nat} (h : k < 60) :
    ((0 : UInt64) + (Int32.ofNat k).toInt64.toUInt64).toNat = k
      ∧ (Int32.ofNat k).toInt = k := by
  have hall : ∀ k : Fin 60, ((0 : UInt64) + (Int32.ofNat k.val).toInt64.toUInt64).toNat = k.val
      ∧ (Int32.ofNat k.val).toInt = (k.val : Int) := by decide
  exact hall ⟨k, h⟩

/-- Without a packet, and at another offset, what is left is as good as infinite. -/
theorem toRead_empty (hlow : s.offset.toNat < 60) (hoff : s.offset ≠ 0) (htext : s.text = []) :
    s.toRead size = 0 ↔ size.toNat % 4294967296 = 0 := by
  have hpos : s.offset.toNat ≠ 0 := fun h => hoff (UInt64.toNat_inj.mp h)
  have hsize := size.toNat_lt
  have hleft : s.left.toNat = 18446744073709551616 - s.offset.toNat := by
    unfold left
    rw [htext, UInt64.toNat_sub]
    show (18446744073709551616 - s.offset.toNat + 0) % 18446744073709551616 = _
    omega
  unfold toRead
  rw [cut_eq_zero]
  split
  next hgt =>
      have hlt : s.left.toNat < size.toNat := hgt
      rw [hleft] at hlt ⊢
      omega
  next => exact Iff.rfl

end Arithmetic

/-- A read at a small offset is exact when it asks for all. -/
theorem exact_iff {s : OpenFile} {e : Event} (hlow : s.offset.toNat < 60) :
    s.Exact e ↔ s.AsksForAll e := by
  have hlt := s.length_text_lt
  constructor
  · intro h size he
    obtain ⟨hcount, hsize, hstart, -⟩ := h size he
    by_cases hoff : s.offset = 0
    · exact Or.inl ⟨hoff, hsize⟩
    · have hpos : s.offset.toNat ≠ 0 := fun h => hoff (UInt64.toNat_inj.mp h)
      -- what follows the offset is shorter than the packet, and all of it is copied
      have hempty : s.text.length = 0 := by
        have hlen := congrArg List.length hstart
        rw [List.length_take, List.length_drop] at hlen
        have hcopied : s.copied.length = s.text.length := rfl
        omega
      have htext : s.text = [] := List.length_eq_zero_iff.mp hempty
      refine Or.inr ⟨hoff, htext, (toRead_empty hlow hoff htext).mp ?_⟩
      apply Int32.toInt_inj.mp
      rw [← hcount]
      show ((s.text.length : Nat) : Int) = 0
      rw [hempty]
      rfl
  · intro h size he
    rcases h size he with ⟨hoff, hsize⟩ | ⟨hoff, htext, hmultiple⟩
    · have hread := toRead_start hoff hsize
      have hzero : s.offset.toNat = 0 := by
        rw [hoff]
        rfl
      refine ⟨?_, hsize, ?_, ?_⟩
      · rw [hread, (offset_after hlt).2]
        rfl
      · rw [hzero, List.drop_zero]
        exact List.take_length.symm
      · intro hend
        have hempty : s.text.length = 0 := by omega
        rw [hread, hempty]
        rfl
    · have hread : s.toRead size = 0 := (toRead_empty hlow hoff htext).mpr hmultiple
      have hcopied : s.copied = [] := htext
      refine ⟨?_, ?_, ?_, fun _ => hread⟩
      · rw [hread, hcopied]
        rfl
      · rw [hcopied]
        exact Nat.zero_le _
      · rw [hcopied]
        rfl

/-- Such a read leaves the offset at the end of the packet, or where it was. -/
theorem step_low {s s' : OpenFile} {e : Event} (hlow : s.offset.toNat < 60) (h : s.AsksForAll e)
    (hs : s.step e = some s') : s'.offset.toNat < 60 := by
  cases e with
  | replace packet =>
      rw [← Option.some.inj hs]
      exact hlow
  | read size =>
      rw [← Option.some.inj hs]
      show (s.offset + (s.toRead size).toInt64.toUInt64).toNat < 60
      rcases h size rfl with ⟨hoff, hsize⟩ | ⟨hoff, htext, hmultiple⟩
      · rw [toRead_start hoff hsize, hoff, (offset_after s.length_text_lt).1]
        exact s.length_text_lt
      · rw [(toRead_empty hlow hoff htext).mpr hmultiple]
        show (s.offset + 0).toNat < 60
        rw [UInt64.add_zero]
        exact hlow

/-- **THE READS OF A RUN ARE EXACT EXACTLY WHEN EACH OF THEM ASKS FOR ALL**: the whole packet
from its start, or nothing where there is no packet. -/
theorem reads_exact_iff (packet : RxPacketBuffer) (events : List Event) :
    Along step Exact ⟨packet, 0⟩ events ↔ Along step AsksForAll ⟨packet, 0⟩ events := by
  apply along_iff (I := fun s => s.offset.toNat < 60)
  · intro s e hlow
    exact exact_iff hlow
  · intro s e s' hlow h hs
    exact step_low hlow h hs
  · show (0 : UInt64).toNat < 60
    decide

/-- `"1 2 3 4 7"` in `receive_buffer`. -/
def samplePacket : RxPacketBuffer := ⟨cached sampleText, by decide⟩

/-- A read of 4 bytes copies 9, and the next one copies them again. -/
theorem short_read_copies_all : ¬ ∀ (packet : RxPacketBuffer) (events : List Event),
    Along step Exact ⟨packet, 0⟩ events := by
  intro h
  have hsize := ((h samplePacket [.read 4]).1 4 rfl).bounded
  exact absurd hsize (by decide)

end OpenFile

end LoRaGateway
