import UdpGame.Common
import UdpGame.Lib.BigEndian

/-!
# `MemoryReader`

The reader of `Message.cpp` over the bytes of a `Span<const uint8_t>`.  Each
read either returns the big-endian value at its offset and moves past it, or
returns `0` and leaves the reader where it is.  The overloads with an explicit
offset go through `seek`, which is stricter than the bound they test.
-/

namespace UdpGame

open ByteWindow BigEndian

/-! ## Big-endian values -/

def be16 (bytes : List UInt8) : UInt16 := UInt16.ofNat (ofBytes bytes)

def be32 (bytes : List UInt8) : UInt32 := UInt32.ofNat (ofBytes bytes)

def be64 (bytes : List UInt8) : UInt64 := UInt64.ofNat (ofBytes bytes)

theorem be16_eq (a b : UInt8) : be16 [a, b] = (a.toUInt16 <<< 8) + b.toUInt16 := by
  apply UInt16.toNat_inj.mp
  rw [be16, ofBytes_two]
  simp [Nat.shiftLeft_eq]

theorem be32_eq (a b c d : UInt8) :
    be32 [a, b, c, d] =
      (a.toUInt32 <<< 24) + (b.toUInt32 <<< 16) + (c.toUInt32 <<< 8) + d.toUInt32 := by
  apply UInt32.toNat_inj.mp
  rw [be32, ofBytes_four]
  simp [Nat.shiftLeft_eq]

theorem be64_eq (a b c d e f g h : UInt8) :
    be64 [a, b, c, d, e, f, g, h] =
      (a.toUInt64 <<< 56) + (b.toUInt64 <<< 48) + (c.toUInt64 <<< 40) + (d.toUInt64 <<< 32) +
        (e.toUInt64 <<< 24) + (f.toUInt64 <<< 16) + (g.toUInt64 <<< 8) + h.toUInt64 := by
  apply UInt64.toNat_inj.mp
  rw [be64, ofBytes_eight]
  simp [Nat.shiftLeft_eq]

/-! ## The reader -/

structure MemoryReader where
  mData : List UInt8
  mOffset : Nat := 0
  deriving DecidableEq, Repr

namespace MemoryReader

def mSize (reader : MemoryReader) : Nat := reader.mData.length

def remaining (reader : MemoryReader) : Nat := sizeSub reader.mSize reader.mOffset

def seek (reader : MemoryReader) (offset : Nat) : Checked MemoryReader := do
  Checked.assert (offset < reader.mSize)
  return { reader with mOffset := offset }

/-- `mData[index]`. -/
def byteAt (reader : MemoryReader) (index : Nat) : Checked UInt8 :=
  match reader.mData[index]? with
  | some byte => .ok byte
  | none => .error .outOfBounds

/-- `mOffset += count`. -/
def advance (reader : MemoryReader) (count : Nat) : MemoryReader :=
  { reader with mOffset := sizeAdd reader.mOffset count }

def readAt (reader : MemoryReader) (offset : Nat) : Checked (UInt8 × MemoryReader) :=
  if offset ≤ reader.mSize then do
    let reader ← reader.seek offset
    let value ← reader.byteAt reader.mOffset
    return (value, reader.advance 1)
  else
    return (0, reader)

def read (reader : MemoryReader) : Checked (UInt8 × MemoryReader) :=
  reader.readAt reader.mOffset

/-- The two bytes at `mOffset`; the part the two `Read16_BE` share. -/
def load16 (reader : MemoryReader) : Checked (UInt16 × MemoryReader) := do
  let a ← reader.byteAt reader.mOffset
  let b ← reader.byteAt (reader.mOffset + 1)
  return ((a.toUInt16 <<< 8) + b.toUInt16, reader.advance 2)

def read16BE (reader : MemoryReader) : Checked (UInt16 × MemoryReader) :=
  if sizeAdd reader.mOffset 2 ≤ reader.mSize then reader.load16
  else return (0, reader)

def read16BEAt (reader : MemoryReader) (offset : Nat) : Checked (UInt16 × MemoryReader) :=
  if sizeAdd offset 2 ≤ reader.mSize then do
    let reader ← reader.seek offset
    reader.load16
  else return (0, reader)

/-- The four bytes at `mOffset`; the part the two `Read32_BE` share. -/
def load32 (reader : MemoryReader) : Checked (UInt32 × MemoryReader) := do
  let a ← reader.byteAt reader.mOffset
  let b ← reader.byteAt (reader.mOffset + 1)
  let c ← reader.byteAt (reader.mOffset + 2)
  let d ← reader.byteAt (reader.mOffset + 3)
  return ((a.toUInt32 <<< 24) + (b.toUInt32 <<< 16) + (c.toUInt32 <<< 8) + d.toUInt32,
    reader.advance 4)

def read32BE (reader : MemoryReader) : Checked (UInt32 × MemoryReader) :=
  if sizeAdd reader.mOffset 4 ≤ reader.mSize then reader.load32
  else return (0, reader)

def read32BEAt (reader : MemoryReader) (offset : Nat) : Checked (UInt32 × MemoryReader) :=
  if sizeAdd offset 4 ≤ reader.mSize then do
    let reader ← reader.seek offset
    reader.load32
  else return (0, reader)

/-- The eight bytes at `mOffset`; the part the two `Read64_BE` share. -/
def load64 (reader : MemoryReader) : Checked (UInt64 × MemoryReader) := do
  let a ← reader.byteAt reader.mOffset
  let b ← reader.byteAt (reader.mOffset + 1)
  let c ← reader.byteAt (reader.mOffset + 2)
  let d ← reader.byteAt (reader.mOffset + 3)
  let e ← reader.byteAt (reader.mOffset + 4)
  let f ← reader.byteAt (reader.mOffset + 5)
  let g ← reader.byteAt (reader.mOffset + 6)
  let h ← reader.byteAt (reader.mOffset + 7)
  return ((a.toUInt64 <<< 56) + (b.toUInt64 <<< 48) + (c.toUInt64 <<< 40) + (d.toUInt64 <<< 32) +
      (e.toUInt64 <<< 24) + (f.toUInt64 <<< 16) + (g.toUInt64 <<< 8) + h.toUInt64,
    reader.advance 8)

def read64BE (reader : MemoryReader) : Checked (UInt64 × MemoryReader) :=
  if sizeAdd reader.mOffset 8 ≤ reader.mSize then reader.load64
  else return (0, reader)

/-- The bound tested here is the one of the 32-bit read, as in the source. -/
def read64BEAt (reader : MemoryReader) (offset : Nat) : Checked (UInt64 × MemoryReader) :=
  if sizeAdd offset 4 ≤ reader.mSize then do
    let reader ← reader.seek offset
    reader.load64
  else return (0, reader)

/-- `ReadSpan(offset, length)`; the address in the span counts from the start
of the reader's buffer, and `none` is the empty span `{}`. -/
def readSpanAt (reader : MemoryReader) (offset length : Nat) :
    Checked (Option Span × MemoryReader) :=
  if sizeAdd offset length ≤ reader.mSize then do
    let reader ← reader.seek offset
    return (some { data := reader.mOffset, size := length }, reader.advance length)
  else return (none, reader)

def readSpan (reader : MemoryReader) (length : Nat) : Checked (Option Span × MemoryReader) :=
  reader.readSpanAt reader.mOffset length

/-! ## Reads inside the buffer -/

theorem byteAt_of_lt {bytes : List UInt8} {offset index : Nat} (inside : index < bytes.length) :
    byteAt ⟨bytes, offset⟩ index = .ok bytes[index] := by
  simp only [byteAt, List.getElem?_eq_getElem inside]

theorem seek_of_lt {bytes : List UInt8} {start offset : Nat} (inside : offset < bytes.length) :
    seek ⟨bytes, start⟩ offset = .ok ⟨bytes, offset⟩ := by
  have strict : offset < mSize ⟨bytes, start⟩ := inside
  rw [seek, Checked.assert_of strict]
  rfl

theorem seek_of_le {bytes : List UInt8} {start offset : Nat} (outside : bytes.length ≤ offset) :
    seek ⟨bytes, start⟩ offset = .error .assertion := by
  have lax : ¬ offset < mSize ⟨bytes, start⟩ := Nat.not_lt.mpr outside
  rw [seek, Checked.assert_of_not lax]
  rfl

section Inside

variable (bytes : List UInt8) (offset : Nat)

theorem advance_of_lt {count : Nat} (fits : offset + count < 2 ^ 64) :
    advance ⟨bytes, offset⟩ count = ⟨bytes, offset + count⟩ := by
  simp only [advance, sizeAdd_of_lt fits]

theorem read_of_lt (inside : offset < bytes.length) (fits : offset + 1 < 2 ^ 64) :
    read ⟨bytes, offset⟩ = .ok (bytes.getD offset 0, ⟨bytes, offset + 1⟩) := by
  have shown : bytes[offset] = bytes.getD offset 0 := List.getElem_eq_getD 0
  have within : offset ≤ mSize ⟨bytes, offset⟩ := Nat.le_of_lt inside
  simp only [read, readAt, if_pos within, seek_of_lt inside, Checked.ok_bind,
    Checked.pure_eq_ok, byteAt_of_lt inside, advance_of_lt bytes offset fits, shown]

theorem load16_of_le (inside : offset + 2 ≤ bytes.length) (fits : offset + 2 < 2 ^ 64) :
    load16 ⟨bytes, offset⟩ = .ok (be16 (window bytes offset 2), ⟨bytes, offset + 2⟩) := by
  have shown : window bytes offset 2 = [bytes[offset], bytes[offset + 1]] := by
    rw [window_succ (by omega), window_succ (by omega), window_zero]
  rw [shown, be16_eq, load16, byteAt_of_lt (by simp only; omega),
    byteAt_of_lt (by simp only; omega), advance_of_lt bytes offset fits]
  rfl

theorem load32_of_le (inside : offset + 4 ≤ bytes.length) (fits : offset + 4 < 2 ^ 64) :
    load32 ⟨bytes, offset⟩ = .ok (be32 (window bytes offset 4), ⟨bytes, offset + 4⟩) := by
  have shown : window bytes offset 4 =
      [bytes[offset], bytes[offset + 1], bytes[offset + 2], bytes[offset + 3]] := by
    rw [window_succ (by omega), window_succ (by omega), window_succ (by omega),
      window_succ (by omega), window_zero]
  rw [shown, be32_eq, load32, byteAt_of_lt (by simp only; omega),
    byteAt_of_lt (by simp only; omega), byteAt_of_lt (by simp only; omega),
    byteAt_of_lt (by simp only; omega), advance_of_lt bytes offset fits]
  rfl

theorem load64_of_le (inside : offset + 8 ≤ bytes.length) (fits : offset + 8 < 2 ^ 64) :
    load64 ⟨bytes, offset⟩ = .ok (be64 (window bytes offset 8), ⟨bytes, offset + 8⟩) := by
  have shown : window bytes offset 8 =
      [bytes[offset], bytes[offset + 1], bytes[offset + 2], bytes[offset + 3],
        bytes[offset + 4], bytes[offset + 5], bytes[offset + 6], bytes[offset + 7]] := by
    rw [window_succ (by omega), window_succ (by omega), window_succ (by omega),
      window_succ (by omega), window_succ (by omega), window_succ (by omega),
      window_succ (by omega), window_succ (by omega), window_zero]
  rw [shown, be64_eq, load64, byteAt_of_lt (by simp only; omega),
    byteAt_of_lt (by simp only; omega), byteAt_of_lt (by simp only; omega),
    byteAt_of_lt (by simp only; omega), byteAt_of_lt (by simp only; omega),
    byteAt_of_lt (by simp only; omega), byteAt_of_lt (by simp only; omega),
    byteAt_of_lt (by simp only; omega), advance_of_lt bytes offset fits]
  rfl

/-- A bound test that passes in the integers passes after wrapping. -/
theorem sizeAdd_le_mSize {count : Nat} (inside : offset + count ≤ bytes.length) :
    sizeAdd offset count ≤ mSize ⟨bytes, offset⟩ :=
  Nat.le_trans (sizeAdd_le _ _) inside

theorem read16BE_of_le (inside : offset + 2 ≤ bytes.length) (fits : offset + 2 < 2 ^ 64) :
    read16BE ⟨bytes, offset⟩ = .ok (be16 (window bytes offset 2), ⟨bytes, offset + 2⟩) := by
  rw [read16BE, if_pos (sizeAdd_le_mSize bytes offset inside),
    load16_of_le bytes offset inside fits]

theorem read32BE_of_le (inside : offset + 4 ≤ bytes.length) (fits : offset + 4 < 2 ^ 64) :
    read32BE ⟨bytes, offset⟩ = .ok (be32 (window bytes offset 4), ⟨bytes, offset + 4⟩) := by
  rw [read32BE, if_pos (sizeAdd_le_mSize bytes offset inside),
    load32_of_le bytes offset inside fits]

theorem read64BE_of_le (inside : offset + 8 ≤ bytes.length) (fits : offset + 8 < 2 ^ 64) :
    read64BE ⟨bytes, offset⟩ = .ok (be64 (window bytes offset 8), ⟨bytes, offset + 8⟩) := by
  rw [read64BE, if_pos (sizeAdd_le_mSize bytes offset inside),
    load64_of_le bytes offset inside fits]

theorem readSpan_of_le {length : Nat} (inside : offset < bytes.length)
    (room : offset + length ≤ bytes.length) (fits : offset + length < 2 ^ 64) :
    readSpan ⟨bytes, offset⟩ length = .ok (some ⟨offset, length⟩, ⟨bytes, offset + length⟩) := by
  simp only [readSpan, readSpanAt, if_pos (sizeAdd_le_mSize bytes offset room),
    seek_of_lt inside, Checked.ok_bind, Checked.pure_eq_ok, advance_of_lt bytes offset fits]

end Inside

end MemoryReader

end UdpGame
