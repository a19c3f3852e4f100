import UdpGame.Common
import UdpGame.Lib.BigEndian

/-!
# `MemoryWriter`

The writer of `Message.cpp` over an address range of a memory block.  A write
that does not fit the range is silently dropped.  `Writes fields bytes` says
that the program `fields` appends exactly `bytes` wherever they fit; it
composes (`Writes.andThen`), so the effect of a serializer on its buffer is the
concatenation of what its fields write.
-/

namespace UdpGame

open ByteWindow BigEndian

structure MemoryWriter where
  mData : Nat
  mSize : Nat
  mOffset : Nat := 0
  deriving DecidableEq, Repr

/-- `MemoryWriter(span.data, span.size)`. -/
def MemoryWriter.over (span : Span) : MemoryWriter := { mData := span.data, mSize := span.size }

namespace MemoryWriter

def seek (writer : MemoryWriter) (offset : Nat) : Checked MemoryWriter := do
  Checked.assert (offset < writer.mSize)
  return { writer with mOffset := offset }

/-- `mOffset += count`. -/
def advance (writer : MemoryWriter) (count : Nat) : MemoryWriter :=
  { writer with mOffset := sizeAdd writer.mOffset count }

def putAt (writer : MemoryWriter) (offset : Nat) (data : List UInt8) (mem : Memory) :
    Checked (MemoryWriter × Memory) :=
  if sizeAdd offset data.length ≤ writer.mSize then do
    let writer ← writer.seek offset
    let mem ← mem.store (writer.mData + writer.mOffset) data
    return (writer.advance data.length, mem)
  else
    return (writer, mem)

def put (writer : MemoryWriter) (data : List UInt8) (mem : Memory) :
    Checked (MemoryWriter × Memory) :=
  writer.putAt writer.mOffset data mem

def put16BEAt (writer : MemoryWriter) (offset : Nat) (value : UInt16) (mem : Memory) :
    Checked (MemoryWriter × Memory) :=
  writer.putAt offset [(value >>> 8).toUInt8, value.toUInt8] mem

def put16BE (writer : MemoryWriter) (value : UInt16) (mem : Memory) :
    Checked (MemoryWriter × Memory) :=
  writer.put16BEAt writer.mOffset value mem

def put32BEAt (writer : MemoryWriter) (offset : Nat) (value : UInt32) (mem : Memory) :
    Checked (MemoryWriter × Memory) :=
  writer.putAt offset
    [(value >>> 24).toUInt8, (value >>> 16).toUInt8, (value >>> 8).toUInt8, value.toUInt8] mem

def put32BE (writer : MemoryWriter) (value : UInt32) (mem : Memory) :
    Checked (MemoryWriter × Memory) :=
  writer.put32BEAt writer.mOffset value mem

def put64BEAt (writer : MemoryWriter) (offset : Nat) (value : UInt64) (mem : Memory) :
    Checked (MemoryWriter × Memory) :=
  writer.putAt offset
    [(value >>> 56).toUInt8, (value >>> 48).toUInt8, (value >>> 40).toUInt8,
      (value >>> 32).toUInt8, (value >>> 24).toUInt8, (value >>> 16).toUInt8,
      (value >>> 8).toUInt8, value.toUInt8] mem

def put64BE (writer : MemoryWriter) (value : UInt64) (mem : Memory) :
    Checked (MemoryWriter × Memory) :=
  writer.put64BEAt writer.mOffset value mem

/-! ## What a sequence of writes appends -/

/-- The bytes fit behind the offset, in the range and in the block. -/
structure Fits (writer : MemoryWriter) (count : Nat) (mem : Memory) : Prop where
  range : writer.mOffset + count ≤ writer.mSize
  block : writer.mData + writer.mOffset + count ≤ mem.length
  size : writer.mOffset + count < 2 ^ 64

/-- A writer after `count` bytes, in the integers. -/
def past (writer : MemoryWriter) (count : Nat) : MemoryWriter :=
  { writer with mOffset := writer.mOffset + count }

theorem Fits.mono {writer : MemoryWriter} {count more : Nat} {mem : Memory}
    (fits : writer.Fits more mem) (fewer : count ≤ more) : writer.Fits count mem :=
  ⟨by have := fits.range; omega, by have := fits.block; omega, by have := fits.size; omega⟩

theorem Fits.after {writer : MemoryWriter} {first second : Nat} {mem mem' : Memory}
    (fits : writer.Fits (first + second) mem) (same : mem'.length = mem.length) :
    (writer.past first).Fits second mem' :=
  ⟨by have := fits.range; simp only [past]; omega,
    by have := fits.block; simp only [past]; omega,
    by have := fits.size; simp only [past]; omega⟩

/-- Running `fields` appends `bytes` at the offset wherever they fit. -/
def Writes (fields : MemoryWriter → Memory → Checked (MemoryWriter × Memory))
    (bytes : List UInt8) : Prop :=
  ∀ (writer : MemoryWriter) (mem : Memory), writer.Fits bytes.length mem →
    fields writer mem =
      .ok (writer.past bytes.length, overwrite mem (writer.mData + writer.mOffset) bytes)

/-- One write of a sequence: its effect, and the room left for the rest. -/
theorem Writes.step
    {fields : MemoryWriter → Memory → Checked (MemoryWriter × Memory)} {bytes : List UInt8}
    (writes : Writes fields bytes) {writer : MemoryWriter} {mem : Memory}
    {count : Nat} (address rest : Nat) (here : writer.mData + writer.mOffset = address)
    (length : bytes.length = count) (fits : writer.Fits (count + rest) mem) :
    fields writer mem = .ok (writer.past count, overwrite mem address bytes) ∧
      (writer.past count).Fits rest (overwrite mem address bytes) := by
  subst length here
  have block := fits.block
  exact ⟨writes writer mem (fits.mono (Nat.le_add_right ..)),
    fits.after (length_overwrite (by omega))⟩

theorem writes_nil : Writes (fun writer mem => return (writer, mem)) [] := by
  intro writer mem _
  simp [past, overwrite]

theorem writes_put (bytes : List UInt8) (some : 0 < bytes.length) :
    Writes (fun writer mem => writer.put bytes mem) bytes := by
  intro writer mem fits
  have strict : writer.mOffset < writer.mSize := by have := fits.range; omega
  simp only [put, putAt, sizeAdd_of_lt fits.size, if_pos fits.range, seek,
    Checked.assert_of strict, Checked.ok_bind, Checked.pure_eq_ok,
    Memory.store_of_le fits.block, advance, past]

theorem writes_put16BE (value : UInt16) :
    Writes (fun writer mem => writer.put16BE value mem) (toBytes 2 value.toNat) := by
  have bytes : toBytes 2 value.toNat = [(value >>> 8).toUInt8, value.toUInt8] := by
    rw [toBytes_two]
    simp [← UInt8.toNat_inj, Nat.shiftRight_eq_div_pow]
  rw [bytes]
  exact writes_put _ (by simp)

theorem writes_put32BE (value : UInt32) :
    Writes (fun writer mem => writer.put32BE value mem) (toBytes 4 value.toNat) := by
  have bytes : toBytes 4 value.toNat =
      [(value >>> 24).toUInt8, (value >>> 16).toUInt8, (value >>> 8).toUInt8,
        value.toUInt8] := by
    rw [toBytes_four]
    simp [← UInt8.toNat_inj, Nat.shiftRight_eq_div_pow]
  rw [bytes]
  exact writes_put _ (by simp)

theorem writes_put64BE (value : UInt64) :
    Writes (fun writer mem => writer.put64BE value mem) (toBytes 8 value.toNat) := by
  have bytes : toBytes 8 value.toNat =
      [(value >>> 56).toUInt8, (value >>> 48).toUInt8, (value >>> 40).toUInt8,
        (value >>> 32).toUInt8, (value >>> 24).toUInt8, (value >>> 16).toUInt8,
        (value >>> 8).toUInt8, value.toUInt8] := by
    rw [toBytes_eight]
    simp [← UInt8.toNat_inj, Nat.shiftRight_eq_div_pow]
  rw [bytes]
  exact writes_put _ (by simp)

/-- One program of writes after another appends the concatenation. -/
theorem Writes.andThen
    {first second : MemoryWriter → Memory → Checked (MemoryWriter × Memory)}
    {left right : List UInt8} (one : Writes first left) (two : Writes second right) :
    Writes (fun writer mem => do
      let (writer, mem) ← first writer mem
      second writer mem) (left ++ right) := by
  intro writer mem fits
  rw [List.length_append] at fits
  have block := fits.block
  have kept : (overwrite mem (writer.mData + writer.mOffset) left).length = mem.length :=
    length_overwrite (by omega)
  have later := two _ _ (fits.after kept)
  have address : (writer.past left.length).mData + (writer.past left.length).mOffset =
      writer.mData + writer.mOffset + left.length := by simp only [past]; omega
  rw [address, overwrite_append (by omega)] at later
  simp only [one writer mem (fits.mono (by omega)), Checked.ok_bind]
  rw [later, List.length_append]
  simp only [past, Nat.add_assoc]

end MemoryWriter

end UdpGame
