import UdpGame.MemoryReader
import UdpGame.MemoryWriter

/-!
# Writing and reading a sequence of fields

`Reads` is the mirror image of `Writes`: a program of reads takes a known
stretch of bytes for a known value.  Both compose, so a sequence of fields
written from the start of a buffer is read back field by field, each offset
being the size of the fields so far.
-/

namespace UdpGame

open ByteWindow BigEndian

/-! ## Reading back one value -/

theorem be16_toBytes (value : UInt16) : be16 (toBytes 2 value.toNat) = value := by
  rw [be16, ofBytes_toBytes_of_lt value.toNat_lt, UInt16.ofNat_toNat]

theorem be32_toBytes (value : UInt32) : be32 (toBytes 4 value.toNat) = value := by
  rw [be32, ofBytes_toBytes_of_lt value.toNat_lt, UInt32.ofNat_toNat]

theorem be64_toBytes (value : UInt64) : be64 (toBytes 8 value.toNat) = value := by
  rw [be64, ofBytes_toBytes_of_lt value.toNat_lt, UInt64.ofNat_toNat]

namespace MemoryReader

/-- Running `fields` where the buffer shows `bytes` yields `value` and moves past them. -/
def Reads {α : Type} (fields : MemoryReader → Checked (α × MemoryReader)) (bytes : List UInt8)
    (value : α) : Prop :=
  ∀ (all : List UInt8) (offset : Nat), window all offset bytes.length = bytes →
    offset + bytes.length ≤ all.length → offset + bytes.length < 2 ^ 64 →
      fields ⟨all, offset⟩ = .ok (value, ⟨all, offset + bytes.length⟩)

theorem reads_read16BE (value : UInt16) : Reads read16BE (toBytes 2 value.toNat) value := by
  intro all offset shown inside fits
  rw [length_toBytes] at shown inside fits ⊢
  rw [read16BE_of_le all offset inside fits, shown, be16_toBytes]

theorem reads_read32BE (value : UInt32) : Reads read32BE (toBytes 4 value.toNat) value := by
  intro all offset shown inside fits
  rw [length_toBytes] at shown inside fits ⊢
  rw [read32BE_of_le all offset inside fits, shown, be32_toBytes]

theorem reads_read64BE (value : UInt64) : Reads read64BE (toBytes 8 value.toNat) value := by
  intro all offset shown inside fits
  rw [length_toBytes] at shown inside fits ⊢
  rw [read64BE_of_le all offset inside fits, shown, be64_toBytes]

theorem reads_read (byte : UInt8) : Reads read [byte] byte := by
  intro all offset shown inside fits
  have strict : offset < all.length := inside
  have head : all[offset] = byte := by
    rw [List.length_singleton, window_succ strict, window_zero] at shown
    exact List.head_eq_of_cons_eq shown
  rw [read_of_lt all offset strict fits, ← List.getElem_eq_getD (h := strict), head]
  rfl

/-- One program of reads after another takes the concatenation. -/
theorem Reads.andThen {α β γ : Type} {first : MemoryReader → Checked (α × MemoryReader)}
    {second : MemoryReader → Checked (β × MemoryReader)} {left right : List UInt8} {a : α} {b : β}
    (one : Reads first left a) (two : Reads second right b) (join : α → β → γ) :
    Reads (fun reader => do
      let (a, reader) ← first reader
      let (b, reader) ← second reader
      return (join a b, reader)) (left ++ right) (join a b) := by
  intro all offset shown inside fits
  rw [List.length_append] at shown inside fits ⊢
  rw [← window_append_window] at shown
  have aligned : (window all offset left.length).length = left.length :=
    length_window (by omega)
  obtain ⟨head, tail⟩ := List.append_inj shown aligned
  have front := one all offset head (by omega) (by omega)
  have back := two all (offset + left.length) tail (by omega) (by omega)
  simp only [front, back, Checked.ok_bind, Checked.pure_eq_ok, Nat.add_assoc]

theorem Reads.map {α β : Type} {fields : MemoryReader → Checked (α × MemoryReader)}
    {bytes : List UInt8} {a : α} (reads : Reads fields bytes a) (wrap : α → β) :
    Reads (fun reader => do
      let (a, reader) ← fields reader
      return (wrap a, reader)) bytes (wrap a) := by
  intro all offset shown inside fits
  simp only [reads all offset shown inside fits, Checked.ok_bind, Checked.pure_eq_ok]

theorem reads_nil {α : Type} (a : α) : Reads (fun reader => return (a, reader)) [] a :=
  fun _ _ _ _ _ => rfl

/-- `Read` once for each byte of an array. -/
def readBytes : Nat → MemoryReader → Checked (List UInt8 × MemoryReader)
  | 0, reader => return ([], reader)
  | count + 1, reader => do
      let (byte, reader) ← reader.read
      let (bytes, reader) ← readBytes count reader
      return (byte :: bytes, reader)

/-- The bytes the span of a `ReadSpan` shows. -/
def readShown (length : Nat) (reader : MemoryReader) : Checked (List UInt8 × MemoryReader) := do
  let (span, after) ← reader.readSpan length
  match span with
  | none => return ([], after)
  | some span => return (window reader.mData span.data span.size, after)

theorem reads_readBytes (data : List UInt8) : Reads (readBytes data.length) data data := by
  induction data with
  | nil => exact reads_nil []
  | cons byte rest ih => exact (reads_read byte).andThen ih List.cons

theorem reads_readShown {data : List UInt8} (some : data ≠ []) :
    Reads (readShown data.length) data data := by
  intro all offset shown inside fits
  have nonzero : 0 < data.length := List.length_pos_iff.mpr some
  have strict : offset < all.length := by omega
  simp only [readShown, readSpan_of_le all offset strict inside fits, Checked.ok_bind,
    Checked.pure_eq_ok, shown]

end MemoryReader

/-! ## Fields -/

/-- A field of a message.  An array is read back byte by byte (`bytes`) or as a span. -/
inductive Field where
  | bytes (data : List UInt8) (some : data ≠ [])
  | span (data : List UInt8) (some : data ≠ [])
  | u16 (value : UInt16)
  | u32 (value : UInt32)
  | u64 (value : UInt64)
  deriving DecidableEq, Repr

/-- What a reader has to know of a field to read it. -/
inductive FieldKind where
  | bytes (count : Nat)
  | span (length : Nat)
  | u16
  | u32
  | u64
  deriving DecidableEq, Repr

inductive FieldValue where
  | array (data : List UInt8)
  | u16 (value : UInt16)
  | u32 (value : UInt32)
  | u64 (value : UInt64)
  deriving DecidableEq, Repr

namespace Field

def kind : Field → FieldKind
  | bytes data _ => .bytes data.length
  | span data _ => .span data.length
  | u16 _ => .u16
  | u32 _ => .u32
  | u64 _ => .u64

def value : Field → FieldValue
  | bytes data _ | span data _ => .array data
  | u16 value => .u16 value
  | u32 value => .u32 value
  | u64 value => .u64 value

def size : Field → Nat
  | bytes data _ | span data _ => data.length
  | u16 _ => 2
  | u32 _ => 4
  | u64 _ => 8

def write (field : Field) (writer : MemoryWriter) (mem : Memory) :
    Checked (MemoryWriter × Memory) :=
  match field with
  | bytes data _ | span data _ => writer.put data mem
  | u16 value => writer.put16BE value mem
  | u32 value => writer.put32BE value mem
  | u64 value => writer.put64BE value mem

/-- The bytes the field is written as. -/
def encoded : Field → List UInt8
  | bytes data _ | span data _ => data
  | u16 value => toBytes 2 value.toNat
  | u32 value => toBytes 4 value.toNat
  | u64 value => toBytes 8 value.toNat

@[simp] theorem length_encoded (field : Field) : field.encoded.length = field.size := by
  cases field with
  | bytes data some | span data some => rfl
  | _ => exact length_toBytes ..

end Field

/-- Read a field of a kind. -/
def FieldKind.read (kind : FieldKind) (reader : MemoryReader) :
    Checked (FieldValue × MemoryReader) :=
  match kind with
  | bytes count => do
      let (data, reader) ← reader.readBytes count
      return (.array data, reader)
  | span length => do
      let (data, reader) ← reader.readShown length
      return (.array data, reader)
  | u16 => do
      let (value, reader) ← reader.read16BE
      return (.u16 value, reader)
  | u32 => do
      let (value, reader) ← reader.read32BE
      return (.u32 value, reader)
  | u64 => do
      let (value, reader) ← reader.read64BE
      return (.u64 value, reader)

namespace Field

theorem writes (field : Field) : MemoryWriter.Writes field.write field.encoded := by
  cases field with
  | bytes data some | span data some =>
      exact MemoryWriter.writes_put data (List.length_pos_iff.mpr some)
  | u16 value => exact MemoryWriter.writes_put16BE value
  | u32 value => exact MemoryWriter.writes_put32BE value
  | u64 value => exact MemoryWriter.writes_put64BE value

theorem reads (field : Field) : MemoryReader.Reads field.kind.read field.encoded field.value := by
  cases field with
  | bytes data some => exact (MemoryReader.reads_readBytes data).map FieldValue.array
  | span data some => exact (MemoryReader.reads_readShown some).map FieldValue.array
  | u16 value => exact (MemoryReader.reads_read16BE value).map FieldValue.u16
  | u32 value => exact (MemoryReader.reads_read32BE value).map FieldValue.u32
  | u64 value => exact (MemoryReader.reads_read64BE value).map FieldValue.u64

/-- A field that does not fit behind the offset is not written. -/
theorem write_of_lt (field : Field) {writer : MemoryWriter} {mem : Memory}
    (inside : writer.mOffset ≤ writer.mSize)
    (addressable : writer.mSize + field.size < 2 ^ 64)
    (short : writer.mSize - writer.mOffset < field.size) :
    field.write writer mem = .ok (writer, mem) := by
  have dropped : ∀ data : List UInt8, data.length = field.size →
      writer.put data mem = .ok (writer, mem) := by
    intro data length
    have past : ¬ writer.mOffset + data.length ≤ writer.mSize := by omega
    rw [MemoryWriter.put, MemoryWriter.putAt, sizeAdd_of_lt (by omega), if_neg past]
    rfl
  cases field with
  | bytes data some | span data some => exact dropped data rfl
  | u16 value | u32 value | u64 value => exact dropped _ rfl

end Field

/-! ## Sequences -/

def writeAll : List Field → MemoryWriter → Memory → Checked (MemoryWriter × Memory)
  | [], writer, mem => return (writer, mem)
  | field :: fields, writer, mem => do
      let (writer, mem) ← field.write writer mem
      writeAll fields writer mem

def readAll : List FieldKind → MemoryReader → Checked (List FieldValue × MemoryReader)
  | [], reader => return ([], reader)
  | kind :: kinds, reader => do
      let (value, reader) ← kind.read reader
      let (values, reader) ← readAll kinds reader
      return (value :: values, reader)

def totalSize (fields : List Field) : Nat := (fields.map Field.size).sum

def encodedAll (fields : List Field) : List UInt8 := fields.flatMap Field.encoded

theorem length_encodedAll (fields : List Field) :
    (encodedAll fields).length = totalSize fields := by
  simp only [encodedAll, totalSize, List.length_flatMap, Field.length_encoded]

theorem writes_writeAll (fields : List Field) :
    MemoryWriter.Writes (writeAll fields) (encodedAll fields) := by
  induction fields with
  | nil => exact MemoryWriter.writes_nil
  | cons field rest ih => exact field.writes.andThen ih

theorem reads_readAll (fields : List Field) :
    MemoryReader.Reads (readAll (fields.map Field.kind)) (encodedAll fields)
      (fields.map Field.value) := by
  induction fields with
  | nil => exact MemoryReader.reads_nil []
  | cons field rest ih => exact field.reads.andThen ih List.cons

theorem encodedAll_append (front back : List Field) :
    encodedAll (front ++ back) = encodedAll front ++ encodedAll back := List.flatMap_append

theorem totalSize_append (front back : List Field) :
    totalSize (front ++ back) = totalSize front + totalSize back := by
  simp only [totalSize, List.map_append, List.sum_append]

/-- Written from the start of the buffer, any first fields of the sequence bring
the writer to their size, and read back from it they are the values written. -/
structure FieldRoundTrip (fields : List Field) (buffer : Span) (mem mem' : Memory) : Prop where
  written : writeAll fields (.over buffer) mem =
    .ok ({ MemoryWriter.over buffer with mOffset := totalSize fields }, mem')
  offsets : ∀ front, front <+: fields → ∃ between,
    writeAll front (.over buffer) mem =
      .ok ({ MemoryWriter.over buffer with mOffset := totalSize front }, between)
  read : ∀ front, front <+: fields →
    readAll (front.map Field.kind) ⟨window mem' buffer.data buffer.size, 0⟩ =
      .ok (front.map Field.value, ⟨window mem' buffer.data buffer.size, totalSize front⟩)
  length : mem'.length = mem.length
  past : mem'.drop (buffer.data + totalSize fields) = mem.drop (buffer.data + totalSize fields)

theorem writeAll_over {fields : List Field} {buffer : Span} {mem : Memory}
    (inside : buffer.Inside mem) (small : buffer.size < 2 ^ 64)
    (room : totalSize fields ≤ buffer.size) :
    writeAll fields (.over buffer) mem =
      .ok ({ MemoryWriter.over buffer with mOffset := totalSize fields },
        overwrite mem buffer.data (encodedAll fields)) := by
  unfold Span.Inside at inside
  have fits : (MemoryWriter.over buffer).Fits (encodedAll fields).length mem := by
    rw [length_encodedAll]
    exact ⟨by simp only [MemoryWriter.over]; omega, by simp only [MemoryWriter.over]; omega,
      by simp only [MemoryWriter.over]; omega⟩
  rw [writes_writeAll fields _ mem fits, length_encodedAll]
  simp only [MemoryWriter.past, MemoryWriter.over, Nat.zero_add, Nat.add_zero]

theorem fieldRoundTrip_of_fits {fields : List Field} {buffer : Span} {mem : Memory}
    (inside : buffer.Inside mem) (small : buffer.size < 2 ^ 64)
    (room : totalSize fields ≤ buffer.size) :
    FieldRoundTrip fields buffer mem (overwrite mem buffer.data (encodedAll fields)) := by
  have block : buffer.data + (encodedAll fields).length ≤ mem.length := by
    unfold Span.Inside at inside
    rw [length_encodedAll]
    omega
  have kept := length_overwrite block
  refine ⟨writeAll_over inside small room, ?_, ?_, kept, ?_⟩
  · intro front first
    rcases first with ⟨back, rfl⟩
    rw [totalSize_append] at room
    exact ⟨_, writeAll_over inside small (by omega)⟩
  · intro front first
    rcases first with ⟨back, rfl⟩
    rw [totalSize_append] at room
    have length := length_encodedAll front
    have shown : window (window (overwrite mem buffer.data (encodedAll (front ++ back)))
        buffer.data buffer.size) 0 (encodedAll front).length = encodedAll front := by
      rw [window_window _ _ (by omega), Nat.add_zero, encodedAll_append]
      exact window_overwrite_append (by omega)
    have reads := reads_readAll front _ 0 shown
      (by rw [length_window (by rw [kept]; exact inside)]; omega) (by omega)
    rw [reads, length, Nat.zero_add]
  · rw [drop_overwrite block (by rw [length_encodedAll])]

/-- A sequence of fields that fits a buffer survives it, and a field that does
not fit what is left of it leaves it alone.  The buffer and the array a field is
put from lie in one address space, so their sizes add up without a wrap. -/
theorem fields_roundTrip (buffer : Span) (mem : Memory) (inside : buffer.Inside mem)
    (small : buffer.size < 2 ^ 64) :
    (∀ fields : List Field, totalSize fields ≤ buffer.size →
      ∃ mem', FieldRoundTrip fields buffer mem mem') ∧
    (∀ (field : Field) (offset : Nat), offset ≤ buffer.size →
      buffer.size + field.size < 2 ^ 64 → buffer.size - offset < field.size →
      field.write { MemoryWriter.over buffer with mOffset := offset } mem =
        .ok ({ MemoryWriter.over buffer with mOffset := offset }, mem)) :=
  ⟨fun _ room => ⟨_, fieldRoundTrip_of_fits inside small room⟩,
    fun field _ reached addressable short => field.write_of_lt reached addressable short⟩

theorem fields_roundTrip_of_six_bytes :
    Span.Inside ⟨1, 6⟩ [0, 0, 0, 0, 0, 0, 0, 0] ∧
      (∃ mem', FieldRoundTrip [.bytes [7, 8, 9] (by decide), .u16 258] ⟨1, 6⟩
        [0, 0, 0, 0, 0, 0, 0, 0] mem') ∧
      Field.write (.u64 1) { MemoryWriter.over ⟨1, 6⟩ with mOffset := 5 }
          [0, 0, 0, 0, 0, 0, 0, 0] =
        .ok ({ MemoryWriter.over ⟨1, 6⟩ with mOffset := 5 }, [0, 0, 0, 0, 0, 0, 0, 0]) :=
  have inside : Span.Inside ⟨1, 6⟩ [0, 0, 0, 0, 0, 0, 0, 0] := by decide
  have law := fields_roundTrip ⟨1, 6⟩ [0, 0, 0, 0, 0, 0, 0, 0] inside (by decide)
  ⟨inside, law.1 _ (by decide), law.2 (.u64 1) 5 (by decide) (by decide) (by decide)⟩

end UdpGame
