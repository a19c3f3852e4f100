import UdpGame.Lib.Checked
import UdpGame.Lib.ByteWindow
import Mathlib.Tactic.Ring

/-!
# Memory, spans and sizes

The machine types of `Common.h`.  A `Span<uint8_t>` is an address range of a
`Memory` block; a `Span<const uint8_t>` is only ever read, so it is the list of
the bytes it shows.  `size_t` is a natural number whose sums wrap at `2 ^ 64`.
-/

namespace UdpGame

open ByteWindow

/-- The largest `size_t`, `size_t(~0)`. -/
def sizeMax : Nat := 2 ^ 64 - 1

/-- Addition of two `size_t` values. -/
def sizeAdd (a b : Nat) : Nat := (a + b) % 2 ^ 64

/-- Subtraction of two `size_t` values. -/
def sizeSub (a b : Nat) : Nat := (a + 2 ^ 64 - b) % 2 ^ 64

theorem sizeAdd_of_lt {a b : Nat} (fits : a + b < 2 ^ 64) : sizeAdd a b = a + b :=
  Nat.mod_eq_of_lt fits

theorem sizeAdd_le (a b : Nat) : sizeAdd a b ≤ a + b := Nat.mod_le ..

/-- The four bytes of an IPv4 address in network order. -/
structure Address where
  a : UInt8
  b : UInt8
  c : UInt8
  d : UInt8
  deriving DecidableEq, Repr

def Address.bytes (address : Address) : List UInt8 :=
  [address.a, address.b, address.c, address.d]

@[simp] theorem Address.length_bytes (address : Address) : address.bytes.length = 4 := rfl

/-- One allocated block of bytes. -/
abbrev Memory : Type := List UInt8

/-- Read `length` bytes through a raw pointer. -/
def Memory.load (mem : Memory) (address length : Nat) : Checked (List UInt8) :=
  if address + length ≤ mem.length then .ok (window mem address length)
  else .error .outOfBounds

/-- `memcpy` of `bytes` through a raw pointer. -/
def Memory.store (mem : Memory) (address : Nat) (bytes : List UInt8) : Checked Memory :=
  if address + bytes.length ≤ mem.length then .ok (overwrite mem address bytes)
  else .error .outOfBounds

theorem Memory.load_of_le {mem : Memory} {address length : Nat}
    (inside : address + length ≤ mem.length) :
    mem.load address length = .ok (window mem address length) := if_pos inside

theorem Memory.load_of_lt {mem : Memory} {address length : Nat}
    (outside : mem.length < address + length) :
    mem.load address length = .error .outOfBounds := if_neg (by omega)

theorem Memory.store_of_le {mem : Memory} {address : Nat} {bytes : List UInt8}
    (inside : address + bytes.length ≤ mem.length) :
    mem.store address bytes = .ok (overwrite mem address bytes) := if_pos inside

/-! ## Spans -/

/-- `Span<uint8_t>`: a pointer into a memory block and a length. -/
structure Span where
  data : Nat
  size : Nat
  deriving DecidableEq, Repr

/-- The range the span claims lies in the block. -/
def Span.Inside (span : Span) (mem : Memory) : Prop := span.data + span.size ≤ mem.length

instance (span : Span) (mem : Memory) : Decidable (span.Inside mem) :=
  inferInstanceAs (Decidable (_ ≤ _))

/-- `Span::Subspan`; `stop` is its `end`, with the default `size_t(~0)`. -/
def Span.subspan (span : Span) (offset : Nat) (stop : Nat := sizeMax) : Checked Span := do
  Checked.assert (offset ≤ span.size)
  if stop ≠ sizeMax then
    Checked.assert (stop ≤ span.size)
    Checked.assert (offset ≤ stop)
    return ⟨span.data + offset, stop - offset⟩
  else
    return ⟨span.data + offset, span.size - offset⟩

/-- `Subspan` on the bytes a `Span<const uint8_t>` shows. -/
def subspan (bytes : List UInt8) (offset : Nat) (stop : Nat := sizeMax) :
    Checked (List UInt8) := do
  Checked.assert (offset ≤ bytes.length)
  if stop ≠ sizeMax then
    Checked.assert (stop ≤ bytes.length)
    Checked.assert (offset ≤ stop)
    return window bytes offset (stop - offset)
  else
    return bytes.drop offset

theorem Span.subspan_to_end {span : Span} {offset : Nat} (inside : offset ≤ span.size) :
    span.subspan offset = .ok ⟨span.data + offset, span.size - offset⟩ := by
  simp [Span.subspan, Checked.assert_of inside]

theorem Span.subspan_of_le {span : Span} {offset stop : Nat} (small : stop < sizeMax)
    (inside : stop ≤ span.size) (ordered : offset ≤ stop) :
    span.subspan offset stop = .ok ⟨span.data + offset, stop - offset⟩ := by
  have given : stop ≠ sizeMax := by omega
  simp [Span.subspan, Checked.assert_of inside, Checked.assert_of ordered,
    Checked.assert_of (Nat.le_trans ordered inside), given]

theorem subspan_to_end {bytes : List UInt8} {offset : Nat} (inside : offset ≤ bytes.length) :
    subspan bytes offset = .ok (bytes.drop offset) := by
  simp [subspan, Checked.assert_of inside]

theorem subspan_of_le {bytes : List UInt8} {offset stop : Nat} (small : stop < sizeMax)
    (inside : stop ≤ bytes.length) (ordered : offset ≤ stop) :
    subspan bytes offset stop = .ok (window bytes offset (stop - offset)) := by
  have given : stop ≠ sizeMax := by omega
  simp [subspan, Checked.assert_of inside, Checked.assert_of ordered,
    Checked.assert_of (Nat.le_trans ordered inside), given]

end UdpGame
