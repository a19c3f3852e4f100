import UdpGame.MemoryReader

/-!
# The bounds of `MemoryReader`

Each read carries a bound test of its own in front of the assertion of `seek`.
`Meets` is what a read is for: the value of the requested bytes where they lie
in the buffer, and nothing at all where they do not.  A read does it on exactly
the calls its test judges right (`guarded_iff`), and `ReadCall.Regular` lists
these, overload by overload.
-/

namespace UdpGame

open ByteWindow

namespace MemoryReader

/-- The result of a read of `count` bytes at `offset`: their value, with the
reader just past them, or `zero` and the reader as it was. -/
def Meets {α : Type} (result : Checked (α × MemoryReader)) (reader : MemoryReader)
    (offset count : Nat) (value zero : α) : Prop :=
  result =
    if offset + count ≤ reader.mSize then .ok (value, { reader with mOffset := offset + count })
    else .ok (zero, reader)

/-- A sum of two sizes that wraps to a value a bound test lets through. -/
def WrapsInto (size offset count : Nat) : Prop :=
  2 ^ 64 ≤ offset + count ∧ offset + count - 2 ^ 64 ≤ size

theorem sizeAdd_le_iff {offset count size : Nat} (small : offset < 2 ^ 64)
    (short : count < 2 ^ 64) (room : size < 2 ^ 64) :
    sizeAdd offset count ≤ size ↔ offset + count ≤ size ∨ WrapsInto size offset count := by
  unfold sizeAdd WrapsInto
  omega

section Guarded

variable {α : Type} {bytes : List UInt8} {start offset test count : Nat} {value zero : α}
  {body : MemoryReader → Checked (α × MemoryReader)}

/-- A read behind a bound test and a `seek` is right exactly when the test lets
only those calls through whose bytes lie in the buffer, the first one included. -/
theorem guarded_iff (admits : offset + count ≤ bytes.length → test ≤ bytes.length)
    (here : offset + count ≤ bytes.length → offset < bytes.length →
      body ⟨bytes, offset⟩ = .ok (value, ⟨bytes, offset + count⟩))
    (beyond : bytes.length < offset + count → test ≤ bytes.length → offset < bytes.length →
      body ⟨bytes, offset⟩ ≠ .ok (zero, ⟨bytes, start⟩)) :
    Meets
        (if test ≤ mSize ⟨bytes, start⟩ then do
          let reader ← seek ⟨bytes, start⟩ offset
          body reader
        else return (zero, ⟨bytes, start⟩))
        ⟨bytes, start⟩ offset count value zero ↔
      (test ≤ bytes.length → offset + count ≤ bytes.length ∧ offset < bytes.length) := by
  unfold Meets mSize
  by_cases passed : test ≤ bytes.length
  · rw [if_pos passed]
    by_cases inside : offset < bytes.length
    · rw [seek_of_lt inside, Checked.ok_bind]
      by_cases room : offset + count ≤ bytes.length
      · rw [if_pos room, here room inside]
        exact ⟨fun _ _ => ⟨room, inside⟩, fun _ => rfl⟩
      · rw [if_neg room]
        exact ⟨fun same => absurd same (beyond (by omega) passed inside),
          fun right => absurd (right passed).1 room⟩
    · rw [seek_of_le (by omega), Checked.error_bind]
      apply iff_of_false
      · split <;> simp
      · exact fun right => inside (right passed).2
  · have short : ¬ offset + count ≤ bytes.length := fun room => passed (admits room)
    rw [if_neg passed, if_neg short]
    exact ⟨fun _ right => absurd right passed, fun _ => rfl⟩

/-- A read that tests for the bytes it takes fails only where the test wraps. -/
theorem guarded_width_iff (small : bytes.length < 2 ^ 64 - 8) (word : offset < 2 ^ 64)
    (nonzero : 0 < count) (narrow : count ≤ 8)
    (here : offset + count ≤ bytes.length →
      body ⟨bytes, offset⟩ = .ok (value, ⟨bytes, offset + count⟩)) :
    Meets
        (if sizeAdd offset count ≤ mSize ⟨bytes, start⟩ then do
          let reader ← seek ⟨bytes, start⟩ offset
          body reader
        else return (zero, ⟨bytes, start⟩))
        ⟨bytes, start⟩ offset count value zero ↔
      ¬ WrapsInto bytes.length offset count := by
  have test := sizeAdd_le_iff word (by omega : count < 2 ^ 64) (by omega : bytes.length < 2 ^ 64)
  refine Iff.trans (guarded_iff ?_ ?_ ?_) ?_
  · exact fun room => test.mpr (.inl room)
  · exact fun room _ => here room
  · unfold WrapsInto at test
    omega
  · rw [test]
    unfold WrapsInto
    omega

/-- A read at `mOffset` cannot wrap its test. -/
theorem meets_inPlace {result : Checked (α × MemoryReader)} (small : bytes.length < 2 ^ 64 - 8)
    (inside : start ≤ bytes.length) (narrow : count ≤ 8)
    (here : start + count ≤ bytes.length → result = .ok (value, ⟨bytes, start + count⟩)) :
    Meets
      (if sizeAdd start count ≤ mSize ⟨bytes, start⟩ then result
        else return (zero, ⟨bytes, start⟩))
      ⟨bytes, start⟩ start count value zero := by
  unfold Meets mSize
  rw [sizeAdd_of_lt (by omega)]
  by_cases room : start + count ≤ bytes.length
  · rw [if_pos room, if_pos room, here room]
  · rw [if_neg room, if_neg room]
    rfl

end Guarded

/-! ## The reads one by one -/

section Reads

variable (bytes : List UInt8) (start : Nat) {offset : Nat}

theorem meets_readAt_iff (small : bytes.length < 2 ^ 64 - 8) :
    Meets (readAt ⟨bytes, start⟩ offset) ⟨bytes, start⟩ offset 1 (bytes.getD offset 0) 0 ↔
      offset ≠ bytes.length := by
  refine Iff.trans (guarded_iff (by omega) ?_ (by omega)) (by omega)
  intro _ inside
  have shown : bytes[offset] = bytes.getD offset 0 := List.getElem_eq_getD 0
  simp only [byteAt_of_lt inside, Checked.ok_bind, Checked.pure_eq_ok,
    advance_of_lt bytes offset (by omega : offset + 1 < 2 ^ 64), shown]

theorem meets_read16BE (small : bytes.length < 2 ^ 64 - 8) (inside : start ≤ bytes.length) :
    Meets (read16BE ⟨bytes, start⟩) ⟨bytes, start⟩ start 2 (be16 (window bytes start 2)) 0 :=
  meets_inPlace small inside (by omega) fun room => load16_of_le bytes start room (by omega)

theorem meets_read16BEAt_iff (small : bytes.length < 2 ^ 64 - 8) (word : offset < 2 ^ 64) :
    Meets (read16BEAt ⟨bytes, start⟩ offset) ⟨bytes, start⟩ offset 2
        (be16 (window bytes offset 2)) 0 ↔
      ¬ WrapsInto bytes.length offset 2 :=
  guarded_width_iff small word (by omega) (by omega) fun room =>
    load16_of_le bytes offset room (by omega)

theorem meets_read32BE (small : bytes.length < 2 ^ 64 - 8) (inside : start ≤ bytes.length) :
    Meets (read32BE ⟨bytes, start⟩) ⟨bytes, start⟩ start 4 (be32 (window bytes start 4)) 0 :=
  meets_inPlace small inside (by omega) fun room => load32_of_le bytes start room (by omega)

theorem meets_read32BEAt_iff (small : bytes.length < 2 ^ 64 - 8) (word : offset < 2 ^ 64) :
    Meets (read32BEAt ⟨bytes, start⟩ offset) ⟨bytes, start⟩ offset 4
        (be32 (window bytes offset 4)) 0 ↔
      ¬ WrapsInto bytes.length offset 4 :=
  guarded_width_iff small word (by omega) (by omega) fun room =>
    load32_of_le bytes offset room (by omega)

theorem meets_read64BE (small : bytes.length < 2 ^ 64 - 8) (inside : start ≤ bytes.length) :
    Meets (read64BE ⟨bytes, start⟩) ⟨bytes, start⟩ start 8 (be64 (window bytes start 8)) 0 :=
  meets_inPlace small inside (by omega) fun room => load64_of_le bytes start room (by omega)

/-- A load that returns read its last byte inside the buffer. -/
theorem le_of_load64 {result : UInt64 × MemoryReader}
    (loaded : load64 ⟨bytes, offset⟩ = .ok result) : offset + 8 ≤ bytes.length := by
  unfold load64 at loaded
  simp only [Checked.bind_eq_ok] at loaded
  obtain ⟨_, _, _, _, _, _, _, _, _, _, _, _, _, _, last, reached, _⟩ := loaded
  by_contra short
  have missing : bytes[offset + 7]? = none := List.getElem?_eq_none (by omega)
  simp only [byteAt, missing] at reached
  cases reached

theorem meets_read64BEAt_iff (small : bytes.length < 2 ^ 64 - 8) (word : offset < 2 ^ 64) :
    Meets (read64BEAt ⟨bytes, start⟩ offset) ⟨bytes, start⟩ offset 8
        (be64 (window bytes offset 8)) 0 ↔
      ¬ WrapsInto bytes.length offset 4 ∧
        ¬ (offset + 4 ≤ bytes.length ∧ bytes.length < offset + 8) := by
  have test := sizeAdd_le_iff word (by omega : 4 < 2 ^ 64) (by omega : bytes.length < 2 ^ 64)
  refine Iff.trans (guarded_iff ?_ ?_ ?_) ?_
  · exact fun room => test.mpr (.inl (by omega))
  · exact fun room _ => load64_of_le bytes offset room (by omega)
  · intro short _ _ loaded
    have reached := le_of_load64 bytes loaded
    omega
  · rw [test]
    unfold WrapsInto
    omega

theorem meets_readSpanAt_iff {length : Nat} (small : bytes.length < 2 ^ 64 - 8)
    (word : offset < 2 ^ 64) (short : length < 2 ^ 64) :
    Meets (readSpanAt ⟨bytes, start⟩ offset length) ⟨bytes, start⟩ offset length
        (some ⟨offset, length⟩) none ↔
      ¬ WrapsInto bytes.length offset length ∧ ¬ (length = 0 ∧ offset = bytes.length) := by
  have test := sizeAdd_le_iff word short (by omega : bytes.length < 2 ^ 64)
  refine Iff.trans (guarded_iff ?_ ?_ ?_) ?_
  · exact fun room => test.mpr (.inl room)
  · intro room _
    rw [advance_of_lt bytes offset (by omega)]
    rfl
  · intro _ _ _ same
    cases same
  · rw [test]
    unfold WrapsInto
    omega

end Reads

/-! ## Any read -/

/-- A call of a read; without an offset it is the overload that reads at `mOffset`. -/
inductive ReadCall where
  | read (offset : Option UInt64)
  | read16BE (offset : Option UInt64)
  | read32BE (offset : Option UInt64)
  | read64BE (offset : Option UInt64)
  | readSpan (offset : Option UInt64) (length : UInt64)
  deriving DecidableEq, Repr

inductive ReadValue where
  | byte (value : UInt8)
  | half (value : UInt16)
  | word (value : UInt32)
  | long (value : UInt64)
  | span (value : Option Span)
  deriving DecidableEq, Repr

/-- The result of a read under a name for its type. -/
def returning {α : Type} (wrap : α → ReadValue) (result : Checked (α × MemoryReader)) :
    Checked (ReadValue × MemoryReader) := do
  let (value, reader) ← result
  return (wrap value, reader)

theorem meets_returning {α : Type} {wrap : α → ReadValue} (faithful : Function.Injective wrap)
    {result : Checked (α × MemoryReader)} {reader : MemoryReader} {offset count : Nat}
    {value zero : α} :
    Meets (returning wrap result) reader offset count (wrap value) (wrap zero) ↔
      Meets result reader offset count value zero := by
  unfold Meets returning
  cases result with
  | error fault => split <;> simp
  | ok pair =>
      rcases pair with ⟨got, after⟩
      split <;> simp [faithful.eq_iff]

namespace ReadCall

def run (reader : MemoryReader) : ReadCall → Checked (ReadValue × MemoryReader)
  | .read none => returning .byte reader.read
  | .read (some offset) => returning .byte (reader.readAt offset.toNat)
  | .read16BE none => returning .half reader.read16BE
  | .read16BE (some offset) => returning .half (reader.read16BEAt offset.toNat)
  | .read32BE none => returning .word reader.read32BE
  | .read32BE (some offset) => returning .word (reader.read32BEAt offset.toNat)
  | .read64BE none => returning .long reader.read64BE
  | .read64BE (some offset) => returning .long (reader.read64BEAt offset.toNat)
  | .readSpan none length => returning .span (reader.readSpan length.toNat)
  | .readSpan (some offset) length => returning .span (reader.readSpanAt offset.toNat length.toNat)

def offset : ReadCall → Option UInt64
  | .read offset | .read16BE offset | .read32BE offset | .read64BE offset
  | .readSpan offset _ => offset

/-- Where the call reads. -/
def start (reader : MemoryReader) (call : ReadCall) : Nat :=
  match call.offset with
  | none => reader.mOffset
  | some offset => offset.toNat

/-- How many bytes the call asks for. -/
def count : ReadCall → Nat
  | .read _ => 1
  | .read16BE _ => 2
  | .read32BE _ => 4
  | .read64BE _ => 8
  | .readSpan _ length => length.toNat

/-- What the bytes from `offset` on are read as. -/
def value (bytes : List UInt8) (offset : Nat) : ReadCall → ReadValue
  | .read _ => .byte (bytes.getD offset 0)
  | .read16BE _ => .half (be16 (window bytes offset 2))
  | .read32BE _ => .word (be32 (window bytes offset 4))
  | .read64BE _ => .long (be64 (window bytes offset 8))
  | .readSpan _ length => .span (some ⟨offset, length.toNat⟩)

def nothing : ReadCall → ReadValue
  | .read _ => .byte 0
  | .read16BE _ => .half 0
  | .read32BE _ => .word 0
  | .read64BE _ => .long 0
  | .readSpan _ _ => .span none

/-- The overload without an offset. -/
def inPlace : ReadCall → ReadCall
  | .read _ => .read none
  | .read16BE _ => .read16BE none
  | .read32BE _ => .read32BE none
  | .read64BE _ => .read64BE none
  | .readSpan _ length => .readSpan none length

/-- The call is safe and says what it should, and an explicit offset that is the
current one makes no difference. -/
structure Sound (reader : MemoryReader) (call : ReadCall) : Prop where
  meets : Meets (call.run reader) reader (call.start reader) call.count
    (call.value reader.mData (call.start reader)) call.nothing
  overload : call.start reader = reader.mOffset → call.run reader = call.inPlace.run reader

/-- The calls whose bound test agrees with the buffer. -/
def Regular (reader : MemoryReader) : ReadCall → Prop
  | .read offset => start reader (.read offset) ≠ reader.mSize
  | .read16BE none | .read32BE none | .read64BE none => True
  | .read16BE (some offset) => ¬ WrapsInto reader.mSize offset.toNat 2
  | .read32BE (some offset) => ¬ WrapsInto reader.mSize offset.toNat 4
  | .read64BE (some offset) =>
      ¬ WrapsInto reader.mSize offset.toNat 4 ∧
        ¬ (offset.toNat + 4 ≤ reader.mSize ∧ reader.mSize < offset.toNat + 8)
  | .readSpan offset length =>
      ¬ WrapsInto reader.mSize (start reader (.readSpan offset length)) length.toNat ∧
        ¬ (length.toNat = 0 ∧ start reader (.readSpan offset length) = reader.mSize)

variable {reader : MemoryReader}

theorem meets_iff (small : reader.mSize < 2 ^ 64 - 8) (inside : reader.mOffset ≤ reader.mSize)
    (call : ReadCall) :
    Meets (call.run reader) reader (call.start reader) call.count
        (call.value reader.mData (call.start reader)) call.nothing ↔
      call.Regular reader := by
  rcases reader with ⟨bytes, mOffset⟩
  have byte : Function.Injective ReadValue.byte := fun _ _ same => ReadValue.byte.inj same
  have half : Function.Injective ReadValue.half := fun _ _ same => ReadValue.half.inj same
  have word : Function.Injective ReadValue.word := fun _ _ same => ReadValue.word.inj same
  have long : Function.Injective ReadValue.long := fun _ _ same => ReadValue.long.inj same
  have span : Function.Injective ReadValue.span := fun _ _ same => ReadValue.span.inj same
  have room : mOffset < 2 ^ 64 := by
    simp only [mSize] at small inside
    omega
  cases call with
  | read offset =>
      cases offset <;> exact (meets_returning byte).trans (meets_readAt_iff bytes _ small)
  | read16BE offset =>
      cases offset with
      | none =>
          have placed := meets_read16BE bytes mOffset small inside
          exact iff_of_true ((meets_returning half).mpr placed) trivial
      | some offset =>
          exact (meets_returning half).trans (meets_read16BEAt_iff bytes _ small offset.toNat_lt)
  | read32BE offset =>
      cases offset with
      | none =>
          have placed := meets_read32BE bytes mOffset small inside
          exact iff_of_true ((meets_returning word).mpr placed) trivial
      | some offset =>
          exact (meets_returning word).trans (meets_read32BEAt_iff bytes _ small offset.toNat_lt)
  | read64BE offset =>
      cases offset with
      | none =>
          have placed := meets_read64BE bytes mOffset small inside
          exact iff_of_true ((meets_returning long).mpr placed) trivial
      | some offset =>
          exact (meets_returning long).trans (meets_read64BEAt_iff bytes _ small offset.toNat_lt)
  | readSpan offset length =>
      cases offset with
      | none =>
          exact (meets_returning span).trans
            (meets_readSpanAt_iff bytes _ small room length.toNat_lt)
      | some offset =>
          exact (meets_returning span).trans
            (meets_readSpanAt_iff bytes _ small offset.toNat_lt length.toNat_lt)

theorem Regular.inPlace {call : ReadCall} (regular : call.Regular reader)
    (here : call.start reader = reader.mOffset) : call.inPlace.Regular reader := by
  cases call with
  | read offset =>
      intro atEnd
      exact regular (here.trans atEnd)
  | readSpan offset length =>
      simp only [Regular, here] at regular
      exact regular
  | _ => trivial

/-- A read is sound on its regular calls and on no others. -/
theorem sound_iff (reader : MemoryReader) (call : ReadCall)
    (small : reader.mSize < 2 ^ 64 - 8) (inside : reader.mOffset ≤ reader.mSize) :
    call.Sound reader ↔ call.Regular reader := by
  refine ⟨fun sound => (meets_iff small inside call).mp sound.meets, fun regular => ?_⟩
  have meets := (meets_iff small inside call).mpr regular
  refine ⟨meets, fun here => ?_⟩
  have placed := (meets_iff small inside call.inPlace).mpr (regular.inPlace here)
  have same : call.inPlace.start reader = call.start reader := by
    rw [here]
    cases call <;> rfl
  rw [same] at placed
  unfold Meets at meets placed
  rw [meets, placed]
  cases call <;> rfl

theorem sound_iff_of_two_bytes :
    mSize ⟨[1, 2], 0⟩ < 2 ^ 64 - 8 ∧ mOffset ⟨[1, 2], 0⟩ ≤ mSize ⟨[1, 2], 0⟩ ∧
      (Sound ⟨[1, 2], 0⟩ (.read16BE (some 0)) ↔ Regular ⟨[1, 2], 0⟩ (.read16BE (some 0))) :=
  have small : mSize ⟨[1, 2], 0⟩ < 2 ^ 64 - 8 := by decide
  have inside : mOffset ⟨[1, 2], 0⟩ ≤ mSize ⟨[1, 2], 0⟩ := by decide
  ⟨small, inside, sound_iff ⟨[1, 2], 0⟩ (.read16BE (some 0)) small inside⟩

/-- `Read64_BE(0)` runs over the end of four bytes; at the end of the buffer
`Read()` and an empty `ReadSpan` trip the assertion of `seek`; a length that
wraps yields a span over the end, and an offset that wraps trips it again. -/
theorem not_sound_at_the_end :
    ¬ Sound ⟨[1, 2, 3, 4], 0⟩ (.read64BE (some 0)) ∧
      ¬ Sound ⟨[1], 1⟩ (.read none) ∧
      ¬ Sound ⟨[1], 1⟩ (.readSpan none 0) ∧
      ¬ Sound ⟨[1, 2], 1⟩ (.readSpan none (UInt64.ofNat (2 ^ 64 - 1))) ∧
      ¬ Sound ⟨[1], 0⟩ (.read32BE (some (UInt64.ofNat (2 ^ 64 - 4)))) := by
  refine ⟨?_, ?_, ?_, ?_, ?_⟩ <;>
  · intro sound
    exact absurd sound.meets (by unfold Meets; decide)

end ReadCall

end MemoryReader

end UdpGame
