import UdpGame.Network
import UdpGame.Lib.Run
import UdpGame.Lib.UniquePtr

/-!
# The memory of buffers

`NetworkBuffer` as `Network.h` has it: a `unique_ptr` with two members next to
it, moved and never copied.  Everywhere else a buffer is a value; here it is
shown that it may be one (`buffers_are_values`).  The assignment is where they
could differ: it compares pointers to see whether it has another object before
it, and takes two buffers that were moved from for one.  Nothing is lost by that
as long as `SetOffset` is left to buffers that have their bytes.
-/

namespace UdpGame

open UniquePtr ByteWindow

/-- `mSize` and `mOffset`. -/
structure NetworkBuffer.Members where
  mSize : Nat
  mOffset : Nat
  deriving DecidableEq, Repr

/-- The buffers of a program, by name, and the heap. -/
abbrev Buffers (κ : Type) : Type := Store κ NetworkBuffer.Members Memory

/-- What a program does with its buffers.  It reads `Size()` bytes from `Data()`
and looks at `Capacity()`, and writes where it likes. -/
inductive BufferOp (κ : Type) where
  | construct (k : κ)
  | moveConstruct (k other : κ)
  | moveAssign (k other : κ)
  | destroy (k : κ)
  | setOffset (k : κ) (offset : Nat)
  | write (k : κ) (index : Nat) (bytes : List UInt8)
  | read (k : κ)
  deriving Repr

namespace Buffers

variable {κ : Type} [DecidableEq κ]

/-- `NetworkBuffer()`. -/
def construct (k : κ) (s : Buffers κ) : Except Misuse (Buffers κ) :=
  s.make k (List.replicate kNetworkBufferSize 0) { mSize := kNetworkBufferSize, mOffset := 0 }

/-- `std::exchange` of both members with zero. -/
def exchange (k other : κ) (s : Buffers κ) : Except Misuse (Buffers κ) := do
  let (_, given) ← alive (s.objects other)
  let s ← s.members other { mSize := 0, mOffset := 0 }
  s.members k given

/-- `NetworkBuffer(NetworkBuffer&& other)`. -/
def moveConstruct (k other : κ) (s : Buffers κ) : Except Misuse (Buffers κ) := do
  let s ← s.take k other { mSize := 0, mOffset := 0 }
  exchange k other s

/-- `operator=(NetworkBuffer&& other)`. -/
def moveAssign (k other : κ) (s : Buffers κ) : Except Misuse (Buffers κ) := do
  let (mBuffer, _) ← alive (s.objects k)
  let (mBuffer', _) ← alive (s.objects other)
  if mBuffer ≠ mBuffer' then
    let s ← if mBuffer.isSome then s.reset k else pure s
    let s ← s.assign k other
    exchange k other s
  else
    return s

def setOffset (k : κ) (offset : Nat) (s : Buffers κ) : Except Misuse (Buffers κ) := do
  let (_, members) ← alive (s.objects k)
  s.members k { members with mOffset := offset }

/-- The bytes of `Span<const uint8_t>(Data(), Size())`. -/
def bytes (k : κ) (s : Buffers κ) : Except Misuse (List UInt8) := do
  let (_, members) ← alive (s.objects k)
  if members.mOffset = 0 then
    return []
  else
    let block ← s.deref k
    if members.mOffset ≤ block.length then return window block 0 members.mOffset
    else .error .outside

/-- Store through `Data()`. -/
def store (k : κ) (index : Nat) (bytes : List UInt8) (s : Buffers κ) :
    Except Misuse (Buffers κ) := do
  let _ ← alive (s.objects k)
  if bytes = [] then
    return s
  else
    let block ← s.deref k
    if index + bytes.length ≤ block.length then s.write k (overwrite block index bytes)
    else .error .outside

def step (op : BufferOp κ) (s : Buffers κ) :
    Except Misuse (Buffers κ × List (List UInt8 × Nat)) :=
  match op with
  | .construct k => do return (← s.construct k, [])
  | .moveConstruct k other => do return (← s.moveConstruct k other, [])
  | .moveAssign k other => do return (← s.moveAssign k other, [])
  | .destroy k => do return (← s.destroy k, [])
  | .setOffset k offset => do return (← s.setOffset k offset, [])
  | .write k index bytes => do return (← s.store k index bytes, [])
  | .read k => do
    let bytes ← s.bytes k
    let (_, members) ← alive (s.objects k)
    return (s, [(bytes, members.mSize)])

end Buffers

/-! ## Values -/

/-- The same without pointers: a buffer has its bytes, unless they were moved
elsewhere. -/
abbrev BufferValues (κ : Type) : Type := View κ NetworkBuffer.Members Memory

namespace BufferValues

variable {κ : Type} [DecidableEq κ]

/-- What a constructor makes. -/
def fresh : Option Memory × NetworkBuffer.Members :=
  (some (List.replicate kNetworkBufferSize 0), { mSize := kNetworkBufferSize, mOffset := 0 })

/-- What a move leaves behind. -/
def moved : Option Memory × NetworkBuffer.Members := (none, { mSize := 0, mOffset := 0 })

/-- Give an object the value of another. -/
def give (k other : κ) (value : Option Memory × NetworkBuffer.Members) (v : BufferValues κ) :
    BufferValues κ :=
  Function.update (Function.update v other (some moved)) k (some value)

def construct (k : κ) (v : BufferValues κ) : Except Misuse (BufferValues κ) :=
  match v k with
  | some _ => .error .alive
  | none => .ok (Function.update v k (some fresh))

def moveConstruct (k other : κ) (v : BufferValues κ) : Except Misuse (BufferValues κ) :=
  match v k with
  | some _ => .error .alive
  | none => do
    let value ← alive (v other)
    return give k other value v

def moveAssign (k other : κ) (v : BufferValues κ) : Except Misuse (BufferValues κ) := do
  let _ ← alive (v k)
  let value ← alive (v other)
  return give k other value v

def destroy (k : κ) (v : BufferValues κ) : Except Misuse (BufferValues κ) := do
  let _ ← alive (v k)
  return Function.update v k none

def setOffset (k : κ) (offset : Nat) (v : BufferValues κ) : Except Misuse (BufferValues κ) := do
  let value ← alive (v k)
  return Function.update v k (some (value.1, { value.2 with mOffset := offset }))

def bytes (k : κ) (v : BufferValues κ) : Except Misuse (List UInt8) := do
  let value ← alive (v k)
  if value.2.mOffset = 0 then
    return []
  else
    let block ← v.deref k
    if value.2.mOffset ≤ block.length then return window block 0 value.2.mOffset
    else .error .outside

def store (k : κ) (index : Nat) (bytes : List UInt8) (v : BufferValues κ) :
    Except Misuse (BufferValues κ) := do
  let value ← alive (v k)
  if bytes = [] then
    return v
  else
    let block ← v.deref k
    if index + bytes.length ≤ block.length then
      return Function.update v k (some (some (overwrite block index bytes), value.2))
    else .error .outside

def step (op : BufferOp κ) (v : BufferValues κ) :
    Except Misuse (BufferValues κ × List (List UInt8 × Nat)) :=
  match op with
  | .construct k => do return (← v.construct k, [])
  | .moveConstruct k other => do return (← v.moveConstruct k other, [])
  | .moveAssign k other => do return (← v.moveAssign k other, [])
  | .destroy k => do return (← v.destroy k, [])
  | .setOffset k offset => do return (← v.setOffset k offset, [])
  | .write k index bytes => do return (← v.store k index bytes, [])
  | .read k => do
    let bytes ← v.bytes k
    let value ← alive (v k)
    return (v, [(bytes, value.2.mSize)])

/-- What an operation does to the values. -/
theorem step_cases {op : BufferOp κ} {v v' : BufferValues κ} {out : List (List UInt8 × Nat)}
    (stepped : BufferValues.step op v = .ok (v', out)) :
    match op with
    | .construct k => v k = none ∧ v' = Function.update v k (some fresh)
    | .moveConstruct k other =>
      v k = none ∧ ∃ value, v other = some value ∧ v' = give k other value v
    | .moveAssign k other =>
      v k ≠ none ∧ ∃ value, v other = some value ∧ v' = give k other value v
    | .destroy k => v k ≠ none ∧ v' = Function.update v k none
    | .setOffset k offset => ∃ value, v k = some value ∧
        v' = Function.update v k (some (value.1, { value.2 with mOffset := offset }))
    | .write k index bytes => ∃ value, v k = some value ∧ (bytes = [] ∧ v' = v ∨
        ∃ block, value.1 = some block ∧ index + bytes.length ≤ block.length ∧
          v' = Function.update v k (some (some (overwrite block index bytes), value.2)))
    | .read k => v k ≠ none ∧ v' = v := by
  cases op with
  | construct k =>
      simp only [BufferValues.step, construct, bind_eq_ok, pure_eq_ok] at stepped
      obtain ⟨v'', made, same⟩ := stepped
      cases same
      split at made
      · cases made
      · rename_i dead
        cases made
        exact ⟨dead, rfl⟩
  | moveConstruct k other =>
      simp only [BufferValues.step, moveConstruct, bind_eq_ok, pure_eq_ok] at stepped
      obtain ⟨v'', made, same⟩ := stepped
      cases same
      split at made
      · cases made
      · rename_i dead
        obtain ⟨value, held, made⟩ := bind_eq_ok.mp made
        cases made
        exact ⟨dead, value, alive_eq_ok.mp held, rfl⟩
  | moveAssign k other =>
      simp only [BufferValues.step, moveAssign, bind_eq_ok, pure_eq_ok] at stepped
      obtain ⟨v'', ⟨old, here, value, held, made⟩, same⟩ := stepped
      cases same
      cases made
      exact ⟨Option.ne_none_iff_exists'.mpr ⟨old, alive_eq_ok.mp here⟩, value,
        alive_eq_ok.mp held, rfl⟩
  | destroy k =>
      simp only [BufferValues.step, destroy, bind_eq_ok, pure_eq_ok] at stepped
      obtain ⟨v'', ⟨old, here, made⟩, same⟩ := stepped
      cases same
      cases made
      exact ⟨Option.ne_none_iff_exists'.mpr ⟨old, alive_eq_ok.mp here⟩, rfl⟩
  | setOffset k offset =>
      simp only [BufferValues.step, setOffset, bind_eq_ok, pure_eq_ok] at stepped
      obtain ⟨v'', ⟨value, held, made⟩, same⟩ := stepped
      cases same
      cases made
      exact ⟨value, alive_eq_ok.mp held, rfl⟩
  | write k index bytes =>
      simp only [BufferValues.step, store, bind_eq_ok, pure_eq_ok] at stepped
      obtain ⟨v'', ⟨value, held, made⟩, same⟩ := stepped
      cases same
      have here := alive_eq_ok.mp held
      refine ⟨value, here, ?_⟩
      split at made
      · rename_i nothing
        cases made
        exact .inl ⟨nothing, rfl⟩
      · obtain ⟨block, found, made⟩ := bind_eq_ok.mp made
        simp only [View.deref, held, ok_bind] at found
        split at made
        · rename_i fits
          cases made
          cases bytes' : value.1 with
          | none =>
              rw [bytes'] at found
              cases found
          | some block' =>
              rw [bytes'] at found
              cases found
              exact .inr ⟨block, rfl, fits, rfl⟩
        · cases made
  | read k =>
      simp only [BufferValues.step, bind_eq_ok, pure_eq_ok] at stepped
      obtain ⟨bytes, -, value, held, same⟩ := stepped
      cases same
      exact ⟨Option.ne_none_iff_exists'.mpr ⟨value, alive_eq_ok.mp held⟩, rfl⟩

/-- The buffer has its bytes, if it is alive. -/
def Filled (k : κ) (v : BufferValues κ) : Prop := ∀ value, v k = some value → value.1 ≠ none

/-- `SetOffset` is for a buffer that has its bytes. -/
def Careful : BufferOp κ → BufferValues κ → Prop
  | .setOffset k _, v => Filled k v
  | _, _ => True

/-! ### Their size -/

/-- A value is as long as its constructor made it, or it was moved elsewhere. -/
def Whole (value : Option Memory × NetworkBuffer.Members) : Prop :=
  (∃ block, value.1 = some block ∧ block.length = kNetworkBufferSize ∧
    value.2.mSize = kNetworkBufferSize) ∨ value = moved

def Sized (v : BufferValues κ) : Prop := ∀ k value, v k = some value → Whole value

section Sized

variable {v v' : BufferValues κ} {k other : κ} {value : Option Memory × NetworkBuffer.Members}

theorem Whole.eq_moved (whole : Whole value) (without : value.1 = none) : value = moved := by
  rcases whole with ⟨block, shown, -⟩ | same
  · rw [without] at shown
    cases shown
  · exact same

theorem Sized.update (sized : Sized v) (k : κ)
    {o : Option (Option Memory × NetworkBuffer.Members)} (fits : ∀ value, o = some value →
      Whole value) : Sized (Function.update v k o) := by
  intro k' value held
  by_cases same : k' = k
  · subst same
    rw [Function.update_self] at held
    exact fits value held
  · rw [Function.update_of_ne same] at held
    exact sized k' value held

theorem Sized.give (sized : Sized v) (held : v other = some value) :
    Sized (BufferValues.give k other value v) := by
  refine (sized.update other ?_).update k ?_
  · intro value' left
    cases left
    exact .inr rfl
  · intro value' given
    cases given
    exact sized other value held

/-- Nothing happens to a buffer that is given its own value, or nothing for
nothing. -/
theorem give_eq_self (held : v k = some value) (held' : v other = some value)
    (same : k = other ∨ value = moved) : give k other value v = v := by
  unfold give
  rcases same with rfl | rfl
  · rw [Function.update_idem, Function.update_eq_self_iff.mpr held.symm]
  · have same : Function.update v other (some moved) = v :=
      Function.update_eq_self_iff.mpr held'.symm
    rw [same, Function.update_eq_self_iff.mpr held.symm]

theorem Sized.step {op : BufferOp κ} {out : List (List UInt8 × Nat)} (sized : Sized v)
    (careful : Careful op v) (stepped : BufferValues.step op v = .ok (v', out)) : Sized v' := by
  have becomes := step_cases stepped
  cases op with
  | construct k =>
      obtain ⟨-, rfl⟩ := becomes
      refine sized.update k ?_
      rintro value ⟨⟩
      exact .inl ⟨_, rfl, List.length_replicate, rfl⟩
  | moveConstruct k other =>
      obtain ⟨-, value, held, rfl⟩ := becomes
      exact sized.give held
  | moveAssign k other =>
      obtain ⟨-, value, held, rfl⟩ := becomes
      exact sized.give held
  | destroy k =>
      obtain ⟨-, rfl⟩ := becomes
      refine sized.update k ?_
      rintro value ⟨⟩
  | setOffset k offset =>
      obtain ⟨value, held, rfl⟩ := becomes
      refine sized.update k ?_
      rintro value' ⟨⟩
      rcases sized k value held with here | rfl
      · exact .inl here
      · exact absurd rfl (careful _ held)
  | write k index bytes =>
      obtain ⟨value, held, ⟨-, rfl⟩ | ⟨block, shown, fits, rfl⟩⟩ := becomes
      · exact sized
      · refine sized.update k ?_
        rintro value' ⟨⟩
        rcases sized k value held with ⟨block', shown', long, size⟩ | rfl
        · cases shown.symm.trans shown'
          exact .inl ⟨_, rfl, (length_overwrite fits).trans long, size⟩
        · cases shown
  | read k =>
      obtain ⟨-, rfl⟩ := becomes
      exact sized

end Sized

end BufferValues

/-! ## Careful programs -/

namespace BufferValues

section Tidy

variable {κ : Type}

/-- A program that sets the offset of a buffer where it fills it and nowhere else. -/
inductive Tidy : List (BufferOp κ) → Prop
  | nil : Tidy []
  | fill {ops : List (BufferOp κ)} (k : κ) (bytes : List UInt8) (offset : Nat) :
    Tidy ops → Tidy ([.construct k, .write k 0 bytes, .setOffset k offset] ++ ops)
  | cons {op : BufferOp κ} {ops : List (BufferOp κ)} :
    (∀ k offset, op ≠ .setOffset k offset) → Tidy ops → Tidy (op :: ops)

variable {ops ops' : List (BufferOp κ)}

theorem Tidy.of_forall (others : ∀ op ∈ ops, ∀ k offset, op ≠ .setOffset k offset) : Tidy ops := by
  induction ops with
  | nil => exact .nil
  | cons op ops ih =>
      rcases List.forall_mem_cons.mp others with ⟨first, later⟩
      exact .cons first (ih later)

theorem Tidy.append (tidy : Tidy ops) (tidy' : Tidy ops') : Tidy (ops ++ ops') := by
  induction tidy with
  | nil => exact tidy'
  | fill k bytes offset _ ih =>
      rw [List.append_assoc]
      exact .fill k bytes offset ih
  | cons other _ ih => exact .cons other ih

variable [DecidableEq κ] {v v' : BufferValues κ} {k : κ} {out : List (List UInt8 × Nat)}

theorem filled_update (v : BufferValues κ) (k : κ) (block : Memory)
    (members : NetworkBuffer.Members) :
    Filled k (Function.update v k (some (some block, members))) := by
  intro value held
  rw [Function.update_self, Option.some.injEq] at held
  rw [← held]
  exact Option.some_ne_none block

theorem filled_construct (stepped : BufferValues.step (.construct k) v = .ok (v', out)) :
    Filled k v' := by
  obtain ⟨-, rfl⟩ := step_cases stepped
  exact filled_update v k _ _

theorem Filled.write {index : Nat} {bytes : List UInt8} (filled : Filled k v)
    (stepped : BufferValues.step (.write k index bytes) v = .ok (v', out)) : Filled k v' := by
  obtain ⟨value, -, ⟨-, rfl⟩ | ⟨block, -, -, rfl⟩⟩ := step_cases stepped
  · exact filled
  · exact filled_update v k _ _

/-- Such a program is careful. -/
theorem Tidy.along (tidy : Tidy ops) (v : BufferValues κ) :
    Run.Along BufferValues.step Careful ops v := by
  induction tidy generalizing v with
  | nil => trivial
  | fill k bytes offset _ ih =>
      refine ⟨trivial, fun v' out made => ⟨trivial, fun v'' out' wrote => ⟨?_, ?_⟩⟩⟩
      · exact (filled_construct made).write wrote
      · exact fun last _ _ => ih last
  | @cons op ops other _ ih =>
      refine ⟨?_, fun v' _ _ => ih v'⟩
      cases op with
      | setOffset k offset => exact absurd rfl (other k offset)
      | _ => trivial

end Tidy

end BufferValues

/-! ## One operation -/

namespace Buffers

section Step

variable {κ : Type} {s : Buffers κ} {v : BufferValues κ}

/-- The values of a program with these buffers. -/
def Shown (s : Buffers κ) (v : BufferValues κ) : Prop := s.Owned ∧ v = s.view

/-- An operation without output. -/
theorem alike_of_refines {x : Except Misuse (Buffers κ)} {y : Except Misuse (BufferValues κ)}
    (refines : Refines x y) :
    Run.Alike Shown (x >>= fun s => Except.ok (s, ([] : List (List UInt8 × Nat))))
      (y >>= fun v => Except.ok (v, [])) := by
  cases x with
  | error e =>
      obtain rfl : y = .error e := refines
      rfl
  | ok s =>
      obtain ⟨owned, rfl⟩ : s.Owned ∧ y = .ok s.view := refines
      exact ⟨s.view, rfl, owned, rfl⟩

variable {k other : κ}

/-- What an object shows next to its block are its members. -/
theorem alive_view_eq (s : Buffers κ) (k : κ) :
    alive (s.view k) = (alive (s.objects k) >>= fun o => .ok (o.1.bind s.heap, o.2)) := by
  unfold Store.view
  cases s.objects k <;> rfl

theorem bytes_eq (owned : s.Owned) : Buffers.bytes k s = BufferValues.bytes k s.view := by
  unfold Buffers.bytes BufferValues.bytes
  rw [deref_eq owned, alive_view_eq]
  cases s.objects k <;> rfl

variable [DecidableEq κ]

theorem give_congr {v v' : BufferValues κ} (value : Option Memory × NetworkBuffer.Members)
    (same : ∀ k', k' ≠ k → k' ≠ other → v k' = v' k') :
    BufferValues.give k other value v = BufferValues.give k other value v' := by
  unfold BufferValues.give
  funext k'
  by_cases first : k' = k
  · rw [first, Function.update_self, Function.update_self]
  by_cases second : k' = other
  · rw [Function.update_of_ne first, Function.update_of_ne first, second, Function.update_self,
      Function.update_self]
  · simp only [Function.update_of_ne first, Function.update_of_ne second, same k' first second]

/-- `exchange` after the pointer has moved. -/
theorem refines_exchange (owned : s.Owned) (apart : k ≠ other) {b : Option Memory}
    {members given : NetworkBuffer.Members} (held : s.view k = some (b, members))
    (bare : s.view other = some (none, given))
    (same : ∀ k', k' ≠ k → k' ≠ other → s.view k' = v k') :
    Refines (Buffers.exchange k other s) (.ok (BufferValues.give k other (b, given) v)) := by
  obtain ⟨⟨p, given'⟩, object, members'⟩ := Option.map_eq_some_iff.mp bare
  obtain rfl : given' = given := congrArg Prod.snd members'
  unfold Buffers.exchange
  simp only [object, alive_some, ok_bind]
  have left : Refines (s.members other { mSize := 0, mOffset := 0 }) _ := refines_members owned
  simp only [View.members, bare, alive_some, ok_bind] at left
  refine left.bind_ok fun s' owned' shown => ?_
  have right := refines_members (k := k) (a := given') owned'
  simp only [View.members, shown, Function.update_of_ne apart, held, alive_some, ok_bind] at right
  rw [give_congr _ fun k' first second => (same k' first second).symm]
  exact right

theorem refines_moveConstruct (owned : s.Owned) :
    Refines (Buffers.moveConstruct k other s) (BufferValues.moveConstruct k other s.view) := by
  have took : Refines (s.take k other { mSize := 0, mOffset := 0 })
      (View.take k other { mSize := 0, mOffset := 0 } s.view) := refines_take owned
  unfold Buffers.moveConstruct BufferValues.moveConstruct
  unfold View.take at took
  cases held : s.view k with
  | some value =>
      simp only [held] at took ⊢
      exact took.bind_error
  | none =>
      cases held' : s.view other with
      | none =>
          simp only [held, held'] at took ⊢
          exact took.bind_error
      | some value =>
          have apart : k ≠ other := by
            rintro rfl
            rw [held] at held'
            cases held'
          simp only [held, held', alive_some, ok_bind] at took ⊢
          refine took.bind_ok fun s' owned' shown => ?_
          refine refines_exchange owned' apart
            ((congrFun shown k).trans (Function.update_self ..)) ?_ ?_
          · rw [shown, Function.update_of_ne apart.symm, Function.update_self]
          · intro k' first second
            rw [shown, Function.update_of_ne first, Function.update_of_ne second]

/-- The assignment of one object to another. -/
theorem refines_moveAssign_of_ne (owned : s.Owned) {mBuffer mBuffer' : Option Nat}
    {members given : NetworkBuffer.Members} (object : s.objects k = some (mBuffer, members))
    (object' : s.objects other = some (mBuffer', given)) (apart : k ≠ other) :
    Refines
      (do
        let s ← if mBuffer.isSome then s.reset k else pure s
        let s ← s.assign k other
        Buffers.exchange k other s)
      (.ok (BufferValues.give k other (mBuffer'.bind s.heap, given) s.view)) := by
  have held := Store.view_of_objects object
  have held' := Store.view_of_objects object'
  -- Whether or not there was a block to give up, the pointer is null now.
  have rest : ∀ s' : Buffers κ, s'.Owned →
      s'.view = Function.update s.view k (some (none, members)) →
      Refines (s'.assign k other >>= fun s => Buffers.exchange k other s)
        (.ok (BufferValues.give k other (mBuffer'.bind s.heap, given) s.view)) := by
    intro s' owned' shown
    have assigned : Refines (s'.assign k other) (View.assign k other s'.view) :=
      refines_assign owned'
    simp only [View.assign, shown, Function.update_of_ne apart.symm, Function.update_of_ne apart,
      Function.update_self, held', alive_some, ok_bind] at assigned
    refine assigned.bind_ok fun s'' owned'' shown' => ?_
    refine refines_exchange owned'' apart
      ((congrFun shown' k).trans (Function.update_self ..)) ?_ ?_
    · rw [shown', Function.update_of_ne apart.symm, Function.update_self]
    · intro k' first second
      rw [shown', Function.update_of_ne first, Function.update_of_ne second,
        Function.update_of_ne first]
  cases mBuffer with
  | none => exact rest s owned (Function.update_eq_self_iff.mpr held.symm).symm
  | some p =>
      have reset := refines_reset (k := k) owned
      simp only [View.reset, held, alive_some, ok_bind] at reset
      exact reset.bind_ok rest

theorem refines_moveAssign (owned : s.Owned) (sized : BufferValues.Sized s.view) :
    Refines (Buffers.moveAssign k other s) (BufferValues.moveAssign k other s.view) := by
  unfold Buffers.moveAssign BufferValues.moveAssign
  cases object : s.objects k with
  | none =>
      rw [Store.view_of_dead object]
      rfl
  | some o =>
      obtain ⟨mBuffer, members⟩ := o
      simp only [Store.view_of_objects object, alive_some, ok_bind]
      cases object' : s.objects other with
      | none =>
          rw [Store.view_of_dead object']
          rfl
      | some o' =>
          obtain ⟨mBuffer', given⟩ := o'
          simp only [Store.view_of_objects object', alive_some, ok_bind]
          have guard := owned.pointer_eq_iff object object'
          have held := Store.view_of_objects object
          have held' := Store.view_of_objects object'
          by_cases same : mBuffer = mBuffer'
          · rw [if_neg (not_not_intro same)]
            refine .ok owned fun k' => ?_
            rcases guard.mp same with rfl | ⟨without, without'⟩
            · cases object.symm.trans object'
              exact congrFun (BufferValues.give_eq_self held held (.inl rfl)).symm k'
            · have here := (sized k _ held).eq_moved without
              have there := (sized other _ held').eq_moved without'
              rw [here] at held
              rw [there] at held' ⊢
              exact congrFun (BufferValues.give_eq_self held held' (.inr rfl)).symm k'
          · rw [if_pos same]
            have apart : k ≠ other := fun eq => same (guard.mpr (.inl eq))
            exact refines_moveAssign_of_ne owned object object' apart

theorem refines_setOffset (owned : s.Owned) (offset : Nat) :
    Refines (Buffers.setOffset k offset s) (BufferValues.setOffset k offset s.view) := by
  unfold Buffers.setOffset BufferValues.setOffset
  cases object : s.objects k with
  | none =>
      rw [Store.view_of_dead object]
      rfl
  | some o =>
      obtain ⟨mBuffer, members⟩ := o
      have held := Store.view_of_objects object
      have refines : Refines (s.members k { members with mOffset := offset }) _ :=
        refines_members owned
      simp only [View.members, held, alive_some, ok_bind] at refines ⊢
      exact refines

theorem refines_store (owned : s.Owned) (index : Nat) (bytes : List UInt8) :
    Refines (Buffers.store k index bytes s) (BufferValues.store k index bytes s.view) := by
  unfold Buffers.store BufferValues.store
  rw [deref_eq owned, alive_view_eq]
  cases object : s.objects k with
  | none => rfl
  | some o =>
      simp only [alive_some, ok_bind]
      by_cases empty : bytes = []
      · rw [if_pos empty, if_pos empty]
        exact ⟨owned, rfl⟩
      rw [if_neg empty, if_neg empty]
      have held := Store.view_of_objects object
      have wrote (block : Memory) := refines_write (k := k) (b := block) owned
      unfold View.deref
      simp only [View.write, held, alive_some, ok_bind] at wrote ⊢
      cases shown : o.1.bind s.heap with
      | none => rfl
      | some block =>
          simp only [shown, pure_eq_ok, ok_bind] at wrote ⊢
          split
          · exact wrote _
          · rfl

theorem refines_construct (owned : s.Owned) :
    Refines (Buffers.construct k s) (BufferValues.construct k s.view) := by
  have made : Refines (Buffers.construct k s) (View.make k _ _ s.view) := refines_make owned
  unfold View.make at made
  unfold BufferValues.construct
  cases held : s.view k with
  | none =>
      simp only [held] at made ⊢
      exact made
  | some value =>
      simp only [held] at made ⊢
      exact made

theorem step_alike (op : BufferOp κ) (shown : Shown s v) (sized : BufferValues.Sized v) :
    Run.Alike Shown (Buffers.step op s) (BufferValues.step op v) := by
  obtain ⟨owned, rfl⟩ := shown
  cases op with
  | construct k => exact alike_of_refines (refines_construct owned)
  | moveConstruct k other => exact alike_of_refines (refines_moveConstruct owned)
  | moveAssign k other => exact alike_of_refines (refines_moveAssign owned sized)
  | destroy k => exact alike_of_refines (refines_destroy owned)
  | setOffset k offset => exact alike_of_refines (refines_setOffset owned offset)
  | write k index bytes => exact alike_of_refines (refines_store owned index bytes)
  | read k =>
      unfold Buffers.step BufferValues.step
      simp only [bytes_eq owned, alive_view_eq]
      cases BufferValues.bytes k s.view with
      | error e => rfl
      | ok bytes =>
          cases s.objects k with
          | none => rfl
          | some o => exact ⟨s.view, rfl, owned, rfl⟩

end Step

/-! ## Whole programs -/

section Run

variable {κ : Type}

/-- It does not fail by an access or a `delete` of a block that is not there. -/
def Tame {τ : Type} (x : Except Misuse τ) : Prop :=
  ∀ e, x = .error e → e ≠ .dangling ∧ e ≠ .doubleFree

theorem tame_ok {τ : Type} (o : τ) : Tame (.ok o : Except Misuse τ) := nofun

theorem tame_alive {τ : Type} (o : Option τ) : Tame (alive o) := by
  rintro e failed
  cases o with
  | some o => cases failed
  | none =>
      cases failed
      exact ⟨nofun, nofun⟩

theorem tame_outside {τ : Type} : Tame (.error .outside : Except Misuse τ) := by
  rintro e ⟨⟩
  exact ⟨nofun, nofun⟩

theorem tame_alive_error {τ : Type} : Tame (.error .alive : Except Misuse τ) := by
  rintro e ⟨⟩
  exact ⟨nofun, nofun⟩

theorem Tame.bind {τ υ : Type} {x : Except Misuse τ} {f : τ → Except Misuse υ} (first : Tame x)
    (next : ∀ o, Tame (f o)) : Tame (x >>= f) := by
  intro e failed
  rcases bind_eq_error.mp failed with failed | ⟨o, -, failed⟩
  · exact first e failed
  · exact next o e failed

theorem tame_deref (v : BufferValues κ) (k : κ) : Tame (v.deref k) := by
  refine (tame_alive _).bind fun value => ?_
  obtain ⟨block, members⟩ := value
  cases block with
  | none =>
      rintro e ⟨⟩
      exact ⟨nofun, nofun⟩
  | some block => exact tame_ok _

variable [DecidableEq κ]

/-- A program of values knows nothing of blocks that are not there. -/
theorem tame_step (op : BufferOp κ) (v : BufferValues κ) : Tame (BufferValues.step op v) := by
  cases op with
  | construct k =>
      refine .bind ?_ fun _ => tame_ok _
      unfold BufferValues.construct
      split
      · exact tame_alive_error
      · exact tame_ok _
  | moveConstruct k other =>
      refine .bind ?_ fun _ => tame_ok _
      unfold BufferValues.moveConstruct
      split
      · exact tame_alive_error
      · exact (tame_alive _).bind fun _ => tame_ok _
  | moveAssign k other =>
      refine .bind ?_ fun _ => tame_ok _
      exact (tame_alive _).bind fun _ => (tame_alive _).bind fun _ => tame_ok _
  | destroy k => exact .bind ((tame_alive _).bind fun _ => tame_ok _) fun _ => tame_ok _
  | setOffset k offset => exact .bind ((tame_alive _).bind fun _ => tame_ok _) fun _ => tame_ok _
  | write k index bytes =>
      refine .bind ((tame_alive _).bind fun _ => ?_) fun _ => tame_ok _
      split
      · exact tame_ok _
      · refine (tame_deref v k).bind fun block => ?_
        split
        · exact tame_ok _
        · exact tame_outside
  | read k =>
      refine .bind ((tame_alive _).bind fun _ => ?_) fun _ => (tame_alive _).bind fun _ => tame_ok _
      split
      · exact tame_ok _
      · refine (tame_deref v k).bind fun block => ?_
        split
        · exact tame_ok _
        · exact tame_outside

/-- Values have their size wherever a careful program gets to. -/
theorem sized_along {ops : List (BufferOp κ)}
    (careful : Run.Along BufferValues.step BufferValues.Careful ops fun _ => none) :
    Run.Along BufferValues.step (fun op v => BufferValues.Sized v ∧ BufferValues.Careful op v) ops
      fun _ => none :=
  careful.and_invariant BufferValues.Sized.step fun _ _ held => by cases held

theorem run_alike {ops : List (BufferOp κ)}
    (careful : Run.Along BufferValues.step BufferValues.Careful ops fun _ => none) :
    Run.Alike Shown (Run.run Buffers.step ops Store.empty)
      (Run.run BufferValues.step ops fun _ => none) :=
  Run.run_alike (fun op _ _ shown fair => step_alike op shown fair.1) ops ⟨Store.owned_empty, rfl⟩
    (sized_along careful)

/-- What a program can do with values it can do on the heap. -/
theorem exists_run {ops : List (BufferOp κ)} {v : BufferValues κ}
    {outs : List (List UInt8 × Nat)}
    (careful : Run.Along BufferValues.step BufferValues.Careful ops fun _ => none)
    (ran : Run.run BufferValues.step ops (fun _ => none) = .ok (v, outs)) :
    ∃ s : Buffers κ, Run.run Buffers.step ops Store.empty = .ok (s, outs) ∧ s.Owned ∧
      s.view = v := by
  have alike := run_alike careful
  cases heap : Run.run Buffers.step ops Store.empty with
  | error e =>
      rw [heap] at alike
      cases ran.symm.trans alike
  | ok last =>
      obtain ⟨s, outs'⟩ := last
      rw [heap] at alike
      obtain ⟨v', ran', owned, rfl⟩ := alike
      cases ran.symm.trans ran'
      exact ⟨s, rfl, owned, rfl⟩

/-- A program that sets the offset of no buffer it has moved from runs on buffers
as it does on values, with the same faults and the same bytes, and never touches a
block that is not there.  Where it gets through, every block has one owner and the
rest is free again. -/
theorem buffers_are_values (ops : List (BufferOp κ))
    (careful : Run.Along BufferValues.step BufferValues.Careful ops fun _ => none) :
    (∀ e, Run.run Buffers.step ops Store.empty = .error e →
      Run.run BufferValues.step ops (fun _ => none) = .error e ∧
        e ≠ .dangling ∧ e ≠ .doubleFree) ∧
    ∀ s outs, Run.run Buffers.step ops Store.empty = .ok (s, outs) →
      Run.run BufferValues.step ops (fun _ => none) = .ok (s.view, outs) ∧
      (∀ p block, s.heap p = some block →
        block.length = kNetworkBufferSize ∧ ∃! k, s.pointer k = some p) ∧
      ∀ k p, s.pointer k = some p → s.heap p ≠ none := by
  have alike := run_alike careful
  constructor
  · intro e failed
    rw [failed] at alike
    obtain ⟨past, op, rest, v, outs, -, -, last⟩ := Run.exists_of_run_eq_error alike
    exact ⟨alike, tame_step op v e last⟩
  · intro s outs ran
    rw [ran] at alike
    obtain ⟨v, ran', owned, rfl⟩ := alike
    have sized : BufferValues.Sized s.view :=
      careful.invariant BufferValues.Sized.step (fun _ _ held => by cases held) ran'
    refine ⟨ran', fun p block there => ?_, fun k p pointer => owned.block_of_pointer pointer⟩
    obtain ⟨k, mine, alone⟩ := owned.exists_unique there
    refine ⟨?_, k, mine, alone⟩
    obtain ⟨⟨p', members⟩, object, rfl⟩ := Option.bind_eq_some_iff.mp mine
    have shown : s.view k = some (some block, members) := by
      rw [Store.view_of_objects object, Option.bind_some, there]
    rcases sized k _ shown with ⟨block', same, long, -⟩ | moved
    · cases same
      exact long
    · cases moved

/-- A buffer is filled, handed on and assigned back. -/
def handedOn : List (BufferOp Bool) :=
  [.construct true, .write true 0 [1, 2], .setOffset true 2, .moveConstruct false true,
    .moveAssign true false, .read true, .read false]

theorem buffers_are_values_handed_on :
    ∃ s : Buffers Bool,
      Run.run Buffers.step handedOn Store.empty =
        .ok (s, [([1, 2], kNetworkBufferSize), ([], 0)]) ∧
      Run.run BufferValues.step handedOn (fun _ => none) =
        .ok (s.view, [([1, 2], kNetworkBufferSize), ([], 0)]) ∧
      ∀ p block, s.heap p = some block → ∃! k, s.pointer k = some p := by
  have careful : Run.Along BufferValues.step BufferValues.Careful handedOn fun _ => none :=
    (BufferValues.Tidy.fill true [1, 2] 2 (.of_forall (by simp))).along _
  have reads : (Run.run Buffers.step handedOn Store.empty).map Prod.snd =
      .ok [([1, 2], kNetworkBufferSize), ([], 0)] := by
    decide +kernel
  cases ran : Run.run Buffers.step handedOn Store.empty with
  | error e =>
      rw [ran] at reads
      cases reads
  | ok done =>
      obtain ⟨s, outs⟩ := done
      rw [ran] at reads
      cases reads
      obtain ⟨values, owned, -⟩ := (buffers_are_values handedOn careful).2 s _ ran
      exact ⟨s, rfl, values, fun p block there => (owned p block there).2⟩

/-- A buffer that was moved from and has an offset again is not assigned to
another that was moved from. -/
example :
    (Run.run Buffers.step [.construct 0, .construct 1, .moveConstruct 2 0, .moveConstruct 3 1,
      .setOffset 1 5, .moveAssign 0 1, .read 0] Store.empty).map Prod.snd = .ok [([], 0)] ∧
    (Run.run BufferValues.step [.construct 0, .construct 1, .moveConstruct 2 0,
      .moveConstruct 3 1, .setOffset 1 5, .moveAssign 0 1, .read 0]
      fun _ => none).map Prod.snd = .error .null := by
  decide +kernel

end Run

end Buffers

end UdpGame
