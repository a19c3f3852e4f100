import Mathlib.Tactic.Common
import Mathlib.Logic.Function.Basic
import Mathlib.Data.List.Nodup

/-!
# Objects that own blocks

Objects under names, each with a `unique_ptr` and other members, over a heap.
The operations are those of the pointer; `Store.Owned` is what makes it unique.
A user of the objects need not know of the heap: `Store.view` shows each object
with the block it owns in place of the pointer, and every operation on stores is
one on views (`Refines`).
-/

namespace UniquePtr

/-- What a program must not do. -/
inductive Misuse where
  /-- The use of an object outside its lifetime. -/
  | dead
  /-- A constructor run on an object that is alive. -/
  | alive
  /-- A `delete` of a block that is not there. -/
  | doubleFree
  /-- An access to a block that is not there. -/
  | dangling
  /-- An access through a null pointer. -/
  | null
  /-- An access outside a block. -/
  | outside
  deriving DecidableEq, Repr

/-- The objects that are alive, with their pointers and members of type `α`, and
the blocks of type `β` by address. -/
structure Store (κ α β : Type) where
  objects : κ → Option (Option Nat × α)
  heap : Nat → Option β
  next : Nat

/-- The objects that are alive, with their blocks. -/
abbrev View (κ α β : Type) : Type := κ → Option (Option β × α)

/-- An object with a pointer or a block. -/
def alive {τ : Type} : Option τ → Except Misuse τ
  | some o => .ok o
  | none => .error .dead

namespace Store

variable {κ α β : Type}

def empty : Store κ α β := ⟨fun _ => none, fun _ => none, 0⟩

variable [DecidableEq κ]

def set (s : Store κ α β) (k : κ) (o : Option (Option Nat × α)) : Store κ α β :=
  { s with objects := Function.update s.objects k o }

/-- `delete`; nothing happens to a null pointer. -/
def delete (s : Store κ α β) : Option Nat → Except Misuse (Store κ α β)
  | none => .ok s
  | some p =>
      match s.heap p with
      | none => .error .doubleFree
      | some _ => .ok { s with heap := Function.update s.heap p none }

/-- A constructor with `p(std::make_unique<...>(...))`, and `b` in the new block. -/
def make (k : κ) (b : β) (a : α) (s : Store κ α β) : Except Misuse (Store κ α β) :=
  match s.objects k with
  | some _ => .error .alive
  | none => .ok
      { objects := Function.update s.objects k (some (some s.next, a))
        heap := Function.update s.heap s.next (some b)
        next := s.next + 1 }

/-- A constructor with `p(std::move(other.p))`. -/
def take (k other : κ) (a : α) (s : Store κ α β) : Except Misuse (Store κ α β) :=
  match s.objects k with
  | some _ => .error .alive
  | none => do
    let (p, a') ← alive (s.objects other)
    return (s.set other (some (none, a'))).set k (some (p, a))

/-- `p.reset()`. -/
def reset (k : κ) (s : Store κ α β) : Except Misuse (Store κ α β) := do
  let (p, a) ← alive (s.objects k)
  let s ← s.delete p
  return s.set k (some (none, a))

/-- `p = std::move(other.p)`: the other pointer is released before this one is
reset to it. -/
def assign (k other : κ) (s : Store κ α β) : Except Misuse (Store κ α β) := do
  let (p, a') ← alive (s.objects other)
  let (old, a) ← alive ((s.set other (some (none, a'))).objects k)
  let s ← s.delete old
  return (s.set other (some (none, a'))).set k (some (p, a))

/-- Another value for the members. -/
def members (k : κ) (a : α) (s : Store κ α β) : Except Misuse (Store κ α β) := do
  let (p, _) ← alive (s.objects k)
  return s.set k (some (p, a))

/-- A destructor. -/
def destroy (k : κ) (s : Store κ α β) : Except Misuse (Store κ α β) := do
  let (p, _) ← alive (s.objects k)
  let s ← s.delete p
  return s.set k none

/-- The block behind `p.get()`. -/
def deref (k : κ) (s : Store κ α β) : Except Misuse β := do
  let (p, _) ← alive (s.objects k)
  match p with
  | none => .error .null
  | some p =>
      match s.heap p with
      | none => .error .dangling
      | some b => .ok b

/-- Another value for the block behind `p.get()`. -/
def write (k : κ) (b : β) (s : Store κ α β) : Except Misuse (Store κ α β) := do
  let (p, _) ← alive (s.objects k)
  match p with
  | none => .error .null
  | some p =>
      match s.heap p with
      | none => .error .dangling
      | some _ => return { s with heap := Function.update s.heap p (some b) }

end Store

/-! ## The same on views -/

namespace View

variable {κ α β : Type} [DecidableEq κ]

def make (k : κ) (b : β) (a : α) (v : View κ α β) : Except Misuse (View κ α β) :=
  match v k with
  | some _ => .error .alive
  | none => .ok (Function.update v k (some (some b, a)))

def take (k other : κ) (a : α) (v : View κ α β) : Except Misuse (View κ α β) :=
  match v k with
  | some _ => .error .alive
  | none => do
    let (b, a') ← alive (v other)
    return Function.update (Function.update v other (some (none, a'))) k (some (b, a))

def reset (k : κ) (v : View κ α β) : Except Misuse (View κ α β) := do
  let (_, a) ← alive (v k)
  return Function.update v k (some (none, a))

def assign (k other : κ) (v : View κ α β) : Except Misuse (View κ α β) := do
  let (b, a') ← alive (v other)
  let v := Function.update v other (some (none, a'))
  let (_, a) ← alive (v k)
  return Function.update v k (some (b, a))

def members (k : κ) (a : α) (v : View κ α β) : Except Misuse (View κ α β) := do
  let (b, _) ← alive (v k)
  return Function.update v k (some (b, a))

def destroy (k : κ) (v : View κ α β) : Except Misuse (View κ α β) := do
  let _ ← alive (v k)
  return Function.update v k none

def deref (k : κ) (v : View κ α β) : Except Misuse β := do
  let (b, _) ← alive (v k)
  match b with
  | none => .error .null
  | some b => return b

def write (k : κ) (b : β) (v : View κ α β) : Except Misuse (View κ α β) := do
  let (old, a) ← alive (v k)
  match old with
  | none => .error .null
  | some _ => return Function.update v k (some (some b, a))

end View

/-! ## Ownership -/

namespace Store

variable {κ α β : Type}

def pointer (s : Store κ α β) (k : κ) : Option Nat := (s.objects k).bind Prod.fst

/-- The blocks are those of `owner`, each behind the pointer of its owner alone. -/
structure OwnedBy (owner : Nat → Option κ) (s : Store κ α β) : Prop where
  pointer : ∀ k p, s.pointer k = some p ↔ owner p = some k
  block : ∀ p, s.heap p = none ↔ owner p = none
  old : ∀ p, s.next ≤ p → owner p = none

/-- Every pointer has its block, no two have the same, and every block has its
pointer. -/
def Owned (s : Store κ α β) : Prop := ∃ owner, s.OwnedBy owner

theorem owned_empty : (empty : Store κ α β).Owned :=
  ⟨fun _ => none, by constructor <;> simp [pointer, empty]⟩

def view (s : Store κ α β) : View κ α β := fun k =>
  (s.objects k).map fun o => (o.1.bind s.heap, o.2)

variable {owner : Nat → Option κ} {s s' : Store κ α β} {k other : κ} {a a' : α} {b : β}

theorem view_of_objects {o : Option Nat × α} (held : s.objects k = some o) :
    s.view k = some (o.1.bind s.heap, o.2) := by
  rw [view, held, Option.map_some]

theorem view_of_dead (dead : s.objects k = none) : s.view k = none := by
  rw [view, dead, Option.map_none]

theorem pointer_of_objects {o : Option Nat × α} (held : s.objects k = some o) :
    s.pointer k = o.1 := by
  rw [pointer, held, Option.bind_some]

theorem pointer_of_dead (dead : s.objects k = none) : s.pointer k = none := by
  rw [pointer, dead, Option.bind_none]

theorem OwnedBy.owner_of_objects (owned : s.OwnedBy owner) {p : Nat}
    (held : s.objects k = some (some p, a)) : owner p = some k :=
  (owned.pointer k p).mp (pointer_of_objects held)

/-- A pointer that is not null has its block. -/
theorem OwnedBy.exists_block (owned : s.OwnedBy owner) {p : Nat}
    (held : s.objects k = some (some p, a)) : ∃ b, s.heap p = some b := by
  have mine := owned.owner_of_objects held
  rw [← Option.ne_none_iff_exists', Ne, owned.block, mine]
  exact nofun

/-- Two objects have the same pointer if they are one, or both have none. -/
theorem Owned.pointer_eq_iff (owned : s.Owned) {p p' : Option Nat}
    (held : s.objects k = some (p, a)) (held' : s.objects other = some (p', a')) :
    p = p' ↔ k = other ∨ p.bind s.heap = none ∧ p'.bind s.heap = none := by
  obtain ⟨owner, owned⟩ := owned
  constructor
  · rintro rfl
    cases p with
    | none => exact .inr ⟨rfl, rfl⟩
    | some p =>
        have mine := owned.owner_of_objects held
        rw [owned.owner_of_objects held'] at mine
        exact .inl (Option.some.inj mine).symm
  · rintro (rfl | ⟨without, without'⟩)
    · rw [held] at held'
      cases held'
      rfl
    · have null : ∀ {k p a}, s.objects k = some (p, a) → p.bind s.heap = none → p = none := by
        intro k p a held without
        cases p with
        | none => rfl
        | some p =>
            obtain ⟨b, block⟩ := owned.exists_block held
            rw [Option.bind_some, block] at without
            cases without
      rw [null held without, null held' without']

theorem Owned.block_of_pointer (owned : s.Owned) {p : Nat} (pointer : s.pointer k = some p) :
    s.heap p ≠ none := by
  obtain ⟨owner, owned⟩ := owned
  rw [Ne, owned.block, (owned.pointer k p).mp pointer]
  exact nofun

/-- A block is behind the pointer of a single object. -/
theorem Owned.exists_unique (owned : s.Owned) {p : Nat} (block : s.heap p = some b) :
    ∃! k, s.pointer k = some p := by
  obtain ⟨owner, owned⟩ := owned
  have there : owner p ≠ none := by
    rw [Ne, ← owned.block, block]
    exact nofun
  obtain ⟨k, mine⟩ := Option.ne_none_iff_exists'.mp there
  refine ⟨k, (owned.pointer k p).mpr mine, fun k' pointer => ?_⟩
  have mine' := (owned.pointer k' p).mp pointer
  rw [mine] at mine'
  exact (Option.some.inj mine').symm

/-- What an object shows changes with its pointer and with the block behind it. -/
theorem OwnedBy.view_of_ne (owned : s.OwnedBy owner) (objects : s'.objects k = s.objects k)
    (heap : ∀ p, owner p = some k → s'.heap p = s.heap p) : s'.view k = s.view k := by
  rw [view, view, objects]
  cases held : s.objects k with
  | none => rfl
  | some o =>
      obtain ⟨p, a⟩ := o
      cases p with
      | none => rfl
      | some p => simp only [Option.map_some, Option.bind_some, heap p (owned.owner_of_objects held)]

/-- The same pointers to the same addresses. -/
theorem OwnedBy.congr (owned : s.OwnedBy owner) (pointers : ∀ k, s'.pointer k = s.pointer k)
    (blocks : ∀ p, s'.heap p = none ↔ s.heap p = none) (next : s'.next = s.next) :
    s'.OwnedBy owner where
  pointer k p := by rw [pointers, owned.pointer]
  block p := by rw [blocks, owned.block]
  old p above := owned.old p (next ▸ above)

theorem delete_of_block {p : Nat} (block : s.heap p = some b) :
    s.delete (some p) = .ok { s with heap := Function.update s.heap p none } := by
  simp only [delete, block]

/-- As many blocks as there are objects that show one. -/
theorem Owned.exists_addresses (owned : s.Owned) {names : List κ} (distinct : names.Nodup)
    (all : ∀ k, k ∈ names ↔ ∃ b a, s.view k = some (some b, a)) :
    ∃ addresses : List Nat, addresses.Nodup ∧ addresses.length = names.length ∧
      ∀ p, s.heap p ≠ none ↔ p ∈ addresses := by
  obtain ⟨owner, owned⟩ := owned
  have pointers : ∀ k ∈ names, ∃ p, s.pointer k = some p := by
    intro k member
    obtain ⟨b, a, shown⟩ := (all k).mp member
    obtain ⟨o, held, same⟩ := Option.map_eq_some_iff.mp shown
    cases null : o.1 with
    | none =>
        rw [null] at same
        cases same
    | some p => exact ⟨p, (pointer_of_objects held).trans null⟩
  have exact : ∀ p, s.heap p ≠ none ↔ ∃ k ∈ names, s.pointer k = some p := by
    intro p
    rw [Ne, owned.block, ← Ne, Option.ne_none_iff_exists']
    constructor
    · rintro ⟨k, mine⟩
      have pointer := (owned.pointer k p).mpr mine
      refine ⟨k, (all k).mpr ?_, pointer⟩
      obtain ⟨o, held, same⟩ := Option.bind_eq_some_iff.mp pointer
      obtain ⟨b, block⟩ := owned.exists_block (k := k) (a := o.2) (p := p) (by rw [held, ← same])
      exact ⟨b, o.2, by rw [view_of_objects held, same, Option.bind_some, block]⟩
    · rintro ⟨k, -, pointer⟩
      exact ⟨k, (owned.pointer k p).mp pointer⟩
  refine ⟨names.filterMap s.pointer, ?_, ?_, fun p => ?_⟩
  · refine List.Nodup.filterMap (fun k k' p first second => ?_) distinct
    have mine := (owned.pointer k p).mp first
    rw [(owned.pointer k' p).mp second] at mine
    exact (Option.some.inj mine).symm
  · rw [List.length_filterMap_eq_countP, List.countP_eq_length]
    intro k member
    obtain ⟨p, pointer⟩ := pointers k member
    rw [pointer]
    rfl
  · rw [exact, List.mem_filterMap]

variable [DecidableEq κ]

theorem objects_set_self (o : Option (Option Nat × α)) : (s.set k o).objects k = o :=
  Function.update_self ..

theorem objects_set_of_ne (apart : k ≠ other) (o : Option (Option Nat × α)) :
    (s.set other o).objects k = s.objects k := Function.update_of_ne apart ..

theorem view_set (o : Option (Option Nat × α)) :
    (s.set k o).view = Function.update s.view k (o.map fun o => (o.1.bind s.heap, o.2)) := by
  funext k'
  by_cases same : k' = k
  · subst same
    simp only [view, set, Function.update_self]
  · simp only [view, set, Function.update_of_ne same]

/-- A new block for an object that is not yet there. -/
theorem OwnedBy.make (owned : s.OwnedBy owner) (dead : s.objects k = none) :
    OwnedBy (Function.update owner s.next (some k))
      { objects := Function.update s.objects k (some (some s.next, a))
        heap := Function.update s.heap s.next (some b)
        next := s.next + 1 } := by
  have ⟨pointers, blocks, old⟩ := owned
  have fresh := old s.next (Nat.le_refl _)
  simp only [Store.pointer] at pointers
  refine ⟨fun k' p => ?_, fun p => ?_, fun p above => ?_⟩
  · simp only [Store.pointer, Function.update_apply]
    grind
  · simp only [Function.update_apply]
    grind
  · simp only [Function.update_apply]
    grind

/-- A block goes with the pointer to it. -/
theorem OwnedBy.free (owned : s.OwnedBy owner) {p : Nat} (held : s.objects k = some (some p, a))
    {o : Option (Option Nat × α)} (null : o.bind Prod.fst = none) :
    OwnedBy (Function.update owner p none)
      ({ s with heap := Function.update s.heap p none }.set k o) := by
  have ⟨pointers, blocks, old⟩ := owned
  simp only [Store.pointer] at pointers
  refine ⟨fun k' p => ?_, fun p => ?_, fun p above => ?_⟩
  · simp only [Store.pointer, set, Function.update_apply]
    grind
  · simp only [set, Function.update_apply]
    grind
  · simp only [set, Function.update_apply] at above ⊢
    grind

theorem OwnedBy.view_free (owned : s.OwnedBy owner) {p : Nat}
    (held : s.objects k = some (some p, a)) (o : Option α) (k' : κ) :
    ({ s with heap := Function.update s.heap p none }.set k (o.map fun a => (none, a))).view k' =
      Function.update s.view k (o.map fun a => (none, a)) k' := by
  have mine := owned.owner_of_objects held
  by_cases same : k' = k
  · subst same
    rw [view_set, Function.update_self, Function.update_self, Option.map_map]
    rfl
  · rw [view_set, Function.update_of_ne same, Function.update_of_ne same]
    refine owned.view_of_ne rfl fun q other => Function.update_of_ne (fun freed => same ?_) ..
    subst freed
    rw [mine] at other
    exact (Option.some.inj other).symm

/-- A pointer moves to an object that has none. -/
theorem OwnedBy.move (owned : s.OwnedBy owner) (null : s.pointer k = none)
    {p : Option Nat} (held : s.objects other = some (p, a')) :
    Owned ((s.set other (some (none, a'))).set k (some (p, a))) := by
  have ⟨pointers, blocks, old⟩ := owned
  simp only [Store.pointer] at pointers null
  cases p with
  | none =>
      refine ⟨owner, owned.congr (fun k' => ?_) (fun p => Iff.rfl) rfl⟩
      simp only [Store.pointer, set, Function.update_apply]
      grind
  | some p =>
      refine ⟨Function.update owner p (some k), fun k' p => ?_, fun p => ?_, fun p above => ?_⟩
      · simp only [Store.pointer, set, Function.update_apply]
        grind
      · simp only [set, Function.update_apply]
        grind
      · simp only [set, Function.update_apply] at above ⊢
        grind

end Store

/-- What happens to a store is what happens to its view, and leaves it owned. -/
def Refines {κ α β : Type} (x : Except Misuse (Store κ α β)) (y : Except Misuse (View κ α β)) :
    Prop :=
  match x with
  | .error e => y = .error e
  | .ok s => s.Owned ∧ y = .ok s.view

@[simp] theorem alive_some {τ : Type} (o : τ) : alive (some o) = .ok o := rfl

@[simp] theorem pure_eq_ok {τ : Type} (o : τ) : (pure o : Except Misuse τ) = .ok o := rfl

@[simp] theorem ok_bind {τ υ : Type} (o : τ) (f : τ → Except Misuse υ) :
    (Except.ok o >>= f) = f o := rfl

theorem alive_eq_ok {τ : Type} {o : Option τ} {a : τ} : alive o = .ok a ↔ o = some a := by
  cases o <;> simp [alive]

theorem bind_eq_ok {τ υ : Type} {x : Except Misuse τ} {f : τ → Except Misuse υ} {b : υ} :
    (x >>= f) = .ok b ↔ ∃ a, x = .ok a ∧ f a = .ok b := by
  cases x with
  | error e => simp [bind, Except.bind]
  | ok a => simp

theorem bind_eq_error {τ υ : Type} {x : Except Misuse τ} {f : τ → Except Misuse υ} {e : Misuse} :
    (x >>= f) = .error e ↔ x = .error e ∨ ∃ a, x = .ok a ∧ f a = .error e := by
  cases x with
  | error e' => simp [bind, Except.bind]
  | ok a => simp

section Refines

variable {κ α β : Type} {s : Store κ α β}

theorem Refines.ok {v : View κ α β} (owned : s.Owned) (same : ∀ k, s.view k = v k) :
    Refines (.ok s) (.ok v) :=
  ⟨owned, congrArg Except.ok (funext fun k => (same k).symm)⟩

/-- What follows is known to start from the view `v`. -/
theorem Refines.bind_ok {x : Except Misuse (Store κ α β)} {v : View κ α β}
    {f : Store κ α β → Except Misuse (Store κ α β)} {y : Except Misuse (View κ α β)}
    (first : Refines x (.ok v)) (next : ∀ s : Store κ α β, s.Owned → s.view = v → Refines (f s) y) :
    Refines (x >>= f) y := by
  cases x with
  | error e => cases first
  | ok s => exact next s first.1 (Except.ok.inj first.2).symm

theorem Refines.bind_error {x : Except Misuse (Store κ α β)} {e : Misuse}
    {f : Store κ α β → Except Misuse (Store κ α β)} (failed : Refines x (.error e)) :
    Refines (x >>= f) (.error e) := by
  cases x with
  | error e' => exact failed
  | ok s => cases failed.2

variable {k other : κ} {a : α} {b : β}

theorem deref_eq (owned : s.Owned) : s.deref k = View.deref k s.view := by
  obtain ⟨owner, owned⟩ := owned
  unfold Store.deref View.deref
  cases held : s.objects k with
  | none =>
      rw [Store.view_of_dead held]
      rfl
  | some o =>
      obtain ⟨p, a⟩ := o
      simp only [Store.view_of_objects held, alive_some, ok_bind]
      cases p with
      | none => rfl
      | some p =>
          obtain ⟨b, block⟩ := owned.exists_block held
          simp only [Option.bind_some, block]
          rfl

variable [DecidableEq κ]

theorem refines_make (owned : s.Owned) : Refines (s.make k b a) (View.make k b a s.view) := by
  obtain ⟨owner, owned⟩ := owned
  unfold Store.make View.make
  cases held : s.objects k with
  | some o =>
      rw [Store.view_of_objects held]
      rfl
  | none =>
      rw [Store.view_of_dead held]
      refine .ok ⟨_, owned.make held⟩ fun k' => ?_
      by_cases same : k' = k
      · subst same
        simp only [Store.view, Function.update_self, Option.map_some, Option.bind_some]
      · rw [Function.update_of_ne same]
        refine owned.view_of_ne (Function.update_of_ne same ..) fun p mine => ?_
        have fresh := owned.old s.next (Nat.le_refl _)
        refine Function.update_of_ne (fun next => ?_) ..
        subst next
        rw [fresh] at mine
        cases mine

theorem refines_take (owned : s.Owned) : Refines (s.take k other a) (View.take k other a s.view) := by
  obtain ⟨owner, owned⟩ := owned
  unfold Store.take View.take
  cases held : s.objects k with
  | some o =>
      rw [Store.view_of_objects held]
      rfl
  | none =>
      rw [Store.view_of_dead held]
      cases held' : s.objects other with
      | none =>
          simp only [Store.view_of_dead held']
          rfl
      | some o =>
          obtain ⟨p, a'⟩ := o
          simp only [Store.view_of_objects held']
          refine .ok (owned.move (Store.pointer_of_dead held) held') fun k' => ?_
          rw [Store.view_set, Store.view_set]
          rfl

theorem refines_reset (owned : s.Owned) : Refines (s.reset k) (View.reset k s.view) := by
  obtain ⟨owner, owned⟩ := owned
  unfold Store.reset View.reset
  cases held : s.objects k with
  | none =>
      rw [Store.view_of_dead held]
      rfl
  | some o =>
      obtain ⟨p, a⟩ := o
      rw [Store.view_of_objects held, alive_some, alive_some, ok_bind, ok_bind]
      cases p with
      | none =>
          refine .ok ⟨owner, owned.congr (fun k' => ?_) (fun p => Iff.rfl) rfl⟩ fun k' => ?_
          · simp only [Store.pointer, Store.set, Function.update_apply]
            grind
          · rw [Store.view_set]
            rfl
      | some p =>
          obtain ⟨b, block⟩ := owned.exists_block held
          simp only [Store.delete_of_block block, ok_bind]
          exact .ok ⟨_, owned.free held rfl⟩ (owned.view_free held (some a))

theorem refines_destroy (owned : s.Owned) : Refines (s.destroy k) (View.destroy k s.view) := by
  obtain ⟨owner, owned⟩ := owned
  unfold Store.destroy View.destroy
  cases held : s.objects k with
  | none =>
      rw [Store.view_of_dead held]
      rfl
  | some o =>
      obtain ⟨p, a⟩ := o
      rw [Store.view_of_objects held, alive_some, alive_some, ok_bind, ok_bind]
      cases p with
      | none =>
          refine .ok ⟨owner, owned.congr (fun k' => ?_) (fun p => Iff.rfl) rfl⟩ fun k' => ?_
          · simp only [Store.pointer, Store.set, Function.update_apply]
            grind
          · rw [Store.view_set]
            rfl
      | some p =>
          obtain ⟨b, block⟩ := owned.exists_block held
          simp only [Store.delete_of_block block, ok_bind]
          exact .ok ⟨_, owned.free held rfl⟩ (owned.view_free held none)

/-- What was under a key is lost when something else is put there, now or later. -/
theorem update_update_update {τ : Type} (f : κ → τ) (apart : k ≠ other) (x y z : τ) :
    Function.update (Function.update (Function.update f k z) other x) k y =
      Function.update (Function.update f other x) k y := by
  rw [Function.update_comm apart, Function.update_idem, Function.update_comm apart.symm]

theorem refines_assign (owned : s.Owned) :
    Refines (s.assign k other) (View.assign k other s.view) := by
  obtain ⟨owner, owned⟩ := owned
  unfold Store.assign View.assign
  cases held' : s.objects other with
  | none =>
      rw [Store.view_of_dead held']
      rfl
  | some o =>
      obtain ⟨p, a'⟩ := o
      simp only [Store.view_of_objects held', alive_some, ok_bind]
      by_cases same : k = other
      · subst same
        simp only [Store.objects_set_self, Function.update_self, alive_some, ok_bind, Store.delete]
        refine .ok ⟨owner, owned.congr (fun k' => ?_) (fun p => Iff.rfl) rfl⟩ fun k' => ?_
        · simp only [Store.pointer, Store.set, Function.update_apply]
          grind
        · rw [Store.view_set, Store.view_set]
          rfl
      · simp only [Store.objects_set_of_ne same, Function.update_of_ne same]
        cases held : s.objects k with
        | none =>
            rw [Store.view_of_dead held]
            rfl
        | some o =>
            obtain ⟨old, a⟩ := o
            simp only [Store.view_of_objects held, alive_some, ok_bind]
            cases old with
            | none =>
                refine .ok (owned.move (Store.pointer_of_objects held) held') fun k' => ?_
                rw [Store.view_set, Store.view_set]
                rfl
            | some q =>
                obtain ⟨b, block⟩ := owned.exists_block held
                simp only [Store.delete_of_block block, ok_bind]
                -- The same as a move to the object after a reset of its pointer.
                have freed := owned.free held (o := some (none, a)) rfl
                have shown : ({ s with heap := Function.update s.heap q none }.set k
                    (some (none, a))).view = Function.update s.view k (some (none, a)) :=
                  funext (owned.view_free held (some a))
                generalize reset : { s with heap := Function.update s.heap q none } = s' at *
                have apart : (s'.set k (some (none, a))).objects other = some (p, a') := by
                  rw [Store.objects_set_of_ne fun eq => same eq.symm, ← reset]
                  exact held'
                have null : (s'.set k (some (none, a))).pointer k = none :=
                  Store.pointer_of_objects (Store.objects_set_self _)
                have moved : (((s'.set k (some (none, a))).set other (some (none, a'))).set k
                    (some (p, a))).Owned := freed.move null apart
                have block' : p.bind s'.heap = p.bind s.heap := by
                  have there := congrFun shown other
                  rw [Store.view_of_objects apart,
                    Function.update_of_ne fun eq => same eq.symm,
                    Store.view_of_objects held', Option.some.injEq, Prod.mk.injEq] at there
                  exact there.1
                have same_store : ((s'.set k (some (none, a))).set other (some (none, a'))).set k
                    (some (p, a)) = (s'.set other (some (none, a'))).set k (some (p, a)) := by
                  simp only [Store.set, update_update_update _ same]
                refine .ok (same_store ▸ moved) fun k' => ?_
                rw [← same_store, Store.view_set, Store.view_set, shown, update_update_update _ same]
                simp only [Option.map_some, Store.set, block']
                rfl

theorem refines_members (owned : s.Owned) :
    Refines (s.members k a) (View.members k a s.view) := by
  obtain ⟨owner, owned⟩ := owned
  unfold Store.members View.members
  cases held : s.objects k with
  | none =>
      rw [Store.view_of_dead held]
      rfl
  | some o =>
      obtain ⟨p, a'⟩ := o
      simp only [Store.view_of_objects held, alive_some, ok_bind]
      refine .ok ⟨owner, owned.congr (fun k' => ?_) (fun p => Iff.rfl) rfl⟩ fun k' => ?_
      · simp only [Store.pointer, Store.set, Function.update_apply]
        grind
      · rw [Store.view_set]
        rfl

theorem refines_write (owned : s.Owned) : Refines (s.write k b) (View.write k b s.view) := by
  obtain ⟨owner, owned⟩ := owned
  unfold Store.write View.write
  cases held : s.objects k with
  | none =>
      rw [Store.view_of_dead held]
      rfl
  | some o =>
      obtain ⟨p, a⟩ := o
      simp only [Store.view_of_objects held, alive_some, ok_bind]
      cases p with
      | none => rfl
      | some p =>
          obtain ⟨old, block⟩ := owned.exists_block held
          simp only [Option.bind_some, block]
          refine .ok ⟨owner, owned.congr (fun _ => rfl) (fun q => ?_) rfl⟩ fun k' => ?_
          · simp only [Function.update_apply]
            grind
          · by_cases same : k' = k
            · subst same
              simp only [Store.view, held, Option.map_some, Option.bind_some, Function.update_self]
            · rw [Function.update_of_ne same]
              refine owned.view_of_ne rfl fun q mine => Function.update_of_ne (fun eq => same ?_) ..
              subst eq
              rw [owned.owner_of_objects held] at mine
              exact (Option.some.inj mine).symm

end Refines

end UniquePtr
