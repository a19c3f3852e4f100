import Mathlib.Data.Finset.Basic
import Mathlib.Data.Finset.Insert
import Mathlib.Data.Finset.Lattice.Fold
import Mathlib.Order.Lattice.Nat
import Mathlib.Algebra.Order.Group.Multiset

/-!
# Handles

Programs that open handles, use them and close them again.  The system gives out
handles that are not in use; to use or to close one that is not open is an
error.  `Triple pre m post` says that `m`, started with the handles `pre` open
and whatever others, does no such thing, leaves the others alone and returns
with handles as in `post`.  Its rules are those of a program logic, among them
`Triple.guarded` for what is closed when a scope is left.
-/

namespace Handles

/-- Why a program fails: it misused a handle, or for a reason of its own. -/
inductive Failure (ε : Type) where
  | misuse
  | fault (e : ε)
  deriving DecidableEq, Repr

/-- What gives out handles. -/
structure Source (η : Type) where
  next : Finset η → η
  next_not_mem : ∀ table, next table ∉ table

/-- Numbers as handles, each one more than all that are in use. -/
def Source.nat : Source Nat where
  next table := table.sup id + 1
  next_not_mem _ member := absurd (Finset.le_sup (f := id) member) (Nat.not_succ_le_self _)

/-- A computation over the table of open handles. -/
abbrev Program (η ε α : Type) : Type := StateT (Finset η) (Except (Failure ε)) α

/-- The handle in a variable that may hold none. -/
def held {η : Type} : Option η → Multiset η
  | none => 0
  | some h => {h}

section Logic

variable {η ε α β : Type}

def lift (x : Except ε α) : Program η ε α := fun table =>
  match x with
  | .ok a => .ok (a, table)
  | .error e => .error (.fault e)

theorem lift_ok_bind (a : α) (f : α → Program η ε β) : (lift (.ok a) >>= f) = f a := rfl

theorem lift_error_bind (e : ε) (f : α → Program η ε β) :
    (lift (.error e) >>= f) = fun _ => .error (.fault e) := rfl

/-- A scope whose guards run on the variables as it leaves them. -/
def guarded (body : Program η ε (α × β)) (release : β → Program η ε Unit) : Program η ε α := do
  let (a, vars) ← body
  release vars
  return a

/-- From any table with `pre` the program returns, with what `post` says in the
place of `pre`. -/
def Triple (pre : Multiset η) (m : Program η ε α) (post : α → Multiset η → Prop) : Prop :=
  ∀ (frame : Multiset η) (table : Finset η), table.val = pre + frame →
    ∃ a table' left, m table = .ok (a, table') ∧ table'.val = left + frame ∧ post a left

namespace Triple

variable {pre : Multiset η} {m : Program η ε α} {post : α → Multiset η → Prop}

theorem pure {a : α} (holds : post a pre) : Triple pre (pure a : Program η ε α) post :=
  fun _ table shape => ⟨a, table, pre, rfl, shape, holds⟩

theorem bind {f : α → Program η ε β} {mid : α → Multiset η → Prop}
    {post : β → Multiset η → Prop} (first : Triple pre m mid)
    (next : ∀ a left, mid a left → Triple left (f a) post) : Triple pre (m >>= f) post := by
  intro frame table shape
  obtain ⟨a, table', left, ran, shape', between⟩ := first frame table shape
  obtain ⟨b, table'', left', ran', shape'', last⟩ := next a left between frame table' shape'
  refine ⟨b, table'', left', ?_, shape'', last⟩
  change (m table >>= fun r => f r.1 r.2) = _
  rw [ran]
  exact ran'

/-- Handles that a program does not know of stay as they are. -/
theorem frame (triple : Triple pre m post) (others : Multiset η) :
    Triple (pre + others) m fun a left => ∃ own, post a own ∧ left = own + others := by
  intro frame table shape
  rw [add_assoc] at shape
  obtain ⟨a, table', own, ran, shape', holds⟩ := triple (others + frame) table shape
  exact ⟨a, table', own + others, ran, by rw [shape', add_assoc], own, holds, rfl⟩

theorem lift {x : Except ε α} {a : α} (returned : x = .ok a) :
    Triple pre (Handles.lift x : Program η ε α) fun b left => b = a ∧ left = pre := by
  intro frame table shape
  subst returned
  exact ⟨a, table, pre, rfl, shape, rfl, rfl⟩

/-- What the guards close is gone, and what the scope gives away stays. -/
theorem guarded {body : Program η ε (α × β)} {release : β → Program η ε Unit}
    {owned : β → Multiset η}
    (inside : Triple pre body fun r left => ∃ given, post r.1 given ∧ left = owned r.2 + given)
    (closes : ∀ vars given, Triple (owned vars + given) (release vars) fun _ left => left = given) :
    Triple pre (guarded body release) post := by
  refine inside.bind ?_
  rintro ⟨a, vars⟩ left ⟨given, holds, rfl⟩
  refine (closes vars given).bind ?_
  rintro - left rfl
  exact pure holds

/-- A loop whose body keeps account of the handles. -/
theorem foldlM {step : α → β → Program η ε α} {account : α → Multiset η}
    (keeps : ∀ a b, Triple (account a) (step a b) fun a' left => left = account a')
    (bs : List β) (a : α) :
    Triple (account a) (bs.foldlM step a) fun a' left => left = account a' := by
  induction bs generalizing a with
  | nil => exact pure rfl
  | cons b bs ih =>
      rw [List.foldlM_cons]
      refine (keeps a b).bind ?_
      rintro a' left rfl
      exact ih a'

/-- A loop whose body needs what it finds. -/
theorem forM {γ : Type*} {step : γ → Program η ε PUnit}
    (keeps : ∀ c, Triple pre (step c) fun _ left => left = pre) (cs : List γ) :
    Triple pre (cs.forM step) fun _ left => left = pre := by
  induction cs with
  | nil => exact pure rfl
  | cons c cs ih =>
      rw [List.forM_eq_forM, List.forM_cons]
      refine (keeps c).bind ?_
      rintro - left rfl
      exact ih

end Triple

end Logic

section Operations

variable {η ε : Type} [DecidableEq η] {pre : Multiset η}

/-- The system gives out a handle, or none. -/
def create (source : Source η) (granted : Bool) : Program η ε (Option η) := fun table =>
  if granted then .ok (some (source.next table), insert (source.next table) table)
  else .ok (none, table)

/-- A system call on a handle, and whether it succeeds. -/
def call (h : η) (succeeds : Bool) : Program η ε Bool := fun table =>
  if h ∈ table then .ok (succeeds, table) else .error .misuse

/-- To close no handle is harmless. -/
def close : Option η → Program η ε Unit
  | none => pure ()
  | some h => fun table => if h ∈ table then .ok ((), table.erase h) else .error .misuse

theorem Triple.create (source : Source η) (granted : Bool) :
    Triple pre (create source granted : Program η ε (Option η)) fun h left =>
      h.isSome = granted ∧ left = held h + pre := by
  intro frame table shape
  cases granted with
  | false => exact ⟨none, table, pre, rfl, shape, rfl, (zero_add pre).symm⟩
  | true =>
      have fresh := source.next_not_mem table
      refine ⟨some (source.next table), insert (source.next table) table,
        {source.next table} + pre, rfl, ?_, rfl, rfl⟩
      rw [Finset.insert_val_of_notMem fresh, shape, Multiset.singleton_add, Multiset.cons_add]

theorem Triple.call {h : η} (member : h ∈ pre) (succeeds : Bool) :
    Triple pre (call h succeeds : Program η ε Bool) fun result left =>
      result = succeeds ∧ left = pre := by
  intro frame table shape
  have present : h ∈ table := by
    rw [← Finset.mem_val, shape, Multiset.mem_add]
    exact .inl member
  exact ⟨succeeds, table, pre, if_pos present, shape, rfl, rfl⟩

theorem Triple.close (h : Option η) (others : Multiset η) :
    Triple (held h + others) (close h : Program η ε Unit) fun _ left => left = others := by
  intro frame table shape
  cases h with
  | none =>
      rw [held, zero_add] at shape
      exact ⟨(), table, others, rfl, shape, rfl⟩
  | some h =>
      rw [held, add_assoc, Multiset.singleton_add] at shape
      have present : h ∈ table := by
        rw [← Finset.mem_val, shape]
        exact Multiset.mem_cons_self h _
      refine ⟨(), table.erase h, others, if_pos present, ?_, rfl⟩
      rw [Finset.erase_val, shape, Multiset.erase_cons_head]

end Operations

end Handles
