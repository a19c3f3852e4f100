import Mathlib.Tactic.Common

/-!
# Checked computations

A computation either returns a value or stops at the fault an unchecked program
would run into.  `Checked.assert` is the `assert` of a debug build; the other
faults are the ones such a program does not test for.
-/

/-- The ways in which a run can stop without a result. -/
inductive Fault where
  /-- A failed `assert`. -/
  | assertion
  /-- A read or a write outside the object a pointer points into. -/
  | outOfBounds
  /-- A dereferenced null pointer. -/
  | nullPointer
  /-- A downcast to a class the object is not an instance of. -/
  | badCast
  deriving DecidableEq, Repr

/-- A result, or the fault that prevented it. -/
abbrev Checked (α : Type) : Type := Except Fault α

namespace Checked

variable {α β : Type}

def assert (p : Prop) [Decidable p] : Checked Unit :=
  if p then .ok () else .error .assertion

def deref : Option α → Checked α
  | some a => .ok a
  | none => .error .nullPointer

-- Not by `rfl`: as a rewrite the equation then costs the kernel no unfolding
-- of the rest of the program.
@[simp] theorem ok_bind (a : α) (f : α → Checked β) : (Except.ok a >>= f) = f a := by
  cases rest : f a <;> exact rest

@[simp] theorem error_bind (fault : Fault) (f : α → Checked β) :
    ((Except.error fault : Checked α) >>= f) = .error fault := rfl

@[simp] theorem pure_eq_ok (a : α) : (pure a : Checked α) = .ok a := rfl

theorem assert_of {p : Prop} [Decidable p] (holds : p) : assert p = .ok () := if_pos holds

theorem assert_of_not {p : Prop} [Decidable p] (fails : ¬ p) :
    assert p = .error .assertion := if_neg fails

@[simp] theorem assert_eq_ok {p : Prop} [Decidable p] {u : Unit} : assert p = .ok u ↔ p := by
  unfold assert
  split <;> simp [*]

@[simp] theorem deref_some (a : α) : deref (some a) = .ok a := rfl

@[simp] theorem deref_eq_ok {pointer : Option α} {a : α} :
    deref pointer = .ok a ↔ pointer = some a := by
  cases pointer <;> simp [deref]

/-- A sequence that returns did both of its halves. -/
theorem bind_eq_ok {x : Checked α} {f : α → Checked β} {b : β} :
    (x >>= f) = .ok b ↔ ∃ a, x = .ok a ∧ f a = .ok b := by
  cases x with
  | error fault => simp
  | ok a => simp

end Checked
