import Mathlib.Logic.Function.Basic

/-!
# Folds that keep their letters apart

A fold whose step is injective in its state, for each letter, and in its letter,
for each state.  Such a fold is injective in the state it starts from, so two
words that differ in one letter are folded to different states, whatever stands
in front of that letter and behind it.
-/

namespace Absorb

variable {State Letter : Type}

structure Absorbing (step : State → Letter → State) : Prop where
  state : ∀ letter, Function.Injective fun state => step state letter
  letter : ∀ state, Function.Injective (step state)

namespace Absorbing

variable {step : State → Letter → State}

theorem foldl_injective (absorbing : Absorbing step) (word : List Letter) :
    Function.Injective fun state => word.foldl step state := by
  induction word with
  | nil => exact Function.injective_id
  | cons letter word ih => exact ih.comp (absorbing.state letter)

/-- The fold tells two words apart that differ in one letter. -/
theorem foldl_ne (absorbing : Absorbing step) (state : State) (front back : List Letter)
    {a b : Letter} (differ : a ≠ b) :
    (front ++ [a] ++ back).foldl step state ≠ (front ++ [b] ++ back).foldl step state := by
  intro same
  simp only [List.foldl_append, List.foldl_cons, List.foldl_nil] at same
  have before := absorbing.foldl_injective back same
  exact differ (absorbing.letter _ before)

end Absorbing

end Absorb
