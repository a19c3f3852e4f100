import Mathlib.Tactic.Common
import Mathlib.Data.List.Induction
import Mathlib.Algebra.BigOperators.Group.List.Basic
import Mathlib.Algebra.Order.Monoid.Defs

/-!
# Runs of a step function

`Run.run step inputs s` feeds `inputs` to a fallible step function one after
another and collects what the steps put out.  The module packages the
inductions over runs: `run_invariant` for properties of states,
`run_induction` for properties that also speak of the inputs and outputs so
far.
-/

namespace Run

variable {σ ι ο ε : Type*}

/-- Feed the inputs to `step` in order; the first error ends the run. -/
def run (step : ι → σ → Except ε (σ × List ο)) : List ι → σ → Except ε (σ × List ο)
  | [], s => .ok (s, [])
  | input :: inputs, s =>
      match step input s with
      | .error e => .error e
      | .ok (s', out) =>
          match run step inputs s' with
          | .error e => .error e
          | .ok (s'', outs) => .ok (s'', out ++ outs)

variable {step : ι → σ → Except ε (σ × List ο)}

@[simp] theorem run_nil (s : σ) : run step [] s = .ok (s, []) := rfl

theorem run_cons_eq_ok {input : ι} {inputs : List ι} {s t : σ} {outs : List ο} :
    run step (input :: inputs) s = .ok (t, outs) ↔
      ∃ s' out rest, step input s = .ok (s', out) ∧
        run step inputs s' = .ok (t, rest) ∧ outs = out ++ rest := by
  constructor
  · intro ran
    simp only [run] at ran
    split at ran
    · cases ran
    · rename_i s' out stepped
      split at ran
      · cases ran
      · rename_i s'' rest later
        cases ran
        exact ⟨s', out, rest, stepped, later, rfl⟩
  · intro done
    rcases done with ⟨s', out, rest, stepped, later, rfl⟩
    simp only [run, stepped, later]

theorem run_append (first second : List ι) (s : σ) :
    run step (first ++ second) s =
      match run step first s with
      | .error e => .error e
      | .ok (s', left) =>
          match run step second s' with
          | .error e => .error e
          | .ok (t, right) => .ok (t, left ++ right) := by
  induction first generalizing s with
  | nil =>
      cases later : run step second s with
      | error e => simp only [List.nil_append, run, later]
      | ok done => simp only [List.nil_append, run, later]
  | cons input first ih =>
      simp only [List.cons_append, run]
      cases step input s with
      | error e => rfl
      | ok next =>
          simp only [ih]
          cases run step first next.1 with
          | error e => rfl
          | ok mid =>
              cases later : run step second mid.1 with
              | error e => simp only [later]
              | ok done => simp only [later, List.append_assoc]

/-- A run over two input sequences is a run over the first followed by one over
the second. -/
theorem run_append_eq_ok {first second : List ι} {s t : σ} {outs : List ο} :
    run step (first ++ second) s = .ok (t, outs) ↔
      ∃ s' left right, run step first s = .ok (s', left) ∧
        run step second s' = .ok (t, right) ∧ outs = left ++ right := by
  induction first generalizing s outs with
  | nil =>
      constructor
      · intro ran
        exact ⟨s, [], outs, rfl, ran, rfl⟩
      · intro done
        rcases done with ⟨s', left, right, ran, later, rfl⟩
        cases ran
        exact later
  | cons input first ih =>
      rw [List.cons_append, run_cons_eq_ok]
      constructor
      · intro done
        rcases done with ⟨s', out, rest, stepped, later, rfl⟩
        rcases ih.mp later with ⟨s'', left, right, ran, last, rfl⟩
        exact ⟨s'', out ++ left, right, run_cons_eq_ok.mpr ⟨s', out, left, stepped, ran, rfl⟩,
          last, (List.append_assoc ..).symm⟩
      · intro done
        rcases done with ⟨s'', left, right, ran, last, rfl⟩
        rcases run_cons_eq_ok.mp ran with ⟨s', out, rest, stepped, later, rfl⟩
        exact ⟨s', out, rest ++ right, stepped, ih.mpr ⟨s'', rest, right, later, last, rfl⟩,
          List.append_assoc ..⟩

theorem run_append_of {first second : List ι} {s s' t : σ} {left right : List ο}
    (ran : run step first s = .ok (s', left)) (later : run step second s' = .ok (t, right)) :
    run step (first ++ second) s = .ok (t, left ++ right) :=
  run_append_eq_ok.mpr ⟨s', left, right, ran, later, rfl⟩

theorem run_snoc_eq_ok {past : List ι} {input : ι} {s t : σ} {outs : List ο} :
    run step (past ++ [input]) s = .ok (t, outs) ↔
      ∃ s' left out, run step past s = .ok (s', left) ∧
        step input s' = .ok (t, out) ∧ outs = left ++ out := by
  rw [run_append_eq_ok]
  constructor
  · intro done
    rcases done with ⟨s', left, right, ran, last, rfl⟩
    rcases run_cons_eq_ok.mp last with ⟨t', out, rest, stepped, done, rfl⟩
    cases done
    exact ⟨s', left, out, ran, stepped, by rw [List.append_nil]⟩
  · intro done
    rcases done with ⟨s', left, out, ran, stepped, rfl⟩
    exact ⟨s', left, out, ran,
      run_cons_eq_ok.mpr ⟨t, out, [], stepped, rfl, (List.append_nil out).symm⟩, rfl⟩

/-- Inputs under another name. -/
theorem run_map {κ : Type*} (f : κ → ι) (inputs : List κ) (s : σ) :
    run step (inputs.map f) s = run (fun input => step (f input)) inputs s := by
  induction inputs generalizing s with
  | nil => rfl
  | cons input inputs ih => simp only [List.map_cons, run, ih]

/-- A run that fails does so at some step it gets to. -/
theorem exists_of_run_eq_error {inputs : List ι} {s : σ} {e : ε}
    (failed : run step inputs s = .error e) :
    ∃ past input rest s' outs, inputs = past ++ input :: rest ∧
      run step past s = .ok (s', outs) ∧ step input s' = .error e := by
  induction inputs generalizing s with
  | nil => cases failed
  | cons input inputs ih =>
      simp only [run] at failed
      split at failed
      · rename_i stepped
        cases failed
        exact ⟨[], input, inputs, s, [], rfl, rfl, stepped⟩
      · rename_i s' out stepped
        split at failed
        · rename_i later
          cases failed
          rcases ih later with ⟨past, input', rest, t, outs, rfl, ran, last⟩
          exact ⟨input :: past, input', rest, t, out ++ outs, rfl,
            run_cons_eq_ok.mpr ⟨s', out, outs, stepped, ran, rfl⟩, last⟩
        · cases failed

/-- Induction over a run from its start: the motive sees the inputs consumed
and the outputs made so far. -/
theorem run_induction {s₀ : σ} {motive : List ι → List ο → σ → Prop}
    (start : motive [] [] s₀)
    (next : ∀ {past outs s input t out}, run step past s₀ = .ok (s, outs) →
      motive past outs s → step input s = .ok (t, out) →
      motive (past ++ [input]) (outs ++ out) t)
    {inputs : List ι} {outs : List ο} {s : σ}
    (ran : run step inputs s₀ = .ok (s, outs)) : motive inputs outs s := by
  induction inputs using List.reverseRecOn generalizing outs s with
  | nil =>
      cases ran
      exact start
  | append_singleton past input ih =>
      rcases run_snoc_eq_ok.mp ran with ⟨s', left, out, before, stepped, rfl⟩
      exact next before (ih before) stepped

/-- A property every step keeps holds at the end of every run. -/
theorem run_invariant {inv : σ → Prop}
    (keeps : ∀ {input s t out}, inv s → step input s = .ok (t, out) → inv t)
    {inputs : List ι} {s t : σ} {outs : List ο}
    (holds : inv s) (ran : run step inputs s = .ok (t, outs)) : inv t :=
  run_induction (motive := fun _ _ t => inv t) holds
    (fun _ before stepped => keeps before stepped) ran

/-- Where every step returns, keeps the invariant and puts out nothing bad, every
run does. -/
theorem run_total {inv : σ → Prop} {good : ο → Prop}
    (steps : ∀ input s, inv s →
      ∃ t out, step input s = .ok (t, out) ∧ inv t ∧ ∀ o ∈ out, good o)
    (inputs : List ι) {s : σ} (holds : inv s) :
    ∃ t outs, run step inputs s = .ok (t, outs) ∧ inv t ∧ ∀ o ∈ outs, good o := by
  induction inputs generalizing s with
  | nil => exact ⟨s, [], rfl, holds, fun o member => absurd member List.not_mem_nil⟩
  | cons input inputs ih =>
      obtain ⟨s', out, stepped, kept, fine⟩ := steps input s holds
      obtain ⟨t, outs, ran, held, later⟩ := ih kept
      refine ⟨t, out ++ outs, run_cons_eq_ok.mpr ⟨s', out, outs, stepped, ran, rfl⟩, held, ?_⟩
      intro o member
      exact (List.mem_append.mp member).elim (fine o) (later o)

/-- Where every step from the invariant on a fair input keeps the invariant and
puts out nothing bad, a run over such inputs does. -/
theorem run_guarded {inv : σ → Prop} {fair : ι → Prop} {good : ο → Prop}
    (steps : ∀ {input s t out}, inv s → fair input → step input s = .ok (t, out) →
      inv t ∧ ∀ o ∈ out, good o)
    {inputs : List ι} {s t : σ} {outs : List ο} (holds : inv s)
    (all : ∀ input ∈ inputs, fair input) (ran : run step inputs s = .ok (t, outs)) :
    inv t ∧ ∀ o ∈ outs, good o := by
  induction inputs generalizing s outs with
  | nil =>
      cases ran
      exact ⟨holds, fun o member => absurd member List.not_mem_nil⟩
  | cons input inputs ih =>
      obtain ⟨s', out, rest, stepped, later, rfl⟩ := run_cons_eq_ok.mp ran
      rcases List.forall_mem_cons.mp all with ⟨first, others⟩
      rcases steps holds first stepped with ⟨kept, fine⟩
      rcases ih kept others later with ⟨held, fine'⟩
      refine ⟨held, ?_⟩
      intro o member
      exact (List.mem_append.mp member).elim (fine o) (fine' o)

/-- Where each step's outputs are paid for by its input and by a rise of the
potential, so are those of a run. -/
theorem run_amortized {G : Type*} [AddCommMonoid G] [PartialOrder G] [IsOrderedAddMonoid G]
    {inv : σ → Prop} {paid : ι → Prop} {cost : ο → G} {weight : ι → G} {potential : σ → G}
    (covered : ∀ {input s t out}, inv s → paid input → step input s = .ok (t, out) →
      inv t ∧ (out.map cost).sum + potential s ≤ weight input + potential t)
    {inputs : List ι} {s t : σ} {outs : List ο} (holds : inv s)
    (all : ∀ input ∈ inputs, paid input) (ran : run step inputs s = .ok (t, outs)) :
    (outs.map cost).sum + potential s ≤ (inputs.map weight).sum + potential t := by
  induction inputs generalizing s outs with
  | nil =>
      cases ran
      exact le_refl _
  | cons input inputs ih =>
      obtain ⟨s', out, rest, stepped, later, rfl⟩ := run_cons_eq_ok.mp ran
      rcases List.forall_mem_cons.mp all with ⟨first, others⟩
      rcases covered holds first stepped with ⟨kept, here⟩
      have there := ih kept others later
      rw [List.map_append, List.sum_append, List.map_cons, List.sum_cons]
      calc (out.map cost).sum + (rest.map cost).sum + potential s
          = (rest.map cost).sum + ((out.map cost).sum + potential s) := by
            rw [add_comm (out.map cost).sum, add_assoc]
        _ ≤ (rest.map cost).sum + (weight input + potential s') := add_le_add_right here _
        _ = weight input + ((rest.map cost).sum + potential s') := add_left_comm ..
        _ ≤ weight input + ((inputs.map weight).sum + potential t) := add_le_add_right there _
        _ = weight input + (inputs.map weight).sum + potential t := (add_assoc ..).symm

/-! ## Fair inputs -/

/-- Every input is fair in the state in which a run gets to it. -/
def Along (step : ι → σ → Except ε (σ × List ο)) (fair : ι → σ → Prop) : List ι → σ → Prop
  | [], _ => True
  | input :: inputs, s =>
      fair input s ∧ ∀ s' out, step input s = .ok (s', out) → Along step fair inputs s'

/-- Along a run a property that fair steps keep is there as well. -/
theorem Along.and_invariant {fair : ι → σ → Prop} {inv : σ → Prop}
    (keeps : ∀ {input s t out}, inv s → fair input s → step input s = .ok (t, out) → inv t)
    {inputs : List ι} {s : σ} (holds : inv s) (along : Along step fair inputs s) :
    Along step (fun input s => inv s ∧ fair input s) inputs s := by
  induction inputs generalizing s with
  | nil => trivial
  | cons input inputs ih =>
      rcases along with ⟨first, others⟩
      exact ⟨⟨holds, first⟩, fun s' out stepped =>
        ih (keeps holds first stepped) (others s' out stepped)⟩

/-- A run over fair inputs ends with what fair steps keep. -/
theorem Along.invariant {fair : ι → σ → Prop} {inv : σ → Prop}
    (keeps : ∀ {input s t out}, inv s → fair input s → step input s = .ok (t, out) → inv t)
    {inputs : List ι} {s t : σ} {outs : List ο} (holds : inv s)
    (along : Along step fair inputs s) (ran : run step inputs s = .ok (t, outs)) : inv t := by
  induction inputs generalizing s outs with
  | nil =>
      cases ran
      exact holds
  | cons input inputs ih =>
      obtain ⟨s', out, rest, stepped, later, rfl⟩ := run_cons_eq_ok.mp ran
      rcases along with ⟨first, others⟩
      exact ih (keeps holds first stepped) (others s' out stepped) later

/-! ## Two runs -/

variable {τ : Type*}

/-- The same error, or the same outputs and related states. -/
def Alike (rel : σ → τ → Prop) (left : Except ε (σ × List ο)) (right : Except ε (τ × List ο)) :
    Prop :=
  match left with
  | .error e => right = .error e
  | .ok (s, outs) => ∃ t, right = .ok (t, outs) ∧ rel s t

/-- Steps that are alike from related states, where the input is fair, make runs
that are, where it is fair along the right one. -/
theorem run_alike {step' : ι → τ → Except ε (τ × List ο)} {rel : σ → τ → Prop}
    {fair : ι → τ → Prop}
    (steps : ∀ input s t, rel s t → fair input t → Alike rel (step input s) (step' input t))
    (inputs : List ι) {s : σ} {t : τ} (related : rel s t) (along : Along step' fair inputs t) :
    Alike rel (run step inputs s) (run step' inputs t) := by
  induction inputs generalizing s t with
  | nil => exact ⟨t, rfl, related⟩
  | cons input inputs ih =>
      rcases along with ⟨first, others⟩
      have here := steps input s t related first
      unfold Alike at here
      simp only [run]
      cases stepped : step input s with
      | error e =>
          simp only [stepped] at here
          simp only [here]
          rfl
      | ok next =>
          obtain ⟨s', out⟩ := next
          simp only [stepped] at here
          obtain ⟨t', stepped', kept⟩ := here
          have later := ih kept (others t' out stepped')
          unfold Alike at later
          simp only [stepped']
          cases ran : run step inputs s' with
          | error e =>
              simp only [ran] at later
              simp only [later]
              rfl
          | ok last =>
              obtain ⟨s'', outs⟩ := last
              simp only [ran] at later
              obtain ⟨t'', ran', last⟩ := later
              simp only [ran']
              exact ⟨t'', rfl, last⟩

end Run
