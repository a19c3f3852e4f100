import UdpGame.Lib.UnorderedMap

/-!
# Cells

A map whose entries react to inputs each on its own.  An input belongs to at
most one key, and what it does there depends on the value under that key alone.
Then only the order of the inputs of one key counts: `run_congr` and
`outputs_congr` compare any two sequences that give every key the same share.
-/

/-- Whose input it is, and what it does there and puts out. -/
structure Cells (κ ν : Type) (ι ο : Type*) where
  owner : ι → Option κ
  react : κ → ι → ν → ν × List ο

namespace Cells

variable {κ ν : Type} {ι ο : Type*} [DecidableEq κ] (cells : Cells κ ν ι ο)

/-- An input on the whole map; one whose owner has no entry does nothing. -/
def step (input : ι) (m : UnorderedMap κ ν) : UnorderedMap κ ν × List ο :=
  match cells.owner input with
  | none => (m, [])
  | some k =>
      (m.modify k fun v => (cells.react k input v).1,
        (m.find? k).elim [] fun v => (cells.react k input v).2)

def run : List ι → UnorderedMap κ ν → UnorderedMap κ ν
  | [], m => m
  | input :: inputs, m => run inputs (cells.step input m).1

/-- What the inputs of one key put out in a run. -/
def outputs (k : κ) : List ι → UnorderedMap κ ν → List ο
  | [], _ => []
  | input :: inputs, m =>
      (if cells.owner input = some k then (cells.step input m).2 else []) ++
        outputs k inputs (cells.step input m).1

/-- One cell by itself. -/
def drive (k : κ) : List ι → ν → ν × List ο
  | [], v => (v, [])
  | input :: inputs, v =>
      let (v', out) := cells.react k input v
      let (v'', rest) := drive k inputs v'
      (v'', out ++ rest)

/-- The inputs of one key. -/
def share (k : κ) (inputs : List ι) : List ι :=
  inputs.filter fun input => cells.owner input = some k

variable {cells} {inputs : List ι} {m : UnorderedMap κ ν}

theorem step_of_none {input : ι} (nobody : cells.owner input = none) :
    cells.step input m = (m, []) := by
  rw [step, nobody]

theorem step_of_owner {input : ι} {k : κ} {v : ν} (mine : cells.owner input = some k)
    (held : m.find? k = some v) :
    cells.step input m =
      (m.modify k fun v => (cells.react k input v).1, (cells.react k input v).2) := by
  simp only [step, mine, held, Option.elim_some]

/-- An input whose owner has no entry. -/
theorem step_of_stray {input : ι} {k : κ} (mine : cells.owner input = some k)
    (stray : m.find? k = none) : cells.step input m = (m, []) := by
  have kept := UnorderedMap.modify_of_absent (f := fun v => (cells.react k input v).1) stray
  simp only [step, mine, stray, Option.elim_none, kept]

/-- An input leaves the cells of others alone. -/
theorem find?_step_of_other {input : ι} {k : κ} (other : cells.owner input ≠ some k) :
    (cells.step input m).1.find? k = m.find? k := by
  cases owner : cells.owner input with
  | none => rw [step_of_none owner]
  | some k' =>
      rw [step, owner]
      exact UnorderedMap.find?_modify_ne fun same => other (same ▸ owner)

theorem share_cons_of_owner {k : κ} {input : ι} (mine : cells.owner input = some k) :
    cells.share k (input :: inputs) = input :: cells.share k inputs :=
  List.filter_cons_of_pos (decide_eq_true mine)

theorem share_cons_of_other {k : κ} {input : ι} (other : cells.owner input ≠ some k) :
    cells.share k (input :: inputs) = cells.share k inputs :=
  List.filter_cons_of_neg (mt of_decide_eq_true other)

/-- A run drives every cell through its own inputs. -/
theorem run_eq_mapValues (inputs : List ι) (m : UnorderedMap κ ν) :
    cells.run inputs m = m.mapValues fun k v => (cells.drive k (cells.share k inputs) v).1 := by
  induction inputs generalizing m with
  | nil => exact (UnorderedMap.mapValues_id m).symm
  | cons input inputs ih =>
      rw [run, ih, step]
      cases owner : cells.owner input with
      | none =>
          apply UnorderedMap.mapValues_congr
          intro k v _
          rw [share_cons_of_other (by simp [owner])]
      | some k =>
          rw [UnorderedMap.mapValues_modify]
          apply UnorderedMap.mapValues_congr
          intro k' v _
          by_cases here : k' = k
          · subst here
            rw [if_pos rfl, share_cons_of_owner owner]
            rfl
          · rw [if_neg here, share_cons_of_other]
            rw [owner]
            exact fun same => here (Option.some.inj same).symm

/-- What the inputs of one key put out is what its cell puts out. -/
theorem outputs_eq_drive {k : κ} {v : ν} (held : m.find? k = some v) :
    cells.outputs k inputs m = (cells.drive k (cells.share k inputs) v).2 := by
  induction inputs generalizing m v with
  | nil => rfl
  | cons input inputs ih =>
      rw [outputs]
      by_cases mine : cells.owner input = some k
      · have next : (m.modify k fun v => (cells.react k input v).1).find? k =
            some (cells.react k input v).1 := UnorderedMap.find?_modify_self held
        rw [share_cons_of_owner mine, if_pos mine, step_of_owner mine held, ih next]
        rfl
      · rw [share_cons_of_other mine, if_neg mine, List.nil_append]
        exact ih ((find?_step_of_other mine).trans held)

/-- Only the shares count for where a run ends. -/
theorem run_congr {xs ys : List ι}
    (same : ∀ k v, (k, v) ∈ m.entries → cells.share k xs = cells.share k ys) :
    cells.run xs m = cells.run ys m := by
  rw [run_eq_mapValues, run_eq_mapValues]
  apply UnorderedMap.mapValues_congr
  intro k v member
  rw [same k v member]

/-- Only its own share counts for what a key puts out. -/
theorem outputs_congr {xs ys : List ι} {k : κ} {v : ν} (held : (k, v) ∈ m.entries)
    (same : cells.share k xs = cells.share k ys) :
    cells.outputs k xs m = cells.outputs k ys m := by
  have found := UnorderedMap.find?_eq_some.mpr held
  rw [outputs_eq_drive found, outputs_eq_drive found, same]

end Cells
