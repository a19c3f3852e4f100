import Mathlib.Tactic.Common
import Mathlib.Tactic.Ring
import Mathlib.Data.List.Induction

/-!
# Grids in one list

Row-major indices: with the row length as stride every cell of a rectangle has
a slot of its own below the area (`index_lt`, `index_inj`).  A loop that stores
the value of each item at its index leaves every item readable where it was put,
as long as equal indices carry equal values (`getElem?_scatter`).
-/

namespace Grid

def index (stride x y : Nat) : Nat := y * stride + x

theorem index_lt {stride x y height : Nat} (column : x < stride) (row : y < height) :
    index stride x y < height * stride := by
  have last : (y + 1) * stride ≤ height * stride := Nat.mul_le_mul_right stride row
  rw [Nat.add_mul, Nat.one_mul] at last
  simp only [index]
  omega

theorem index_mono {stride x y x' y' : Nat} (column : x ≤ x') (row : y ≤ y') :
    index stride x y ≤ index stride x' y' :=
  Nat.add_le_add (Nat.mul_le_mul_right stride row) column

theorem index_mod {stride x : Nat} (y : Nat) (inside : x < stride) :
    index stride x y % stride = x := by
  rw [index, Nat.mul_add_mod_self_right, Nat.mod_eq_of_lt inside]

theorem index_div {stride x : Nat} (y : Nat) (inside : x < stride) :
    index stride x y / stride = y := by
  have pos : 0 < stride := Nat.lt_of_le_of_lt (Nat.zero_le x) inside
  rw [index, Nat.add_comm, Nat.add_mul_div_right _ _ pos, Nat.div_eq_of_lt inside, Nat.zero_add]

theorem index_inj {stride x y x' y' : Nat} (left : x < stride) (right : x' < stride)
    (same : index stride x y = index stride x' y') : x = x' ∧ y = y' :=
  ⟨by rw [← index_mod y left, same, index_mod y' right],
    by rw [← index_div y left, same, index_div y' right]⟩

/-! ## Storing item after item -/

variable {α β : Type}

def scatter (place : β → Nat) (value : β → α) (items : List β) (l : List α) : List α :=
  items.foldl (fun l item => l.set (place item) (value item)) l

@[simp] theorem length_scatter (place : β → Nat) (value : β → α) (items : List β) (l : List α) :
    (scatter place value items l).length = l.length := by
  induction items generalizing l with
  | nil => rfl
  | cons item items ih => exact (ih _).trans List.length_set

theorem getElem?_scatter {place : β → Nat} (value : β → α) {items : List β} {l : List α}
    (inside : ∀ item ∈ items, place item < l.length)
    (apart : ∀ a ∈ items, ∀ b ∈ items, place a = place b → value a = value b) :
    ∀ item ∈ items, (scatter place value items l)[place item]? = some (value item) := by
  induction items using List.reverseRecOn with
  | nil => simp
  | append_singleton items last ih =>
      have earlier := ih (fun item member => inside item (by simp [member]))
        (fun a here b there => apart a (by simp [here]) b (by simp [there]))
      have lastInside : place last < (scatter place value items l).length := by
        rw [length_scatter]
        exact inside last (by simp)
      intro item member
      rw [scatter, List.foldl_append, List.foldl_cons, List.foldl_nil, ← scatter,
        List.getElem?_set]
      by_cases here : place last = place item
      · rw [if_pos here, if_pos lastInside, apart last (by simp) item member here]
      · rw [if_neg here]
        rcases List.mem_append.mp member with old | new
        · exact earlier item old
        · rw [List.mem_singleton.mp new] at here
          exact absurd rfl here

/-- Two nested loops are one loop over the rows end to end. -/
theorem foldlM_flatMap {σ γ : Type} {m : Type → Type} [Monad m] [LawfulMonad m]
    (step : σ → β → m σ) (row : γ → List β) (rows : List γ) (s : σ) :
    (rows.flatMap row).foldlM step s = rows.foldlM (fun s r => (row r).foldlM step s) s := by
  induction rows generalizing s with
  | nil => rfl
  | cons r rows ih =>
      simp only [List.flatMap_cons, List.foldlM_append, List.foldlM_cons, ih]

end Grid
