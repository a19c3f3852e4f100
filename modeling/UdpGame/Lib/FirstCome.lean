import Mathlib.Tactic.Common
import Mathlib.Data.List.Nodup
import Mathlib.Data.List.Induction

/-!
# First come, first served

The distinct elements of a list in the order of their first occurrence.  The
place of an element is settled when it first occurs: later arrivals only extend
the list (`prefix_ofList_append`).
-/

namespace FirstCome

variable {α : Type} [DecidableEq α]

def enrol (l : List α) (a : α) : List α := if a ∈ l then l else l ++ [a]

def ofList (arrivals : List α) : List α := arrivals.foldl enrol []

theorem enrol_of_mem {l : List α} {a : α} (present : a ∈ l) : enrol l a = l := if_pos present

theorem enrol_of_not_mem {l : List α} {a : α} (absent : a ∉ l) : enrol l a = l ++ [a] :=
  if_neg absent

theorem prefix_enrol (l : List α) (a : α) : l <+: enrol l a := by
  by_cases present : a ∈ l
  · simp only [enrol_of_mem present, List.prefix_refl]
  · rw [enrol_of_not_mem present]
    exact List.prefix_append ..

theorem mem_enrol {l : List α} {a b : α} : b ∈ enrol l a ↔ b ∈ l ∨ b = a := by
  by_cases present : a ∈ l
  · rw [enrol_of_mem present]
    exact ⟨Or.inl, fun either => either.elim id fun same => same ▸ present⟩
  · rw [enrol_of_not_mem present, List.mem_append, List.mem_singleton]

theorem nodup_enrol {l : List α} (distinct : l.Nodup) (a : α) : (enrol l a).Nodup := by
  by_cases present : a ∈ l
  · rw [enrol_of_mem present]
    exact distinct
  · rw [enrol_of_not_mem present]
    exact List.nodup_append.mpr ⟨distinct, List.nodup_singleton a, fun b here c there => by
      rw [List.mem_singleton.mp there]
      exact fun same => present (same ▸ here)⟩

@[simp] theorem ofList_nil : ofList ([] : List α) = [] := rfl

theorem ofList_snoc (arrivals : List α) (a : α) :
    ofList (arrivals ++ [a]) = enrol (ofList arrivals) a := by
  rw [ofList, List.foldl_append, List.foldl_cons, List.foldl_nil, ofList]

/-- Where nothing repeats the list is its own. -/
theorem ofList_of_nodup {arrivals : List α} (distinct : arrivals.Nodup) :
    ofList arrivals = arrivals := by
  induction arrivals using List.reverseRecOn with
  | nil => rfl
  | append_singleton arrivals a ih =>
      have apart := List.nodup_append.mp distinct
      have absent : a ∉ arrivals := fun member => apart.2.2 a member a (by simp) rfl
      rw [ofList_snoc, ih apart.1, enrol_of_not_mem absent]

theorem ofList_append (arrivals later : List α) :
    ofList (arrivals ++ later) = later.foldl enrol (ofList arrivals) := by
  rw [ofList, List.foldl_append, ofList]

theorem prefix_foldl_enrol (l later : List α) : l <+: later.foldl enrol l := by
  induction later generalizing l with
  | nil => exact List.prefix_refl l
  | cons a later ih => exact (prefix_enrol l a).trans (ih _)

theorem prefix_ofList_append (arrivals later : List α) :
    ofList arrivals <+: ofList (arrivals ++ later) := by
  rw [ofList_append]
  exact prefix_foldl_enrol _ later

theorem mem_foldl_enrol {later l : List α} {a : α} :
    a ∈ later.foldl enrol l ↔ a ∈ l ∨ a ∈ later := by
  induction later generalizing l with
  | nil => simp
  | cons b later ih => rw [List.foldl_cons, ih, mem_enrol, List.mem_cons, or_assoc]

theorem mem_ofList {arrivals : List α} {a : α} : a ∈ ofList arrivals ↔ a ∈ arrivals := by
  rw [ofList, mem_foldl_enrol]
  simp

end FirstCome
