import Mathlib.Tactic.Common
import Mathlib.Data.List.Nodup
import Mathlib.Algebra.Ring.Nat

/-!
# Unordered maps

A hash map with unique keys.  The entries are a list only so that they can be
counted and compared: `IterationOrder` says that a loop over the map may meet
them in any order, and `IterationOrder.find?_arrange` that a search for a
condition at most one entry meets does not see which.
-/

/-- A map from keys to values in which no key occurs twice. -/
@[ext] structure UnorderedMap (κ ν : Type) where
  entries : List (κ × ν)
  nodup : (entries.map Prod.fst).Nodup

/-- The order in which a loop over a map meets its entries: any arrangement. -/
structure IterationOrder where
  arrange : ∀ {α : Type}, List α → List α
  perm : ∀ {α : Type} (l : List α), (arrange l).Perm l

def IterationOrder.insertion : IterationOrder := ⟨id, fun l => .refl l⟩

/-- Permuting a list does not change which element a search finds, as long as
at most one element qualifies. -/
theorem List.Perm.find?_eq {α : Type} {p : α → Bool} {l l' : List α} (same : l.Perm l')
    (unique : ∀ a ∈ l', ∀ b ∈ l', p a → p b → a = b) : l.find? p = l'.find? p := by
  cases found : l'.find? p with
  | none =>
      rw [List.find?_eq_none] at found ⊢
      intro a member
      exact found a (same.mem_iff.mp member)
  | some a =>
      have qualifies := List.find?_some found
      have member := List.mem_of_find?_eq_some found
      cases other : l.find? p with
      | none =>
          rw [List.find?_eq_none] at other
          exact (other a (same.mem_iff.mpr member) qualifies).elim
      | some b =>
          have inside := same.mem_iff.mp (List.mem_of_find?_eq_some other)
          rw [unique a member b inside qualifies (List.find?_some other)]

theorem IterationOrder.find?_arrange (order : IterationOrder) {α : Type} {p : α → Bool}
    {l : List α} (unique : ∀ a ∈ l, ∀ b ∈ l, p a → p b → a = b) :
    (order.arrange l).find? p = l.find? p :=
  (order.perm l).find?_eq unique

namespace UnorderedMap

variable {κ ν : Type}

def empty : UnorderedMap κ ν := ⟨[], List.nodup_nil⟩

instance : EmptyCollection (UnorderedMap κ ν) := ⟨empty⟩

def size (m : UnorderedMap κ ν) : Nat := m.entries.length

@[simp] theorem entries_empty : (∅ : UnorderedMap κ ν).entries = [] := rfl

theorem eq_of_mem {m : UnorderedMap κ ν} {k : κ} {v w : ν}
    (left : (k, v) ∈ m.entries) (right : (k, w) ∈ m.entries) : v = w := by
  have same := List.inj_on_of_nodup_map m.nodup left right rfl
  exact congrArg Prod.snd same

variable [DecidableEq κ]

def find? (m : UnorderedMap κ ν) (k : κ) : Option ν :=
  (m.entries.find? (fun entry => entry.1 = k)).map Prod.snd

/-- Insert unless the key is taken; the flag says whether it was inserted. -/
def tryEmplace (m : UnorderedMap κ ν) (k : κ) (v : ν) : UnorderedMap κ ν × Bool :=
  if fresh : k ∈ m.entries.map Prod.fst then (m, false)
  else
    (⟨m.entries ++ [(k, v)], by
      rw [List.map_append, List.nodup_append]
      refine ⟨m.nodup, List.nodup_singleton _, ?_⟩
      intro a old b new same
      rw [List.map_cons, List.map_nil, List.mem_singleton] at new
      rw [same, new] at old
      exact fresh old⟩, true)

/-- Write through a pointer to the value stored under a key. -/
def modify (m : UnorderedMap κ ν) (k : κ) (f : ν → ν) : UnorderedMap κ ν :=
  ⟨m.entries.map fun entry => if entry.1 = k then (entry.1, f entry.2) else entry, by
    have keys : (m.entries.map fun entry =>
        if entry.1 = k then (entry.1, f entry.2) else entry).map Prod.fst =
          m.entries.map Prod.fst := by
      rw [List.map_map]
      apply List.map_congr_left
      intro entry _
      by_cases here : entry.1 = k <;> simp [here]
    rw [keys]
    exact m.nodup⟩

/-! ## Lookup -/

theorem find?_eq_some {m : UnorderedMap κ ν} {k : κ} {v : ν} :
    m.find? k = some v ↔ (k, v) ∈ m.entries := by
  constructor
  · intro found
    rcases Option.map_eq_some_iff.mp found with ⟨entry, first, rfl⟩
    have key := List.find?_some first
    rw [decide_eq_true_eq] at key
    subst key
    exact List.mem_of_find?_eq_some first
  · intro member
    cases found : m.entries.find? (fun entry => entry.1 = k) with
    | none =>
        rw [List.find?_eq_none] at found
        exact (found _ member (decide_eq_true rfl)).elim
    | some entry =>
        have key := List.find?_some found
        rw [decide_eq_true_eq] at key
        subst key
        have same := eq_of_mem member (List.mem_of_find?_eq_some found)
        simp only [find?, found, Option.map_some, same]

theorem find?_eq_none {m : UnorderedMap κ ν} {k : κ} :
    m.find? k = none ↔ k ∉ m.entries.map Prod.fst := by
  rw [Option.eq_none_iff_forall_ne_some, List.mem_map]
  constructor
  · intro absent taken
    rcases taken with ⟨⟨k', v⟩, member, rfl⟩
    exact absent v (find?_eq_some.mpr member)
  · intro absent v found
    exact absent ⟨(k, v), find?_eq_some.mp found, rfl⟩

@[simp] theorem find?_empty (k : κ) : (∅ : UnorderedMap κ ν).find? k = none := rfl

/-! ## Insertion -/

theorem tryEmplace_of_fresh {m : UnorderedMap κ ν} {k : κ} {v : ν}
    (fresh : m.find? k = none) :
    ((m.tryEmplace k v).1.entries = m.entries ++ [(k, v)]) ∧ (m.tryEmplace k v).2 = true := by
  have absent := find?_eq_none.mp fresh
  constructor <;> simp only [tryEmplace, dif_neg absent]

theorem tryEmplace_of_taken {m : UnorderedMap κ ν} {k : κ} {v w : ν}
    (taken : m.find? k = some w) : m.tryEmplace k v = (m, false) := by
  have present : k ∈ m.entries.map Prod.fst :=
    List.mem_map.mpr ⟨(k, w), find?_eq_some.mp taken, rfl⟩
  simp only [tryEmplace, dif_pos present]

theorem find?_tryEmplace_self {m : UnorderedMap κ ν} {k : κ} {v : ν}
    (fresh : m.find? k = none) : (m.tryEmplace k v).1.find? k = some v := by
  rw [find?_eq_some, (tryEmplace_of_fresh fresh).1]
  simp

theorem find?_tryEmplace_ne {m : UnorderedMap κ ν} {k k' : κ} {v : ν} (other : k' ≠ k) :
    (m.tryEmplace k v).1.find? k' = m.find? k' := by
  cases held : m.find? k with
  | some w => rw [tryEmplace_of_taken held]
  | none =>
      ext w
      rw [find?_eq_some, find?_eq_some, (tryEmplace_of_fresh held).1]
      simp [other]

/-! ## Writing through a pointer -/

theorem mem_modify {m : UnorderedMap κ ν} {k k' : κ} {f : ν → ν} {v : ν} :
    (k', v) ∈ (m.modify k f).entries ↔
      ∃ w, (k', w) ∈ m.entries ∧ v = if k' = k then f w else w := by
  simp only [modify, List.mem_map]
  constructor
  · intro image
    rcases image with ⟨⟨a, w⟩, member, same⟩
    by_cases here : a = k
    · simp only [here, if_true, Prod.mk.injEq] at same
      obtain ⟨rfl, rfl⟩ := same
      exact ⟨w, here ▸ member, (if_pos rfl).symm⟩
    · simp only [here, if_false, Prod.mk.injEq] at same
      obtain ⟨rfl, rfl⟩ := same
      exact ⟨w, member, (if_neg here).symm⟩
  · intro source
    rcases source with ⟨w, member, rfl⟩
    refine ⟨(k', w), member, ?_⟩
    by_cases here : k' = k <;> simp [here]

theorem find?_modify_self {m : UnorderedMap κ ν} {k : κ} {f : ν → ν} {v : ν}
    (held : m.find? k = some v) : (m.modify k f).find? k = some (f v) := by
  rw [find?_eq_some, mem_modify]
  exact ⟨v, find?_eq_some.mp held, (if_pos rfl).symm⟩

theorem find?_modify_ne {m : UnorderedMap κ ν} {k k' : κ} {f : ν → ν} (other : k' ≠ k) :
    (m.modify k f).find? k' = m.find? k' := by
  ext v
  rw [find?_eq_some, find?_eq_some, mem_modify]
  simp [other]

theorem modify_of_absent {m : UnorderedMap κ ν} {k : κ} {f : ν → ν}
    (absent : m.find? k = none) : m.modify k f = m := by
  apply UnorderedMap.ext
  refine (List.map_congr_left fun entry member => if_neg fun here => ?_).trans (List.map_id _)
  exact find?_eq_none.mp absent (List.mem_map.mpr ⟨entry, member, here⟩)

theorem modify_id (m : UnorderedMap κ ν) (k : κ) : (m.modify k fun v => v) = m := by
  apply UnorderedMap.ext
  simp only [modify, ite_self, List.map_id']

theorem modify_modify (m : UnorderedMap κ ν) (k : κ) (f g : ν → ν) :
    (m.modify k f).modify k g = m.modify k fun v => g (f v) := by
  apply UnorderedMap.ext
  simp only [modify, List.map_map]
  apply List.map_congr_left
  intro entry _
  by_cases here : entry.1 = k <;> simp [here]

/-- Only what the function does to the value stored there counts. -/
theorem modify_congr {m : UnorderedMap κ ν} {k : κ} {f g : ν → ν} {v : ν}
    (held : m.find? k = some v) (same : f v = g v) : m.modify k f = m.modify k g := by
  apply UnorderedMap.ext
  simp only [modify]
  apply List.map_congr_left
  intro entry member
  obtain ⟨k', w⟩ := entry
  by_cases here : k' = k
  · subst here
    rw [eq_of_mem member (find?_eq_some.mp held)]
    simp only [if_true, same]
  · simp only [here, if_false]

/-- Filling in an entry that was just inserted. -/
theorem modify_tryEmplace {m : UnorderedMap κ ν} {k : κ} {v : ν} (f : ν → ν)
    (fresh : m.find? k = none) :
    (m.tryEmplace k v).1.modify k f = (m.tryEmplace k (f v)).1 := by
  have kept : m.entries.map (fun entry => if entry.1 = k then (entry.1, f entry.2) else entry) =
      m.entries := congrArg entries (modify_of_absent fresh)
  apply UnorderedMap.ext
  simp only [modify, (tryEmplace_of_fresh fresh).1, List.map_append, kept, List.map_cons,
    List.map_nil, if_true]

/-- A view of the entries that the written function does not change. -/
theorem map_entries_modify {m : UnorderedMap κ ν} {k : κ} {f : ν → ν} {β : Type}
    {view : κ × ν → β} (kept : ∀ v, view (k, f v) = view (k, v)) :
    (m.modify k f).entries.map view = m.entries.map view := by
  simp only [modify, List.map_map]
  apply List.map_congr_left
  intro entry _
  obtain ⟨a, v⟩ := entry
  by_cases here : a = k
  · subst here
    simp only [Function.comp_apply, if_true, kept]
  · simp only [Function.comp_apply, here, if_false]

/-- A sum over the entries changes with the one that is written. -/
theorem sum_modify {m : UnorderedMap κ ν} {k : κ} {f : ν → ν} {v : ν} (g : ν → Nat)
    (held : m.find? k = some v) :
    ((m.modify k f).entries.map fun entry => g entry.2).sum + g v =
      (m.entries.map fun entry => g entry.2).sum + g (f v) := by
  have member := find?_eq_some.mp held
  have distinct := m.nodup
  simp only [modify, List.map_map]
  generalize m.entries = entries at member distinct
  induction entries with
  | nil => cases member
  | cons entry entries ih =>
      obtain ⟨k', w⟩ := entry
      rw [List.map_cons, List.nodup_cons] at distinct
      simp only [List.map_cons, List.sum_cons, Function.comp_apply]
      by_cases here : k' = k
      · subst here
        have same : v = w := by
          rcases List.mem_cons.mp member with same | later
          · exact (Prod.mk.inj same).2
          · exact absurd (List.mem_map.mpr ⟨_, later, rfl⟩) distinct.1
        subst same
        have others : (entries.map fun entry =>
            g (if entry.1 = k' then (entry.1, f entry.2) else entry).2) =
            entries.map fun entry => g entry.2 := by
          refine List.map_congr_left fun entry later => ?_
          have other : entry.1 ≠ k' := fun same =>
            distinct.1 (List.mem_map.mpr ⟨entry, later, same⟩)
          rw [if_neg other]
        simp only [Function.comp_def, if_true, others]
        omega
      · have later : (k, v) ∈ entries := by
          rcases List.mem_cons.mp member with same | later
          · exact absurd (Prod.mk.inj same).1.symm here
          · exact later
        have rest := ih later distinct.2
        simp only [if_neg here]
        omega

/-! ## All values at once -/

/-- Replace every value, in place. -/
def mapValues (m : UnorderedMap κ ν) (f : κ → ν → ν) : UnorderedMap κ ν :=
  ⟨m.entries.map fun entry => (entry.1, f entry.1 entry.2), by
    rw [List.map_map]
    exact m.nodup⟩

omit [DecidableEq κ] in
theorem mapValues_congr {m : UnorderedMap κ ν} {f g : κ → ν → ν}
    (same : ∀ k v, (k, v) ∈ m.entries → f k v = g k v) : m.mapValues f = m.mapValues g := by
  apply UnorderedMap.ext
  apply List.map_congr_left
  intro entry member
  rw [same entry.1 entry.2 member]

omit [DecidableEq κ] in
theorem mapValues_id (m : UnorderedMap κ ν) : m.mapValues (fun _ v => v) = m :=
  UnorderedMap.ext (List.map_id m.entries)

theorem mapValues_modify (m : UnorderedMap κ ν) (k : κ) (g : ν → ν) (f : κ → ν → ν) :
    (m.modify k g).mapValues f = m.mapValues fun k' v => f k' (if k' = k then g v else v) := by
  apply UnorderedMap.ext
  simp only [mapValues, modify, List.map_map]
  apply List.map_congr_left
  intro entry _
  by_cases here : entry.1 = k <;> simp [here]

end UnorderedMap
