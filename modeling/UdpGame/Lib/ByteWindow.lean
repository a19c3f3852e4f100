import Mathlib.Tactic.Common

/-!
# Windows of a list

`window l start length` is the stretch of `l` a pointer and a length select,
`overwrite l start new` is `l` after copying `new` over the stretch at `start`.
Two writes that touch end to end are one write of the concatenation
(`overwrite_append`, `overwrite_prepend`), which is how a sequence of field
writes becomes a single statement about the bytes of the whole record.
-/

namespace ByteWindow

variable {α : Type}

def window (l : List α) (start length : Nat) : List α := (l.drop start).take length

def overwrite (l : List α) (start : Nat) (new : List α) : List α :=
  l.take start ++ new ++ l.drop (start + new.length)

theorem length_window {l : List α} {start length : Nat} (inside : start + length ≤ l.length) :
    (window l start length).length = length := by
  simp only [window, List.length_take, List.length_drop]
  omega

@[simp] theorem length_overwrite {l new : List α} {start : Nat}
    (inside : start + new.length ≤ l.length) :
    (overwrite l start new).length = l.length := by
  simp only [overwrite, List.length_append, List.length_take, List.length_drop]
  omega

@[simp] theorem window_zero (l : List α) (start : Nat) : window l start 0 = [] :=
  List.take_zero

theorem window_succ {l : List α} {start length : Nat} (inside : start < l.length) :
    window l start (length + 1) = l[start] :: window l (start + 1) length := by
  simp only [window, List.drop_eq_getElem_cons inside, List.take_succ_cons]

/-- A window of a window. -/
theorem window_window {l : List α} {start count : Nat} (inner length : Nat)
    (inside : inner + count ≤ length) :
    window (window l start length) inner count = window l (start + inner) count := by
  simp only [window, List.drop_take, List.take_take, List.drop_drop]
  rw [Nat.min_eq_left (by omega)]

theorem window_drop (l : List α) (front start length : Nat) :
    window (l.drop front) start length = window l (front + start) length := by
  simp only [window, List.drop_drop]

theorem getD_drop (l : List α) (front index : Nat) (a : α) :
    (l.drop front).getD index a = l.getD (front + index) a := by
  simp only [List.getD_eq_getElem?_getD, List.getElem?_drop]

theorem window_append_window {l : List α} {start first second : Nat} :
    window l start first ++ window l (start + first) second =
      window l start (first + second) := by
  simp only [window, ← List.drop_drop, List.take_add]

theorem window_append_left {l r : List α} {start length : Nat}
    (inside : start + length ≤ l.length) :
    window (l ++ r) start length = window l start length := by
  simp only [window]
  rw [List.drop_append_of_le_length (by omega),
    List.take_append_of_le_length (by rw [List.length_drop]; omega)]

/-- The `n` elements that follow a prefix of known length. -/
theorem window_append_right {l r : List α} {start length : Nat} (past : start = l.length) :
    window (l ++ r) start length = r.take length := by
  subst past
  simp only [window, List.drop_left']

/-- Two writes end to end, the second behind the first. -/
theorem overwrite_append {l first second : List α} {start : Nat}
    (inside : start + first.length + second.length ≤ l.length) :
    overwrite (overwrite l start first) (start + first.length) second =
      overwrite l start (first ++ second) := by
  have head : (l.take start ++ first).length = start + first.length := by
    rw [List.length_append, List.length_take, Nat.min_eq_left (by omega)]
  simp only [overwrite]
  rw [List.take_left' head, List.length_append, ← List.append_assoc]
  congr 1
  rw [List.drop_append, List.drop_of_length_le (by rw [head]; omega), List.nil_append, head,
    List.drop_drop]
  congr 1
  omega

/-- Two writes end to end, the second in front of the first. -/
theorem overwrite_prepend {l first second : List α} {start : Nat}
    (inside : start + first.length + second.length ≤ l.length) :
    overwrite (overwrite l (start + first.length) second) start first =
      overwrite l start (first ++ second) := by
  have untouched : (l.take (start + first.length)).length = start + first.length := by
    rw [List.length_take, Nat.min_eq_left (by omega)]
  simp only [overwrite, List.append_assoc]
  rw [List.take_append_of_le_length (by rw [untouched]; omega), List.take_take,
    Nat.min_eq_left (by omega), List.drop_left' untouched, List.length_append, Nat.add_assoc]

theorem window_overwrite {l new : List α} {start : Nat}
    (inside : start + new.length ≤ l.length) :
    window (overwrite l start new) start new.length = new := by
  have before : (l.take start).length = start := by
    rw [List.length_take, Nat.min_eq_left (by omega)]
  simp only [window, overwrite, List.append_assoc]
  rw [List.drop_left' before, List.take_left]

/-- The first part of what was written. -/
theorem window_overwrite_append {l first second : List α} {start : Nat}
    (inside : start ≤ l.length) :
    window (overwrite l start (first ++ second)) start first.length = first := by
  have before : (l.take start).length = start := by
    rw [List.length_take, Nat.min_eq_left inside]
  simp only [window, overwrite, List.append_assoc]
  rw [List.drop_left' before, List.take_left]

/-- A write leaves what lies behind it alone. -/
theorem drop_overwrite {l new : List α} {start behind : Nat}
    (inside : start + new.length ≤ l.length) (past : start + new.length ≤ behind) :
    (overwrite l start new).drop behind = l.drop behind := by
  have written : (l.take start ++ new).length = start + new.length := by
    rw [List.length_append, List.length_take, Nat.min_eq_left (by omega)]
  simp only [overwrite]
  rw [List.drop_append, List.drop_of_length_le (by rw [written]; omega), List.nil_append,
    written, List.drop_drop]
  congr 1
  omega

theorem window_overwrite_behind {l new : List α} {start behind length : Nat}
    (inside : start + new.length ≤ l.length) (past : start + new.length ≤ behind) :
    window (overwrite l start new) behind length = window l behind length := by
  simp only [window, drop_overwrite inside past]

end ByteWindow
