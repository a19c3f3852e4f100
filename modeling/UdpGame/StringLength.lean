import UdpGame.Common

/-!
# `StringLength`

The two overloads of `Common.h` over 64-bit addresses, whose sums wrap.  The
bounded one stops at the first NUL or at its bound.  The other one passes
`SIZE_MAX`, so its end lies one address below the string and the loop never
runs.
-/

namespace UdpGame

/-- The loop of `StringLength`: `start` moves up to a NUL or to `stop`. -/
def scan (chars : UInt64 → UInt8) (start stop : UInt64) : UInt64 :=
  if start < stop ∧ chars start ≠ 0 then scan chars (start + 1) stop else start
termination_by stop.toNat - start.toNat
decreasing_by
  rename_i running
  have below := UInt64.lt_iff_toNat_lt.mp running.1
  have next : (start + 1).toNat = start.toNat + 1 := by
    have top := stop.toNat_lt
    rw [UInt64.toNat_add, UInt64.toNat_one, Nat.mod_eq_of_lt (by omega)]
  omega

/-- `StringLength(s, length)`. -/
def stringLength (chars : UInt64 → UInt8) (s length : UInt64) : UInt64 :=
  scan chars s (s + length) - s

/-- `StringLength(s)`. -/
def stringLengthMax (chars : UInt64 → UInt8) (s : UInt64) : UInt64 :=
  stringLength chars s (UInt64.ofNat sizeMax)

/-- A string of `k` characters and a NUL stand at `s`, below the top of the address range. -/
structure StringAt (chars : UInt64 → UInt8) (s : UInt64) (k : Nat) : Prop where
  nonnull : s ≠ 0
  fits : s.toNat + k + 1 < 2 ^ 64
  characters : ∀ i, i < k → chars (s + UInt64.ofNat i) ≠ 0
  terminated : chars (s + UInt64.ofNat k) = 0

section

variable {chars : UInt64 → UInt8} {s : UInt64} {k : Nat}

theorem toNat_add_ofNat {n : Nat} (fits : s.toNat + n < 2 ^ 64) :
    (s + UInt64.ofNat n).toNat = s.toNat + n := by
  rw [UInt64.toNat_add, UInt64.toNat_ofNat_of_lt' (by simp only [UInt64.size]; omega),
    Nat.mod_eq_of_lt fits]

theorem add_one_add_ofNat (n : Nat) : s + 1 + UInt64.ofNat n = s + UInt64.ofNat (n + 1) := by
  rw [UInt64.add_assoc, UInt64.add_comm 1, UInt64.ofNat_add]
  rfl

/-- The string behind the first character. -/
theorem StringAt.tail (string : StringAt chars s (k + 1)) : StringAt chars (s + 1) k := by
  have fits := string.fits
  have next : (s + 1).toNat = s.toNat + 1 := toNat_add_ofNat (s := s) (n := 1) (by omega)
  refine ⟨?_, by omega, ?_, ?_⟩
  · intro null
    rw [null] at next
    exact absurd next (by simp)
  · intro i inside
    rw [add_one_add_ofNat]
    exact string.characters (i + 1) (by omega)
  · rw [add_one_add_ofNat]
    exact string.terminated

/-- By induction on the string: the scan stops at the NUL or at the bound,
whichever comes first. -/
theorem scan_eq (string : StringAt chars s k) {n : Nat} (fits : s.toNat + n < 2 ^ 64) :
    scan chars s (s + UInt64.ofNat n) = s + UInt64.ofNat (min n k) := by
  induction k generalizing s n with
  | zero =>
      have stopped : ¬ (s < s + UInt64.ofNat n ∧ chars s ≠ 0) := by
        intro running
        apply running.2
        simpa using string.terminated
      rw [scan, if_neg stopped, Nat.min_zero]
      simp
  | succ k ih =>
      cases n with
      | zero =>
          have stopped : ¬ (s < s + UInt64.ofNat 0 ∧ chars s ≠ 0) := by simp
          rw [scan, if_neg stopped, Nat.zero_min]
          simp
      | succ n =>
          have first : chars s ≠ 0 := by simpa using string.characters 0 (by omega)
          have below : s < s + UInt64.ofNat (n + 1) := by
            rw [UInt64.lt_iff_toNat_lt, toNat_add_ofNat fits]
            omega
          have next : (s + 1).toNat = s.toNat + 1 := toNat_add_ofNat (s := s) (n := 1) (by omega)
          rw [scan, if_pos ⟨below, first⟩, ← add_one_add_ofNat,
            ih string.tail (by omega), add_one_add_ofNat, Nat.succ_min_succ]

theorem toNat_stringLength (string : StringAt chars s k) {n : UInt64}
    (fits : s.toNat + n.toNat < 2 ^ 64) : (stringLength chars s n).toNat = min n.toNat k := by
  have top := string.fits
  have scanned := scan_eq string fits
  rw [UInt64.ofNat_toNat] at scanned
  have reached := toNat_add_ofNat (s := s) (n := min n.toNat k) (by omega)
  have ordered : s ≤ s + UInt64.ofNat (min n.toNat k) := by
    rw [UInt64.le_iff_toNat_le]
    omega
  rw [stringLength, scanned, UInt64.toNat_sub_of_le _ _ ordered, reached]
  omega

/-- The end of the unbounded overload wraps to the address below the string. -/
theorem stringLengthMax_eq_zero (nonnull : s ≠ 0) : stringLengthMax chars s = 0 := by
  have wrapped : ¬ s < s + UInt64.ofNat sizeMax := by
    have nonzero : s.toNat ≠ 0 := fun zero => nonnull (UInt64.toNat_inj.mp zero)
    have bounded := s.toNat_lt
    rw [UInt64.lt_iff_toNat_lt, UInt64.toNat_add]
    simp only [sizeMax, UInt64.toNat_ofNat']
    omega
  rw [stringLengthMax, stringLength, scan, if_neg (fun running => wrapped running.1)]
  exact UInt64.sub_self s

end

/-- The two overloads measure the string: the bounded one up to its bound. -/
structure Measured (chars : UInt64 → UInt8) (s : UInt64) (k : Nat) : Prop where
  bounded : ∀ n : UInt64, s.toNat + n.toNat < 2 ^ 64 →
    (stringLength chars s n).toNat = min n.toNat k
  unbounded : (stringLengthMax chars s).toNat = k

/-- Only the empty string is measured right by both. -/
theorem measured_iff (chars : UInt64 → UInt8) (s : UInt64) (k : Nat)
    (string : StringAt chars s k) : Measured chars s k ↔ k = 0 := by
  have none : (stringLengthMax chars s).toNat = 0 := by
    rw [stringLengthMax_eq_zero string.nonnull]
    rfl
  constructor
  · intro measured
    exact measured.unbounded.symm.trans none
  · intro empty
    subst empty
    exact ⟨fun _ fits => toNat_stringLength string fits, none⟩

/-- Memory that holds the string `"a"` at address 4096 and NULs elsewhere. -/
def letterA (address : UInt64) : UInt8 := if address = 4096 then 97 else 0

theorem stringAt_letterA : StringAt letterA 4096 1 := by
  refine ⟨by decide, by decide, ?_, by decide⟩
  intro i inside
  obtain rfl : i = 0 := by omega
  decide

theorem measured_iff_of_letterA :
    StringAt letterA 4096 1 ∧ (Measured letterA 4096 1 ↔ 1 = 0) :=
  ⟨stringAt_letterA, measured_iff letterA 4096 1 stringAt_letterA⟩

theorem not_measured_letterA : StringAt letterA 4096 1 ∧ ¬ Measured letterA 4096 1 := by
  refine ⟨stringAt_letterA, fun measured => ?_⟩
  have length := measured.unbounded
  rw [stringLengthMax_eq_zero stringAt_letterA.nonnull] at length
  cases length

end UdpGame
