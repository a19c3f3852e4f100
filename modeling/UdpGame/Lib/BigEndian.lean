import Mathlib.Tactic.Common
import Mathlib.Tactic.Ring
import Mathlib.Data.List.Induction

/-!
# Big-endian naturals

`ofBytes` reads a byte string as a number, most significant byte first, and
`toBytes w n` writes the low `w` bytes of `n` in that order.  The fixed-width
codecs of a program are instances: a shift-and-add expression over 2, 4 or 8
bytes is `ofBytes` of them, and a list of shifted and truncated bytes is
`toBytes`.
-/

namespace BigEndian

def ofBytes (bytes : List UInt8) : Nat :=
  bytes.foldl (fun value byte => value * 256 + byte.toNat) 0

def toBytes : Nat → Nat → List UInt8
  | 0, _ => []
  | width + 1, n => toBytes width (n / 256) ++ [UInt8.ofNat n]

@[simp] theorem ofBytes_nil : ofBytes [] = 0 := rfl

theorem ofBytes_snoc (bytes : List UInt8) (byte : UInt8) :
    ofBytes (bytes ++ [byte]) = ofBytes bytes * 256 + byte.toNat := by
  simp only [ofBytes, List.foldl_append, List.foldl_cons, List.foldl_nil]

@[simp] theorem length_toBytes (width n : Nat) : (toBytes width n).length = width := by
  induction width generalizing n with
  | zero => rfl
  | succ width ih => simp only [toBytes, List.length_append, ih, List.length_singleton]

/-- Writing keeps a number up to the width written. -/
theorem ofBytes_toBytes (width n : Nat) : ofBytes (toBytes width n) = n % 256 ^ width := by
  induction width generalizing n with
  | zero => simp [toBytes, Nat.mod_one]
  | succ width ih =>
      have low : (UInt8.ofNat n).toNat = n % 256 := UInt8.toNat_ofNat'
      rw [toBytes, ofBytes_snoc, ih, low, pow_succ', Nat.mod_mul]
      ring

theorem ofBytes_toBytes_of_lt {width n : Nat} (fits : n < 256 ^ width) :
    ofBytes (toBytes width n) = n := by
  rw [ofBytes_toBytes, Nat.mod_eq_of_lt fits]

/-! ## The widths of machine words -/

theorem ofBytes_two (a b : UInt8) : ofBytes [a, b] = a.toNat * 2 ^ 8 + b.toNat := by
  simp [ofBytes]

theorem ofBytes_four (a b c d : UInt8) :
    ofBytes [a, b, c, d] =
      a.toNat * 2 ^ 24 + b.toNat * 2 ^ 16 + c.toNat * 2 ^ 8 + d.toNat := by
  simp only [ofBytes, List.foldl_cons, List.foldl_nil]
  omega

theorem ofBytes_eight (a b c d e f g h : UInt8) :
    ofBytes [a, b, c, d, e, f, g, h] =
      a.toNat * 2 ^ 56 + b.toNat * 2 ^ 48 + c.toNat * 2 ^ 40 + d.toNat * 2 ^ 32 +
        e.toNat * 2 ^ 24 + f.toNat * 2 ^ 16 + g.toNat * 2 ^ 8 + h.toNat := by
  simp only [ofBytes, List.foldl_cons, List.foldl_nil]
  omega

theorem toBytes_two (n : Nat) : toBytes 2 n = [UInt8.ofNat (n / 2 ^ 8), UInt8.ofNat n] := by
  simp [toBytes]

theorem toBytes_four (n : Nat) :
    toBytes 4 n = [UInt8.ofNat (n / 2 ^ 24), UInt8.ofNat (n / 2 ^ 16),
      UInt8.ofNat (n / 2 ^ 8), UInt8.ofNat n] := by
  simp [toBytes, Nat.div_div_eq_div_mul]

theorem toBytes_eight (n : Nat) :
    toBytes 8 n = [UInt8.ofNat (n / 2 ^ 56), UInt8.ofNat (n / 2 ^ 48),
      UInt8.ofNat (n / 2 ^ 40), UInt8.ofNat (n / 2 ^ 32), UInt8.ofNat (n / 2 ^ 24),
      UInt8.ofNat (n / 2 ^ 16), UInt8.ofNat (n / 2 ^ 8), UInt8.ofNat n] := by
  simp [toBytes, Nat.div_div_eq_div_mul]

end BigEndian
