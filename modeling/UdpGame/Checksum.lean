import UdpGame.Message
import UdpGame.Lib.Absorb

/-!
# The payload hash

One round of `FNV1A_64` xors a byte into the seed and multiplies by the prime.
The prime is odd, hence invertible modulo `2 ^ 64`, so a round loses neither the
seed nor the byte.
-/

namespace UdpGame

open Absorb

/-- The inverse of `kFnv1aPrime` modulo `2 ^ 64`. -/
def kFnv1aInverse : UInt64 := 14886173955864302971

theorem kFnv1aPrime_mul_inverse : kFnv1aPrime * kFnv1aInverse = 1 := by decide

theorem mul_kFnv1aPrime_injective : Function.Injective fun seed : UInt64 => seed * kFnv1aPrime := by
  intro a b same
  have undone : a * kFnv1aPrime * kFnv1aInverse = b * kFnv1aPrime * kFnv1aInverse :=
    congrArg (fun seed => seed * kFnv1aInverse) same
  rw [UInt64.mul_assoc, UInt64.mul_assoc, kFnv1aPrime_mul_inverse] at undone
  simpa only [UInt64.mul_one] using undone

theorem fnv1a64_absorbing :
    Absorbing fun (seed : UInt64) (d : UInt8) => (seed ^^^ d.toUInt64) * kFnv1aPrime where
  state d a b same := (UInt64.xor_left_inj d.toUInt64).mp (mul_kFnv1aPrime_injective same)
  letter seed d e same := by
    have widened : d.toUInt64 = e.toUInt64 :=
      (UInt64.xor_right_inj seed).mp (mul_kFnv1aPrime_injective same)
    apply UInt8.toNat_inj.mp
    exact congrArg UInt64.toNat widened

/-- `FNV1A_64` sees every change of a single byte. -/
theorem fnv1a64_ne_of_byte (front back : List UInt8) (a b : UInt8) (differ : a ≠ b) :
    fnv1a64 (front ++ [a] ++ back) ≠ fnv1a64 (front ++ [b] ++ back) :=
  fnv1a64_absorbing.foldl_ne kFnv1aSeed front back differ

theorem fnv1a64_ne_of_flipped_bit :
    (0x61 : UInt8) ≠ 0x60 ∧ fnv1a64 ([1, 2] ++ [0x61] ++ [3]) ≠ fnv1a64 ([1, 2] ++ [0x60] ++ [3]) :=
  have differ : (0x61 : UInt8) ≠ 0x60 := by decide
  ⟨differ, fnv1a64_ne_of_byte [1, 2] [3] 0x61 0x60 differ⟩

end UdpGame
