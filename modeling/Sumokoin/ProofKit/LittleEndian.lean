import Mathlib

/-! Little-endian byte strings of naturals: `leBytes width n` is the `width` bytes of `n` from the
lowest, as a little-endian host stores a fixed-width integer, and `leValue` reads bytes back.
Reading the bytes written gives the value modulo `256 ^ width`, and cutting a byte string at or
past its width leaves it whole. -/

namespace Sumokoin.ProofKit

def leBytes : Nat → Nat → List UInt8
  | 0, _ => []
  | width + 1, n => UInt8.ofNat (n % 256) :: leBytes width (n / 256)

def leValue : List UInt8 → Nat
  | [] => 0
  | b :: rest => b.toNat + 256 * leValue rest

@[simp] theorem leBytes_zero (n : Nat) : leBytes 0 n = [] := rfl

@[simp] theorem leBytes_succ (width n : Nat) :
    leBytes (width + 1) n = UInt8.ofNat (n % 256) :: leBytes width (n / 256) := rfl

@[simp] theorem leValue_nil : leValue [] = 0 := rfl

@[simp] theorem leValue_cons (b : UInt8) (rest : List UInt8) :
    leValue (b :: rest) = b.toNat + 256 * leValue rest := rfl

@[simp] theorem length_leBytes (width n : Nat) : (leBytes width n).length = width := by
  induction width generalizing n with
  | zero => rfl
  | succ width ih => rw [leBytes_succ, List.length_cons, ih]

theorem leValue_leBytes (width n : Nat) : leValue (leBytes width n) = n % 256 ^ width := by
  induction width generalizing n with
  | zero => rw [leBytes_zero, leValue_nil, pow_zero, Nat.mod_one]
  | succ width ih =>
    have low : n % 256 % 2 ^ 8 = n % 256 := Nat.mod_eq_of_lt (Nat.mod_lt n (by decide))
    rw [leBytes_succ, leValue_cons, ih, UInt8.toNat_ofNat', low, pow_succ', Nat.mod_mul]

theorem leValue_leBytes_of_lt {width n : Nat} (small : n < 256 ^ width) :
    leValue (leBytes width n) = n := by
  rw [leValue_leBytes, Nat.mod_eq_of_lt small]

theorem take_leBytes_of_le {width i : Nat} (n : Nat) (le : width ≤ i) :
    (leBytes width n).take i = leBytes width n :=
  List.take_of_length_le (by rw [length_leBytes]; exact le)

theorem drop_leBytes_of_le {width i : Nat} (n : Nat) (le : width ≤ i) :
    (leBytes width n).drop i = [] :=
  List.drop_eq_nil_of_le (by rw [length_leBytes]; exact le)

end Sumokoin.ProofKit
