import Mathlib

/-! Fixed-width big-endian digits: `toDigitsBE b w n` is the list of the `w` last digits of `n` in
base `b`, most significant first, and `ofDigitsBE b ds` the number they spell. Byte strings read
as big-endian words and the letters of a positional code are both such lists; the lemmas say when
the two functions undo each other, and how the big-endian reading relates to Mathlib's
little-endian `Nat.ofDigits`. -/

namespace Sumokoin.ProofKit

/-- The number with the big-endian digits `ds` in base `b`. -/
def ofDigitsBE (b : Nat) (ds : List Nat) : Nat := ds.foldl (fun acc d => acc * b + d) 0

/-- The `w` last big-endian digits in base `b` of `n`. -/
def toDigitsBE (b : Nat) : Nat → Nat → List Nat
  | 0, _ => []
  | w + 1, n => toDigitsBE b w (n / b) ++ [n % b]

variable {b : Nat}

@[simp] theorem ofDigitsBE_nil : ofDigitsBE b [] = 0 := rfl

@[simp] theorem ofDigitsBE_append_singleton (ds : List Nat) (d : Nat) :
    ofDigitsBE b (ds ++ [d]) = ofDigitsBE b ds * b + d := by
  simp [ofDigitsBE, List.foldl_append]

theorem ofDigitsBE_eq_ofDigits_reverse (ds : List Nat) : ofDigitsBE b ds = Nat.ofDigits b ds.reverse := by
  induction ds using List.reverseRecOn with
  | nil => rfl
  | append_singleton ds d ih =>
    rw [ofDigitsBE_append_singleton, ih, List.reverse_append, List.reverse_singleton,
      List.singleton_append, Nat.ofDigits_cons]
    ring

@[simp] theorem length_toDigitsBE (w n : Nat) : (toDigitsBE b w n).length = w := by
  induction w generalizing n with
  | zero => rfl
  | succ w ih => simp [toDigitsBE, ih]

theorem toDigitsBE_zero (w : Nat) : toDigitsBE b w 0 = List.replicate w 0 := by
  induction w with
  | zero => rfl
  | succ w ih => rw [toDigitsBE, Nat.zero_div, ih, Nat.zero_mod, List.replicate_succ']

theorem lt_of_mem_toDigitsBE (hb : 0 < b) {w n d : Nat} (hd : d ∈ toDigitsBE b w n) : d < b := by
  induction w generalizing n with
  | zero => simp [toDigitsBE] at hd
  | succ w ih =>
    rw [toDigitsBE, List.mem_append, List.mem_singleton] at hd
    rcases hd with hd | rfl
    · exact ih hd
    · exact Nat.mod_lt n hb

/-- The digits spell the number modulo `b ^ w`. -/
theorem ofDigitsBE_toDigitsBE (w n : Nat) : ofDigitsBE b (toDigitsBE b w n) = n % b ^ w := by
  induction w generalizing n with
  | zero => simp [toDigitsBE, Nat.mod_one]
  | succ w ih =>
    rw [toDigitsBE, ofDigitsBE_append_singleton, ih, pow_succ', Nat.mod_mul]
    ring

theorem ofDigitsBE_lt {ds : List Nat} (h : ∀ d ∈ ds, d < b) : ofDigitsBE b ds < b ^ ds.length := by
  induction ds using List.reverseRecOn with
  | nil => simp
  | append_singleton ds d ih =>
    have hd : d < b := h d (by simp)
    have hds : ofDigitsBE b ds < b ^ ds.length := ih fun x hx => h x (by simp [hx])
    rw [ofDigitsBE_append_singleton, List.length_append, List.length_singleton, pow_succ]
    calc ofDigitsBE b ds * b + d < ofDigitsBE b ds * b + b := by omega
      _ = (ofDigitsBE b ds + 1) * b := by ring
      _ ≤ b ^ ds.length * b := Nat.mul_le_mul_right _ hds

/-- Digits below the base are read back from the number they spell. -/
theorem toDigitsBE_ofDigitsBE {ds : List Nat} (h : ∀ d ∈ ds, d < b) :
    toDigitsBE b ds.length (ofDigitsBE b ds) = ds := by
  induction ds using List.reverseRecOn with
  | nil => rfl
  | append_singleton ds d ih =>
    have hd : d < b := h d (by simp)
    have hpos : 0 < b := by omega
    -- the last digit is the remainder, the others spell the quotient
    have hdiv : (ofDigitsBE b ds * b + d) / b = ofDigitsBE b ds := by
      rw [Nat.mul_comm, Nat.mul_add_div hpos, Nat.div_eq_of_lt hd, Nat.add_zero]
    have hmod : (ofDigitsBE b ds * b + d) % b = d := by
      rw [Nat.mul_comm, Nat.mul_add_mod, Nat.mod_eq_of_lt hd]
    rw [List.length_append, List.length_singleton, toDigitsBE, ofDigitsBE_append_singleton, hdiv,
      hmod, ih fun x hx => h x (by simp [hx])]

/-! ### Place values

The little-endian digits in base `b`, each times its place, the lowest place being `order`: the
chunks a number splits into digit by digit. -/

/-- Each digit times its place, from the place `order` up. -/
def placeValues (b order : Nat) : List Nat → List Nat
  | [] => []
  | d :: ds => d * order :: placeValues b (order * b) ds

theorem sum_placeValues (order : Nat) (ds : List Nat) :
    (placeValues b order ds).sum = order * Nat.ofDigits b ds := by
  induction ds generalizing order with
  | nil => simp [placeValues]
  | cons d ds ih =>
    rw [placeValues, List.sum_cons, ih, Nat.ofDigits_cons]
    ring

theorem mem_placeValues {order c : Nat} {ds : List Nat} (hc : c ∈ placeValues b order ds) :
    ∃ d ∈ ds, ∃ k, c = d * (order * b ^ k) := by
  induction ds generalizing order with
  | nil => simp [placeValues] at hc
  | cons d ds ih =>
    rcases List.mem_cons.mp hc with rfl | hc
    · exact ⟨d, List.mem_cons_self, 0, by simp⟩
    · obtain ⟨d', hd', k, rfl⟩ := ih hc
      exact ⟨d', List.mem_cons_of_mem d hd', k + 1, by ring⟩

theorem dvd_of_mem_placeValues {order c : Nat} {ds : List Nat} (hc : c ∈ placeValues b order ds) :
    order ∣ c := by
  obtain ⟨d, -, k, rfl⟩ := mem_placeValues hc
  exact ⟨d * b ^ k, by ring⟩

/-- With digits below the base, a place value that is not zero is above every lower one. -/
theorem pairwise_placeValues {order : Nat} (positive : 0 < order) {ds : List Nat}
    (digits : ∀ d ∈ ds, d < b) :
    (placeValues b order ds).Pairwise fun c c' => c' ≠ 0 → c < c' := by
  induction ds generalizing order with
  | nil => exact List.Pairwise.nil
  | cons d ds ih =>
    have hd : d < b := digits d List.mem_cons_self
    refine List.Pairwise.cons (fun c' hc' nonzero => ?_)
      (ih (Nat.mul_pos positive (by omega)) fun x hx => digits x (List.mem_cons_of_mem d hx))
    -- the higher places are multiples of `order * b`, which is above `d * order`
    have above : order * b ≤ c' :=
      Nat.le_of_dvd (Nat.pos_of_ne_zero nonzero) (dvd_of_mem_placeValues hc')
    calc d * order < b * order := Nat.mul_lt_mul_of_pos_right hd positive
      _ = order * b := Nat.mul_comm _ _
      _ ≤ c' := above

end Sumokoin.ProofKit
