import Sumokoin.Crypto.TreeHash

/-! What `tree_hash` computes. `tree_hash_cnt` ends exactly when `count ≤ 2 ^ 63`, with the largest
power of two below `count`; the first loop fills the buffer with the level of `treeOf`'s leaves and
pairs, and each round of the in-place loop leaves the pairs of the first `2 cnt` slots in the first
`cnt`, so the result is the root of `treeOf`, whose leaves are the hashes in order. Trees of lists
of one length have one shape, so a root binds the hashes of a given count: two lists of that many
hashes with the same `tree_hash` are equal, or `cn_fast_hash` of 64 bytes has a collision. -/

namespace Sumokoin.Crypto

open Sumokoin.ProofKit

variable {H : Type}

/-! ### tree_hash_cnt -/

theorem treeHashCntLoop_wrapped {count : Nat} (pos : 0 < count) (fuel : Nat) :
    treeHashCntLoop count fuel 0 = none := by
  induction fuel with
  | zero => rfl
  | succ fuel ih => rw [treeHashCntLoop, if_pos pos]; simpa using ih

theorem double_pow_of_lt {j : Nat} (fits : j + 1 < 64) : 2 ^ j <<< 1 % 2 ^ 64 = 2 ^ (j + 1) := by
  rw [Nat.shiftLeft_eq, pow_one, ← pow_succ]
  exact Nat.mod_eq_of_lt (Nat.pow_lt_pow_right (by decide) fits)

/-- From `pow = 2 ^ j` the loop doubles up to `2 ^ (e + 1)`, the first power not below `count`. -/
theorem treeHashCntLoop_pow {count e : Nat} (below : 2 ^ e < count) (atMost : count ≤ 2 ^ (e + 1))
    (fits : e + 1 ≤ 63) {fuel j : Nat} (reach : j ≤ e + 1) (enough : e + 1 < j + fuel) :
    treeHashCntLoop count fuel (2 ^ j) = some (2 ^ e) := by
  induction fuel generalizing j with
  | zero => omega
  | succ fuel ih =>
    rw [treeHashCntLoop]
    by_cases top : j = e + 1
    · subst top
      rw [if_neg (by omega), Nat.shiftRight_one, pow_succ, Nat.mul_div_cancel _ two_pos]
    · have doubling : 2 ^ j < count :=
        lt_of_le_of_lt (Nat.pow_le_pow_right (by decide) (by omega)) below
      rw [if_pos doubling, double_pow_of_lt (by omega)]
      exact ih (by omega) (by omega)

theorem treeHashCntLoop_overflow {count : Nat} (huge : 2 ^ 63 < count) {fuel j : Nat}
    (reach : j ≤ 63) : treeHashCntLoop count fuel (2 ^ j) = none := by
  induction fuel generalizing j with
  | zero => rfl
  | succ fuel ih =>
    have doubling : 2 ^ j < count := lt_of_le_of_lt (Nat.pow_le_pow_right (by decide) reach) huge
    rw [treeHashCntLoop, if_pos doubling]
    by_cases top : j = 63
    · subst top
      exact treeHashCntLoop_wrapped (by omega) fuel
    · rw [double_pow_of_lt (by omega)]
      exact ih (by omega)

/-- `tree_hash_cnt(count)` is the largest power of two below `count`, for `3 ≤ count ≤ 2 ^ 63`. -/
theorem treeHashCnt_eq {count : Nat} (three : 3 ≤ count) (fits : count ≤ 2 ^ 63) :
    treeHashCnt count = some (2 ^ Nat.log2 (count - 1)) := by
  have below : 2 ^ Nat.log2 (count - 1) < count := by
    have := Nat.log2_self_le (n := count - 1) (by omega)
    omega
  have atMost : count ≤ 2 ^ (Nat.log2 (count - 1) + 1) := by
    have := Nat.lt_log2_self (n := count - 1)
    omega
  have small : Nat.log2 (count - 1) + 1 ≤ 63 := by
    have := (Nat.log2_lt (n := count - 1) (k := 63) (by omega)).mpr (by omega)
    omega
  exact treeHashCntLoop_pow (j := 1) below atMost small (by omega) (by omega)

theorem treeHashCnt_eq_none {count : Nat} (huge : 2 ^ 63 < count) : treeHashCnt count = none :=
  treeHashCntLoop_overflow (j := 1) huge (by omega)

/-! ### The loops on the buffer -/

/-- The first loop reads the input: slot `j + p` gets the hash of input entries `i + 2 p` and
`i + 2 p + 1`, for each of the `n` passes. -/
theorem hashPairsLoop_of_source (hashPair : H → H → H) (src : Nat → H) (n : Nat) :
    ∀ (i j : Nat) (ints : Nat → H) (k : Nat),
      hashPairsLoop hashPair (fun _ i => src i) n i j ints k =
        if j ≤ k ∧ k < j + n then hashPair (src (i + 2 * (k - j))) (src (i + 2 * (k - j) + 1))
        else ints k := by
  induction n with
  | zero => intro i j ints k; simp [hashPairsLoop]
  | succ n ih =>
    intro i j ints k
    rw [hashPairsLoop, ih, Function.update_apply]
    by_cases here : k = j
    · subst here
      simp
    · by_cases later : j + 1 ≤ k ∧ k < j + 1 + n
      · have shifted : i + 2 + 2 * (k - (j + 1)) = i + 2 * (k - j) := by omega
        rw [if_pos later, if_pos (by omega), shifted]
      · rw [if_neg later, if_neg here, if_neg (by omega)]

/-- The rounds read the buffer they write: slot `k` gets the hash of slots `2 k` and `2 k + 1`, which
no earlier pass of the round has written. -/
theorem hashPairsLoop_in_place (hashPair : H → H → H) (n : Nat) :
    ∀ (j : Nat) (ints : Nat → H) (k : Nat),
      hashPairsLoop hashPair (fun ints i => ints i) n (2 * j) j ints k =
        if j ≤ k ∧ k < j + n then hashPair (ints (2 * k)) (ints (2 * k + 1)) else ints k := by
  induction n with
  | zero => intro j ints k; simp [hashPairsLoop]
  | succ n ih =>
    intro j ints k
    rw [hashPairsLoop, show 2 * j + 2 = 2 * (j + 1) by ring, ih]
    simp only [Function.update_apply]
    by_cases here : k = j
    · subst here
      simp
    · by_cases later : j + 1 ≤ k ∧ k < j + 1 + n
      · rw [if_pos later, if_pos (show j ≤ k ∧ k < j + (n + 1) by omega),
          if_neg (show ¬2 * k = j by omega), if_neg (show ¬2 * k + 1 = j by omega)]
      · rw [if_neg later, if_neg here, if_neg (show ¬(j ≤ k ∧ k < j + (n + 1)) by omega)]

/-- A round of the reduction: the pairs of the first `2 cnt` slots, in the first `cnt`. -/
theorem map_range_hashPairsLoop_in_place (hashPair : H → H → H) (cnt : Nat) (ints : Nat → H) :
    (List.range cnt).map (hashPairsLoop hashPair (fun ints i => ints i) cnt 0 0 ints) =
      pairUp hashPair ((List.range (2 * cnt)).map ints) := by
  rw [pairUp_map_range]
  refine List.map_congr_left fun k mem => ?_
  rw [show (0 : Nat) = 2 * 0 from rfl, hashPairsLoop_in_place,
    if_pos ⟨Nat.zero_le k, by simpa using List.mem_range.mp mem⟩]

/-- The reduction from `2 ^ (k + 1)` slots leaves in the first two the level that `k` rounds of
pairing make of them. -/
theorem map_range_reduceLoop (hashPair : H → H → H) (k : Nat) :
    ∀ ints : Nat → H, (List.range 2).map (reduceLoop hashPair (2 ^ (k + 1)) ints) =
      (pairUp hashPair)^[k] ((List.range (2 ^ (k + 1))).map ints) := by
  induction k with
  | zero => intro ints; rw [reduceLoop, if_neg (by decide)]; rfl
  | succ k ih =>
    intro ints
    have half : 2 ^ (k + 1 + 1) >>> 1 = 2 ^ (k + 1) := by
      rw [Nat.shiftRight_one, pow_succ, Nat.mul_div_cancel _ two_pos]
    have more : 2 < 2 ^ (k + 1 + 1) := by
      calc 2 < 2 ^ 2 := by decide
        _ ≤ 2 ^ (k + 1 + 1) := Nat.pow_le_pow_right (by decide) (by omega)
    rw [reduceLoop, if_pos more, half, ih, map_range_hashPairsLoop_in_place,
      ← Function.iterate_succ_apply, show 2 * 2 ^ (k + 1) = 2 ^ (k + 1 + 1) by ring]

/-! ### The level the first loop builds -/

theorem map_range_getD_of_le {α : Type} (l : List α) (d : α) {m : Nat} (le : m ≤ l.length) :
    (List.range m).map (fun k => l.getD k d) = l.take m := by
  refine List.ext_getElem (by simp [le]) fun k h₁ h₂ => ?_
  simp only [List.getElem_map, List.getElem_range, List.getElem_take]
  rw [List.getD_eq_getElem _ _ (by simp at h₁; omega)]

theorem map_range_getD_add {α : Type} (l : List α) (d : α) (m : Nat) :
    (List.range (l.length - m)).map (fun i => l.getD (m + i) d) = l.drop m := by
  refine List.ext_getElem (by simp) fun k h₁ h₂ => ?_
  simp only [List.getElem_map, List.getElem_range, List.getElem_drop]
  rw [List.getD_eq_getElem _ _ (by simp at h₁; omega)]

/-- The buffer after the copy and the first loop of `tree_hash`. -/
def firstLevel (zero : H) (hashPair : H → H → H) (hashes : List H) (cnt : Nat) : Nat → H :=
  hashPairsLoop hashPair (fun _ i => hashes.getD i zero) (cnt - (2 * cnt - hashes.length))
    (2 * cnt - hashes.length) (2 * cnt - hashes.length)
    (fun k => if k < 2 * cnt - hashes.length then hashes.getD k zero else zero)

/-- The first `cnt` slots after the first loop: the first `2 cnt - count` hashes, then the hashes of
the pairs of the others. -/
theorem map_range_firstLevel {zero : H} {hashPair : H → H → H} {hashes : List H} {cnt : Nat} (below : cnt < hashes.length)
    (atMost : hashes.length ≤ 2 * cnt) :
    (List.range cnt).map (firstLevel zero hashPair hashes cnt) =
      hashes.take (2 * cnt - hashes.length) ++
        pairUp hashPair (hashes.drop (2 * cnt - hashes.length)) := by
  set m := 2 * cnt - hashes.length with hm
  have split : List.range cnt = List.range m ++ (List.range (cnt - m)).map (m + ·) := by
    rw [← List.range_add, Nat.add_sub_cancel' (by omega)]
  have pairs : hashes.length - m = 2 * (cnt - m) := by omega
  rw [split, List.map_append, List.map_map]
  congr 1
  · rw [← map_range_getD_of_le hashes zero (by omega)]
    refine List.map_congr_left fun k mem => ?_
    have small := List.mem_range.mp mem
    rw [firstLevel, hashPairsLoop_of_source, if_neg (by omega), if_pos small]
  · rw [← map_range_getD_add hashes zero m, pairs, pairUp_map_range]
    refine List.map_congr_left fun p mem => ?_
    have small := List.mem_range.mp mem
    simp only [Function.comp_apply, firstLevel]
    rw [hashPairsLoop_of_source, if_pos (by omega), show m + p - m = p by omega,
      show m + 2 * p + 1 = m + (2 * p + 1) by ring]

/-! ### The tree -/

/-- The level of `2 ^ k` trees that `treeOf` joins: leaves, then pairs of leaves. -/
def leafLevel (hashes : List H) (m : Nat) : List (HashTree H) :=
  (hashes.take m).map .leaf ++ pairUp HashTree.node ((hashes.drop m).map .leaf)

theorem map_root_leafLevel (hashPair : H → H → H) (hashes : List H) (m : Nat) :
    (leafLevel hashes m).map (HashTree.root hashPair) =
      hashes.take m ++ pairUp hashPair (hashes.drop m) := by
  have leafRoot : (HashTree.root hashPair ∘ HashTree.leaf : H → H) = id := rfl
  rw [leafLevel, List.map_append, List.map_map, map_pairUp (fun _ _ => HashTree.root_node _ _ _),
    List.map_map, leafRoot, List.map_id, List.map_id]

theorem flatMap_leaves_leafLevel (hashes : List H) (m : Nat) :
    (leafLevel hashes m).flatMap HashTree.leaves = hashes := by
  rw [leafLevel, List.flatMap_append, flatMap_leaves_pairUp, ← List.flatMap_append, ← List.map_append,
    List.take_append_drop]
  induction hashes with
  | nil => rfl
  | cons h hashes ih => rw [List.map_cons, List.flatMap_cons, ih]; rfl

theorem length_leafLevel {hashes : List H} {m : Nat} (even : Even (hashes.length - m)) :
    (leafLevel hashes m).length = min m hashes.length + (hashes.length - m) / 2 := by
  rw [leafLevel, List.length_append, List.length_map, List.length_take,
    length_pairUp _ (by simpa using even), List.length_map, List.length_drop]

/-- `k` for a count of at least two: `2 ^ k < count ≤ 2 ^ (k + 1)`. -/
theorem pow_log2_bounds {count : Nat} (two : 2 ≤ count) :
    2 ^ Nat.log2 (count - 1) < count ∧ count ≤ 2 * 2 ^ Nat.log2 (count - 1) := by
  have low := Nat.log2_self_le (n := count - 1) (by omega)
  have high := Nat.lt_log2_self (n := count - 1)
  rw [pow_succ] at high
  omega

/-- For two hashes and more, `treeOf` is the one tree that `k` rounds make of the level. -/
theorem treeOf_eq {hashes : List H} (two : 2 ≤ hashes.length) :
    ∃ t, (pairUp HashTree.node)^[Nat.log2 (hashes.length - 1)]
        (leafLevel hashes (2 * 2 ^ Nat.log2 (hashes.length - 1) - hashes.length)) = [t] ∧
      treeOf hashes = some t := by
  obtain ⟨below, atMost⟩ := pow_log2_bounds two
  have length : (leafLevel hashes (2 * 2 ^ Nat.log2 (hashes.length - 1) - hashes.length)).length =
      2 ^ Nat.log2 (hashes.length - 1) * 1 := by
    rw [length_leafLevel ⟨hashes.length - 2 ^ Nat.log2 (hashes.length - 1), by omega⟩]
    omega
  obtain ⟨t, single⟩ := List.length_eq_one_iff.mp (length_iterate_pairUp _ _ length)
  refine ⟨t, single, ?_⟩
  match hashes, two with
  | _ :: _ :: _, _ => simp only [treeOf]; rw [← leafLevel, single]; rfl

/-- The tree holds the hashes as its leaves, in order. -/
theorem leaves_treeOf {hashes : List H} {t : HashTree H} (built : treeOf hashes = some t) :
    t.leaves = hashes := by
  match hashes, built with
  | [_], built => cases built; rfl
  | a :: b :: rest, built =>
    obtain ⟨t', single, built'⟩ := treeOf_eq (show 2 ≤ (a :: b :: rest).length by simp)
    obtain rfl := Option.some.inj (built'.symm.trans built)
    have := flatMap_leaves_iterate_pairUp (Nat.log2 ((a :: b :: rest).length - 1))
      (leafLevel (a :: b :: rest) (2 * 2 ^ Nat.log2 ((a :: b :: rest).length - 1) -
        (a :: b :: rest).length))
    rw [single, flatMap_leaves_leafLevel] at this
    simpa using this

theorem sameShape_leafLevel {l₁ l₂ : List H} (same : l₁.length = l₂.length) (m : Nat) :
    List.Forall₂ HashTree.SameShape (leafLevel l₁ m) (leafLevel l₂ m) := by
  have leaves : ∀ {a b : List H}, a.length = b.length →
      List.Forall₂ HashTree.SameShape (a.map .leaf) (b.map .leaf) := by
    intro a b lengths
    induction a generalizing b with
    | nil => cases b with
      | nil => exact .nil
      | cons => simp at lengths
    | cons x a ih => cases b with
      | nil => simp at lengths
      | cons y b => exact .cons (.leaf x y) (ih (by simpa using lengths))
  exact List.rel_append (leaves (by simp [same]))
    (forall₂_sameShape_pairUp (leaves (by simp [same])))

/-- Lists of one length have trees of one shape. -/
theorem sameShape_treeOf {l₁ l₂ : List H} (same : l₁.length = l₂.length) {t₁ t₂ : HashTree H}
    (built₁ : treeOf l₁ = some t₁) (built₂ : treeOf l₂ = some t₂) : t₁.SameShape t₂ := by
  match l₁, l₂, built₁, built₂ with
  | [_], [_], built₁, built₂ => cases built₁; cases built₂; exact .leaf _ _
  | [_], _ :: _ :: _, _, _ => simp at same
  | _ :: _ :: _, [_], _, _ => simp at same
  | a :: b :: r₁, c :: d :: r₂, built₁, built₂ =>
    obtain ⟨t₁', single₁, tree₁⟩ := treeOf_eq (show 2 ≤ (a :: b :: r₁).length by simp)
    obtain ⟨t₂', single₂, tree₂⟩ := treeOf_eq (show 2 ≤ (c :: d :: r₂).length by simp)
    obtain rfl := Option.some.inj (tree₁.symm.trans built₁)
    obtain rfl := Option.some.inj (tree₂.symm.trans built₂)
    have shapes := forall₂_sameShape_iterate_pairUp (Nat.log2 ((a :: b :: r₁).length - 1))
      (sameShape_leafLevel same (2 * 2 ^ Nat.log2 ((a :: b :: r₁).length - 1) - (a :: b :: r₁).length))
    rw [single₁, same, single₂] at shapes
    cases shapes with
    | cons shape _ => exact shape

/-! ### tree_hash -/

theorem treeHash_of_three_le (zero : H) (hashPair : H → H → H) {hashes : List H}
    (three : 3 ≤ hashes.length) :
    treeHash zero hashPair hashes = (treeHashCnt hashes.length).bind fun cnt =>
      some (hashPair (reduceLoop hashPair cnt (firstLevel zero hashPair hashes cnt) 0)
        (reduceLoop hashPair cnt (firstLevel zero hashPair hashes cnt) 1)) := by
  match hashes, three with
  | a :: b :: c :: rest, _ =>
    simp only [treeHash, firstLevel]
    rfl

theorem treeHash_of_le (zero : H) (hashPair : H → H → H) {hashes : List H}
    (fits : hashes.length ≤ 2 ^ 63) :
    treeHash zero hashPair hashes = (treeOf hashes).map (HashTree.root hashPair) := by
  match hashes with
  | [] => simp [treeHash, treeOf]
  | [h] => simp [treeHash, treeOf]
  | [h0, h1] =>
    have k0 : Nat.log2 1 = 0 := by
      have := (Nat.log2_lt (n := 1) (k := 1) (by decide)).mpr (by decide)
      omega
    have built : treeOf [h0, h1] = some (.node (.leaf h0) (.leaf h1)) := by
      simp [treeOf, k0, pairUp]
    simp [treeHash, built]
  | a :: b :: c :: rest =>
    set hashes := a :: b :: c :: rest with hhashes
    have three : 3 ≤ hashes.length := by simp [hhashes]
    rw [treeHash_of_three_le zero hashPair three, treeHashCnt_eq three fits, Option.bind_some]
    obtain ⟨below, atMost⟩ := pow_log2_bounds (by omega : 2 ≤ hashes.length)
    obtain ⟨t, single, built⟩ := treeOf_eq (by omega : 2 ≤ hashes.length)
    rw [built, Option.map_some]
    set k := Nat.log2 (hashes.length - 1)
    obtain ⟨j, hj⟩ : ∃ j, k = j + 1 := ⟨k - 1, by
      have : 2 ≤ hashes.length - 1 := by omega
      have := (Nat.log2_lt (n := hashes.length - 1) (k := 1) (by omega)).not.mpr (by omega)
      omega⟩
    -- the two slots the reduction leaves are the last level below the root
    have slots := map_range_reduceLoop hashPair j (firstLevel zero hashPair hashes (2 ^ k))
    rw [← hj, map_range_firstLevel below atMost, ← map_root_leafLevel hashPair] at slots
    have roots := map_iterate_pairUp (fun l r => HashTree.root_node hashPair l r) k
      (leafLevel hashes (2 * 2 ^ k - hashes.length))
    rw [single, hj, Function.iterate_succ_apply', ← hj, ← slots,
      show List.range 2 = [0, 1] from rfl] at roots
    simpa [pairUp] using roots.symm

theorem treeHash_of_lt (zero : H) (hashPair : H → H → H) {hashes : List H}
    (huge : 2 ^ 63 < hashes.length) : treeHash zero hashPair hashes = none := by
  rw [treeHash_of_three_le zero hashPair (by omega), treeHashCnt_eq_none huge, Option.bind_none]

/-- `tree_hash` is the root of `treeOf`: for every list of at most `2 ^ 63` hashes the loops compute
the root of the tree whose leaves are the hashes, and past `2 ^ 63` the doubling never ends. -/
theorem treeHash_eq_root (zero : H) (hashPair : H → H → H) (hashes : List H) :
    treeHash zero hashPair hashes =
      if hashes.length ≤ 2 ^ 63 then (treeOf hashes).map (HashTree.root hashPair) else none := by
  split_ifs with fits
  · exact treeHash_of_le zero hashPair fits
  · exact treeHash_of_lt zero hashPair (Nat.lt_of_not_le fits)

/-- A root binds the hashes of a given count: two lists of as many hashes with the same
`tree_hash` are equal, or the hash of two hashes has a collision. -/
theorem treeHash_binding (zero : H) (hashPair : H → H → H) {l₁ l₂ : List H}
    (same : l₁.length = l₂.length) {root : H} (hashed₁ : treeHash zero hashPair l₁ = some root)
    (hashed₂ : treeHash zero hashPair l₂ = some root) : l₁ = l₂ ∨ HasCollision hashPair := by
  have fits : ∀ {l : List H}, treeHash zero hashPair l = some root → l.length ≤ 2 ^ 63 :=
    fun hashed => Nat.le_of_not_lt fun huge => by
      rw [treeHash_of_lt zero hashPair huge] at hashed
      cases hashed
  rw [treeHash_of_le zero hashPair (fits hashed₁)] at hashed₁
  rw [treeHash_of_le zero hashPair (fits hashed₂)] at hashed₂
  obtain ⟨t₁, built₁, rfl⟩ := Option.map_eq_some_iff.mp hashed₁
  obtain ⟨t₂, built₂, roots⟩ := Option.map_eq_some_iff.mp hashed₂
  rcases HashTree.leaves_eq_of_root_eq (sameShape_treeOf same built₁ built₂) roots.symm with
    leaves | collision
  · exact .inl (by rw [← leaves_treeOf built₁, ← leaves_treeOf built₂, leaves])
  · exact .inr collision

theorem treeHash_binding_sum_of_three :
    treeHash 0 (fun a b : Nat => a + b) [1, 2, 3] = some 6 ∧
      treeHash 0 (fun a b : Nat => a + b) [3, 2, 1] = some 6 ∧
      ([1, 2, 3] = [3, 2, 1] ∨ HasCollision fun a b : Nat => a + b) := by
  have hashed₁ : treeHash 0 (fun a b : Nat => a + b) [1, 2, 3] = some 6 := by decide +kernel
  have hashed₂ : treeHash 0 (fun a b : Nat => a + b) [3, 2, 1] = some 6 := by decide +kernel
  exact ⟨hashed₁, hashed₂, treeHash_binding 0 _ rfl hashed₁ hashed₂⟩

end Sumokoin.Crypto
