import Mathlib

/-! Binary hash trees. The root of a tree under a node hash `combine` hashes the roots of every
node's two children; its leaves are read from left to right. Pairing the adjacent entries of a list
(`pairUp`) builds a level of a tree from the level below it: it commutes with taking roots and
keeps the leaves in order, and `k` rounds of it take `2 ^ k` entries to one. Two trees of one shape
whose roots agree have the same leaves, unless `combine` has a collision. -/

namespace Sumokoin.ProofKit

inductive HashTree (α : Type) where
  | leaf : α → HashTree α
  | node : HashTree α → HashTree α → HashTree α
  deriving DecidableEq, Repr

namespace HashTree

variable {α : Type}

def root (combine : α → α → α) : HashTree α → α
  | leaf a => a
  | node l r => combine (root combine l) (root combine r)

def leaves : HashTree α → List α
  | leaf a => [a]
  | node l r => leaves l ++ leaves r

inductive SameShape : HashTree α → HashTree α → Prop
  | leaf (a b : α) : SameShape (leaf a) (leaf b)
  | node {l r l' r' : HashTree α} : SameShape l l' → SameShape r r' → SameShape (node l r) (node l' r')

@[simp] theorem root_leaf (combine : α → α → α) (a : α) : (leaf a).root combine = a := rfl

@[simp] theorem root_node (combine : α → α → α) (l r : HashTree α) :
    (node l r).root combine = combine (l.root combine) (r.root combine) := rfl

@[simp] theorem leaves_leaf (a : α) : (leaf a).leaves = [a] := rfl

@[simp] theorem leaves_node (l r : HashTree α) : (node l r).leaves = l.leaves ++ r.leaves := rfl

end HashTree

/-- Two pairs of arguments that `combine` does not tell apart. -/
def HasCollision {α : Type} (combine : α → α → α) : Prop :=
  ∃ a b c d, (a, b) ≠ (c, d) ∧ combine a b = combine c d

/-- A root binds the leaves of a tree of a given shape: two trees of one shape with the same root
have the same leaves, or `combine` has a collision. -/
theorem HashTree.leaves_eq_of_root_eq {α : Type} {combine : α → α → α} {t t' : HashTree α}
    (shape : t.SameShape t') (same : t.root combine = t'.root combine) :
    t.leaves = t'.leaves ∨ HasCollision combine := by
  induction shape with
  | leaf a b => exact .inl (by simpa using same)
  | @node l r l' r' _ _ ihl ihr =>
    by_cases children : (l.root combine, r.root combine) = (l'.root combine, r'.root combine)
    · obtain ⟨rootL, rootR⟩ := Prod.mk.inj children
      rcases ihl rootL with leavesL | collision
      · rcases ihr rootR with leavesR | collision
        · exact .inl (by rw [HashTree.leaves_node, HashTree.leaves_node, leavesL, leavesR])
        · exact .inr collision
      · exact .inr collision
    · exact .inr ⟨_, _, _, _, children, same⟩

/-! ### Levels of pairs -/

section PairUp

variable {β γ : Type}

/-- The adjacent entries combined: the first with the second, the third with the fourth, and so
on; an odd last entry stays. -/
def pairUp (f : β → β → β) : List β → List β
  | a :: b :: rest => f a b :: pairUp f rest
  | l => l

theorem pairUp_nil (f : β → β → β) : pairUp f [] = [] := rfl

theorem pairUp_cons_cons (f : β → β → β) (a b : β) (rest : List β) :
    pairUp f (a :: b :: rest) = f a b :: pairUp f rest := rfl

theorem pairUp_append (f : β → β → β) {l₁ : List β} (even : Even l₁.length) (l₂ : List β) :
    pairUp f (l₁ ++ l₂) = pairUp f l₁ ++ pairUp f l₂ := by
  fun_induction pairUp f l₁ with
  | case1 a b rest ih =>
    rw [List.cons_append, List.cons_append, pairUp_cons_cons, ih (by simpa [Nat.even_add_one] using even),
      List.cons_append]
  | case2 l single =>
    match l, single with
    | [], _ => rfl
    | [_], _ => simp at even
    | _ :: _ :: _, single => exact absurd rfl (single _ _ _)

theorem length_pairUp (f : β → β → β) {l : List β} (even : Even l.length) :
    (pairUp f l).length = l.length / 2 := by
  fun_induction pairUp f l with
  | case1 a b rest ih =>
    rw [List.length_cons, ih (by simpa [Nat.even_add_one] using even), List.length_cons,
      List.length_cons]
    omega
  | case2 l single =>
    match l, single with
    | [], _ => simp
    | [_], _ => simp at even
    | _ :: _ :: _, single => exact absurd rfl (single _ _ _)

/-- A map that sends `f` to `f'` sends the pairs of a list to the pairs of its image. -/
theorem map_pairUp {f : β → β → β} {f' : γ → γ → γ} {g : β → γ}
    (hom : ∀ a b, g (f a b) = f' (g a) (g b)) (l : List β) :
    (pairUp f l).map g = pairUp f' (l.map g) := by
  fun_induction pairUp f l with
  | case1 a b rest ih => rw [List.map_cons, ih, hom]; rfl
  | case2 l single =>
    match l, single with
    | [], _ => rfl
    | [_], _ => rfl
    | _ :: _ :: _, single => exact absurd rfl (single _ _ _)

/-- `k` rounds of pairing take `2 ^ k * n` entries to `n`. -/
theorem length_iterate_pairUp (f : β → β → β) (k : Nat) {l : List β} {n : Nat}
    (length : l.length = 2 ^ k * n) : ((pairUp f)^[k] l).length = n := by
  induction k generalizing l with
  | zero => simpa using length
  | succ k ih =>
    have double : l.length = 2 * (2 ^ k * n) := by rw [length, pow_succ]; ring
    have even : Even l.length := ⟨2 ^ k * n, by rw [double]; ring⟩
    rw [Function.iterate_succ_apply]
    exact ih (by rw [length_pairUp f even, double, Nat.mul_div_cancel_left _ two_pos])

theorem map_iterate_pairUp {f : β → β → β} {f' : γ → γ → γ} {g : β → γ}
    (hom : ∀ a b, g (f a b) = f' (g a) (g b)) (k : Nat) (l : List β) :
    ((pairUp f)^[k] l).map g = (pairUp f')^[k] (l.map g) := by
  induction k generalizing l with
  | zero => rfl
  | succ k ih => rw [Function.iterate_succ_apply, Function.iterate_succ_apply, ih, map_pairUp hom]

/-- The pairs of a level read off a function: entry `k` combines entries `2 k` and `2 k + 1`. -/
theorem pairUp_map_range (f : β → β → β) (g : Nat → β) (n : Nat) :
    pairUp f ((List.range (2 * n)).map g) = (List.range n).map fun k => f (g (2 * k)) (g (2 * k + 1)) := by
  induction n with
  | zero => rfl
  | succ n ih =>
    have range : List.range (2 * (n + 1)) = List.range (2 * n) ++ [2 * n, 2 * n + 1] := by
      rw [show 2 * (n + 1) = 2 * n + 1 + 1 by omega, List.range_succ, List.range_succ,
        List.append_assoc, List.singleton_append]
    rw [range, List.map_append, pairUp_append f (by simp), ih, List.range_succ, List.map_append]
    rfl

end PairUp

/-! ### Levels of trees -/

section Levels

variable {α : Type}

/-- Pairing trees into nodes keeps their leaves in order. -/
theorem flatMap_leaves_pairUp (ts : List (HashTree α)) :
    (pairUp HashTree.node ts).flatMap HashTree.leaves = ts.flatMap HashTree.leaves := by
  fun_induction pairUp HashTree.node ts with
  | case1 a b rest ih => simp [ih]
  | case2 l single =>
    match l, single with
    | [], _ => rfl
    | [_], _ => rfl
    | _ :: _ :: _, single => exact absurd rfl (single _ _ _)

theorem flatMap_leaves_iterate_pairUp (k : Nat) (ts : List (HashTree α)) :
    ((pairUp HashTree.node)^[k] ts).flatMap HashTree.leaves = ts.flatMap HashTree.leaves := by
  induction k generalizing ts with
  | zero => rfl
  | succ k ih => rw [Function.iterate_succ_apply, ih, flatMap_leaves_pairUp]

/-- Pairing two levels of trees of the same shapes gives two levels of the same shapes. -/
theorem forall₂_sameShape_pairUp {ts ts' : List (HashTree α)}
    (shapes : List.Forall₂ HashTree.SameShape ts ts') :
    List.Forall₂ HashTree.SameShape (pairUp HashTree.node ts) (pairUp HashTree.node ts') := by
  fun_induction pairUp HashTree.node ts generalizing ts' with
  | case1 a b rest ih =>
    obtain ⟨a', b', rest', shapeA, shapeB, shapesRest, rfl⟩ :
        ∃ a' b' rest', HashTree.SameShape a a' ∧ HashTree.SameShape b b' ∧
          List.Forall₂ HashTree.SameShape rest rest' ∧ ts' = a' :: b' :: rest' := by
      cases shapes with
      | cons shapeA shapes =>
        cases shapes with
        | cons shapeB shapesRest => exact ⟨_, _, _, shapeA, shapeB, shapesRest, rfl⟩
    exact .cons (.node shapeA shapeB) (ih shapesRest)
  | case2 l single =>
    match l, single, shapes with
    | [], _, shapes => cases shapes; exact .nil
    | [_], _, shapes =>
      cases shapes with
      | cons shape rest => cases rest; exact .cons shape .nil
    | _ :: _ :: _, single, _ => exact absurd rfl (single _ _ _)

theorem forall₂_sameShape_iterate_pairUp (k : Nat) {ts ts' : List (HashTree α)}
    (shapes : List.Forall₂ HashTree.SameShape ts ts') :
    List.Forall₂ HashTree.SameShape ((pairUp HashTree.node)^[k] ts) ((pairUp HashTree.node)^[k] ts') := by
  induction k generalizing ts ts' with
  | zero => exact shapes
  | succ k ih =>
    rw [Function.iterate_succ_apply, Function.iterate_succ_apply]
    exact ih (forall₂_sameShape_pairUp shapes)

end Levels

end Sumokoin.ProofKit
