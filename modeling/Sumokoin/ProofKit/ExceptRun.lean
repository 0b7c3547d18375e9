import Mathlib

/-! Computations in `Except` that succeeded, taken apart: a bind succeeded when both its parts did,
a `mapM` when the step of every element did, with its result in the element's place, and a
`foldlM` keeps what each of its steps keeps. -/

namespace Sumokoin.ProofKit

namespace ExceptRun

variable {ε α β : Type}

theorem bind_eq_ok {x : Except ε α} {f : α → Except ε β} {b : β} :
    (x >>= f) = .ok b ↔ ∃ a, x = .ok a ∧ f a = .ok b := by
  cases x <;> simp [bind, Except.bind]

theorem map_eq_ok {x : Except ε α} {f : α → β} {b : β} :
    (f <$> x) = .ok b ↔ ∃ a, x = .ok a ∧ f a = b := by
  cases x <;> simp [Functor.map, Except.map]

theorem pure_eq_ok {a b : α} : (pure a : Except ε α) = .ok b ↔ a = b := by
  simp [pure, Except.pure]

/-- A `mapM` that succeeded: the step of each element gave the result in its place. -/
theorem mapM_eq_ok {f : α → Except ε β} {l : List α} {r : List β} (h : l.mapM f = .ok r) :
    List.Forall₂ (fun a b => f a = .ok b) l r := by
  induction l generalizing r with
  | nil =>
    obtain rfl := pure_eq_ok.mp h
    exact .nil
  | cons a l ih =>
    rw [List.mapM_cons] at h
    obtain ⟨b, first, h⟩ := bind_eq_ok.mp h
    obtain ⟨bs, rest, h⟩ := bind_eq_ok.mp h
    obtain rfl := pure_eq_ok.mp h
    exact .cons first (ih rest)

/-- A property that the initial value has and every step that succeeds keeps holds of the result
of a `foldlM` that succeeded. -/
theorem foldlM_invariant (P : β → Prop) {f : β → α → Except ε β}
    (step : ∀ b a b', P b → f b a = .ok b' → P b') {l : List α} {init r : β} (holds : P init)
    (h : l.foldlM f init = .ok r) : P r := by
  induction l generalizing init with
  | nil =>
    obtain rfl := pure_eq_ok.mp h
    exact holds
  | cons a l ih =>
    rw [List.foldlM_cons] at h
    obtain ⟨b, first, rest⟩ := bind_eq_ok.mp h
    exact ih (step init a b holds first) rest

end ExceptRun

namespace Forall₂

variable {α β : Type} {R : α → β → Prop} {l : List α} {r : List β}

theorem exists_of_mem_left (h : List.Forall₂ R l r) {a : α} (mem : a ∈ l) : ∃ b ∈ r, R a b := by
  induction h with
  | nil => simp at mem
  | cons head _ ih =>
    rcases List.mem_cons.mp mem with rfl | later
    · exact ⟨_, List.mem_cons_self .., head⟩
    · obtain ⟨b, inRest, related⟩ := ih later
      exact ⟨b, List.mem_cons_of_mem _ inRest, related⟩

theorem exists_of_mem_right (h : List.Forall₂ R l r) {b : β} (mem : b ∈ r) : ∃ a ∈ l, R a b := by
  induction h with
  | nil => simp at mem
  | cons head _ ih =>
    rcases List.mem_cons.mp mem with rfl | later
    · exact ⟨_, List.mem_cons_self .., head⟩
    · obtain ⟨a, inRest, related⟩ := ih later
      exact ⟨a, List.mem_cons_of_mem _ inRest, related⟩

end Forall₂

end Sumokoin.ProofKit
