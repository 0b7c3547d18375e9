import Mathlib

/-! Finite maps kept as their entries in strictly increasing key order: the shape of a `std::map`,
which is walked in key order. Insertion replaces the value of a present key, so lookup after
insertion needs no hypothesis; the order invariant is a field of the map. -/

namespace Sumokoin.ProofKit

/-- A finite map as its entries, with keys strictly increasing. -/
structure SortedMap (κ ν : Type) [LinearOrder κ] where
  entries : List (κ × ν)
  sorted : entries.Pairwise fun a b => a.1 < b.1

namespace SortedMap

variable {κ ν : Type} [LinearOrder κ]

/-- Insertion into an ordered entry list, replacing the entry of the same key. -/
def insertEntry (k : κ) (v : ν) : List (κ × ν) → List (κ × ν)
  | [] => [(k, v)]
  | (k', v') :: rest =>
    if k < k' then (k, v) :: (k', v') :: rest
    else if k = k' then (k, v) :: rest
    else (k', v') :: insertEntry k v rest

theorem mem_insertEntry {k : κ} {v : ν} {p : κ × ν} {l : List (κ × ν)}
    (hp : p ∈ insertEntry k v l) : p = (k, v) ∨ p ∈ l := by
  induction l with
  | nil => simpa [insertEntry] using hp
  | cons e rest ih =>
    obtain ⟨k', v'⟩ := e
    rw [insertEntry] at hp
    split_ifs at hp <;> grind

theorem pairwise_insertEntry (k : κ) (v : ν) {l : List (κ × ν)}
    (hl : l.Pairwise fun a b => a.1 < b.1) :
    (insertEntry k v l).Pairwise fun a b => a.1 < b.1 := by
  induction l with
  | nil => simp [insertEntry]
  | cons e rest ih =>
    obtain ⟨k', v'⟩ := e
    have hrest := List.pairwise_cons.mp hl
    rw [insertEntry]
    split_ifs with hlt heq
    · refine List.Pairwise.cons (fun p hp => ?_) hl
      rcases List.mem_cons.mp hp with rfl | hp
      · exact hlt
      · exact hlt.trans (hrest.1 p hp)
    · subst heq
      exact List.Pairwise.cons (fun p hp => hrest.1 p hp) hrest.2
    · refine List.Pairwise.cons (fun p hp => ?_) (ih hrest.2)
      rcases mem_insertEntry hp with rfl | hp
      · exact lt_of_le_of_ne (not_lt.mp hlt) (Ne.symm heq)
      · exact hrest.1 p hp

/-- The map with no entries. -/
def empty : SortedMap κ ν := ⟨[], .nil⟩

/-- `m[k] = v`. -/
def insert (m : SortedMap κ ν) (k : κ) (v : ν) : SortedMap κ ν :=
  ⟨insertEntry k v m.entries, pairwise_insertEntry k v m.sorted⟩

/-- `find`: the value of a key. -/
def find? (m : SortedMap κ ν) (k : κ) : Option ν := m.entries.lookup k

/-- The largest key, `(--m.end())->first`. -/
def lastKey? (m : SortedMap κ ν) : Option κ := m.entries.getLast?.map Prod.fst

/-- The largest key at most `k`: `upper_bound(k)` stepped back once, and `none` at `begin()`. -/
def lastKeyLE? (m : SortedMap κ ν) (k : κ) : Option κ :=
  (m.entries.filter fun e => e.1 ≤ k).getLast?.map Prod.fst

theorem lookup_insertEntry_self (k : κ) (v : ν) (l : List (κ × ν)) :
    (insertEntry k v l).lookup k = some v := by
  induction l with
  | nil => simp [insertEntry]
  | cons e rest ih =>
    obtain ⟨k', v'⟩ := e
    rw [insertEntry]
    split_ifs with hlt heq
    · simp
    · simp
    · simp [List.lookup_cons, beq_eq_false_iff_ne.mpr heq, ih]

theorem lookup_insertEntry_of_ne {k k' : κ} (hne : k' ≠ k) (v : ν) (l : List (κ × ν)) :
    (insertEntry k v l).lookup k' = l.lookup k' := by
  induction l with
  | nil => simp [insertEntry, hne]
  | cons e rest ih =>
    obtain ⟨k'', v''⟩ := e
    rw [insertEntry]
    have hbeq : (k' == k) = false := beq_eq_false_iff_ne.mpr hne
    split_ifs with hlt heq
    · simp [List.lookup_cons, hbeq]
    · subst heq
      simp [List.lookup_cons, hbeq]
    · by_cases hk : k' = k''
      · simp [hk]
      · simp [List.lookup_cons, beq_eq_false_iff_ne.mpr hk, ih]

@[simp] theorem find?_insert_self (m : SortedMap κ ν) (k : κ) (v : ν) :
    (m.insert k v).find? k = some v :=
  lookup_insertEntry_self k v m.entries

theorem find?_insert_of_ne (m : SortedMap κ ν) {k k' : κ} (hne : k' ≠ k) (v : ν) :
    (m.insert k v).find? k' = m.find? k' :=
  lookup_insertEntry_of_ne hne v m.entries

/-- In a map, an entry is the value of its key: keys do not repeat. -/
theorem find?_of_mem (m : SortedMap κ ν) {k : κ} {v : ν} (h : (k, v) ∈ m.entries) :
    m.find? k = some v := by
  obtain ⟨entries, sorted⟩ := m
  unfold find?
  induction entries with
  | nil => simp at h
  | cons e rest ih =>
    obtain ⟨k', v'⟩ := e
    have hrest := List.pairwise_cons.mp sorted
    rcases List.mem_cons.mp h with heq | hmem
    · simp only [Prod.mk.injEq] at heq
      obtain ⟨rfl, rfl⟩ := heq
      simp
    · -- a later entry has a larger key than the head
      have hlt : k' < k := hrest.1 (k, v) hmem
      simp [List.lookup_cons, beq_eq_false_iff_ne.mpr (ne_of_lt hlt).symm, ih hrest.2 hmem]

/-! ### Erasure, size and appending -/

/-- `erase(k)`: the map without the entry of `k`. -/
def erase (m : SortedMap κ ν) (k : κ) : SortedMap κ ν :=
  ⟨m.entries.filter fun e => e.1 != k, m.sorted.filter _⟩

/-- The number of entries. -/
def size (m : SortedMap κ ν) : Nat := m.entries.length

/-- A key above every key of the map, as an append at the end of a B-tree requires. -/
def appendable (m : SortedMap κ ν) (k : κ) : Bool :=
  match m.lastKey? with
  | none => true
  | some k' => decide (k' < k)

theorem lookup_eq_none_of_forall_ne {k : κ} {l : List (κ × ν)} (h : ∀ e ∈ l, e.1 ≠ k) :
    l.lookup k = none := by
  induction l with
  | nil => rfl
  | cons e rest ih =>
    obtain ⟨k', v'⟩ := e
    have hne : k ≠ k' := fun heq => h (k', v') List.mem_cons_self heq.symm
    simp [List.lookup_cons, beq_eq_false_iff_ne.mpr hne,
      ih fun e he => h e (List.mem_cons_of_mem _ he)]

theorem lookup_filter_ne (k k' : κ) (l : List (κ × ν)) :
    (l.filter fun e => e.1 != k).lookup k' = if k' = k then none else l.lookup k' := by
  induction l with
  | nil => simp
  | cons e rest ih =>
    obtain ⟨k'', v''⟩ := e
    by_cases h1 : k'' = k
    · subst h1
      rw [List.filter_cons_of_neg (by simp), ih]
      by_cases h2 : k' = k''
      · simp [h2]
      · simp [h2, List.lookup_cons, beq_eq_false_iff_ne.mpr h2]
    · by_cases h2 : k' = k''
      · subst h2
        simp [h1]
      · simp [List.lookup_cons, h1, beq_eq_false_iff_ne.mpr h2, ih]

@[simp] theorem find?_erase_self (m : SortedMap κ ν) (k : κ) : (m.erase k).find? k = none := by
  simp [find?, erase, lookup_filter_ne]

theorem find?_erase_of_ne (m : SortedMap κ ν) {k k' : κ} (hne : k' ≠ k) :
    (m.erase k).find? k' = m.find? k' := by
  simp [find?, erase, lookup_filter_ne, hne]

/-- Sorted entry lists with the same lookups are equal. -/
theorem entries_eq_of_lookup_eq : ∀ {l l' : List (κ × ν)}, l.Pairwise (fun a b => a.1 < b.1) →
    l'.Pairwise (fun a b => a.1 < b.1) → (∀ k, l.lookup k = l'.lookup k) → l = l'
  | [], [], _, _, _ => rfl
  | [], (k, v) :: _, _, _, h => by simpa [List.lookup_cons] using h k
  | (k, v) :: _, [], _, _, h => by simpa [List.lookup_cons] using h k
  | (k, v) :: rest, (k', v') :: rest', hl, hl', h => by
    have hr := List.pairwise_cons.mp hl
    have hr' := List.pairwise_cons.mp hl'
    -- a smaller head key would be missing from the other list
    have hk : k = k' := by
      rcases lt_trichotomy k k' with hlt | heq | hgt
      · have hnone : ((k', v') :: rest').lookup k = none := lookup_eq_none_of_forall_ne
          fun e he => by
            rcases List.mem_cons.mp he with rfl | he
            · exact (ne_of_lt hlt).symm
            · exact (ne_of_lt (hlt.trans (hr'.1 e he))).symm
        simpa [List.lookup_cons, hnone] using h k
      · exact heq
      · have hnone : ((k, v) :: rest).lookup k' = none := lookup_eq_none_of_forall_ne
          fun e he => by
            rcases List.mem_cons.mp he with rfl | he
            · exact (ne_of_lt hgt).symm
            · exact (ne_of_lt (hgt.trans (hr.1 e he))).symm
        simpa [List.lookup_cons, hnone] using (h k').symm
    subst hk
    have hv : v = v' := by simpa [List.lookup_cons] using h k
    subst hv
    -- the tails agree below and above the head key
    have htail : ∀ j, rest.lookup j = rest'.lookup j := by
      intro j
      by_cases hj : j = k
      · subst hj
        rw [lookup_eq_none_of_forall_ne fun e he => (ne_of_lt (hr.1 e he)).symm,
          lookup_eq_none_of_forall_ne fun e he => (ne_of_lt (hr'.1 e he)).symm]
      · simpa [List.lookup_cons, beq_eq_false_iff_ne.mpr hj] using h j
    rw [entries_eq_of_lookup_eq hr.2 hr'.2 htail]

/-- Maps are determined by their lookups. -/
theorem ext_find? {m m' : SortedMap κ ν} (h : ∀ k, m.find? k = m'.find? k) : m = m' := by
  obtain ⟨l, hl⟩ := m
  obtain ⟨l', hl'⟩ := m'
  obtain rfl := entries_eq_of_lookup_eq hl hl' h
  rfl

theorem erase_of_find?_eq_none {m : SortedMap κ ν} {k : κ} (h : m.find? k = none) :
    m.erase k = m := by
  refine ext_find? fun k' => ?_
  by_cases hk : k' = k
  · rw [hk, find?_erase_self, h]
  · exact find?_erase_of_ne m hk

/-- Erasing a key that an insertion brought in undoes the insertion. -/
theorem erase_insert_of_find?_eq_none {m : SortedMap κ ν} {k : κ} (v : ν) (h : m.find? k = none) :
    (m.insert k v).erase k = m := by
  refine ext_find? fun k' => ?_
  by_cases hk : k' = k
  · rw [hk, find?_erase_self, h]
  · rw [find?_erase_of_ne _ hk, find?_insert_of_ne _ hk]

theorem length_insertEntry_of_lookup_eq_none {k : κ} (v : ν) {l : List (κ × ν)}
    (h : l.lookup k = none) : (insertEntry k v l).length = l.length + 1 := by
  induction l with
  | nil => rfl
  | cons e rest ih =>
    obtain ⟨k', v'⟩ := e
    have hne : k ≠ k' := fun heq => by simp [heq] at h
    have hrest : rest.lookup k = none := by
      simpa [List.lookup_cons, beq_eq_false_iff_ne.mpr hne] using h
    -- the key is new, so the entry goes in front of a larger key or further down
    rw [insertEntry]
    split_ifs with hlt
    · rfl
    · simp [ih hrest]

theorem size_insert_of_find?_eq_none {m : SortedMap κ ν} {k : κ} (v : ν) (h : m.find? k = none) :
    (m.insert k v).size = m.size + 1 :=
  length_insertEntry_of_lookup_eq_none v h

/-- Every key of a sorted entry list is at most its last key. -/
theorem le_of_mem_of_getLast? {l : List (κ × ν)} (hl : l.Pairwise fun a b => a.1 < b.1)
    {e last : κ × ν} (he : e ∈ l) (hlast : l.getLast? = some last) : e.1 ≤ last.1 := by
  obtain ⟨l', rfl⟩ := List.getLast?_eq_some_iff.mp hlast
  rcases List.mem_append.mp he with he | he
  · exact le_of_lt ((List.pairwise_append.mp hl).2.2 e he last List.mem_cons_self)
  · rw [List.mem_singleton.mp he]

theorem find?_eq_none_of_appendable {m : SortedMap κ ν} {k : κ} (h : m.appendable k = true) :
    m.find? k = none := by
  unfold appendable lastKey? at h
  refine lookup_eq_none_of_forall_ne fun e he => ?_
  cases hlast : m.entries.getLast? with
  | none => simp [List.getLast?_eq_none_iff.mp hlast] at he
  | some last =>
    simp only [hlast, Option.map_some] at h
    exact ne_of_lt (lt_of_le_of_lt (le_of_mem_of_getLast? m.sorted he hlast) (of_decide_eq_true h))

/-! ### Sets keyed by one field -/

/-- `insert` of a `std::set` ordered by the key: nothing when an element of the key is there. -/
def insertNew (m : SortedMap κ ν) (k : κ) (v : ν) : SortedMap κ ν :=
  if (m.find? k).isSome then m else m.insert k v

theorem insertNew_of_find?_eq_some {m : SortedMap κ ν} {k : κ} {v v' : ν} (h : m.find? k = some v') :
    m.insertNew k v = m := by
  simp [insertNew, h]

theorem insertNew_of_find?_eq_none {m : SortedMap κ ν} {k : κ} (v : ν) (h : m.find? k = none) :
    m.insertNew k v = m.insert k v := by
  simp [insertNew, h]

theorem find?_insert (m : SortedMap κ ν) (k k' : κ) (v : ν) :
    (m.insert k v).find? k' = if k' = k then some v else m.find? k' := by
  split_ifs with same
  · rw [same, find?_insert_self]
  · exact find?_insert_of_ne m same v

theorem find?_erase (m : SortedMap κ ν) (k k' : κ) :
    (m.erase k).find? k' = if k' = k then none else m.find? k' := by
  split_ifs with same
  · rw [same, find?_erase_self]
  · exact find?_erase_of_ne m same

end SortedMap

end Sumokoin.ProofKit
