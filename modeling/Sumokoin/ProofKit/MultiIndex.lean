import Mathlib

/-! Containers with two indices in the way of boost's `multi_index_container`: an `ordered_unique`
index on one key of the elements and an `ordered_non_unique` index on another. The entries are
kept as the sequence of the non-unique index, equal keys in the order they were linked; that the
first key is unique and that the second is in order are fields, so no operation breaks them.

Each operation is the container's own. An insertion that meets a present unique key does nothing,
and otherwise links the element at the upper bound of its key. A replacement stays in place when
the new key still fits between its neighbours and is linked again otherwise. Erasures keep the
order of the rest. -/

namespace Sumokoin.ProofKit

/-- A container unique by `uid` whose entries are in the order of `key`. -/
structure MultiIndex {α ι κ : Type} [LinearOrder κ] (uid : α → ι) (key : α → κ) where
  entries : List α
  unique : (entries.map uid).Nodup
  sorted : entries.Pairwise fun a b => key a ≤ key b

namespace MultiIndex

variable {α ι κ : Type} [LinearOrder κ]

section Lists

variable (key : α → κ)

/-- Linking at the upper bound of the key, after every entry whose key is not greater, keeps the
order. -/
theorem pairwise_orderedInsert {l : List α} (hl : l.Pairwise fun a b => key a ≤ key b) (x : α) :
    (l.orderedInsert (fun a b => key a < key b) x).Pairwise fun a b => key a ≤ key b := by
  induction l with
  | nil => simp
  | cons b l ih =>
    have hb := List.pairwise_cons.mp hl
    rw [List.orderedInsert_cons]
    split_ifs with hlt
    · refine List.Pairwise.cons (fun y hy => ?_) hl
      rcases List.mem_cons.mp hy with rfl | hy
      · exact hlt.le
      · exact hlt.le.trans (hb.1 y hy)
    · refine List.Pairwise.cons (fun y hy => ?_) (ih hb.2)
      rcases (List.mem_orderedInsert _).mp hy with rfl | hy
      · exact not_lt.mp hlt
      · exact hb.1 y hy

/-- An element older than every entry is linked first. -/
theorem orderedInsert_of_lt {l : List α} {x : α} (older : ∀ b ∈ l, key x < key b) :
    l.orderedInsert (fun a b => key a < key b) x = x :: l := by
  cases l with
  | nil => rfl
  | cons b l => exact List.orderedInsert_cons_of_le _ l (older b List.mem_cons_self)

theorem le_of_getLast? {l : List α} (hl : l.Pairwise fun a b => key a ≤ key b) {z x : α}
    (last : l.getLast? = some z) (hx : x ∈ l) : key x ≤ key z := by
  obtain ⟨front, rfl⟩ := List.getLast?_eq_some_iff.mp last
  rcases List.mem_append.mp hx with hx | hx
  · exact (List.pairwise_append.mp hl).2.2 x hx z (List.mem_singleton_self z)
  · rw [List.mem_singleton.mp hx]

/-- An entry whose key is not below its predecessor's nor above its successor's keeps the order
where it stands. -/
theorem pairwise_in_place {before after : List α} {a : α}
    (hbefore : before.Pairwise fun a b => key a ≤ key b)
    (hafter : after.Pairwise fun a b => key a ≤ key b)
    (across : ∀ x ∈ before, ∀ y ∈ after, key x ≤ key y)
    (prev : ∀ z, before.getLast? = some z → key z ≤ key a)
    (next : ∀ c, after.head? = some c → key a ≤ key c) :
    (before ++ a :: after).Pairwise fun a b => key a ≤ key b := by
  have fromA : ∀ y ∈ after, key a ≤ key y := by
    intro y hy
    cases after with
    | nil => simp at hy
    | cons c cs =>
      rcases List.mem_cons.mp hy with rfl | hy
      · exact next y rfl
      · exact (next c rfl).trans (List.rel_of_pairwise_cons hafter hy)
  have toA : ∀ x ∈ before, key x ≤ key a := by
    intro x hx
    cases hz : before.getLast? with
    | none => simp [List.getLast?_eq_none_iff.mp hz] at hx
    | some z => exact (le_of_getLast? key hbefore hz hx).trans (prev z hz)
  refine List.pairwise_append.mpr ⟨hbefore, List.Pairwise.cons fromA hafter, fun x hx y hy => ?_⟩
  rcases List.mem_cons.mp hy with rfl | hy
  · exact toA x hx
  · exact across x hx y hy

/-- `replace` of boost's ordered_non_unique index on the first entry `p` picks: the entry becomes
`a` where it is when `a`'s key is not below its predecessor's nor above its successor's
(`in_place`), and `a` is linked again at the upper bound of its key otherwise. -/
def replaceList (p : α → Bool) (a : α) (l : List α) : List α :=
  let before := l.takeWhile fun b => !p b
  let after := (l.dropWhile fun b => !p b).tail
  if (before.getLast?.all fun b => !decide (key a < key b)) &&
      (after.head?.all fun c => !decide (key c < key a)) then before ++ a :: after
  else (before ++ after).orderedInsert (fun a b => key a < key b) a

omit [LinearOrder κ] in
theorem takeWhile_append_tail_dropWhile (p : α → Bool) (l : List α) :
    (l.takeWhile fun b => !p b) ++ (l.dropWhile fun b => !p b).tail = l.eraseP p := by
  induction l with
  | nil => rfl
  | cons b l ih =>
    by_cases hb : p b
    · simp [hb]
    · simp [hb, ih]

/-- A replacement erases the entry and adds `a`, wherever it links it. -/
theorem perm_replaceList (p : α → Bool) (a : α) (l : List α) :
    (replaceList key p a l).Perm (a :: l.eraseP p) := by
  rw [replaceList, ← takeWhile_append_tail_dropWhile p l]
  split_ifs
  · exact List.perm_middle
  · exact List.perm_orderedInsert _ _ _

theorem pairwise_replaceList {l : List α} (hl : l.Pairwise fun a b => key a ≤ key b)
    (p : α → Bool) (a : α) : (replaceList key p a l).Pairwise fun a b => key a ≤ key b := by
  have split : (l.takeWhile fun b => !p b) ++ (l.dropWhile fun b => !p b) = l :=
    List.takeWhile_append_dropWhile
  rw [← split] at hl
  rw [replaceList]
  generalize (l.takeWhile fun b => !p b) = before at hl ⊢
  generalize (l.dropWhile fun b => !p b) = rest at hl ⊢
  obtain ⟨hbefore, hrest, across⟩ := List.pairwise_append.mp hl
  have hafter : rest.tail.Pairwise fun a b => key a ≤ key b := hrest.sublist (List.tail_sublist _)
  have across' : ∀ x ∈ before, ∀ y ∈ rest.tail, key x ≤ key y :=
    fun x hx y hy => across x hx y (List.mem_of_mem_tail hy)
  split_ifs with fits
  · -- in place: the checks against the two neighbours
    rw [Bool.and_eq_true, Option.all_eq_true, Option.all_eq_true] at fits
    refine pairwise_in_place key hbefore hafter across' (fun z hz => ?_) (fun c hc => ?_)
    · simpa using fits.1 z hz
    · simpa using fits.2 c hc
  · exact pairwise_orderedInsert key (List.pairwise_append.mpr ⟨hbefore, hafter, across'⟩) a

/-- The first entry while there are more than `limit`, erased until there are not: the while
loop of a trim to `limit` entries. -/
def trimFront (limit : Nat) : List α → List α
  | [] => []
  | a :: l => if limit < l.length + 1 then trimFront limit l else a :: l

omit [LinearOrder κ] in
theorem trimFront_sublist (limit : Nat) (l : List α) : (trimFront limit l).Sublist l := by
  induction l with
  | nil => exact List.Sublist.slnil
  | cons a l ih =>
    rw [trimFront]
    split_ifs
    · exact ih.cons a
    · exact List.Sublist.refl _

omit [LinearOrder κ] in
theorem length_trimFront_le (limit : Nat) (l : List α) : (trimFront limit l).length ≤ limit := by
  induction l with
  | nil => simp [trimFront]
  | cons a l ih =>
    rw [trimFront]
    split_ifs with full
    · exact ih
    · simpa using not_lt.mp full

omit [LinearOrder κ] in
theorem trimFront_of_length_le {limit : Nat} {l : List α} (fits : l.length ≤ limit) :
    trimFront limit l = l := by
  cases l with
  | nil => rfl
  | cons b l => rw [trimFront, if_neg (by simpa using fits)]

omit [LinearOrder κ] in
/-- At one entry over the limit the trim erases exactly the first. -/
theorem trimFront_cons_of_length (a : α) {l : List α} {limit : Nat} (full : l.length = limit) :
    trimFront limit (a :: l) = l := by
  rw [trimFront, if_pos (by omega), trimFront_of_length_le full.le]

end Lists

variable {uid : α → ι} {key : α → κ}

theorem not_mem_map_eraseP [DecidableEq ι] {l : List α} (hl : (l.map uid).Nodup) (a : α) :
    uid a ∉ (l.eraseP fun b => uid b == uid a).map uid := by
  induction l with
  | nil => simp
  | cons b l ih =>
    rw [List.map_cons, List.nodup_cons] at hl
    have hb := hl
    by_cases same : uid b = uid a
    · rw [List.eraseP_cons_of_pos (by simpa using same)]
      exact same ▸ hb.1
    · rw [List.eraseP_cons_of_neg (by simpa using same)]
      simpa [same, Ne.symm same] using ih hb.2

theorem mem_eraseP_iff [DecidableEq ι] {l : List α} (hl : (l.map uid).Nodup) (i : ι) (x : α) :
    x ∈ l.eraseP (fun b => uid b == i) ↔ x ∈ l ∧ uid x ≠ i := by
  induction l with
  | nil => simp
  | cons b l ih =>
    rw [List.map_cons, List.nodup_cons] at hl
    have hb := hl
    by_cases same : uid b = i
    · rw [List.eraseP_cons_of_pos (by simpa using same)]
      constructor
      · intro hx
        refine ⟨List.mem_cons_of_mem b hx, fun hxi => hb.1 ?_⟩
        exact same ▸ hxi ▸ List.mem_map_of_mem hx
      · rintro ⟨hx, hxi⟩
        rcases List.mem_cons.mp hx with rfl | hx
        · exact absurd same hxi
        · exact hx
    · rw [List.eraseP_cons_of_neg (by simpa using same), List.mem_cons, List.mem_cons, ih hb.2]
      constructor
      · rintro (rfl | ⟨hx, hxi⟩)
        · exact ⟨.inl rfl, same⟩
        · exact ⟨.inr hx, hxi⟩
      · rintro ⟨rfl | hx, hxi⟩
        · exact .inl rfl
        · exact .inr ⟨hx, hxi⟩

/-- The container with no entries. -/
def empty : MultiIndex uid key := ⟨[], List.nodup_nil, List.Pairwise.nil⟩

/-- A container of some of the entries, in their order. -/
def ofSublist (m : MultiIndex uid key) (l : List α) (sub : l.Sublist m.entries) :
    MultiIndex uid key :=
  ⟨l, (sub.map uid).nodup m.unique, m.sorted.sublist sub⟩

/-- The entries `f` picks, erased. -/
def eraseIf (m : MultiIndex uid key) (f : α → Bool) : MultiIndex uid key :=
  m.ofSublist (m.entries.filter fun a => !f a) List.filter_sublist

/-- The oldest entries erased until at most `limit` are left. -/
def trim (m : MultiIndex uid key) (limit : Nat) : MultiIndex uid key :=
  m.ofSublist (trimFront limit m.entries) (trimFront_sublist limit m.entries)

theorem length_trim_le (m : MultiIndex uid key) (limit : Nat) :
    (m.trim limit).entries.length ≤ limit :=
  length_trimFront_le limit m.entries

theorem sublist_trim (m : MultiIndex uid key) (limit : Nat) :
    (m.trim limit).entries.Sublist m.entries :=
  trimFront_sublist limit m.entries

theorem sublist_eraseIf (m : MultiIndex uid key) (f : α → Bool) :
    (m.eraseIf f).entries.Sublist m.entries :=
  List.filter_sublist

variable [DecidableEq ι]

/-- `find` on the unique index. -/
def find (m : MultiIndex uid key) (i : ι) : Option α := m.entries.find? fun a => uid a == i

/-- `insert`: nothing when the unique key is present, else linked at the upper bound of its key. -/
def insert (m : MultiIndex uid key) (a : α) : MultiIndex uid key :=
  if present : m.entries.any (fun b => uid b == uid a) then m
  else
    ⟨m.entries.orderedInsert (fun a b => key a < key b) a,
      (((List.perm_orderedInsert _ a m.entries).map uid).nodup_iff).mpr
        (List.nodup_cons.mpr ⟨by simpa using present, m.unique⟩),
      pairwise_orderedInsert key m.sorted a⟩

/-- `replace` through the unique index: the entry of `a`'s unique key becomes `a`. -/
def replace (m : MultiIndex uid key) (a : α) : MultiIndex uid key :=
  ⟨replaceList key (fun b => uid b == uid a) a m.entries,
    (((perm_replaceList key _ a m.entries).map uid).nodup_iff).mpr
      (List.nodup_cons.mpr ⟨not_mem_map_eraseP m.unique a,
        (List.eraseP_sublist.map uid).nodup m.unique⟩),
    pairwise_replaceList key m.sorted _ a⟩

/-- `erase` through the unique index. -/
def erase (m : MultiIndex uid key) (i : ι) : MultiIndex uid key :=
  m.ofSublist (m.entries.eraseP fun a => uid a == i) List.eraseP_sublist

theorem find_eq_none_iff (m : MultiIndex uid key) (i : ι) :
    m.find i = none ↔ i ∉ m.entries.map uid := by
  simp [find, List.find?_eq_none]

theorem find_eq_some (m : MultiIndex uid key) {i : ι} {b : α} (found : m.find i = some b) :
    b ∈ m.entries ∧ uid b = i := by
  have := List.find?_some found
  exact ⟨List.mem_of_find?_eq_some found, by simpa using this⟩

theorem entries_insert_of_not_mem (m : MultiIndex uid key) {a : α}
    (absent : uid a ∉ m.entries.map uid) :
    (m.insert a).entries = m.entries.orderedInsert (fun a b => key a < key b) a := by
  have : ¬ m.entries.any (fun b => uid b == uid a) := by simpa using absent
  simp only [insert, dif_neg this]

theorem mem_insert_of_not_mem (m : MultiIndex uid key) {a : α}
    (absent : uid a ∉ m.entries.map uid) (x : α) :
    x ∈ (m.insert a).entries ↔ x = a ∨ x ∈ m.entries := by
  rw [entries_insert_of_not_mem m absent, List.mem_orderedInsert]

theorem length_insert_of_not_mem (m : MultiIndex uid key) {a : α}
    (absent : uid a ∉ m.entries.map uid) :
    (m.insert a).entries.length = m.entries.length + 1 := by
  rw [entries_insert_of_not_mem m absent, List.orderedInsert_length]

theorem mem_replace (m : MultiIndex uid key) (a x : α) :
    x ∈ (m.replace a).entries ↔ x = a ∨ (x ∈ m.entries ∧ uid x ≠ uid a) := by
  change x ∈ replaceList key _ a m.entries ↔ _
  rw [(perm_replaceList key _ a m.entries).mem_iff, List.mem_cons, mem_eraseP_iff m.unique]

/-- Replacing a present entry keeps the size. -/
theorem length_replace (m : MultiIndex uid key) {a : α} (present : uid a ∈ m.entries.map uid) :
    (m.replace a).entries.length = m.entries.length := by
  obtain ⟨b, hb, same⟩ := List.mem_map.mp present
  have length := (perm_replaceList key (fun b => uid b == uid a) a m.entries).length_eq
  change (replaceList key _ a m.entries).length = _
  rw [List.length_cons, List.length_eraseP_of_mem hb (by simpa using same)] at length
  have : 0 < m.entries.length := List.length_pos_of_mem hb
  omega

theorem mem_erase (m : MultiIndex uid key) (i : ι) (x : α) :
    x ∈ (m.erase i).entries ↔ x ∈ m.entries ∧ uid x ≠ i :=
  mem_eraseP_iff m.unique i x

theorem sublist_erase (m : MultiIndex uid key) (i : ι) : (m.erase i).entries.Sublist m.entries :=
  List.eraseP_sublist

end MultiIndex

end Sumokoin.ProofKit
