import Mathlib
import Sumokoin.Basic.HardFork

/-! What the operations of `HardFork` do to its vote window and fork index: `last_versions` stays
the histogram of `versions` (`Counted`), the schedule is left alone (`SameSchedule`), a run of
accepted `add`s is `countVotes`, and the loops that move `current_fork_index` end where the sorted
schedule says. -/

namespace Sumokoin.Basic

open Sumokoin.Chain

/-- A histogram `c` of `l`, set at `v` to the count of `v` in `l'`, is a histogram of `l'` when `l'`
counts every other value as `l` does. -/
theorem update_count {c : Nat → Nat} {l l' : List Nat} {v k : Nat} (hc : ∀ u, c u = l.count u)
    (hk : k = l'.count v) (hl : ∀ u, u ≠ v → l'.count u = l.count u) :
    ∀ u, Function.update c v k u = l'.count u := by
  intro u
  by_cases h : u = v
  · subst h
    simpa using hk
  · rw [Function.update_of_ne h, hc, hl u h]

theorem count_append_singleton_of_ne {l : List Nat} {u v : Nat} (h : u ≠ v) :
    (l ++ [v]).count u = l.count u := by
  simp [List.count_append, Ne.symm h]

/-- `versions.pop_back()` takes one vote for the last value and none for the others; on the empty
window, where the source reads no vote, it changes nothing. -/
theorem count_dropLast (l : List Nat) (u : Nat) :
    l.dropLast.count u = l.count u - if u = l.getLastD 0 then 1 else 0 := by
  rcases List.eq_nil_or_concat l with rfl | ⟨l', b, rfl⟩
  · simp
  · by_cases h : u = b <;> simp [List.count_append, h, Ne.symm]

theorem getD_mem_of_lt {heights : List Fork} {i : Nat} (hi : i < heights.length) :
    heights.getD i default ∈ heights := by
  rw [List.getD_eq_getElem _ _ hi]
  exact List.getElem_mem hi

/-- Where the sorted schedule's forks stand: a later fork has a later version and height. -/
theorem before_getD {heights : List Fork} (hs : heights.Pairwise Fork.Before) {i j : Nat}
    (hij : i < j) (hj : j < heights.length) :
    (heights.getD i default).Before (heights.getD j default) := by
  rw [List.getD_eq_getElem _ _ (by omega), List.getD_eq_getElem _ _ hj]
  exact List.pairwise_iff_getElem.mp hs i j (by omega) hj hij

/-- Versions are distinct and increasing, so fork `i` has version at least `i`. -/
theorem index_le_version {heights : List Fork} (hs : heights.Pairwise Fork.Before) :
    ∀ i < heights.length, i ≤ (heights.getD i default).version
  | 0, _ => Nat.zero_le _
  | i + 1, hi => by
    have hlt := (before_getD hs (show i < i + 1 by omega) hi).1
    have := index_le_version hs i (by omega)
    omega

namespace HardFork

variable (hf : HardFork)

/-- A schedule has at most `256` forks, so a fork index fits the `uint8_t` of a vote. -/
theorem length_heights_le : hf.heights.length ≤ 256 := by
  rcases Nat.eq_zero_or_pos hf.heights.length with h | h
  · omega
  · have hle := index_le_version hf.heights_before (hf.heights.length - 1) (by omega)
    have hlt := hf.version_lt _ (getD_mem_of_lt (show hf.heights.length - 1 < _ by omega))
    omega

/-! ### The window and its histogram -/

/-- `last_versions[v]` is the number of votes for `v` in `versions`. -/
def Counted : Prop := ∀ v, hf.lastVersions v = hf.versions.count v

/-- `hf'` has the window size, original version and schedule of `hf`: only `init`'s placeholder
changes them. -/
structure SameSchedule (hf hf' : HardFork) : Prop where
  windowSize : hf'.windowSize = hf.windowSize
  originalVersion : hf'.originalVersion = hf.originalVersion
  heights : hf'.heights = hf.heights

theorem SameSchedule.refl : SameSchedule hf hf := ⟨rfl, rfl, rfl⟩

theorem SameSchedule.trans {hf₁ hf₂ hf₃ : HardFork} (h₁ : SameSchedule hf₁ hf₂)
    (h₂ : SameSchedule hf₂ hf₃) : SameSchedule hf₁ hf₃ :=
  ⟨h₂.windowSize.trans h₁.windowSize, h₂.originalVersion.trans h₁.originalVersion,
    h₂.heights.trans h₁.heights⟩

theorem SameSchedule.symm {hf hf' : HardFork} (h : SameSchedule hf hf') : SameSchedule hf' hf :=
  ⟨h.windowSize.symm, h.originalVersion.symm, h.heights.symm⟩

/-- `get_effective_version` reads the schedule only. -/
theorem SameSchedule.getEffectiveVersion {hf hf' : HardFork} (h : SameSchedule hf hf') :
    hf'.getEffectiveVersion = hf.getEffectiveVersion := by
  funext v
  simp only [HardFork.getEffectiveVersion, h.heights]

/-- Two states with the same schedule, window and fork index are equal: the histograms of a window
agree. -/
theorem eq_of_counted {hf hf' : HardFork} (hs : SameSchedule hf hf') (hc : hf.Counted)
    (hc' : hf'.Counted) (hv : hf'.versions = hf.versions)
    (hi : hf'.currentForkIndex = hf.currentForkIndex) : hf' = hf := by
  ext1
  · exact hs.windowSize
  · exact hs.originalVersion
  · exact hs.heights
  · exact hv
  · funext v
    rw [hc', hc, hv]
  · exact hi

theorem counted_clearWindow : hf.clearWindow.Counted := fun _ => rfl

variable {hf}

theorem Counted.pushVote (hc : hf.Counted) (v : Nat) : (hf.pushVote v).Counted := by
  show ∀ u, Function.update hf.lastVersions v (hf.lastVersions v + 1) u = (hf.versions ++ [v]).count u
  exact update_count hc (by rw [hc, List.count_append, List.count_singleton_self])
    fun _ hu => count_append_singleton_of_ne hu

theorem trimWindow_fst (w : Nat) (vs : List Nat) (c : Nat → Nat) :
    (trimWindow w vs c).1 = vs.drop (vs.length + 1 - w) := by
  induction vs generalizing c with
  | nil => simp [trimWindow]
  | cons v vs ih =>
    unfold trimWindow
    split
    -- the oldest vote leaves: one more dropped from the front
    · next hlen =>
      rw [ih, List.length_cons, show vs.length + 1 + 1 - w = vs.length + 1 - w + 1 by
        simp only [List.length_cons] at hlen; omega]
      rfl
    · next hlen =>
      rw [show (v :: vs).length + 1 - w = 0 by simp only [List.length_cons] at hlen ⊢; omega]
      rfl

theorem trimWindow_counted (w : Nat) {vs : List Nat} {c : Nat → Nat} (hc : ∀ u, c u = vs.count u) :
    ∀ u, (trimWindow w vs c).2 u = (trimWindow w vs c).1.count u := by
  induction vs generalizing c with
  | nil => exact hc
  | cons v vs ih =>
    unfold trimWindow
    split
    · refine ih (update_count hc ?_ fun u hu => (List.count_cons_of_ne (Ne.symm hu)).symm)
      rw [hc, List.count_cons_self, Nat.add_sub_cancel]
    · exact hc

/-- The trimmed window of an accepted block before its vote is pushed. -/
theorem trimWindow_length_lt (w : Nat) (hw : 0 < w) (vs : List Nat) (c : Nat → Nat) :
    (trimWindow w vs c).1.length < w := by
  rw [trimWindow_fst, List.length_drop]
  omega

/-! ### Field lemmas -/

@[simp] theorem pushVote_versions (v : Nat) : (hf.pushVote v).versions = hf.versions ++ [v] := rfl

@[simp] theorem pushVote_currentForkIndex (v : Nat) :
    (hf.pushVote v).currentForkIndex = hf.currentForkIndex := rfl

theorem sameSchedule_pushVote (v : Nat) : SameSchedule hf (hf.pushVote v) := ⟨rfl, rfl, rfl⟩

theorem raiseToVoted_currentForkIndex (height : Nat) : (hf.raiseToVoted height).currentForkIndex =
    max hf.currentForkIndex (hf.getVotedForkIndex height % 256) := by
  unfold raiseToVoted
  dsimp only
  split
  · show hf.getVotedForkIndex height % 256 = _
    omega
  · omega

@[simp] theorem raiseToVoted_versions (height : Nat) :
    (hf.raiseToVoted height).versions = hf.versions := by
  unfold raiseToVoted
  dsimp only
  split <;> rfl

theorem sameSchedule_raiseToVoted (height : Nat) : SameSchedule hf (hf.raiseToVoted height) := by
  unfold raiseToVoted
  dsimp only
  split
  · exact ⟨rfl, rfl, rfl⟩
  · exact SameSchedule.refl hf

theorem Counted.raiseToVoted (hc : hf.Counted) (height : Nat) : (hf.raiseToVoted height).Counted := by
  unfold HardFork.raiseToVoted
  dsimp only
  split
  · exact hc
  · exact hc

/-- The loop of `get_voted_fork_index` returns a fork of the schedule when the fork in force is
one. -/
theorem votedForkIndexFrom_lt (hcfi : hf.currentForkIndex < hf.heights.length) (height : Nat) :
    ∀ n acc, n ≤ hf.heights.length → hf.votedForkIndexFrom height n acc < hf.heights.length
  | 0, _, _ => hcfi
  | n + 1, acc, hn => by
    unfold votedForkIndexFrom
    dsimp only
    split
    · omega
    · exact votedForkIndexFrom_lt hcfi height n _ (by omega)

theorem raiseToVoted_currentForkIndex_lt (hcfi : hf.currentForkIndex < hf.heights.length)
    (height : Nat) : (hf.raiseToVoted height).currentForkIndex < hf.heights.length := by
  have hv := votedForkIndexFrom_lt hcfi height hf.heights.length 0 le_rfl
  rw [raiseToVoted_currentForkIndex]
  unfold getVotedForkIndex
  omega

/-! ### `add` -/

section Add

variable {db : Db} {bv vv height : Nat}

theorem add_of_doCheck (h : hf.doCheck bv vv = true) : hf.add db bv vv height =
    (hf.countVote vv height, db.setHardForkVersion height hf.currentFork.version, true) := by
  simp [add, h]

theorem add_of_not_doCheck (h : hf.doCheck bv vv = false) : hf.add db bv vv height = (hf, db, false) := by
  simp [add, h]

variable (vv height)

/-- The window of `add` after the oldest votes left and the effective vote entered, before the fork
index is raised. -/
def advanceWindow (hf : HardFork) (vv : Nat) : HardFork :=
  { hf with
    versions := (trimWindow hf.windowSize hf.versions hf.lastVersions).1
    lastVersions := (trimWindow hf.windowSize hf.versions hf.lastVersions).2 }.pushVote
    (hf.getEffectiveVersion vv)

theorem countVote_eq : hf.countVote vv height = (hf.advanceWindow vv).raiseToVoted (height + 1) :=
  rfl

@[simp] theorem advanceWindow_currentForkIndex :
    (hf.advanceWindow vv).currentForkIndex = hf.currentForkIndex := rfl

@[simp] theorem advanceWindow_heights : (hf.advanceWindow vv).heights = hf.heights := rfl

theorem sameSchedule_advanceWindow : SameSchedule hf (hf.advanceWindow vv) := ⟨rfl, rfl, rfl⟩

theorem advanceWindow_versions : (hf.advanceWindow vv).versions =
    hf.versions.drop (hf.versions.length + 1 - hf.windowSize) ++ [hf.getEffectiveVersion vv] := by
  rw [advanceWindow, pushVote_versions, trimWindow_fst]

theorem Counted.advanceWindow (hc : hf.Counted) : (hf.advanceWindow vv).Counted := by
  have ht : Counted { hf with
      versions := (trimWindow hf.windowSize hf.versions hf.lastVersions).1
      lastVersions := (trimWindow hf.windowSize hf.versions hf.lastVersions).2 } :=
    trimWindow_counted _ hc
  exact ht.pushVote _

theorem sameSchedule_countVote : SameSchedule hf (hf.countVote vv height) :=
  (sameSchedule_advanceWindow vv).trans (sameSchedule_raiseToVoted _)

theorem countVote_versions : (hf.countVote vv height).versions =
    hf.versions.drop (hf.versions.length + 1 - hf.windowSize) ++ [hf.getEffectiveVersion vv] := by
  rw [countVote_eq, raiseToVoted_versions, advanceWindow_versions]

theorem advanceWindow_length_le : (hf.advanceWindow vv).versions.length ≤ hf.windowSize := by
  have := trimWindow_length_lt hf.windowSize hf.windowSize_pos hf.versions hf.lastVersions
  rw [trimWindow_fst] at this
  rw [advanceWindow_versions, List.length_append, List.length_singleton]
  omega

theorem countVote_length_le : (hf.countVote vv height).versions.length ≤ hf.windowSize := by
  rw [countVote_eq, raiseToVoted_versions]
  exact advanceWindow_length_le vv

theorem Counted.countVote (hc : hf.Counted) : (hf.countVote vv height).Counted :=
  (hc.advanceWindow vv).raiseToVoted _

theorem le_countVote_currentForkIndex :
    hf.currentForkIndex ≤ (hf.countVote vv height).currentForkIndex := by
  rw [countVote_eq, raiseToVoted_currentForkIndex, advanceWindow_currentForkIndex]
  exact le_max_left _ _

theorem countVote_currentForkIndex_lt (hcfi : hf.currentForkIndex < hf.heights.length) :
    (hf.countVote vv height).currentForkIndex < hf.heights.length := by
  have hcfi' : (hf.advanceWindow vv).currentForkIndex < (hf.advanceWindow vv).heights.length := hcfi
  rw [countVote_eq]
  exact raiseToVoted_currentForkIndex_lt hcfi' _

end Add

theorem appendBlock_of_check {db : Db} {b : BlockRecord} (h : hf.check b = true) :
    hf.appendBlock db b = (hf.countVote (blockVote b) db.height,
      (db.addBlock b).setHardForkVersion db.height hf.currentFork.version, true) :=
  add_of_doCheck h

/-! ### Runs of accepted blocks -/

/-- The voting state after the blocks `k` to `k + n - 1` of `db` are each counted as `add` counts
an accepted block. -/
def countVotes (hf : HardFork) (db : Db) (k : Nat) : Nat → HardFork
  | 0 => hf
  | n + 1 => (hf.countVote (blockVote (db.blocks k)) k).countVotes db (k + 1) n

section CountVotes

variable (db : Db)

theorem countVotes_succ' (k n : Nat) : hf.countVotes db k (n + 1) =
    (hf.countVotes db k n).countVote (blockVote (db.blocks (k + n))) (k + n) := by
  induction n generalizing hf k with
  | zero => rfl
  | succ n ih =>
    rw [countVotes, ih, countVotes, Nat.add_right_comm k 1 n, Nat.add_assoc]

theorem countVotes_add (k m n : Nat) :
    hf.countVotes db k (m + n) = (hf.countVotes db k m).countVotes db (k + m) n := by
  induction m generalizing hf k with
  | zero => simp only [Nat.zero_add, Nat.add_zero, countVotes]
  | succ m ih =>
    rw [Nat.add_right_comm, countVotes, ih, countVotes, Nat.add_right_comm k 1 m, Nat.add_assoc]

/-- A run of counted blocks changes no part of the schedule, keeps the histogram, and only raises
the fork index, within the schedule. -/
theorem sameSchedule_countVotes (k n : Nat) : SameSchedule hf (hf.countVotes db k n) := by
  induction n generalizing hf k with
  | zero => exact SameSchedule.refl hf
  | succ n ih => exact (sameSchedule_countVote _ _).trans (ih _)

theorem Counted.countVotes (hc : hf.Counted) (k n : Nat) : (hf.countVotes db k n).Counted := by
  induction n generalizing hf k with
  | zero => exact hc
  | succ n ih => exact ih (hc.countVote _ _) _

theorem countVotes_currentForkIndex_mono (k : Nat) {m n : Nat} (hmn : m ≤ n) :
    (hf.countVotes db k m).currentForkIndex ≤ (hf.countVotes db k n).currentForkIndex := by
  induction n, hmn using Nat.le_induction with
  | base => exact le_rfl
  | succ n _ ih =>
    rw [countVotes_succ']
    exact Nat.le_trans ih (le_countVote_currentForkIndex _ _)

theorem countVotes_currentForkIndex_lt (hcfi : hf.currentForkIndex < hf.heights.length) (k n : Nat) :
    (hf.countVotes db k n).currentForkIndex < hf.heights.length := by
  induction n generalizing hf k with
  | zero => exact hcfi
  | succ n ih =>
    have h1 : (hf.countVote (blockVote (db.blocks k)) k).currentForkIndex <
        (hf.countVote (blockVote (db.blocks k)) k).heights.length := by
      rw [(sameSchedule_countVote _ _).heights]
      exact countVote_currentForkIndex_lt _ _ hcfi
    have := ih h1 (k + 1)
    rwa [(sameSchedule_countVote _ _).heights] at this

/-- `addFrom` over blocks that are each accepted, at heights where the database already records
the version in force, counts their votes and leaves the database as it is. -/
theorem addFrom_eq_countVotes {k n : Nat}
    (hacc : ∀ i < n, (hf.countVotes db k i).check (db.blocks (k + i)) = true)
    (hrec : ∀ i < n, db.getHardForkVersion (k + i) = (hf.countVotes db k i).currentFork.version) :
    hf.addFrom db k n = (hf.countVotes db k n, db) := by
  induction n generalizing hf k with
  | zero => rfl
  | succ n ih =>
    have h0 : hf.doCheck (blockVersion (db.blocks k)) (blockVote (db.blocks k)) = true := hacc 0 (by omega)
    have hdb : db.setHardForkVersion k hf.currentFork.version = db := by
      rw [← show db.getHardForkVersion k = hf.currentFork.version from hrec 0 (by omega)]
      exact db.setHardForkVersion_self k
    simp only [addFrom, addBlock, add_of_doCheck h0, hdb]
    -- the rest of the run starts one block later
    refine ih (fun i hi => ?_) (fun i hi => ?_)
    · have := hacc (i + 1) (by omega)
      rwa [countVotes, show k + (i + 1) = k + 1 + i by omega] at this
    · have := hrec (i + 1) (by omega)
      rwa [countVotes, show k + (i + 1) = k + 1 + i by omega] at this

end CountVotes

/-! ### The loops over the schedule -/

section Loops

variable {heights : List Fork}

theorem pushVotes_versions (db : Db) (start n : Nat) : (hf.pushVotes db start n).versions =
    hf.versions ++ (List.range' start n).map
      (fun h => hf.getEffectiveVersion (blockVote (db.blocks h))) := by
  induction n generalizing hf start with
  | zero => simp [pushVotes]
  | succ n ih =>
    rw [pushVotes, ih, List.range'_succ]
    simp [getEffectiveVersion, pushVote]

theorem sameSchedule_pushVotes (db : Db) (start n : Nat) : SameSchedule hf (hf.pushVotes db start n) := by
  induction n generalizing hf start with
  | zero => exact SameSchedule.refl hf
  | succ n ih => exact (sameSchedule_pushVote _).trans (ih _)

@[simp] theorem pushVotes_currentForkIndex (db : Db) (start n : Nat) :
    (hf.pushVotes db start n).currentForkIndex = hf.currentForkIndex := by
  induction n generalizing hf start with
  | zero => rfl
  | succ n ih => exact (ih _).trans rfl

theorem Counted.pushVotes (hc : hf.Counted) (db : Db) (start n : Nat) :
    (hf.pushVotes db start n).Counted := by
  induction n generalizing hf start with
  | zero => exact hc
  | succ n ih => exact ih (hc.pushVote _) _

/-- The downward walk of `reorganize_from_block_height` stops at the fork `i` whose version is the
start version, or at the first fork when every fork is later. -/
theorem walkDown_eq (hs : heights.Pairwise Fork.Before) {start i c : Nat} (hic : i ≤ c)
    (hc : c < heights.length) (hi : i = 0 ∨ (heights.getD i default).version ≤ start)
    (hstart : start ≤ (heights.getD i default).version) : walkDown heights start c = i := by
  induction c with
  | zero => rw [walkDown]; omega
  | succ c ih =>
    rw [walkDown]
    rcases Nat.lt_or_eq_of_le hic with hlt | rfl
    · have := (before_getD hs (show i < c + 1 by omega) hc).1
      rw [if_pos (by omega)]
      exact ih (by omega) (by omega)
    · have hi' : (heights.getD (c + 1) default).version ≤ start := hi.resolve_left (by omega)
      rw [if_neg (by omega)]

/-- The upward scan of `rescan_from_block_height` finds the fork of a version in the schedule. -/
theorem scanForkIndex_getD (hs : heights.Pairwise Fork.Before) {i : Nat} (hi : i < heights.length) :
    scanForkIndex heights (heights.getD i default).version = i := by
  induction heights generalizing i with
  | nil => simp at hi
  | cons f t ih =>
    cases t with
    | nil =>
      simp only [List.length_cons, List.length_nil] at hi
      rw [show i = 0 by omega]
      rfl
    | cons g rest =>
      cases i with
      | zero => simp [scanForkIndex]
      | succ i =>
        have hlt : f.version < ((g :: rest).getD i default).version := by
          have := (before_getD hs (show 0 < i + 1 by omega) hi).1
          rwa [List.getD_cons_zero, List.getD_cons_succ] at this
        rw [scanForkIndex, List.getD_cons_succ, if_pos (by omega),
          ih (List.pairwise_cons.mp hs).2 (by simpa using hi)]

/-- The fork that `get_ideal_version` and `on_block_popped` pick at `height`: the latest one after
the first that is due, or the first. -/
def idealIndex (heights : List Fork) (height : Nat) : Nat :=
  popForkIndex heights height (heights.length - 1)

theorem popForkIndex_le (height : Nat) : ∀ n, popForkIndex heights height n ≤ n
  | 0 => le_rfl
  | n + 1 => by
    unfold popForkIndex
    split
    · exact le_rfl
    · exact Nat.le_trans (popForkIndex_le height n) (Nat.le_succ n)

theorem popForkIndex_mono {height height' : Nat} (hh : height ≤ height') :
    ∀ n, popForkIndex heights height n ≤ popForkIndex heights height' n
  | 0 => le_rfl
  | n + 1 => by
    unfold popForkIndex
    split
    · rw [if_pos (by omega)]
    · split
      · exact Nat.le_trans (popForkIndex_le height n) (Nat.le_succ n)
      · exact popForkIndex_mono hh n

theorem idealIndex_lt (hne : heights ≠ []) (height : Nat) :
    idealIndex heights height < heights.length := by
  have hle : popForkIndex heights height (heights.length - 1) ≤ heights.length - 1 :=
    popForkIndex_le height _
  have := List.length_pos_iff.mpr hne
  unfold idealIndex
  omega

theorem idealIndex_mono {height height' : Nat} (hh : height ≤ height') :
    idealIndex heights height ≤ idealIndex heights height' :=
  popForkIndex_mono hh _

/-- Only the first fork can be due at height `0`: the later ones have larger heights. -/
theorem idealIndex_zero (hs : heights.Pairwise Fork.Before) : idealIndex heights 0 = 0 := by
  suffices ∀ n < heights.length, popForkIndex heights 0 n = 0 by
    unfold idealIndex
    rcases Nat.eq_zero_or_pos heights.length with h | h
    · rw [h]
      rfl
    · exact this _ (by omega)
  intro n hn
  induction n with
  | zero => rfl
  | succ n ih =>
    have := (before_getD hs (show 0 < n + 1 by omega) hn).2.1
    rw [popForkIndex, if_neg (by omega), ih (by omega)]

theorem idealVersionFrom_eq (height : Nat) : ∀ n, hf.idealVersionFrom height n =
    if popForkIndex hf.heights height n = 0 then hf.originalVersion
    else (hf.heights.getD (popForkIndex hf.heights height n) default).version
  | 0 => rfl
  | n + 1 => by
    unfold idealVersionFrom popForkIndex
    split
    · rfl
    · exact idealVersionFrom_eq height n

/-- `get_ideal_version(height)` is the version of `idealIndex`, with the original version for the
first fork. -/
theorem getIdealVersion_eq (height : Nat) : hf.getIdealVersion height =
    if idealIndex hf.heights height = 0 then hf.originalVersion
    else (hf.heights.getD (idealIndex hf.heights height) default).version :=
  idealVersionFrom_eq height _

end Loops

/-! ### Height-scheduled forks -/

section ThresholdZero

/-- A threshold of `0` percent asks for no votes: `(window_size * 0 + 99) / 100` is `0`. -/
theorem threshold_of_zero (w : Nat) : ((w * 0) % 2 ^ 64 + 99) % 2 ^ 64 / 100 % 2 ^ 32 = 0 := by
  simp

variable (hthr : ∀ f ∈ hf.heights, f.threshold = 0)
include hthr

/-- With every threshold `0`, `get_voted_fork_index` ignores the votes: it gives the latest fork due,
and the fork in force when none is. -/
theorem votedForkIndexFrom_of_threshold_zero (height : Nat) {n : Nat} (hn : n < hf.heights.length)
    (acc : Nat) : hf.votedForkIndexFrom height (n + 1) acc =
      if popForkIndex hf.heights height n = 0 ∧ height < (hf.heights.getD 0 default).height
      then hf.currentForkIndex else popForkIndex hf.heights height n := by
  have hzero : ∀ i < hf.heights.length, (hf.heights.getD i default).threshold = 0 :=
    fun i hi => hthr _ (getD_mem_of_lt hi)
  induction n generalizing acc with
  | zero =>
    simp only [votedForkIndexFrom, hzero 0 hn, threshold_of_zero, ge_iff_le, Nat.zero_le, and_true,
      popForkIndex, true_and]
    by_cases h : (hf.heights.getD 0 default).height ≤ height
    · rw [if_pos h, if_neg (by omega)]
    · rw [if_neg h, if_pos (by omega)]
  | succ n ih =>
    rw [votedForkIndexFrom]
    simp only [hzero (n + 1) hn, threshold_of_zero, ge_iff_le, Nat.zero_le, and_true]
    rw [ih (by omega), popForkIndex]
    -- fork `n + 1` is due, or the search goes on below it on both sides
    by_cases h : (hf.heights.getD (n + 1) default).height ≤ height
    · rw [if_pos h, if_pos h, if_neg (by omega)]
    · rw [if_neg h, if_neg h]

theorem getVotedForkIndex_of_threshold_zero (hne : hf.heights ≠ []) (height : Nat) :
    hf.getVotedForkIndex height =
      if idealIndex hf.heights height = 0 ∧ height < (hf.heights.getD 0 default).height
      then hf.currentForkIndex else idealIndex hf.heights height := by
  have hpos := List.length_pos_iff.mpr hne
  have h := votedForkIndexFrom_of_threshold_zero hthr height
    (show hf.heights.length - 1 < hf.heights.length by omega) 0
  rw [Nat.sub_add_cancel hpos] at h
  exact h

/-- With every threshold `0`, raising the fork index after the block at `height` moves it from the
fork due at `height` to the fork due at `height + 1`. -/
theorem raiseToVoted_of_threshold_zero (hne : hf.heights ≠ []) {height : Nat}
    (hcfi : hf.currentForkIndex = idealIndex hf.heights height) :
    (hf.raiseToVoted (height + 1)).currentForkIndex = idealIndex hf.heights (height + 1) := by
  have hlt := idealIndex_lt hne (height + 1)
  have hlt' := idealIndex_lt hne height
  have hle := hf.length_heights_le
  have hmono : idealIndex hf.heights height ≤ idealIndex hf.heights (height + 1) :=
    idealIndex_mono (Nat.le_succ height)
  rw [raiseToVoted_currentForkIndex, getVotedForkIndex_of_threshold_zero hthr hne, hcfi]
  split
  -- no fork is due yet: the index stays at the first fork
  · rw [Nat.mod_eq_of_lt (by omega)]
    omega
  · rw [Nat.mod_eq_of_lt (by omega)]
    omega

end ThresholdZero

/-! ### `on_block_popped` -/

section Unwind

variable (db : Db) (height : Nat)

theorem unwindAt_versions :
    (hf.unwindAt db height).versions = db.getHardForkVersion height :: hf.versions.dropLast := rfl

theorem unwindAt_lastVersions : (hf.unwindAt db height).lastVersions =
    let c := Function.update hf.lastVersions (hf.versions.getLastD 0)
      (hf.lastVersions (hf.versions.getLastD 0) - 1)
    Function.update c (db.getHardForkVersion height) (c (db.getHardForkVersion height) + 1) := rfl

@[simp] theorem unwindAt_currentForkIndex :
    (hf.unwindAt db height).currentForkIndex = hf.currentForkIndex := rfl

theorem sameSchedule_unwindAt : SameSchedule hf (hf.unwindAt db height) := ⟨rfl, rfl, rfl⟩

/-- The newest vote leaves the histogram and the recorded version enters it. -/
theorem Counted.unwindAt (hc : hf.Counted) : (hf.unwindAt db height).Counted := by
  have hpop : ∀ u, Function.update hf.lastVersions (hf.versions.getLastD 0)
      (hf.lastVersions (hf.versions.getLastD 0) - 1) u = hf.versions.dropLast.count u :=
    update_count hc (by rw [hc, count_dropLast, if_pos rfl])
      fun u hu => by rw [count_dropLast, if_neg hu, Nat.sub_zero]
  intro u
  rw [unwindAt_lastVersions, unwindAt_versions]
  exact update_count hpop (by rw [hpop, List.count_cons_self])
    (fun u hu => List.count_cons_of_ne (Ne.symm hu)) u

/-- The window keeps its length, or takes one vote when it was empty. -/
theorem unwindAt_length_le (hl : hf.versions.length ≤ hf.windowSize) :
    (hf.unwindAt db height).versions.length ≤ hf.windowSize := by
  have := hf.windowSize_pos
  rw [unwindAt_versions, List.length_cons, List.length_dropLast]
  omega

variable (n : Nat)

theorem sameSchedule_unwind : SameSchedule hf (hf.unwind db height n) := by
  induction n generalizing hf height with
  | zero => exact SameSchedule.refl hf
  | succ n ih => exact (sameSchedule_unwindAt db height).trans (ih _)

@[simp] theorem unwind_currentForkIndex :
    (hf.unwind db height n).currentForkIndex = hf.currentForkIndex := by
  induction n generalizing hf height with
  | zero => rfl
  | succ n ih => exact ih _

theorem Counted.unwind (hc : hf.Counted) : (hf.unwind db height n).Counted := by
  induction n generalizing hf height with
  | zero => exact hc
  | succ n ih => exact ih (height - 1) (hc.unwindAt db height)

theorem unwind_length_le (hl : hf.versions.length ≤ hf.windowSize) :
    (hf.unwind db height n).versions.length ≤ hf.windowSize := by
  induction n generalizing hf height with
  | zero => exact hl
  | succ n ih =>
    have := ih (height - 1) (unwindAt_length_le db height hl)
    rwa [(sameSchedule_unwindAt db height).windowSize] at this

end Unwind

/-! ### The reorganisation and the start -/

/-- The first height of the window that `reorganize_from_block_height(height)` rebuilds. -/
def rescanHeight (hf : HardFork) (height : Nat) : Nat :=
  if height ≥ hf.windowSize - 1 then height - (hf.windowSize - 1) else 0

/-- The state of `reorganize_from_block_height(height)` after the window is cleared and the fork
index walked down to the version recorded at `height`. -/
def rewound (hf : HardFork) (db : Db) (height : Nat) : HardFork :=
  { hf.clearWindow with
    currentForkIndex := walkDown hf.heights
      (if height = 0 then hf.originalVersion else db.getHardForkVersion height) hf.currentForkIndex }

/-- The state of `reorganize_from_block_height(height)` before the later blocks are added again. -/
def rebuilt (hf : HardFork) (db : Db) (height : Nat) : HardFork :=
  ((hf.rewound db height).pushVotes db (hf.rescanHeight height)
    (height + 1 - hf.rescanHeight height)).raiseToVoted (height + 1)

theorem rescanHeight_eq (height : Nat) : hf.rescanHeight height = height + 1 - hf.windowSize := by
  have := hf.windowSize_pos
  unfold rescanHeight
  split <;> omega

@[simp] theorem rewound_versions (db : Db) (height : Nat) : (hf.rewound db height).versions = [] :=
  rfl

theorem counted_rewound (db : Db) (height : Nat) : (hf.rewound db height).Counted := fun _ => rfl

theorem sameSchedule_rewound (db : Db) (height : Nat) : SameSchedule hf (hf.rewound db height) :=
  ⟨rfl, rfl, rfl⟩

/-- `reorganize_from_block_height` below the top: the later blocks added again to the rebuilt
state. -/
theorem reorganizeFromBlockHeight_of_lt {db : Db} {height : Nat} (h : height < db.height) :
    hf.reorganizeFromBlockHeight db height =
      (((hf.rebuilt db height).addFrom db (height + 1) (db.height - (height + 1))).1,
        ((hf.rebuilt db height).addFrom db (height + 1) (db.height - (height + 1))).2, true) := by
  simp only [reorganizeFromBlockHeight, if_neg (Nat.not_le.mpr h)]
  rfl

/-- `init()` on an empty database: the placeholder fork if needed, an empty window and the first
fork. -/
theorem init_of_height_zero {db : Db} (h : db.height = 0) :
    hf.init db = { hf.withPlaceholder.clearWindow with currentForkIndex := 0 } := by
  simp [init, rescanFromChainHeight, rescanFromBlockHeight, h]

theorem withPlaceholder_of_ne_nil (h : hf.heights ≠ []) : hf.withPlaceholder = hf := by
  unfold withPlaceholder
  rw [dif_neg h]

@[simp] theorem withPlaceholder_originalVersion :
    hf.withPlaceholder.originalVersion = hf.originalVersion := by
  unfold withPlaceholder
  split <;> rfl

theorem withPlaceholder_heights : hf.withPlaceholder.heights =
    if hf.heights = [] then [⟨hf.originalVersion, 0, 0, 0⟩] else hf.heights := by
  unfold withPlaceholder
  split <;> simp_all

theorem withPlaceholder_ne_nil : hf.withPlaceholder.heights ≠ [] := by
  unfold withPlaceholder
  split <;> simp_all

end HardFork

end Sumokoin.Basic
