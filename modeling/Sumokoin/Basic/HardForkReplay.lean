import Mathlib
import Sumokoin.Basic.HardForkWindow

/-! Replaying the votes of a chain. A chain whose blocks were appended one by one, each accepted by
`add`, leaves a voting state that `reorganize_from_block_height` rebuilds exactly, from any height
below the top, as `TEST(reorganize, Same)` expects: the walk down stops at the fork that was in
force at that height, the window is the last votes up to it, and the blocks above are accepted
again in the same states. The walk from height `0` starts at the original version, so this needs the
original version to be at most the first fork's; above it, the walk stops too high and the replay
refuses blocks that were accepted. -/

namespace Sumokoin.Basic

open Sumokoin.Chain

namespace HardFork

/-- Blocks appended one by one through `BlockchainDB::add_block` while the hard fork accepts each:
`none` once `add` refuses one. -/
def appendBlocks (hf : HardFork) (db : Db) : List BlockRecord → Option (HardFork × Db)
  | [] => some (hf, db)
  | b :: bs =>
    let r := hf.appendBlock db b
    if r.2.2 then appendBlocks r.1 r.2.1 bs else none

theorem appendBlock_of_accepted {hf : HardFork} {db : Db} {b : BlockRecord}
    (h : (hf.appendBlock db b).2.2 = true) :
    hf.check b = true ∧ hf.appendBlock db b = (hf.countVote (blockVote b) db.height,
      (db.addBlock b).setHardForkVersion db.height hf.currentFork.version, true) := by
  cases hc : hf.check b
  · rw [appendBlock, addBlock, add_of_not_doCheck hc] at h
    exact absurd h Bool.false_ne_true
  · exact ⟨rfl, appendBlock_of_check hc⟩

/-- The votes counted up to height `k + n` read only the blocks below it. -/
theorem countVotes_congr (hf : HardFork) {db db' : Db} (k n : Nat)
    (h : ∀ i < k + n, db.blocks i = db'.blocks i) : hf.countVotes db k n = hf.countVotes db' k n := by
  induction n generalizing hf k with
  | zero => rfl
  | succ n ih =>
    rw [countVotes, countVotes, h k (by omega)]
    exact ih _ (k + 1) fun i hi => h i (by omega)

/-- The window after `k` blocks counted from an empty one: the effective votes of the last
`window_size` of them. -/
theorem countVotes_versions {s₀ : HardFork} (hs : s₀.versions = []) (db : Db) (k : Nat) :
    (s₀.countVotes db 0 k).versions =
      (List.range' (k - s₀.windowSize) (k - (k - s₀.windowSize))).map
        fun h => s₀.getEffectiveVersion (blockVote (db.blocks h)) := by
  have hw := s₀.windowSize_pos
  induction k with
  | zero => simp [countVotes, hs]
  | succ k ih =>
    have hsame : SameSchedule s₀ (s₀.countVotes db 0 k) := sameSchedule_countVotes db 0 k
    rw [countVotes_succ', countVote_versions, ih, Nat.zero_add, hsame.windowSize,
      hsame.getEffectiveVersion, List.length_map, List.length_range', ← List.map_drop,
      List.drop_range',
      show k - s₀.windowSize + (k - (k - s₀.windowSize) + 1 - s₀.windowSize) * 1 =
        k + 1 - s₀.windowSize by omega,
      show k + 1 - (k + 1 - s₀.windowSize) =
        k - (k - s₀.windowSize) - (k - (k - s₀.windowSize) + 1 - s₀.windowSize) + 1 by omega,
      List.range'_1_concat, List.map_append, List.map_singleton,
      show k + 1 - s₀.windowSize +
        (k - (k - s₀.windowSize) - (k - (k - s₀.windowSize) + 1 - s₀.windowSize)) = k by omega]

/-! ### Chains built by `add` -/

/-- What appending the blocks of `db` from the state `s₀` on an empty database leaves: the state
has counted every block's vote, the state before each block accepted it, and the database
records the version in force before each. -/
structure Built (s₀ hf : HardFork) (db : Db) : Prop where
  state : hf = s₀.countVotes db 0 db.height
  accepted : ∀ h < db.height, (s₀.countVotes db 0 h).check (db.blocks h) = true
  recorded : ∀ h < db.height, db.getHardForkVersion h = (s₀.countVotes db 0 h).currentFork.version

theorem Built.start (s₀ : HardFork) {db : Db} (h : db.height = 0) : Built s₀ s₀ db :=
  ⟨by rw [h]; rfl, fun _ hi => absurd hi (by omega), fun _ hi => absurd hi (by omega)⟩

/-- One more accepted block keeps a chain built. -/
theorem Built.appendBlock {s₀ hf : HardFork} {db : Db} (hb : Built s₀ hf db) {b : BlockRecord}
    (h : (hf.appendBlock db b).2.2 = true) :
    Built s₀ (hf.appendBlock db b).1 (hf.appendBlock db b).2.1 := by
  obtain ⟨hcheck, heq⟩ := appendBlock_of_accepted h
  rw [heq]
  -- the new database has block `b` and its recorded version on top of `db`
  have hblocks : ∀ i < db.height,
      ((db.addBlock b).setHardForkVersion db.height hf.currentFork.version).blocks i = db.blocks i :=
    fun i hi => db.addBlock_blocks_below b hi
  have hbelow : ∀ j ≤ db.height, s₀.countVotes
      ((db.addBlock b).setHardForkVersion db.height hf.currentFork.version) 0 j =
        s₀.countVotes db 0 j :=
    fun j hj => countVotes_congr s₀ 0 j fun i hi => hblocks i (by omega)
  have htop : ((db.addBlock b).setHardForkVersion db.height hf.currentFork.version).blocks
      db.height = b := db.addBlock_blocks_top b
  refine ⟨?_, fun i hi => ?_, fun i hi => ?_⟩
  · simp only [Db.setHardForkVersion_height, Db.addBlock_height]
    rw [countVotes_succ', Nat.zero_add, hbelow _ le_rfl, ← hb.state, htop]
  · simp only [Db.setHardForkVersion_height, Db.addBlock_height] at hi
    rcases Nat.lt_succ_iff_lt_or_eq.mp hi with hi | rfl
    · rw [hbelow i (Nat.le_of_lt hi), hblocks i hi]
      exact hb.accepted i hi
    · rw [hbelow _ le_rfl, ← hb.state, htop]
      exact hcheck
  · simp only [Db.setHardForkVersion_height, Db.addBlock_height] at hi
    rw [Db.getHardForkVersion_setHardForkVersion, Db.getHardForkVersion_addBlock]
    rcases Nat.lt_succ_iff_lt_or_eq.mp hi with hi | rfl
    · rw [if_neg (by omega), hbelow i (Nat.le_of_lt hi)]
      exact hb.recorded i hi
    · rw [if_pos rfl, hbelow _ le_rfl, ← hb.state]

theorem Built.appendBlocks {s₀ hf : HardFork} {db : Db} (hb : Built s₀ hf db)
    {bs : List BlockRecord} {hf' : HardFork} {db' : Db} (h : appendBlocks hf db bs = some (hf', db')) :
    Built s₀ hf' db' := by
  induction bs generalizing hf db with
  | nil =>
    simp only [HardFork.appendBlocks, Option.some.injEq, Prod.mk.injEq] at h
    obtain ⟨rfl, rfl⟩ := h
    exact hb
  | cons b bs ih =>
    simp only [HardFork.appendBlocks] at h
    split at h
    · next hok => exact ih (hb.appendBlock hok) h
    · exact absurd h (by simp)

/-! ### The replay -/

/-- What the replay needs of the state a chain is built from: an empty window, the first fork in
force, and an original version that is not above the first fork's. -/
structure Fresh (s₀ : HardFork) : Prop where
  versions : s₀.versions = []
  counted : s₀.Counted
  index : s₀.currentForkIndex = 0
  nonempty : s₀.heights ≠ []
  original_le : s₀.originalVersion ≤ (s₀.heights.getD 0 default).version

section Replay

variable {s₀ hf : HardFork} {db : Db} (hs : Fresh s₀) (hb : Built s₀ hf db)
include hs hb

/-- The walk down of the replay from height `rh` stops at the fork that was in force there. -/
theorem Built.rewound_currentForkIndex {rh : Nat} (hrh : rh < db.height) :
    (hf.rewound db rh).currentForkIndex = (s₀.countVotes db 0 rh).currentForkIndex := by
  have hsame : ∀ k, SameSchedule s₀ (s₀.countVotes db 0 k) := sameSchedule_countVotes db 0
  have hlt : ∀ k, (s₀.countVotes db 0 k).currentForkIndex < s₀.heights.length :=
    countVotes_currentForkIndex_lt db (by rw [hs.index]; exact List.length_pos_iff.mpr hs.nonempty) 0
  have hle : (s₀.countVotes db 0 rh).currentForkIndex ≤
      (s₀.countVotes db 0 db.height).currentForkIndex :=
    countVotes_currentForkIndex_mono db 0 (Nat.le_of_lt hrh)
  unfold rewound
  rw [hb.state, (hsame _).heights, (hsame _).originalVersion]
  refine walkDown_eq s₀.heights_before hle (hlt _) ?_ ?_
  -- from height `0` the walk starts at the original version, below every later fork
  all_goals by_cases h0 : rh = 0
  · exact Or.inl (by rw [h0]; exact hs.index)
  · rw [if_neg h0, hb.recorded rh hrh, currentFork, (hsame rh).heights]
    exact Or.inr le_rfl
  · rw [if_pos h0, h0]
    show s₀.originalVersion ≤ (s₀.heights.getD s₀.currentForkIndex default).version
    rw [hs.index]
    exact hs.original_le
  · rw [if_neg h0, hb.recorded rh hrh, currentFork, (hsame rh).heights]

/-- The replay rebuilds, from the blocks up to `rh`, the state that counted them. -/
theorem Built.rebuilt_eq {rh : Nat} (hrh : rh < db.height) :
    hf.rebuilt db rh = s₀.countVotes db 0 (rh + 1) := by
  have hsH : SameSchedule s₀ hf := hb.state ▸ sameSchedule_countVotes db 0 _
  have hsA : SameSchedule s₀ ((s₀.countVotes db 0 rh).advanceWindow (blockVote (db.blocks rh))) :=
    (sameSchedule_countVotes db 0 rh).trans (sameSchedule_advanceWindow _)
  have hsR : SameSchedule hf ((hf.rewound db rh).pushVotes db (hf.rescanHeight rh)
      (rh + 1 - hf.rescanHeight rh)) :=
    (sameSchedule_rewound db rh).trans (sameSchedule_pushVotes db _ _)
  -- the rebuilt window is the window of the incremental run after block `rh`
  have hwin : ((hf.rewound db rh).pushVotes db (hf.rescanHeight rh)
      (rh + 1 - hf.rescanHeight rh)) =
      (s₀.countVotes db 0 rh).advanceWindow (blockVote (db.blocks rh)) := by
    refine eq_of_counted (hsA.symm.trans (hsH.trans hsR))
      ((hs.counted.countVotes db 0 rh).advanceWindow _)
      ((counted_rewound db rh).pushVotes db _ _) ?_ ?_
    · have hv := countVotes_versions hs.versions db (rh + 1)
      rw [countVotes_succ', countVote_versions, Nat.zero_add, ← advanceWindow_versions] at hv
      rw [pushVotes_versions, rewound_versions, List.nil_append, hv, rescanHeight_eq,
        hsH.windowSize, (sameSchedule_rewound db rh).getEffectiveVersion.trans hsH.getEffectiveVersion]
    · rw [pushVotes_currentForkIndex, hb.rewound_currentForkIndex hs hrh,
        advanceWindow_currentForkIndex]
  rw [rebuilt, hwin, countVotes_succ', Nat.zero_add]
  rfl

/-- Replaying from any height below the top gives back the state and the database. -/
theorem Built.reorganize {rh : Nat} (hrh : rh < db.height) :
    hf.reorganizeFromBlockHeight db rh = (hf, db, true) := by
  have hsplit : ∀ i, s₀.countVotes db 0 (rh + 1 + i) =
      (s₀.countVotes db 0 (rh + 1)).countVotes db (rh + 1) i := fun i => by
    rw [countVotes_add, Nat.zero_add]
  have hadd : (s₀.countVotes db 0 (rh + 1)).addFrom db (rh + 1) (db.height - (rh + 1)) =
      ((s₀.countVotes db 0 (rh + 1)).countVotes db (rh + 1) (db.height - (rh + 1)), db) := by
    refine addFrom_eq_countVotes db (fun i hi => ?_) (fun i hi => ?_)
    · rw [← hsplit]
      exact hb.accepted _ (by omega)
    · rw [← hsplit]
      exact hb.recorded _ (by omega)
  rw [reorganizeFromBlockHeight_of_lt hrh, hb.rebuilt_eq hs hrh, hadd, ← hsplit,
    show rh + 1 + (db.height - (rh + 1)) = db.height by omega, ← hb.state]

end Replay

/-- The state `init()` leaves on an empty database is fresh when the original version is at most
the first fork's. -/
theorem fresh_init (hf : HardFork) (horig : ∀ f ∈ hf.heights.head?, hf.originalVersion ≤ f.version)
    {db : Db} (hdb : db.height = 0) : Fresh (hf.init db) := by
  rw [init_of_height_zero hdb]
  refine ⟨rfl, fun _ => rfl, rfl, (withPlaceholder_ne_nil : hf.withPlaceholder.heights ≠ []), ?_⟩
  show hf.withPlaceholder.originalVersion ≤ (hf.withPlaceholder.heights.getD 0 default).version
  unfold withPlaceholder
  split
  · rfl
  · next hne =>
    obtain ⟨f, t, hft⟩ := List.exists_cons_of_ne_nil hne
    have := horig f (by rw [hft]; rfl)
    rw [hft]
    exact this

/-- `reorganize_from_block_height(rh)` below the top of a chain whose blocks were appended one by
one, each accepted by `add`, from `init()` on an empty database, changes neither the voting state
nor the database, when the original version is at most the first fork's. -/
theorem reorganizeFromBlockHeight_of_appendBlocks (hf : HardFork)
    (horig : ∀ f ∈ hf.heights.head?, hf.originalVersion ≤ f.version) {db₀ : Db}
    (hdb₀ : db₀.height = 0) {blocks : List BlockRecord} {hf' : HardFork} {db : Db}
    (happ : appendBlocks (hf.init db₀) db₀ blocks = some (hf', db)) {rh : Nat}
    (hrh : rh < db.height) : hf'.reorganizeFromBlockHeight db rh = (hf', db, true) :=
  ((Built.start _ hdb₀).appendBlocks happ).reorganize (fresh_init hf horig hdb₀) hrh

/-- Two forks, version `1` from height `0` and version `2` from height `5`, both at threshold `0`,
with a window of `10` votes. -/
def twoForks (originalVersion : Fin 256) : HardFork :=
  ⟨10, originalVersion.val, [⟨1, 0, 0, 1⟩, ⟨2, 5, 0, 2⟩], [], fun _ => 0, 0, by decide, by decide,
    by decide, originalVersion.isLt⟩

/-- Five blocks of version `1` voting `1`, then one of version `2` voting `2`. -/
def twoForkBlocks : List BlockRecord :=
  List.replicate 5 ⟨1, 0, 0, 0, 0, 0, 0⟩ ++ [⟨2, 2, 0, 0, 0, 0, 0⟩]

/-- A database with no block. -/
def emptyDb : Db := ⟨0, fun _ => ⟨0, 0, 0, 0, 0, 0, 0⟩, fun _ => 0⟩

theorem reorganizeFromBlockHeight_of_appendBlocks_twoForks :
    ∃ hf' db, appendBlocks ((twoForks 1).init emptyDb) emptyDb twoForkBlocks = some (hf', db) ∧
      0 < db.height ∧ hf'.reorganizeFromBlockHeight db 0 = (hf', db, true) := by
  have hsome : (appendBlocks ((twoForks 1).init emptyDb) emptyDb twoForkBlocks).map
      (fun r => r.2.height) = some 6 := by decide
  obtain ⟨⟨hf', db⟩, h⟩ : ∃ r, appendBlocks ((twoForks 1).init emptyDb) emptyDb twoForkBlocks = some r :=
    Option.isSome_iff_exists.mp (by decide)
  rw [h, Option.map_some, Option.some.injEq] at hsome
  have h6 : db.height = 6 := hsome
  exact ⟨hf', db, h, by omega,
    reorganizeFromBlockHeight_of_appendBlocks (twoForks 1) (by decide) rfl h (by omega)⟩

/-- With the original version `3` above both forks, the replay from height `0` keeps version `2` in
force, refuses the five blocks of version `1` after the first, and leaves two votes in the window
where the chain had six. -/
theorem reorganizeFromBlockHeight_twoForks_late_original :
    let r := appendBlocks ((twoForks 3).init emptyDb) emptyDb twoForkBlocks
    r.map (fun s => s.2.height) = some 6 ∧
    r.map (fun s => s.1.versions) = some [1, 1, 1, 1, 1, 2] ∧
    r.map (fun s => (s.1.reorganizeFromBlockHeight s.2 0).1.versions) = some [1, 2] := by
  decide

end HardFork

end Sumokoin.Basic
