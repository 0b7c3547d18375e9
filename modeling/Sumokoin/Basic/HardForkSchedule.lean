import Mathlib
import Sumokoin.Basic.HardForkReplay

/-! The hard fork of a table scheduled by height only. With every threshold `0`, as in
`mainnet_hard_forks`, `testnet_hard_forks` and `stagenet_hard_forks`, the votes never decide a fork:
in every state that `init`, accepted blocks, pops and reorganisations reach, the fork in force is
the one `get_ideal_version` names for the chain height, and the vote window keeps its histogram and
its bound. `Scheduled` is the invariant, with one lemma for each call of `Blockchain`. -/

namespace Sumokoin.Basic

open Sumokoin.Chain

namespace HardFork

/-- The calls that `Blockchain` makes on its hard fork, each as the database allows it: `init()`; a
block that `check` accepts, stored and then added; `n` blocks popped above the genesis block, then
`on_block_popped(n)`; and `reorganize_from_block_height(height)`. -/
inductive Step : HardFork × Db → HardFork × Db → Prop
  | init (hf : HardFork) (db : Db) : Step (hf, db) (hf.init db, db)
  | add (hf : HardFork) (db : Db) (b : BlockRecord) (h : hf.check b = true) :
      Step (hf, db) ((hf.appendBlock db b).1, (hf.appendBlock db b).2.1)
  -- the unwinding loop of the source, `height >= new_chain_height`, never ends at new height `0`
  | pop (hf hf' : HardFork) (db : Db) (n : Nat) (hn : n < db.height)
      (h : hf.onBlockPopped (db.truncate (db.height - n)) n = .ok hf') :
      Step (hf, db) (hf', db.truncate (db.height - n))
  | reorganize (hf : HardFork) (db : Db) (height : Nat) :
      Step (hf, db) ((hf.reorganizeFromBlockHeight db height).1,
        (hf.reorganizeFromBlockHeight db height).2.1)

/-- The states reached from `init()` of `hf₀` on an empty database. -/
inductive Reachable (hf₀ : HardFork) : HardFork × Db → Prop
  | start (db : Db) (h : db.height = 0) : Reachable hf₀ (hf₀.init db, db)
  | step {s s' : HardFork × Db} : Reachable hf₀ s → Step s s' → Reachable hf₀ s'

/-- The fork that the schedule names for the block at `height`. -/
def dueFork (hf : HardFork) (height : Nat) : Fork :=
  hf.heights.getD (idealIndex hf.heights height) default

theorem SameSchedule.dueFork {hf hf' : HardFork} (h : SameSchedule hf hf') :
    hf'.dueFork = hf.dueFork := by
  funext height
  simp only [HardFork.dueFork, h.heights]

/-! ### The invariant -/

/-- What a height-scheduled voting state keeps at chain height `height`: a schedule at threshold `0`
whose first fork has the original version, a counted window within its bound, and the fork due at
`height` in force. -/
structure Voting (hf : HardFork) (height : Nat) : Prop where
  nonempty : hf.heights ≠ []
  threshold_zero : ∀ f ∈ hf.heights, f.threshold = 0
  first_version : (hf.heights.getD 0 default).version = hf.originalVersion
  counted : hf.Counted
  length_le : hf.versions.length ≤ hf.windowSize
  index : hf.currentForkIndex = idealIndex hf.heights height

/-- A voting state and its database: the database records, for each stored block, the version of
the fork due at its height, and the block has that version and votes for it or later. -/
structure Scheduled (hf : HardFork) (db : Db) : Prop extends Voting hf db.height where
  recorded : ∀ h < db.height, db.getHardForkVersion h = (hf.dueFork h).version
  accepted : ∀ h < db.height, blockVersion (db.blocks h) = (hf.dueFork h).version ∧
    (hf.dueFork h).version ≤ blockVote (db.blocks h)

section Voting

variable {hf hf' : HardFork} {height : Nat}

theorem Voting.currentFork (hv : Voting hf height) : hf.currentFork = hf.dueFork height := by
  rw [HardFork.currentFork, dueFork, hv.index]

/-- The fork in force has the version `get_ideal_version` names: the first fork has the original
version. -/
theorem Voting.currentFork_version (hv : Voting hf height) :
    hf.currentFork.version = hf.getIdealVersion height := by
  rw [hv.currentFork, dueFork, getIdealVersion_eq]
  split
  · next h0 => rw [h0, hv.first_version]
  · rfl

theorem Voting.check_iff (hv : Voting hf height) (b : BlockRecord) : hf.check b = true ↔
    blockVersion b = (hf.dueFork height).version ∧ (hf.dueFork height).version ≤ blockVote b := by
  simp [check, doCheck, hv.currentFork]

/-- A state with the schedule of a voting state, a counted window within its bound and the fork due
at `height'` in force is a voting state at `height'`. -/
theorem Voting.of_sameSchedule (hv : Voting hf height) (hs : SameSchedule hf hf')
    (hc : hf'.Counted) (hl : hf'.versions.length ≤ hf'.windowSize) {height' : Nat}
    (hi : hf'.currentForkIndex = idealIndex hf.heights height') : Voting hf' height' where
  nonempty := hs.heights ▸ hv.nonempty
  threshold_zero := hs.heights ▸ hv.threshold_zero
  first_version := by rw [hs.heights, hs.originalVersion]; exact hv.first_version
  counted := hc
  length_le := hl
  index := by rw [hi, hs.heights]

theorem Voting.raiseToVoted (hv : Voting hf height) : Voting (hf.raiseToVoted (height + 1)) (height + 1) :=
  hv.of_sameSchedule (sameSchedule_raiseToVoted _) (hv.counted.raiseToVoted _)
    (by rw [raiseToVoted_versions, (sameSchedule_raiseToVoted _).windowSize]; exact hv.length_le)
    (raiseToVoted_of_threshold_zero hv.threshold_zero hv.nonempty hv.index)

theorem Voting.countVote (hv : Voting hf height) (vv : Nat) :
    Voting (hf.countVote vv height) (height + 1) := by
  have ha : Voting (hf.advanceWindow vv) height :=
    hv.of_sameSchedule (sameSchedule_advanceWindow vv) (hv.counted.advanceWindow vv)
      (advanceWindow_length_le vv) hv.index
  rw [countVote_eq]
  exact ha.raiseToVoted

theorem Voting.countVotes (hv : Voting hf height) (db : Db) (n : Nat) :
    Voting (hf.countVotes db height n) (height + n) := by
  induction n generalizing hf height with
  | zero => exact hv
  | succ n ih =>
    have := ih (hv.countVote (blockVote (db.blocks height)))
    rwa [show height + 1 + n = height + (n + 1) by omega] at this

end Voting

/-! ### One lemma for each call -/

section Calls

variable {hf : HardFork} {db : Db}

/-- A smaller database whose blocks and records below its height are those of `db`, with a voting
state of the same schedule, keeps the invariant. -/
theorem Scheduled.restrict (hs : Scheduled hf db) {hf' : HardFork} {db' : Db}
    (hv : Voting hf' db'.height) (hsame : SameSchedule hf hf') (hle : db'.height ≤ db.height)
    (hblocks : ∀ h < db'.height, db'.blocks h = db.blocks h)
    (hrec : ∀ h < db'.height, db'.getHardForkVersion h = db.getHardForkVersion h) :
    Scheduled hf' db' where
  toVoting := hv
  recorded h hh := by rw [hrec h hh, hs.recorded h (by omega), hsame.dueFork]
  accepted h hh := by rw [hblocks h hh, hsame.dueFork]; exact hs.accepted h (by omega)

/-- `init()`, from a schedule whose placeholder has threshold `0` and the original version first,
on a database that recorded the versions due, counts the last `window_size` votes and puts the
fork due at the top in force. -/
theorem init_scheduled (hthr : ∀ f ∈ hf.withPlaceholder.heights, f.threshold = 0)
    (hfirst : (hf.withPlaceholder.heights.getD 0 default).version = hf.originalVersion)
    (hrec : ∀ h < db.height, db.getHardForkVersion h = (hf.withPlaceholder.dueFork h).version)
    (hacc : ∀ h < db.height, blockVersion (db.blocks h) = (hf.withPlaceholder.dueFork h).version ∧
      (hf.withPlaceholder.dueFork h).version ≤ blockVote (db.blocks h)) :
    Scheduled (hf.init db) db := by
  -- the state after the reset, before the rescan
  let s : HardFork := { hf.withPlaceholder.clearWindow with currentForkIndex := 0 }
  have hss : SameSchedule hf.withPlaceholder s := ⟨rfl, rfl, rfl⟩
  have hfirst' : (s.heights.getD 0 default).version = s.originalVersion := by
    show (hf.withPlaceholder.heights.getD 0 default).version = hf.withPlaceholder.originalVersion
    rw [withPlaceholder_originalVersion]
    exact hfirst
  have hv0 : Voting s 0 := ⟨withPlaceholder_ne_nil, hthr, hfirst', fun _ => rfl, Nat.zero_le _,
    (idealIndex_zero s.heights_before).symm⟩
  have hW := s.windowSize_pos
  -- `init` rescans from the chain height `ht`, the block height `ht - 1`
  let ht := if db.height > s.windowSize then db.height - (s.windowSize - 1) else 1
  have hht : ht ≠ 0 := by
    simp only [ht]
    split <;> omega
  have hinit : hf.init db = (s.rescanFromBlockHeight db (ht - 1)).1 := by
    show (s.rescanFromChainHeight db ht).1 = _
    rw [rescanFromChainHeight, if_neg hht]
  rcases Nat.eq_zero_or_pos db.height with h0 | hpos
  · -- an empty chain leaves the reset state
    rw [hinit, rescanFromBlockHeight, if_pos (by omega)]
    exact ⟨h0 ▸ hv0, fun _ hh => absurd hh (by omega), fun _ hh => absurd hh (by omega)⟩
  · -- the window of the last blocks, and the fork of the version recorded at the top
    let p := s.clearWindow.pushVotes db (ht - 1) (db.height - (ht - 1))
    have hst : ht - 1 < db.height := by
      simp only [ht]
      split <;> omega
    have hsp : SameSchedule s p := (⟨rfl, rfl, rfl⟩ : SameSchedule s s.clearWindow).trans
      (sameSchedule_pushVotes db _ _)
    have hlen : p.versions.length ≤ p.windowSize := by
      rw [pushVotes_versions, hsp.windowSize]
      simp only [clearWindow, List.nil_append, List.length_map, List.length_range', ht]
      split <;> omega
    have hscan : scanForkIndex p.heights (db.getHardForkVersion (db.height - 1)) =
        idealIndex s.heights (db.height - 1) := by
      rw [hrec _ (by omega), dueFork, hsp.heights]
      exact scanForkIndex_getD s.heights_before (idealIndex_lt hv0.nonempty _)
    let q : HardFork :=
      { p with currentForkIndex := scanForkIndex p.heights (db.getHardForkVersion (db.height - 1)) }
    have hq : Voting q (db.height - 1) :=
      hv0.of_sameSchedule (hsp.trans ⟨rfl, rfl, rfl⟩ : SameSchedule s q)
        ((counted_clearWindow s).pushVotes db _ _ : q.Counted)
        (hlen : q.versions.length ≤ q.windowSize) hscan
    have hinit' : hf.init db = q.raiseToVoted (db.height - 1 + 1) := by
      rw [hinit, rescanFromBlockHeight, if_neg (Nat.not_le.mpr hst), Nat.sub_add_cancel hpos]
    have hsq : SameSchedule hf.withPlaceholder (q.raiseToVoted (db.height - 1 + 1)) :=
      hss.trans (hsp.trans ((⟨rfl, rfl, rfl⟩ : SameSchedule p q).trans (sameSchedule_raiseToVoted _)))
    rw [hinit']
    refine ⟨?_, fun h hh => ?_, fun h hh => ?_⟩
    · simpa only [Nat.sub_add_cancel hpos] using hq.raiseToVoted
    · rw [hrec h hh, hsq.dueFork]
    · rw [hsq.dueFork]
      exact hacc h hh

/-- `init()` on a database that the invariant holds of gives the invariant again: the schedule has
its forks, so no placeholder is added. -/
theorem Scheduled.init (hs : Scheduled hf db) : Scheduled (hf.init db) db := by
  have hw := withPlaceholder_of_ne_nil hs.nonempty
  refine init_scheduled ?_ ?_ ?_ ?_ <;> rw [hw]
  · exact hs.threshold_zero
  · exact hs.first_version
  · exact hs.recorded
  · exact hs.accepted

/-- A block that `check` accepts, stored and added, records the version due at its height and
moves the fork in force to the one due above it. -/
theorem Scheduled.appendBlock (hs : Scheduled hf db) {b : BlockRecord} (h : hf.check b = true) :
    Scheduled (hf.appendBlock db b).1 (hf.appendBlock db b).2.1 := by
  have hsame : SameSchedule hf (hf.countVote (blockVote b) db.height) := sameSchedule_countVote _ _
  have hb := (hs.check_iff b).mp h
  rw [appendBlock_of_check h]
  refine ⟨?_, fun i hi => ?_, fun i hi => ?_⟩
  · simpa only [Db.setHardForkVersion_height, Db.addBlock_height] using
      hs.toVoting.countVote (blockVote b)
  · simp only [Db.setHardForkVersion_height, Db.addBlock_height] at hi
    rw [Db.getHardForkVersion_setHardForkVersion, Db.getHardForkVersion_addBlock, hsame.dueFork]
    rcases Nat.lt_succ_iff_lt_or_eq.mp hi with hi | rfl
    · rw [if_neg (by omega)]
      exact hs.recorded i hi
    · rw [if_pos rfl, hs.toVoting.currentFork]
  · simp only [Db.setHardForkVersion_height, Db.addBlock_height] at hi
    rw [Db.setHardForkVersion_blocks, hsame.dueFork]
    rcases Nat.lt_succ_iff_lt_or_eq.mp hi with hi | rfl
    · rw [db.addBlock_blocks_below b hi]
      exact hs.accepted i hi
    · rw [db.addBlock_blocks_top b]
      exact hb

/-- What `on_block_popped(nblocks)` leaves when it does not throw: the unwound window, and the fork
due at the new height. -/
theorem onBlockPopped_eq {hf' : HardFork} {n : Nat} (h : hf.onBlockPopped db n = .ok hf') :
    hf' = { hf.unwind db (db.height + n - 1) n with
      currentForkIndex := popForkIndex (hf.unwind db (db.height + n - 1) n).heights db.height
        ((hf.unwind db (db.height + n - 1) n).heights.length - 1) } := by
  unfold onBlockPopped at h
  split at h
  · exact absurd h (by simp)
  · exact (Except.ok.inj h).symm

/-- Popping blocks leaves the invariant on the shorter chain: the window
keeps its histogram and bound, and the fork in force is the one due at the new height. -/
theorem Scheduled.onBlockPopped (hs : Scheduled hf db) {n : Nat}
    {hf' : HardFork} (h : hf.onBlockPopped (db.truncate (db.height - n)) n = .ok hf') :
    Scheduled hf' (db.truncate (db.height - n)) := by
  have hu : SameSchedule hf (hf.unwind (db.truncate (db.height - n))
      ((db.truncate (db.height - n)).height + n - 1) n) := sameSchedule_unwind _ _ n
  have hsame : SameSchedule hf hf' := by
    rw [onBlockPopped_eq h]
    exact hu.trans ⟨rfl, rfl, rfl⟩
  have hv : Voting hf' (db.truncate (db.height - n)).height := by
    refine hs.toVoting.of_sameSchedule hsame ?_ ?_ ?_ <;> rw [onBlockPopped_eq h]
    · exact hs.counted.unwind _ _ n
    · show (hf.unwind _ _ n).versions.length ≤ (hf.unwind _ _ n).windowSize
      rw [hu.windowSize]
      exact unwind_length_le _ _ n hs.length_le
    · show popForkIndex _ _ (_ - 1) = _
      rw [hu.heights]
      rfl
  exact hs.restrict hv hsame (by simp) (fun _ _ => rfl) (fun _ _ => rfl)

/-- `reorganize_from_block_height` keeps the invariant: the walk down stops at the fork due at the
height, and every later block is accepted again, recording the version the database holds. -/
theorem Scheduled.reorganize (hs : Scheduled hf db) (rh : Nat) :
    Scheduled (hf.reorganizeFromBlockHeight db rh).1 (hf.reorganizeFromBlockHeight db rh).2.1 := by
  by_cases hrh : rh < db.height
  swap
  · rw [reorganizeFromBlockHeight, if_pos (by omega)]
    exact hs
  have hv := hs.toVoting
  -- the walk down stops at the fork due at `rh`: from height `0` it starts at the original version
  have hwalk : (hf.rewound db rh).currentForkIndex = idealIndex hf.heights rh := by
    have hstart : (if rh = 0 then hf.originalVersion else db.getHardForkVersion rh) =
        (hf.dueFork rh).version := by
      split
      · next h0 => rw [h0, dueFork, idealIndex_zero hf.heights_before, hv.first_version]
      · exact hs.recorded rh hrh
    show walkDown hf.heights (if rh = 0 then hf.originalVersion else db.getHardForkVersion rh)
      hf.currentForkIndex = _
    rw [hstart, hv.index]
    exact walkDown_eq hf.heights_before (idealIndex_mono (Nat.le_of_lt hrh))
      (idealIndex_lt hv.nonempty _) (Or.inr le_rfl) le_rfl
  -- the rebuilt window has the votes of the blocks up to `rh`
  have hsp : SameSchedule hf ((hf.rewound db rh).pushVotes db (hf.rescanHeight rh)
      (rh + 1 - hf.rescanHeight rh)) :=
    (sameSchedule_rewound db rh).trans (sameSchedule_pushVotes db _ _)
  have hp : Voting ((hf.rewound db rh).pushVotes db (hf.rescanHeight rh)
      (rh + 1 - hf.rescanHeight rh)) rh := by
    refine hv.of_sameSchedule hsp ((counted_rewound db rh).pushVotes db _ _) ?_ ?_
    · have := hf.windowSize_pos
      rw [pushVotes_versions, rewound_versions, List.nil_append, List.length_map,
        List.length_range', hsp.windowSize, rescanHeight_eq]
      omega
    · rw [pushVotes_currentForkIndex, hwalk]
  have hr : Voting (hf.rebuilt db rh) (rh + 1) := hp.raiseToVoted
  have hsr : SameSchedule hf (hf.rebuilt db rh) := hsp.trans (sameSchedule_raiseToVoted _)
  -- the later blocks are accepted again, each recording the version already recorded
  have hsi : ∀ i, SameSchedule hf ((hf.rebuilt db rh).countVotes db (rh + 1) i) :=
    fun i => hsr.trans (sameSchedule_countVotes db _ i)
  have hadd : (hf.rebuilt db rh).addFrom db (rh + 1) (db.height - (rh + 1)) =
      ((hf.rebuilt db rh).countVotes db (rh + 1) (db.height - (rh + 1)), db) := by
    refine addFrom_eq_countVotes db (fun i hi => ?_) (fun i hi => ?_)
    · rw [(hr.countVotes db i).check_iff, (hsi i).dueFork]
      exact hs.accepted _ (by omega)
    · rw [(hr.countVotes db i).currentFork, (hsi i).dueFork]
      exact hs.recorded _ (by omega)
  have hfin := hr.countVotes db (db.height - (rh + 1))
  rw [show rh + 1 + (db.height - (rh + 1)) = db.height by omega] at hfin
  rw [reorganizeFromBlockHeight_of_lt hrh, hadd]
  exact hs.restrict hfin (hsi _) le_rfl (fun _ _ => rfl) (fun _ _ => rfl)

theorem Scheduled.step {s s' : HardFork × Db} (hs : Scheduled s.1 s.2) (h : Step s s') :
    Scheduled s'.1 s'.2 := by
  cases h with
  | init hf db => exact Scheduled.init hs
  | add hf db b hb => exact Scheduled.appendBlock hs hb
  | pop hf hf' db n _ hpop => exact Scheduled.onBlockPopped hs hpop
  | reorganize hf db rh => exact Scheduled.reorganize hs rh

end Calls

/-- `init()` on an empty database gives the invariant, for a schedule at threshold `0` whose first
fork, if any, has the original version. -/
theorem scheduled_start {hf₀ : HardFork} (hthr : ∀ f ∈ hf₀.heights, f.threshold = 0)
    (hfirst : ∀ f ∈ hf₀.heights.head?, f.version = hf₀.originalVersion) {db : Db}
    (hdb : db.height = 0) : Scheduled (hf₀.init db) db := by
  refine init_scheduled ?_ ?_ (fun _ hh => absurd hh (by omega)) (fun _ hh => absurd hh (by omega))
  · rw [withPlaceholder_heights]
    split
    · intro f hf
      rw [List.mem_singleton.mp hf]
    · exact hthr
  · rw [withPlaceholder_heights]
    split
    · rfl
    · next hne =>
      obtain ⟨f, t, hft⟩ := List.exists_cons_of_ne_nil hne
      rw [hft]
      exact hfirst f (by rw [hft]; rfl)

theorem reachable_scheduled {hf₀ : HardFork} (hthr : ∀ f ∈ hf₀.heights, f.threshold = 0)
    (hfirst : ∀ f ∈ hf₀.heights.head?, f.version = hf₀.originalVersion) {s : HardFork × Db}
    (h : Reachable hf₀ s) : Scheduled s.1 s.2 := by
  induction h with
  | start db hdb => exact scheduled_start hthr hfirst hdb
  | step _ hstep ih => exact ih.step hstep

/-- In every state reached from a height-scheduled table whose first fork has the original version,
the fork in force has the version `get_ideal_version` names for the chain height, so `check`
accepts only blocks of that version; and `last_versions` counts the window, which holds at most
`window_size` votes. -/
theorem reachable_currentFork_eq_getIdealVersion (hf₀ : HardFork)
    (hthr : ∀ f ∈ hf₀.heights, f.threshold = 0)
    (hfirst : ∀ f ∈ hf₀.heights.head?, f.version = hf₀.originalVersion) {hf : HardFork} {db : Db}
    (h : Reachable hf₀ (hf, db)) :
    hf.currentFork.version = hf.getIdealVersion db.height ∧
      (∀ b, hf.check b = true → blockVersion b = hf.getIdealVersion db.height) ∧
      (∀ v, hf.lastVersions v = hf.versions.count v) ∧ hf.versions.length ≤ hf.windowSize := by
  have hs : Scheduled hf db := reachable_scheduled hthr hfirst h
  refine ⟨hs.currentFork_version, fun b hb => ?_, hs.counted, hs.length_le⟩
  rw [← hs.currentFork_version, hs.toVoting.currentFork]
  exact ((hs.check_iff b).mp hb).1

theorem reachable_currentFork_eq_getIdealVersion_mainnet :
    ∃ hf₀, blockchainHardFork .mainnet [] = .ok hf₀ ∧
      (∀ f ∈ hf₀.heights, f.threshold = 0) ∧
      (∀ f ∈ hf₀.heights.head?, f.version = hf₀.originalVersion) ∧
      (hf₀.init emptyDb).currentFork.version = (hf₀.init emptyDb).getIdealVersion emptyDb.height ∧
      (∀ b, (hf₀.init emptyDb).check b = true →
        blockVersion b = (hf₀.init emptyDb).getIdealVersion emptyDb.height) ∧
      (∀ v, (hf₀.init emptyDb).lastVersions v = (hf₀.init emptyDb).versions.count v) ∧
      (hf₀.init emptyDb).versions.length ≤ (hf₀.init emptyDb).windowSize := by
  refine ⟨_, rfl, ?_⟩
  have hthr : ∀ f ∈ (addForks ⟨defaultWindowSize, 1, [], [], fun _ => 0, 0, by decide, .nil,
      fun _ h => absurd h List.not_mem_nil, by decide⟩ mainnetHardForks).heights,
      f.threshold = 0 := by decide
  have hfirst : ∀ f ∈ (addForks ⟨defaultWindowSize, 1, [], [], fun _ => 0, 0, by decide, .nil,
      fun _ h => absurd h List.not_mem_nil, by decide⟩ mainnetHardForks).heights.head?,
      f.version = 1 := by decide
  exact ⟨hthr, hfirst, reachable_currentFork_eq_getIdealVersion _ hthr hfirst (.start emptyDb rfl)⟩

/-- A `FAKECHAIN` table whose first fork is version `2` at height `0`: `init()` keeps it (the
placeholder is only for an empty table), so version `2` is in force at height `0`, where
`get_ideal_version` names the original version `1`. -/
theorem reachable_fakechain_first_version_above_original :
    ∃ hf₀, blockchainHardFork .fakechain [(2, 0)] = .ok hf₀ ∧
      (∀ f ∈ hf₀.heights, f.threshold = 0) ∧ Reachable hf₀ (hf₀.init emptyDb, emptyDb) ∧
      (hf₀.init emptyDb).currentFork.version = 2 ∧
      (hf₀.init emptyDb).getIdealVersion emptyDb.height = 1 :=
  ⟨_, rfl, by decide, .start emptyDb rfl, by decide, by decide⟩

end HardFork

end Sumokoin.Basic
