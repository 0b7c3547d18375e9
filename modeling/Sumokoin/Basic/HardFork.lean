import Mathlib
import Sumokoin.Chain.Db

/-! `cryptonote::HardFork` of `hardfork.cpp`. The schedule `heights` keeps the order that `add_fork`
checks as a field; the window `versions` holds the effective votes of the last `window_size` blocks,
oldest first, with their histogram `last_versions`; `current_fork_index` is the fork in force.
`add` records the version in force in the database and counts the block's vote; `init`,
`rescan_from_block_height` and `reorganize_from_block_height` rebuild the window from the stored
blocks; `on_block_popped` moves the window back over the popped blocks. The `uint8_t` versions are
`Nat` below `256`, and the narrowing of a voted index to `uint8_t` is `% 256`. -/

namespace Sumokoin.Basic

open Sumokoin.Chain

/-- `hardfork_t`. -/
structure Fork where
  version : Nat
  height : Nat
  threshold : Nat
  time : Int
  deriving DecidableEq, Repr, Inhabited

/-- What `add_fork` asks of a fork after another: a larger version, height and time. -/
def Fork.Before (a b : Fork) : Prop :=
  a.version < b.version ∧ a.height < b.height ∧ a.time < b.time

instance : DecidableRel Fork.Before := fun _ _ => inferInstanceAs (Decidable (_ ∧ _ ∧ _))

theorem Fork.Before.trans {a b c : Fork} (h : a.Before b) (h' : b.Before c) : a.Before c :=
  ⟨Nat.lt_trans h.1 h'.1, Nat.lt_trans h.2.1 h'.2.1, Int.lt_trans h.2.2 h'.2.2⟩

/-- The fields of `HardFork` that the modelled functions read, with what the constructor and
`add_fork` guarantee of them. -/
@[ext] structure HardFork where
  windowSize : Nat
  originalVersion : Nat
  heights : List Fork
  versions : List Nat
  lastVersions : Nat → Nat
  currentForkIndex : Nat
  windowSize_pos : 0 < windowSize
  heights_before : heights.Pairwise Fork.Before
  version_lt : ∀ f ∈ heights, f.version < 256
  originalVersion_lt : originalVersion < 256

/-- `get_block_vote`: the minor version, with `0` counted as version `1`. -/
def blockVote (b : BlockRecord) : Nat := if b.minorVersion = 0 then 1 else b.minorVersion

/-- `get_block_version`. -/
def blockVersion (b : BlockRecord) : Nat := b.majorVersion

namespace HardFork

/-- The constructor `HardFork(db, original_version, ..., window_size, default_threshold_percent)`. -/
def create (originalVersion : UInt8) (windowSize : Nat) (defaultThresholdPercent : UInt8) :
    Except String HardFork :=
  if h : windowSize = 0 then .error "window_size needs to be strictly positive"
  else if defaultThresholdPercent.toNat > 100 then
    .error "default_threshold_percent needs to be between 0 and 100"
  else .ok ⟨windowSize, originalVersion.toNat, [], [], fun _ => 0, 0, by omega, .nil,
    fun _ h => absurd h List.not_mem_nil, originalVersion.toNat_lt⟩

theorem pairwise_append_before {l : List Fork} (hl : l.Pairwise Fork.Before) {last f : Fork}
    (hlast : l.getLast? = some last) (hf : last.Before f) : (l ++ [f]).Pairwise Fork.Before := by
  refine List.pairwise_append.mpr ⟨hl, List.pairwise_singleton _ _, fun a ha b hb => ?_⟩
  rw [List.mem_singleton.mp hb]
  -- every earlier fork is before the last one
  obtain ⟨init, rfl⟩ : ∃ init, l = init ++ [last] :=
    ⟨l.dropLast, (List.dropLast_append_getLast? last hlast).symm⟩
  rcases List.mem_append.mp ha with ha | ha
  · exact (List.pairwise_append.mp hl).2.2 a ha last (List.mem_singleton_self _) |>.trans hf
  · rw [List.mem_singleton.mp ha]
    exact hf

/-- `add_fork(version, height, threshold, time)`: the fork is appended when it comes after the
last one and its threshold is a percentage. -/
def addFork (hf : HardFork) (version : UInt8) (height : Nat) (threshold : UInt8) (time : Int) :
    HardFork × Bool :=
  let f : Fork := ⟨version.toNat, height, threshold.toNat, time⟩
  let push (h : (hf.heights ++ [f]).Pairwise Fork.Before) : HardFork :=
    { hf with
      heights := hf.heights ++ [f]
      heights_before := h
      version_lt := fun g hg => by
        rcases List.mem_append.mp hg with hg | hg
        · exact hf.version_lt g hg
        · rw [List.mem_singleton.mp hg]
          exact version.toNat_lt }
  if version = 0 then (hf, false)
  else match hlast : hf.heights.getLast? with
    | some last =>
      if hv : f.version ≤ last.version then (hf, false)
      else if hh : f.height ≤ last.height then (hf, false)
      else if ht : f.time ≤ last.time then (hf, false)
      else if threshold.toNat > 100 then (hf, false)
      else (push (pairwise_append_before hf.heights_before hlast
        ⟨by omega, by omega, Int.lt_of_not_ge ht⟩), true)
    | none =>
      if threshold.toNat > 100 then (hf, false)
      else (push (by
        rw [List.getLast?_eq_none_iff.mp hlast]
        exact List.pairwise_singleton _ _), true)

/-- `heights[current_fork_index]`. -/
def currentFork (hf : HardFork) : Fork := hf.heights.getD hf.currentForkIndex default

/-- `get_effective_version`: a vote above the last fork counts for the last fork. -/
def getEffectiveVersion (hf : HardFork) (v : Nat) : Nat :=
  match hf.heights.getLast? with
  | some last => if v > last.version then last.version else v
  | none => v

/-- `do_check`: the block has the version in force and votes for it or later. -/
def doCheck (hf : HardFork) (blockVersion votingVersion : Nat) : Bool :=
  blockVersion == hf.currentFork.version && votingVersion ≥ hf.currentFork.version

/-- `check(block)`. -/
def check (hf : HardFork) (b : BlockRecord) : Bool := hf.doCheck (blockVersion b) (blockVote b)

/-- The loop of `get_voted_fork_index` over the forks `n - 1` down to `0`, with the votes for them
and later forks accumulated in a `uint32_t`; the threshold is `(window_size * threshold + 99) / 100`
in `uint64_t`, narrowed to `uint32_t`. -/
def votedForkIndexFrom (hf : HardFork) (height : Nat) : Nat → Nat → Nat
  | 0, _ => hf.currentForkIndex
  | n + 1, acc =>
    let fork := hf.heights.getD n default
    let acc := (acc + hf.lastVersions fork.version) % 2 ^ 32
    let threshold := ((hf.windowSize * fork.threshold) % 2 ^ 64 + 99) % 2 ^ 64 / 100 % 2 ^ 32
    if height ≥ fork.height ∧ acc ≥ threshold then n else hf.votedForkIndexFrom height n acc

/-- `get_voted_fork_index(height)`: the latest fork due at `height` whose votes and later ones reach
its threshold, or the fork in force. -/
def getVotedForkIndex (hf : HardFork) (height : Nat) : Nat :=
  hf.votedForkIndexFrom height hf.heights.length 0

/-- `current_fork_index` after a vote: raised to the voted index narrowed to `uint8_t`. -/
def raiseToVoted (hf : HardFork) (height : Nat) : HardFork :=
  let voted := hf.getVotedForkIndex height % 256
  if voted > hf.currentForkIndex then { hf with currentForkIndex := voted } else hf

/-- `while (versions.size() >= window_size)`: the oldest votes leave the window and its count. -/
def trimWindow (w : Nat) : List Nat → (Nat → Nat) → List Nat × (Nat → Nat)
  | [], counts => ([], counts)
  | v :: vs, counts =>
    if (v :: vs).length ≥ w then trimWindow w vs (Function.update counts v (counts v - 1))
    else (v :: vs, counts)

/-- `last_versions[v]++; versions.push_back(v)`. -/
def pushVote (hf : HardFork) (v : Nat) : HardFork :=
  { hf with
    versions := hf.versions ++ [v]
    lastVersions := Function.update hf.lastVersions v (hf.lastVersions v + 1) }

/-- What `add` does to the voting state of an accepted block at `height`: the effective vote enters
the window, and the fork index is raised to the one voted at `height + 1`. -/
def countVote (hf : HardFork) (votingVersion height : Nat) : HardFork :=
  let t := trimWindow hf.windowSize hf.versions hf.lastVersions
  let hf' := { hf with versions := t.1, lastVersions := t.2 }.pushVote
    (hf.getEffectiveVersion votingVersion)
  hf'.raiseToVoted (height + 1)

/-- `add(block_version, voting_version, height)`: refused unless `do_check` passes; otherwise the
version in force is recorded at `height` before the vote is counted. -/
def add (hf : HardFork) (db : Db) (blockVersion votingVersion height : Nat) : HardFork × Db × Bool :=
  if !hf.doCheck blockVersion votingVersion then (hf, db, false)
  else (hf.countVote votingVersion height, db.setHardForkVersion height hf.currentFork.version, true)

/-- `add(block, height)`. -/
def addBlock (hf : HardFork) (db : Db) (b : BlockRecord) (height : Nat) : HardFork × Db × Bool :=
  hf.add db (blockVersion b) (blockVote b) height

/-- The end of `BlockchainDB::add_block`: the block is stored at the top, then
`m_hardfork->add(blk, prev_height)`. -/
def appendBlock (hf : HardFork) (db : Db) (b : BlockRecord) : HardFork × Db × Bool :=
  hf.addBlock (db.addBlock b) b db.height

/-- The loop `for (h = start; h < start + n; ++h)` that counts the stored blocks' effective votes
into the window. -/
def pushVotes (hf : HardFork) (db : Db) (start : Nat) : Nat → HardFork
  | 0 => hf
  | n + 1 => (hf.pushVote (hf.getEffectiveVersion (blockVote (db.blocks start)))).pushVotes db
    (start + 1) n

/-- The empty window. -/
def clearWindow (hf : HardFork) : HardFork := { hf with versions := [], lastVersions := fun _ => 0 }

/-- The loop of `rescan_from_block_height` that moves `current_fork_index` up from `0` to the fork
of the last recorded version, stopping at the last fork. -/
def scanForkIndex : List Fork → Nat → Nat
  | f :: g :: rest, lastv => if f.version ≠ lastv then scanForkIndex (g :: rest) lastv + 1 else 0
  | _, _ => 0

/-- `rescan_from_block_height(height)`: the window from the votes of the blocks from `height` to
the top, and the fork index from the version recorded at the top. -/
def rescanFromBlockHeight (hf : HardFork) (db : Db) (height : Nat) : HardFork × Bool :=
  if height ≥ db.height then (hf, false)
  else
    let hf := hf.clearWindow.pushVotes db height (db.height - height)
    let lastv := db.getHardForkVersion (db.height - 1)
    let hf := { hf with currentForkIndex := scanForkIndex hf.heights lastv }
    (hf.raiseToVoted db.height, true)

/-- `rescan_from_chain_height(height)`. -/
def rescanFromChainHeight (hf : HardFork) (db : Db) (height : Nat) : HardFork × Bool :=
  if height = 0 then (hf, false) else hf.rescanFromBlockHeight db (height - 1)

/-- The placeholder fork of `init` for an empty schedule: the original version from height `0`. -/
def withPlaceholder (hf : HardFork) : HardFork :=
  if h : hf.heights = [] then
    { hf with
      heights := [⟨hf.originalVersion, 0, 0, 0⟩]
      heights_before := List.pairwise_singleton _ _
      version_lt := fun f hf' => by
        rw [List.mem_singleton.mp hf']
        exact hf.originalVersion_lt }
  else hf

/-- `init()`: the placeholder fork if there is none, an empty window and fork index `0`, then the
window rebuilt from the last `window_size` stored blocks. -/
def init (hf : HardFork) (db : Db) : HardFork :=
  let hf := { hf.withPlaceholder.clearWindow with currentForkIndex := 0 }
  let height := if db.height > hf.windowSize then db.height - (hf.windowSize - 1) else 1
  (hf.rescanFromChainHeight db height).1

/-- The loop of `reorganize_from_block_height` that moves `current_fork_index` down while the fork
is later than the start version. -/
def walkDown (heights : List Fork) (start : Nat) : Nat → Nat
  | 0 => 0
  | i + 1 => if (heights.getD (i + 1) default).version > start then walkDown heights start i else i + 1

/-- The loop `for (h = height + 1; h < bc_height; ++h) add(db.get_block_from_height(h), h);`. -/
def addFrom (hf : HardFork) (db : Db) (h : Nat) : Nat → HardFork × Db
  | 0 => (hf, db)
  | n + 1 =>
    let r := hf.addBlock db (db.blocks h) h
    r.1.addFrom r.2.1 (h + 1) n

/-- `reorganize_from_block_height(height)`: the window from the votes of the blocks up to `height`,
the fork index moved down to the version recorded at `height` and raised by the vote at
`height + 1`, and then every later block added again. -/
def reorganizeFromBlockHeight (hf : HardFork) (db : Db) (height : Nat) : HardFork × Db × Bool :=
  if height ≥ db.height then (hf, db, false)
  else
    let rescanHeight := if height ≥ hf.windowSize - 1 then height - (hf.windowSize - 1) else 0
    let startVersion := if height = 0 then hf.originalVersion else db.getHardForkVersion height
    let hf := { hf.clearWindow with
      currentForkIndex := walkDown hf.heights startVersion hf.currentForkIndex }
    let hf := (hf.pushVotes db rescanHeight (height + 1 - rescanHeight)).raiseToVoted (height + 1)
    let r := hf.addFrom db (height + 1) (db.height - (height + 1))
    (r.1, r.2, true)

/-- One turn of the loop of `on_block_popped`: the newest vote leaves the window and the version
recorded at `height` enters it at the front. -/
def unwindAt (hf : HardFork) (db : Db) (height : Nat) : HardFork :=
  let v := hf.versions.getLastD 0
  let counts := Function.update hf.lastVersions v (hf.lastVersions v - 1)
  let v' := db.getHardForkVersion height
  { hf with
    versions := v' :: hf.versions.dropLast
    lastVersions := Function.update counts v' (counts v' + 1) }

/-- The loop `for (height = old_chain_height - 1; height >= new_chain_height; --height)`, over the
`n` popped heights from `height` down. -/
def unwind (hf : HardFork) (db : Db) : Nat → Nat → HardFork
  | _, 0 => hf
  | height, n + 1 => (hf.unwindAt db height).unwind db (height - 1) n

/-- The loop `for (current_fork_index = heights.size() - 1; current_fork_index > 0; ...)` of
`on_block_popped`: the latest fork due at the new height, or the first fork. -/
def popForkIndex (heights : List Fork) (height : Nat) : Nat → Nat
  | 0 => 0
  | i + 1 => if height ≥ (heights.getD (i + 1) default).height then i + 1
    else popForkIndex heights height i

/-- `on_block_popped(nblocks)`, after the database popped `nblocks` blocks. -/
def onBlockPopped (hf : HardFork) (db : Db) (nblocks : Nat) : Except String HardFork :=
  if nblocks = 0 then .error "nblocks must be greater than 0"
  else
    let hf := hf.unwind db (db.height + nblocks - 1) nblocks
    .ok { hf with currentForkIndex := popForkIndex hf.heights db.height (hf.heights.length - 1) }

/-- `get_current_version()`. -/
def getCurrentVersion (hf : HardFork) : Nat := hf.currentFork.version

/-- `get(height)`: the version in force for the next block at the top, the recorded one below, and
`255` above. -/
def get (hf : HardFork) (db : Db) (height : Nat) : Nat :=
  if height > db.height then 255
  else if height = db.height then hf.getCurrentVersion
  else db.getHardForkVersion height

/-- The loop of `get_ideal_version(height)` over the forks `n` down to `1`. -/
def idealVersionFrom (hf : HardFork) (height : Nat) : Nat → Nat
  | 0 => hf.originalVersion
  | n + 1 =>
    if height ≥ (hf.heights.getD (n + 1) default).height then (hf.heights.getD (n + 1) default).version
    else hf.idealVersionFrom height n

/-- `get_ideal_version(height)`: the version of the latest fork due at `height`, looking at the
forks after the first, and the original version before them. -/
def getIdealVersion (hf : HardFork) (height : Nat) : Nat :=
  hf.idealVersionFrom height (hf.heights.length - 1)

/-- `check_for_height(block, height)`: `do_check` against the fork voted at `height`. -/
def checkForHeight (hf : HardFork) (b : BlockRecord) (height : Nat) : Bool :=
  let fork := hf.heights.getD (hf.getVotedForkIndex height) default
  blockVersion b == fork.version && blockVote b ≥ fork.version

/-! ### The hard fork of `Blockchain::init` -/

/-- `DEFAULT_WINDOW_SIZE`: a week of blocks. -/
def defaultWindowSize : Nat := 2520

/-- `DEFAULT_THRESHOLD_PERCENT`. -/
def defaultThresholdPercent : UInt8 := 80

/-- A fork table of `hardforks.cpp`: version, height, threshold and time of each fork. -/
abbrev Table := List (UInt8 × Nat × UInt8 × Int)

/-- `mainnet_hard_forks`. -/
def mainnetHardForks : Table :=
  [(1, 1, 0, 1482806500), (2, 21300, 0, 1497657600), (3, mainnetHardforkV3Height, 0, 1522800000),
    (4, 137500, 0, 1528045200), (5, 165000, 0, 1529643600),
    (6, mainnetHardforkV6Height, 0, 1537065522), (7, mainnetHardforkV7Height, 0, 1555234940),
    (8, mainnetHardforkV8Height, 0, 1555321375), (9, 350000, 0, 1574120819),
    (10, 502257, 0, 1610700171), (11, 502617, 0, 1610786571)]

/-- `testnet_hard_forks`, which `stagenet_hard_forks` repeats. -/
def testnetHardForks : Table :=
  [(1, 1, 0, 1482806500), (2, 5150, 0, 1497181713), (3, 103580, 0, 1522540800),
    (4, 122452, 0, 1527699600), (5, 128680, 0, 1529308166), (6, 130500, 0, 1554265083),
    (7, 130530, 0, 1554465078), (8, 130560, 0, 1554479506), (9, 164100, 0, 1572592223),
    (10, 231580, 0, 1603158050), (11, 233500, 0, 1603638050)]

/-- `stagenet_hard_forks`. -/
def stagenetHardForks : Table := testnetHardForks

/-- The loop of `Blockchain::init` that hands each entry of a table to `add_fork`, whose result it
ignores. -/
def addForks (hf : HardFork) (table : Table) : HardFork :=
  table.foldl (fun hf f => (hf.addFork f.1 f.2.1 f.2.2.1 f.2.2.2).1) hf

/-- The hard fork that `Blockchain::init` sets up before `init()`: `HardFork(*db, 1, 0)` with the
default window and threshold, then the table of the network; `FAKECHAIN` takes the test options'
`(version, height)` pairs with threshold `0` and time `n + 1`. -/
def blockchainHardFork (nettype : NetworkType) (testHardForks : List (UInt8 × Nat)) :
    Except String HardFork :=
  (create 1 defaultWindowSize defaultThresholdPercent).map fun hf =>
    match nettype with
    | .fakechain => addForks hf (testHardForks.zipIdx.map fun (f, n) => (f.1, f.2, 0, (n + 1 : Int)))
    | .testnet => addForks hf testnetHardForks
    | .stagenet => addForks hf stagenetHardForks
    | _ => addForks hf mainnetHardForks

end HardFork

end Sumokoin.Basic
