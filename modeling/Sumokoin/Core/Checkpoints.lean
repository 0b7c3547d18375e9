import Sumokoin.ProofKit.SortedMap
import Sumokoin.Core.Difficulty
import Sumokoin.Common.DnsUtils

/-! The checkpoints of `blockchain.cpp` and their enforcement. `check_against_checkpoints` walks the
checkpoints in height order and, on a mismatch below the height it read at the start, rolls the
chain back with `rollback_blockchain_switching` to two blocks below the checkpoint. The target
`pt.first - 2` is computed on `uint64_t`: for the checkpoint at height 1, the one every mainnet
table starts with, it wraps past the height, the rollback returns at once, and the mismatch stays.
-/

namespace Sumokoin.Core

open Sumokoin.Chain Sumokoin.ProofKit Sumokoin.Difficulty

/-- `checkpoints::m_points`: the block hash each checkpoint height must carry. -/
structure Checkpoints where
  points : SortedMap Nat Nat

namespace Checkpoints

/-- `add_checkpoint`: `none` is the `false` for a height already held with another hash. The hash
string is taken as parsed. -/
def addCheckpoint (cp : Checkpoints) (height hash : Nat) : Option Checkpoints :=
  match cp.points.find? height with
  | some h => if hash = h then some ⟨cp.points.insert height hash⟩ else none
  | none => some ⟨cp.points.insert height hash⟩

/-- `is_in_checkpoint_zone`: at or below the highest checkpoint. -/
def isInCheckpointZone (cp : Checkpoints) (height : Nat) : Bool :=
  match cp.points.lastKey? with
  | some top => height ≤ top
  | none => false

/-- `check_block` with its `is_a_checkpoint` output: a height without a checkpoint passes. -/
def checkBlock (cp : Checkpoints) (height hash : Nat) : Bool × Bool :=
  match cp.points.find? height with
  | some h => (h = hash, true)
  | none => (true, false)

/-- `is_alternative_block_allowed`: never at height 0; otherwise above the last checkpoint at or
below the chain height, or anywhere before the first checkpoint. -/
def isAlternativeBlockAllowed (cp : Checkpoints) (blockchainHeight blockHeight : Nat) : Bool :=
  if blockHeight = 0 then false
  else
    match cp.points.lastKeyLE? blockchainHeight with
    | none => true
    | some checkpointHeight => checkpointHeight < blockHeight

theorem addCheckpoint_spec {cp cp' : Checkpoints} {height hash : Nat}
    (h : cp.addCheckpoint height hash = some cp') :
    cp'.points.find? height = some hash ∧
      ∀ k, k ≠ height → cp'.points.find? k = cp.points.find? k := by
  unfold addCheckpoint at h
  split at h
  · split_ifs at h
    cases h
    exact ⟨SortedMap.find?_insert_self _ _ _, fun k hk => SortedMap.find?_insert_of_ne _ hk _⟩
  · cases h
    exact ⟨SortedMap.find?_insert_self _ _ _, fun k hk => SortedMap.find?_insert_of_ne _ hk _⟩

/-- A checkpoint is refused only when its height already carries another hash. -/
theorem addCheckpoint_eq_none_iff (cp : Checkpoints) (height hash : Nat) :
    cp.addCheckpoint height hash = none ↔ ∃ h, cp.points.find? height = some h ∧ hash ≠ h := by
  unfold addCheckpoint
  split
  · rename_i h hfind
    split_ifs with heq <;> simp [hfind, heq]
  · rename_i hfind
    simp [hfind]

theorem checkBlock_of_mem {cp : Checkpoints} {height hash : Nat}
    (h : (height, hash) ∈ cp.points.entries) (stored : Nat) :
    (cp.checkBlock height stored).1 = decide (hash = stored) := by
  simp [checkBlock, cp.points.find?_of_mem h]

end Checkpoints

/-- The pops of `rollback_blockchain_switching`: `n` times `pop_block_from_blockchain`, stopping at
the first throw. -/
def popBlocks : Nat → Blockchain → Blockchain × Option String
  | 0, bc => (bc, none)
  | n + 1, bc =>
    let r := popBlockFromBlockchain bc
    if r.2.isSome then r else popBlocks n r.1

/-- `rollback_blockchain_switching` with an empty `original_chain`, the call that
`check_against_checkpoints` makes: a target above the height is refused with `true` and nothing
done; otherwise the cache is reset and blocks are popped until the height is the target. The hard
fork state it reorganises is not part of this model. -/
def rollbackBlockchainSwitching (bc : Blockchain) (rollbackHeight : Nat) :
    Blockchain × Option String :=
  if rollbackHeight > bc.db.height then (bc, none)
  else
    let bc := { bc with
      timestampsAndDifficultiesHeight := 0
      resetTimestampsAndDifficultiesHeight := true }
    popBlocks (bc.db.height - rollbackHeight) bc

/-- One pass of the loop of `check_against_checkpoints` for the checkpoint `pt`, with
`blockchainHeight` the height read before the loop: a checkpoint at or above it is skipped, a
mismatch below it is rolled back to `pt.first - 2` when enforced. A throw is returned beside the
state it left. -/
def checkAgainstCheckpoint (points : Checkpoints) (enforce : Bool) (blockchainHeight : Nat)
    (pt : Nat × Nat) (bc : Blockchain) : Blockchain × Option String :=
  if pt.1 ≥ blockchainHeight then (bc, none)
  else
    match bc.db.getBlockHashFromHeight pt.1 with
    | .error e => (bc, some e)
    | .ok hash =>
      if (points.checkBlock pt.1 hash).1 then (bc, none)
      else if enforce then rollbackBlockchainSwitching bc (sub64 pt.1 2)
      else (bc, none)

/-- The loop of `check_against_checkpoints` over the checkpoints `pts` still to visit; a throw ends
it. -/
def checkAgainstCheckpointsLoop (points : Checkpoints) (enforce : Bool) (blockchainHeight : Nat) :
    List (Nat × Nat) → Blockchain → Blockchain × Option String
  | [], bc => (bc, none)
  | pt :: pts, bc =>
    let r := checkAgainstCheckpoint points enforce blockchainHeight pt bc
    if r.2.isSome then r else checkAgainstCheckpointsLoop points enforce blockchainHeight pts r.1

/-- `check_against_checkpoints(points, enforce)`. -/
def checkAgainstCheckpoints (points : Checkpoints) (enforce : Bool) (bc : Blockchain) :
    Blockchain × Option String :=
  checkAgainstCheckpointsLoop points enforce bc.db.height points.points.entries bc

theorem sub64_one_two : sub64 1 2 = uint64Modulus - 1 := by simp [sub64, uint64Modulus]

/-- A rollback to a target above the height does nothing; the target `1 - 2` is one. -/
theorem rollbackBlockchainSwitching_of_lt (bc : Blockchain) {rollbackHeight : Nat}
    (h : bc.db.height < rollbackHeight) : rollbackBlockchainSwitching bc rollbackHeight = (bc, none) :=
  if_pos h

/-- A checkpoint that matches the chain, lies above the height, or is the checkpoint at height 1
leaves the chain as it is. -/
theorem checkAgainstCheckpoint_of_pass (points : Checkpoints) (enforce : Bool)
    {bc : Blockchain} (hsmall : bc.db.height + 1 < uint64Modulus) (pt : Nat × Nat)
    (hpt : pt.1 < bc.db.height → (points.checkBlock pt.1 (bc.db.blocks pt.1).hash).1 = true ∨
      pt.1 = 1) :
    checkAgainstCheckpoint points enforce bc.db.height pt bc = (bc, none) := by
  unfold checkAgainstCheckpoint
  by_cases habove : pt.1 ≥ bc.db.height
  · rw [if_pos habove]
  · have hlt : pt.1 < bc.db.height := Nat.lt_of_not_le habove
    rw [if_neg habove]
    simp only [Db.getBlockHashFromHeight, if_pos hlt]
    rcases hpt hlt with hpass | hone
    · rw [if_pos hpass]
    · -- the mismatch at height 1 asks for a rollback to `2^64 - 1`, above the chain
      have hwrap : bc.db.height < sub64 pt.1 2 := by rw [hone, sub64_one_two]; omega
      split_ifs
      · rfl
      · exact rollbackBlockchainSwitching_of_lt bc hwrap
      · rfl

/-- A walk over checkpoints of which every one below the height matches or sits at height 1 leaves
the chain as it is and does not throw. -/
theorem checkAgainstCheckpointsLoop_of_pass (points : Checkpoints) (enforce : Bool)
    {bc : Blockchain} (hsmall : bc.db.height + 1 < uint64Modulus) (pts : List (Nat × Nat))
    (hpts : ∀ pt ∈ pts, pt.1 < bc.db.height →
      (points.checkBlock pt.1 (bc.db.blocks pt.1).hash).1 = true ∨ pt.1 = 1) :
    checkAgainstCheckpointsLoop points enforce bc.db.height pts bc = (bc, none) := by
  induction pts with
  | nil => rfl
  | cons pt pts ih =>
    have hpt := checkAgainstCheckpoint_of_pass points enforce hsmall pt (hpts pt List.mem_cons_self)
    simp only [checkAgainstCheckpointsLoop, hpt, Option.isSome_none, Bool.false_eq_true, if_false]
    exact ih fun p hp => hpts p (List.mem_cons_of_mem _ hp)

/-- With enforcement on, a chain whose block 1 differs from the checkpoint at height 1, and whose
other blocks below its height match their checkpoints, comes out of `check_against_checkpoints`
unchanged and without a throw, and its block 1 still fails `check_block`. -/
theorem checkAgainstCheckpoints_keeps_mismatch (points : Checkpoints) {bc : Blockchain}
    {hash : Nat} (hmem : (1, hash) ∈ points.points.entries) (hh : 1 < bc.db.height)
    (hsmall : bc.db.height + 1 < uint64Modulus) (hmismatch : (bc.db.blocks 1).hash ≠ hash)
    (hothers : ∀ pt ∈ points.points.entries, pt.1 ≠ 1 → pt.1 < bc.db.height →
      (bc.db.blocks pt.1).hash = pt.2) :
    checkAgainstCheckpoints points true bc = (bc, none) ∧
      ∃ stored, (checkAgainstCheckpoints points true bc).1.db.getBlockHashFromHeight 1 = .ok stored ∧
        (points.checkBlock 1 stored).1 = false := by
  have hrun : checkAgainstCheckpoints points true bc = (bc, none) := by
    refine checkAgainstCheckpointsLoop_of_pass points true hsmall _ fun pt hpt hlt => ?_
    by_cases hone : pt.1 = 1
    · exact .inr hone
    · left
      rw [Checkpoints.checkBlock_of_mem hpt, hothers pt hpt hone hlt]
      simp
  refine ⟨hrun, (bc.db.blocks 1).hash, ?_, ?_⟩
  · rw [hrun]
    exact if_pos hh
  · rw [Checkpoints.checkBlock_of_mem hmem]
    simpa using Ne.symm hmismatch

/-- Three blocks and the one checkpoint `(1, 7)`, where block 1 has hash `2`. -/
theorem checkAgainstCheckpoints_keeps_mismatch_three :
    let points : Checkpoints := ⟨⟨[(1, 7)], List.pairwise_singleton _ _⟩⟩
    let bc := Blockchain.init ⟨3, fun h => ⟨1, 1, 0, h + 1, 0, 0, 0⟩, fun _ => 1⟩ .mainnet
    ((1, 7) ∈ points.points.entries ∧ 1 < bc.db.height ∧ bc.db.height + 1 < uint64Modulus ∧
      (bc.db.blocks 1).hash ≠ 7 ∧
      ∀ pt ∈ points.points.entries, pt.1 ≠ 1 → pt.1 < bc.db.height →
        (bc.db.blocks pt.1).hash = pt.2) ∧
    checkAgainstCheckpoints points true bc = (bc, none) ∧
      ∃ stored, (checkAgainstCheckpoints points true bc).1.db.getBlockHashFromHeight 1 = .ok stored ∧
        (points.checkBlock 1 stored).1 = false := by
  intro points bc
  have hothers : ∀ pt ∈ points.points.entries, pt.1 ≠ 1 → pt.1 < bc.db.height →
      (bc.db.blocks pt.1).hash = pt.2 := by
    intro pt hpt hne _
    rw [List.mem_singleton.mp hpt] at hne
    exact absurd rfl hne
  exact ⟨⟨List.mem_singleton_self _, by decide, by decide, by decide, hothers⟩,
    checkAgainstCheckpoints_keeps_mismatch points (List.mem_singleton_self _) (by decide)
      (by decide) (by decide) hothers⟩

/-! ### Checkpoints from DNS

`load_checkpoints_from_dns` takes the records that `load_txt_records_from_dns` agrees on for its
urls and adds each record `height:hash` it can read. An added checkpoint never replaces another
hash, and each comes from an agreed record. The url lists hold one url on the main network and
none on the test and stage networks, so the two urls an agreement needs are never there: whatever
the resolver answers, the checkpoints stay as they were. -/

namespace Checkpoints

open Sumokoin.Tools.DnsUtils

/-- `dns_urls` of `load_checkpoints_from_dns`. -/
def dnsUrls : List String := ["sumocheckpoints.cloud"]

/-- `testnet_dns_urls`. -/
def testnetDnsUrls : List String := []

/-- `stagenet_dns_urls`. -/
def stagenetDnsUrls : List String := []

/-- One record cut at its first `:`, the height read by `std::stringstream >> uint64_t`
(`readHeight`) and the hash by `hex_to_pod` (`hexToPod`); `none` is a record that is skipped. -/
def readCheckpointRecord (readHeight hexToPod : String → Option Nat) (record : String) :
    Option (Nat × Nat) :=
  match record.toList.span (· ≠ ':') with
  | (_, []) => none
  | (height, _ :: hash) =>
    match readHeight (String.ofList height), hexToPod (String.ofList hash) with
    | some height, some hash => some (height, hash)
    | _, _ => none

/-- The loop over the records; a refused `ADD_CHECKPOINT` returns `false` and keeps what was added
before it. -/
def loadCheckpointsFromDnsLoop (readHeight hexToPod : String → Option Nat) :
    List String → Checkpoints → Bool × Checkpoints
  | [], cp => (true, cp)
  | record :: records, cp =>
    match readCheckpointRecord readHeight hexToPod record with
    | none => loadCheckpointsFromDnsLoop readHeight hexToPod records cp
    | some (height, hash) =>
      match cp.addCheckpoint height hash with
      | some cp => loadCheckpointsFromDnsLoop readHeight hexToPod records cp
      | none => (false, cp)

/-- `load_checkpoints_from_dns(nettype)`, with `resolve` what the resolver answers for a url and
`firstIndex` the random start of `load_txt_records_from_dns`. -/
def loadCheckpointsFromDns (readHeight hexToPod : String → Option Nat)
    (resolve : String → TxtRecord) (firstIndex : Nat) (nettype : NetworkType) (cp : Checkpoints) :
    Bool × Checkpoints :=
  let urls := if nettype = .testnet then testnetDnsUrls
    else if nettype = .stagenet then stagenetDnsUrls else dnsUrls
  match loadTxtRecordsFromDns (urls.map resolve) firstIndex with
  | none => (true, cp)
  | some records => loadCheckpointsFromDnsLoop readHeight hexToPod records cp

theorem addCheckpoint_keeps {cp cp' : Checkpoints} {height hash : Nat}
    (added : cp.addCheckpoint height hash = some cp') {h x : Nat} (held : cp.points.find? h = some x) :
    cp'.points.find? h = some x := by
  obtain ⟨atHeight, others⟩ := addCheckpoint_spec added
  by_cases same : h = height
  · subst same
    have agree : hash = x := by
      by_contra differ
      rw [(addCheckpoint_eq_none_iff cp h hash).mpr ⟨x, held, differ⟩] at added
      cases added
    rw [atHeight, agree]
  · rw [others h same, held]

/-- The loop keeps every checkpoint it starts with, and each one it adds is read from one of its
records. -/
theorem loadCheckpointsFromDnsLoop_points (readHeight hexToPod : String → Option Nat) :
    ∀ (records : List String) (cp : Checkpoints),
      (∀ h x, cp.points.find? h = some x →
        (loadCheckpointsFromDnsLoop readHeight hexToPod records cp).2.points.find? h = some x) ∧
      (∀ h x, (loadCheckpointsFromDnsLoop readHeight hexToPod records cp).2.points.find? h = some x →
        cp.points.find? h = some x ∨
          ∃ record ∈ records, readCheckpointRecord readHeight hexToPod record = some (h, x))
  | [], cp => ⟨fun _ _ held => held, fun _ _ held => .inl held⟩
  | record :: records, cp => by
    rw [loadCheckpointsFromDnsLoop]
    split
    · obtain ⟨keeps, from_⟩ := loadCheckpointsFromDnsLoop_points readHeight hexToPod records cp
      refine ⟨keeps, fun h x held => ?_⟩
      rcases from_ h x held with old | ⟨r, mem, read⟩
      · exact .inl old
      · exact .inr ⟨r, List.mem_cons_of_mem _ mem, read⟩
    · rename_i height hash read
      split
      · rename_i cp' added
        obtain ⟨keeps, from_⟩ := loadCheckpointsFromDnsLoop_points readHeight hexToPod records cp'
        obtain ⟨atHeight, others⟩ := addCheckpoint_spec added
        refine ⟨fun h x held => keeps h x (addCheckpoint_keeps added held), fun h x held => ?_⟩
        rcases from_ h x held with old | ⟨r, mem, read'⟩
        · by_cases same : h = height
          · subst same
            rw [atHeight] at old
            cases old
            exact .inr ⟨record, List.mem_cons_self, read⟩
          · rw [others h same] at old
            exact .inl old
        · exact .inr ⟨r, List.mem_cons_of_mem _ mem, read'⟩
      · exact ⟨fun _ _ held => held, fun _ _ held => .inl held⟩

end Checkpoints

end Sumokoin.Core
