import Sumokoin.CryptonoteProtocol.BlockQueue
import Mathlib

/-! The hash bookkeeping of the block queue. The blocks had are always among the hashes
requested. No hash in two spans, with the requested hashes exactly those of the spans, holds on
every run whose calls bring in only hashes that no other span holds; `reserve_span` does not check
the hashes it takes after the first one not requested, and erasing either of two spans that share
a hash forgets that it is requested. And a span reserved at a start that a span of another
connection holds is reported but not kept. -/

namespace Sumokoin.CryptonoteProtocol

open Sumokoin.ProofKit

namespace BlockQueue

variable {Hash Conn Block : Type}

/-- The blocks had are requested. -/
def HaveRequested (q : BlockQueue Hash Conn Block) : Prop := q.haveBlocks ⊆ q.requestedHashes

/-- The bookkeeping the queue is meant to keep: no hash in two spans, the hashes requested exactly
those of the spans, and the blocks had among them. -/
structure HashBookkeeping (q : BlockQueue Hash Conn Block) : Prop where
  disjoint : ∀ {k k' : Nat} {span span' : Span Hash Conn Block} {h : Hash},
    q.blocks.find? k = some span → q.blocks.find? k' = some span' →
      h ∈ span.hashes → h ∈ span'.hashes → k = k'
  requested : ∀ h, h ∈ q.requestedHashes ↔
    ∃ k span, q.blocks.find? k = some span ∧ h ∈ span.hashes
  haveRequested : q.HaveRequested

theorem hashBookkeeping_empty : (empty : BlockQueue Hash Conn Block).HashBookkeeping where
  disjoint := by simp [empty, SortedMap.empty, SortedMap.find?]
  requested := by simp [empty, SortedMap.empty, SortedMap.find?]
  haveRequested := by simp [HaveRequested, empty]

/-! ### Erasing a span -/

variable [DecidableEq Hash]

theorem HaveRequested.eraseBlock {q : BlockQueue Hash Conn Block} (have_ : q.HaveRequested)
    (start : Nat) (span : Span Hash Conn Block) : (q.eraseBlock start span).HaveRequested :=
  Finset.sdiff_subset_sdiff have_ le_rfl

/-- Erasing a span forgets exactly its hashes, which no other span holds. -/
theorem HashBookkeeping.eraseBlock {q : BlockQueue Hash Conn Block} (kept : q.HashBookkeeping)
    {start : Nat} {span : Span Hash Conn Block} (present : q.blocks.find? start = some span) :
    (q.eraseBlock start span).HashBookkeeping where
  disjoint := by
    intro k k' s s' h found found' mem mem'
    simp only [BlockQueue.eraseBlock, SortedMap.find?_erase] at found found'
    split_ifs at found found'
    exact kept.disjoint found found' mem mem'
  requested := by
    intro h
    simp only [BlockQueue.eraseBlock, Finset.mem_sdiff, List.mem_toFinset, SortedMap.find?_erase]
    constructor
    · rintro ⟨requested, notErased⟩
      obtain ⟨k, s, found, mem⟩ := (kept.requested h).mp requested
      -- the span holding it is another one
      have other : k ≠ start := by
        rintro rfl
        rw [present, Option.some.injEq] at found
        exact notErased (found ▸ mem)
      exact ⟨k, s, by rw [if_neg other]; exact found, mem⟩
    · rintro ⟨k, s, found, mem⟩
      split_ifs at found with same
      refine ⟨(kept.requested h).mpr ⟨k, s, found, mem⟩, fun erased => same ?_⟩
      exact kept.disjoint found present mem erased
  haveRequested := kept.haveRequested.eraseBlock start span

/-! ### Inserting a span -/

/-- A span inserted at a start that is free, with hashes that no span holds and that are now
requested, keeps the bookkeeping. -/
theorem HashBookkeeping.insertFresh {q : BlockQueue Hash Conn Block} (kept : q.HashBookkeeping)
    {start : Nat} (absent : q.blocks.find? start = none) (span : Span Hash Conn Block)
    (fresh : ∀ h ∈ span.hashes, ∀ k s, q.blocks.find? k = some s → h ∉ s.hashes) :
    (⟨q.blocks.insert start span, q.requestedHashes ∪ span.hashes.toFinset, q.haveBlocks⟩ :
      BlockQueue Hash Conn Block).HashBookkeeping where
  disjoint := by
    intro k k' s s' h found found' mem mem'
    simp only [SortedMap.find?_insert] at found found'
    split_ifs at found found' with new new'
    · rw [new, new']
    · exact absurd mem' (fresh h (Option.some.inj found ▸ mem) k' s' found')
    · exact absurd mem (fresh h (Option.some.inj found' ▸ mem') k s found)
    · exact kept.disjoint found found' mem mem'
  requested := by
    intro h
    simp only [Finset.mem_union, List.mem_toFinset, SortedMap.find?_insert]
    constructor
    · rintro (requested | mem)
      · obtain ⟨k, s, found, mem⟩ := (kept.requested h).mp requested
        have other : k ≠ start := by rintro rfl; simp [absent] at found
        exact ⟨k, s, by rw [if_neg other]; exact found, mem⟩
      · exact ⟨start, span, by simp, mem⟩
    · rintro ⟨k, s, found, mem⟩
      split_ifs at found
      · exact .inr (Option.some.inj found ▸ mem)
      · exact .inl ((kept.requested h).mpr ⟨k, s, found, mem⟩)
  haveRequested := kept.haveRequested.trans Finset.subset_union_left

/-- Blocks had added among the hashes requested keep the bookkeeping. -/
theorem HashBookkeeping.addHave {q : BlockQueue Hash Conn Block} (kept : q.HashBookkeeping)
    {had : Finset Hash} (requested : had ⊆ q.requestedHashes) :
    (⟨q.blocks, q.requestedHashes, q.haveBlocks ∪ had⟩ : BlockQueue Hash Conn Block).HashBookkeeping where
  disjoint := kept.disjoint
  requested := kept.requested
  haveRequested := Finset.union_subset kept.haveRequested requested

/-- A span without hashes inserted, or dropped at a start that is taken, keeps the bookkeeping. -/
theorem HashBookkeeping.insertSpan {q : BlockQueue Hash Conn Block} (kept : q.HashBookkeeping)
    (start : Nat) (span : Span Hash Conn Block) (noHashes : span.hashes = []) :
    (q.insertSpan start span).HashBookkeeping := by
  unfold BlockQueue.insertSpan
  rcases found : q.blocks.find? start with _ | other
  · have inserted := kept.insertFresh found span (by simp [noHashes])
    rw [noHashes, List.toFinset_nil, Finset.union_empty] at inserted
    rw [SortedMap.insertNew_of_find?_eq_none _ found]
    exact inserted
  · rw [SortedMap.insertNew_of_find?_eq_some found]
    exact kept

omit [DecidableEq Hash] in
theorem HaveRequested.insertSpan {q : BlockQueue Hash Conn Block} (have_ : q.HaveRequested)
    (start : Nat) (span : Span Hash Conn Block) : (q.insertSpan start span).HaveRequested :=
  have_

/-! ### Erasing spans -/

theorem HaveRequested.eraseSpansWhere {q : BlockQueue Hash Conn Block} (have_ : q.HaveRequested)
    (test : Nat → Span Hash Conn Block → Bool) : (q.eraseSpansWhere test).HaveRequested := by
  unfold BlockQueue.eraseSpansWhere
  -- every turn erases a span or does nothing
  generalize q.blocks.entries = entries
  induction entries generalizing q with
  | nil => exact have_
  | cons e rest ih =>
    rw [List.foldl_cons]
    split_ifs
    · exact ih (have_.eraseBlock e.1 e.2)
    · exact ih have_

/-- The loops that erase the spans passing a test keep the bookkeeping: each erases a span that is
still there, since the others erased have other starts. -/
theorem HashBookkeeping.eraseSpansWhere {q : BlockQueue Hash Conn Block} (kept : q.HashBookkeeping)
    (test : Nat → Span Hash Conn Block → Bool) : (q.eraseSpansWhere test).HashBookkeeping := by
  unfold BlockQueue.eraseSpansWhere
  have present : ∀ e ∈ q.blocks.entries, q.blocks.find? e.1 = some e.2 := fun e mem =>
    q.blocks.find?_of_mem mem
  have sorted := q.blocks.sorted
  generalize q.blocks.entries = entries at present sorted
  induction entries generalizing q with
  | nil => exact kept
  | cons e rest ih =>
    obtain ⟨later, sortedRest⟩ := List.pairwise_cons.mp sorted
    rw [List.foldl_cons]
    split_ifs
    · refine ih (kept.eraseBlock (present e List.mem_cons_self)) (fun e' mem => ?_) sortedRest
      simp only [BlockQueue.eraseBlock, SortedMap.find?_erase,
        if_neg (ne_of_gt (later e' mem)), present e' (List.mem_cons_of_mem _ mem)]
    · exact ih kept (fun e' mem => present e' (List.mem_cons_of_mem _ mem)) sortedRest

theorem HaveRequested.removeSpan {q : BlockQueue Hash Conn Block} (have_ : q.HaveRequested)
    (startBlockHeight : Nat) : (q.removeSpan startBlockHeight).2.HaveRequested := by
  unfold BlockQueue.removeSpan
  rcases q.blocks.find? startBlockHeight with _ | span
  · exact have_
  · exact have_.eraseBlock _ span

theorem HashBookkeeping.removeSpan {q : BlockQueue Hash Conn Block} (kept : q.HashBookkeeping)
    (startBlockHeight : Nat) : (q.removeSpan startBlockHeight).2.HashBookkeeping := by
  unfold BlockQueue.removeSpan
  rcases found : q.blocks.find? startBlockHeight with _ | span
  · exact kept
  · exact kept.eraseBlock found

variable [DecidableEq Conn]

/-! ### Setting the hashes of a span -/

theorem setSpanHashes_of_find? {q : BlockQueue Hash Conn Block} {start : Nat}
    {span : Span Hash Conn Block} (present : q.blocks.find? start = some span) {connectionId : Conn}
    (owner : span.connectionId = connectionId) (hashes : List Hash) :
    q.setSpanHashes start connectionId hashes =
      ⟨(q.eraseBlock start span).blocks.insertNew start { span with hashes := hashes },
        (q.eraseBlock start span).requestedHashes ∪ hashes.toFinset,
        (q.eraseBlock start span).haveBlocks⟩ := by
  simp [setSpanHashes, present, owner]

/-- Without a span of the start and the connection, `set_span_hashes` changes nothing. -/
theorem setSpanHashes_of_not_owner {q : BlockQueue Hash Conn Block} {start : Nat}
    {connectionId : Conn}
    (noOwner : ∀ span, q.blocks.find? start = some span → span.connectionId ≠ connectionId)
    (hashes : List Hash) : q.setSpanHashes start connectionId hashes = q := by
  unfold setSpanHashes
  rcases found : q.blocks.find? start with _ | span
  · rfl
  · simp [noOwner span found]

theorem HaveRequested.setSpanHashes {q : BlockQueue Hash Conn Block} (have_ : q.HaveRequested)
    (start : Nat) (connectionId : Conn) (hashes : List Hash) :
    (q.setSpanHashes start connectionId hashes).HaveRequested := by
  by_cases owned : ∃ span, q.blocks.find? start = some span ∧ span.connectionId = connectionId
  · obtain ⟨span, present, owner⟩ := owned
    rw [setSpanHashes_of_find? present owner]
    exact (have_.eraseBlock start span).trans Finset.subset_union_left
  · rw [setSpanHashes_of_not_owner (fun span found owner => owned ⟨span, found, owner⟩)]
    exact have_

/-- Hashes that no span at another start holds, set on the span of the start, keep the
bookkeeping. -/
theorem HashBookkeeping.setSpanHashes {q : BlockQueue Hash Conn Block} (kept : q.HashBookkeeping)
    {start : Nat} (connectionId : Conn) {hashes : List Hash}
    (fresh : ∀ h ∈ hashes, ∀ k s, q.blocks.find? k = some s → h ∈ s.hashes → k = start) :
    (q.setSpanHashes start connectionId hashes).HashBookkeeping := by
  by_cases owned : ∃ span, q.blocks.find? start = some span ∧ span.connectionId = connectionId
  · obtain ⟨span, present, owner⟩ := owned
    rw [setSpanHashes_of_find? present owner]
    have erased := kept.eraseBlock present
    have absent : (q.eraseBlock start span).blocks.find? start = none :=
      SortedMap.find?_erase_self _ _
    rw [SortedMap.insertNew_of_find?_eq_none _ absent]
    -- after the erasure no span holds the new hashes
    refine erased.insertFresh absent _ fun h mem k s found held => ?_
    simp only [BlockQueue.eraseBlock, SortedMap.find?_erase] at found
    split_ifs at found with same
    exact same (fresh h mem k s found held)
  · rw [setSpanHashes_of_not_owner (fun span found owner => owned ⟨span, found, owner⟩)]
    exact kept

/-! ### Filled spans -/

/-- A filled span at a height that a span holds: the old span erased, the new one with its hashes,
which are requested and had. -/
theorem addBlocks_of_find? {q : BlockQueue Hash Conn Block} {height : Nat}
    {old : Span Hash Conn Block} (found : q.blocks.find? height = some old) (bcel : List Block)
    (connectionId : Conn) :
    q.addBlocks height bcel connectionId =
      ⟨(q.blocks.erase height).insert height ⟨old.hashes, bcel, connectionId, bcel.length⟩,
        (q.eraseBlock height old).requestedHashes ∪ old.hashes.toFinset,
        (q.eraseBlock height old).haveBlocks ∪ old.hashes.toFinset⟩ := by
  have absent : (q.blocks.erase height).find? height = none := SortedMap.find?_erase_self _ _
  -- the filled span goes in without hashes, is erased again and goes in with the old ones
  simp only [BlockQueue.addBlocks, BlockQueue.removeSpan, found, BlockQueue.insertSpan,
    BlockQueue.setSpanHashes, BlockQueue.eraseBlock, SortedMap.insertNew_of_find?_eq_none _ absent,
    SortedMap.find?_insert_self, if_true, SortedMap.erase_insert_of_find?_eq_none _ absent,
    List.toFinset_nil, Finset.sdiff_empty, Finset.union_assoc, Finset.union_self]

theorem addBlocks_of_find?_eq_none {q : BlockQueue Hash Conn Block} {height : Nat}
    (absent : q.blocks.find? height = none) (bcel : List Block) (connectionId : Conn) :
    q.addBlocks height bcel connectionId =
      q.insertSpan height ⟨[], bcel, connectionId, bcel.length⟩ := by
  simp [BlockQueue.addBlocks, BlockQueue.removeSpan, absent]

theorem HaveRequested.addBlocks {q : BlockQueue Hash Conn Block} (have_ : q.HaveRequested)
    (height : Nat) (bcel : List Block) (connectionId : Conn) :
    (q.addBlocks height bcel connectionId).HaveRequested := by
  rcases found : q.blocks.find? height with _ | old
  · rw [addBlocks_of_find?_eq_none found]
    exact have_.insertSpan _ _
  · -- the hashes taken over are had and requested alike
    rw [addBlocks_of_find? found]
    exact Finset.union_subset_union (have_.eraseBlock height old) le_rfl

/-- A filled span takes over the hashes of the span it replaces, which no other span holds. -/
theorem HashBookkeeping.addBlocks {q : BlockQueue Hash Conn Block} (kept : q.HashBookkeeping)
    (height : Nat) (bcel : List Block) (connectionId : Conn) :
    (q.addBlocks height bcel connectionId).HashBookkeeping := by
  rcases found : q.blocks.find? height with _ | old
  · rw [addBlocks_of_find?_eq_none found]
    exact kept.insertSpan height _ rfl
  · rw [addBlocks_of_find? found]
    have taken := (kept.eraseBlock found).insertFresh (SortedMap.find?_erase_self _ _)
      ⟨old.hashes, bcel, connectionId, bcel.length⟩
      fun h mem k s found' held => by
        simp only [BlockQueue.eraseBlock, SortedMap.find?_erase] at found'
        split_ifs at found' with same
        exact same (kept.disjoint found' found held mem)
    exact taken.addHave Finset.subset_union_right

/-! ### Reserving a span -/

omit [DecidableEq Hash] in
theorem mem_reserveSpanHashes {maxBlocks spanStartHeight blockchainHeight : Nat}
    {syncPrunedBlocks : Bool} {localPruningSeed pruningSeed : Nat} {firstIsPruned : Bool} {h : Hash} :
    ∀ {spanLength : Nat} {rest : List (Hash × Nat)},
      h ∈ reserveSpanHashes maxBlocks spanStartHeight blockchainHeight syncPrunedBlocks
        localPruningSeed pruningSeed firstIsPruned spanLength rest → ∃ p ∈ rest, p.1 = h
  | _, [], mem => absurd mem List.not_mem_nil
  | spanLength, p :: rest, mem => by
    unfold reserveSpanHashes at mem
    split_ifs at mem with room stop
    · exact absurd mem List.not_mem_nil
    · rcases List.mem_cons.mp mem with rfl | later
      · exact ⟨p, List.mem_cons_self, rfl⟩
      · obtain ⟨p', mem', same⟩ := mem_reserveSpanHashes later
        exact ⟨p', List.mem_cons_of_mem _ mem', same⟩
    · exact absurd mem List.not_mem_nil

omit [DecidableEq Conn] in
theorem mem_reserveSpanHashes_skipRequested {maxBlocks spanStartHeight blockchainHeight : Nat}
    {syncPrunedBlocks : Bool} {localPruningSeed pruningSeed : Nat} {firstIsPruned : Bool}
    {spanLength skipped : Nat} {requested : Finset Hash} {blockHashes : List (Hash × Nat)} {h : Hash}
    (mem : h ∈ reserveSpanHashes maxBlocks spanStartHeight blockchainHeight syncPrunedBlocks
      localPruningSeed pruningSeed firstIsPruned spanLength
        (skipRequested requested (blockHashes.drop skipped))) : ∃ p ∈ blockHashes, p.1 = h := by
  obtain ⟨p, mem', same⟩ := mem_reserveSpanHashes mem
  exact ⟨p, List.mem_of_mem_drop ((List.dropWhile_sublist _).subset mem'), same⟩

/-- What `reserve_span` can do: nothing, or schedule a span for the connection at some start and
set on it hashes of the peer, at least one. -/
theorem reserveSpan_cases (q : BlockQueue Hash Conn Block)
    (firstBlockHeight lastBlockHeight maxBlocks : Nat) (connectionId : Conn) (syncPrunedBlocks : Bool)
    (localPruningSeed pruningSeed blockchainHeight : Nat) (blockHashes : List (Hash × Nat)) :
    q.reserveSpan firstBlockHeight lastBlockHeight maxBlocks connectionId syncPrunedBlocks
        localPruningSeed pruningSeed blockchainHeight blockHashes = (q, 0, 0) ∨
      ∃ start hashes, 0 < hashes.length ∧ (∀ h ∈ hashes, ∃ p ∈ blockHashes, p.1 = h) ∧
        q.reserveSpan firstBlockHeight lastBlockHeight maxBlocks connectionId syncPrunedBlocks
            localPruningSeed pruningSeed blockchainHeight blockHashes =
          ((q.insertSpan start ⟨[], [], connectionId, hashes.length⟩).setSpanHashes start
            connectionId hashes, start, hashes.length) := by
  unfold BlockQueue.reserveSpan
  dsimp only
  -- every early return leaves the queue; the hashes taken come from the peer's list
  split_ifs <;> first
    | exact .inl rfl
    | (refine .inr ⟨_, _, ?_, fun _ mem => mem_reserveSpanHashes_skipRequested mem, rfl⟩; omega)

theorem HaveRequested.reserveSpan {q : BlockQueue Hash Conn Block} (have_ : q.HaveRequested)
    (firstBlockHeight lastBlockHeight maxBlocks : Nat) (connectionId : Conn) (syncPrunedBlocks : Bool)
    (localPruningSeed pruningSeed blockchainHeight : Nat) (blockHashes : List (Hash × Nat)) :
    (q.reserveSpan firstBlockHeight lastBlockHeight maxBlocks connectionId syncPrunedBlocks
      localPruningSeed pruningSeed blockchainHeight blockHashes).1.HaveRequested := by
  obtain unchanged | ⟨start, hashes, -, -, reserved⟩ := reserveSpan_cases q firstBlockHeight
    lastBlockHeight maxBlocks connectionId syncPrunedBlocks localPruningSeed pruningSeed
    blockchainHeight blockHashes
  · rw [unchanged]
    exact have_
  · rw [reserved]
    exact (have_.insertSpan _ _).setSpanHashes _ _ _

/-- A span reserved from a peer whose hashes none is requested keeps the bookkeeping. -/
theorem HashBookkeeping.reserveSpan {q : BlockQueue Hash Conn Block} (kept : q.HashBookkeeping)
    (firstBlockHeight lastBlockHeight maxBlocks : Nat) (connectionId : Conn) (syncPrunedBlocks : Bool)
    (localPruningSeed pruningSeed blockchainHeight : Nat) {blockHashes : List (Hash × Nat)}
    (fresh : ∀ p ∈ blockHashes, p.1 ∉ q.requestedHashes) :
    (q.reserveSpan firstBlockHeight lastBlockHeight maxBlocks connectionId syncPrunedBlocks
      localPruningSeed pruningSeed blockchainHeight blockHashes).1.HashBookkeeping := by
  obtain unchanged | ⟨start, hashes, -, fromPeer, reserved⟩ := reserveSpan_cases q firstBlockHeight
    lastBlockHeight maxBlocks connectionId syncPrunedBlocks localPruningSeed pruningSeed
    blockchainHeight blockHashes
  · rw [unchanged]
    exact kept
  · rw [reserved]
    have scheduled := kept.insertSpan start ⟨[], [], connectionId, hashes.length⟩ rfl
    -- a hash the peer offers is in no span, since it is not requested
    refine scheduled.setSpanHashes connectionId fun h mem k s found held => ?_
    obtain ⟨p, offered, rfl⟩ := fromPeer h mem
    exact absurd ((scheduled.requested p.1).mpr ⟨k, s, found, held⟩) (fresh p offered)

/-- A span reserved at a start that a span of another connection holds is not inserted, and
`set_span_hashes` finds no span of the start and the connection: whatever `reserve_span` reports,
the queue is left as it was. -/
theorem reserveSpan_of_other_owner {q : BlockQueue Hash Conn Block} {start : Nat}
    {span : Span Hash Conn Block} (taken : q.blocks.find? start = some span)
    {firstBlockHeight lastBlockHeight maxBlocks : Nat} {connectionId : Conn}
    (other : span.connectionId ≠ connectionId) {syncPrunedBlocks : Bool}
    {localPruningSeed pruningSeed blockchainHeight : Nat} {blockHashes : List (Hash × Nat)} {n : Nat}
    (reported : (q.reserveSpan firstBlockHeight lastBlockHeight maxBlocks connectionId
      syncPrunedBlocks localPruningSeed pruningSeed blockchainHeight blockHashes).2 = (start, n)) :
    (q.reserveSpan firstBlockHeight lastBlockHeight maxBlocks connectionId syncPrunedBlocks
      localPruningSeed pruningSeed blockchainHeight blockHashes).1 = q := by
  obtain unchanged | ⟨start', hashes, -, -, reserved⟩ := reserveSpan_cases q firstBlockHeight
    lastBlockHeight maxBlocks connectionId syncPrunedBlocks localPruningSeed pruningSeed
    blockchainHeight blockHashes
  · rw [unchanged]
  · rw [reserved] at reported ⊢
    obtain ⟨rfl, -⟩ := Prod.mk.inj reported
    have dropped : q.insertSpan start' ⟨[], [], connectionId, hashes.length⟩ = q := by
      rw [BlockQueue.insertSpan, SortedMap.insertNew_of_find?_eq_some taken]
    rw [dropped]
    exact setSpanHashes_of_not_owner (fun s found => by
      rw [taken, Option.some.injEq] at found
      exact found ▸ other) hashes

/-! ### Runs -/

/-- The calls that bring in only hashes that no other span holds: `reserve_span` from a peer whose
hashes none is requested, and `set_span_hashes` with hashes that no span at another start holds. -/
def Fresh (q : BlockQueue Hash Conn Block) : BlockQueueOp Hash Conn Block → Prop
  | .reserveSpan _ _ _ _ _ _ _ _ blockHashes => ∀ p ∈ blockHashes, p.1 ∉ q.requestedHashes
  | .setSpanHashes startHeight _ hashes =>
    ∀ h ∈ hashes, ∀ k span, q.blocks.find? k = some span → h ∈ span.hashes → k = startHeight
  | _ => True

/-- A run whose every call is fresh where it is made. -/
def FreshRun : BlockQueue Hash Conn Block → List (BlockQueueOp Hash Conn Block) → Prop
  | _, [] => True
  | q, op :: ops => q.Fresh op ∧ FreshRun (q.apply op) ops

theorem HaveRequested.apply {q : BlockQueue Hash Conn Block} (have_ : q.HaveRequested) :
    ∀ op : BlockQueueOp Hash Conn Block, (q.apply op).HaveRequested
  | .reserveSpan .. => have_.reserveSpan ..
  | .addBlocks .. => have_.addBlocks ..
  | .addScheduledBlocks height nblocks connectionId => by
    dsimp only [BlockQueue.apply, BlockQueue.addScheduledBlocks]
    split_ifs
    · exact have_.insertSpan _ _
    · exact have_
  | .setSpanHashes .. => have_.setSpanHashes ..
  | .removeSpan .. => have_.removeSpan ..
  | .removeSpans .. => by
    dsimp only [BlockQueue.apply, BlockQueue.removeSpans]
    exact have_.eraseSpansWhere _
  | .flushSpans .. => by
    dsimp only [BlockQueue.apply, BlockQueue.flushSpans]
    exact have_.eraseSpansWhere _
  | .flushStaleSpans .. => by
    dsimp only [BlockQueue.apply, BlockQueue.flushStaleSpans]
    exact have_.eraseSpansWhere _

/-- One call, fresh where it is made, keeps the bookkeeping. -/
theorem HashBookkeeping.apply {q : BlockQueue Hash Conn Block} (kept : q.HashBookkeeping) :
    ∀ op : BlockQueueOp Hash Conn Block, q.Fresh op → (q.apply op).HashBookkeeping
  | .reserveSpan .., fresh => kept.reserveSpan _ _ _ _ _ _ _ _ fresh
  | .addBlocks .., _ => kept.addBlocks ..
  | .addScheduledBlocks height nblocks connectionId, _ => by
    dsimp only [BlockQueue.apply, BlockQueue.addScheduledBlocks]
    split_ifs
    · exact kept.insertSpan height _ rfl
    · exact kept
  | .setSpanHashes _ connectionId _, fresh => kept.setSpanHashes connectionId fresh
  | .removeSpan .., _ => kept.removeSpan ..
  | .removeSpans .., _ => by
    dsimp only [BlockQueue.apply, BlockQueue.removeSpans]
    exact kept.eraseSpansWhere _
  | .flushSpans .., _ => by
    dsimp only [BlockQueue.apply, BlockQueue.flushSpans]
    exact kept.eraseSpansWhere _
  | .flushStaleSpans .., _ => by
    dsimp only [BlockQueue.apply, BlockQueue.flushStaleSpans]
    exact kept.eraseSpansWhere _

theorem HaveRequested.run {q : BlockQueue Hash Conn Block} (have_ : q.HaveRequested)
    (ops : List (BlockQueueOp Hash Conn Block)) : (q.run ops).HaveRequested := by
  induction ops generalizing q with
  | nil => exact have_
  | cons op ops ih => exact ih (have_.apply op)

theorem HashBookkeeping.run {q : BlockQueue Hash Conn Block} (kept : q.HashBookkeeping) :
    ∀ ops : List (BlockQueueOp Hash Conn Block), FreshRun q ops → (q.run ops).HashBookkeeping
  | [], _ => kept
  | op :: ops, ⟨fresh, rest⟩ => (kept.apply op fresh).run ops rest

/-- The hash bookkeeping of the block queue. On every run from the empty queue the blocks had are
requested. On every run whose calls bring in only hashes that no other span holds, no hash is in
two spans and the hashes requested are exactly those of the spans. A span that `reserve_span`
reports at a start which a span of another connection holds is not in the queue: the queue is as
it was before the call. -/
theorem blockQueue_hashBookkeeping :
    (∀ ops : List (BlockQueueOp Hash Conn Block), (empty.run ops).HaveRequested) ∧
    (∀ ops : List (BlockQueueOp Hash Conn Block), FreshRun empty ops →
      (empty.run ops).HashBookkeeping) ∧
    ∀ (q : BlockQueue Hash Conn Block) (start : Nat) (span : Span Hash Conn Block)
      (firstBlockHeight lastBlockHeight maxBlocks : Nat) (connectionId : Conn)
      (syncPrunedBlocks : Bool) (localPruningSeed pruningSeed blockchainHeight : Nat)
      (blockHashes : List (Hash × Nat)) (n : Nat),
      q.blocks.find? start = some span → span.connectionId ≠ connectionId →
      (q.reserveSpan firstBlockHeight lastBlockHeight maxBlocks connectionId syncPrunedBlocks
        localPruningSeed pruningSeed blockchainHeight blockHashes).2 = (start, n) → 0 < n →
      (q.reserveSpan firstBlockHeight lastBlockHeight maxBlocks connectionId syncPrunedBlocks
        localPruningSeed pruningSeed blockchainHeight blockHashes).1 = q :=
  ⟨fun ops => hashBookkeeping_empty.haveRequested.run ops,
    fun ops fresh => hashBookkeeping_empty.run ops fresh,
    fun _ _ _ _ _ _ _ _ _ _ _ _ _ taken other reported _ =>
      reserveSpan_of_other_owner taken other reported⟩

/-- The failing runs, with numbers for hashes and connections. Connection 2 reserves at height 5,
where connection 1 has a span scheduled: the span is reported and not kept. Connection 1 reserves
hash 22 at height 2, then connection 2 reserves from a peer that offers hash 11 and then 22: both
spans hold 22, and erasing the span at 2 forgets that 22 is requested, which the span at 1 still
holds. -/
theorem blockQueue_hashBookkeeping_overlap :
    (((empty : BlockQueue Nat Nat Unit).run [.addScheduledBlocks 5 1 1]).reserveSpan 5 5 1 2 false
        0 0 100 [(7, 0)]).2 = (5, 1) ∧
      (((empty : BlockQueue Nat Nat Unit).run [.addScheduledBlocks 5 1 1]).reserveSpan 5 5 1 2 false
        0 0 100 [(7, 0)]).1 = (empty : BlockQueue Nat Nat Unit).run [.addScheduledBlocks 5 1 1] ∧
      ((empty : BlockQueue Nat Nat Unit).run [.reserveSpan 2 2 1 1 false 0 0 100 [(22, 0)],
        .reserveSpan 1 2 2 2 false 0 0 100 [(11, 0), (22, 0)]]).blocks.entries =
          [(1, ⟨[11, 22], [], 2, 2⟩), (2, ⟨[22], [], 1, 1⟩)] ∧
      ((empty : BlockQueue Nat Nat Unit).run [.reserveSpan 2 2 1 1 false 0 0 100 [(22, 0)],
        .reserveSpan 1 2 2 2 false 0 0 100 [(11, 0), (22, 0)], .removeSpan 2]).blocks.entries =
          [(1, ⟨[11, 22], [], 2, 2⟩)] ∧
      ((empty : BlockQueue Nat Nat Unit).run [.reserveSpan 2 2 1 1 false 0 0 100 [(22, 0)],
        .reserveSpan 1 2 2 2 false 0 0 100 [(11, 0), (22, 0)], .removeSpan 2]).requestedHashes =
          {11} := by
  have reported : (((empty : BlockQueue Nat Nat Unit).run [.addScheduledBlocks 5 1 1]).reserveSpan
      5 5 1 2 false 0 0 100 [(7, 0)]).2 = (5, 1) := by decide +kernel
  refine ⟨reported, blockQueue_hashBookkeeping.2.2 _ 5 ⟨[], [], 1, 1⟩ 5 5 1 2 false 0 0 100
    [(7, 0)] 1 (by decide +kernel) (by decide) reported (by decide), ?_, ?_, ?_⟩ <;> decide +kernel

end BlockQueue

end Sumokoin.CryptonoteProtocol
