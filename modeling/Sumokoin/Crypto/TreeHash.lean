import Sumokoin.ProofKit.MerkleTree

/-! `tree_hash` of `crypto/tree-hash.c`, the root that a block's hashing blob commits its
transactions with (`get_tx_tree_hash`: the miner transaction's hash, then the others). One hash is
its own root and two are hashed together; for `count ≥ 3`, `tree_hash_cnt` gives the largest power
of two `cnt` below `count`, the first `2 cnt - count` hashes are copied into a buffer of `cnt` slots
and the others hashed in pairs into the slots after them, and the buffer is then halved in place,
each slot `j` the hash of slots `2 j` and `2 j + 1`, until two slots are left.

The hash of the 64 bytes of two hashes, `cn_fast_hash(.., 64, ..)`, is a parameter, and so is the
zero hash that `calloc` fills the buffer with; the buffer is a function from slots to hashes. The
release build compiles the asserts out (`-DNDEBUG`): `count = 0` reads past the input and is
`none`, and for `count > 2 ^ 63` the doubling of `tree_hash_cnt` wraps to `0` and never ends. -/

namespace Sumokoin.Crypto

open Sumokoin.ProofKit

variable {H : Type}

/-- The loop of `tree_hash_cnt(count)`: `pow` doubles in `size_t` while it is below `count`, and the
result is half the first `pow` that is not. A `pow` that wrapped to `0` stays below `count` for
good; `none` is that loop, which the `fuel` of `64` passes reaches. -/
def treeHashCntLoop (count : Nat) : Nat → Nat → Option Nat
  | 0, _ => none
  | fuel + 1, pow =>
    if pow < count then treeHashCntLoop count fuel (pow <<< 1 % 2 ^ 64) else some (pow >>> 1)

/-- `tree_hash_cnt(count)`. -/
def treeHashCnt (count : Nat) : Option Nat := treeHashCntLoop count 64 2

/-- A loop `for (; j < cnt; i += 2, ++j) ints[j] = cn_fast_hash(read(i), read(i + 1))` of
`tree_hash`, run for its `n` passes: the first reads the input, the second the buffer itself. -/
def hashPairsLoop (hashPair : H → H → H) (read : (Nat → H) → Nat → H) :
    Nat → Nat → Nat → (Nat → H) → Nat → H
  | 0, _, _, ints => ints
  | n + 1, i, j, ints =>
    hashPairsLoop hashPair read n (i + 2) (j + 1)
      (Function.update ints j (hashPair (read ints i) (read ints (i + 1))))

/-- `while (cnt > 2) { cnt >>= 1; ... }`: each round hashes the pairs of the first `cnt` slots into
the first `cnt / 2`, in place. -/
def reduceLoop (hashPair : H → H → H) (cnt : Nat) (ints : Nat → H) : Nat → H :=
  if 2 < cnt then
    reduceLoop hashPair (cnt >>> 1) (hashPairsLoop hashPair (fun ints i => ints i) (cnt >>> 1) 0 0 ints)
  else ints
termination_by cnt
decreasing_by simp only [Nat.shiftRight_one]; omega

/-- `tree_hash(hashes, count, root_hash)`. -/
def treeHash (zero : H) (hashPair : H → H → H) (hashes : List H) : Option H :=
  match hashes with
  | [] => none
  | [h] => some h
  | [h0, h1] => some (hashPair h0 h1)
  | _ => do
    let count := hashes.length
    let cnt ← treeHashCnt count
    let ints : Nat → H := fun k => if k < 2 * cnt - count then hashes.getD k zero else zero
    let ints := hashPairsLoop hashPair (fun _ i => hashes.getD i zero) (cnt - (2 * cnt - count))
      (2 * cnt - count) (2 * cnt - count) ints
    let ints := reduceLoop hashPair cnt ints
    pure (hashPair (ints 0) (ints 1))

/-! ### The tree -/

/-- The tree whose root `tree_hash` computes: over the largest power of two `2 ^ k` below the count,
the first `2 ^ (k + 1) - count` hashes are leaves and the others pairs of leaves, and `k` rounds of
pairing join these `2 ^ k` trees into one. -/
def treeOf (hashes : List H) : Option (HashTree H) :=
  match hashes with
  | [] => none
  | [h] => some (.leaf h)
  | _ =>
    let k := Nat.log2 (hashes.length - 1)
    let m := 2 * 2 ^ k - hashes.length
    ((pairUp HashTree.node)^[k]
      ((hashes.take m).map .leaf ++ pairUp HashTree.node ((hashes.drop m).map .leaf))).head?

end Sumokoin.Crypto
