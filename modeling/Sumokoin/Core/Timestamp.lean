import Sumokoin.Core.AltChain

/-! The timestamp checks of `blockchain.cpp`. A block for the main chain is checked by
`check_block_timestamp(b)`, which reads the window of its version from the top of the chain,
oldest first; a block for an alternative chain is checked by `check_block_timestamp(timestamps, b)`
on the vector that `build_alt_chain` and `complete_timestamps_vector` collect, newest first and
always up to `BLOCKCHAIN_TIMESTAMP_CHECK_WINDOW` entries. The vector overload takes its last entry as
the top block. The two verdicts agree for version 1 and differ from version 5 on. -/

namespace Sumokoin.Core

open Sumokoin.Chain Sumokoin.Epee Sumokoin.Difficulty

/-- The window that both overloads of `check_block_timestamp` pick for a hard fork version. -/
def timestampCheckWindow (hfVersion : Nat) : Nat :=
  if hfVersion < 2 then blockchainTimestampCheckWindow
  else if hfVersion < 5 then blockchainTimestampCheckWindowV2
  else blockchainTimestampCheckWindowV3

/-- `check_block_timestamp(timestamps, b)` at the version `get_current_hard_fork_version()`
reports. The top block is `timestamps.back()`; for an empty vector the source reads past the end,
and the model reads `0`. -/
def checkBlockTimestamp (hfVersion : Nat) (timestamps : List Nat) (timestamp : Nat) : Bool :=
  let medianTs := (median (timestamps.map UInt64.ofNat)).toNat
  let topBlockTimestamp := timestamps.getLastD 0
  if hfVersion > 4 ∧ timestamp < sub64 topBlockTimestamp cryptonoteBlockFutureTimeLimitV3 then false
  else if timestamp < medianTs then false
  else true

/-- `check_block_timestamp(b)` on the main chain, with `now` for `time(NULL)`. The future limit is
always `CRYPTONOTE_BLOCK_FUTURE_TIME_LIMIT`: the source picks one per version and never reads it. -/
def checkBlockTimestampMain (hfVersion now : Nat) (db : Db) (timestamp : Nat) : Bool :=
  if timestamp > (now + cryptonoteBlockFutureTimeLimit) % uint64Modulus then false
  else
    let h := db.height
    if h < timestampCheckWindow hfVersion then true
    else
      let timestamps := (List.range' (h - timestampCheckWindow hfVersion)
        (timestampCheckWindow hfVersion)).map db.getBlockTimestamp
      checkBlockTimestamp hfVersion timestamps timestamp

/-- The timestamp verdict of `handle_alternative_block`: `none` when `build_alt_chain` fails. -/
def checkAltBlockTimestamp (hfVersion : Nat) (db : Db) (prevId : Nat) (altChain : List BlockExtendedInfo)
    (timestamp : Nat) : Option Bool :=
  (buildAltChain db prevId altChain).map fun timestamps =>
    checkBlockTimestamp hfVersion timestamps timestamp

/-- The median that both paths compare with depends only on the set of timestamps. -/
theorem checkBlockTimestamp_reverse_of_le (hfVersion : Nat) (hv : hfVersion ≤ 4)
    (timestamps : List Nat) (timestamp : Nat) :
    checkBlockTimestamp hfVersion timestamps.reverse timestamp =
      checkBlockTimestamp hfVersion timestamps timestamp := by
  have hmed : median (timestamps.reverse.map UInt64.ofNat) = median (timestamps.map UInt64.ofNat) :=
    median_perm (by rw [List.map_reverse]; exact List.reverse_perm _)
  simp only [checkBlockTimestamp, hmed, show ¬ hfVersion > 4 by omega, false_and, if_false]

theorem windowEndingAt_truncate (db : Db) (p n m : Nat) :
    windowEndingAt (db.truncate m) p n = windowEndingAt db p n := rfl

theorem checkBlockTimestampMain_truncate (hfVersion now : Nat) (db : Db) {p : Nat}
    (hw : timestampCheckWindow hfVersion ≤ p + 1) {timestamp : Nat}
    (hnow : timestamp ≤ (now + cryptonoteBlockFutureTimeLimit) % uint64Modulus) :
    checkBlockTimestampMain hfVersion now (db.truncate (p + 1)) timestamp =
      checkBlockTimestamp hfVersion
        (windowEndingAt db p (timestampCheckWindow hfVersion)) timestamp := by
  unfold checkBlockTimestampMain
  rw [if_neg (by omega), Db.truncate_height, if_neg (by omega)]
  rfl

/-- For blocks of version 1 whose parent `p` has 60 blocks below it down to height 1, the
alternative and the main chain path give the same verdict on every timestamp the clock admits. -/
theorem checkAltBlockTimestamp_eq_main_of_v1 (db : Db) {prevId p : Nat}
    (hp : db.getBlockHeight prevId = some p) (h60 : blockchainTimestampCheckWindow ≤ p)
    {hfAlt hfMain : Nat} (hvAlt : hfAlt < 2) (hvMain : hfMain < 2) (now : Nat) {timestamp : Nat}
    (hnow : timestamp ≤ (now + cryptonoteBlockFutureTimeLimit) % uint64Modulus) :
    checkAltBlockTimestamp hfAlt db prevId [] timestamp =
      some (checkBlockTimestampMain hfMain now (db.truncate (p + 1)) timestamp) := by
  have hw : timestampCheckWindow hfMain = blockchainTimestampCheckWindow := by
    simp [timestampCheckWindow, hvMain]
  rw [checkBlockTimestampMain_truncate hfMain now db (by omega) hnow, hw, checkAltBlockTimestamp,
    buildAltChain_nil db hp, Nat.min_eq_right h60, Option.map_some,
    checkBlockTimestamp_reverse_of_le hfAlt (by omega)]
  -- below version 5 the verdict is the median test alone, the same for both versions
  simp only [checkBlockTimestamp, show ¬ hfAlt > 4 by omega, show ¬ hfMain > 4 by omega,
    false_and, if_false]

/-- From version 5 on the main chain, the alternative path takes the oldest of its 60 timestamps as the top block
and the median of all 60, where the main chain path takes the parent and the median of the last 12:
a timestamp at least the 60-block median and the oldest timestamp less the limit, but more than the
limit below the parent's timestamp, passes on the alternative chain and fails on the main chain. -/
theorem checkAltBlockTimestamp_accepts_main_rejects (db : Db) {prevId p : Nat}
    (hp : db.getBlockHeight prevId = some p) (h60 : blockchainTimestampCheckWindow ≤ p)
    (hfAlt : Nat) {hfMain : Nat} (hvMain : 4 < hfMain) (now : Nat) {timestamp : Nat}
    (hnow : timestamp ≤ (now + cryptonoteBlockFutureTimeLimit) % uint64Modulus)
    (hmedian : (median ((windowEndingAt db p blockchainTimestampCheckWindow).map
      UInt64.ofNat)).toNat ≤ timestamp)
    (hold : sub64 (db.getBlockTimestamp (p + 1 - blockchainTimestampCheckWindow))
      cryptonoteBlockFutureTimeLimitV3 ≤ timestamp)
    (hnew : timestamp < sub64 (db.getBlockTimestamp p) cryptonoteBlockFutureTimeLimitV3) :
    checkAltBlockTimestamp hfAlt db prevId [] timestamp = some true ∧
      checkBlockTimestampMain hfMain now (db.truncate (p + 1)) timestamp = false := by
  have hwMain : timestampCheckWindow hfMain = blockchainTimestampCheckWindowV3 := by
    simp [timestampCheckWindow, show ¬ hfMain < 2 by omega, show ¬ hfMain < 5 by omega]
  constructor
  · rw [checkAltBlockTimestamp, buildAltChain_nil db hp, Nat.min_eq_right h60, Option.map_some]
    have htop : (windowEndingAt db p blockchainTimestampCheckWindow).reverse.getLastD 0 =
        db.getBlockTimestamp (p + 1 - blockchainTimestampCheckWindow) := by
      simp [windowEndingAt, blockchainTimestampCheckWindow, List.getLastD_eq_getLast?,
        List.range'_succ]
    have hmed : median ((windowEndingAt db p blockchainTimestampCheckWindow).reverse.map
        UInt64.ofNat) = median ((windowEndingAt db p blockchainTimestampCheckWindow).map
          UInt64.ofNat) :=
      median_perm (by rw [List.map_reverse]; exact List.reverse_perm _)
    simp only [checkBlockTimestamp, htop, hmed]
    rw [if_neg (by omega), if_neg (by omega)]
  · have h60' : 60 ≤ p := h60
    have hw : timestampCheckWindow hfMain ≤ p + 1 := by
      rw [hwMain]
      exact le_trans (by decide) (Nat.le_succ_of_le h60)
    rw [checkBlockTimestampMain_truncate hfMain now db hw hnow, hwMain]
    have htop : (windowEndingAt db p blockchainTimestampCheckWindowV3).getLastD 0 =
        db.getBlockTimestamp p := by
      simp only [windowEndingAt, blockchainTimestampCheckWindowV3, blockchainTimestampCheckWindowV2,
        List.getLastD_eq_getLast?, List.range'_concat]
      simp [Nat.sub_add_cancel (by omega : 11 ≤ p)]
    simp only [checkBlockTimestamp, htop]
    rw [if_pos ⟨hvMain, hnew⟩]

/-- A chain of 102 blocks of version 5, block `h` stamped `240 * h`: a block on the block of height
100 stamped `23000` passes on the alternative chain (median 16920, top `9840`) and fails on the main
chain (top `24000`). -/
theorem checkAltBlockTimestamp_accepts_main_rejects_spaced :
    let db : Db := ⟨102, fun h => ⟨5, 5, 240 * h, h + 1, h, 0, 0⟩, fun _ => 5⟩
    (db.getBlockHeight 101 = some 100 ∧ blockchainTimestampCheckWindow ≤ 100 ∧ 4 < 5 ∧
      23000 ≤ (30000 + cryptonoteBlockFutureTimeLimit) % uint64Modulus ∧
      (median ((windowEndingAt db 100 blockchainTimestampCheckWindow).map
        UInt64.ofNat)).toNat ≤ 23000 ∧
      sub64 (db.getBlockTimestamp (100 + 1 - blockchainTimestampCheckWindow))
        cryptonoteBlockFutureTimeLimitV3 ≤ 23000 ∧
      23000 < sub64 (db.getBlockTimestamp 100) cryptonoteBlockFutureTimeLimitV3) ∧
    checkAltBlockTimestamp 5 db 101 [] 23000 = some true ∧
      checkBlockTimestampMain 5 30000 (db.truncate 101) 23000 = false := by
  intro db
  have hp : db.getBlockHeight 101 = some 100 := by decide
  have hmedian : (median ((windowEndingAt db 100 blockchainTimestampCheckWindow).map
      UInt64.ofNat)).toNat ≤ 23000 := by decide
  exact ⟨⟨hp, by decide, by decide, by decide, hmedian, by decide, by decide⟩,
    checkAltBlockTimestamp_accepts_main_rejects db hp (by decide) 5 (by decide) 30000 (by decide)
      hmedian (by decide) (by decide)⟩

end Sumokoin.Core
