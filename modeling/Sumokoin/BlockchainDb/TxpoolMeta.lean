import Mathlib

/-! The pool's record of a transaction, `txpool_tx_meta_t` of `blockchain_db/blockchain_db.h`, and
how it stores a relay method. Five flags encode the method, `get_relay_method` decodes them (the
states that `set_relay_method` never writes read as `fluff`), and `upgrade_relay_method` moves a
transaction to a later method only. -/

namespace Sumokoin.BlockchainDb

/-- `relay_method`, in the order of its values. -/
inductive RelayMethod
  | none
  | local
  | forward
  | stem
  | fluff
  | block
  deriving DecidableEq, Repr, Inhabited

/-- The value of a method, which `upgrade_relay_method` compares. -/
def RelayMethod.toNat : RelayMethod → Nat
  | .none => 0
  | .local => 1
  | .forward => 2
  | .stem => 3
  | .fluff => 4
  | .block => 5

/-- `relay_category`. -/
inductive RelayCategory
  | broadcasted
  | relayable
  | legacy
  | all
  deriving DecidableEq, Repr, Inhabited

/-- `matches_category(method, category)`. -/
def matchesCategory (method : RelayMethod) (category : RelayCategory) : Bool :=
  match category with
  | .all => true
  | .relayable => method != .none
  | .broadcasted | .legacy =>
    -- check for "broadcasted" or "legacy" methods
    match method with
    | .local | .forward | .stem => false
    | .block | .fluff => true
    | .none => category == .legacy

/-- `txpool_tx_meta_t` without its padding. The flags `kept_by_block`, `relayed` and
`do_not_relay` are bytes that the pool only sets to `0` or `1`. -/
structure TxpoolTxMeta where
  maxUsedBlockId : Nat
  lastFailedId : Nat
  weight : Nat
  fee : Nat
  maxUsedBlockHeight : Nat
  lastFailedHeight : Nat
  receiveTime : Nat
  lastRelayedTime : Nat
  keptByBlock : Bool
  relayed : Bool
  doNotRelay : Bool
  doubleSpendSeen : Bool
  pruned : Bool
  isLocal : Bool
  dandelionppStem : Bool
  isForwarding : Bool
  deriving DecidableEq, Repr, Inhabited

namespace TxpoolTxMeta

/-- `set_relay_method(method)`: one flag for each method but `fluff`, which clears them all. -/
def setRelayMethod (txd : TxpoolTxMeta) (method : RelayMethod) : TxpoolTxMeta :=
  { txd with
    keptByBlock := method == .block
    doNotRelay := method == .none
    isLocal := method == .local
    isForwarding := method == .forward
    dandelionppStem := method == .stem }

/-- `get_relay_method()`: the flags read as the bits of one state; a state that is not a single
flag, or no flag, is `fluff`. -/
def getRelayMethod (txd : TxpoolTxMeta) : RelayMethod :=
  let state := txd.keptByBlock.toNat + (txd.doNotRelay.toNat <<< 1) +
    (txd.isLocal.toNat <<< 2) + (txd.isForwarding.toNat <<< 3) +
    (txd.dandelionppStem.toNat <<< 4)
  match state with
  | 1 => .block
  | 2 => .none
  | 4 => .local
  | 8 => .forward
  | 16 => .stem
  | _ => .fluff

/-- `upgrade_relay_method(method)`: whether the method was raised, and the record. -/
def upgradeRelayMethod (txd : TxpoolTxMeta) (method : RelayMethod) : Bool × TxpoolTxMeta :=
  if txd.getRelayMethod.toNat < method.toNat then (true, txd.setRelayMethod method)
  else (false, txd)

/-- `matches(category)` (`matches` is a keyword here). -/
def relayMatches (txd : TxpoolTxMeta) (category : RelayCategory) : Bool :=
  matchesCategory txd.getRelayMethod category

/-- A stored method reads back. -/
@[simp]
theorem getRelayMethod_setRelayMethod (txd : TxpoolTxMeta) (method : RelayMethod) :
    (txd.setRelayMethod method).getRelayMethod = method := by
  cases method <;> rfl

@[simp]
theorem weight_setRelayMethod (txd : TxpoolTxMeta) (method : RelayMethod) :
    (txd.setRelayMethod method).weight = txd.weight := rfl

@[simp]
theorem fee_setRelayMethod (txd : TxpoolTxMeta) (method : RelayMethod) :
    (txd.setRelayMethod method).fee = txd.fee := rfl

/-- An upgrade leaves the later of the two methods. -/
theorem getRelayMethod_upgradeRelayMethod (txd : TxpoolTxMeta) (method : RelayMethod) :
    (txd.upgradeRelayMethod method).2.getRelayMethod.toNat =
      max txd.getRelayMethod.toNat method.toNat := by
  unfold upgradeRelayMethod
  split_ifs with later
  · rw [getRelayMethod_setRelayMethod]
    omega
  · dsimp only
    omega

/-- An upgrade keeps the weight and the fee. -/
theorem upgradeRelayMethod_book (txd : TxpoolTxMeta) (method : RelayMethod) :
    (txd.upgradeRelayMethod method).2.weight = txd.weight ∧
      (txd.upgradeRelayMethod method).2.fee = txd.fee := by
  unfold upgradeRelayMethod
  split_ifs <;> exact ⟨rfl, rfl⟩

end TxpoolTxMeta

end Sumokoin.BlockchainDb
