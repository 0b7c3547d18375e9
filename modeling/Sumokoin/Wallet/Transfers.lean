import Mathlib

/-! The transfers of `tools::wallet2` in `wallet/wallet2.cpp` as scanning a chain builds them and
`detach_blockchain` takes them back. `process_new_transaction`, off the pool, first walks the
outputs that the scan found for the wallet: an output whose public key is new becomes a transfer at
the end of `m_transfers`, indexed by its key image in `m_key_images` and by its public key in
`m_pub_keys`; an output whose public key is already there either is ignored or, when the stored
transfer is unspent and smaller, rewrites that transfer in place with the new height, indices,
transaction and amount. It then walks the inputs: an input whose key image is indexed marks its
transfer spent at the height, first taking the input's amount when that is nonzero and differs.
`detach_blockchain(height)` marks unspent what was spent at or above the height, cuts
`m_transfers` at the first transfer at or above it, and removes the key images and public keys of
the transfers cut off.

What the scan computes from the wallet's keys (which outputs are the wallet's, their keys, key
images and amounts) is the input here, a `ScannedTransaction`. Left out: the subaddress,
multisig rescan and callback bookkeeping, the cold key images of a watch-only wallet, the frozen
flag and the uses that `detach_blockchain` also resets, the throws on per-subaddress totals that
consistent scan data never reaches, `m_blockchain`, `m_payments` and `m_confirmed_txs`. Keys, key
images and transaction hashes are of any types with decidable equality. -/

namespace Sumokoin.Wallet

/-- The fields of `transfer_details` that scanning and `detach_blockchain` read and write;
`pubKey` is `get_public_key()`, the key of the output `internalOutputIndex` of `m_tx`. -/
structure TransferDetails (P K H : Type) where
  blockHeight : Nat
  internalOutputIndex : Nat
  globalOutputIndex : Nat
  txid : H
  pubKey : P
  keyImage : K
  keyImageKnown : Bool
  keyImagePartial : Bool
  amount : Nat
  spent : Bool
  spentHeight : Nat
  deriving DecidableEq, Repr

/-- An output the scan found for the wallet: its index `o` in the transaction, and from
`tx_scan_info[o]` its one-time public key, its key image and its amount; `voutAmount` is
`tx.vout[o].amount`, zero for a RingCT output. -/
structure ReceivedOutput (P K : Type) where
  index : Nat
  pubKey : P
  keyImage : K
  amount : Nat
  voutAmount : Nat
  deriving DecidableEq, Repr

/-- A `txin_to_key` input: its amount, zero for a RingCT input, and its key image. -/
structure KeyInput (K : Type) where
  amount : Nat
  kImage : K
  deriving DecidableEq, Repr

/-- A transaction as `process_new_transaction` reads it: the hash, the key inputs, the number of
outputs, the global output indices `o_indices` the daemon sent, and the outputs of the wallet in
the order of `outs`. -/
structure ScannedTransaction (P K H : Type) where
  txid : H
  vin : List (KeyInput K)
  voutCount : Nat
  outputIndices : List Nat
  outs : List (ReceivedOutput P K)
  deriving DecidableEq, Repr

/-- The amount of a received output: that of `tx.vout[o]`, or the decoded one for RingCT. -/
def ReceivedOutput.storedAmount {P K : Type} (out : ReceivedOutput P K) : Nat :=
  if out.voutAmount ≠ 0 then out.voutAmount else out.amount

/-- The members of `wallet2` that the modelled code reads and writes. -/
structure Wallet2 (P K H : Type) where
  watchOnly : Bool
  multisig : Bool
  transfers : List (TransferDetails P K H)
  keyImages : K → Option Nat
  pubKeys : P → Option Nat

namespace Wallet2

variable {P K H : Type} [DecidableEq P] [DecidableEq K]

/-- A wallet that has scanned nothing. -/
def empty (watchOnly multisig : Bool) : Wallet2 P K H := ⟨watchOnly, multisig, [], fun _ => none, fun _ => none⟩

/-- One output of `outs` in `process_new_transaction(txid, tx, o_indices, height, ...)`, off the
pool. -/
def receiveOutput (height : Nat) (tx : ScannedTransaction P K H) (w : Wallet2 P K H)
    (out : ReceivedOutput P K) : Except String (Wallet2 P K H) :=
  if tx.voutCount ≤ out.index then .error "wrong out in transaction"
  else
    match w.pubKeys out.pubKey with
    | none =>
      -- a new output: a new transfer at the end, unspent
      let keyImageKnown := !w.watchOnly && !w.multisig
      let td : TransferDetails P K H :=
        { blockHeight := height
          internalOutputIndex := out.index
          globalOutputIndex := tx.outputIndices.getD out.index 0
          txid := tx.txid
          pubKey := out.pubKey
          keyImage := out.keyImage
          keyImageKnown
          keyImagePartial := w.multisig
          amount := out.storedAmount
          spent := false
          spentHeight := 0 }
      .ok { w with
        transfers := w.transfers ++ [td]
        keyImages := if keyImageKnown then Function.update w.keyImages out.keyImage (some w.transfers.length)
          else w.keyImages
        pubKeys := Function.update w.pubKeys out.pubKey (some w.transfers.length) }
    | some i =>
      if h : i < w.transfers.length then
        let td := w.transfers[i]
        if td.spent || td.amount ≥ out.amount then .ok w
        else
          -- the new larger output replaces the previous smaller one in place
          .ok { w with
            transfers := w.transfers.set i
              { td with
                blockHeight := height
                internalOutputIndex := out.index
                globalOutputIndex := tx.outputIndices.getD out.index 0
                txid := tx.txid
                amount := out.storedAmount } }
      else .error "Unexpected transfer index from public key"

/-- `set_spent(idx, height)`. -/
def setSpent (w : Wallet2 P K H) (idx height : Nat) : Wallet2 P K H :=
  { w with transfers := w.transfers.modify idx fun td => { td with spent := true, spentHeight := height } }

/-- One input of `tx.vin` in `process_new_transaction`, off the pool: a known key image spends its
transfer, whose amount becomes the input's when that is nonzero and differs. -/
def spendInput (height : Nat) (w : Wallet2 P K H) (input : KeyInput K) : Except String (Wallet2 P K H) :=
  match w.keyImages input.kImage with
  | none => .ok w
  | some i =>
    if i < w.transfers.length then
      let w := if input.amount > 0 then
          { w with transfers := w.transfers.modify i fun td =>
              if input.amount ≠ td.amount then { td with amount := input.amount } else td }
        else w
      .ok (w.setSpent i height)
    else .error "Invalid index"

/-- `process_new_transaction` off the pool, as far as the transfers go: the outputs, then the
inputs. -/
def processNewTransaction (height : Nat) (w : Wallet2 P K H) (tx : ScannedTransaction P K H) :
    Except String (Wallet2 P K H) := do
  if !tx.outs.isEmpty && tx.voutCount ≠ tx.outputIndices.length then
    throw "transactions outputs size does not match with daemon response size"
  let w ← tx.outs.foldlM (receiveOutput height tx) w
  tx.vin.foldlM (spendInput height) w

/-- The transactions of blocks `height`, `height + 1`, ... processed in order. -/
def processBlocks (w : Wallet2 P K H) : Nat → List (List (ScannedTransaction P K H)) →
    Except String (Wallet2 P K H)
  | _, [] => .ok w
  | height, b :: bs => do
    let w ← b.foldlM (processNewTransaction height) w
    processBlocks w (height + 1) bs

/-- `set_unspent` of the transfers spent at or above the height. -/
def unspendFrom (height : Nat) (td : TransferDetails P K H) : TransferDetails P K H :=
  if td.spent && td.spentHeight ≥ height then { td with spent := false, spentHeight := 0 } else td

/-- The key images of the detached transfers, each erased from `m_key_images`; one that is not
there throws. A transfer whose key image is unknown or partial is skipped. -/
def eraseKeyImages (keyImages : K → Option Nat) (detached : List (TransferDetails P K H)) :
    Except String (K → Option Nat) :=
  detached.foldlM (fun keyImages td =>
    if !td.keyImageKnown || td.keyImagePartial then .ok keyImages
    else match keyImages td.keyImage with
      | none => .error "key image not found"
      | some _ => .ok (Function.update keyImages td.keyImage none)) keyImages

/-- The public keys of the detached transfers, each erased from `m_pub_keys`; one that is not
there throws. -/
def erasePubKeys (pubKeys : P → Option Nat) (detached : List (TransferDetails P K H)) :
    Except String (P → Option Nat) :=
  detached.foldlM (fun pubKeys td =>
    match pubKeys td.pubKey with
    | none => .error "public key not found"
    | some _ => .ok (Function.update pubKeys td.pubKey none)) pubKeys

/-- `detach_blockchain(height)`: the transfers from the first at or above the height on are cut
off, after those spent at or above it are marked unspent. -/
def detachBlockchain (height : Nat) (w : Wallet2 P K H) : Except String (Wallet2 P K H) := do
  let transfers := w.transfers.map (unspendFrom height)
  let iStart := transfers.findIdx fun td => td.blockHeight ≥ height
  let detached := transfers.drop iStart
  let keyImages ← eraseKeyImages w.keyImages detached
  let pubKeys ← erasePubKeys w.pubKeys detached
  pure { w with transfers := transfers.take iStart, keyImages, pubKeys }

end Wallet2

end Sumokoin.Wallet
