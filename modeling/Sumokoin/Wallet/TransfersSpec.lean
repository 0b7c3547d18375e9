import Sumokoin.Wallet.Transfers

/-! What `detach_blockchain` undoes. Scanning appends transfers and marks them spent, and
`detach_blockchain(h)` cuts `m_transfers` at the first transfer at or above `h`: that gives the
transfers of a rescan of the blocks below `h` only while the transfers stay in the order of their
heights and no later block changes an earlier transfer. A second output with a public key the
wallet holds, with a larger amount, rewrites the transfer in place with the later height: a detach
between the two heights then cuts the transfer off, while a rescan below it keeps the first
output. -/

namespace Sumokoin.Wallet.Wallet2

variable {P K H : Type} [DecidableEq P] [DecidableEq K]

/-! ### Runs of blocks -/

theorem processBlocks_cons (w : Wallet2 P K H) (height : Nat) (b : List (ScannedTransaction P K H))
    (bs : List (List (ScannedTransaction P K H))) :
    processBlocks w height (b :: bs) =
      b.foldlM (processNewTransaction height) w >>= fun w => processBlocks w (height + 1) bs :=
  rfl

/-- Blocks one after another: the run of the first, then the run of the rest from the height
after them. -/
theorem processBlocks_append (w : Wallet2 P K H) (height : Nat)
    (bs cs : List (List (ScannedTransaction P K H))) :
    processBlocks w height (bs ++ cs) =
      processBlocks w height bs >>= fun w => processBlocks w (height + bs.length) cs := by
  induction bs generalizing w height with
  | nil => rfl
  | cons b bs ih =>
    rw [List.cons_append, processBlocks_cons, processBlocks_cons]
    cases b.foldlM (processNewTransaction height) w with
    | error e => rfl
    | ok w' =>
      show processBlocks w' (height + 1) (bs ++ cs) =
        processBlocks w' (height + 1) bs >>= fun w => processBlocks w (height + (bs.length + 1)) cs
      rw [ih, show height + 1 + bs.length = height + (bs.length + 1) by omega]

/-- Blocks without a transaction of the wallet change nothing. -/
theorem processBlocks_replicate_nil (w : Wallet2 P K H) (height k : Nat) :
    processBlocks w height (List.replicate k []) = .ok w := by
  induction k generalizing height with
  | zero => rfl
  | succ k ih => exact ih (height + 1)

/-- A block of one transaction. -/
theorem processBlocks_singleton (w : Wallet2 P K H) (height : Nat) (tx : ScannedTransaction P K H) :
    processBlocks w height [[tx]] = processNewTransaction height w tx := by
  show (processNewTransaction height w tx >>= fun w => pure w) >>= (fun w => .ok w) = _
  cases processNewTransaction height w tx <;> rfl

/-! ### A transfer rewritten in place -/

/-- A transaction with one output of the wallet, of public key `pubKey`, at index `0`. -/
def oneOutputTx (txid : H) (pubKey : P) (keyImage : K) (globalIndex amount : Nat) :
    ScannedTransaction P K H :=
  ⟨txid, [], 1, [globalIndex], [⟨0, pubKey, keyImage, amount, 0⟩]⟩

/-- An output received at `height₁` and an output with the same public key and a larger amount at
`height₁ + 1 + gap`, in blocks of their own: for every `height` between them, detaching at
`height` leaves no transfer, while a rescan of the blocks below `height` keeps the first output. -/
theorem detachBlockchain_cuts_rewritten_transfer (pubKey : P) (keyImage : K) (txid₁ txid₂ : H)
    {amount₁ amount₂ : Nat} (larger : amount₁ < amount₂) {height₁ gap height : Nat}
    (above : height₁ < height) (within : height ≤ height₁ + 1 + gap) :
    let blocks := List.replicate height₁ [] ++ [[oneOutputTx txid₁ pubKey keyImage 0 amount₁]] ++
      List.replicate gap [] ++ [[oneOutputTx txid₂ pubKey keyImage 1 amount₂]]
    ∃ detached rescanned,
      ((empty false false).processBlocks 0 blocks >>= detachBlockchain height) = .ok detached ∧
      (empty false false).processBlocks 0 (blocks.take height) = .ok rescanned ∧
      detached.transfers = [] ∧
      rescanned.transfers = [⟨height₁, 0, 0, txid₁, pubKey, keyImage, true, false, amount₁, false, 0⟩] := by
  intro blocks
  -- the first output is new: a transfer at `height₁`, indexed by its key image and its key
  obtain ⟨received, first, received_transfers, received_keyImages, received_pubKeys⟩ :
      ∃ w : Wallet2 P K H,
        processNewTransaction height₁ (empty false false) (oneOutputTx txid₁ pubKey keyImage 0 amount₁) =
          .ok w ∧
        w.transfers = [⟨height₁, 0, 0, txid₁, pubKey, keyImage, true, false, amount₁, false, 0⟩] ∧
        w.keyImages = Function.update (fun _ => none) keyImage (some 0) ∧
        w.pubKeys = Function.update (fun _ => none) pubKey (some 0) :=
    ⟨⟨false, false, [⟨height₁, 0, 0, txid₁, pubKey, keyImage, true, false, amount₁, false, 0⟩],
      Function.update (fun _ => none) keyImage (some 0), Function.update (fun _ => none) pubKey (some 0)⟩,
      by simp [processNewTransaction, receiveOutput, oneOutputTx, empty, ReceivedOutput.storedAmount],
      rfl, rfl, rfl⟩
  -- the second output has the same key and more: the transfer is rewritten at `height₁ + 1 + gap`
  obtain ⟨rewritten, second, rewritten_transfers, rewritten_keyImages, rewritten_pubKeys⟩ :
      ∃ w : Wallet2 P K H,
        processNewTransaction (height₁ + 1 + gap) received (oneOutputTx txid₂ pubKey keyImage 1 amount₂) =
          .ok w ∧
        w.transfers = [⟨height₁ + 1 + gap, 0, 1, txid₂, pubKey, keyImage, true, false, amount₂, false, 0⟩] ∧
        w.keyImages = received.keyImages ∧ w.pubKeys = received.pubKeys :=
    ⟨{ received with
        transfers := [⟨height₁ + 1 + gap, 0, 1, txid₂, pubKey, keyImage, true, false, amount₂, false, 0⟩] },
      by simp [processNewTransaction, receiveOutput, oneOutputTx, ReceivedOutput.storedAmount,
        received_transfers, received_pubKeys, Nat.not_le.mpr larger], rfl, rfl, rfl⟩
  have all : (empty false false).processBlocks 0 blocks = .ok rewritten := by
    simp only [blocks, processBlocks_append, processBlocks_replicate_nil, processBlocks_singleton,
      List.length_append, List.length_replicate, List.length_singleton, bind, Except.bind, Nat.zero_add,
      first, second]
  -- the detach at `height` cuts the rewritten transfer off
  obtain ⟨detached, detachedAll, detached_transfers⟩ :
      ∃ w, detachBlockchain height rewritten = .ok w ∧ w.transfers = [] :=
    ⟨{ rewritten with
        transfers := []
        keyImages := Function.update rewritten.keyImages keyImage none
        pubKeys := Function.update rewritten.pubKeys pubKey none },
      by simp [detachBlockchain, unspendFrom, eraseKeyImages, erasePubKeys, rewritten_transfers,
        rewritten_keyImages, rewritten_pubKeys, received_keyImages, received_pubKeys, within]; rfl, rfl⟩
  -- the rescan stops between the two outputs
  have below : blocks.take height = List.replicate height₁ [] ++
      [[oneOutputTx txid₁ pubKey keyImage 0 amount₁]] ++ List.replicate (height - (height₁ + 1)) [] := by
    have firstPart : (List.replicate height₁ [] ++ [[oneOutputTx txid₁ pubKey keyImage 0 amount₁]] ++
        List.replicate gap ([] : List (ScannedTransaction P K H))).length = height₁ + 1 + gap := by
      simp only [List.length_append, List.length_replicate, List.length_singleton]
    have upToFirst : height = (List.replicate height₁ ([] : List (ScannedTransaction P K H)) ++
        [[oneOutputTx txid₁ pubKey keyImage 0 amount₁]]).length + (height - (height₁ + 1)) := by
      simp only [List.length_append, List.length_replicate, List.length_singleton]
      omega
    rw [List.take_append_of_le_length (by omega)]
    conv => lhs; rw [upToFirst]
    rw [List.take_length_add_append, List.take_replicate, Nat.min_eq_left (by omega)]
  have rescan : (empty false false).processBlocks 0 (blocks.take height) = .ok received := by
    simp only [below, processBlocks_append, processBlocks_replicate_nil, processBlocks_singleton,
      List.length_append, List.length_replicate, List.length_singleton, bind, Except.bind, Nat.zero_add,
      first]
  rw [all]
  exact ⟨detached, received, detachedAll, rescan, detached_transfers, received_transfers⟩

/-- Amounts `10` and `20` at heights `5` and `8`, detached at `7`. -/
theorem detachBlockchain_cuts_rewritten_transfer_atSeven :
    (10 < 20 ∧ 5 < 7 ∧ 7 ≤ 5 + 1 + 2) ∧
    let blocks : List (List (ScannedTransaction Nat Nat Nat)) :=
      List.replicate 5 [] ++ [[oneOutputTx 1 7 8 0 10]] ++ List.replicate 2 [] ++ [[oneOutputTx 2 7 8 1 20]]
    ∃ detached rescanned,
      ((empty false false).processBlocks 0 blocks >>= detachBlockchain 7) = .ok detached ∧
      (empty false false).processBlocks 0 (blocks.take 7) = .ok rescanned ∧
      detached.transfers = [] ∧
      rescanned.transfers = [⟨5, 0, 0, 1, 7, 8, true, false, 10, false, 0⟩] :=
  ⟨by decide, detachBlockchain_cuts_rewritten_transfer 7 8 1 2 (by decide) (by decide) (by decide)⟩

end Sumokoin.Wallet.Wallet2
