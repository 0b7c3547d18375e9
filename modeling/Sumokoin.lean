import Sumokoin.Config
import Sumokoin.ProofKit.UInt64Order
import Sumokoin.ProofKit.SortedMap
import Sumokoin.Chain.Db
import Sumokoin.Epee.Median
import Sumokoin.Difficulty.NextDifficulty
import Sumokoin.Core.Difficulty
import Sumokoin.Core.DifficultyCache
import Sumokoin.Core.AltChain
import Sumokoin.Core.Timestamp
import Sumokoin.Core.Checkpoints
import Sumokoin.Epee.RollingMedian
import Sumokoin.Epee.RollingMedianHeap
import Sumokoin.Epee.RollingMedianInsert
import Sumokoin.Epee.RollingMedianStore
import Sumokoin.Epee.RollingMedianSpec
import Sumokoin.Basic.HardFork
import Sumokoin.Basic.HardForkWindow
import Sumokoin.Basic.HardForkReplay
import Sumokoin.Basic.HardForkSchedule
import Sumokoin.BlockchainDb.Lmdb
import Sumokoin.BlockchainDb.PopBlock
import Sumokoin.Core.LongTermWeight
import Sumokoin.Core.LongTermWeightCache
import Sumokoin.Common.Base58
import Sumokoin.Common.Varint
import Sumokoin.Common.Address
import Sumokoin.Difficulty.CheckHash
import Sumokoin.Basic.BlockReward
import Sumokoin.Basic.BlockRewardSpec
import Sumokoin.Difficulty.NextDifficulty64
import Sumokoin.BlockchainDb.TxpoolMeta
import Sumokoin.Core.FillBlockTemplate
import Sumokoin.Core.FillBlockTemplateSpec
import Sumokoin.Core.MinerTx
import Sumokoin.Core.BlockTemplate
import Sumokoin.Core.BlockTemplateSpec
import Sumokoin.Common.Pruning
import Sumokoin.ProofKit.Stripes
import Sumokoin.Common.PruningSpec
import Sumokoin.Common.ApplyPermutation
import Sumokoin.ProofKit.Cycles
import Sumokoin.Common.ApplyPermutationSpec
import Sumokoin.Basic.OutputOffsets
import Sumokoin.Wallet.Ringdb
import Sumokoin.Wallet.RingdbSpec
import Sumokoin.Basic.Amount
import Sumokoin.Basic.AmountSpec
import Sumokoin.Serialization.BinaryArchive
import Sumokoin.Basic.TxExtra
import Sumokoin.Serialization.BinaryArchiveSpec
import Sumokoin.Basic.TxExtraSpec
import Sumokoin.Basic.TxExtraSortSpec
import Sumokoin.CryptonoteProtocol.BlockQueue
import Sumokoin.CryptonoteProtocol.BlockQueueSpec
import Sumokoin.Epee.NetUtilsBase
import Sumokoin.P2p.NetPeerlist
import Sumokoin.P2p.NetPeerlistSpec
import Sumokoin.Basic.DecomposeAmount
import Sumokoin.Core.DynamicFee
import Sumokoin.Core.DynamicFeeSpec
import Sumokoin.Wallet.Transfers
import Sumokoin.Wallet.TransfersSpec
import Sumokoin.Mnemonics.ElectrumWords
import Sumokoin.Mnemonics.ElectrumWordsSpec
import Sumokoin.Core.ChainSupplement
import Sumokoin.Core.ChainSupplementSpec
import Sumokoin.Crypto.TreeHash
import Sumokoin.Crypto.TreeHashSpec
import Sumokoin.CryptonoteProtocol.ChainEntry
import Sumokoin.CryptonoteProtocol.ChainEntrySpec
import Sumokoin.Epee.Levin
import Sumokoin.Epee.LevinRoundTrip
import Sumokoin.Common.Updates
