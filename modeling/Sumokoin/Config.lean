import Mathlib

/-! The constants of `cryptonote_config.h`, `difficulty_config.h` and `hardforks/hardforks.h` that
the modelled parts of the daemon read, under their macro names in camel case, and the network
types of `cryptonote::network_type`. -/

namespace Sumokoin

/-- `cryptonote::network_type`. -/
inductive NetworkType where
  | mainnet
  | testnet
  | stagenet
  | fakechain
  | undefined
  deriving DecidableEq, Repr

/-- `DIFFICULTY_TARGET`, in seconds. -/
def difficultyTarget : Nat := 240

/-- `DIFFICULTY_WINDOW`. -/
def difficultyWindow : Nat := 720

/-- `DIFFICULTY_LAG`. -/
def difficultyLag : Nat := 15

/-- `DIFFICULTY_CUT`. -/
def difficultyCut : Nat := 60

/-- `DIFFICULTY_BLOCKS_COUNT`, the window of version 1. -/
def difficultyBlocksCount : Nat := difficultyWindow + difficultyLag

/-- `DIFFICULTY_WINDOW_V2`. -/
def difficultyWindowV2 : Nat := 17

/-- `DIFFICULTY_CUT_V2`. -/
def difficultyCutV2 : Nat := 6

/-- `DIFFICULTY_BLOCKS_COUNT_V2`, the window of versions 2 to 4. -/
def difficultyBlocksCountV2 : Nat := difficultyWindowV2 + difficultyCutV2 * 2

/-- `DIFFICULTY_WINDOW_V3`. -/
def difficultyWindowV3 : Nat := 60

/-- `DIFFICULTY_BLOCKS_COUNT_V3`, the window from version 5 on. -/
def difficultyBlocksCountV3 : Nat := difficultyWindowV3 + 1

/-- `MAX_AVERAGE_TIMESPAN` of `difficulty.cpp`. -/
def maxAverageTimespan : Nat := difficultyTarget * 6

/-- `MIN_AVERAGE_TIMESPAN` of `difficulty.cpp`. -/
def minAverageTimespan : Nat := difficultyTarget / 24

/-- `CRYPTONOTE_BLOCK_FUTURE_TIME_LIMIT`. -/
def cryptonoteBlockFutureTimeLimit : Nat := 60 * 60 * 2

/-- `BLOCKCHAIN_TIMESTAMP_CHECK_WINDOW`. -/
def blockchainTimestampCheckWindow : Nat := 60

/-- `CRYPTONOTE_BLOCK_FUTURE_TIME_LIMIT_V2`. -/
def cryptonoteBlockFutureTimeLimitV2 : Nat := 60 * 24

/-- `BLOCKCHAIN_TIMESTAMP_CHECK_WINDOW_V2`. -/
def blockchainTimestampCheckWindowV2 : Nat := 12

/-- `CRYPTONOTE_BLOCK_FUTURE_TIME_LIMIT_V3`. -/
def cryptonoteBlockFutureTimeLimitV3 : Nat := 60 * 5

/-- `BLOCKCHAIN_TIMESTAMP_CHECK_WINDOW_V3`. -/
def blockchainTimestampCheckWindowV3 : Nat := blockchainTimestampCheckWindowV2

/-- `MAINNET_HARDFORK_V3_HEIGHT`. -/
def mainnetHardforkV3Height : Nat := 116520

/-- `MAINNET_HARDFORK_V6_HEIGHT`, which is `config::EXCHANGE_FUND_RELEASE_HEIGHT`. -/
def mainnetHardforkV6Height : Nat := 199800

/-- `MAINNET_HARDFORK_V7_HEIGHT`. -/
def mainnetHardforkV7Height : Nat := 274000

/-- `MAINNET_HARDFORK_V8_HEIGHT`. -/
def mainnetHardforkV8Height : Nat := mainnetHardforkV7Height + 360

/-- `CRYPTONOTE_REWARD_BLOCKS_WINDOW`. -/
def cryptonoteRewardBlocksWindow : Nat := 60

/-- `CRYPTONOTE_BLOCK_GRANTED_FULL_REWARD_ZONE`. -/
def cryptonoteBlockGrantedFullRewardZone : Nat := 240 * 1024

/-- `CRYPTONOTE_LONG_TERM_BLOCK_WEIGHT_WINDOW_SIZE`. -/
def cryptonoteLongTermBlockWeightWindowSize : Nat := 100000

/-- `CRYPTONOTE_SHORT_TERM_BLOCK_WEIGHT_SURGE_FACTOR`. -/
def cryptonoteShortTermBlockWeightSurgeFactor : Nat := 50

/-- `HF_VERSION_LONG_TERM_BLOCK_WEIGHT`. -/
def hfVersionLongTermBlockWeight : Nat := 8

/-- `MONEY_SUPPLY`. -/
def moneySupply : Nat := 88888888000000000

/-- `EMISSION_SPEED_FACTOR`. -/
def emissionSpeedFactor : Nat := 19

/-- `FINAL_SUBSIDY`. -/
def finalSubsidy : Nat := 4000000000

/-- `GENESIS_BLOCK_REWARD`. -/
def genesisBlockReward : Nat := 8800000000000000

/-- `CRYPTONOTE_COINBASE_BLOB_RESERVED_SIZE`. -/
def cryptonoteCoinbaseBlobReservedSize : Nat := 600

/-- `COIN_EMISSION_HEIGHT_INTERVAL`: six months of 30.4375 days in blocks of `DIFFICULTY_TARGET`
seconds, `6 * 2629800 / 240`, which the `double` of the source computes exactly. -/
def coinEmissionHeightInterval : Nat := 65745

/-- `PEAK_COIN_EMISSION_HEIGHT`: four years of blocks, `31557600 / 240 * 4`, exact in `double`. -/
def peakCoinEmissionHeight : Nat := 525960

/-- `BLOCK_SIZE_GROWTH_FAVORED_ZONE`. -/
def blockSizeGrowthFavoredZone : Nat := cryptonoteBlockGrantedFullRewardZone * 4

/-- `HF_VERSION_EFFECTIVE_SHORT_TERM_MEDIAN_IN_PENALTY`. -/
def hfVersionEffectiveShortTermMedianInPenalty : Nat := 9

/-- `CRYPTONOTE_MINED_MONEY_UNLOCK_WINDOW`. -/
def cryptonoteMinedMoneyUnlockWindow : Nat := 60

/-- `TX_EXTRA_NONCE_MAX_COUNT` of `tx_extra.h`. -/
def txExtraNonceMaxCount : Nat := 255

/-- `config::EXCHANGE_FUND_AMOUNT`, which is `config::EXCHANGE_BURNED_AMOUNT`. -/
def exchangeFundAmount : Nat := 1044138500000000

/-- `config::EXCHANGE_FUND_RELEASE_HEIGHT`. -/
def exchangeFundReleaseHeight : Nat := mainnetHardforkV6Height

/-- `CRYPTONOTE_MAX_BLOCK_NUMBER`. -/
def cryptonoteMaxBlockNumber : Nat := 500000000

/-- `CRYPTONOTE_PRUNING_STRIPE_SIZE`. -/
def cryptonotePruningStripeSize : Nat := 4096

/-- `CRYPTONOTE_PRUNING_LOG_STRIPES`. -/
def cryptonotePruningLogStripes : Nat := 3

/-- `CRYPTONOTE_PRUNING_TIP_BLOCKS`. -/
def cryptonotePruningTipBlocks : Nat := 5500

/-- The width of `uint64_t`: values of that type are taken modulo this. -/
def uint64Modulus : Nat := 2 ^ 64

end Sumokoin
