import Sumokoin.Mnemonics.Languages.ChineseSimplified
import Sumokoin.Mnemonics.Languages.English
import Sumokoin.Mnemonics.Languages.Dutch
import Sumokoin.Mnemonics.Languages.French
import Sumokoin.Mnemonics.Languages.Spanish
import Sumokoin.Mnemonics.Languages.German
import Sumokoin.Mnemonics.Languages.Italian
import Sumokoin.Mnemonics.Languages.Portuguese
import Sumokoin.Mnemonics.Languages.Japanese
import Sumokoin.Mnemonics.Languages.Russian
import Sumokoin.Mnemonics.Languages.Esperanto
import Sumokoin.Mnemonics.Languages.Lojban
import Sumokoin.Mnemonics.Languages.EnglishOld

/-! `crypto::ElectrumWords` of `mnemonics/electrum-words.cpp`: a key as seed words and back.
`bytes_to_words` writes each 4-byte chunk, a little-endian number, as three indices into the
word list of the language, chained so that each depends on the one before, and adds two words: a
checksum word, one of the seed's own words picked by the CRC-32 of their trimmed forms, and a
second checksum word of the whole list picked by the CRC-32 of the trimmed seed and checksum.
`words_to_bytes` counts the words against the key length to see which checksum words the seed
carries, finds the language as the first of thirteen in `find_seed_language`'s order that holds
every word (by trimmed form when the seed has only the first checksum word, whose test then also
has to pass), tests the checksum words and decodes the indices back, in `uint32_t`.

Keys, seeds and decoded data are lists of bytes. A return of `false` is `none` and a thrown
`std::runtime_error` an error; the names and bytes that a failed `words_to_bytes` has already
written are not kept, and the words of `bytes_to_words` are what it appends to `words`, which its
callers pass empty. -/

namespace Sumokoin.Mnemonics

/-! ### boost::crc_32_type -/

/-- One bit of the reflected CRC-32 of polynomial `0x04C11DB7`. -/
def crc32Bit (crc : UInt32) : UInt32 :=
  if crc &&& 1 = 0 then crc >>> 1 else (crc >>> 1) ^^^ 0xEDB88320

/-- One byte, low bit first. -/
def crc32Byte (crc : UInt32) (b : UInt8) : UInt32 := Nat.repeat crc32Bit 8 (crc ^^^ b.toUInt32)

/-- `boost::crc_32_type` over the bytes, then `checksum()`: initial value and final xor
`0xFFFFFFFF`. -/
def crc32 (bytes : List UInt8) : UInt32 := bytes.foldl crc32Byte 0xFFFFFFFF ^^^ 0xFFFFFFFF

example : crc32 (bytesOf "123456789") = 0xCBF43926 := by decide +kernel

/-! ### Splitting a seed into words -/

/-- `std::isspace` of a byte of the seed, in the `"C"` locale and in the UTF-8 ones alike: a tab,
a line feed, a vertical tab, a form feed, a carriage return or a space. -/
def isSpace (c : UInt8) : Bool := c == 32 || 9 ≤ c && c ≤ 13

/-- The loop of `wipeable_string::split`: a byte that follows a space opens a field, and every
byte that is not a space goes at the end of the last field. -/
def splitLoop : List (List UInt8) → Bool → List UInt8 → List (List UInt8)
  | fields, _, [] => fields
  | fields, spacePrev, c :: cs =>
    if isSpace c then splitLoop fields true cs
    else
      let fields := if spacePrev then fields ++ [[]] else fields
      splitLoop (fields.dropLast ++ [fields.getLast?.getD [] ++ [c]]) false cs

/-- `wipeable_string::split`: the words of `words`, at any runs of spaces. -/
def split (words : List UInt8) : List (List UInt8) := splitLoop [] true words

/-! ### Checksums -/

/-- The loop that `create_checksum_index` and `create_second_checksum_index` share: the keys in
`trimmed_word_map` of the seed words' prefixes, one after another; a prefix that is not there
throws. -/
def trimmedWords (towlower : Nat → Nat) (language : Language) (seed : List (List UInt8)) :
    Except (List UInt8) (List UInt8) :=
  seed.foldlM (fun trimmedWords w => do
    let word := utf8Prefix w language.uniquePrefixLength
    match ← language.trimmedWordMapFind towlower word with
    | none =>
      throw (bytesOf "Word \"" ++ word ++ bytesOf "\" not found in trimmed word map in " ++
        bytesOf language.englishLanguageName)
    | some (key, _) => pure (trimmedWords ++ key)) []

/-- The CRC-32 of bytes, as a number. -/
def checksumOf (bytes : List UInt8) : Nat := (crc32 bytes).toNat

/-- `create_checksum_index(seed_word_list, language)`: an index into the seed itself. -/
def createChecksumIndex (towlower : Nat → Nat) (seedWordList : List (List UInt8))
    (language : Language) : Except (List UInt8) Nat := do
  let trimmedWords ← trimmedWords towlower language seedWordList
  pure (checksumOf trimmedWords % seedWordList.length)

/-- `create_second_checksum_index(seed_word_list, word_list_length, language)`: an index into the
whole word list. -/
def createSecondChecksumIndex (towlower : Nat → Nat) (seedWordList : List (List UInt8))
    (wordListLength : Nat) (language : Language) : Except (List UInt8) Nat := do
  let trimmedWords ← trimmedWords towlower language seedWordList
  pure (checksumOf trimmedWords % wordListLength)

/-- `checksum_test(seed, language)`: the last word against the word the other words pick, both
trimmed and compared by `WordEqual`. -/
def checksumTest (towlower : Nat → Nat) (seed : List (List UInt8)) (language : Language) :
    Except (List UInt8) Bool :=
  match seed.getLast? with
  | none => pure false
  | some lastWord => do
    let seed := seed.dropLast
    let idx ← createChecksumIndex towlower seed language
    let checksum := seed.getD idx []
    wordEqual towlower (language.trimmed checksum) (language.trimmed lastWord)

/-- `second_checksum_test(seed, word_list, language)`: the last word against the word of the list
that the other words pick, both trimmed and compared byte for byte. -/
def secondChecksumTest (towlower : Nat → Nat) (seed : List (List UInt8)) (wordList : List String)
    (language : Language) : Except (List UInt8) Bool :=
  match seed.getLast? with
  | none => pure false
  | some lastWord => do
    let seed := seed.dropLast
    let idx ← createSecondChecksumIndex towlower seed wordList.length language
    let checksum := bytesOf (wordList.getD idx "")
    pure (language.trimmed checksum == language.trimmed lastWord)

/-! ### Finding the language -/

/-- The languages of `find_seed_language`, in the order it tries them. -/
def languageInstances : List Language :=
  [chineseSimplified, english, dutch, french, spanish, german, italian, portuguese, japanese,
    russian, esperanto, lojban, englishOld]

/-- The inner loop of `find_seed_language` for one language: the indices of the seed words, by
their prefixes in `trimmed_word_map` when the seed has a checksum word and in `word_map`
otherwise; `none` at the first word that is not there. -/
def matchSeed (towlower : Nat → Nat) (hasChecksum : Bool) (language : Language) :
    List (List UInt8) → Except (List UInt8) (Option (List Nat))
  | [] => pure (some [])
  | w :: seed => do
    let found ←
      if hasChecksum then
        Option.map Prod.snd <$>
          language.trimmedWordMapFind towlower (utf8Prefix w language.uniquePrefixLength)
      else language.wordMapFind towlower w
    match found with
    | none => pure none
    | some i => do
      let matchedIndices ← matchSeed towlower hasChecksum language seed
      pure (matchedIndices.map (i :: ·))

/-- The outer loop of `find_seed_language` over the languages left: the first that holds every
word, and with a checksum word also passes `checksum_test`; one that holds every word but fails
the test is the fallback, returned with no indices when no language is found. -/
def findSeedLanguageFrom (towlower : Nat → Nat) (seed : List (List UInt8)) (hasChecksum : Bool)
    (fallback : Option Language) : List Language → Except (List UInt8) (Option (Language × List Nat))
  | [] => pure (fallback.map fun language => (language, []))
  | language :: languages => do
    match ← matchSeed towlower hasChecksum language seed with
    | none => findSeedLanguageFrom towlower seed hasChecksum fallback languages
    | some matchedIndices =>
      if hasChecksum then
        -- a prefix match is confirmed by the checksum before it counts
        if ← checksumTest towlower seed language then pure (some (language, matchedIndices))
        else findSeedLanguageFrom towlower seed hasChecksum (some language) languages
      else pure (some (language, matchedIndices))

/-- `find_seed_language(seed, has_checksum, matched_indices, language)`. -/
def findSeedLanguage (towlower : Nat → Nat) (seed : List (List UInt8)) (hasChecksum : Bool) :
    Except (List UInt8) (Option (Language × List Nat)) :=
  findSeedLanguageFrom towlower seed hasChecksum none languageInstances

/-! ### Keys to words and back -/

/-- The number of a 4-byte chunk, `SWAP32LE` of the `uint32_t` at its address. -/
def le32 (b0 b1 b2 b3 : UInt8) : Nat :=
  b0.toNat + 256 * b1.toNat + 65536 * b2.toNat + 16777216 * b3.toNat

/-- The 4 bytes `dst.append` writes for a chunk's number. -/
def le32Bytes (w : Nat) : List UInt8 :=
  [w.toUInt8, (w / 256).toUInt8, (w / 65536).toUInt8, (w / 16777216).toUInt8]

/-- The three indices of a chunk's number `w[0]` in `bytes_to_words`, each offset by the one
before. -/
def chunkIndices (wordListLength w0 : Nat) : List Nat :=
  let w1 := w0 % wordListLength
  let w2 := (w0 / wordListLength + w1) % wordListLength
  let w3 := (w0 / wordListLength / wordListLength + w2) % wordListLength
  [w1, w2, w3]

/-- The seed words of the chunks of `src`, three for each 4 bytes. -/
def encodeChunks (wordList : List String) : List UInt8 → List (List UInt8)
  | b0 :: b1 :: b2 :: b3 :: rest =>
    (chunkIndices wordList.length (le32 b0 b1 b2 b3)).map (fun i => bytesOf (wordList.getD i "")) ++
      encodeChunks wordList rest
  | _ => []

/-- The number `words_to_bytes` puts back together from three indices, in `uint32_t`. -/
def chunkValue (wordListLength w1 w2 w3 : Nat) : Nat :=
  (w1 + wordListLength * ((wordListLength - w1 + w2) % wordListLength) +
    wordListLength * wordListLength * ((wordListLength - w2 + w3) % wordListLength)) % 2 ^ 32

/-- The decoding loop of `words_to_bytes` over the indices of the seed words, three at a time; a
number that does not give back its first index is the `mumble mumble` failure. -/
def decodeChunks (wordListLength : Nat) : List Nat → Option (List UInt8)
  | w1 :: w2 :: w3 :: rest =>
    let w0 := chunkValue wordListLength w1 w2 w3
    if w0 % wordListLength = w1 then
      (decodeChunks wordListLength rest).map (le32Bytes w0 ++ ·)
    else none
  | _ => some []

/-- `words_to_bytes(words, dst, len, duplicate, language_name)`: the key and the name of the
language found. `duplicate` is not read. -/
def wordsToBytes (towlower : Nat → Nat) (words : List UInt8) (len : Nat) (_duplicate : Bool) :
    Except (List UInt8) (Option (List UInt8 × String)) :=
  let seed := split words
  let expected := len * 8 * 3 / 32
  if len % 4 ≠ 0 then pure none
  else if len ≠ 0 ∧ seed.length ≠ expected ∧ seed.length ≠ expected + 1 ∧
      seed.length ≠ expected + 2 then pure none
  else
    -- with no length given both checksum words are expected
    let hasChecksum := len = 0 ∨ seed.length = expected + 1
    let hasSecondChecksum := len = 0 ∨ seed.length = expected + 2
    do
    match ← findSeedLanguage towlower seed hasChecksum with
    | none => pure none
    | some (language, matchedIndices) =>
      let secondChecksumPassed ←
        if hasSecondChecksum then secondChecksumTest towlower seed language.wordList language
        else pure true
      if !secondChecksumPassed then pure none
      else
        let seed := if hasSecondChecksum then seed.dropLast else seed
        let checksumPassed ←
          if hasChecksum then checksumTest towlower seed language else pure true
        if !checksumPassed then pure none
        else
          let seed := if hasChecksum then seed.dropLast else seed
          pure ((decodeChunks language.wordList.length (matchedIndices.take (seed.length / 3 * 3))).map
            fun dst => (dst, language.languageName))

/-- The languages of `get_language_list()`, in its order. -/
def getLanguageList : List Language :=
  [german, english, spanish, french, italian, dutch, portuguese, russian, japanese,
    chineseSimplified, esperanto, lojban]

/-- The language of `get_language_list()` that `bytes_to_words` writes with: the last whose name
or name in English is `languageName`. -/
def languageNamed (languageName : String) : Option Language :=
  getLanguageList.foldl (fun found l =>
    if languageName == l.languageName || languageName == l.englishLanguageName then some l
    else found) none

/-- `bytes_to_words(src, len, words, language_name)`: the words of the chunks, each followed by
a space, the checksum word, a space and the second checksum word. -/
def bytesToWords (towlower : Nat → Nat) (src : List UInt8) (languageName : String) :
    Except (List UInt8) (Option (List UInt8)) :=
  if src.length % 4 ≠ 0 ∨ src.length = 0 then pure none
  else
    match languageNamed languageName with
    | none => pure none
    | some language => do
      let wordList := language.wordList
      let wordsStore := encodeChunks wordList src
      let words := (wordsStore.map (· ++ [32])).flatten
      let checksum := wordsStore.getD (← createChecksumIndex towlower wordsStore language) []
      let wordsStore := wordsStore ++ [checksum]
      let secondChecksum :=
        bytesOf (wordList.getD (← createSecondChecksumIndex towlower wordsStore wordList.length language) "")
      pure (some (words ++ checksum ++ 32 :: secondChecksum))

end Sumokoin.Mnemonics
