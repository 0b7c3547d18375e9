import Mathlib

/-! The languages of `mnemonics/language_base.h`. A `Language::Base` has a name, its name in
English, a list of 1626 words and a unique prefix length; `populate_maps` indexes the words in
`word_map` and their first `unique_prefix_length` characters in `trimmed_word_map`, the two hash
tables that `find_seed_language` and the checksums look seed words up in. Both tables hash and
compare words after `tools::utf8canonical` of `common/utf8.h` with `std::towlower`, which follows
the global locale (the wallets set it from the environment): the transform `towlower` on code
points is a parameter of every lookup.

Seeds are their bytes, as `epee::wipeable_string` holds them; the word lists are Lean strings,
copied into a seed as their UTF-8 bytes, and so are the texts of the exceptions. A lookup in a hash
table is a scan of the keys `populate_maps` hashed, in the order it inserts them: for a key
inserted twice the table keeps the first key and the last index. A language's tables are built
at its first lookup here, where the singletons build them when `get_language_list` or
`find_seed_language` first names the language: a word whose canonical form throws throws there.
`populate_maps` also throws on a list of another length, on a word shorter than the prefix and on
a duplicate prefix, where the language does not allow them; those checks are not run here. -/

namespace Sumokoin.Mnemonics

/-- The bytes of a string. -/
def bytesOf (s : String) : List UInt8 := s.toUTF8.data.toList

/-- A continuation byte of UTF-8, `10xxxxxx`. -/
def isContinuation (b : UInt8) : Bool := b &&& 0xc0 == 0x80

/-- `Language::utf8prefix(s, count)`: the first `count` characters of `s`, each a byte and the
continuation bytes after it. -/
def utf8Prefix : List UInt8 → Nat → List UInt8
  | _, 0 => []
  | [], _ + 1 => []
  | b :: rest, count + 1 =>
    b :: rest.takeWhile isContinuation ++ utf8Prefix (rest.dropWhile isContinuation) count

/-- The bytes `utf8canonical` writes for a code point, one to four of them; past `0x10ffff` it
throws. -/
def encodeCodePoint (cp : Nat) : Except (List UInt8) (List UInt8) :=
  if cp ≤ 0x7f then pure [cp.toUInt8]
  else if cp ≤ 0x7ff then pure [(0xc0 ||| cp >>> 6).toUInt8, (0x80 ||| cp &&& 0x3f).toUInt8]
  else if cp ≤ 0xffff then
    pure [(0xe0 ||| cp >>> 12).toUInt8, (0x80 ||| cp >>> 6 &&& 0x3f).toUInt8,
      (0x80 ||| cp &&& 0x3f).toUInt8]
  else if cp ≤ 0x10ffff then
    pure [(0xf0 ||| cp >>> 18).toUInt8, (0x80 ||| cp >>> 12 &&& 0x3f).toUInt8,
      (0x80 ||| cp >>> 6 &&& 0x3f).toUInt8, (0x80 ||| cp &&& 0x3f).toUInt8]
  else throw (bytesOf "Invalid code point UTF-8 transformation")

/-- `tools::utf8canonical(s, t)`: each character of `s` decoded from its lead byte and as many
bytes after it as the lead byte announces, put through `t` and encoded again. A lead byte with too
few bytes after it, or a byte that leads no character, throws; the bytes after a lead byte are not
checked to be continuation bytes. -/
def utf8canonical (t : Nat → Nat) : List UInt8 → Except (List UInt8) (List UInt8)
  | [] => pure []
  | b :: rest =>
    if b &&& 0x80 = 0 then do
      let encoded ← encodeCodePoint (t b.toNat)
      let canonical ← utf8canonical t rest
      pure (encoded ++ canonical)
    else if b &&& 0xe0 = 0xc0 then
      match rest with
      | b1 :: rest => do
        let encoded ← encodeCodePoint (t ((b.toNat &&& 0x1f) <<< 6 ||| b1.toNat &&& 0x3f))
        let canonical ← utf8canonical t rest
        pure (encoded ++ canonical)
      | [] => throw (bytesOf "Invalid UTF-8")
    else if b &&& 0xf0 = 0xe0 then
      match rest with
      | b1 :: b2 :: rest => do
        let encoded ← encodeCodePoint
          (t ((b.toNat &&& 0xf) <<< 12 ||| (b1.toNat &&& 0x3f) <<< 6 ||| b2.toNat &&& 0x3f))
        let canonical ← utf8canonical t rest
        pure (encoded ++ canonical)
      | _ => throw (bytesOf "Invalid UTF-8")
    else if b &&& 0xf8 = 0xf0 then
      match rest with
      | b1 :: b2 :: b3 :: rest => do
        let encoded ← encodeCodePoint
          (t ((b.toNat &&& 0x7) <<< 18 ||| (b1.toNat &&& 0x3f) <<< 12 |||
            (b2.toNat &&& 0x3f) <<< 6 ||| b3.toNat &&& 0x3f))
        let canonical ← utf8canonical t rest
        pure (encoded ++ canonical)
      | _ => throw (bytesOf "Invalid UTF-8")
    else throw (bytesOf "Invalid UTF-8")

/-- `std::towlower` in the `"C"` locale: `A` to `Z` become `a` to `z`. -/
def cTowlower (c : Nat) : Nat := if 65 ≤ c ∧ c ≤ 90 then c + 32 else c

/-- `Language::WordEqual` with `std::towlower` as `towlower`. -/
def wordEqual (towlower : Nat → Nat) (s0 s1 : List UInt8) : Except (List UInt8) Bool := do
  let s0c ← utf8canonical towlower s0
  let s1c ← utf8canonical towlower s1
  pure (s0c == s1c)

/-- The index of the last element of a list that satisfies `p`. -/
def lastIndex {α : Type} (p : α → Bool) : List α → Option Nat
  | [] => none
  | x :: xs =>
    match lastIndex p xs with
    | some i => some (i + 1)
    | none => if p x then some 0 else none

/-- The members of `Language::Base` that seeds are read and written with. -/
structure Language where
  languageName : String
  englishLanguageName : String
  wordList : List String
  uniquePrefixLength : Nat

/-- What `populate_maps` hashes for one word: the key of `trimmed_word_map` as inserted, and the
canonical forms of the word and of that key. -/
structure MapEntry where
  trimmed : List UInt8
  wordKey : List UInt8
  trimmedKey : List UInt8

namespace Language

/-- The key of a word in `trimmed_word_map`: its first `unique_prefix_length` characters when it
has more bytes than that, else the word itself. The checksum tests trim their two words the same
way. -/
def trimmed (language : Language) (w : List UInt8) : List UInt8 :=
  if w.length > language.uniquePrefixLength then utf8Prefix w language.uniquePrefixLength else w

/-- The keys `populate_maps` hashes, word by word in the order of the list. -/
def populateMaps (towlower : Nat → Nat) (language : Language) : Except (List UInt8) (List MapEntry) :=
  language.wordList.mapM fun w => do
    let wordKey ← utf8canonical towlower (bytesOf w)
    let trimmed := language.trimmed (bytesOf w)
    let trimmedKey ← utf8canonical towlower trimmed
    pure ⟨trimmed, wordKey, trimmedKey⟩

/-- `word_map.find(w)`: the index of the last word of the list equal to `w`. -/
def wordMapFind (towlower : Nat → Nat) (language : Language) (w : List UInt8) :
    Except (List UInt8) (Option Nat) := do
  let entries ← language.populateMaps towlower
  let key ← utf8canonical towlower w
  pure (lastIndex (fun e => e.wordKey == key) entries)

/-- `trimmed_word_map.find(w)`: the key, the trimmed form of the first word whose trimmed form is
equal to `w`, and the index of the last such word. -/
def trimmedWordMapFind (towlower : Nat → Nat) (language : Language) (w : List UInt8) :
    Except (List UInt8) (Option (List UInt8 × Nat)) := do
  let entries ← language.populateMaps towlower
  let key ← utf8canonical towlower w
  let isKey := fun (e : MapEntry) => e.trimmedKey == key
  pure <| match entries.find? isKey, lastIndex isKey entries with
    | some e, some i => some (e.trimmed, i)
    | _, _ => none

end Language

end Sumokoin.Mnemonics
