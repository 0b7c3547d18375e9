import Sumokoin.Mnemonics.ElectrumWords
import Sumokoin.ProofKit.ExceptRun

/-! What `words_to_bytes` makes of a seed that `bytes_to_words` wrote. The seed's words are split
back at the spaces, and the language is the first of `find_seed_language`'s order whose word list
holds every word; a seed written in a language whose words all stand in an earlier list as well is
read in that earlier language, and a success names it. The Dutch list shares 25 words with the
English list, and English comes before Dutch: a key whose Dutch seed has only such words is not
restored as Dutch, whatever the locale's `towlower`. -/

namespace Sumokoin.Mnemonics

open Sumokoin.ProofKit ExceptRun

/-! ### Lead bytes -/

/-- The number of characters of UTF-8 bytes: the bytes that are no continuation bytes. -/
def leadCount (s : List UInt8) : Nat := s.countP fun b => !isContinuation b

@[simp] theorem leadCount_append (s₁ s₂ : List UInt8) :
    leadCount (s₁ ++ s₂) = leadCount s₁ + leadCount s₂ :=
  List.countP_append

theorem isContinuation_ascii : ∀ k < 0x80, isContinuation k.toUInt8 = false := by decide

theorem isContinuation_lead2 : ∀ k < 0x20, isContinuation (0xc0 ||| k).toUInt8 = false := by decide

theorem isContinuation_lead3 : ∀ k < 0x10, isContinuation (0xe0 ||| k).toUInt8 = false := by decide

theorem isContinuation_lead4 : ∀ k < 0x8, isContinuation (0xf0 ||| k).toUInt8 = false := by decide

theorem isContinuation_tail : ∀ k < 0x40, isContinuation (0x80 ||| k).toUInt8 = true := by decide

/-- A lead byte of three bytes is none of one or two. -/
theorem lead3_not_lead1_lead2 : ∀ b : UInt8, b &&& 0xf0 = 0xe0 → b &&& 0x80 ≠ 0 ∧ b &&& 0xe0 ≠ 0xc0 := by
  decide +kernel

theorem low6_lt (x : Nat) : x &&& 0x3f < 0x40 := Nat.and_lt_two_pow x (n := 6) (by decide)

theorem shiftRight_lt {cp n k : Nat} (below : cp < 2 ^ n * k) : cp >>> n < k := by
  rw [Nat.shiftRight_eq_div_pow]
  exact Nat.div_lt_of_lt_mul below

theorem leadCount_cons (b : UInt8) (s : List UInt8) :
    leadCount (b :: s) = leadCount s + if isContinuation b then 0 else 1 := by
  cases h : isContinuation b <;> simp [leadCount, h]

theorem leadCount_nil : leadCount [] = 0 := rfl

/-- `utf8canonical` writes each code point as one lead byte and its continuation bytes. -/
theorem leadCount_encodeCodePoint {cp : Nat} {encoded : List UInt8}
    (h : encodeCodePoint cp = .ok encoded) : leadCount encoded = 1 := by
  unfold encodeCodePoint at h
  split_ifs at h with one two three four
  · obtain rfl := pure_eq_ok.mp h
    rw [leadCount_cons, leadCount_nil, isContinuation_ascii cp (by omega)]
    rfl
  · obtain rfl := pure_eq_ok.mp h
    have lead : cp >>> 6 < 0x20 := shiftRight_lt (by omega)
    rw [leadCount_cons, leadCount_cons, leadCount_nil, isContinuation_lead2 _ lead,
      isContinuation_tail _ (low6_lt cp)]
    rfl
  · obtain rfl := pure_eq_ok.mp h
    have lead : cp >>> 12 < 0x10 := shiftRight_lt (by omega)
    rw [leadCount_cons, leadCount_cons, leadCount_cons, leadCount_nil, isContinuation_lead3 _ lead,
      isContinuation_tail _ (low6_lt cp), isContinuation_tail _ (low6_lt (cp >>> 6))]
    rfl
  · obtain rfl := pure_eq_ok.mp h
    have lead : cp >>> 18 < 0x8 := shiftRight_lt (by omega)
    rw [leadCount_cons, leadCount_cons, leadCount_cons, leadCount_cons, leadCount_nil,
      isContinuation_lead4 _ lead, isContinuation_tail _ (low6_lt cp),
      isContinuation_tail _ (low6_lt (cp >>> 6)), isContinuation_tail _ (low6_lt (cp >>> 12))]
    rfl

/-- `utf8canonical` at an ASCII byte: its code point, then the rest. -/
theorem utf8canonical_cons_of_ascii (t : Nat → Nat) {b : UInt8} (rest : List UInt8)
    (ascii : b &&& 0x80 = 0) :
    utf8canonical t (b :: rest) = (do
      let encoded ← encodeCodePoint (t b.toNat)
      let canonical ← utf8canonical t rest
      pure (encoded ++ canonical)) := by
  rw [utf8canonical.eq_def]
  simp only [if_pos ascii]

/-- `utf8canonical` at the lead byte of three bytes: their code point, then the rest. -/
theorem utf8canonical_cons_of_lead3 (t : Nat → Nat) {b0 : UInt8} (b1 b2 : UInt8) (rest : List UInt8)
    (lead : b0 &&& 0xf0 = 0xe0) :
    utf8canonical t (b0 :: b1 :: b2 :: rest) = (do
      let encoded ← encodeCodePoint
        (t ((b0.toNat &&& 0xf) <<< 12 ||| (b1.toNat &&& 0x3f) <<< 6 ||| b2.toNat &&& 0x3f))
      let canonical ← utf8canonical t rest
      pure (encoded ++ canonical)) := by
  obtain ⟨notOne, notTwo⟩ := lead3_not_lead1_lead2 b0 lead
  rw [utf8canonical.eq_def]
  simp only [if_neg notOne, if_neg notTwo, if_pos lead]

/-- The canonical form of ASCII bytes has a character for each byte, whatever `t` does. -/
theorem leadCount_utf8canonical_of_ascii {t : Nat → Nat} {s c : List UInt8}
    (ascii : ∀ b ∈ s, b &&& 0x80 = 0) (h : utf8canonical t s = .ok c) : leadCount c = s.length := by
  induction s generalizing c with
  | nil =>
    obtain rfl := pure_eq_ok.mp h
    rfl
  | cons b rest ih =>
    rw [utf8canonical_cons_of_ascii t rest (ascii b (List.mem_cons_self ..))] at h
    obtain ⟨encoded, first, h⟩ := bind_eq_ok.mp h
    obtain ⟨canonical, later, h⟩ := bind_eq_ok.mp h
    obtain rfl := pure_eq_ok.mp h
    rw [leadCount_append, leadCount_encodeCodePoint first,
      ih (fun b' mem => ascii b' (List.mem_cons_of_mem _ mem)) later, List.length_cons]
    omega

/-- The canonical form of one character of three bytes is one character. -/
theorem leadCount_utf8canonical_of_lead3 {t : Nat → Nat} {b0 b1 b2 : UInt8} {c : List UInt8}
    (lead : b0 &&& 0xf0 = 0xe0) (h : utf8canonical t [b0, b1, b2] = .ok c) : leadCount c = 1 := by
  rw [utf8canonical_cons_of_lead3 t b1 b2 [] lead] at h
  obtain ⟨encoded, first, h⟩ := bind_eq_ok.mp h
  obtain ⟨canonical, later, h⟩ := bind_eq_ok.mp h
  obtain rfl := pure_eq_ok.mp h
  obtain rfl := pure_eq_ok.mp later
  rw [List.append_nil, leadCount_encodeCodePoint first]

/-! ### Lookups -/

theorem lastIndex_eq_none_iff {α : Type} (p : α → Bool) (l : List α) :
    lastIndex p l = none ↔ ∀ x ∈ l, p x = false := by
  induction l with
  | nil => simp [lastIndex]
  | cons x xs ih =>
    simp only [lastIndex, List.forall_mem_cons]
    cases h : lastIndex p xs with
    | some i => simp_all
    | none => cases hx : p x <;> simp_all

theorem lastIndex_isSome_of_mem {α : Type} {p : α → Bool} {l : List α} {x : α} (mem : x ∈ l)
    (holds : p x = true) : (lastIndex p l).isSome := by
  cases h : lastIndex p l with
  | some i => rfl
  | none => simp [(lastIndex_eq_none_iff p l).mp h x mem] at holds

/-- The tables that `populate_maps` built hold, in the order of the list, the canonical form of
each word. -/
theorem populateMaps_wordKeys {t : Nat → Nat} {language : Language} {entries : List MapEntry}
    (built : language.populateMaps t = .ok entries) :
    List.Forall₂ (fun w e => utf8canonical t (bytesOf w) = .ok e.wordKey) language.wordList entries := by
  refine (mapM_eq_ok built).imp fun w e step => ?_
  obtain ⟨wordKey, canonical, step⟩ := bind_eq_ok.mp step
  obtain ⟨trimmedKey, -, step⟩ := bind_eq_ok.mp step
  obtain rfl := pure_eq_ok.mp step
  exact canonical

theorem wordMapFind_isSome_of_mem {t : Nat → Nat} {language : Language} {x : String} {r : Option Nat}
    (mem : x ∈ language.wordList) (found : language.wordMapFind t (bytesOf x) = .ok r) : r.isSome := by
  obtain ⟨entries, built, found⟩ := bind_eq_ok.mp found
  obtain ⟨key, canonical, found⟩ := bind_eq_ok.mp found
  obtain rfl := pure_eq_ok.mp found
  obtain ⟨e, entry, wordKey⟩ := Forall₂.exists_of_mem_left (populateMaps_wordKeys built) mem
  have same : e.wordKey = key := Except.ok.inj (wordKey.symm.trans canonical)
  exact lastIndex_isSome_of_mem entry (by simp [same])

/-- A word whose canonical form has another number of characters than that of every word of the
list is not in `word_map`. -/
theorem wordMapFind_eq_none_of_leadCount {t : Nat → Nat} {language : Language} {w : List UInt8}
    {r : Option Nat}
    (differ : ∀ x ∈ language.wordList, ∀ c k, utf8canonical t (bytesOf x) = .ok c →
      utf8canonical t w = .ok k → leadCount c ≠ leadCount k)
    (found : language.wordMapFind t w = .ok r) : r = none := by
  obtain ⟨entries, built, found⟩ := bind_eq_ok.mp found
  obtain ⟨key, canonical, found⟩ := bind_eq_ok.mp found
  obtain rfl := pure_eq_ok.mp found
  refine (lastIndex_eq_none_iff _ _).mpr fun e entry => ?_
  obtain ⟨x, mem, wordKey⟩ := Forall₂.exists_of_mem_right (populateMaps_wordKeys built) entry
  simp only [beq_eq_false_iff_ne]
  exact fun same => differ x mem _ _ wordKey canonical (congrArg leadCount same)

/-! ### Splitting a seed -/

/-- A word, no space in it, nothing but a space or the end after it. -/
def Separable (w : List UInt8) : Prop := w ≠ [] ∧ ∀ c ∈ w, isSpace c = false

/-- Inside a field the bytes that are not spaces go on at its end. -/
theorem splitLoop_field (fields : List (List UInt8)) (field cs rest : List UInt8)
    (noSpace : ∀ c ∈ cs, isSpace c = false) :
    splitLoop (fields ++ [field]) false (cs ++ rest) =
      splitLoop (fields ++ [field ++ cs]) false rest := by
  induction cs generalizing field with
  | nil => simp
  | cons c cs ih =>
    have cNoSpace : isSpace c = false := noSpace c (List.mem_cons_self ..)
    rw [List.cons_append, splitLoop, if_neg (by simp [cNoSpace])]
    simp only [Bool.false_eq_true, if_false, List.dropLast_concat, List.getLast?_concat,
      Option.getD_some]
    rw [ih (field ++ [c]) fun c' mem => noSpace c' (List.mem_cons_of_mem _ mem), List.append_assoc,
      List.singleton_append]

/-- A word after a space becomes a field of its own. -/
theorem splitLoop_word (fields : List (List UInt8)) {w : List UInt8} (separable : Separable w)
    (rest : List UInt8) :
    splitLoop fields true (w ++ rest) = splitLoop (fields ++ [w]) false rest := by
  obtain ⟨nonempty, noSpace⟩ := separable
  obtain ⟨c, cs, rfl⟩ := List.exists_cons_of_ne_nil nonempty
  have cNoSpace : isSpace c = false := noSpace c (List.mem_cons_self ..)
  rw [List.cons_append, splitLoop, if_neg (by simp [cNoSpace])]
  simp only [if_true, List.dropLast_concat, List.getLast?_concat, Option.getD_some,
    List.nil_append]
  rw [splitLoop_field fields [c] cs rest fun c' mem => noSpace c' (List.mem_cons_of_mem _ mem),
    List.singleton_append]

theorem splitLoop_space (fields : List (List UInt8)) (rest : List UInt8) :
    splitLoop fields false (32 :: rest) = splitLoop fields true rest := by
  rw [splitLoop, if_pos (by decide)]

/-- The words of the loop of `bytes_to_words`, each followed by a space, come back one by one. -/
theorem splitLoop_join (fields : List (List UInt8)) {ws : List (List UInt8)}
    (separable : ∀ w ∈ ws, Separable w) (rest : List UInt8) :
    splitLoop fields true ((ws.map (· ++ [32])).flatten ++ rest) =
      splitLoop (fields ++ ws) true rest := by
  induction ws generalizing fields with
  | nil => simp
  | cons w ws ih =>
    rw [List.map_cons, List.flatten_cons, List.append_assoc, List.append_assoc,
      splitLoop_word fields (separable w (List.mem_cons_self ..)), List.singleton_append,
      splitLoop_space, ih (fields ++ [w]) fun w' mem => separable w' (List.mem_cons_of_mem _ mem),
      List.append_assoc, List.singleton_append]

/-- The seed `bytes_to_words` writes splits back into its words and its two checksum words. -/
theorem split_seed {ws : List (List UInt8)} {checksum secondChecksum : List UInt8}
    (separable : ∀ w ∈ ws ++ [checksum, secondChecksum], Separable w) :
    split ((ws.map (· ++ [32])).flatten ++ checksum ++ 32 :: secondChecksum) =
      ws ++ [checksum, secondChecksum] := by
  rw [split, List.append_assoc, splitLoop_join [] fun w mem => separable w (by simp [mem]),
    splitLoop_word _ (separable checksum (by simp)), splitLoop_space,
    ← List.append_nil secondChecksum, splitLoop_word _ (separable secondChecksum (by simp))]
  simp [splitLoop]

/-! ### Keys to words -/

theorem length_encodeChunks (wordList : List String) (src : List UInt8) :
    (encodeChunks wordList src).length = 3 * (src.length / 4) := by
  fun_induction encodeChunks wordList src with
  | case1 b0 b1 b2 b3 rest ih =>
    simp only [List.length_append, List.length_map, chunkIndices, List.length_cons,
      List.length_nil, ih]
    omega
  | case2 src noChunk =>
    match src, noChunk with
    | [], _ | [_], _ | [_, _], _ | [_, _, _], _ => simp
    | _ :: _ :: _ :: _ :: _, noChunk => exact absurd rfl (noChunk _ _ _ _ _)

theorem mem_encodeChunks {wordList : List String} (nonempty : 0 < wordList.length)
    {src : List UInt8} {w : List UInt8} (mem : w ∈ encodeChunks wordList src) :
    w ∈ wordList.map bytesOf := by
  fun_induction encodeChunks wordList src with
  | case1 b0 b1 b2 b3 rest ih =>
    rcases List.mem_append.mp mem with chunk | later
    · obtain ⟨i, below, rfl⟩ : ∃ i ∈ chunkIndices wordList.length (le32 b0 b1 b2 b3),
          bytesOf (wordList.getD i "") = w := List.mem_map.mp chunk
      have inRange : i < wordList.length := by
        simp only [chunkIndices, List.mem_cons, List.not_mem_nil, or_false] at below
        rcases below with rfl | rfl | rfl <;> exact Nat.mod_lt _ nonempty
      rw [List.getD_eq_getElem _ _ inRange]
      exact List.mem_map_of_mem (List.getElem_mem inRange)
    · exact ih later
  | case2 => simp at mem

theorem createChecksumIndex_lt {t : Nat → Nat} {seed : List (List UInt8)} {language : Language}
    {idx : Nat} (created : createChecksumIndex t seed language = .ok idx)
    (nonempty : 0 < seed.length) : idx < seed.length := by
  obtain ⟨trimmed, -, created⟩ := bind_eq_ok.mp created
  obtain rfl := pure_eq_ok.mp created
  exact Nat.mod_lt _ nonempty

theorem createSecondChecksumIndex_lt {t : Nat → Nat} {seed : List (List UInt8)} {n : Nat}
    {language : Language} {idx : Nat}
    (created : createSecondChecksumIndex t seed n language = .ok idx) (nonempty : 0 < n) :
    idx < n := by
  obtain ⟨trimmed, -, created⟩ := bind_eq_ok.mp created
  obtain rfl := pure_eq_ok.mp created
  exact Nat.mod_lt _ nonempty

/-- What `bytes_to_words` writes when it succeeds: the words of the chunks in the language named,
each followed by a space, one of them again, a space and a word of the list. -/
theorem bytesToWords_eq_some {t : Nat → Nat} {src : List UInt8} {languageName : String}
    {words : List UInt8} (produced : bytesToWords t src languageName = .ok (some words)) :
    ∃ language checksum secondChecksum,
      languageNamed languageName = some language ∧ src.length % 4 = 0 ∧ 0 < src.length ∧
      (0 < language.wordList.length → checksum ∈ encodeChunks language.wordList src ∧
        secondChecksum ∈ language.wordList.map bytesOf) ∧
      words = ((encodeChunks language.wordList src).map (· ++ [32])).flatten ++ checksum ++
        32 :: secondChecksum := by
  unfold bytesToWords at produced
  split_ifs at produced with refused
  · simp [pure, Except.pure] at produced
  · obtain ⟨whole, nonempty⟩ : src.length % 4 = 0 ∧ 0 < src.length := by omega
    split at produced
    · simp [pure, Except.pure] at produced
    · rename_i language named
      obtain ⟨idx, first, produced⟩ := bind_eq_ok.mp produced
      obtain ⟨idx₂, second, produced⟩ := bind_eq_ok.mp produced
      obtain rfl := (Option.some.inj (pure_eq_ok.mp produced)).symm
      refine ⟨language, _, _, named, whole, nonempty, fun listed => ⟨?_, ?_⟩, rfl⟩
      · have chunks : 0 < (encodeChunks language.wordList src).length := by
          rw [length_encodeChunks]
          omega
        rw [List.getD_eq_getElem _ _ (createChecksumIndex_lt first chunks)]
        exact List.getElem_mem _
      · rw [List.getD_eq_getElem _ _ (createSecondChecksumIndex_lt second listed)]
        exact List.mem_map_of_mem (List.getElem_mem _)

/-! ### Words to keys -/

/-- Without a checksum word, the languages are tried in turn: one that misses a word passes the
search on, and the first that holds every word is the one found. -/
theorem findSeedLanguageFrom_cons_eq_ok {t : Nat → Nat} {seed : List (List UInt8)}
    {fallback : Option Language} {language : Language} {languages : List Language}
    {r : Option (Language × List Nat)}
    (found : findSeedLanguageFrom t seed false fallback (language :: languages) = .ok r) :
    (matchSeed t false language seed = .ok none ∧
        findSeedLanguageFrom t seed false fallback languages = .ok r) ∨
      ∃ matchedIndices, matchSeed t false language seed = .ok (some matchedIndices) ∧
        r = some (language, matchedIndices) := by
  rw [findSeedLanguageFrom] at found
  obtain ⟨m, matched, found⟩ := bind_eq_ok.mp found
  cases m with
  | none => exact .inl ⟨matched, found⟩
  | some matchedIndices =>
    exact .inr ⟨matchedIndices, matched, (pure_eq_ok.mp found).symm⟩

theorem matchSeed_isSome {t : Nat → Nat} {language : Language} {seed : List (List UInt8)}
    {r : Option (List Nat)} (held : ∀ w ∈ seed, w ∈ language.wordList.map bytesOf)
    (matched : matchSeed t false language seed = .ok r) : r.isSome := by
  induction seed generalizing r with
  | nil =>
    obtain rfl := pure_eq_ok.mp matched
    rfl
  | cons w seed ih =>
    rw [matchSeed] at matched
    obtain ⟨found, lookup, matched⟩ := bind_eq_ok.mp matched
    obtain ⟨x, mem, rfl⟩ := List.mem_map.mp (held w (List.mem_cons_self ..))
    obtain ⟨i, rfl⟩ := Option.isSome_iff_exists.mp (wordMapFind_isSome_of_mem mem lookup)
    obtain ⟨rest, later, matched⟩ := bind_eq_ok.mp matched
    obtain rfl := pure_eq_ok.mp matched
    simpa using ih (fun w' mem' => held w' (List.mem_cons_of_mem _ mem')) later

theorem matchSeed_cons_ne_some {t : Nat → Nat} {language : Language} {w : List UInt8}
    {seed : List (List UInt8)} {matchedIndices : List Nat}
    (missing : ∀ r, language.wordMapFind t w = .ok r → r = none) :
    matchSeed t false language (w :: seed) ≠ .ok (some matchedIndices) := by
  intro matched
  rw [matchSeed] at matched
  obtain ⟨found, lookup, matched⟩ := bind_eq_ok.mp matched
  obtain rfl := missing found lookup
  simp [pure, Except.pure] at matched

/-- A success of `words_to_bytes` names the language `find_seed_language` found. -/
theorem wordsToBytes_eq_some {t : Nat → Nat} {words : List UInt8} {len : Nat} {duplicate : Bool}
    {dst : List UInt8} {name : String}
    (restored : wordsToBytes t words len duplicate = .ok (some (dst, name))) :
    ∃ language matchedIndices,
      findSeedLanguage t (split words)
          (decide (len = 0 ∨ (split words).length = len * 8 * 3 / 32 + 1)) =
        .ok (some (language, matchedIndices)) ∧
      name = language.languageName := by
  unfold wordsToBytes at restored
  dsimp only at restored
  split at restored
  · simp [pure, Except.pure] at restored
  split at restored
  · simp [pure, Except.pure] at restored
  obtain ⟨found, search, restored⟩ := bind_eq_ok.mp restored
  rcases found with _ | ⟨language, matchedIndices⟩
  · simp [pure, Except.pure] at restored
  refine ⟨language, matchedIndices, search, ?_⟩
  -- past the language, every way out is a failure or names it
  simp only [bind, Except.bind, pure, Except.pure] at restored
  repeat' split at restored
  all_goals first
    | cases restored
    | obtain ⟨_, _, pair⟩ := Option.map_eq_some_iff.mp (Except.ok.inj restored)
      exact (Prod.mk.inj pair).2.symm

/-! ### A Dutch seed read as English -/

/-- The Dutch words: of two bytes at least, each an ASCII character that is no space. -/
theorem dutch_words_ascii :
    dutch.wordList.all (fun w => 2 ≤ (bytesOf w).length &&
      (bytesOf w).all fun b => b &&& 0x80 == 0 && !isSpace b) = true := by
  decide +kernel

/-- The Chinese words: one character of three bytes each. -/
theorem chineseSimplified_words_lead3 :
    chineseSimplified.wordList.all (fun w =>
      match bytesOf w with
      | [b0, _, _] => b0 &&& 0xf0 == 0xe0
      | _ => false) = true := by
  decide +kernel

theorem dutch_wordList_length : dutch.wordList.length = 1626 := by decide +kernel

theorem languageNamed_dutch : languageNamed dutch.languageName = some dutch := by
  simp [languageNamed, getLanguageList, german, english, spanish, french, italian, dutch,
    portuguese, russian, japanese, chineseSimplified, esperanto, lojban]

theorem dutch_word {w : List UInt8} (mem : w ∈ dutch.wordList.map bytesOf) :
    2 ≤ w.length ∧ ∀ b ∈ w, b &&& 0x80 = 0 ∧ isSpace b = false := by
  obtain ⟨x, inList, rfl⟩ := List.mem_map.mp mem
  have checked := List.all_eq_true.mp dutch_words_ascii x inList
  simp only [Bool.and_eq_true, decide_eq_true_eq, List.all_eq_true, beq_iff_eq,
    Bool.not_eq_true'] at checked
  exact checked

theorem chineseSimplified_word {x : String} (mem : x ∈ chineseSimplified.wordList) :
    ∃ b0 b1 b2, bytesOf x = [b0, b1, b2] ∧ b0 &&& 0xf0 = 0xe0 := by
  have checked := List.all_eq_true.mp chineseSimplified_words_lead3 x mem
  split at checked
  · rename_i b0 b1 b2 bytes
    exact ⟨b0, b1, b2, bytes, by simpa using checked⟩
  · cases checked

/-- No Chinese word has the canonical form of a Dutch word: one character against two or more. -/
theorem chineseSimplified_wordMapFind_dutch {t : Nat → Nat} {w : List UInt8}
    (mem : w ∈ dutch.wordList.map bytesOf) :
    ∀ r, chineseSimplified.wordMapFind t w = .ok r → r = none := by
  obtain ⟨long, ascii⟩ := dutch_word mem
  refine fun r => wordMapFind_eq_none_of_leadCount fun x inList c k chinese dutchKey => ?_
  obtain ⟨b0, b1, b2, bytes, lead⟩ := chineseSimplified_word inList
  rw [bytes] at chinese
  rw [leadCount_utf8canonical_of_lead3 lead chinese,
    leadCount_utf8canonical_of_ascii (fun b inW => (ascii b inW).1) dutchKey]
  omega

/-- A key whose Dutch seed has only words of the English list as well is not restored as Dutch:
`find_seed_language` tries English before Dutch and finds every word there, so no success of
`words_to_bytes` on the full seed names Dutch, for every transform `towlower`. -/
theorem wordsToBytes_dutch_seed_of_english_words (towlower : Nat → Nat) (src : List UInt8)
    (words : List UInt8) (produced : bytesToWords towlower src dutch.languageName = .ok (some words))
    (inEnglish : ∀ w ∈ split words, w ∈ english.wordList.map bytesOf) (dst : List UInt8) :
    wordsToBytes towlower words src.length false ≠ .ok (some (dst, dutch.languageName)) := by
  intro restored
  obtain ⟨language, checksum, secondChecksum, named, whole, nonempty, listed, rfl⟩ :=
    bytesToWords_eq_some produced
  obtain rfl : language = dutch := Option.some.inj (named.symm.trans languageNamed_dutch)
  obtain ⟨checksumMem, secondMem⟩ := listed (by rw [dutch_wordList_length]; decide)
  -- every word of the seed is a Dutch word, so it splits back, and the first is no Chinese word
  have dutchSeed : ∀ w ∈ encodeChunks dutch.wordList src ++ [checksum, secondChecksum],
      w ∈ dutch.wordList.map bytesOf := by
    intro w mem
    simp only [List.mem_append, List.mem_cons, List.not_mem_nil, or_false] at mem
    rcases mem with chunk | rfl | rfl
    · exact mem_encodeChunks (by rw [dutch_wordList_length]; decide) chunk
    · exact mem_encodeChunks (by rw [dutch_wordList_length]; decide) checksumMem
    · exact secondMem
  have seed := split_seed fun w mem =>
    have word := dutch_word (dutchSeed w mem)
    ⟨fun empty => by simp [empty] at word, fun b inW => (word.2 b inW).2⟩
  -- the full seed has both checksum words: the words are counted as `expected + 2`
  have noChecksum : decide (src.length = 0 ∨ (split (((encodeChunks dutch.wordList src).map
      (· ++ [32])).flatten ++ checksum ++ 32 :: secondChecksum)).length =
        src.length * 8 * 3 / 32 + 1) = false := by
    rw [seed, List.length_append, length_encodeChunks]
    simp only [List.length_cons, List.length_nil, decide_eq_false_iff_not]
    omega
  obtain ⟨first, rest, firstWord⟩ : ∃ first rest,
      encodeChunks dutch.wordList src ++ [checksum, secondChecksum] = first :: rest := by
    cases encodeChunks dutch.wordList src with
    | nil => exact ⟨checksum, [secondChecksum], rfl⟩
    | cons w ws => exact ⟨w, ws ++ [checksum, secondChecksum], rfl⟩
  have held : ∀ w ∈ first :: rest, w ∈ english.wordList.map bytesOf := fun w mem =>
    inEnglish w (by rw [seed, firstWord]; exact mem)
  -- `find_seed_language` passes Chinese and stops at English
  obtain ⟨language, indices, found, named⟩ := wordsToBytes_eq_some restored
  rw [noChecksum, seed, firstWord, findSeedLanguage, languageInstances] at found
  rcases findSeedLanguageFrom_cons_eq_ok found with ⟨-, found⟩ | ⟨m, chinese, -⟩
  · rcases findSeedLanguageFrom_cons_eq_ok found with ⟨missing, -⟩ | ⟨m, -, same⟩
    · exact absurd (matchSeed_isSome held missing) (by simp)
    · obtain rfl := (Prod.mk.inj (Option.some.inj same)).1
      exact absurd named (by decide)
  · exact matchSeed_cons_ne_some
      (chineseSimplified_wordMapFind_dutch (dutchSeed first (by simp [firstWord]))) chinese

/-- The key `f9 fd 3d 10` in Dutch under the `"C"` locale: its five words are English words too,
and `words_to_bytes` does not give it back as Dutch. -/
theorem wordsToBytes_dutch_seed_of_english_words_f9fd3d10 :
    bytesToWords cTowlower [0xf9, 0xfd, 0x3d, 0x10] dutch.languageName =
        .ok (some (bytesOf "atrium budget diode budget wolf")) ∧
      (∀ w ∈ split (bytesOf "atrium budget diode budget wolf"), w ∈ english.wordList.map bytesOf) ∧
      ∀ dst, wordsToBytes cTowlower (bytesOf "atrium budget diode budget wolf") 4 false ≠
        .ok (some (dst, dutch.languageName)) :=
  have produced : bytesToWords cTowlower [0xf9, 0xfd, 0x3d, 0x10] dutch.languageName =
      .ok (some (bytesOf "atrium budget diode budget wolf")) := by decide +kernel
  have inEnglish : ∀ w ∈ split (bytesOf "atrium budget diode budget wolf"),
      w ∈ english.wordList.map bytesOf := by
    decide +kernel
  ⟨produced, inEnglish,
    wordsToBytes_dutch_seed_of_english_words cTowlower [0xf9, 0xfd, 0x3d, 0x10]
      (bytesOf "atrium budget diode budget wolf") produced inEnglish⟩

end Sumokoin.Mnemonics
