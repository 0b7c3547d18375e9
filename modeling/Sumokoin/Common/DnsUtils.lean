import Mathlib

/-! `load_txt_records_from_dns` of `common/dns_utils.cpp`, through which the node takes TXT records
from DNS: the checkpoints of `checkpoints::load_checkpoints_from_dns` and the update notices of
`check_updates`. Each url is resolved; the records of a url whose DNSSEC is not available or does
not validate are cleared in a loop that starts at the random index `crypto::rand_idx`, which lies
below the count of urls; once at least two urls are left with records, the records of the first url
whose answer `dns_records_match`es the answer of a later url are returned. What the resolver
returns for each url is the input here.

Whatever index the loop starts from, it clears exactly the unverified answers. A returned list is
the nonempty answer of a url with valid DNSSEC that a later url with valid DNSSEC matched: it has
as many records, each of them among that url's own; and two urls with valid DNSSEC that give the
same records are enough for a list to be returned. -/

namespace Sumokoin.Tools.DnsUtils

/-- What `DNSResolver::get_txt_record(url, dnssec_available, dnssec_valid)` returns for one url. -/
structure TxtRecord where
  records : List String
  dnssecAvailable : Bool
  dnssecValid : Bool
  deriving DecidableEq, Repr

/-- `dns_records_match(a, b)`. -/
def dnsRecordsMatch (a b : List String) : Bool :=
  if a.length ≠ b.length then false
  else a.all fun recordInA => b.any fun recordInB => recordInA = recordInB

/-- The body of the `do … while` loop at `cur_index`. -/
def clearUnverified (answers : List TxtRecord) (records : List (List String)) (curIndex : Nat) :
    List (List String) :=
  match answers[curIndex]? with
  | none => records
  | some answer =>
    let records := if answer.dnssecAvailable then records else records.set curIndex []
    if answer.dnssecValid then records else records.set curIndex []

/-- The loop from `cur_index` until it comes back to `first_index`, with `fuel` passes left. -/
def clearLoop (answers : List TxtRecord) (firstIndex : Nat) :
    Nat → Nat → List (List String) → List (List String)
  | 0, _, records => records
  | fuel + 1, curIndex, records =>
    let records := clearUnverified answers records curIndex
    let curIndex := if curIndex + 1 = answers.length then 0 else curIndex + 1
    if curIndex = firstIndex then records else clearLoop answers firstIndex fuel curIndex records

/-- The search for `good_records_index`: the first record set, but the last, that is not empty and
matches a later one. -/
def goodRecordsIndex (records : List (List String)) : Option Nat :=
  (List.range (records.length - 1)).find? fun i =>
    (records.getD i []).length ≠ 0 &&
      (List.range' (i + 1) (records.length - (i + 1))).any fun j =>
        dnsRecordsMatch (records.getD i []) (records.getD j [])

/-- `load_txt_records_from_dns(good_records, dns_urls)` with `answers` what the resolver returned
for each url and `firstIndex` the `crypto::rand_idx(dns_urls.size())` the loop starts from; `none`
is the `false` return. -/
def loadTxtRecordsFromDns (answers : List TxtRecord) (firstIndex : Nat) : Option (List String) :=
  if answers.isEmpty then none
  else
    let records := clearLoop answers firstIndex answers.length firstIndex (answers.map (·.records))
    let numValidRecords := (records.filter fun recordSet => recordSet.length ≠ 0).length
    if numValidRecords < 2 then none
    else (goodRecordsIndex records).map fun i => records.getD i []

/-! ### The clearing loop -/

/-- An answer whose DNSSEC is available and valid. -/
def TxtRecord.Verified (answer : TxtRecord) : Prop :=
  answer.dnssecAvailable = true ∧ answer.dnssecValid = true

instance (answer : TxtRecord) : Decidable answer.Verified :=
  inferInstanceAs (Decidable (_ ∧ _))

/-- The records the loop leaves for a url. -/
def TxtRecord.verifiedRecords (answer : TxtRecord) : List String :=
  if answer.Verified then answer.records else []

theorem length_clearUnverified (answers : List TxtRecord) (records : List (List String))
    (curIndex : Nat) : (clearUnverified answers records curIndex).length = records.length := by
  unfold clearUnverified
  split
  · rfl
  · dsimp only
    split_ifs <;> simp

theorem length_clearLoop (answers : List TxtRecord) (firstIndex fuel : Nat) :
    ∀ curIndex records, (clearLoop answers firstIndex fuel curIndex records).length = records.length := by
  induction fuel with
  | zero => intro _ _; rfl
  | succ fuel ih =>
    intro curIndex records
    rw [clearLoop]
    split_ifs <;> simp only [ih, length_clearUnverified]

/-- A pass at `cur` gives the url there its verified records and leaves the others. -/
theorem getElem?_clearUnverified {answers : List TxtRecord} {records : List (List String)}
    {cur : Nat} (hcur : cur < answers.length) (sized : records.length = answers.length)
    (held : records[cur]? = some answers[cur].records) (i : Nat) :
    (clearUnverified answers records cur)[i]? =
      if i = cur then some answers[cur].verifiedRecords else records[i]? := by
  have at_ : answers[cur]? = some answers[cur] := List.getElem?_eq_getElem hcur
  unfold clearUnverified TxtRecord.verifiedRecords TxtRecord.Verified
  rw [at_]
  dsimp only
  by_cases hi : i = cur
  · subst hi
    obtain ⟨_, heldAt⟩ := List.getElem?_eq_some_iff.mp held
    by_cases available : answers[i].dnssecAvailable = true <;>
      by_cases valid : answers[i].dnssecValid = true <;>
      simp [available, valid, sized, hcur, heldAt]
  · simp only [if_neg hi]
    split_ifs <;> simp [Ne.symm hi]

/-- The index of the url the loop visits on its pass `k` from `first`. -/
def visitAt (n first k : Nat) : Nat := if first + k < n then first + k else first + k - n

/-- How many passes before the loop visits url `i`. -/
def passesBefore (n first i : Nat) : Nat := if first ≤ i then i - first else i + n - first

/-- After `passes` passes from `first`, the urls visited hold their verified records and the others
their answers. -/
def ClearedFrom (answers : List TxtRecord) (first passes : Nat) (records : List (List String)) :
    Prop :=
  records.length = answers.length ∧
    ∀ i (hi : i < answers.length), records[i]? = some
      (if passesBefore answers.length first i < passes then answers[i].verifiedRecords
        else answers[i].records)

theorem clearedFrom_zero (answers : List TxtRecord) (first : Nat) :
    ClearedFrom answers first 0 (answers.map (·.records)) :=
  ⟨List.length_map _, fun i hi => by simp [hi]⟩

/-- One pass of the loop keeps the invariant: the url it visits is the one whose turn it is. -/
theorem ClearedFrom.clearUnverified {answers : List TxtRecord} {first k : Nat}
    {records : List (List String)} (cleared : ClearedFrom answers first k records)
    (start : first < answers.length) (more : k < answers.length) :
    ClearedFrom answers first (k + 1)
      (clearUnverified answers records (visitAt answers.length first k)) := by
  obtain ⟨sized, held⟩ := cleared
  have hcur : visitAt answers.length first k < answers.length := by unfold visitAt; split_ifs <;> omega
  have turn : passesBefore answers.length first (visitAt answers.length first k) = k := by
    unfold passesBefore visitAt; split_ifs <;> omega
  have heldCur := held _ hcur
  rw [turn, if_neg (Nat.lt_irrefl k)] at heldCur
  refine ⟨(length_clearUnverified _ _ _).trans sized, fun i hi => ?_⟩
  rw [getElem?_clearUnverified hcur sized heldCur]
  by_cases hicur : i = visitAt answers.length first k
  · subst hicur
    rw [if_pos rfl, turn, if_pos (Nat.lt_succ_self k)]
  · have other : passesBefore answers.length first i ≠ k := by
      unfold passesBefore visitAt at *; split_ifs at * <;> omega
    rw [if_neg hicur, held i hi]
    by_cases before : passesBefore answers.length first i < k
    · rw [if_pos before, if_pos (by omega)]
    · rw [if_neg before, if_neg (by omega)]

/-- The loop runs from pass `k` to pass `n`, when it is back at `first`. -/
theorem clearedFrom_clearLoop {answers : List TxtRecord} {first : Nat}
    (start : first < answers.length) :
    ∀ fuel k records, ClearedFrom answers first k records → k < answers.length →
      answers.length ≤ fuel + k →
        ClearedFrom answers first answers.length
          (clearLoop answers first fuel (visitAt answers.length first k) records)
  | 0, k, _, _, more, enough => absurd enough (by omega)
  | fuel + 1, k, records, cleared, more, enough => by
    have step := cleared.clearUnverified start more
    have next : (if visitAt answers.length first k + 1 = answers.length then 0
        else visitAt answers.length first k + 1) = visitAt answers.length first (k + 1) := by
      unfold visitAt; split_ifs <;> omega
    rw [clearLoop]
    rw [next]
    by_cases back : visitAt answers.length first (k + 1) = first
    · -- back at the start after `k + 1` passes: every url has had its turn
      have done : k + 1 = answers.length := by unfold visitAt at back; split_ifs at back <;> omega
      have reach : ∀ p, k + 1 = p → ClearedFrom answers first p
          (clearUnverified answers records (visitAt answers.length first k)) := by
        rintro p rfl
        exact step
      rw [if_pos back]
      exact reach _ done
    · have more' : k + 1 < answers.length := by
        by_contra full
        exact back (by unfold visitAt; split_ifs <;> omega)
      rw [if_neg back]
      exact clearedFrom_clearLoop start fuel (k + 1) _ step more' (by omega)

/-- From every start below the count of urls, the loop clears exactly the unverified answers. -/
theorem clearLoop_eq_verifiedRecords {answers : List TxtRecord} {first : Nat}
    (start : first < answers.length) :
    clearLoop answers first answers.length first (answers.map (·.records)) =
      answers.map (·.verifiedRecords) := by
  have atFirst : visitAt answers.length first 0 = first := by unfold visitAt; split_ifs <;> omega
  have cleared := clearedFrom_clearLoop start answers.length 0 _ (clearedFrom_zero answers first)
    (by omega) (by omega)
  rw [atFirst] at cleared
  obtain ⟨sized, held⟩ := cleared
  apply List.ext_getElem? fun i => ?_
  by_cases hi : i < answers.length
  · have visited : passesBefore answers.length first i < answers.length := by
      unfold passesBefore; split_ifs <;> omega
    rw [held i hi, if_pos visited, List.getElem?_map, List.getElem?_eq_getElem hi]
    rfl
  · rw [List.getElem?_eq_none (by omega), List.getElem?_eq_none (by simp; omega)]

/-- The start index drops out: the records searched are the verified ones. -/
theorem loadTxtRecordsFromDns_eq {answers : List TxtRecord} {firstIndex : Nat}
    (start : firstIndex < answers.length) :
    loadTxtRecordsFromDns answers firstIndex =
      let records := answers.map (·.verifiedRecords)
      if (records.filter fun recordSet => recordSet.length ≠ 0).length < 2 then none
      else (goodRecordsIndex records).map fun i => records.getD i [] := by
  have nonempty : answers.isEmpty = false := by
    cases answers with
    | nil => exact absurd start (Nat.not_lt_zero _)
    | cons _ _ => rfl
  rw [loadTxtRecordsFromDns, if_neg (by simp [nonempty]), clearLoop_eq_verifiedRecords start]

/-- With fewer than two urls no list is returned. -/
theorem loadTxtRecordsFromDns_of_length_lt_two {answers : List TxtRecord} (few : answers.length < 2)
    (firstIndex : Nat) : loadTxtRecordsFromDns answers firstIndex = none := by
  unfold loadTxtRecordsFromDns
  split_ifs with empty
  · rfl
  · have valid := List.length_filter_le (fun recordSet : List String => recordSet.length ≠ 0)
      (clearLoop answers firstIndex answers.length firstIndex (answers.map (·.records)))
    rw [length_clearLoop, List.length_map] at valid
    rw [if_pos (by omega)]

/-! ### The search for a match -/

theorem dnsRecordsMatch_eq_true {a b : List String} :
    dnsRecordsMatch a b = true ↔ a.length = b.length ∧ ∀ r ∈ a, r ∈ b := by
  unfold dnsRecordsMatch
  split_ifs with sized
  · simp [sized]
  · rw [ne_eq, not_not] at sized
    simp [sized]

theorem goodRecordsIndex_eq_some {records : List (List String)} {i : Nat}
    (found : goodRecordsIndex records = some i) :
    records.getD i [] ≠ [] ∧ ∃ j, i < j ∧ j < records.length ∧
      dnsRecordsMatch (records.getD i []) (records.getD j []) = true := by
  have holds := List.find?_some found
  simp only [Bool.and_eq_true, ne_eq, decide_eq_true_eq, List.length_eq_zero_iff,
    List.any_eq_true, List.mem_range'_1] at holds
  obtain ⟨nonempty, j, within, matched⟩ := holds
  exact ⟨nonempty, j, by omega, by omega, matched⟩

theorem goodRecordsIndex_isSome {records : List (List String)} {i j : Nat} (before : i < j)
    (within : j < records.length) (nonempty : records.getD i [] ≠ [])
    (matched : dnsRecordsMatch (records.getD i []) (records.getD j []) = true) :
    (goodRecordsIndex records).isSome := by
  rw [goodRecordsIndex, List.find?_isSome]
  refine ⟨i, List.mem_range.mpr (by omega), ?_⟩
  simp only [Bool.and_eq_true, ne_eq, decide_eq_true_eq, List.length_eq_zero_iff,
    List.any_eq_true, List.mem_range'_1]
  exact ⟨nonempty, j, ⟨by omega, by omega⟩, matched⟩

/-- Two entries of a list that pass a test put two in its filter. -/
theorem two_le_length_filter {α : Type} {p : α → Bool} {l : List α} {i j : Nat} (before : i < j)
    (within : j < l.length) (first : p l[i] = true) (second : p l[j] = true) :
    2 ≤ (l.filter p).length := by
  have split := congrArg (fun l => (l.filter p).length) (List.take_append_drop (i + 1) l)
  simp only [List.filter_append, List.length_append] at split
  have low : 0 < ((l.take (i + 1)).filter p).length :=
    List.length_pos_iff_exists_mem.mpr ⟨l[i], List.mem_filter.mpr
      ⟨List.mem_iff_getElem.mpr ⟨i, by simp; omega, by simp⟩, first⟩⟩
  have high : 0 < ((l.drop (i + 1)).filter p).length :=
    List.length_pos_iff_exists_mem.mpr ⟨l[j], List.mem_filter.mpr
      ⟨List.mem_iff_getElem.mpr ⟨j - (i + 1), by simp; omega, by simp; congr 1; omega⟩, second⟩⟩
  omega

theorem getD_map_verifiedRecords {answers : List TxtRecord} {i : Nat} (hi : i < answers.length) :
    (answers.map (·.verifiedRecords)).getD i [] = answers[i].verifiedRecords := by
  simp [List.getD_eq_getElem?_getD, hi]

theorem verified_of_verifiedRecords_ne_nil {answer : TxtRecord} (nonempty : answer.verifiedRecords ≠ []) :
    answer.Verified ∧ answer.verifiedRecords = answer.records := by
  unfold TxtRecord.verifiedRecords at *
  split_ifs at * with verified
  · exact ⟨verified, rfl⟩
  · exact absurd rfl nonempty

/-- What the node takes from DNS: for every start index of the loop, a returned list is the
nonempty answer of a url with valid DNSSEC, matched by the answer of a later url with valid DNSSEC
that has as many records and holds each of them; and two urls with valid DNSSEC that give the same
nonempty records make it return a list. -/
theorem loadTxtRecordsFromDns_agreed {answers : List TxtRecord} {firstIndex : Nat}
    (start : firstIndex < answers.length) :
    (∀ good, loadTxtRecordsFromDns answers firstIndex = some good →
      ∃ (i j : Nat) (a b : TxtRecord), i < j ∧ answers[i]? = some a ∧ answers[j]? = some b ∧ a.Verified ∧ b.Verified ∧
        good = a.records ∧ good ≠ [] ∧ good.length = b.records.length ∧ ∀ r ∈ good, r ∈ b.records) ∧
    ((∃ (i j : Nat) (a b : TxtRecord), i < j ∧ answers[i]? = some a ∧ answers[j]? = some b ∧ a.Verified ∧ b.Verified ∧
        a.records ≠ [] ∧ a.records = b.records) →
      loadTxtRecordsFromDns answers firstIndex ≠ none) := by
  rw [loadTxtRecordsFromDns_eq start]
  dsimp only
  constructor
  · intro good loaded
    split_ifs at loaded with few
    obtain ⟨i, found, rfl⟩ := Option.map_eq_some_iff.mp loaded
    obtain ⟨nonempty, j, before, within, matched⟩ := goodRecordsIndex_eq_some found
    rw [List.length_map] at within
    rw [getD_map_verifiedRecords (by omega)] at nonempty matched ⊢
    rw [getD_map_verifiedRecords within] at matched
    obtain ⟨sameLength, among⟩ := dnsRecordsMatch_eq_true.mp matched
    have laterNonempty : answers[j].verifiedRecords ≠ [] := by
      intro empty
      rw [empty, List.length_nil, List.length_eq_zero_iff] at sameLength
      exact nonempty sameLength
    obtain ⟨verifiedI, recordsI⟩ := verified_of_verifiedRecords_ne_nil nonempty
    obtain ⟨verifiedJ, recordsJ⟩ := verified_of_verifiedRecords_ne_nil laterNonempty
    refine ⟨i, j, answers[i], answers[j], before, List.getElem?_eq_getElem _,
      List.getElem?_eq_getElem within, verifiedI, verifiedJ, recordsI, nonempty, ?_, ?_⟩
    · rw [sameLength, recordsJ]
    · rw [← recordsJ]
      exact among
  · rintro ⟨i, j, a, b, before, hi, hj, verifiedA, verifiedB, nonempty, same⟩
    obtain ⟨withinJ, rfl⟩ := List.getElem?_eq_some_iff.mp hj
    obtain ⟨withinI, rfl⟩ := List.getElem?_eq_some_iff.mp hi
    have recordsI : answers[i].verifiedRecords = answers[i].records := by
      simp [TxtRecord.verifiedRecords, verifiedA]
    have recordsJ : answers[j].verifiedRecords = answers[j].records := by
      simp [TxtRecord.verifiedRecords, verifiedB]
    have matched : dnsRecordsMatch ((answers.map (·.verifiedRecords)).getD i [])
        ((answers.map (·.verifiedRecords)).getD j []) = true := by
      rw [getD_map_verifiedRecords withinI, getD_map_verifiedRecords withinJ, recordsI, recordsJ,
        ← same]
      exact dnsRecordsMatch_eq_true.mpr ⟨rfl, fun _ r => r⟩
    have two : 2 ≤ ((answers.map (·.verifiedRecords)).filter
        fun recordSet => recordSet.length ≠ 0).length :=
      two_le_length_filter before (by simpa using withinJ)
        (by simp [recordsI, nonempty]) (by simp [recordsJ, ← same, nonempty])
    rw [if_neg (by omega)]
    have found := goodRecordsIndex_isSome before (by simpa using withinJ)
      (by rw [getD_map_verifiedRecords withinI, recordsI]; exact nonempty) matched
    simpa [Option.isSome_iff_ne_none] using found

/-- The match asks for as many records, each among the other answer's, and not for the same
records: a url that repeats one record agrees with a url that has it beside another. -/
example : loadTxtRecordsFromDns [⟨["x", "x"], true, true⟩, ⟨["x", "y"], true, true⟩] 0 =
    some ["x", "x"] := by decide

/-- Three urls, the second without valid DNSSEC, and the loop started at the second. -/
theorem loadTxtRecordsFromDns_agreed_threeUrls :
    let answers : List TxtRecord :=
      [⟨["a", "b"], true, true⟩, ⟨["c"], true, false⟩, ⟨["b", "a"], true, true⟩]
    1 < answers.length ∧
    (∀ good, loadTxtRecordsFromDns answers 1 = some good →
      ∃ (i j : Nat) (a b : TxtRecord), i < j ∧ answers[i]? = some a ∧ answers[j]? = some b ∧
        a.Verified ∧ b.Verified ∧
        good = a.records ∧ good ≠ [] ∧ good.length = b.records.length ∧ ∀ r ∈ good, r ∈ b.records) ∧
    ((∃ (i j : Nat) (a b : TxtRecord), i < j ∧ answers[i]? = some a ∧ answers[j]? = some b ∧
        a.Verified ∧ b.Verified ∧ a.records ≠ [] ∧ a.records = b.records) →
      loadTxtRecordsFromDns answers 1 ≠ none) := by
  intro answers
  exact ⟨by decide, loadTxtRecordsFromDns_agreed (by decide)⟩

end Sumokoin.Tools.DnsUtils
