import Sumokoin.Common.DnsUtils
import Sumokoin.Basic.Amount

/-! `check_updates` of `common/updates.cpp`, which looks for a release in the TXT records that
`load_txt_records_from_dns` agrees on for four urls, and `vercmp` of `common/util.cpp`, which
orders versions. A record is `software:buildtag:version:hash`. One whose fields are not four, whose
software or build tag is another, or whose hash fails the check is skipped; of the others the one
with the highest version is kept, and a later one at an equal version replaces an earlier one. The
hash check refuses a hash only when it is neither 64 characters long nor alphanumeric, so a short
alphanumeric hash passes.

`vercmp` cuts both versions at `.` and `-`, reads each field with `atoi` and compares the fields in
turn, the version that runs out first being the older: the lexicographic order of the lists of
numbers, so the version kept is one that no record for the software and build tag exceeds. The
fields and their difference are `int`s; a field past `INT_MAX` is undefined behaviour in C and is
read here as the number it spells. A `char` of a `std::string` is a `Char`. -/

namespace Sumokoin.Tools

open Sumokoin.Tools.DnsUtils

/-- `boost::split(fields, s, boost::is_any_of(seps))`: the pieces between the separators, empty
ones included. -/
def splitAnyOf (seps : List Char) (s : String) : List String :=
  (s.toList.splitOnP fun c => c ∈ seps).map String.ofList

/-- `atoi`: spaces, a sign, then the digits up to the first other character; `0` without digits. -/
def atoi (s : String) : Int :=
  let rest := s.toList.dropWhile Basic.isSpace
  let (negative, rest) := match rest with
    | '-' :: rest => (true, rest)
    | '+' :: rest => (false, rest)
    | rest => (false, rest)
  let value := (rest.takeWhile Char.isDigit).foldl (fun n c => 10 * n + (c.toNat - '0'.toNat)) 0
  if negative then -(value : Int) else value

/-- The loop of `vercmp` over the fields read with `atoi`. -/
def vercmpFields : List Int → List Int → Int
  | [], [] => 0
  | [], _ :: _ => -1
  | _ :: _, [] => 1
  | f0i :: f0, f1i :: f1 => if f0i - f1i ≠ 0 then f0i - f1i else vercmpFields f0 f1

/-- The fields of a version, read with `atoi`. -/
def versionFields (v : String) : List Int := (splitAnyOf ['.', '-'] v).map atoi

/-- `vercmp(v0, v1)`. -/
def vercmp (v0 v1 : String) : Int := vercmpFields (versionFields v0) (versionFields v1)

/-- `dns_urls` of `check_updates`. -/
def updateDnsUrls : List String :=
  ["updates.sumopulse.stream", "updates.sumopulse.download", "updates.sumopulse.win",
    "updates.sumopulse.bid"]

/-- The loop of `check_updates` over the records, with the version and the hash found so far. -/
def checkUpdatesLoop (software buildtag : String) :
    List String → Option (String × String) → Option (String × String)
  | [], found => found
  | record :: records, found =>
    match splitAnyOf [':'] record with
    | [f0, f1, f2, f3] =>
      if software ≠ f0 ∨ buildtag ≠ f1 then checkUpdatesLoop software buildtag records found
      else if f3.length ≠ 64 ∧ f3.toList.all Char.isAlphanum = false then
        checkUpdatesLoop software buildtag records found
      else
        match found with
        | some (version, _) =>
          if vercmp version f2 > 0 then checkUpdatesLoop software buildtag records found
          else checkUpdatesLoop software buildtag records (some (f2, f3))
        | none => checkUpdatesLoop software buildtag records (some (f2, f3))
    | _ => checkUpdatesLoop software buildtag records found

/-- `check_updates(software, buildtag, version, hash)`, with `resolve` what the resolver answers
for a url and `firstIndex` the random start of `load_txt_records_from_dns`; `none` is `false`. -/
def checkUpdates (software buildtag : String) (resolve : String → TxtRecord) (firstIndex : Nat) :
    Option (String × String) :=
  match loadTxtRecordsFromDns (updateDnsUrls.map resolve) firstIndex with
  | none => none
  | some records => checkUpdatesLoop software buildtag records none

/-! ### The order of versions -/

theorem vercmpFields_pos_iff : ∀ f0 f1 : List Int, 0 < vercmpFields f0 f1 ↔ f1 < f0
  | [], [] => by simp [vercmpFields]
  | [], f1i :: f1 => by simp [vercmpFields, List.not_lt_nil]
  | f0i :: f0, [] => by simp [vercmpFields, List.nil_lt_cons]
  | f0i :: f0, f1i :: f1 => by
    rw [vercmpFields, List.cons_lt_cons_iff]
    split_ifs with differ
    · constructor
      · intro pos; exact .inl (by omega)
      · rintro (older | ⟨same, _⟩) <;> omega
    · have same : f0i = f1i := by omega
      subst same
      rw [vercmpFields_pos_iff f0 f1]
      simp

theorem vercmp_nonpos_iff (v0 v1 : String) : vercmp v0 v1 ≤ 0 ↔ versionFields v0 ≤ versionFields v1 := by
  rw [vercmp, ← not_lt, vercmpFields_pos_iff, not_lt]

/-! ### The highest version -/

/-- A record that `check_updates` takes for `software` and `buildtag`, with its version and hash. -/
def UpdateRecord (software buildtag record version hash : String) : Prop :=
  splitAnyOf [':'] record = [software, buildtag, version, hash] ∧
    (hash.length = 64 ∨ hash.toList.all Char.isAlphanum = true)

/-- What the loop finds from `found` on: nothing exactly when nothing was found and no record is
taken; otherwise a version that was found or that a record carries, with its hash, as high as
every record taken and as what was found. -/
def FoundHighest (software buildtag : String) (records : List String)
    (found result : Option (String × String)) : Prop :=
  (result = none ↔ found = none ∧ ∀ record ∈ records, ∀ v h, ¬UpdateRecord software buildtag record v h) ∧
    ∀ version hash, result = some (version, hash) →
      (found = some (version, hash) ∨ ∃ record ∈ records, UpdateRecord software buildtag record version hash) ∧
      (∀ record ∈ records, ∀ v h, UpdateRecord software buildtag record v h →
        versionFields v ≤ versionFields version) ∧
      ∀ v h, found = some (v, h) → versionFields v ≤ versionFields version

theorem updateRecord_of_fields {software buildtag record f0 f1 f2 f3 : String}
    (fields : splitAnyOf [':'] record = [f0, f1, f2, f3]) {v h : String} :
    UpdateRecord software buildtag record v h ↔
      software = f0 ∧ buildtag = f1 ∧ v = f2 ∧ h = f3 ∧ (f3.length = 64 ∨ f3.toList.all Char.isAlphanum = true) := by
  unfold UpdateRecord
  rw [fields]
  constructor
  · rintro ⟨same, hashOk⟩
    simp only [List.cons.injEq, and_true] at same
    obtain ⟨rfl, rfl, rfl, rfl⟩ := same
    exact ⟨rfl, rfl, rfl, rfl, hashOk⟩
  · rintro ⟨rfl, rfl, rfl, rfl, hashOk⟩
    exact ⟨rfl, hashOk⟩

/-- A record the loop passes over keeps what holds of the rest, when it is not taken or its version
is no higher than the one found. -/
theorem FoundHighest.pass {software buildtag record : String} {records : List String}
    {found result : Option (String × String)} (rest : FoundHighest software buildtag records found result)
    (dominated : ∀ v h, UpdateRecord software buildtag record v h →
      ∃ v0 h0, found = some (v0, h0) ∧ versionFields v ≤ versionFields v0) :
    FoundHighest software buildtag (record :: records) found result := by
  obtain ⟨empty, highest⟩ := rest
  refine ⟨?_, fun version hash done => ?_⟩
  · rw [empty]
    constructor
    · rintro ⟨none_, others⟩
      refine ⟨none_, fun r mem v h taken => ?_⟩
      rcases List.mem_cons.mp mem with rfl | later
      · obtain ⟨v0, h0, some_, _⟩ := dominated v h taken
        rw [none_] at some_
        cases some_
      · exact others r later v h taken
    · rintro ⟨none_, all⟩
      exact ⟨none_, fun r mem => all r (List.mem_cons_of_mem _ mem)⟩
  · obtain ⟨origin, above, aboveFound⟩ := highest version hash done
    refine ⟨?_, fun r mem v h taken => ?_, aboveFound⟩
    · rcases origin with old | ⟨r, mem, taken⟩
      · exact .inl old
      · exact .inr ⟨r, List.mem_cons_of_mem _ mem, taken⟩
    · rcases List.mem_cons.mp mem with rfl | later
      · obtain ⟨v0, h0, some_, low⟩ := dominated v h taken
        exact le_trans low (aboveFound v0 h0 some_)
      · exact above r later v h taken

/-- A record the loop takes in place of what it found, or over nothing: its version becomes the
one to beat. -/
theorem FoundHighest.take {software buildtag record f2 f3 : String} {records : List String}
    {found result : Option (String × String)}
    (rest : FoundHighest software buildtag records (some (f2, f3)) result)
    (taken : UpdateRecord software buildtag record f2 f3)
    (only : ∀ v h, UpdateRecord software buildtag record v h → v = f2)
    (raised : ∀ v h, found = some (v, h) → versionFields v ≤ versionFields f2) :
    FoundHighest software buildtag (record :: records) found result := by
  obtain ⟨empty, highest⟩ := rest
  refine ⟨⟨fun none_ => absurd (empty.mp none_).1 (Option.some_ne_none _),
    fun ⟨_, all⟩ => absurd taken (all record List.mem_cons_self f2 f3)⟩, fun version hash done => ?_⟩
  obtain ⟨origin, above, aboveFound⟩ := highest version hash done
  have atLeast : versionFields f2 ≤ versionFields version := aboveFound f2 f3 rfl
  refine ⟨?_, fun r mem v h takenR => ?_, fun v h found_ => le_trans (raised v h found_) atLeast⟩
  · rcases origin with same | ⟨r, mem, takenR⟩
    · cases same
      exact .inr ⟨record, List.mem_cons_self, taken⟩
    · exact .inr ⟨r, List.mem_cons_of_mem _ mem, takenR⟩
  · rcases List.mem_cons.mp mem with rfl | later
    · rw [only v h takenR]
      exact atLeast
    · exact above r later v h takenR

/-- The loop of `check_updates` finds the highest version of the records it takes. -/
theorem checkUpdatesLoop_highest (software buildtag : String) :
    ∀ (records : List String) (found : Option (String × String)),
      FoundHighest software buildtag records found (checkUpdatesLoop software buildtag records found)
  | [], found => by
    show FoundHighest software buildtag [] found found
    refine ⟨by simp, fun version hash done => ⟨.inl done, by simp, fun v h found_ => ?_⟩⟩
    rw [done] at found_
    cases found_
    exact le_refl _
  | record :: records, found => by
    rw [checkUpdatesLoop]
    split
    · rename_i f0 f1 f2 f3 fields
      have shape := fun v h => @updateRecord_of_fields software buildtag record f0 f1 f2 f3 fields v h
      split_ifs with other badHash
      · exact (checkUpdatesLoop_highest software buildtag records found).pass fun v h taken => by
          obtain ⟨sameSoftware, sameBuildtag, -⟩ := (shape v h).mp taken
          exact (other.elim (· sameSoftware) (· sameBuildtag)).elim
      · exact (checkUpdatesLoop_highest software buildtag records found).pass fun v h taken => by
          rcases ((shape v h).mp taken).2.2.2.2 with long | alnum
          · exact absurd long badHash.1
          · exact absurd alnum (by rw [badHash.2]; simp)
      · have taken : UpdateRecord software buildtag record f2 f3 := by
          rw [not_or, not_not, not_not] at other
          exact (shape f2 f3).mpr ⟨other.1, other.2, rfl, rfl, by
            by_contra bad
            rw [not_or, Bool.not_eq_true] at bad
            exact badHash bad⟩
        have only : ∀ v h, UpdateRecord software buildtag record v h → v = f2 :=
          fun v h takenR => ((shape v h).mp takenR).2.2.1
        split
        · rename_i version hash
          split_ifs with newer
          · -- an older record leaves the version found
            exact (checkUpdatesLoop_highest software buildtag records _).pass fun v h takenR =>
              ⟨version, hash, rfl, by
                rw [only v h takenR]
                exact le_of_lt ((vercmpFields_pos_iff _ _).mp newer)⟩
          · exact (checkUpdatesLoop_highest software buildtag records _).take taken only
              fun v h found_ => by
                cases found_
                exact (vercmp_nonpos_iff _ f2).mp (not_lt.mp newer)
        · exact (checkUpdatesLoop_highest software buildtag records _).take taken only
            fun v h found_ => by cases found_
    · rename_i notFour
      exact (checkUpdatesLoop_highest software buildtag records found).pass fun v h taken =>
        absurd taken.1 (notFour _ _ _ _)

/-- What `check_updates` reports: a version and a hash that a record of the records agreed on over
DNS carries for the software and the build tag, with a hash of 64 characters or an alphanumeric
one, and that no such record exceeds under `vercmp`; and it reports one whenever the agreed records
hold such a record. -/
theorem checkUpdates_highest (software buildtag : String) (resolve : String → TxtRecord)
    (firstIndex : Nat) :
    (∀ version hash, checkUpdates software buildtag resolve firstIndex = some (version, hash) →
      ∃ records, loadTxtRecordsFromDns (updateDnsUrls.map resolve) firstIndex = some records ∧
        (∃ record ∈ records, UpdateRecord software buildtag record version hash) ∧
        ∀ record ∈ records, ∀ v h, UpdateRecord software buildtag record v h → vercmp v version ≤ 0) ∧
    (∀ records, loadTxtRecordsFromDns (updateDnsUrls.map resolve) firstIndex = some records →
      (∃ record ∈ records, ∃ v h, UpdateRecord software buildtag record v h) →
        checkUpdates software buildtag resolve firstIndex ≠ none) := by
  constructor
  · intro version hash found
    unfold checkUpdates at found
    split at found
    · cases found
    · rename_i records loaded
      obtain ⟨_, highest⟩ := checkUpdatesLoop_highest software buildtag records none
      obtain ⟨origin, above, _⟩ := highest version hash found
      refine ⟨records, loaded, origin.resolve_left (by simp), fun record mem v h taken => ?_⟩
      exact (vercmp_nonpos_iff v version).mpr (above record mem v h taken)
  · rintro records loaded ⟨record, mem, v, h, taken⟩ none_
    simp only [checkUpdates, loaded] at none_
    obtain ⟨empty, _⟩ := checkUpdatesLoop_highest software buildtag records none
    exact (empty.mp none_).2 record mem v h taken

/-- A hash of three characters passes the check, being alphanumeric. -/
example : checkUpdatesLoop "sumokoin" "linux-x64" ["sumokoin:linux-x64:0.9.1:abc"] none =
    some ("0.9.1", "abc") := by decide

/-- The highest version is kept whatever the order of the records. -/
example : checkUpdatesLoop "sumokoin" "linux-x64"
    ["sumokoin:linux-x64:0.10.0:aa", "sumokoin:linux-x64:0.9.1:bb"] none = some ("0.10.0", "aa") := by
  decide

end Sumokoin.Tools
