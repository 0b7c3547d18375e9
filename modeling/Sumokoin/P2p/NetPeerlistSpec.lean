import Sumokoin.P2p.NetPeerlist

/-! What the peer lists keep over any run of the manager's operations from `init` with empty lists:
no address is on both lists, every entry is of an allowed host, and each list is within its limit.
The uniqueness of addresses and the `last_seen` order are fields of the containers.

What they do not keep is the rule that a new white peer's host has no other white entry:
`filter(true, .)`, through which `append_with_peer_white` evicts the host, erases from the gray
list, so the white entries of the host stay; and a full white list trims the new peer itself when
it is the oldest. -/

namespace Sumokoin.P2p

open Sumokoin.ProofKit Sumokoin.Epee

variable {Addr : Type} [NetworkAddress Addr]

/-- The invariants of the two lists. -/
structure PeerlistInvariant (m : PeerlistManager Addr) : Prop where
  disjoint : ∀ e ∈ m.peersWhite.entries, e.adr ∉ m.peersGray.entries.map PeerlistEntry.adr
  allowedWhite : ∀ e ∈ m.peersWhite.entries, m.isHostAllowed e.adr = true
  allowedGray : ∀ e ∈ m.peersGray.entries, m.isHostAllowed e.adr = true
  whiteLimit : m.peersWhite.entries.length ≤ p2pLocalWhitePeerlistLimit
  grayLimit : m.peersGray.entries.length ≤ p2pLocalGrayPeerlistLimit

namespace PeerlistManager

variable {m m' : PeerlistManager Addr}

theorem isHostAllowed_congr (same : m'.allowLocalIp = m.allowLocalIp) :
    m'.isHostAllowed = m.isHostAllowed := by
  funext address
  simp [isHostAllowed, same]

omit [NetworkAddress Addr] in
theorem sublist_filter (white : Bool) (f : PeerlistEntry Addr → Bool) :
    (m.filter white f).1.allowLocalIp = m.allowLocalIp ∧
      (m.filter white f).1.peersWhite.entries.Sublist m.peersWhite.entries ∧
      (m.filter white f).1.peersGray.entries.Sublist m.peersGray.entries := by
  cases white
  · exact ⟨rfl, MultiIndex.sublist_eraseIf _ f, List.Sublist.refl _⟩
  · exact ⟨rfl, List.Sublist.refl _, MultiIndex.sublist_eraseIf _ f⟩

variable [DecidableEq Addr]

/-- What `append_with_peer_gray` can do: nothing, or, for an allowed address that is not white,
insert the entry and trim, or replace the stored entry of the address. -/
theorem appendWithPeerGray_cases (m : PeerlistManager Addr) (ple : PeerlistEntry Addr) :
    m.appendWithPeerGray ple = m ∨
      m.isHostAllowed ple.adr = true ∧ ple.adr ∉ m.peersWhite.entries.map PeerlistEntry.adr ∧
        ((ple.adr ∉ m.peersGray.entries.map PeerlistEntry.adr ∧
            m.appendWithPeerGray ple =
              trimGrayPeerlist { m with peersGray := m.peersGray.insert ple }) ∨
          ∃ stored ∈ m.peersGray.entries, stored.adr = ple.adr ∧
            m.appendWithPeerGray ple =
              { m with peersGray := m.peersGray.replace (updatedEntry stored ple false) }) := by
  unfold appendWithPeerGray
  by_cases allowed : m.isHostAllowed ple.adr = true
  · by_cases white : (m.peersWhite.find ple.adr).isSome
    · exact .inl (by simp [allowed, white])
    · have absent : ple.adr ∉ m.peersWhite.entries.map PeerlistEntry.adr :=
        (MultiIndex.find_eq_none_iff _ _).mp (Option.not_isSome_iff_eq_none.mp white)
      refine .inr ⟨allowed, absent, ?_⟩
      simp only [allowed, white, Bool.not_true, Bool.false_eq_true, if_false]
      split
      · next found => exact .inl ⟨(MultiIndex.find_eq_none_iff _ _).mp found, rfl⟩
      · next stored found =>
        obtain ⟨mem, same⟩ := MultiIndex.find_eq_some _ found
        exact .inr ⟨stored, mem, same, rfl⟩
  · exact .inl (by simp [allowed])

/-- What `append_with_peer_white` can do: nothing, or, for an allowed address, a new white entry
with the host evicted from the gray list (the white list is only trimmed), or the stored white
entry replaced; either way the address leaves the gray list. -/
theorem appendWithPeerWhite_cases (m : PeerlistManager Addr) (ple : PeerlistEntry Addr)
    (trustLastSeen : Bool) :
    m.appendWithPeerWhite ple trustLastSeen = m ∨
      m.isHostAllowed ple.adr = true ∧
        (m.appendWithPeerWhite ple trustLastSeen).allowLocalIp = m.allowLocalIp ∧
        ((ple.adr ∉ m.peersWhite.entries.map PeerlistEntry.adr ∧
            (m.appendWithPeerWhite ple trustLastSeen).peersWhite =
              trimPeerlist p2pLocalWhitePeerlistLimit (m.peersWhite.insert ple) ∧
            (m.appendWithPeerWhite ple trustLastSeen).peersGray =
              (m.peersGray.eraseIf fun pe => NetworkAddress.isSameHost pe.adr ple.adr).erase
                ple.adr) ∨
          ∃ stored ∈ m.peersWhite.entries, stored.adr = ple.adr ∧
            (m.appendWithPeerWhite ple trustLastSeen).peersWhite =
              m.peersWhite.replace (updatedEntry stored ple trustLastSeen) ∧
            (m.appendWithPeerWhite ple trustLastSeen).peersGray = m.peersGray.erase ple.adr) := by
  unfold appendWithPeerWhite
  by_cases allowed : m.isHostAllowed ple.adr = true
  · refine .inr ⟨allowed, ?_⟩
    simp only [allowed, Bool.not_true, Bool.false_eq_true, if_false]
    split
    · next found => exact ⟨rfl, .inl ⟨(MultiIndex.find_eq_none_iff _ _).mp found, rfl, rfl⟩⟩
    · next stored found =>
      obtain ⟨mem, same⟩ := MultiIndex.find_eq_some _ found
      exact ⟨rfl, .inr ⟨stored, mem, same, rfl, rfl⟩⟩
  · exact .inl (by simp [allowed])

end PeerlistManager

namespace PeerlistInvariant

open PeerlistManager

variable {m m' : PeerlistManager Addr}

/-- A step that only erases entries. -/
theorem of_sublist (inv : PeerlistInvariant m) (same : m'.allowLocalIp = m.allowLocalIp)
    (white : m'.peersWhite.entries.Sublist m.peersWhite.entries)
    (gray : m'.peersGray.entries.Sublist m.peersGray.entries) : PeerlistInvariant m' where
  disjoint e he hg := inv.disjoint e (white.subset he) ((gray.map _).subset hg)
  allowedWhite e he := (isHostAllowed_congr same).symm ▸ inv.allowedWhite e (white.subset he)
  allowedGray e he := (isHostAllowed_congr same).symm ▸ inv.allowedGray e (gray.subset he)
  whiteLimit := white.length_le.trans inv.whiteLimit
  grayLimit := gray.length_le.trans inv.grayLimit

/-- A step that may bring entries of the allowed address `a` into the white list and takes `a` out
of the gray list. -/
theorem of_whiteStep (inv : PeerlistInvariant m) {a : Addr} (allowed : m.isHostAllowed a = true)
    (same : m'.allowLocalIp = m.allowLocalIp)
    (white : ∀ e ∈ m'.peersWhite.entries, e.adr = a ∨ e ∈ m.peersWhite.entries)
    (gray : ∀ g ∈ m'.peersGray.entries, g ∈ m.peersGray.entries ∧ g.adr ≠ a)
    (whiteLimit : m'.peersWhite.entries.length ≤ p2pLocalWhitePeerlistLimit)
    (grayLength : m'.peersGray.entries.length ≤ m.peersGray.entries.length) :
    PeerlistInvariant m' where
  disjoint e he hg := by
    obtain ⟨g, hg, sameAdr⟩ := List.mem_map.mp hg
    rcases white e he with isA | old
    · exact (gray g hg).2 (sameAdr.trans isA)
    · exact inv.disjoint e old (List.mem_map.mpr ⟨g, (gray g hg).1, sameAdr⟩)
  allowedWhite e he := by
    rw [isHostAllowed_congr same]
    rcases white e he with isA | old
    · exact isA ▸ allowed
    · exact inv.allowedWhite e old
  allowedGray g hg := (isHostAllowed_congr same).symm ▸ inv.allowedGray g (gray g hg).1
  whiteLimit := whiteLimit
  grayLimit := grayLength.trans inv.grayLimit

/-- A step that keeps the white list and may bring entries of the allowed address `a`, which is not
white, into the gray list. -/
theorem of_grayStep (inv : PeerlistInvariant m) {a : Addr} (allowed : m.isHostAllowed a = true)
    (absent : a ∉ m.peersWhite.entries.map PeerlistEntry.adr)
    (same : m'.allowLocalIp = m.allowLocalIp) (white : m'.peersWhite = m.peersWhite)
    (gray : ∀ g ∈ m'.peersGray.entries, g.adr = a ∨ g ∈ m.peersGray.entries)
    (grayLimit : m'.peersGray.entries.length ≤ p2pLocalGrayPeerlistLimit) :
    PeerlistInvariant m' where
  disjoint e he hg := by
    rw [white] at he
    obtain ⟨g, hg, sameAdr⟩ := List.mem_map.mp hg
    rcases gray g hg with isA | old
    · exact absent (List.mem_map.mpr ⟨e, he, sameAdr.symm.trans isA⟩)
    · exact inv.disjoint e he (List.mem_map.mpr ⟨g, old, sameAdr⟩)
  allowedWhite e he := (isHostAllowed_congr same).symm ▸ inv.allowedWhite e (white ▸ he)
  allowedGray g hg := by
    rw [isHostAllowed_congr same]
    rcases gray g hg with isA | old
    · exact isA ▸ allowed
    · exact inv.allowedGray g old
  whiteLimit := white ▸ inv.whiteLimit
  grayLimit := grayLimit

theorem filter (inv : PeerlistInvariant m) (white : Bool) (f : PeerlistEntry Addr → Bool) :
    PeerlistInvariant (m.filter white f).1 :=
  have ⟨same, hw, hg⟩ := sublist_filter white f
  inv.of_sublist same hw hg

theorem trimGrayPeerlist (inv : PeerlistInvariant m) : PeerlistInvariant m.trimGrayPeerlist :=
  inv.of_sublist rfl (List.Sublist.refl _) (MultiIndex.sublist_trim _ _)

variable [DecidableEq Addr]

theorem appendWithPeerGray (inv : PeerlistInvariant m) (ple : PeerlistEntry Addr) :
    PeerlistInvariant (m.appendWithPeerGray ple) := by
  rcases appendWithPeerGray_cases m ple with unchanged | ⟨allowed, absent, added | replaced⟩
  · rw [unchanged]
    exact inv
  · obtain ⟨fresh, step⟩ := added
    rw [step]
    refine inv.of_grayStep allowed absent rfl rfl (fun g hg => ?_) (MultiIndex.length_trim_le _ _)
    have hg := (MultiIndex.sublist_trim _ _).subset hg
    rcases (MultiIndex.mem_insert_of_not_mem _ fresh g).mp hg with rfl | old
    · exact .inl rfl
    · exact .inr old
  · obtain ⟨stored, mem, sameAdr, step⟩ := replaced
    rw [step]
    refine inv.of_grayStep allowed absent rfl rfl (fun g hg => ?_) ?_
    · rcases (MultiIndex.mem_replace _ _ g).mp hg with rfl | ⟨old, -⟩
      · exact .inl rfl
      · exact .inr old
    · dsimp only
      rw [MultiIndex.length_replace _ (a := updatedEntry stored ple false)
        (List.mem_map.mpr ⟨stored, mem, sameAdr⟩)]
      exact inv.grayLimit

theorem appendWithPeerWhite (inv : PeerlistInvariant m) (ple : PeerlistEntry Addr)
    (trustLastSeen : Bool) : PeerlistInvariant (m.appendWithPeerWhite ple trustLastSeen) := by
  rcases appendWithPeerWhite_cases m ple trustLastSeen with
    unchanged | ⟨allowed, same, ⟨fresh, white, gray⟩ | ⟨stored, mem, sameAdr, white, gray⟩⟩
  · rw [unchanged]
    exact inv
  · -- a new white entry: the gray list loses the host and the address
    refine inv.of_whiteStep allowed same (fun e he => ?_) (fun g hg => ?_) ?_ ?_
    · rw [white] at he
      have he := (MultiIndex.sublist_trim _ _).subset he
      rcases (MultiIndex.mem_insert_of_not_mem _ fresh e).mp he with rfl | old
      · exact .inl rfl
      · exact .inr old
    · rw [gray, MultiIndex.mem_erase] at hg
      exact ⟨(MultiIndex.sublist_eraseIf _ _).subset hg.1, hg.2⟩
    · rw [white]
      exact MultiIndex.length_trim_le _ _
    · rw [gray]
      exact (MultiIndex.sublist_erase _ _).length_le.trans
        (MultiIndex.sublist_eraseIf _ _).length_le
  · -- the stored white entry replaced
    refine inv.of_whiteStep allowed same (fun e he => ?_) (fun g hg => ?_) ?_ ?_
    · rw [white, MultiIndex.mem_replace] at he
      rcases he with rfl | ⟨old, -⟩
      · exact .inl rfl
      · exact .inr old
    · rw [gray, MultiIndex.mem_erase] at hg
      exact hg
    · rw [white, MultiIndex.length_replace _ (a := updatedEntry stored ple trustLastSeen)
        (List.mem_map.mpr ⟨stored, mem, sameAdr⟩)]
      exact inv.whiteLimit
    · rw [gray]
      exact (MultiIndex.sublist_erase _ _).length_le

theorem mergePeerlist (inv : PeerlistInvariant m) (outerBs : List (PeerlistEntry Addr))
    (f : Option (PeerlistEntry Addr → Bool)) : PeerlistInvariant (m.mergePeerlist outerBs f) := by
  unfold PeerlistManager.mergePeerlist
  apply PeerlistInvariant.trimGrayPeerlist
  -- each entry of the list is appended to the gray list or skipped
  induction outerBs generalizing m with
  | nil => exact inv
  | cons be rest ih =>
    rw [List.foldl_cons]
    apply ih
    split_ifs
    · exact inv.appendWithPeerGray be
    · exact inv

theorem apply (inv : PeerlistInvariant m) (op : PeerlistOp Addr) :
    PeerlistInvariant (m.apply op) := by
  cases op with
  | appendWithPeerWhite ple trustLastSeen => exact inv.appendWithPeerWhite ple trustLastSeen
  | appendWithPeerGray ple => exact inv.appendWithPeerGray ple
  | setPeerJustSeen peer addr pruningSeed rpcPort rpcCreditsPerHash now =>
    exact inv.appendWithPeerWhite _ true
  | mergePeerlist outerBs f => exact inv.mergePeerlist outerBs f
  | removeFromPeerWhite pe =>
    exact inv.of_sublist rfl (MultiIndex.sublist_erase _ _) (List.Sublist.refl _)
  | removeFromPeerGray pe =>
    exact inv.of_sublist rfl (List.Sublist.refl _) (MultiIndex.sublist_erase _ _)
  | evictHostFromPeerlist useWhite pr => exact inv.filter useWhite _
  | filter white f => exact inv.filter white f

theorem run (inv : PeerlistInvariant m) (ops : List (PeerlistOp Addr)) :
    PeerlistInvariant (m.run ops) := by
  induction ops generalizing m with
  | nil => exact inv
  | cons op rest ih => exact ih (inv.apply op)

/-- `init` with empty lists. -/
theorem init (allowLocalIp : Bool) :
    PeerlistInvariant
      (PeerlistManager.empty.init (⟨[], []⟩ : PeerlistTypes Addr) allowLocalIp).2 := by
  have white : (PeerlistManager.empty.init (⟨[], []⟩ : PeerlistTypes Addr)
      allowLocalIp).2.peersWhite.entries = [] := rfl
  have gray : (PeerlistManager.empty.init (⟨[], []⟩ : PeerlistTypes Addr)
      allowLocalIp).2.peersGray.entries = [] := rfl
  constructor <;> simp [white, gray]

end PeerlistInvariant

namespace PeerlistManager

variable [DecidableEq Addr]

/-- While the white list has room, a new white peer keeps every white entry, those of its own host
included: the eviction of the host goes to the gray list. -/
theorem mem_appendWithPeerWhite_of_room (m : PeerlistManager Addr) (ple : PeerlistEntry Addr)
    (trustLastSeen : Bool) (absent : ple.adr ∉ m.peersWhite.entries.map PeerlistEntry.adr)
    (room : m.peersWhite.entries.length < p2pLocalWhitePeerlistLimit) {e : PeerlistEntry Addr}
    (he : e ∈ m.peersWhite.entries) : e ∈ (m.appendWithPeerWhite ple trustLastSeen).peersWhite.entries := by
  rcases appendWithPeerWhite_cases m ple trustLastSeen with
    unchanged | ⟨-, -, ⟨-, white, -⟩ | ⟨stored, mem, sameAdr, -, -⟩⟩
  · rw [unchanged]
    exact he
  · have fits : (m.peersWhite.insert ple).entries.length ≤ p2pLocalWhitePeerlistLimit := by
      rw [MultiIndex.length_insert_of_not_mem _ absent]
      omega
    rw [white]
    show e ∈ MultiIndex.trimFront _ (m.peersWhite.insert ple).entries
    rw [MultiIndex.trimFront_of_length_le fits, MultiIndex.mem_insert_of_not_mem _ absent]
    exact .inr he
  · exact absurd (List.mem_map.mpr ⟨stored, mem, sameAdr⟩) absent

/-- A full white list trims at once a new peer seen before all its entries. -/
theorem not_mem_appendWithPeerWhite_of_full (m : PeerlistManager Addr) (ple : PeerlistEntry Addr)
    (trustLastSeen : Bool) (absent : ple.adr ∉ m.peersWhite.entries.map PeerlistEntry.adr)
    (full : m.peersWhite.entries.length = p2pLocalWhitePeerlistLimit)
    (older : ∀ e ∈ m.peersWhite.entries, ple.lastSeen < e.lastSeen) :
    ple.adr ∉ (m.appendWithPeerWhite ple trustLastSeen).peersWhite.entries.map PeerlistEntry.adr := by
  rcases appendWithPeerWhite_cases m ple trustLastSeen with
    unchanged | ⟨-, -, ⟨-, white, -⟩ | ⟨stored, mem, sameAdr, -, -⟩⟩
  · rw [unchanged]
    exact absent
  · rw [white]
    show ple.adr ∉ (MultiIndex.trimFront _ (m.peersWhite.insert ple).entries).map _
    -- the oldest entry is linked first, and the trim erases just it
    rw [MultiIndex.entries_insert_of_not_mem _ absent, MultiIndex.orderedInsert_of_lt _ older,
      MultiIndex.trimFront_cons_of_length _ full]
    exact absent
  · exact absurd (List.mem_map.mpr ⟨stored, mem, sameAdr⟩) absent

end PeerlistManager

variable [DecidableEq Addr]

open PeerlistManager in
/-- From `init` with empty lists, every run keeps the lists disjoint, of allowed hosts and within
their limits. A new white peer keeps the white entries of its own host while the list has room, and
is trimmed itself from a full list when it is the oldest. -/
theorem peerlistManager_invariants :
    (∀ (allowLocalIp : Bool) (ops : List (PeerlistOp Addr)),
      PeerlistInvariant ((PeerlistManager.empty.init ⟨[], []⟩ allowLocalIp).2.run ops)) ∧
    (∀ (m : PeerlistManager Addr) (ple : PeerlistEntry Addr) (trustLastSeen : Bool),
      ple.adr ∉ m.peersWhite.entries.map PeerlistEntry.adr →
      m.peersWhite.entries.length < p2pLocalWhitePeerlistLimit →
      ∀ e ∈ m.peersWhite.entries, e ∈ (m.appendWithPeerWhite ple trustLastSeen).peersWhite.entries) ∧
    (∀ (m : PeerlistManager Addr) (ple : PeerlistEntry Addr) (trustLastSeen : Bool),
      ple.adr ∉ m.peersWhite.entries.map PeerlistEntry.adr →
      m.peersWhite.entries.length = p2pLocalWhitePeerlistLimit →
      (∀ e ∈ m.peersWhite.entries, ple.lastSeen < e.lastSeen) →
      ple.adr ∉ (m.appendWithPeerWhite ple trustLastSeen).peersWhite.entries.map
        PeerlistEntry.adr) :=
  ⟨fun allowLocalIp ops => (PeerlistInvariant.init allowLocalIp).run ops,
    fun m ple trustLastSeen absent room _ he =>
      mem_appendWithPeerWhite_of_room m ple trustLastSeen absent room he,
    fun m ple trustLastSeen absent full older =>
      not_mem_appendWithPeerWhite_of_full m ple trustLastSeen absent full older⟩

/-- A full white list: the ports 0 to 999 of the host 8.8.8.8, all seen at time 1. -/
def fullWhitePeers : PeersIndexed Ipv4NetworkAddress where
  entries := (List.range 1000).map fun i => ⟨⟨0x08080808, i.toUInt16⟩, 0, 1, 0, 0, 0⟩
  unique := by
    rw [List.map_map]
    refine List.Nodup.map_on (fun i hi j hj same => ?_) List.nodup_range
    simp only [Function.comp, Ipv4NetworkAddress.mk.injEq, true_and] at same
    have ports := congrArg UInt16.toNat same
    simp [List.mem_range] at hi hj ports
    omega
  sorted := by
    rw [List.pairwise_map]
    exact List.pairwise_of_forall fun _ _ => le_refl _

/-- Two white peers of the host 1.2.3.4 on two ports, appended one after the other from empty
lists, are both white; and a peer of 1.2.3.4 seen at time 0 does not stay on the full list. -/
theorem peerlistManager_invariants_sameHost :
    let a : PeerlistEntry Ipv4NetworkAddress := ⟨⟨0x04030201, 18080⟩, 1, 100, 0, 0, 0⟩
    let b : PeerlistEntry Ipv4NetworkAddress := ⟨⟨0x04030201, 18081⟩, 2, 200, 0, 0, 0⟩
    let m := (PeerlistManager.empty.init ⟨[], []⟩ false).2.run [.appendWithPeerWhite a false]
    let full : PeerlistManager Ipv4NetworkAddress := ⟨false, MultiIndex.empty, fullWhitePeers⟩
    (NetworkAddress.isSameHost b.adr a.adr = true ∧ a.adr ≠ b.adr ∧ m.isHostAllowed b.adr = true ∧
      a ∈ (m.appendWithPeerWhite b false).peersWhite.entries ∧
      b ∈ (m.appendWithPeerWhite b false).peersWhite.entries) ∧
    (full.isHostAllowed a.adr = true ∧
      a.adr ∉ (full.appendWithPeerWhite { a with lastSeen := 0 } true).peersWhite.entries.map
        PeerlistEntry.adr) := by
  intro a b m full
  have absentFull : a.adr ∉ full.peersWhite.entries.map PeerlistEntry.adr := by
    simp [full, fullWhitePeers, a]
  refine ⟨⟨by decide, by decide, by decide,
      peerlistManager_invariants.2.1 m b false (by decide) (by decide) a (by decide), by decide⟩,
    by decide,
    peerlistManager_invariants.2.2 full { a with lastSeen := 0 } true absentFull
      (by simp [full, fullWhitePeers, p2pLocalWhitePeerlistLimit])
      (by simp [full, fullWhitePeers])⟩

end Sumokoin.P2p
