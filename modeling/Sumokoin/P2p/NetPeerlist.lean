import Sumokoin.ProofKit.MultiIndex
import Sumokoin.Epee.NetUtilsBase

/-! `nodetool::peerlist_manager` of `p2p/net_peerlist.{h,cpp}`: the white list of the peers the
node has been connected to and the gray list of those it has heard of. Each is a
`multi_index_container` unique by address and ordered by `last_seen`; the manager moves addresses
between them, trims them to their limits and keeps out the hosts it does not allow.

The anchor list, the lock, the config folder and the storage are left out, as are the queries that
change nothing. Every modelled operation returns `true` in the source (an exception apart), so here
it returns the new manager. `last_seen` is a `time_t`, kept as an integer. -/

namespace Sumokoin.P2p

open Sumokoin.ProofKit Sumokoin.Epee

/-- `P2P_LOCAL_WHITE_PEERLIST_LIMIT` of `p2p_config.h`. -/
def p2pLocalWhitePeerlistLimit : Nat := 1000

/-- `P2P_LOCAL_GRAY_PEERLIST_LIMIT` of `p2p_config.h`. -/
def p2pLocalGrayPeerlistLimit : Nat := 5000

/-- `peerlist_entry`, the `peerlist_entry_base` of `p2p_protocol_defs.h` over the address type. -/
structure PeerlistEntry (Addr : Type) where
  adr : Addr
  id : UInt64
  lastSeen : Int
  pruningSeed : UInt32
  rpcPort : UInt16
  rpcCreditsPerHash : UInt32
  deriving DecidableEq, Repr

/-- `peers_indexed`: `by_addr` unique, `by_time` ordered by `last_seen`. -/
abbrev PeersIndexed (Addr : Type) :=
  MultiIndex (@PeerlistEntry.adr Addr) PeerlistEntry.lastSeen

/-- `peerlist_types`, without the anchor list. -/
structure PeerlistTypes (Addr : Type) where
  white : List (PeerlistEntry Addr)
  gray : List (PeerlistEntry Addr)

/-- `peerlist_manager`: `m_allow_local_ip`, `m_peers_gray` and `m_peers_white`. -/
structure PeerlistManager (Addr : Type) where
  allowLocalIp : Bool
  peersGray : PeersIndexed Addr
  peersWhite : PeersIndexed Addr

namespace PeerlistManager

variable {Addr : Type} [DecidableEq Addr] [NetworkAddress Addr]

/-- A manager as constructed, before `init`. -/
def empty : PeerlistManager Addr := ⟨false, MultiIndex.empty, MultiIndex.empty⟩

/-- `add_peers(dest, src)`: a range insertion, which skips an address already there. -/
def addPeers (dest : PeersIndexed Addr) (src : List (PeerlistEntry Addr)) : PeersIndexed Addr :=
  src.foldl MultiIndex.insert dest

/-- `init(peers, allow_local_ip)`, refused unless the lists are empty. -/
def init (m : PeerlistManager Addr) (peers : PeerlistTypes Addr) (allowLocalIp : Bool) :
    Bool × PeerlistManager Addr :=
  if !m.peersWhite.entries.isEmpty || !m.peersGray.entries.isEmpty then (false, m)
  else
    (true, { allowLocalIp
             peersWhite := addPeers m.peersWhite peers.white
             peersGray := addPeers m.peersGray peers.gray })

/-- `is_host_allowed(address)`: never a loopback address, and a local one only when local ips are
allowed. -/
def isHostAllowed (m : PeerlistManager Addr) (address : Addr) : Bool :=
  if NetworkAddress.isLoopback address then false
  else if !m.allowLocalIp && NetworkAddress.isLocal address then false
  else true

/-- The loop of `trim_gray_peerlist` and `trim_white_peerlist`: the entry first in `by_time`,
erased while there are more than `limit`. -/
def trimPeerlist (limit : Nat) (peers : PeersIndexed Addr) : PeersIndexed Addr :=
  peers.trim limit

/-- `trim_gray_peerlist()`. -/
def trimGrayPeerlist (m : PeerlistManager Addr) : PeerlistManager Addr :=
  { m with peersGray := trimPeerlist p2pLocalGrayPeerlistLimit m.peersGray }

/-- `trim_white_peerlist()`. -/
def trimWhitePeerlist (m : PeerlistManager Addr) : PeerlistManager Addr :=
  { m with peersWhite := trimPeerlist p2pLocalWhitePeerlistLimit m.peersWhite }

/-- `filter(white, f)`: the entries `f` picks, erased from the list that `white` selects, and how
many they were. The source selects with `white ? m_peers_gray : m_peers_white`. -/
def filter (m : PeerlistManager Addr) (white : Bool) (f : PeerlistEntry Addr → Bool) :
    PeerlistManager Addr × Nat :=
  if white then ({ m with peersGray := m.peersGray.eraseIf f }, (m.peersGray.entries.filter f).length)
  else ({ m with peersWhite := m.peersWhite.eraseIf f }, (m.peersWhite.entries.filter f).length)

/-- `evict_host_from_peerlist(use_white, pr)`: the entries of `pr`'s host, filtered out. -/
def evictHostFromPeerlist (m : PeerlistManager Addr) (useWhite : Bool) (pr : PeerlistEntry Addr) :
    PeerlistManager Addr :=
  (m.filter useWhite fun pe => NetworkAddress.isSameHost pe.adr pr.adr).1

/-- `new_ple` of the update branches of `append_with_peer_white` and `append_with_peer_gray`:
`ple`, with the stored pruning seed and RPC port where `ple` has none, and the stored `last_seen`
unless `ple`'s is trusted. -/
def updatedEntry (stored ple : PeerlistEntry Addr) (trustLastSeen : Bool) : PeerlistEntry Addr :=
  { ple with
    pruningSeed :=
      if stored.pruningSeed != 0 && ple.pruningSeed == 0 then stored.pruningSeed else ple.pruningSeed
    rpcPort := if stored.rpcPort != 0 && ple.rpcPort == 0 then stored.rpcPort else ple.rpcPort
    lastSeen := if trustLastSeen then ple.lastSeen else stored.lastSeen }

/-- `append_with_peer_white(ple, trust_last_seen)`. -/
def appendWithPeerWhite (m : PeerlistManager Addr) (ple : PeerlistEntry Addr)
    (trustLastSeen : Bool) : PeerlistManager Addr :=
  if !m.isHostAllowed ple.adr then m
  else
    let m :=
      match m.peersWhite.find ple.adr with
      | none =>
        -- a new record: the host's entries are evicted first
        let m := m.evictHostFromPeerlist true ple
        trimWhitePeerlist { m with peersWhite := m.peersWhite.insert ple }
      | some stored =>
        { m with peersWhite := m.peersWhite.replace (updatedEntry stored ple trustLastSeen) }
    { m with peersGray := m.peersGray.erase ple.adr }

/-- `append_with_peer_gray(ple)`: a white address is left alone. -/
def appendWithPeerGray (m : PeerlistManager Addr) (ple : PeerlistEntry Addr) :
    PeerlistManager Addr :=
  if !m.isHostAllowed ple.adr then m
  else if (m.peersWhite.find ple.adr).isSome then m
  else
    match m.peersGray.find ple.adr with
    | none => trimGrayPeerlist { m with peersGray := m.peersGray.insert ple }
    | some stored => { m with peersGray := m.peersGray.replace (updatedEntry stored ple false) }

/-- `set_peer_just_seen(peer, addr, pruning_seed, rpc_port, rpc_credits_per_hash)` at the time
`now`. -/
def setPeerJustSeen (m : PeerlistManager Addr) (peer : UInt64) (addr : Addr) (pruningSeed : UInt32)
    (rpcPort : UInt16) (rpcCreditsPerHash : UInt32) (now : Int) : PeerlistManager Addr :=
  m.appendWithPeerWhite ⟨addr, peer, now, pruningSeed, rpcPort, rpcCreditsPerHash⟩ true

/-- `merge_peerlist(outer_bs, f)`: each entry that `f` passes (all of them without `f`), appended
to the gray list, which is trimmed at the end. -/
def mergePeerlist (m : PeerlistManager Addr) (outerBs : List (PeerlistEntry Addr))
    (f : Option (PeerlistEntry Addr → Bool)) : PeerlistManager Addr :=
  trimGrayPeerlist <|
    outerBs.foldl (fun m be => if f.all (fun f => f be) then m.appendWithPeerGray be else m) m

/-- `remove_from_peer_white(pe)`. -/
def removeFromPeerWhite (m : PeerlistManager Addr) (pe : PeerlistEntry Addr) :
    PeerlistManager Addr :=
  { m with peersWhite := m.peersWhite.erase pe.adr }

/-- `remove_from_peer_gray(pe)`. -/
def removeFromPeerGray (m : PeerlistManager Addr) (pe : PeerlistEntry Addr) :
    PeerlistManager Addr :=
  { m with peersGray := m.peersGray.erase pe.adr }

end PeerlistManager

/-- The operations of `peerlist_manager` that change its lists. -/
inductive PeerlistOp (Addr : Type)
  | appendWithPeerWhite (ple : PeerlistEntry Addr) (trustLastSeen : Bool)
  | appendWithPeerGray (ple : PeerlistEntry Addr)
  | setPeerJustSeen (peer : UInt64) (addr : Addr) (pruningSeed : UInt32) (rpcPort : UInt16)
      (rpcCreditsPerHash : UInt32) (now : Int)
  | mergePeerlist (outerBs : List (PeerlistEntry Addr)) (f : Option (PeerlistEntry Addr → Bool))
  | removeFromPeerWhite (pe : PeerlistEntry Addr)
  | removeFromPeerGray (pe : PeerlistEntry Addr)
  | evictHostFromPeerlist (useWhite : Bool) (pr : PeerlistEntry Addr)
  | filter (white : Bool) (f : PeerlistEntry Addr → Bool)

namespace PeerlistManager

variable {Addr : Type} [DecidableEq Addr] [NetworkAddress Addr]

/-- One operation. -/
def apply (m : PeerlistManager Addr) : PeerlistOp Addr → PeerlistManager Addr
  | .appendWithPeerWhite ple trustLastSeen => m.appendWithPeerWhite ple trustLastSeen
  | .appendWithPeerGray ple => m.appendWithPeerGray ple
  | .setPeerJustSeen peer addr pruningSeed rpcPort rpcCreditsPerHash now =>
    m.setPeerJustSeen peer addr pruningSeed rpcPort rpcCreditsPerHash now
  | .mergePeerlist outerBs f => m.mergePeerlist outerBs f
  | .removeFromPeerWhite pe => m.removeFromPeerWhite pe
  | .removeFromPeerGray pe => m.removeFromPeerGray pe
  | .evictHostFromPeerlist useWhite pr => m.evictHostFromPeerlist useWhite pr
  | .filter white f => (m.filter white f).1

/-- Operations one after another. -/
def run (m : PeerlistManager Addr) (ops : List (PeerlistOp Addr)) : PeerlistManager Addr :=
  ops.foldl apply m

end PeerlistManager

end Sumokoin.P2p
