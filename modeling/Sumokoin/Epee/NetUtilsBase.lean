import Mathlib

/-! The network addresses of `epee::net_utils` (`net_utils_base.h`, `local_ip.h`) as far as the
peer lists read them: whether two addresses are of one host, and whether an address is a loopback
or a local one. An address type stands for `network_address`, whose `less` orders addresses
strictly, so that two addresses are one entry of a unique index exactly when they are equal. -/

namespace Sumokoin.Epee

/-- The queries of `network_address` that the peer lists make. -/
class NetworkAddress (Addr : Type) where
  isSameHost : Addr → Addr → Bool
  isLoopback : Addr → Bool
  isLocal : Addr → Bool

/-- `is_ip_local(ip)`: 10.0.0.0/8, 192.168.0.0/16 and 172.16.0.0/12, the first octet in the low
byte. `SWAP32LE` is the identity on the little-endian hosts modelled. -/
def isIpLocal (ip : UInt32) : Bool :=
  if (ip ||| 0xffffff00) == 0xffffff0a then true
  else if (ip ||| 0xffff0000) == 0xffffa8c0 then true
  else if (ip ||| 0xffffff00) == 0xffffffac then
    let secondNum := (ip >>> 8) &&& 0xff
    16 ≤ secondNum && secondNum ≤ 31
  else false

/-- `is_ip_loopback(ip)`: 127.0.0.0/8. -/
def isIpLoopback (ip : UInt32) : Bool := (ip ||| 0xffffff00) == 0xffffff7f

/-- `ipv4_network_address`; the derived equality is its `equal`, of the ip and the port. -/
structure Ipv4NetworkAddress where
  ip : UInt32
  port : UInt16
  deriving DecidableEq, Repr

/-- An IPv4 address names its host by the ip alone: `is_same_host` ignores the port. -/
instance : NetworkAddress Ipv4NetworkAddress where
  isSameHost a b := a.ip == b.ip
  isLoopback a := isIpLoopback a.ip
  isLocal a := isIpLocal a.ip

end Sumokoin.Epee
