import WireguardRs.Platform.ByteOrder
/-!
# Linux endpoints

A `LinuxEndpoint` is a destination `sockaddr` and the packet information
the kernel reported for the datagram it came from. This file models the
`std::net` addresses, the libc structures with their memory layouts, the
layout the kernel reads and writes for an address
(`SocketAddr.kernelBytes`), and `fromAddress`, `intoAddress`, `clearSrc`.

Both conversions are right only on a big-endian host: there the stored
name is the kernel's (`dstBytes_fromAddress_big`) and the round trip is
the identity (`intoAddress_fromAddress_big`). On a little-endian host the
name carries the port byte-swapped (`dstBytes_fromAddress`) and the round
trip reverses the address octets (`intoAddress_fromAddress_little`).
-/

namespace WireguardRs

namespace Linux

/-- A Rust byte array `[u8; n]`. -/
structure U8Array (n : Nat) where
  toList : List UInt8
  length_toList : toList.length = n
  deriving DecidableEq, Repr

namespace U8Array

variable {n : Nat}

theorem ext {a b : U8Array n} (h : a.toList = b.toList) : a = b := by
  cases a; cases b; cases h; rfl

/-- `[0; n]`. -/
def zero (n : Nat) : U8Array n := ⟨List.replicate n 0, List.length_replicate n 0⟩

/-- The same bytes in the opposite order. -/
def reverse (a : U8Array n) : U8Array n := ⟨a.toList.reverse, by simp [a.length_toList]⟩

/-- The array of the `n` big-endian bytes of `x`. -/
def ofBe (n x : Nat) : U8Array n := ⟨beBytes n x, length_beBytes n x⟩

@[simp] theorem toList_ofBe (x : Nat) : (ofBe n x).toList = beBytes n x := rfl

theorem ofBe_ofBeBytes (a : U8Array n) : ofBe n (ofBeBytes a.toList) = a :=
  ext (by simpa [a.length_toList] using beBytes_ofBeBytes a.toList)

theorem ofBe_ofLeBytes (a : U8Array n) : ofBe n (ofLeBytes a.toList) = a.reverse :=
  ext (by simpa [a.length_toList] using beBytes_ofLeBytes a.toList)

theorem ofBeBytes_lt (a : U8Array n) : ofBeBytes a.toList < 256 ^ n := by
  simpa [a.length_toList] using WireguardRs.ofBeBytes_lt a.toList

theorem ofLeBytes_lt (a : U8Array n) : ofLeBytes a.toList < 256 ^ n := by
  simpa [a.length_toList] using WireguardRs.ofLeBytes_lt a.toList

end U8Array

/-! ## `std::net` addresses -/

/-- `std::net::Ipv4Addr`: four octets, most significant first. -/
structure Ipv4Addr where
  octets : U8Array 4
  deriving DecidableEq, Repr

/-- `std::net::Ipv6Addr`: sixteen octets, most significant first. -/
structure Ipv6Addr where
  octets : U8Array 16
  deriving DecidableEq, Repr

/-- `std::net::SocketAddrV4`. -/
structure SocketAddrV4 where
  ip : Ipv4Addr
  port : UInt16
  deriving DecidableEq, Repr

/-- `std::net::SocketAddrV6`. -/
structure SocketAddrV6 where
  ip : Ipv6Addr
  port : UInt16
  flowinfo : UInt32
  scopeId : UInt32
  deriving DecidableEq, Repr

/-- `std::net::SocketAddr`. -/
inductive SocketAddr where
  | V4 (addr : SocketAddrV4)
  | V6 (addr : SocketAddrV6)
  deriving DecidableEq, Repr

/-- `u32::from(ip)`: the octets read as a big-endian integer. -/
def Ipv4Addr.toU32 (ip : Ipv4Addr) : UInt32 := UInt32.ofNat (ofBeBytes ip.octets.toList)

/-- `Ipv4Addr::from(x)` for `x : u32`. -/
def Ipv4Addr.ofU32 (x : UInt32) : Ipv4Addr := ⟨U8Array.ofBe 4 x.toNat⟩

/-- `Ipv6Addr::from(x)` for `x : u128`. -/
def Ipv6Addr.ofU128 (x : Nat) : Ipv6Addr := ⟨U8Array.ofBe 16 x⟩

/-- `u128::from_ne_bytes(bytes)`. -/
def u128FromNeBytes (e : Endian) (bytes : U8Array 16) : Nat := e.ofNeBytes bytes.toList

/-- The address with its octets in the opposite order. -/
def SocketAddr.reverseIp : SocketAddr → SocketAddr
  | .V4 a => .V4 { a with ip := ⟨a.ip.octets.reverse⟩ }
  | .V6 a => .V6 { a with ip := ⟨a.ip.octets.reverse⟩ }

/-! ## libc structures -/

/-- `libc::AF_INET` on Linux. -/
def AF_INET : UInt16 := 2

/-- `libc::AF_INET6` on Linux. -/
def AF_INET6 : UInt16 := 10

/-- `libc::in_addr`. -/
structure InAddr where
  sAddr : UInt32
  deriving DecidableEq, Repr

/-- `libc::in6_addr`. -/
structure In6Addr where
  s6Addr : U8Array 16
  deriving DecidableEq, Repr

/-- `libc::sockaddr_in`. -/
structure SockaddrIn where
  sinFamily : UInt16
  sinPort : UInt16
  sinAddr : InAddr
  sinZero : U8Array 8
  deriving DecidableEq, Repr

/-- `libc::sockaddr_in6`. -/
structure SockaddrIn6 where
  sin6Family : UInt16
  sin6Port : UInt16
  sin6Flowinfo : UInt32
  sin6Addr : In6Addr
  sin6ScopeId : UInt32
  deriving DecidableEq, Repr

/-- `libc::in_pktinfo`; the interface index is the bit pattern of its `c_int`. -/
structure InPktinfo where
  ipiIfindex : UInt32
  ipiSpecDst : InAddr
  ipiAddr : InAddr
  deriving DecidableEq, Repr

/-- `libc::in6_pktinfo`. -/
structure In6Pktinfo where
  ipi6Addr : In6Addr
  ipi6Ifindex : UInt32
  deriving DecidableEq, Repr

/-- `SocketAddr::port`. -/
def SocketAddr.port : SocketAddr → UInt16
  | .V4 a => a.port
  | .V6 a => a.port

/-- `SocketAddr::set_port`. -/
def SocketAddr.setPort (p : UInt16) : SocketAddr → SocketAddr
  | .V4 a => .V4 { a with port := p }
  | .V6 a => .V6 { a with port := p }

@[simp] theorem SocketAddr.setPort_port (a : SocketAddr) : a.setPort a.port = a := by
  cases a <;> rfl

/-! ## Memory layouts -/

/-- The sixteen bytes of a `sockaddr_in` in memory. -/
def SockaddrIn.toBytes (e : Endian) (sa : SockaddrIn) : List UInt8 :=
  e.bytes16 sa.sinFamily ++ e.bytes16 sa.sinPort ++ e.bytes32 sa.sinAddr.sAddr ++ sa.sinZero.toList

/-- The twenty-eight bytes of a `sockaddr_in6` in memory. -/
def SockaddrIn6.toBytes (e : Endian) (sa : SockaddrIn6) : List UInt8 :=
  e.bytes16 sa.sin6Family ++ e.bytes16 sa.sin6Port ++ e.bytes32 sa.sin6Flowinfo ++
    sa.sin6Addr.s6Addr.toList ++ e.bytes32 sa.sin6ScopeId

@[simp] theorem SockaddrIn.length_toBytes (e : Endian) (sa : SockaddrIn) :
    (sa.toBytes e).length = 16 := by
  simp [SockaddrIn.toBytes, sa.sinZero.length_toList]

@[simp] theorem SockaddrIn6.length_toBytes (e : Endian) (sa : SockaddrIn6) :
    (sa.toBytes e).length = 28 := by
  simp [SockaddrIn6.toBytes, sa.sin6Addr.s6Addr.length_toList]

/-- The `sockaddr_in` a host reads from sixteen bytes of memory. -/
def SockaddrIn.ofBytes (e : Endian) (bs : U8Array 16) : SockaddrIn where
  sinFamily := e.read16 (bs.toList.take 2)
  sinPort := e.read16 ((bs.toList.drop 2).take 2)
  sinAddr := ⟨e.read32 ((bs.toList.drop 4).take 4)⟩
  sinZero := ⟨bs.toList.drop 8, by simp [bs.length_toList]⟩

/-- The `sockaddr_in6` a host reads from twenty-eight bytes of memory. -/
def SockaddrIn6.ofBytes (e : Endian) (bs : U8Array 28) : SockaddrIn6 where
  sin6Family := e.read16 (bs.toList.take 2)
  sin6Port := e.read16 ((bs.toList.drop 2).take 2)
  sin6Flowinfo := e.read32 ((bs.toList.drop 4).take 4)
  sin6Addr := ⟨⟨(bs.toList.drop 8).take 16, by simp [bs.length_toList]⟩⟩
  sin6ScopeId := e.read32 (bs.toList.drop 24)

/-- A `sockaddr_in` as the array of its bytes. -/
def SockaddrIn.toArray (e : Endian) (sa : SockaddrIn) : U8Array 16 := ⟨sa.toBytes e, by simp⟩

/-- A `sockaddr_in6` as the array of its bytes. -/
def SockaddrIn6.toArray (e : Endian) (sa : SockaddrIn6) : U8Array 28 := ⟨sa.toBytes e, by simp⟩

/-- Reading a `sockaddr_in` back from its own memory gives it back. -/
@[simp] theorem SockaddrIn.ofBytes_toArray (e : Endian) (sa : SockaddrIn) :
    SockaddrIn.ofBytes e (sa.toArray e) = sa := by
  have hz := sa.sinZero.length_toList
  simp only [ofBytes, toArray, toBytes, List.append_assoc]
  simp [List.take_append_eq_append_take, List.drop_append_eq_append_drop, List.drop_eq_nil_of_le, hz]

/-- Reading a `sockaddr_in6` back from its own memory gives it back. -/
@[simp] theorem SockaddrIn6.ofBytes_toArray (e : Endian) (sa : SockaddrIn6) :
    SockaddrIn6.ofBytes e (sa.toArray e) = sa := by
  have ha := sa.sin6Addr.s6Addr.length_toList
  simp only [ofBytes, toArray, toBytes, List.append_assoc]
  simp [List.take_append_eq_append_take, List.drop_append_eq_append_drop, List.drop_eq_nil_of_le, ha]

/-- **What the kernel reads at `msg_name` for an address, and writes there
on receive**: the family in host order, the port in network order and the
address octets in order. For IPv6 the flow information and scope id are
the values `std` holds, as it stores them itself. -/
def SocketAddr.kernelBytes (e : Endian) : SocketAddr → List UInt8
  | .V4 a => e.bytes16 AF_INET ++ beBytes 2 a.port.toNat ++ a.ip.octets.toList ++ List.replicate 8 0
  | .V6 a => e.bytes16 AF_INET6 ++ beBytes 2 a.port.toNat ++ e.bytes32 a.flowinfo ++
      a.ip.octets.toList ++ e.bytes32 a.scopeId

/-! ## Endpoints -/

/-- `EndpointV4`: the destination and the packet information the kernel
reported (source address and interface). -/
structure EndpointV4 where
  dst : SockaddrIn
  info : InPktinfo
  deriving DecidableEq, Repr

/-- `EndpointV6`. -/
structure EndpointV6 where
  dst : SockaddrIn6
  info : In6Pktinfo
  deriving DecidableEq, Repr

/-- `LinuxEndpoint`. -/
inductive LinuxEndpoint where
  | V4 (ep : EndpointV4)
  | V6 (ep : EndpointV6)
  deriving DecidableEq, Repr

namespace LinuxEndpoint

/-- `clear_src`: zero the source hint, so that the kernel routes by table. -/
def clearSrc : LinuxEndpoint → LinuxEndpoint
  | V4 ep => V4 { ep with info := { ep.info with ipiIfindex := 0, ipiSpecDst := ⟨0⟩ } }
  | V6 ep => V6 { ep with info := { ep.info with ipi6Addr := ⟨U8Array.zero 16⟩, ipi6Ifindex := 0 } }

/-- `from_address`, on a host of byte order `e`. -/
def fromAddress (e : Endian) : SocketAddr → LinuxEndpoint
  | .V4 addr => V4 {
      dst := {
        sinFamily := AF_INET
        sinPort := addr.port
        sinAddr := ⟨e.toBe32 addr.ip.toU32⟩
        sinZero := U8Array.zero 8 }
      info := { ipiIfindex := 0, ipiSpecDst := ⟨0⟩, ipiAddr := ⟨0⟩ } }
  | .V6 addr => V6 {
      dst := {
        sin6Family := AF_INET6
        sin6Port := addr.port
        sin6Flowinfo := addr.flowinfo
        sin6Addr := ⟨addr.ip.octets⟩
        sin6ScopeId := addr.scopeId }
      info := { ipi6Addr := ⟨U8Array.zero 16⟩, ipi6Ifindex := 0 } }

/-- `into_address`, on a host of byte order `e`. -/
def intoAddress (e : Endian) : LinuxEndpoint → SocketAddr
  | V4 ep => .V4 ⟨Ipv4Addr.ofU32 ep.dst.sinAddr.sAddr, ep.dst.sinPort⟩
  | V6 ep => .V6 ⟨Ipv6Addr.ofU128 (u128FromNeBytes e ep.dst.sin6Addr.s6Addr), ep.dst.sin6Port,
      ep.dst.sin6Flowinfo, ep.dst.sin6ScopeId⟩

/-- The bytes `write` hands `sendmsg` as `msg_name`: the destination's
memory. -/
def dstBytes (e : Endian) : LinuxEndpoint → List UInt8
  | V4 ep => ep.dst.toBytes e
  | V6 ep => ep.dst.toBytes e

variable (e : Endian)

/-! ## The destination `from_address` stores -/

/-- The stored `s_addr` is the host's reading of the address octets. -/
theorem toBe32_toU32 (ip : Ipv4Addr) :
    e.toBe32 ip.toU32 = UInt32.ofNat (e.ofNeBytes ip.octets.toList) := by
  have hlt := ip.octets.ofBeBytes_lt
  have hbe := ip.octets.ofBe_ofBeBytes
  rw [Endian.toBe32, Ipv4Addr.toU32, Endian.toNat_uInt32_ofNat, Nat.mod_eq_of_lt hlt]
  cases e
  · rw [Endian.toBe, ← U8Array.toList_ofBe, hbe]
    rfl
  · rfl

/-- **The name `from_address` stores.** On either host it is the kernel's
encoding of the address with the port replaced by `port.to_be()`: the
port is stored in host byte order, the address octets in order. -/
theorem dstBytes_fromAddress (a : SocketAddr) :
    (fromAddress e a).dstBytes e = (a.setPort (e.toBe16 a.port)).kernelBytes e := by
  cases a with
  | V4 a =>
    have hoct : e.bytes32 (e.toBe32 a.ip.toU32) = a.ip.octets.toList := by
      rw [Endian.bytes32_toBe32, Ipv4Addr.toU32, Endian.toNat_uInt32_ofNat,
        Nat.mod_eq_of_lt a.ip.octets.ofBeBytes_lt, ← U8Array.toList_ofBe, U8Array.ofBe_ofBeBytes]
    simp [fromAddress, dstBytes, SockaddrIn.toBytes, SocketAddr.kernelBytes, SocketAddr.setPort,
      SocketAddr.port, hoct, Endian.bytes16_eq_beBytes, U8Array.zero]
  | V6 a =>
    simp [fromAddress, dstBytes, SockaddrIn6.toBytes, SocketAddr.kernelBytes, SocketAddr.setPort,
      SocketAddr.port, Endian.bytes16_eq_beBytes]

/-- On a big-endian host the stored name is the kernel's encoding of the
address itself. -/
theorem dstBytes_fromAddress_big (a : SocketAddr) :
    (fromAddress .big a).dstBytes .big = a.kernelBytes .big := by
  rw [dstBytes_fromAddress, Endian.toBe16_big, SocketAddr.setPort_port]

/-- On a little-endian host the name `from_address(1.2.3.4:80)` stores is
the kernel's encoding of `1.2.3.4:20480`, not of `1.2.3.4:80`. -/
theorem dstBytes_fromAddress_little_port :
    (fromAddress .little (.V4 ⟨⟨⟨[1, 2, 3, 4], rfl⟩⟩, 80⟩)).dstBytes .little =
        (SocketAddr.V4 ⟨⟨⟨[1, 2, 3, 4], rfl⟩⟩, 20480⟩).kernelBytes .little ∧
      (fromAddress .little (.V4 ⟨⟨⟨[1, 2, 3, 4], rfl⟩⟩, 80⟩)).dstBytes .little ≠
        (SocketAddr.V4 ⟨⟨⟨[1, 2, 3, 4], rfl⟩⟩, 80⟩).kernelBytes .little := by
  rw [dstBytes_fromAddress]
  exact ⟨rfl, by decide⟩

/-! ## The round trip -/

/-- On a big-endian host `into_address` inverts `from_address`. -/
theorem intoAddress_fromAddress_big (a : SocketAddr) :
    (fromAddress .big a).intoAddress .big = a := by
  cases a with
  | V4 a =>
    simp only [fromAddress, intoAddress, toBe32_toU32, Ipv4Addr.ofU32, Endian.toNat_uInt32_ofNat,
      Endian.ofNeBytes, Nat.mod_eq_of_lt a.ip.octets.ofBeBytes_lt]
    exact congrArg (fun ip => SocketAddr.V4 ⟨⟨ip⟩, a.port⟩) a.ip.octets.ofBe_ofBeBytes
  | V6 a =>
    exact congrArg (fun ip => SocketAddr.V6 ⟨⟨ip⟩, a.port, a.flowinfo, a.scopeId⟩)
      a.ip.octets.ofBe_ofBeBytes

/-- On a little-endian host `into_address` returns the address of
`from_address` with its octets reversed. -/
theorem intoAddress_fromAddress_little (a : SocketAddr) :
    (fromAddress .little a).intoAddress .little = a.reverseIp := by
  cases a with
  | V4 a =>
    simp only [fromAddress, intoAddress, toBe32_toU32, Ipv4Addr.ofU32, Endian.toNat_uInt32_ofNat,
      Endian.ofNeBytes, Nat.mod_eq_of_lt a.ip.octets.ofLeBytes_lt]
    exact congrArg (fun ip => SocketAddr.V4 ⟨⟨ip⟩, a.port⟩) a.ip.octets.ofBe_ofLeBytes
  | V6 a =>
    exact congrArg (fun ip => SocketAddr.V6 ⟨⟨ip⟩, a.port, a.flowinfo, a.scopeId⟩)
      a.ip.octets.ofBe_ofLeBytes

/-- On a little-endian host `into_address(from_address(1.2.3.4:80))` is
`4.3.2.1:80`. -/
theorem intoAddress_fromAddress_little_sample :
    (fromAddress .little (.V4 ⟨⟨⟨[1, 2, 3, 4], rfl⟩⟩, 80⟩)).intoAddress .little =
      .V4 ⟨⟨⟨[4, 3, 2, 1], rfl⟩⟩, 80⟩ := by
  rw [intoAddress_fromAddress_little]
  rfl

end LinuxEndpoint

end Linux

end WireguardRs
