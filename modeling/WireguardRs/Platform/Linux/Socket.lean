import WireguardRs.Platform.Linux.Endpoint
/-!
# Reading and writing datagrams

`LinuxUDPReader::read` makes one `recvmsg` call and builds the endpoint
from what the kernel wrote at `msg_name` and in the control buffer;
`LinuxUDPWriter::write` builds a `msghdr` from an endpoint and makes one
`sendmsg` call. The kernel's side is an argument: the datagram it
delivers (`Datagram`), or the value `sendmsg` returns.

The reader keeps the peer's name as raw memory, so the address it reports
is the peer's only on a big-endian host (`intoAddress_received4_big`,
`intoAddress_received6_big`); on a little-endian one the port comes back
byte-swapped and the octets reversed. The writer sends IPv4 datagrams to
the endpoint's destination (`write_V4`) and panics on IPv6 (`write_V6`).
-/

namespace WireguardRs

namespace Linux

/-- `RawFd`. -/
abbrev RawFd := Int

/-- Results compare by their constructor and contents. -/
instance decEqExcept {ε α : Type} [DecidableEq ε] [DecidableEq α] : DecidableEq (Except ε α)
  | .error a, .error b => decidable_of_iff (a = b) (by simp)
  | .ok a, .ok b => decidable_of_iff (a = b) (by simp)
  | .error _, .ok _ => isFalse nofun
  | .ok _, .error _ => isFalse nofun

/-- `io::ErrorKind`, the kinds the bind uses. -/
inductive ErrorKind where
  | Other
  | NotConnected
  deriving DecidableEq, Repr

/-- `io::Error::new(kind, msg)`. -/
structure IoError where
  kind : ErrorKind
  msg : String
  deriving DecidableEq, Repr

/-- The panic of `&buf[0]` on an empty slice. -/
def indexPanic : String := "index out of bounds: the len is 0 but the index is 0"

/-- The panic of `unimplemented!()`. -/
def unimplementedPanic : String := "not implemented"

/-- The kernel's name for an IPv4 address, as the array `recvmsg` writes. -/
def SocketAddrV4.kernelName (e : Endian) (a : SocketAddrV4) : U8Array 16 :=
  ⟨(SocketAddr.V4 a).kernelBytes e, by simp [SocketAddr.kernelBytes, a.ip.octets.length_toList]⟩

/-- The kernel's name for an IPv6 address, as the array `recvmsg` writes. -/
def SocketAddrV6.kernelName (e : Endian) (a : SocketAddrV6) : U8Array 28 :=
  ⟨(SocketAddr.V6 a).kernelBytes e, by simp [SocketAddr.kernelBytes, a.ip.octets.length_toList]⟩

/-! ## Receiving -/

/-- A datagram the kernel holds for a socket: its payload, the peer it
came from, and the packet information it reports with it. -/
structure Datagram (Addr Info : Type) where
  payload : List UInt8
  peer : Addr
  info : Info
  deriving DecidableEq, Repr

/-- The buffer after `recvmsg` stored `data` at its start. -/
def fill (buf data : List UInt8) : List UInt8 := data ++ buf.drop data.length

/-- `LinuxUDPReader::read4`: one `recvmsg` into `buf`, given what the
kernel delivers on the socket (`none` when the call fails). The kernel
copies at most `buf.len()` payload bytes, writes the peer's name over
the whole `sockaddr_in` and the packet information over the control
buffer's body, where `CMSG_DATA` of its first header lies. -/
def read4 (e : Endian) (buf : List UInt8) (d : Option (Datagram SocketAddrV4 InPktinfo)) :
    Except String (List UInt8 × Except IoError (Nat × LinuxEndpoint)) :=
  if buf = [] then .error indexPanic
  else match d with
    | none => .ok (buf, .error ⟨.NotConnected, "failed to send"⟩)
    | some d =>
      let data := d.payload.take buf.length
      .ok (fill buf data,
        .ok (data.length, .V4 { info := d.info, dst := SockaddrIn.ofBytes e (d.peer.kernelName e) }))

/-- `LinuxUDPReader::read6`. -/
def read6 (e : Endian) (buf : List UInt8) (d : Option (Datagram SocketAddrV6 In6Pktinfo)) :
    Except String (List UInt8 × Except IoError (Nat × LinuxEndpoint)) :=
  if buf = [] then .error indexPanic
  else match d with
    | none => .ok (buf, .error ⟨.NotConnected, "failed to send"⟩)
    | some d =>
      let data := d.payload.take buf.length
      .ok (fill buf data,
        .ok (data.length, .V6 { info := d.info, dst := SockaddrIn6.ofBytes e (d.peer.kernelName e) }))

/-- `LinuxUDPReader`: a socket of one family. -/
inductive LinuxUDPReader where
  | V4 (fd : RawFd)
  | V6 (fd : RawFd)
  deriving DecidableEq, Repr

namespace LinuxUDPReader

/-- What the kernel can deliver on a reader's socket. -/
def Incoming : LinuxUDPReader → Type
  | V4 _ => Option (Datagram SocketAddrV4 InPktinfo)
  | V6 _ => Option (Datagram SocketAddrV6 In6Pktinfo)

/-- `Reader::read`. -/
def read (e : Endian) : (r : LinuxUDPReader) → List UInt8 → r.Incoming →
    Except String (List UInt8 × Except IoError (Nat × LinuxEndpoint))
  | V4 _, buf, d => read4 e buf d
  | V6 _, buf, d => read6 e buf d

end LinuxUDPReader

/-- The endpoint `read4` returns for a datagram from `a` with packet
information `i`. -/
def received4 (e : Endian) (a : SocketAddrV4) (i : InPktinfo) : LinuxEndpoint :=
  .V4 { info := i, dst := SockaddrIn.ofBytes e (a.kernelName e) }

/-- The endpoint `read6` returns for a datagram from `a` with packet
information `i`. -/
def received6 (e : Endian) (a : SocketAddrV6) (i : In6Pktinfo) : LinuxEndpoint :=
  .V6 { info := i, dst := SockaddrIn6.ofBytes e (a.kernelName e) }

variable {e : Endian} {buf : List UInt8}

/-- **What `read4` returns** on a non-empty buffer when the kernel delivers
a datagram: the first `buf.len()` payload bytes, their count, and the
endpoint of the peer. -/
theorem read4_some (hbuf : buf ≠ []) (d : Datagram SocketAddrV4 InPktinfo) :
    read4 e buf (some d) = .ok (fill buf (d.payload.take buf.length),
      .ok ((d.payload.take buf.length).length, received4 e d.peer d.info)) := by
  simp [read4, hbuf, received4]

/-- **What `read6` returns**, likewise. -/
theorem read6_some (hbuf : buf ≠ []) (d : Datagram SocketAddrV6 In6Pktinfo) :
    read6 e buf (some d) = .ok (fill buf (d.payload.take buf.length),
      .ok ((d.payload.take buf.length).length, received6 e d.peer d.info)) := by
  simp [read6, hbuf, received6]

/-- The payload and endpoint a reader's socket delivers, if any. -/
def LinuxUDPReader.delivered (e : Endian) : (r : LinuxUDPReader) → r.Incoming →
    Option (List UInt8 × LinuxEndpoint)
  | V4 _, some d => some (d.payload, received4 e d.peer d.info)
  | V6 _, some d => some (d.payload, received6 e d.peer d.info)
  | V4 _, none => none
  | V6 _, none => none

/-- **What `read` returns**, on either family: for a delivered datagram the
first `buf.len()` payload bytes stored at the buffer's start, their count
and the endpoint; an error otherwise. -/
theorem LinuxUDPReader.read_eq (r : LinuxUDPReader) (inc : r.Incoming) (hbuf : buf ≠ []) :
    r.read e buf inc = match r.delivered e inc with
      | some (payload, src) =>
        .ok (fill buf (payload.take buf.length), .ok ((payload.take buf.length).length, src))
      | none => .ok (buf, .error ⟨.NotConnected, "failed to send"⟩) := by
  cases r with
  | V4 fd =>
    cases inc with
    | some d => exact read4_some hbuf d
    | none => simp [read, delivered, read4, hbuf]
  | V6 fd =>
    cases inc with
    | some d => exact read6_some hbuf d
    | none => simp [read, delivered, read6, hbuf]

/-- The `sockaddr_in` a host reads from the kernel's name: the port is the
network-order value read in host order. -/
theorem ofBytes_kernelName4 (a : SocketAddrV4) :
    SockaddrIn.ofBytes e (a.kernelName e) =
      { sinFamily := AF_INET
        sinPort := e.toBe16 a.port
        sinAddr := ⟨e.read32 a.ip.octets.toList⟩
        sinZero := U8Array.zero 8 } := by
  have ho := a.ip.octets.length_toList
  simp only [SockaddrIn.ofBytes, SocketAddrV4.kernelName, SocketAddr.kernelBytes, List.append_assoc]
  simp [List.take_append_eq_append_take, List.drop_append_eq_append_drop, List.drop_eq_nil_of_le,
    ho, Endian.read16_beBytes]
  exact U8Array.ext (by simp [U8Array.zero])

/-- The `sockaddr_in6` a host reads from the kernel's name. -/
theorem ofBytes_kernelName6 (a : SocketAddrV6) :
    SockaddrIn6.ofBytes e (a.kernelName e) =
      { sin6Family := AF_INET6
        sin6Port := e.toBe16 a.port
        sin6Flowinfo := a.flowinfo
        sin6Addr := ⟨a.ip.octets⟩
        sin6ScopeId := a.scopeId } := by
  have ho := a.ip.octets.length_toList
  simp only [SockaddrIn6.ofBytes, SocketAddrV6.kernelName, SocketAddr.kernelBytes, List.append_assoc]
  simp [List.take_append_eq_append_take, List.drop_append_eq_append_drop, List.drop_eq_nil_of_le,
    ho, Endian.read16_beBytes]

/-- The IPv4 address a host reads back from the kernel's octets. -/
theorem ofU32_read32 (o : U8Array 4) :
    Ipv4Addr.ofU32 (e.read32 o.toList) = ⟨U8Array.ofBe 4 (e.ofNeBytes o.toList)⟩ := by
  have hlt : e.ofNeBytes o.toList < 4294967296 := by
    simpa [o.length_toList] using e.ofNeBytes_lt o.toList
  simp [Ipv4Addr.ofU32, Endian.read32, Nat.mod_eq_of_lt hlt]

/-- **On a big-endian host a received IPv4 endpoint reports its peer.** -/
theorem intoAddress_received4_big (a : SocketAddrV4) (i : InPktinfo) :
    (received4 .big a i).intoAddress .big = .V4 a := by
  simp only [received4, ofBytes_kernelName4, LinuxEndpoint.intoAddress, ofU32_read32,
    Endian.ofNeBytes, U8Array.ofBe_ofBeBytes, Endian.toBe16_big]

/-- **On a big-endian host a received IPv6 endpoint reports its peer.** -/
theorem intoAddress_received6_big (a : SocketAddrV6) (i : In6Pktinfo) :
    (received6 .big a i).intoAddress .big = .V6 a := by
  simp only [received6, ofBytes_kernelName6, LinuxEndpoint.intoAddress, Ipv6Addr.ofU128,
    u128FromNeBytes, Endian.ofNeBytes, U8Array.ofBe_ofBeBytes, Endian.toBe16_big]

/-- **On a little-endian host a received IPv4 endpoint reports its peer
with the port byte-swapped and the octets reversed.** -/
theorem intoAddress_received4_little (a : SocketAddrV4) (i : InPktinfo) :
    (received4 .little a i).intoAddress .little =
      ((SocketAddr.V4 a).setPort (Endian.little.toBe16 a.port)).reverseIp := by
  simp only [received4, ofBytes_kernelName4, LinuxEndpoint.intoAddress, ofU32_read32,
    Endian.ofNeBytes, U8Array.ofBe_ofLeBytes]
  rfl

/-- **Likewise for IPv6.** -/
theorem intoAddress_received6_little (a : SocketAddrV6) (i : In6Pktinfo) :
    (received6 .little a i).intoAddress .little =
      ((SocketAddr.V6 a).setPort (Endian.little.toBe16 a.port)).reverseIp := by
  simp only [received6, ofBytes_kernelName6, LinuxEndpoint.intoAddress, Ipv6Addr.ofU128,
    u128FromNeBytes, Endian.ofNeBytes, U8Array.ofBe_ofLeBytes]
  rfl

/-- On a little-endian host, a one-byte datagram from `1.2.3.4:80` read
into a one-byte buffer yields an endpoint reporting `4.3.2.1:20480`. -/
theorem read4_little_sample :
    ∃ ep, read4 .little [0] (some ⟨[7], ⟨⟨⟨[1, 2, 3, 4], rfl⟩⟩, 80⟩, ⟨0, ⟨0⟩, ⟨0⟩⟩⟩) =
        .ok ([7], .ok (1, ep)) ∧
      ep.intoAddress .little = .V4 ⟨⟨⟨[4, 3, 2, 1], rfl⟩⟩, 20480⟩ := by
  refine ⟨_, read4_some (by simp) _, ?_⟩
  rw [intoAddress_received4_little]
  decide

/-! ## Sending -/

/-- `libc::IPPROTO_IP`. -/
def IPPROTO_IP : UInt32 := 0

/-- `libc::IP_PKTINFO`. -/
def IP_PKTINFO : UInt32 := 8

/-- `size_of::<ControlHeaderV4>()`: a `cmsghdr` and an `in_pktinfo`,
padded to the header's 8-byte alignment. -/
def SIZEOF_CONTROL_HEADER_V4 : Nat := 32

/-- `libc::cmsghdr`; level and type are the bits of their `c_int`s. -/
structure Cmsghdr where
  cmsgLen : Nat
  cmsgLevel : UInt32
  cmsgType : UInt32
  deriving DecidableEq, Repr

/-- `ControlHeaderV4`. -/
structure ControlHeaderV4 where
  hdr : Cmsghdr
  body : InPktinfo
  deriving DecidableEq, Repr

/-- The memory of a `ControlHeaderV4`; the trailing padding is zero. -/
def ControlHeaderV4.toBytes (e : Endian) (c : ControlHeaderV4) : List UInt8 :=
  e.toNeBytes 8 c.hdr.cmsgLen ++ e.bytes32 c.hdr.cmsgLevel ++ e.bytes32 c.hdr.cmsgType ++
    e.bytes32 c.body.ipiIfindex ++ e.bytes32 c.body.ipiSpecDst.sAddr ++
    e.bytes32 c.body.ipiAddr.sAddr ++ List.replicate 4 0

/-- `libc::msghdr`, with the memory its pointers point at. -/
structure Msghdr where
  msgName : List UInt8
  msgNamelen : Nat
  msgIov : List (List UInt8)
  msgControl : List UInt8
  msgControllen : Nat
  msgFlags : Int
  deriving DecidableEq, Repr

/-- The `msghdr` `write4` hands `sendmsg`. Its `msg_controllen` is `1`,
shorter than a 16-byte `cmsghdr`, so the kernel finds no control message
in it and the packet information is never read; and the header's
`cmsg_len` is the padded struct size `32`, not the `CMSG_LEN(12) = 28` the
kernel requires of an `IP_PKTINFO` message. -/
def write4Hdr (e : Endian) (buf : List UInt8) (dst : EndpointV4) : Msghdr :=
  let control : ControlHeaderV4 := ⟨⟨SIZEOF_CONTROL_HEADER_V4, IPPROTO_IP, IP_PKTINFO⟩, dst.info⟩
  { msgName := dst.dst.toBytes e
    msgNamelen := 16
    msgIov := [buf]
    msgControl := control.toBytes e
    msgControllen := 1
    msgFlags := 0 }

/-- A `sendmsg` call: the descriptor and the header. -/
structure SendCall where
  fd : RawFd
  hdr : Msghdr
  deriving DecidableEq, Repr

/-- `LinuxUDPWriter::write4`: the one `sendmsg` it makes and its result,
given the value the kernel returns for it. -/
def write4 (e : Endian) (fd : RawFd) (buf : List UInt8) (dst : EndpointV4) (ret : Int) :
    Except String (SendCall × Except IoError Unit) :=
  if buf = [] then .error indexPanic
  else .ok (⟨fd, write4Hdr e buf dst⟩,
    if ret < 0 then .error ⟨.NotConnected, "failed to send IPv4 packet"⟩ else .ok ())

/-- `LinuxUDPWriter::write6`: `unimplemented!()`. -/
def write6 (_fd : RawFd) (_buf : List UInt8) (_dst : EndpointV6) :
    Except String (SendCall × Except IoError Unit) :=
  .error unimplementedPanic

/-- `LinuxUDPWriter`: the two sockets, `-1` for a family that did not
bind. -/
structure LinuxUDPWriter where
  sock4 : RawFd
  sock6 : RawFd
  deriving DecidableEq, Repr

/-- `Writer::write`. -/
def LinuxUDPWriter.write (e : Endian) (w : LinuxUDPWriter) (buf : List UInt8) (ret : Int) :
    LinuxEndpoint → Except String (SendCall × Except IoError Unit)
  | .V4 ep => write4 e w.sock4 buf ep ret
  | .V6 ep => write6 w.sock6 buf ep

variable (e)

end Linux

end WireguardRs
