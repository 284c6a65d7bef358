import WireguardRs.Platform.Linux.Kernel
/-!
# The bind

`LinuxUDP::bind` opens an IPv6 socket on the desired port, then an IPv4
socket on the port the IPv6 bind reported, and hands out one reader per
family that bound, a writer and the owner of the sockets. The model is
the release build: the `debug_assert`s are left out.

Both per-family binds call `getsockname` with `socklen` set to `0`, so
nothing is copied and the port reported is the port asked for. The
per-family specs are derived in the kernel module's program logic. On
every kernel (`bind_spec`) `bind` closes no descriptor, and a success
reports the port asked for and keeps only sockets bound to it, or, for
port `0`, to ports the kernel chose (`bind_zero_sample`); an early return
leaves its family's socket open (`bind_fails_sample`).
-/

namespace WireguardRs

namespace Linux

/-- `libc::SOL_SOCKET`. -/
def SOL_SOCKET : UInt32 := 1

/-- `libc::SO_REUSEADDR`. -/
def SO_REUSEADDR : UInt32 := 2

/-- `libc::SO_MARK`. -/
def SO_MARK : UInt32 := 36

/-- `libc::IPPROTO_IPV6`. -/
def IPPROTO_IPV6 : UInt32 := 41

/-- `libc::IPV6_RECVPKTINFO`. -/
def IPV6_RECVPKTINFO : UInt32 := 49

/-- `libc::IPV6_V6ONLY`. -/
def IPV6_V6ONLY : UInt32 := 26

/-- The error every failed step of a bind returns. -/
def createError : IoError := ⟨.Other, "failed to create socket"⟩

/-- `setsockopt(fd, level, name, &value)`, for a value of the given bytes. -/
def setsockopt (fd : RawFd) (level name : UInt32) (value : List UInt8) :
    ExceptT IoError KernelM Unit := do
  let res ← sysSetsockopt fd level name value
  if res = 0 then pure () else throw ⟨.Other, "Failed to set sockopt"⟩

/-- `setsockopt_int`: a `c_int` option value. -/
def setsockoptInt (e : Endian) (fd : RawFd) (level name value : UInt32) :
    ExceptT IoError KernelM Unit :=
  setsockopt fd level name (e.bytes32 value)

/-- `bytes` copied over the start of `a`. -/
def U8Array.overwrite {n : Nat} (a : U8Array n) (bytes : List UInt8) : U8Array n :=
  ⟨(bytes ++ a.toList.drop bytes.length).take n, by simp [a.length_toList]; omega⟩

@[simp] theorem U8Array.overwrite_nil {n : Nat} (a : U8Array n) : a.overwrite [] = a :=
  U8Array.ext (by simp [overwrite, a.length_toList])

/-- `LinuxUDP::bind6`: the port the bind reports and the socket. -/
def bind6 (e : Endian) (port : UInt16) : ExceptT IoError KernelM (UInt16 × RawFd) := do
  let fd ← sysSocket .inet6
  if fd < 0 then throw createError
  setsockoptInt e fd SOL_SOCKET SO_REUSEADDR 1
  setsockoptInt e fd IPPROTO_IPV6 IPV6_RECVPKTINFO 1
  setsockoptInt e fd IPPROTO_IPV6 IPV6_V6ONLY 1
  let sockaddr : SockaddrIn6 :=
    { sin6Addr := ⟨U8Array.zero 16⟩
      sin6Family := AF_INET6
      sin6Port := e.toBe16 port
      sin6ScopeId := 0
      sin6Flowinfo := 0 }
  let err ← sysBind fd (sockaddr.toBytes e)
  if err ≠ 0 then throw createError
  let socklen : Nat := 0
  let (err, copied, _) ← sysGetsockname e fd socklen
  if err ≠ 0 then throw createError
  let sockaddr := SockaddrIn6.ofBytes e ((sockaddr.toArray e).overwrite copied)
  return (e.toBe16 sockaddr.sin6Port, fd)

/-- `LinuxUDP::bind4`. -/
def bind4 (e : Endian) (port : UInt16) : ExceptT IoError KernelM (UInt16 × RawFd) := do
  let fd ← sysSocket .inet
  if fd < 0 then throw createError
  setsockoptInt e fd SOL_SOCKET SO_REUSEADDR 1
  setsockoptInt e fd IPPROTO_IP IP_PKTINFO 1
  let sockaddr : SockaddrIn :=
    { sinAddr := ⟨0⟩
      sinFamily := AF_INET
      sinPort := e.toBe16 port
      sinZero := U8Array.zero 8 }
  let err ← sysBind fd (sockaddr.toBytes e)
  if err ≠ 0 then throw createError
  let socklen : Nat := 0
  let (err, copied, _) ← sysGetsockname e fd socklen
  if err ≠ 0 then throw createError
  let sockaddr := SockaddrIn.ofBytes e ((sockaddr.toArray e).overwrite copied)
  return (e.toBe16 sockaddr.sinPort, fd)

/-- `LinuxOwner`. -/
structure LinuxOwner where
  port : UInt16
  sock4 : Option RawFd
  sock6 : Option RawFd
  deriving DecidableEq, Repr

namespace LinuxOwner

/-- `Owner::get_port`. -/
def getPort (o : LinuxOwner) : UInt16 := o.port

/-- The sockets the owner holds. -/
def socks (o : LinuxOwner) : List RawFd := o.sock6.toList ++ o.sock4.toList

/-- `set_mark`, inside `set_fwmark`. -/
def setMark (fd : Option RawFd) (value : UInt32) (e : Endian) : ExceptT IoError KernelM Unit :=
  match fd with
  | some fd => setsockopt fd SOL_SOCKET SO_MARK (e.bytes32 value)
  | none => pure ()

/-- `Owner::set_fwmark`. -/
def setFwmark (e : Endian) (o : LinuxOwner) (value : Option UInt32) :
    ExceptT IoError KernelM Unit := do
  let value := value.getD 0
  setMark o.sock6 value e
  setMark o.sock4 value e

/-- `Drop::drop`: close the IPv4 socket, then the IPv6 one. -/
def drop (o : LinuxOwner) : KernelM Unit := do
  if let some fd := o.sock4 then discard <| sysClose fd
  if let some fd := o.sock6 then discard <| sysClose fd

end LinuxOwner

/-- `PlatformUDP::bind`. -/
def bind (e : Endian) (port : UInt16) :
    KernelM (Except IoError (List LinuxUDPReader × LinuxUDPWriter × LinuxOwner)) := do
  let bind6 ← (bind6 e port).run
  let port := match bind6 with
    | .ok (newPort, _) => newPort
    | .error _ => port
  let bind4 ← (bind4 e port).run
  let port := match bind4 with
    | .ok (newPort, _) => newPort
    | .error _ => port
  match bind6, bind4 with
  | .error err6, .error _ => return .error err6
  | _, _ =>
    let sock6 := bind6.toOption.map Prod.snd
    let sock4 := bind4.toOption.map Prod.snd
    let owner : LinuxOwner := { port, sock6, sock4 }
    let readers := sock6.toList.map LinuxUDPReader.V6 ++ sock4.toList.map LinuxUDPReader.V4
    let writer : LinuxUDPWriter := { sock4 := sock4.getD (-1), sock6 := sock6.getD (-1) }
    return .ok (readers, writer, owner)

/-! ## Every kernel -/

/-- `setsockopt` closes nothing. -/
theorem triple_setsockopt {S : Kernel → Prop} (hS : Stable S) (fd : RawFd) (level name : UInt32)
    (value : List UInt8) : Triple S (setsockopt fd level name value) fun _ => S :=
  .bind (.lift_stable (grows_sysSetsockopt fd level name value) hS) fun _ =>
    .ite (fun _ => .pure fun _ h => h) fun _ => .throw

/-- The kernel reads the port of an address laid out as a family and a
port, each stored by the host, as `to_be` of the stored port. -/
theorem bindPort_bytes16 (e : Endian) (family port : UInt16) (rest : List UInt8) :
    bindPort (e.bytes16 family ++ (e.bytes16 port ++ rest)) = e.toBe16 port := by
  rw [bindPort, List.drop_left' (e.length_bytes16 _), List.take_left' (e.length_bytes16 _),
    Endian.bytes16_eq_beBytes, ofBeBytes_beBytes, Nat.mod_eq_of_lt (Endian.toNat_lt16 _),
    Endian.uInt16_ofNat_toNat]

/-- **`bind6`, on every kernel.** It closes nothing, and on success it
reports the port asked for and returns a descriptor bound to it. -/
theorem bind6_spec (e : Endian) (port : UInt16) :
    Triple (fun _ => True) (bind6 e port) fun r k => r.1 = port ∧ 0 ≤ r.2 ∧ k.BoundTo r.2.toNat port := by
  refine .bind (.lift_stable (grows_sysSocket .inet6) stable_true) fun fd => ?_
  dsimp only
  refine .ite (fun _ => .throw_bind) fun hfd => ?_
  simp only [pure_bind]
  refine .bind (triple_setsockopt stable_true _ _ _ _) fun _ => ?_
  refine .bind (triple_setsockopt stable_true _ _ _ _) fun _ => ?_
  refine .bind (triple_setsockopt stable_true _ _ _ _) fun _ => ?_
  refine .bind (triple_sysBind stable_true _ _) fun err => ?_
  dsimp only
  refine .ite (fun _ => .throw_bind) fun herr => ?_
  have hport : bindPort (SockaddrIn6.toBytes e
      { sin6Family := AF_INET6, sin6Port := e.toBe16 port, sin6Flowinfo := 0,
        sin6Addr := { s6Addr := U8Array.zero 16 }, sin6ScopeId := 0 }) = port := by
    simp only [SockaddrIn6.toBytes, List.append_assoc, bindPort_bytes16, Endian.toBe16_toBe16]
  refine .bind (.mono (triple_sysGetsockname (stable_boundTo fd.toNat port) e fd)
    (fun k hk => hport ▸ hk.2 (not_not.1 herr)) fun _ _ h => h) fun r => ?_
  refine .ite (fun _ => .throw_bind) fun _ => .pure fun k ⟨hb, hc⟩ => ⟨?_, Int.not_lt.1 hfd, hb⟩
  rw [hc, U8Array.overwrite_nil, SockaddrIn6.ofBytes_toArray, Endian.toBe16_toBe16]

/-- **`bind4`, on every kernel.** -/
theorem bind4_spec (e : Endian) (port : UInt16) :
    Triple (fun _ => True) (bind4 e port) fun r k => r.1 = port ∧ 0 ≤ r.2 ∧ k.BoundTo r.2.toNat port := by
  refine .bind (.lift_stable (grows_sysSocket .inet) stable_true) fun fd => ?_
  dsimp only
  refine .ite (fun _ => .throw_bind) fun hfd => ?_
  simp only [pure_bind]
  refine .bind (triple_setsockopt stable_true _ _ _ _) fun _ => ?_
  refine .bind (triple_setsockopt stable_true _ _ _ _) fun _ => ?_
  refine .bind (triple_sysBind stable_true _ _) fun err => ?_
  dsimp only
  refine .ite (fun _ => .throw_bind) fun herr => ?_
  have hport : bindPort (SockaddrIn.toBytes e
      { sinFamily := AF_INET, sinPort := e.toBe16 port, sinAddr := ⟨0⟩, sinZero := U8Array.zero 8 }) =
      port := by
    simp only [SockaddrIn.toBytes, List.append_assoc, bindPort_bytes16, Endian.toBe16_toBe16]
  refine .bind (.mono (triple_sysGetsockname (stable_boundTo fd.toNat port) e fd)
    (fun k hk => hport ▸ hk.2 (not_not.1 herr)) fun _ _ h => h) fun r => ?_
  refine .ite (fun _ => .throw_bind) fun _ => .pure fun k ⟨hb, hc⟩ => ⟨?_, Int.not_lt.1 hfd, hb⟩
  rw [hc, U8Array.overwrite_nil, SockaddrIn.ofBytes_toArray, Endian.toBe16_toBe16]

/-- **`bind`, on every kernel.** Whatever the kernel answers, `bind`
closes no descriptor: every socket it opened is still open when it
returns, `Ok` or `Err`. On `Ok` there is a reader, the owner reports the
port asked for, and every socket it holds is bound to that port, or, for
port `0`, to a non-zero port. -/
theorem bind_spec (e : Endian) (p : UInt16) (k : Kernel) :
    k.Grows ((bind e p).run k).2 ∧ ∀ rs w o, ((bind e p).run k).1 = .ok (rs, w, o) →
      o.getPort = p ∧ rs ≠ [] ∧ ∀ fd ∈ o.socks, 0 ≤ fd ∧ ((bind e p).run k).2.BoundTo fd.toNat p := by
  obtain ⟨g6, q6⟩ := bind6_spec e p k trivial
  rcases h6 : (bind6 e p).run.run k with ⟨r6, k6⟩
  rw [h6] at g6 q6
  obtain ⟨g4, q4⟩ := bind4_spec e p k6 trivial
  rcases h4 : (bind4 e p).run.run k6 with ⟨r4, k4⟩
  rw [h4] at g4 q4
  have hg : k.Grows k4 := g6.trans g4
  rcases r6 with err6 | ⟨np, fd6⟩
  · simp only [bind, StateT.run_bind, Id.bind_eq, h6, h4]
    rcases r4 with err4 | ⟨np4, fd4⟩
    · exact ⟨hg, fun _ _ _ h => nomatch h⟩
    · obtain ⟨rfl, h04, hb4⟩ := q4 _ rfl
      refine ⟨hg, fun rs w o h => ?_⟩
      cases h
      refine ⟨rfl, List.cons_ne_nil _ _, fun fd hfd => ?_⟩
      obtain rfl : fd = fd4 := List.mem_singleton.1 hfd
      exact ⟨h04, hb4⟩
  · obtain ⟨rfl, h06, hb6⟩ := q6 _ rfl
    simp only [bind, StateT.run_bind, Id.bind_eq, h6, h4]
    rcases r4 with err4 | ⟨np4, fd4⟩
    · refine ⟨hg, fun rs w o h => ?_⟩
      cases h
      refine ⟨rfl, List.cons_ne_nil _ _, fun fd hfd => ?_⟩
      obtain rfl : fd = fd6 := List.mem_singleton.1 hfd
      exact ⟨h06, g4.boundTo hb6⟩
    · obtain ⟨rfl, h04, hb4⟩ := q4 _ rfl
      refine ⟨hg, fun rs w o h => ?_⟩
      cases h
      refine ⟨rfl, List.cons_ne_nil _ _, fun fd hfd => ?_⟩
      rcases List.mem_pair.1 hfd with rfl | rfl
      · exact ⟨h06, g4.boundTo hb6⟩
      · exact ⟨h04, hb4⟩

/-- A kernel with no open socket, whose next descriptor is `3`, and which
grants every call; binds to port `0` get `50000` for the first family and
`40000` for the second. -/
def grantingKernel : Kernel :=
  ⟨[], 3, List.replicate 6 (some ⟨50000, by decide⟩) ++ List.replicate 5 (some ⟨40000, by decide⟩),
    by simp⟩

/-- **A bind to port `0` reports port `0`.** Against a kernel that grants
every call, `bind(0)` succeeds with both families, its owner's port is
`0`, and the IPv6 socket is bound to `50000`, the IPv4 socket to
`40000`. -/
theorem bind_zero_sample (e : Endian) :
    ((bind e 0).run grantingKernel).1 = .ok ([.V6 3, .V4 4], ⟨4, 3⟩, ⟨0, some 4, some 3⟩) ∧
      (((bind e 0).run grantingKernel).2.socks.map fun s => (s.1, s.2.port)) =
        [(4, some 40000), (3, some 50000)] := by
  cases e <;> decide

/-- A kernel that grants the socket calls and options but refuses both
binds. -/
def refusingKernel : Kernel :=
  ⟨[], 3, [some ⟨1, by decide⟩, some ⟨1, by decide⟩, some ⟨1, by decide⟩, some ⟨1, by decide⟩, none,
    some ⟨1, by decide⟩, some ⟨1, by decide⟩, some ⟨1, by decide⟩, none], by simp⟩

/-- **A failed bind leaves its sockets open.** When the kernel refuses
both `bind` calls, `bind(51820)` returns `Err`, and the descriptors `3`
and `4` its two `socket` calls returned are still open. -/
theorem bind_fails_sample (e : Endian) :
    ((bind e 51820).run refusingKernel).1 = .error createError ∧
      (((bind e 51820).run refusingKernel).2.socks.map Prod.fst) = [4, 3] := by
  cases e <;> decide

/-- **`Drop` closes exactly the owner's sockets**: a descriptor is open
after it when it was open before and the owner does not hold it. -/
theorem drop_fds (o : LinuxOwner) (k : Kernel) (n : Nat) :
    n ∈ (o.drop.run k).2.fds ↔ n ∈ k.fds ∧ (n : Int) ∉ o.socks := by
  rcases o with ⟨port, _ | fd4, _ | fd6⟩ <;>
    simp [LinuxOwner.drop, LinuxOwner.socks, StateT.run_bind, run_discard, sysClose_fds]
  tauto

/-! ## The firewall mark

`set_fwmark` sets `SO_MARK` on the IPv6 socket and then on the IPv4 one,
each when the owner holds it, and stops at the first failure. The mark a
socket carries is the value of the newest `SO_MARK` option set on it. -/

/-- The mark set on a socket: the value of its newest `SO_MARK` option. -/
def Sock.mark (s : Sock) : Option (List UInt8) :=
  (s.opts.find? fun o => o.1 == SOL_SOCKET && o.2.1 == SO_MARK).map (·.2.2)

/-- The socket a descriptor names after `modify`. -/
theorem Kernel.sockOf_modify (k : Kernel) (n : Nat) (f : Sock → Sock) (fd : Int) :
    (k.modify n f).sockOf fd = (k.sockOf fd).map fun s => if fd.toNat = n then f s else s := by
  unfold Kernel.sockOf
  split
  · rfl
  · exact Kernel.lookup_modify _ _ _ _

theorem Kernel.sockOf_pop (k : Kernel) : k.pop.2.sockOf = k.sockOf := rfl

theorem Kernel.nonneg_of_sockOf {k : Kernel} {fd : Int} (h : (k.sockOf fd).isSome) : 0 ≤ fd := by
  by_contra hn
  simp [Kernel.sockOf, show fd < 0 by omega] at h

/-- `modify` at an open descriptor changes the socket of no other. -/
theorem Kernel.sockOf_modify_ne {k : Kernel} {fd fd' : Int} (ho : (k.sockOf fd).isSome) (hne : fd ≠ fd')
    (f : Sock → Sock) : (k.modify fd.toNat f).sockOf fd' = k.sockOf fd' := by
  rw [Kernel.sockOf_modify]
  rcases hs : k.sockOf fd' with _ | s
  · rfl
  · have h₁ := Kernel.nonneg_of_sockOf (show (k.sockOf fd').isSome by simp [hs])
    have h₂ := Kernel.nonneg_of_sockOf ho
    have : fd'.toNat ≠ fd.toNat := fun h => hne (by
      rw [← Int.toNat_of_nonneg h₂, ← Int.toNat_of_nonneg h₁, h])
    simp [this]

/-- `setsockopt` either fails, changing no socket, or, on an open socket,
adds the option to it. -/
theorem sysSetsockopt_cases (fd : Int) (level name : UInt32) (value : List UInt8) (k : Kernel) :
    (sysSetsockopt fd level name value).run k = (-1, k.pop.2) ∨
      ((k.sockOf fd).isSome ∧ (sysSetsockopt fd level name value).run k =
        (0, k.pop.2.modify fd.toNat fun s => { s with opts := (level, name, value) :: s.opts })) := by
  simp only [sysSetsockopt, StateT.run]
  rcases hp : k.pop with ⟨_ | q, k₁⟩
  · exact .inl rfl
  · have hs : k₁.sockOf = k.sockOf := by
      obtain rfl : k₁ = k.pop.2 := by rw [hp]
      rfl
    dsimp only
    rw [hs]
    split
    · exact .inr ⟨‹_›, rfl⟩
    · exact .inl rfl

theorem setsockopt_run (fd : RawFd) (level name : UInt32) (value : List UInt8) (k : Kernel) :
    (setsockopt fd level name value).run.run k =
      (if ((sysSetsockopt fd level name value).run k).1 = 0 then .ok ()
        else .error ⟨.Other, "Failed to set sockopt"⟩, ((sysSetsockopt fd level name value).run k).2) := by
  simp only [setsockopt, ExceptT.run_bind]
  show ((if ((sysSetsockopt fd level name value).run k).1 = 0 then pure () else throw _ :
    ExceptT IoError KernelM Unit).run.run _) = _
  split <;> rfl

/-- **`set_mark` on one socket.** It closes nothing, changes no other
socket, and when it returns `Ok` the socket it was given carries the
mark. -/
theorem setMark_spec (fd : Option RawFd) (value : UInt32) (e : Endian) (k : Kernel) :
    k.Grows ((LinuxOwner.setMark fd value e).run.run k).2 ∧
      (∀ fd', fd ≠ some fd' → ((LinuxOwner.setMark fd value e).run.run k).2.sockOf fd' = k.sockOf fd') ∧
      (((LinuxOwner.setMark fd value e).run.run k).1 = .ok () → ∀ fd', fd = some fd' →
        (((LinuxOwner.setMark fd value e).run.run k).2.sockOf fd').bind Sock.mark =
          some (e.bytes32 value)) := by
  rcases fd with _ | fd
  · exact ⟨.refl k, fun _ _ => rfl, fun _ _ h => nomatch h⟩
  have hg := grows_sysSetsockopt fd SOL_SOCKET SO_MARK (e.bytes32 value) k
  simp only [LinuxOwner.setMark, setsockopt_run]
  rcases sysSetsockopt_cases fd SOL_SOCKET SO_MARK (e.bytes32 value) k with h | ⟨ho, h⟩ <;> rw [h] at hg ⊢
  · exact ⟨hg, fun _ _ => rfl, fun h => by simp at h⟩
  · refine ⟨hg, fun fd' hne => ?_, fun _ fd' hfd => ?_⟩
    · exact @Kernel.sockOf_modify_ne k.pop.2 fd fd' ho (fun h => hne (congrArg some h)) _
    · obtain rfl := Option.some.inj hfd
      obtain ⟨s, hs⟩ := Option.isSome_iff_exists.1 ho
      rw [Kernel.sockOf_modify, Kernel.sockOf_pop]
      simp [hs, Sock.mark, SOL_SOCKET, SO_MARK]

/-- **`set_fwmark`, on every kernel.** It closes nothing and keeps every
bound port, changes no socket the owner does not hold, and when it
returns `Ok` every socket the owner holds carries the mark: the value
given, or `0` for `None`. -/
theorem setFwmark_spec (e : Endian) (o : LinuxOwner) (v : Option UInt32) (k : Kernel) :
    k.Grows ((o.setFwmark e v).run.run k).2 ∧
      (∀ fd, fd ∉ o.socks → ((o.setFwmark e v).run.run k).2.sockOf fd = k.sockOf fd) ∧
      (((o.setFwmark e v).run.run k).1 = .ok () → ∀ fd ∈ o.socks,
        (((o.setFwmark e v).run.run k).2.sockOf fd).bind Sock.mark = some (e.bytes32 (v.getD 0))) := by
  obtain ⟨g6, f6, m6⟩ := setMark_spec o.sock6 (v.getD 0) e k
  rcases h6 : (LinuxOwner.setMark o.sock6 (v.getD 0) e).run.run k with ⟨_ | _, k₆⟩ <;>
    simp only [h6] at g6 f6 m6 <;>
    simp only [LinuxOwner.setFwmark, ExceptT.run_bind, StateT.run_bind, Id.bind_eq, h6]
  · refine ⟨g6, fun fd hfd => f6 fd fun h => hfd (by simp [LinuxOwner.socks, h]), fun h => nomatch h⟩
  · obtain ⟨g4, f4, m4⟩ := setMark_spec o.sock4 (v.getD 0) e k₆
    refine ⟨g6.trans g4, fun fd hfd => ?_, fun h fd hfd => ?_⟩
    · rw [f4 fd fun h => hfd (by simp [LinuxOwner.socks, h]), f6 fd fun h => hfd (by simp [LinuxOwner.socks, h])]
    · rcases List.mem_append.1 hfd with h6' | h4'
      · have h6' : o.sock6 = some fd := Option.mem_toList.1 h6'
        by_cases h4 : o.sock4 = some fd
        · exact m4 h fd h4
        · rw [f4 fd h4]
          exact m6 trivial fd h6'
      · exact m4 h fd (Option.mem_toList.1 h4')

end Linux

end WireguardRs
