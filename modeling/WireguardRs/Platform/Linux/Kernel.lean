import WireguardRs.Platform.Linux.Socket
/-!
# The kernel's side of the bind

The kernel is a table of open sockets, the next descriptor `socket` will
return, and the verdicts it will give on the calls to come
(`Kernel.answers`): quantifying over every kernel quantifies over every
combination of failures and every ephemeral port. The calls follow their
POSIX contracts: `socket` returns a descriptor no open socket has, `bind`
to port `0` gives a non-zero port, and `getsockname` copies at most
`*addrlen` bytes of the name.

No call but `close` releases a descriptor, so every call the bind makes
takes a kernel to one that `Grows` from it. `Triple P m Q` is a Hoare
triple over that, with rules (`Triple.bind`, `Triple.ite`, ...) that
follow the shape of a `do` block.
-/

namespace WireguardRs

namespace Linux

/-- An address family. -/
inductive Family where
  | inet
  | inet6
  deriving DecidableEq, Repr

/-- A socket the kernel holds: its family, the options set on it (newest
first, as level, name and value bytes) and the port it is bound to. -/
structure Sock where
  family : Family
  opts : List (UInt32 × UInt32 × List UInt8)
  port : Option UInt16
  deriving DecidableEq, Repr

/-- A port the kernel may choose for a bind to port `0`. -/
abbrev EphemeralPort := {q : UInt16 // q ≠ 0}

/-- The kernel's verdict on one system call: `none` fails it, `some q`
lets it succeed, `q` being the port a bind to port `0` gets. -/
abbrev Answer := Option EphemeralPort

/-- The kernel: open sockets by descriptor, the next descriptor, and the
verdicts on the calls to come. -/
structure Kernel where
  socks : List (Nat × Sock)
  next : Nat
  answers : List Answer
  fresh : ∀ s ∈ socks, s.1 < next

/-- A computation against the kernel. -/
abbrev KernelM := StateM Kernel

namespace Kernel

variable (k : Kernel)

/-- The socket a descriptor names, if it is open. -/
def sockOf (fd : Int) : Option Sock :=
  if fd < 0 then none else k.socks.lookup fd.toNat

/-- The open descriptors. -/
def fds : List Nat := k.socks.map Prod.fst

/-- Take the verdict on the next call; a kernel out of verdicts fails it. -/
def pop : Answer × Kernel :=
  (k.answers.head?.join, { k with answers := k.answers.tail })

/-- Open a socket at the next descriptor. -/
def open_ (s : Sock) : Kernel where
  socks := (k.next, s) :: k.socks
  next := k.next + 1
  answers := k.answers
  fresh := by
    intro p hp
    rcases List.mem_cons.1 hp with rfl | hp
    · exact Nat.lt_succ_self _
    · exact Nat.lt_succ_of_lt (k.fresh p hp)

/-- Change the socket at a descriptor. -/
def modify (fd : Nat) (f : Sock → Sock) : Kernel where
  socks := k.socks.map fun p => (p.1, if p.1 = fd then f p.2 else p.2)
  next := k.next
  answers := k.answers
  fresh := by
    intro p hp
    obtain ⟨q, hq, rfl⟩ := List.mem_map.1 hp
    exact k.fresh q hq

/-- Release a descriptor. -/
def remove (fd : Nat) : Kernel where
  socks := k.socks.filter fun p => p.1 ≠ fd
  next := k.next
  answers := k.answers
  fresh := fun p hp => k.fresh p (List.mem_of_mem_filter hp)

end Kernel

/-- The name `getsockname` reports for a socket: the wildcard address of
its family and its port, `0` while it is unbound. -/
def Sock.name (e : Endian) (s : Sock) : List UInt8 :=
  match s.family with
  | .inet => (SocketAddr.V4 ⟨⟨U8Array.zero 4⟩, s.port.getD 0⟩).kernelBytes e
  | .inet6 => (SocketAddr.V6 ⟨⟨U8Array.zero 16⟩, s.port.getD 0, 0, 0⟩).kernelBytes e

/-- `socket(family, SOCK_DGRAM, 0)`. -/
def sysSocket (f : Family) : KernelM Int := fun k =>
  match k.pop with
  | (some _, k) => ((k.next : Int), k.open_ ⟨f, [], none⟩)
  | (none, k) => (-1, k)

/-- `setsockopt(fd, level, name, value)`. -/
def sysSetsockopt (fd : Int) (level name : UInt32) (value : List UInt8) : KernelM Int := fun k =>
  match k.pop with
  | (some _, k) =>
    if (k.sockOf fd).isSome then
      (0, k.modify fd.toNat fun s => { s with opts := (level, name, value) :: s.opts })
    else (-1, k)
  | (none, k) => (-1, k)

/-- `bind(fd, addr)`: the kernel reads the port, in network byte order,
from bytes 2 and 3 of the address. An unbound open socket is bound to that
port, or to the verdict's port when it is `0`. -/
def sysBind (fd : Int) (addr : List UInt8) : KernelM Int := fun k =>
  let p : UInt16 := UInt16.ofNat (ofBeBytes ((addr.drop 2).take 2))
  match k.pop with
  | (some q, k) =>
    match k.sockOf fd with
    | some { port := none, .. } =>
      (0, k.modify fd.toNat fun s => { s with port := some (if p = 0 then q.1 else p) })
    | _ => (-1, k)
  | (none, k) => (-1, k)

/-- `getsockname(fd, addr, &addrlen)`: the return value, the bytes copied
to `addr` (at most `addrlen` of them) and the value left in `addrlen`. -/
def sysGetsockname (e : Endian) (fd : Int) (addrlen : Nat) : KernelM (Int × List UInt8 × Nat) :=
  fun k =>
    match k.pop with
    | (some _, k) =>
      match k.sockOf fd with
      | some s => ((0, (s.name e).take addrlen, (s.name e).length), k)
      | none => ((-1, [], addrlen), k)
    | (none, k) => ((-1, [], addrlen), k)

/-- `close(fd)`: an open descriptor is released. -/
def sysClose (fd : Int) : KernelM Int := fun k =>
  if (k.sockOf fd).isSome then (0, k.remove fd.toNat) else (-1, k)

/-! ## Calls that close nothing -/

namespace Kernel

variable (k : Kernel)

/-- The port the socket at a descriptor is bound to. -/
def portOf (fd : Nat) : Option UInt16 := (k.socks.lookup fd).bind Sock.port

/-- `k'` follows `k` by calls that close nothing: every descriptor open
in `k` or handed out since is open in `k'`, and every socket bound in
`k` is bound to the same port in `k'`. -/
structure Grows (k k' : Kernel) : Prop where
  next_le : k.next ≤ k'.next
  mem_fds : ∀ fd, fd ∈ k.fds ∨ k.next ≤ fd ∧ fd < k'.next → fd ∈ k'.fds
  portOf_eq : ∀ fd p, k.portOf fd = some p → k'.portOf fd = some p

variable {k}

/-- A kernel with the same sockets and next descriptor grew from the other. -/
theorem Grows.of_socks {k' : Kernel} (hs : k'.socks = k.socks) (hn : k'.next = k.next) :
    k.Grows k' where
  next_le := hn.ge
  mem_fds fd h := by
    rw [fds, hs]
    exact h.resolve_right (by omega)
  portOf_eq fd p h := by rwa [portOf, hs]

theorem Grows.refl (k : Kernel) : k.Grows k := .of_socks rfl rfl

/-- Growth composes: a run of calls that each close nothing closes nothing. -/
theorem Grows.trans {k₁ k₂ k₃ : Kernel} (h₁ : k₁.Grows k₂) (h₂ : k₂.Grows k₃) : k₁.Grows k₃ where
  next_le := h₁.next_le.trans h₂.next_le
  mem_fds fd h := h₂.mem_fds fd <| by
    rcases h with h | ⟨h, h'⟩
    · exact .inl (h₁.mem_fds fd (.inl h))
    · by_cases h₂' : fd < k₂.next
      · exact .inl (h₁.mem_fds fd (.inr ⟨h, h₂'⟩))
      · exact .inr ⟨by omega, h'⟩
  portOf_eq fd p h := h₂.portOf_eq fd p (h₁.portOf_eq fd p h)

theorem lookup_cons_ne {a n : Nat} {s : Sock} {l : List (Nat × Sock)} (h : a ≠ n) :
    ((n, s) :: l).lookup a = l.lookup a := by
  rw [List.lookup_cons, beq_false_of_ne h]

/-- A descriptor with a socket is below the next one `socket` hands out. -/
theorem lt_next_of_lookup {fd : Nat} {s : Sock} (h : k.socks.lookup fd = some s) : fd < k.next := by
  obtain ⟨l₁, l₂, hl, -⟩ := List.lookup_eq_some_iff.1 h
  exact k.fresh (fd, s) (hl ▸ List.mem_append_right _ (List.mem_cons_self _ _))

theorem grows_pop : k.Grows k.pop.2 := .of_socks rfl rfl

theorem Grows.of_pop {a : Answer} {k' : Kernel} (h : k.pop = (a, k')) : k.Grows k' := by
  have := k.grows_pop
  rwa [h] at this

/-- Opening a socket closes nothing: the new descriptor is the next one, which no open socket has. -/
theorem grows_open (s : Sock) : k.Grows (k.open_ s) where
  next_le := Nat.le_succ _
  mem_fds fd h := by
    rcases h with h | h
    · exact List.mem_cons_of_mem _ h
    · exact (show fd = k.next by simp only [open_] at h; omega) ▸ List.mem_cons_self _ _
  portOf_eq fd p h := by
    obtain ⟨s', hs', -⟩ := Option.bind_eq_some.1 h
    rw [portOf, open_, lookup_cons_ne (Nat.ne_of_lt (lt_next_of_lookup hs'))]
    exact h

/-- The socket at a descriptor after `modify`. -/
theorem lookup_modify (l : List (Nat × Sock)) (fd fd' : Nat) (f : Sock → Sock) :
    (l.map fun p => (p.1, if p.1 = fd then f p.2 else p.2)).lookup fd' =
      (l.lookup fd').map fun s => if fd' = fd then f s else s := by
  induction l with
  | nil => rfl
  | cons p l ih =>
    obtain ⟨a, s⟩ := p
    by_cases h : fd' = a
    · subst h
      simp
    · rw [List.map_cons, lookup_cons_ne h, lookup_cons_ne h, ih]

theorem portOf_modify (fd fd' : Nat) (f : Sock → Sock) :
    (k.modify fd f).portOf fd' = ((k.socks.lookup fd').map fun s => if fd' = fd then f s else s).bind Sock.port := by
  rw [portOf, modify, lookup_modify]

/-- Changing a socket keeps every descriptor, and keeps the bound ports
as long as the change keeps the port of a bound socket. -/
theorem grows_modify (fd : Nat) (f : Sock → Sock)
    (hf : ∀ s p, k.socks.lookup fd = some s → s.port = some p → (f s).port = some p) :
    k.Grows (k.modify fd f) where
  next_le := le_rfl
  mem_fds fd' h := by
    simp only [fds, modify, List.map_map]
    exact h.resolve_right (by simp only [modify]; omega)
  portOf_eq fd' p h := by
    obtain ⟨s, hs, hp⟩ := Option.bind_eq_some.1 h
    simp only [portOf_modify, hs, Option.map_some', Option.some_bind]
    split
    · exact hf s p (by simpa [*] using hs) hp
    · exact hp

end Kernel

/-- `socket` closes nothing. -/
theorem grows_sysSocket (f : Family) (k : Kernel) : k.Grows ((sysSocket f).run k).2 := by
  simp only [sysSocket, StateT.run]
  split <;> rename_i h
  · exact (Kernel.Grows.of_pop h).trans (Kernel.grows_open _)
  · exact Kernel.Grows.of_pop h

/-- `setsockopt` closes nothing and binds nothing. -/
theorem grows_sysSetsockopt (fd : Int) (level name : UInt32) (value : List UInt8) (k : Kernel) :
    k.Grows ((sysSetsockopt fd level name value).run k).2 := by
  simp only [sysSetsockopt, StateT.run]
  split <;> rename_i h
  · split
    · dsimp only
      refine (Kernel.Grows.of_pop h).trans (Kernel.grows_modify _ _ ?_)
      exact fun _ _ _ hp => hp
    · exact Kernel.Grows.of_pop h
  · exact Kernel.Grows.of_pop h

/-- `getsockname` changes no socket. -/
theorem grows_sysGetsockname (e : Endian) (fd : Int) (addrlen : Nat) (k : Kernel) :
    k.Grows ((sysGetsockname e fd addrlen).run k).2 := by
  simp only [sysGetsockname, StateT.run]
  split <;> rename_i h
  · split <;> exact Kernel.Grows.of_pop h
  · exact Kernel.Grows.of_pop h

/-- What `bind` reads as the port of an address: bytes 2 and 3, in
network byte order. -/
def bindPort (addr : List UInt8) : UInt16 := UInt16.ofNat (ofBeBytes ((addr.drop 2).take 2))

/-- The socket at `fd` is bound as a bind to port `p` binds it: to `p`,
or, for `p = 0`, to a non-zero port. -/
def Kernel.BoundTo (k : Kernel) (fd : Nat) (p : UInt16) : Prop :=
  ∃ q, k.portOf fd = some q ∧ q ≠ 0 ∧ (p ≠ 0 → q = p)

/-- A bound socket stays bound as the kernel grows. -/
theorem Kernel.Grows.boundTo {k k' : Kernel} {fd : Nat} {p : UInt16} (h : k.Grows k')
    (hb : k.BoundTo fd p) : k'.BoundTo fd p :=
  let ⟨q, hq, hq0, hqp⟩ := hb
  ⟨q, h.portOf_eq fd q hq, hq0, hqp⟩

/-- A `bind` that returns `0` has bound the socket as its address asks. -/
theorem sysBind_spec (fd : Int) (addr : List UInt8) (k : Kernel) :
    k.Grows ((sysBind fd addr).run k).2 ∧
      (((sysBind fd addr).run k).1 = 0 → ((sysBind fd addr).run k).2.BoundTo fd.toNat (bindPort addr)) := by
  simp only [sysBind, StateT.run]
  split <;> rename_i q k₁ h
  · split <;> rename_i f o hs <;> dsimp only
    · have hfd : ¬ fd < 0 := fun hfd => by simp [Kernel.sockOf, hfd] at hs
      have hl : k₁.socks.lookup fd.toNat = some ⟨f, o, none⟩ := by simpa [Kernel.sockOf, hfd] using hs
      refine ⟨(Kernel.Grows.of_pop h).trans (Kernel.grows_modify _ _ ?_), fun _ => ?_⟩
      · intro s p hs' hp
        simp_all
      · refine ⟨if bindPort addr = 0 then q.1 else bindPort addr, ?_, ?_, fun hp => if_neg hp⟩
        · simp [Kernel.portOf_modify, hl, bindPort]
        · split
          · exact q.2
          · assumption
    · exact ⟨Kernel.Grows.of_pop h, fun h => by simp at h⟩
  · exact ⟨Kernel.Grows.of_pop h, fun h => by simp at h⟩

/-- A descriptor is open when the table has a socket for it. -/
theorem Kernel.mem_fds_iff (k : Kernel) (n : Nat) : n ∈ k.fds ↔ (k.socks.lookup n).isSome := by
  simp only [Kernel.fds, List.mem_map, List.lookup_isSome_iff, beq_iff_eq]
  exact ⟨fun ⟨p, hp, hn⟩ => ⟨p, hp, hn.symm⟩, fun ⟨p, hp, hn⟩ => ⟨p, hp, hn.symm⟩⟩

theorem run_discard {α : Type} (x : KernelM α) (k : Kernel) : (StateT.run (discard x) k).2 = (x.run k).2 := rfl

/-- `close` releases its descriptor and no other. -/
theorem sysClose_fds (fd : Int) (k : Kernel) (n : Nat) :
    n ∈ ((sysClose fd).run k).2.fds ↔ n ∈ k.fds ∧ (n : Int) ≠ fd := by
  simp only [sysClose, StateT.run]
  split <;> rename_i h
  · have hfd : 0 ≤ fd := by
      by_contra hneg
      simp [Kernel.sockOf, show fd < 0 by omega] at h
    simp only [Kernel.remove, Kernel.fds, List.map_filter', List.mem_map, List.mem_filter]
    constructor
    · rintro ⟨p, ⟨hp, hne⟩, rfl⟩
      refine ⟨⟨p, hp, rfl⟩, ?_⟩
      simp at hne
      omega
    · rintro ⟨⟨p, hp, rfl⟩, hne⟩
      exact ⟨p, ⟨hp, by simp; omega⟩, rfl⟩
  · refine ⟨fun hn => ⟨hn, ?_⟩, fun h => h.1⟩
    rintro rfl
    apply h
    rw [Kernel.sockOf, if_neg (by omega), Int.toNat_ofNat]
    exact (k.mem_fds_iff n).1 hn

/-! ## A program logic for the bind -/

/-- A property of kernels that calls closing nothing keep. -/
def Stable (S : Kernel → Prop) : Prop := ∀ k k', S k → k.Grows k' → S k'

/-- **Triples for the bind's fallible calls.** From any kernel satisfying
`P`, `m` closes nothing, and a value it returns satisfies `Q` in the
kernel it leaves. -/
def Triple {α : Type} (P : Kernel → Prop) (m : ExceptT IoError KernelM α) (Q : α → Kernel → Prop) :
    Prop :=
  ∀ k, P k → k.Grows (m.run.run k).2 ∧ ∀ a, (m.run.run k).1 = .ok a → Q a (m.run.run k).2

namespace Triple

variable {α β : Type} {P : Kernel → Prop} {Q : α → Kernel → Prop}

/-- `pure a` changes nothing and returns `a`. -/
theorem pure {a : α} (h : ∀ k, P k → Q a k) : Triple P (Pure.pure a) Q :=
  fun k hk => ⟨.refl k, fun _ hb => by cases hb; exact h k hk⟩

/-- `throw` changes nothing and returns no value. -/
theorem throw {e : IoError} : Triple P (MonadExcept.throw e : ExceptT IoError KernelM α) Q :=
  fun k _ => ⟨.refl k, fun _ hb => nomatch hb⟩

/-- Nothing after a `throw` runs. -/
theorem throw_bind {e : IoError} {f : α → ExceptT IoError KernelM β} {R : β → Kernel → Prop} :
    Triple P (MonadExcept.throw e >>= f) R :=
  fun k _ => ⟨.refl k, fun _ hb => nomatch hb⟩

/-- A call of the kernel, lifted into the fallible monad. -/
theorem lift {x : KernelM α} (h : ∀ k, P k → k.Grows (x.run k).2 ∧ Q (x.run k).1 (x.run k).2) :
    Triple P (liftM x) Q :=
  fun k hk => ⟨(h k hk).1, fun _ ha => by cases ha; exact (h k hk).2⟩

/-- **Sequencing**: what `m` guarantees of its value is what `f` may assume. -/
theorem bind {m : ExceptT IoError KernelM α} {f : α → ExceptT IoError KernelM β}
    {R : β → Kernel → Prop} (hm : Triple P m Q) (hf : ∀ a, Triple (Q a) (f a) R) :
    Triple P (m >>= f) R := by
  intro k hk
  obtain ⟨hg, hq⟩ := hm k hk
  simp only [ExceptT.run_bind, StateT.run_bind]
  rcases hr : m.run.run k with ⟨_ | a, k'⟩
  · rw [hr] at hg
    exact ⟨hg, fun _ hb => nomatch hb⟩
  · rw [hr] at hg hq
    obtain ⟨hg', hr'⟩ := hf a k' (hq a rfl)
    exact ⟨hg.trans hg', hr'⟩

/-- A branch on a condition: each side may assume its case. -/
theorem ite {c : Prop} [Decidable c] {t e : ExceptT IoError KernelM α} (ht : c → Triple P t Q)
    (he : ¬ c → Triple P e Q) : Triple P (if c then t else e) Q := by
  by_cases hc : c
  · rw [if_pos hc]
    exact ht hc
  · rw [if_neg hc]
    exact he hc

/-- A call that closes nothing keeps a stable property. -/
theorem lift_stable {x : KernelM α} (hx : ∀ k : Kernel, k.Grows (x.run k).2) (hP : Stable P) :
    Triple P (liftM x) fun _ => P :=
  lift fun k hk => ⟨hx k, hP k _ hk (hx k)⟩

/-- Weakening the precondition and strengthening the postcondition. -/
theorem mono {P' : Kernel → Prop} {Q' : α → Kernel → Prop} {m : ExceptT IoError KernelM α}
    (h : Triple P m Q) (hP : ∀ k, P' k → P k) (hQ : ∀ a k, Q a k → Q' a k) : Triple P' m Q' :=
  fun k hk => ⟨(h k (hP k hk)).1, fun a ha => hQ a _ ((h k (hP k hk)).2 a ha)⟩

end Triple

theorem stable_true : Stable fun _ => True := fun _ _ _ _ => trivial

theorem stable_boundTo (fd : Nat) (p : UInt16) : Stable fun k => k.BoundTo fd p :=
  fun _ _ hb hg => hg.boundTo hb

/-- A `bind` that returns `0` leaves its socket bound as the address
asks. -/
theorem triple_sysBind {S : Kernel → Prop} (hS : Stable S) (fd : RawFd) (addr : List UInt8) :
    Triple S (liftM (sysBind fd addr)) fun err k => S k ∧ (err = 0 → k.BoundTo fd.toNat (bindPort addr)) :=
  .lift fun k hk => ⟨(sysBind_spec fd addr k).1, hS k _ hk (sysBind_spec fd addr k).1, (sysBind_spec fd addr k).2⟩

/-- With `addrlen = 0`, `getsockname` copies nothing. -/
theorem triple_sysGetsockname {S : Kernel → Prop} (hS : Stable S) (e : Endian) (fd : RawFd) :
    Triple S (liftM (sysGetsockname e fd 0)) fun r k => S k ∧ r.2.1 = [] := by
  refine .lift fun k hk => ⟨grows_sysGetsockname e fd 0 k, hS k _ hk (grows_sysGetsockname e fd 0 k), ?_⟩
  simp only [sysGetsockname, StateT.run]
  split
  · split <;> simp
  · rfl

end Linux

end WireguardRs
