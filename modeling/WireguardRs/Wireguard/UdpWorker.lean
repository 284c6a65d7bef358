import WireguardRs.Wireguard.Padding
import WireguardRs.Platform.Linux.Socket
/-!
# The UDP worker

One turn of `udp_worker`'s loop: allocate a buffer for the MTU and the
largest handshake message, read one datagram into it, drop it while the
device is down or when it is too short for a type tag, and otherwise
demultiplex on its little-endian type. The message types, the maximum
handshake size and the load threshold are constants outside this
excerpt, so they are parameters, and the allocation is assumed to succeed.

`udpWorkerStep_spec` is the turn over the Linux reader, for every
datagram and MTU: it reads no byte out of bounds and does exactly one of
nothing, one enqueue with one increment, or one `router.recv`. Over the
loop (`udpWorkerLoop_queue`) the worker never panics and raises the
pending counter by exactly the number of jobs it queues.
-/

namespace WireguardRs

open Linux

/-- `x25519_dalek::PublicKey`. -/
structure PublicKey where
  bytes : List UInt8
  deriving DecidableEq, Repr

/-- `HandshakeJob`. -/
inductive HandshakeJob (E : Type) where
  | Message (msg : List UInt8) (src : E)
  | New (pk : PublicKey)
  deriving DecidableEq, Repr

/-- The four message types of the wire format. -/
structure MessageTypes where
  TYPE_INITIATION : UInt32
  TYPE_RESPONSE : UInt32
  TYPE_COOKIE_REPLY : UInt32
  TYPE_TRANSPORT : UInt32
  deriving DecidableEq, Repr

/-- A handshake message's type. -/
def MessageTypes.IsHandshake (T : MessageTypes) (t : UInt32) : Prop :=
  t = T.TYPE_COOKIE_REPLY ∨ t = T.TYPE_INITIATION ∨ t = T.TYPE_RESPONSE

instance (T : MessageTypes) (t : UInt32) : Decidable (T.IsHandshake t) :=
  inferInstanceAs (Decidable (_ ∨ _))

/-- What the UDP worker changes: the device's pending counter and
handshake queue, the calls it makes to `router.recv`, and its own
`last_under_load`. -/
structure UdpState (E : Type) where
  pending : Nat
  queue : List (HandshakeJob E)
  recvs : List (E × List UInt8)
  lastUnderLoad : Nat
  deriving DecidableEq, Repr

/-- What one turn of `udp_worker`'s loop does. -/
inductive UdpStep (E : Type) where
  /-- The read failed: `return`. -/
  | exit
  /-- The loop goes on from this state. -/
  | next (st : UdpState E)
  deriving DecidableEq, Repr

/-- `LittleEndian::read_u32`: the first four bytes, least significant
first; `none` (a panic) on fewer than four. -/
def readU32 (buf : List UInt8) : Option UInt32 :=
  if buf.length < 4 then none else some (UInt32.ofNat (ofLeBytes (buf.take 4)))

section

variable {E : Type} (T : MessageTypes) (MAX_HANDSHAKE_MSG_SIZE THRESHOLD_UNDER_LOAD : Nat)

/-- The demultiplexer of `udp_worker` on a datagram `msg` from `src` of
type `t`, read at instant `now`. -/
def udpDemux (t : UInt32) (msg : List UInt8) (src : E) (now : Nat) (st : UdpState E) :
    UdpState E :=
  if T.IsHandshake t then
    let pending := st.pending
    let st := { st with pending := st.pending + 1 }
    let st := if pending > THRESHOLD_UNDER_LOAD then { st with lastUnderLoad := now } else st
    { st with queue := st.queue ++ [.Message msg src] }
  else if t = T.TYPE_TRANSPORT then { st with recvs := st.recvs ++ [(src, msg)] }
  else st

/-- One turn of `udp_worker`'s loop, given the MTU it loads, the instant
and the reader. `none` is a panic. -/
def udpWorkerStep (read : List UInt8 → Except String (List UInt8 × Except IoError (Nat × E)))
    (mtu now : Nat) (st : UdpState E) : Option (UdpStep E) := do
  let size ← Usize.add mtu MAX_HANDSHAKE_MSG_SIZE
  match read (List.replicate size 0) with
  | .error _ => none
  | .ok (_, .error _) => pure .exit
  | .ok (msg, .ok (size, src)) =>
    let msg := msg.take size
    if mtu = 0 then pure (.next st)
    else if msg.length < 4 then pure (.next st)
    else
      let t ← readU32 msg
      pure (.next (udpDemux T THRESHOLD_UNDER_LOAD t msg src now st))

end

section

variable {E : Type} {T : MessageTypes} {THRESHOLD_UNDER_LOAD : Nat} {t : UInt32}
  {msg : List UInt8} {src : E} {now : Nat} {st : UdpState E}

/-- A handshake message adds one pending job and queues the message;
the router is not called. -/
theorem udpDemux_handshake (h : T.IsHandshake t) :
    let st' := udpDemux T THRESHOLD_UNDER_LOAD t msg src now st
    st'.pending = st.pending + 1 ∧ st'.queue = st.queue ++ [.Message msg src] ∧
      st'.recvs = st.recvs := by
  by_cases hl : st.pending > THRESHOLD_UNDER_LOAD <;> simp [udpDemux, h, hl]

/-- A transport message goes to the router and nowhere else. -/
theorem udpDemux_transport (h : ¬ T.IsHandshake t) (ht : t = T.TYPE_TRANSPORT) :
    udpDemux T THRESHOLD_UNDER_LOAD t msg src now st = { st with recvs := st.recvs ++ [(src, msg)] } := by
  rw [udpDemux, if_neg h, if_pos ht]

/-- Any other message is dropped. -/
theorem udpDemux_other (h : ¬ T.IsHandshake t) (ht : t ≠ T.TYPE_TRANSPORT) :
    udpDemux T THRESHOLD_UNDER_LOAD t msg src now st = st := by
  simp [udpDemux, h, ht]

end

section

variable {e : Endian} {T : MessageTypes} {MAX_HANDSHAKE_MSG_SIZE THRESHOLD_UNDER_LOAD : Nat}

/-- The buffer `read` filled, cut to the count it returned, is the
datagram's first bytes. -/
theorem take_fill {buf : List UInt8} (payload : List UInt8) :
    (fill buf (payload.take buf.length)).take (payload.take buf.length).length =
      payload.take buf.length := by
  simp [fill]

/-- **One turn of the UDP worker over the Linux reader.** With the buffer
non-empty and allocatable, a delivered datagram is cut to the buffer, and
the turn keeps the state when the device is down or the datagram is too
short, and otherwise demultiplexes on its type. -/
theorem udpWorkerStep_read (hmax : 0 < MAX_HANDSHAKE_MSG_SIZE) {mtu : Nat}
    (hsize : mtu + MAX_HANDSHAKE_MSG_SIZE ≤ USIZE_MAX) (r : LinuxUDPReader) (inc : r.Incoming)
    {payload : List UInt8} {src : LinuxEndpoint} (h : r.delivered e inc = some (payload, src))
    (now : Nat) (st : UdpState LinuxEndpoint) :
    udpWorkerStep T MAX_HANDSHAKE_MSG_SIZE THRESHOLD_UNDER_LOAD (r.read e · inc) mtu now st =
      let b := payload.take (mtu + MAX_HANDSHAKE_MSG_SIZE)
      some (.next (if mtu = 0 ∨ b.length < 4 then st else
        udpDemux T THRESHOLD_UNDER_LOAD (UInt32.ofNat (ofLeBytes (b.take 4))) b src now st)) := by
  have hbuf : List.replicate (mtu + MAX_HANDSHAKE_MSG_SIZE) (0 : UInt8) ≠ [] :=
    mt (List.replicate_eq_nil_iff 0).1 (by omega)
  have hfill := @take_fill (List.replicate (mtu + MAX_HANDSHAKE_MSG_SIZE) 0) payload
  simp only [List.length_replicate] at hfill
  simp only [udpWorkerStep, Usize.add_of_le hsize, Option.bind_eq_bind, Option.some_bind,
    LinuxUDPReader.read_eq r inc hbuf, h, List.length_replicate, hfill]
  by_cases h0 : mtu = 0
  · simp [h0]
  · by_cases hl : min (mtu + MAX_HANDSHAKE_MSG_SIZE) payload.length < 4
    · simp [h0, hl]
    · simp [h0, hl, readU32]

/-- **One turn of the UDP worker, for every datagram.** For message types
that keep transport apart from the handshake types, a non-zero maximum
handshake size and an MTU whose buffer is allocatable, a turn on a
delivered datagram never panics. With `b` the bytes `recvmsg` stores, it
changes nothing while the device is down or `b` is shorter than a type
tag; otherwise, for `t` the little-endian `u32` of `b[0..4]`, a handshake
type adds one pending job and queues `Message(b, src)`, the transport
type calls `router.recv(src, b)` once and leaves the counter and queue
alone, and any other type changes nothing. -/
theorem udpWorkerStep_spec (hmax : 0 < MAX_HANDSHAKE_MSG_SIZE)
    (htr : ¬ T.IsHandshake T.TYPE_TRANSPORT) {mtu : Nat}
    (hsize : mtu + MAX_HANDSHAKE_MSG_SIZE ≤ USIZE_MAX) (r : LinuxUDPReader) (inc : r.Incoming)
    {payload : List UInt8} {src : LinuxEndpoint} (h : r.delivered e inc = some (payload, src))
    (now : Nat) (st : UdpState LinuxEndpoint) :
    ∃ st', udpWorkerStep T MAX_HANDSHAKE_MSG_SIZE THRESHOLD_UNDER_LOAD (r.read e · inc) mtu now st =
        some (.next st') ∧
      ((mtu = 0 ∨ (payload.take (mtu + MAX_HANDSHAKE_MSG_SIZE)).length < 4) → st' = st) ∧
      (mtu ≠ 0 → 4 ≤ (payload.take (mtu + MAX_HANDSHAKE_MSG_SIZE)).length →
        let b := payload.take (mtu + MAX_HANDSHAKE_MSG_SIZE)
        let t := UInt32.ofNat (ofLeBytes (b.take 4))
        (T.IsHandshake t → st'.pending = st.pending + 1 ∧ st'.queue = st.queue ++ [.Message b src] ∧
          st'.recvs = st.recvs) ∧
        (t = T.TYPE_TRANSPORT → st'.recvs = st.recvs ++ [(src, b)] ∧ st'.pending = st.pending ∧
          st'.queue = st.queue) ∧
        (¬ T.IsHandshake t → t ≠ T.TYPE_TRANSPORT → st' = st)) := by
  refine ⟨_, udpWorkerStep_read hmax hsize r inc h now st, fun hd => if_pos hd, fun h0 hl => ?_⟩
  have hd : ¬ (mtu = 0 ∨ (payload.take (mtu + MAX_HANDSHAKE_MSG_SIZE)).length < 4) := by omega
  simp only [if_neg hd]
  refine ⟨udpDemux_handshake, fun ht => ?_, udpDemux_other⟩
  rw [udpDemux_transport (ht ▸ htr) ht]
  exact ⟨rfl, rfl, rfl⟩

/-- A four-byte datagram of type `1` from `1.2.3.4:80` on a little-endian host. -/
theorem udpWorkerStep_spec_sample :
    0 < 148 ∧ ¬ (⟨1, 2, 3, 4⟩ : MessageTypes).IsHandshake 4 ∧ 1500 + 148 ≤ USIZE_MAX ∧
      (LinuxUDPReader.V4 3).delivered .little (some ⟨[1, 0, 0, 0], ⟨⟨⟨[1, 2, 3, 4], rfl⟩⟩, 80⟩,
        ⟨0, ⟨0⟩, ⟨0⟩⟩⟩) = some ([1, 0, 0, 0], received4 .little ⟨⟨⟨[1, 2, 3, 4], rfl⟩⟩, 80⟩
          ⟨0, ⟨0⟩, ⟨0⟩⟩) ∧
      ∃ st', udpWorkerStep ⟨1, 2, 3, 4⟩ 148 4096 ((LinuxUDPReader.V4 3).read .little · (some
          ⟨[1, 0, 0, 0], ⟨⟨⟨[1, 2, 3, 4], rfl⟩⟩, 80⟩, ⟨0, ⟨0⟩, ⟨0⟩⟩⟩)) 1500 0 ⟨0, [], [], 0⟩ =
          some (.next st') ∧
        ((1500 = 0 ∨ (List.take (1500 + 148) [1, 0, 0, 0]).length < 4) → st' = ⟨0, [], [], 0⟩) ∧
        (1500 ≠ 0 → 4 ≤ (List.take (1500 + 148) ([1, 0, 0, 0] : List UInt8)).length →
          let b := List.take (1500 + 148) ([1, 0, 0, 0] : List UInt8)
          let t := UInt32.ofNat (ofLeBytes (b.take 4))
          ((⟨1, 2, 3, 4⟩ : MessageTypes).IsHandshake t → st'.pending = 0 + 1 ∧
            st'.queue = [] ++ [.Message b (received4 .little ⟨⟨⟨[1, 2, 3, 4], rfl⟩⟩, 80⟩ ⟨0, ⟨0⟩, ⟨0⟩⟩)] ∧
            st'.recvs = []) ∧
          (t = 4 → st'.recvs = [] ++ [(received4 .little ⟨⟨⟨[1, 2, 3, 4], rfl⟩⟩, 80⟩ ⟨0, ⟨0⟩, ⟨0⟩⟩, b)] ∧
            st'.pending = 0 ∧ st'.queue = []) ∧
          (¬ (⟨1, 2, 3, 4⟩ : MessageTypes).IsHandshake t → t ≠ 4 → st' = ⟨0, [], [], 0⟩)) :=
  ⟨by decide, by decide, by decide, rfl,
    @udpWorkerStep_spec .little ⟨1, 2, 3, 4⟩ 148 4096 (by decide) (by decide) 1500 (by decide) (.V4 3)
      (some ⟨[1, 0, 0, 0], ⟨⟨⟨[1, 2, 3, 4], rfl⟩⟩, 80⟩, ⟨0, ⟨0⟩, ⟨0⟩⟩⟩) [1, 0, 0, 0]
      (received4 .little ⟨⟨⟨[1, 2, 3, 4], rfl⟩⟩, 80⟩ ⟨0, ⟨0⟩, ⟨0⟩⟩) rfl 0 ⟨0, [], [], 0⟩⟩


/-! ## The loop -/

/-- A handshake message raises the counter by one for the one job it
queues; any other message leaves both alone. -/
theorem udpDemux_queue (T : MessageTypes) (THRESHOLD_UNDER_LOAD : Nat) (t : UInt32) (msg : List UInt8)
    (src : LinuxEndpoint) (now : Nat) (st : UdpState LinuxEndpoint) :
    ∃ js, (udpDemux T THRESHOLD_UNDER_LOAD t msg src now st).queue = st.queue ++ js ∧
      (udpDemux T THRESHOLD_UNDER_LOAD t msg src now st).pending = st.pending + js.length := by
  by_cases ht : T.IsHandshake t
  · obtain ⟨hp, hq, -⟩ := @udpDemux_handshake _ T THRESHOLD_UNDER_LOAD t msg src now st ht
    exact ⟨_, hq, hp⟩
  · by_cases htr : t = T.TYPE_TRANSPORT
    · rw [udpDemux_transport ht htr]
      exact ⟨[], by simp, rfl⟩
    · rw [udpDemux_other ht htr]
      exact ⟨[], by simp, rfl⟩

/-- `udp_worker`'s loop over the turns a Linux reader serves, each with
the MTU it loads, the instant and what the kernel delivers. It returns
when a read fails; `none` is a panic. -/
def udpWorkerLoop (e : Endian) (T : MessageTypes) (MAX_HANDSHAKE_MSG_SIZE THRESHOLD_UNDER_LOAD : Nat)
    (r : LinuxUDPReader) : List (Nat × Nat × r.Incoming) → UdpState LinuxEndpoint →
      Option (UdpState LinuxEndpoint)
  | [], st => some st
  | (mtu, now, inc) :: turns, st =>
    match udpWorkerStep T MAX_HANDSHAKE_MSG_SIZE THRESHOLD_UNDER_LOAD (r.read e · inc) mtu now st with
    | none => none
    | some .exit => some st
    | some (.next st') => udpWorkerLoop e T MAX_HANDSHAKE_MSG_SIZE THRESHOLD_UNDER_LOAD r turns st'

/-- One turn on whatever the kernel delivers: it never panics, and it
ends the loop or queues some jobs with one pending count each. -/
theorem udpWorkerStep_queue (hmax : 0 < MAX_HANDSHAKE_MSG_SIZE) {mtu : Nat}
    (hsize : mtu + MAX_HANDSHAKE_MSG_SIZE ≤ USIZE_MAX) (r : LinuxUDPReader) (inc : r.Incoming)
    (now : Nat) (st : UdpState LinuxEndpoint) :
    udpWorkerStep T MAX_HANDSHAKE_MSG_SIZE THRESHOLD_UNDER_LOAD (r.read e · inc) mtu now st = some .exit ∨
      ∃ st' js, udpWorkerStep T MAX_HANDSHAKE_MSG_SIZE THRESHOLD_UNDER_LOAD (r.read e · inc) mtu now st =
        some (.next st') ∧ st'.queue = st.queue ++ js ∧ st'.pending = st.pending + js.length := by
  rcases h : r.delivered e inc with _ | ⟨payload, src⟩
  · have hbuf : List.replicate (mtu + MAX_HANDSHAKE_MSG_SIZE) (0 : UInt8) ≠ [] :=
      mt (List.replicate_eq_nil_iff 0).1 (by omega)
    left
    simp [udpWorkerStep, Usize.add_of_le hsize, LinuxUDPReader.read_eq r inc hbuf, h]
  · right
    rw [udpWorkerStep_read hmax hsize r inc h now st]
    dsimp only
    split
    · exact ⟨st, [], rfl, by simp, rfl⟩
    · obtain ⟨js, hq, hp⟩ := udpDemux_queue T THRESHOLD_UNDER_LOAD _ _ src now st
      exact ⟨_, js, rfl, hq, hp⟩

/-- **The UDP worker's loop, over every run.** For every sequence of
turns whose buffers are allocatable, whatever each read delivers, the
loop never panics, and it leaves the handshake queue extended by some
jobs and the pending counter raised by exactly their number. -/
theorem udpWorkerLoop_queue (hmax : 0 < MAX_HANDSHAKE_MSG_SIZE) (r : LinuxUDPReader)
    (turns : List (Nat × Nat × r.Incoming)) (hsize : ∀ t ∈ turns, t.1 + MAX_HANDSHAKE_MSG_SIZE ≤ USIZE_MAX)
    (st : UdpState LinuxEndpoint) :
    ∃ st' js, udpWorkerLoop e T MAX_HANDSHAKE_MSG_SIZE THRESHOLD_UNDER_LOAD r turns st = some st' ∧
      st'.queue = st.queue ++ js ∧ st'.pending = st.pending + js.length := by
  induction turns generalizing st with
  | nil => exact ⟨st, [], rfl, by simp, rfl⟩
  | cons t turns ih =>
    obtain ⟨mtu, now, inc⟩ := t
    rcases @udpWorkerStep_queue e T MAX_HANDSHAKE_MSG_SIZE THRESHOLD_UNDER_LOAD hmax mtu
        (hsize _ (List.mem_cons_self _ _)) r inc now st with h | ⟨st₁, js₁, h, hq₁, hp₁⟩
    · exact ⟨st, [], by simp [udpWorkerLoop, h], by simp, rfl⟩
    · obtain ⟨st', js, hl, hq, hp⟩ := ih (fun t ht => hsize t (List.mem_cons_of_mem _ ht)) st₁
      refine ⟨st', js₁ ++ js, by simp [udpWorkerLoop, h, hl], by simp [hq, hq₁], ?_⟩
      simp only [hp, hp₁, List.length_append]
      omega

/-- One turn on a four-byte datagram of type `1`. -/
theorem udpWorkerLoop_queue_sample :
    0 < 148 ∧
      (∀ t ∈ ([(1500, 0, some ⟨[1, 0, 0, 0], ⟨⟨⟨[1, 2, 3, 4], rfl⟩⟩, 80⟩, ⟨0, ⟨0⟩, ⟨0⟩⟩⟩)] :
          List (Nat × Nat × (LinuxUDPReader.V4 3).Incoming)), t.1 + 148 ≤ USIZE_MAX) ∧
      ∃ st' js, udpWorkerLoop .little ⟨1, 2, 3, 4⟩ 148 4096 (.V4 3)
          [(1500, 0, some ⟨[1, 0, 0, 0], ⟨⟨⟨[1, 2, 3, 4], rfl⟩⟩, 80⟩, ⟨0, ⟨0⟩, ⟨0⟩⟩⟩)] ⟨0, [], [], 0⟩ = some st' ∧
        st'.queue = [] ++ js ∧ st'.pending = 0 + js.length :=
  ⟨by decide, by decide,
    @udpWorkerLoop_queue .little ⟨1, 2, 3, 4⟩ 148 4096 (by decide) (.V4 3)
      [(1500, 0, some ⟨[1, 0, 0, 0], ⟨⟨⟨[1, 2, 3, 4], rfl⟩⟩, 80⟩, ⟨0, ⟨0⟩, ⟨0⟩⟩⟩)] (by decide) ⟨0, [], [], 0⟩⟩

end

end WireguardRs
