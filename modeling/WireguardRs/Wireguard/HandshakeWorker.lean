import WireguardRs.Wireguard.Pending
import Mathlib.Logic.Function.Basic
/-!
# The handshake worker

`handshake_worker` takes each job from the channel, runs `fetch_sub` and
handles it: a message goes to the handshake device, whose response is
written back to the source and whose authenticated peer counts the
bytes, roams, runs its timers and takes the new key pair; a request for
a new handshake sends the device's initiation and clears the peer's
`handshake_queued`. What the device, router and writer answer is an
argument (`Reply`), and a write that panics ends the worker.

A job changes only the peer it is about, so over a run each peer goes
through the jobs about it alone (`handshakeWorker_peers`). On Linux the
worker runs on exactly while every response it owes is non-empty and
bound for an IPv4 source (`handshakeWorker_linux_returns`).
-/

namespace WireguardRs

open Linux

/-- The timer calls the handshake worker makes on a peer. -/
inductive Timer where
  /-- `peer.state.sent_handshake_response()`. -/
  | sentHandshakeResponse
  /-- `peer.state.timers_handshake_complete()`. -/
  | handshakeComplete
  /-- `peer.timers_session_derived()`. -/
  | sessionDerived
  /-- `peer.state.sent_handshake_initiation()`. -/
  | sentHandshakeInitiation
  deriving DecidableEq, Repr

/-- What the handshake worker changes on a peer: its byte counters, its
router's endpoint and key pairs, the initiations its router sent, the
timer calls in order, and `handshake_queued`. -/
structure Peer (E KP : Type) where
  rxBytes : UInt64
  txBytes : UInt64
  endpoint : Option E
  keypairs : List KP
  initiations : List (List UInt8)
  timers : List Timer
  handshakeQueued : Bool
  deriving DecidableEq, Repr

/-- What the other components answer while the worker handles one job. -/
structure Reply (W KP : Type) where
  /-- `device.process`: the peer the message authenticates, the response
  and the new key pair; `none` for an error, which is only logged. -/
  process : Option (Option PublicKey × Option (List UInt8) × Option KP)
  /-- `*wg.send.read()`: the writer, when one is installed. -/
  writer : Option W
  /-- The ids `peer.router.add_keypair` returns. -/
  ids : List UInt32
  /-- `device.begin`: the initiation; `none` for an error. -/
  begin : Option (List UInt8)
  deriving DecidableEq, Repr

/-- What the worker changes on the device: `wg.pending`, the peers by
public key, what the writer sent, and the ids released to the handshake
device. -/
structure HandshakeState (E KP O : Type) where
  pending : Nat
  peers : PublicKey → Option (Peer E KP)
  sent : List O
  released : List UInt32

variable {E W KP O : Type}

/-- `resp_len`: the response's length, `0` without one. -/
def respLen (resp : Option (List UInt8)) : UInt64 := (resp.map fun m => UInt64.ofNat m.length).getD 0

namespace Peer

/-- A peer's update for a handshake message authenticated as it:
`rx_bytes` and `tx_bytes` grow by the message's and the response's
lengths, `set_endpoint` takes the message's source, the timers learn
whether a response went out, and a new key pair derives a session and
goes to the router. -/
def handshakeReceived (reqLen respLen : UInt64) (src : E) (keypair : Option KP) (p : Peer E KP) :
    Peer E KP :=
  let p := { p with
    rxBytes := p.rxBytes + reqLen
    txBytes := p.txBytes + respLen
    endpoint := some src
    timers := p.timers ++ [if respLen > 0 then .sentHandshakeResponse else .handshakeComplete] }
  match keypair with
  | some kp => { p with timers := p.timers ++ [.sessionDerived], keypairs := p.keypairs ++ [kp] }
  | none => p

/-- A peer's update for a new handshake: the initiation `begin` built, if
any, goes out through the peer's router, and `handshake_queued` is
cleared either way. -/
def newHandshake (begin : Option (List UInt8)) (p : Peer E KP) : Peer E KP :=
  let p := match begin with
    | some msg => { p with initiations := p.initiations ++ [msg], timers := p.timers ++ [Timer.sentHandshakeInitiation] }
    | none => p
  { p with handshakeQueued := false }

end Peer

section

variable (write : W → List UInt8 → E → Option O)

/-- Send the response, if there is one and a writer is installed: the
list of what was sent after it, or `none` if the write panics. -/
def sendResponse (writer : Option W) (resp : Option (List UInt8)) (src : E) (sent : List O) :
    Option (List O) :=
  match resp, writer with
  | some msg, some w => (write w msg src).map (sent ++ [·])
  | _, _ => some sent

/-- The message arm's update of the peer `pk` authenticates, if the
device has it; the ids `add_keypair` returns are released. -/
def creditPeer (pk : Option PublicKey) (msg : List UInt8) (src : E) (respLen : UInt64)
    (keypair : Option KP) (ids : List UInt32) (st : HandshakeState E KP O) : HandshakeState E KP O :=
  match pk with
  | none => st
  | some pk =>
    match st.peers pk with
    | none => st
    | some peer =>
      { st with
        peers := Function.update st.peers pk
          (some (peer.handshakeReceived (UInt64.ofNat msg.length) respLen src keypair))
        released := st.released ++ if keypair.isSome then ids else [] }

/-- The `HandshakeJob::Message(msg, src)` arm. -/
def handleMessage (msg : List UInt8) (src : E) (r : Reply W KP) (st : HandshakeState E KP O) :
    Option (HandshakeState E KP O) :=
  match r.process with
  | none => some st
  | some (pk, resp, keypair) =>
    (sendResponse write r.writer resp src st.sent).map fun sent =>
      creditPeer pk msg src (respLen resp) keypair r.ids { st with sent }

/-- The `HandshakeJob::New(pk)` arm. -/
def handleNew (pk : PublicKey) (r : Reply W KP) (st : HandshakeState E KP O) : HandshakeState E KP O :=
  match st.peers pk with
  | some peer => { st with peers := Function.update st.peers pk (some (peer.newHandshake r.begin)) }
  | none => st

/-- One turn of `for job in rx`: `fetch_sub`, then the job's arm; `none`
is a panic. -/
def handshakeWorkerStep (st : HandshakeState E KP O) : HandshakeJob E × Reply W KP →
    Option (HandshakeState E KP O)
  | (job, r) =>
    let st := { st with pending := Pending.fetchSub st.pending }
    match job with
    | .Message msg src => handleMessage write msg src r st
    | .New pk => some (handleNew pk r st)

/-- `handshake_worker` over the jobs it takes, each with what the other
components answer, until the channel closes. -/
def handshakeWorker : List (HandshakeJob E × Reply W KP) → HandshakeState E KP O →
    Option (HandshakeState E KP O)
  | [], st => some st
  | j :: js, st => (handshakeWorkerStep write st j).bind (handshakeWorker js)

end

/-! ## What a job is about -/

/-- The peer a job is about: the one the device authenticated a message
as, or the one a new handshake is for. -/
def about : HandshakeJob E × Reply W KP → Option PublicKey
  | (.Message _ _, r) => r.process.bind (·.1)
  | (.New pk, _) => some pk

/-- What a job does to the peer it is about. -/
def Peer.handle : HandshakeJob E × Reply W KP → Peer E KP → Peer E KP
  | (.Message msg src, r), p =>
    match r.process with
    | some (_, resp, keypair) => p.handshakeReceived (UInt64.ofNat msg.length) (respLen resp) src keypair
    | none => p
  | (.New _, r), p => p.newHandshake r.begin

/-- The write a job owes: the writer, the response and the message's
source. -/
def toWrite : HandshakeJob E × Reply W KP → Option (W × List UInt8 × E)
  | (.Message _ src, r) =>
    match r.process, r.writer with
    | some (_, some m, _), some w => some (w, m, src)
    | _, _ => none
  | (.New _, _) => none

/-- A message the device authenticated as `k`, with its source and its
response. -/
def authenticated (k : PublicKey) : HandshakeJob E × Reply W KP → Option (List UInt8 × E × Option (List UInt8))
  | (.Message msg src, r) =>
    match r.process with
    | some (some k', resp, _) => if k' = k then some (msg, src, resp) else none
    | _ => none
  | (.New _, _) => none

/-- Whether a job requests a new handshake with `k`. -/
def requests (k : PublicKey) : HandshakeJob E × Reply W KP → Bool
  | (.New pk, _) => pk = k
  | (.Message .., _) => false

/-- The key pair the device derived for a message. -/
def keypairOf : HandshakeJob E × Reply W KP → Option KP
  | (.Message _ _, r) => r.process.bind (·.2.2)
  | (.New _, _) => none

/-- The timer calls a job makes on `k`: for a message authenticated as
`k`, whether a response went out, then a derived session if the device
made a key pair; for a request for `k`, the initiation sent, if the
device built one. -/
def timerEvents (k : PublicKey) (j : HandshakeJob E × Reply W KP) : List Timer :=
  match authenticated k j with
  | some (_, _, resp) =>
    (if respLen resp > 0 then .sentHandshakeResponse else .handshakeComplete) ::
      (keypairOf j).toList.map fun _ => .sessionDerived
  | none => if requests k j then j.2.begin.toList.map fun _ => .sentHandshakeInitiation else []

/-! ## One job -/

section

variable {write : W → List UInt8 → E → Option O}

theorem creditPeer_sent (pk : Option PublicKey) (msg : List UInt8) (src : E) (respLen : UInt64)
    (keypair : Option KP) (ids : List UInt32) (st : HandshakeState E KP O) :
    (creditPeer pk msg src respLen keypair ids st).sent = st.sent := by
  unfold creditPeer
  split
  · rfl
  · split <;> rfl

/-- The message arm releases the ids of a new key pair handed to a peer
the device has. -/
theorem creditPeer_released (pk : Option PublicKey) (msg : List UInt8) (src : E) (respLen : UInt64)
    (keypair : Option KP) (ids : List UInt32) (st : HandshakeState E KP O) :
    (creditPeer pk msg src respLen keypair ids st).released =
      st.released ++ if (pk.bind st.peers).isSome ∧ keypair.isSome then ids else [] := by
  rcases pk with _ | pk
  · simp [creditPeer]
  · rcases hpk : st.peers pk with _ | peer <;> simp [creditPeer, hpk]

/-- The message arm changes the authenticated peer, and no other. -/
theorem creditPeer_peers (pk : Option PublicKey) (msg : List UInt8) (src : E) (respLen : UInt64)
    (keypair : Option KP) (ids : List UInt32) (st : HandshakeState E KP O) (k : PublicKey) :
    (creditPeer pk msg src respLen keypair ids st).peers k =
      if pk = some k then (st.peers k).map
        (Peer.handshakeReceived (UInt64.ofNat msg.length) respLen src keypair) else st.peers k := by
  rcases pk with _ | pk
  · simp [creditPeer]
  · by_cases hk : pk = k
    · subst hk
      rcases hpk : st.peers pk with _ | peer <;> simp [creditPeer, hpk]
    · rcases hpk : st.peers pk with _ | peer <;>
        simp [creditPeer, hpk, hk, Function.update_noteq (Ne.symm hk)]

/-- The new-handshake arm changes the requested peer, and no other. -/
theorem handleNew_peers (pk : PublicKey) (r : Reply W KP) (st : HandshakeState E KP O) (k : PublicKey) :
    (handleNew pk r st).peers k =
      if pk = k then (st.peers k).map (Peer.newHandshake r.begin) else st.peers k := by
  by_cases hk : pk = k
  · subst hk
    rcases hpk : st.peers pk with _ | peer <;> simp [handleNew, hpk]
  · rcases hpk : st.peers pk with _ | peer <;> simp [handleNew, hpk, hk, Function.update_noteq (Ne.symm hk)]

/-- What the message arm can do: nothing when the device fails, and
otherwise send the response and credit the authenticated peer. -/
theorem handleMessage_cases {msg : List UInt8} {src : E} {r : Reply W KP} {st st' : HandshakeState E KP O}
    (h : handleMessage write msg src r st = some st') :
    (r.process = none ∧ st' = st) ∨ ∃ pk resp keypair sent, r.process = some (pk, resp, keypair) ∧
      st' = creditPeer pk msg src (respLen resp) keypair r.ids { st with sent } := by
  unfold handleMessage at h
  split at h
  · exact .inl ⟨‹_›, (Option.some.inj h).symm⟩
  · obtain ⟨sent, -, rfl⟩ := Option.map_eq_some'.1 h
    exact .inr ⟨_, _, _, sent, ‹_›, rfl⟩

theorem handle_message {msg : List UInt8} {src : E} {r : Reply W KP} {pk : Option PublicKey}
    {resp : Option (List UInt8)} {keypair : Option KP} (hp : r.process = some (pk, resp, keypair)) :
    Peer.handle (.Message msg src, r) =
      Peer.handshakeReceived (UInt64.ofNat msg.length) (respLen resp) src keypair := by
  funext p
  simp [Peer.handle, hp]

variable {st st' : HandshakeState E KP O} {j : HandshakeJob E × Reply W KP}

/-- **A job changes only the peer it is about**, by `Peer.handle`; the
device neither gains nor loses a peer. -/
theorem handshakeWorkerStep_peers (h : handshakeWorkerStep write st j = some st') (k : PublicKey) :
    st'.peers k = if about j = some k then (st.peers k).map (Peer.handle j) else st.peers k := by
  obtain ⟨job, r⟩ := j
  cases job with
  | Message msg src =>
    rcases handleMessage_cases h with ⟨hp, rfl⟩ | ⟨pk, resp, keypair, sent, hp, rfl⟩
    · simp [about, hp]
    · rw [creditPeer_peers, handle_message hp]
      simp [about, hp]
  | New pk =>
    cases h
    simpa [about] using handleNew_peers pk r _ k

/-- A job releases the ids of the key pair it hands to a peer the device
has. -/
theorem handshakeWorkerStep_released (h : handshakeWorkerStep write st j = some st') :
    st'.released = st.released ++
      if ((about j).bind st.peers).isSome ∧ (keypairOf j).isSome then j.2.ids else [] := by
  obtain ⟨job, r⟩ := j
  cases job with
  | Message msg src =>
    rcases handleMessage_cases h with ⟨hp, rfl⟩ | ⟨pk, resp, keypair, sent, hp, rfl⟩
    · simp [about, hp]
    · simp [creditPeer_released, about, keypairOf, hp]
  | New pk =>
    cases h
    simp only [handleNew, keypairOf]
    split <;> simp

/-- **What a job sends**: the write it owes, if any, after what was sent
before; the job panics exactly when that write does. -/
theorem handshakeWorkerStep_sent (st : HandshakeState E KP O) (j : HandshakeJob E × Reply W KP) :
    (handshakeWorkerStep write st j).map (·.sent) =
      match toWrite j with
      | some x => (write x.1 x.2.1 x.2.2).map (st.sent ++ [·])
      | none => some st.sent := by
  obtain ⟨job, r⟩ := j
  cases job with
  | Message msg src =>
    simp only [handshakeWorkerStep, handleMessage, toWrite]
    rcases r.process with _ | ⟨pk, _ | m, keypair⟩
    · rfl
    · simp [sendResponse, creditPeer_sent]
    · rcases r.writer with _ | w
      · simp [sendResponse, creditPeer_sent]
      · simp [sendResponse, creditPeer_sent, Function.comp_def]
  | New pk =>
    simp only [handshakeWorkerStep, toWrite, Option.map_some']
    unfold handleNew
    split <;> rfl

end

/-! ## What a job does to the peer it is about -/

namespace Peer

variable {reqLen respLen : UInt64} {src : E} {keypair : Option KP} {begin : Option (List UInt8)}
  {p : Peer E KP}

@[simp] theorem handshakeReceived_rxBytes :
    (p.handshakeReceived reqLen respLen src keypair).rxBytes = p.rxBytes + reqLen := by
  cases keypair <;> rfl

@[simp] theorem handshakeReceived_txBytes :
    (p.handshakeReceived reqLen respLen src keypair).txBytes = p.txBytes + respLen := by
  cases keypair <;> rfl

@[simp] theorem handshakeReceived_endpoint :
    (p.handshakeReceived reqLen respLen src keypair).endpoint = some src := by
  cases keypair <;> rfl

@[simp] theorem handshakeReceived_initiations :
    (p.handshakeReceived reqLen respLen src keypair).initiations = p.initiations := by
  cases keypair <;> rfl

@[simp] theorem handshakeReceived_handshakeQueued :
    (p.handshakeReceived reqLen respLen src keypair).handshakeQueued = p.handshakeQueued := by
  cases keypair <;> rfl

@[simp] theorem handshakeReceived_keypairs :
    (p.handshakeReceived reqLen respLen src keypair).keypairs = p.keypairs ++ keypair.toList := by
  cases keypair <;> simp [handshakeReceived]

@[simp] theorem handshakeReceived_timers :
    (p.handshakeReceived reqLen respLen src keypair).timers =
      p.timers ++ (if respLen > 0 then .sentHandshakeResponse else .handshakeComplete) ::
        keypair.toList.map fun _ => .sessionDerived := by
  cases keypair <;> simp [handshakeReceived]

@[simp] theorem newHandshake_keypairs : (p.newHandshake begin).keypairs = p.keypairs := by
  cases begin <;> rfl

@[simp] theorem newHandshake_rxBytes : (p.newHandshake begin).rxBytes = p.rxBytes := by
  cases begin <;> rfl

@[simp] theorem newHandshake_txBytes : (p.newHandshake begin).txBytes = p.txBytes := by
  cases begin <;> rfl

@[simp] theorem newHandshake_endpoint : (p.newHandshake begin).endpoint = p.endpoint := by
  cases begin <;> rfl

@[simp] theorem newHandshake_initiations :
    (p.newHandshake begin).initiations = p.initiations ++ begin.toList := by
  cases begin <;> simp [newHandshake]

@[simp] theorem newHandshake_timers :
    (p.newHandshake begin).timers = p.timers ++ begin.toList.map fun _ => .sentHandshakeInitiation := by
  cases begin <;> simp [newHandshake]

@[simp] theorem newHandshake_handshakeQueued : (p.newHandshake begin).handshakeQueued = false := by
  cases begin <;> rfl

end Peer

section

variable {k : PublicKey} {j : HandshakeJob E × Reply W KP}

/-- A message is about `k` only if the device authenticated it as `k`. -/
theorem process_of_about {msg : List UInt8} {src : E} {r : Reply W KP}
    (h : about (.Message msg src, r) = some k) :
    ∃ resp keypair, r.process = some (some k, resp, keypair) := by
  rcases hp : r.process with _ | ⟨_ | k', resp, keypair⟩ <;> simp [about, hp] at h
  exact ⟨resp, keypair, by rw [h]⟩

/-- A job about another peer is no message authenticated as `k`. -/
theorem authenticated_of_ne (h : about j ≠ some k) : authenticated k j = none := by
  obtain ⟨job, r⟩ := j
  cases job with
  | Message msg src =>
    rcases hp : r.process with _ | ⟨_ | k', resp, keypair⟩ <;> simp_all [about, authenticated]
  | New pk => rfl

/-- A job about another peer requests no handshake with `k`. -/
theorem requests_of_ne (h : about j ≠ some k) : requests k j = false := by
  obtain ⟨job, r⟩ := j
  cases job with
  | Message => rfl
  | New pk => simpa [about, requests] using h

/-- What a job about `k` does to the peer: the message it authenticated,
if it is one, and the request, if it is one. -/
theorem handle_of_about (h : about j = some k) (p : Peer E KP) :
    (∃ msg src resp keypair, authenticated k j = some (msg, src, resp) ∧ requests k j = false ∧
      keypairOf j = keypair ∧
      p.handle j = p.handshakeReceived (UInt64.ofNat msg.length) (respLen resp) src keypair) ∨
    (authenticated k j = none ∧ requests k j = true ∧ keypairOf j = none ∧
      p.handle j = p.newHandshake j.2.begin) := by
  obtain ⟨job, r⟩ := j
  cases job with
  | Message msg src =>
    obtain ⟨resp, keypair, hp⟩ := process_of_about h
    exact .inl ⟨msg, src, resp, keypair, by simp [authenticated, hp], rfl, by simp [keypairOf, hp],
      congrFun (handle_message hp) p⟩
  | New pk =>
    obtain rfl : pk = k := by simpa [about] using h
    exact .inr ⟨rfl, by simp [requests], rfl, rfl⟩

end

/-- The last element of a list put in front of another is the other's
last, when it has one. -/
theorem getLast?_or (o : Option α) (l : List α) (x : Option α) :
    l.getLast?.or (o.or x) = (o.toList ++ l).getLast?.or x := by
  cases o with
  | none => rfl
  | some a =>
    rw [Option.toList_some, List.singleton_append, List.getLast?_cons]
    cases l.getLast? <;> rfl

section

variable (k : PublicKey)

/-- The endpoint a peer ends with, over the jobs about it. -/
theorem foldl_handle_endpoint (js : List (HandshakeJob E × Reply W KP)) (p : Peer E KP) :
    ((js.filter (about · = some k)).foldl (fun p j => p.handle j) p).endpoint =
      ((js.filterMap (authenticated k)).map (·.2.1)).getLast?.or p.endpoint := by
  induction js generalizing p with
  | nil => rfl
  | cons j js ih =>
    by_cases hj : about j = some k
    · rw [List.filter_cons_of_pos (by simpa using hj), List.foldl_cons, ih]
      rcases handle_of_about hj p with ⟨msg, src, resp, keypair, ha, -, -, hh⟩ | ⟨ha, -, -, hh⟩
      · simpa [hh, ha] using getLast?_or (some src) ((js.filterMap (authenticated k)).map (·.2.1)) p.endpoint
      · simp [hh, ha]
    · rw [List.filter_cons_of_neg (by simpa using hj), ih, List.filterMap_cons, authenticated_of_ne hj]

/-- The byte counters a peer ends with, over the jobs about it. -/
theorem foldl_handle_bytes (js : List (HandshakeJob E × Reply W KP)) (p : Peer E KP) :
    ((js.filter (about · = some k)).foldl (fun p j => p.handle j) p).rxBytes.toNat =
        (p.rxBytes.toNat + ((js.filterMap (authenticated k)).map (·.1.length)).foldr (· + ·) 0) % 2 ^ 64 ∧
      ((js.filter (about · = some k)).foldl (fun p j => p.handle j) p).txBytes.toNat =
        (p.txBytes.toNat +
          ((js.filterMap (authenticated k)).map fun a => (a.2.2.map List.length).getD 0).foldr (· + ·) 0) %
            2 ^ 64 := by
  induction js generalizing p with
  | nil => exact ⟨(Nat.mod_eq_of_lt (UInt64.toNat_lt_size _)).symm, (Nat.mod_eq_of_lt (UInt64.toNat_lt_size _)).symm⟩
  | cons j js ih =>
    by_cases hj : about j = some k
    · rw [List.filter_cons_of_pos (by simpa using hj), List.foldl_cons, (ih _).1, (ih _).2]
      rcases handle_of_about hj p with ⟨msg, src, resp, keypair, ha, -, -, hh⟩ | ⟨ha, -, -, hh⟩
      · rcases resp with _ | m <;>
          simp [hh, ha, respLen, UInt64.add_def, UInt64.toNat, UInt64.ofNat, BitVec.toNat_add, Nat.add_mod_mod, Nat.mod_add_mod,
            Nat.add_assoc]
      · simp [hh, ha]
    · rw [List.filter_cons_of_neg (by simpa using hj), List.filterMap_cons, authenticated_of_ne hj]
      exact ih p

/-- The flag and the initiations a peer ends with, over the jobs about it. -/
theorem foldl_handle_queued (js : List (HandshakeJob E × Reply W KP)) (p : Peer E KP) :
    ((js.filter (about · = some k)).foldl (fun p j => p.handle j) p).handshakeQueued =
        (p.handshakeQueued && !js.any (requests k)) ∧
      ((js.filter (about · = some k)).foldl (fun p j => p.handle j) p).initiations =
        p.initiations ++ js.filterMap fun j => if requests k j then j.2.begin else none := by
  induction js generalizing p with
  | nil => simp
  | cons j js ih =>
    by_cases hj : about j = some k
    · rw [List.filter_cons_of_pos (by simpa using hj), List.foldl_cons, (ih _).1, (ih _).2]
      rcases handle_of_about hj p with ⟨msg, src, resp, keypair, -, hr, -, hh⟩ | ⟨-, hr, -, hh⟩
      · simp [hh, hr]
      · cases hb : j.2.begin <;> simp [hh, hr, hb]
    · rw [List.filter_cons_of_neg (by simpa using hj), List.any_cons, List.filterMap_cons,
        requests_of_ne hj]
      simpa using ih p

/-- The key pairs a peer's router ends with, over the jobs about it. -/
theorem foldl_handle_keypairs (js : List (HandshakeJob E × Reply W KP)) (p : Peer E KP) :
    ((js.filter (about · = some k)).foldl (fun p j => p.handle j) p).keypairs =
      p.keypairs ++ js.filterMap fun j => if about j = some k then keypairOf j else none := by
  induction js generalizing p with
  | nil => simp
  | cons j js ih =>
    by_cases hj : about j = some k
    · rw [List.filter_cons_of_pos (by simpa using hj), List.foldl_cons, ih]
      rcases handle_of_about hj p with ⟨msg, src, resp, keypair, -, -, hk, hh⟩ | ⟨-, -, hk, hh⟩
      · cases keypair <;> simp [hh, hj, hk]
      · simp [hh, hj, hk]
    · rw [List.filter_cons_of_neg (by simpa using hj), ih, List.filterMap_cons]
      simp [hj]

/-- The timer calls a peer ends with, over the jobs about it. -/
theorem foldl_handle_timers (js : List (HandshakeJob E × Reply W KP)) (p : Peer E KP) :
    ((js.filter (about · = some k)).foldl (fun p j => p.handle j) p).timers =
      p.timers ++ js.flatMap (timerEvents k) := by
  induction js generalizing p with
  | nil => simp
  | cons j js ih =>
    by_cases hj : about j = some k
    · rw [List.filter_cons_of_pos (by simpa using hj), List.foldl_cons, ih]
      rcases handle_of_about hj p with ⟨msg, src, resp, keypair, ha, -, hk, hh⟩ | ⟨ha, hr, -, hh⟩
      · simp [hh, timerEvents, ha, hk]
      · simp [hh, timerEvents, ha, hr]
    · rw [List.filter_cons_of_neg (by simpa using hj), ih, List.flatMap_cons, timerEvents,
        authenticated_of_ne hj, requests_of_ne hj]
      simp

end

/-! ## Whole runs -/

/-- A peer between handshakes, with a handshake queued. -/
def samplePeer : Peer Unit Unit := ⟨0, 0, none, [], [], [], true⟩

/-- A device whose only peer, keyed `[1]`, is `samplePeer`. -/
def sampleState : HandshakeState Unit Unit (List UInt8) :=
  ⟨1, fun k => if k = ⟨[1]⟩ then some samplePeer else none, [], []⟩

/-- A message the device authenticates as the peer, answers and derives a
key pair from, then a request for a new handshake with it. -/
def sampleJobs : List (HandshakeJob Unit × Reply Unit Unit) :=
  [(.Message [1, 2] (), ⟨some (some ⟨[1]⟩, some [3], some ()), some (), [7], none⟩),
   (.New ⟨[1]⟩, ⟨none, none, [], some [4]⟩)]

/-- A writer that sends every response. -/
def sampleWrite : Unit → List UInt8 → Unit → Option (List UInt8) := fun _ m _ => some m

section

variable {write : W → List UInt8 → E → Option O} {st st' : HandshakeState E KP O}
  {js : List (HandshakeJob E × Reply W KP)}

/-- **Each peer goes through the jobs about it alone.** After any run the
worker comes back from, whatever the other jobs were, a peer's state is
its state before taken through the jobs about it, in order; and the
device has the same peers. -/
theorem handshakeWorker_peers (h : handshakeWorker write js st = some st') (k : PublicKey) :
    st'.peers k = (st.peers k).map fun p => (js.filter (about · = some k)).foldl (fun p j => p.handle j) p := by
  induction js generalizing st with
  | nil =>
    cases h
    simp
  | cons j js ih =>
    obtain ⟨st₁, h₁, h⟩ := Option.bind_eq_some.1 h
    rw [ih h, handshakeWorkerStep_peers h₁]
    by_cases hj : about j = some k
    · simp [hj, Option.map_map, Function.comp_def]
    · simp [hj]

/-- **Roaming follows authenticated messages only.** Over any run the
worker comes back from, a peer the device has keeps being there, and its
endpoint is the source of the last handshake message the device
authenticated as it, or, without one, the endpoint it had. -/
theorem handshakeWorker_endpoint (h : handshakeWorker write js st = some st') {k : PublicKey}
    {p : Peer E KP} (hk : st.peers k = some p) :
    ∃ p', st'.peers k = some p' ∧
      p'.endpoint = ((js.filterMap (authenticated k)).map (·.2.1)).getLast?.or p.endpoint := by
  rw [handshakeWorker_peers h k, hk]
  exact ⟨_, rfl, foldl_handle_endpoint k js p⟩

theorem handshakeWorker_endpoint_sample :
    ∃ st', handshakeWorker sampleWrite sampleJobs sampleState = some st' ∧
      sampleState.peers ⟨[1]⟩ = some samplePeer ∧ ∃ p', st'.peers ⟨[1]⟩ = some p' ∧
        p'.endpoint = ((sampleJobs.filterMap (authenticated ⟨[1]⟩)).map (·.2.1)).getLast?.or samplePeer.endpoint :=
  ⟨_, rfl, rfl, @handshakeWorker_endpoint Unit Unit Unit (List UInt8) sampleWrite sampleState _ sampleJobs rfl
    ⟨[1]⟩ samplePeer rfl⟩

/-- **Byte accounting.** Over any run the worker comes back from, a
peer's `rx_bytes` grows, modulo `2^64`, by the lengths of the handshake
messages the device authenticated as it, and its `tx_bytes` by the lengths
of the responses the device made to them, whether or not a writer was
installed to send them. -/
theorem handshakeWorker_bytes (h : handshakeWorker write js st = some st') {k : PublicKey}
    {p : Peer E KP} (hk : st.peers k = some p) :
    ∃ p', st'.peers k = some p' ∧
      p'.rxBytes.toNat =
        (p.rxBytes.toNat + ((js.filterMap (authenticated k)).map (·.1.length)).foldr (· + ·) 0) % 2 ^ 64 ∧
      p'.txBytes.toNat = (p.txBytes.toNat +
        ((js.filterMap (authenticated k)).map fun a => (a.2.2.map List.length).getD 0).foldr (· + ·) 0) % 2 ^ 64 := by
  rw [handshakeWorker_peers h k, hk]
  exact ⟨_, rfl, foldl_handle_bytes k js p⟩

theorem handshakeWorker_bytes_sample :
    ∃ st', handshakeWorker sampleWrite sampleJobs sampleState = some st' ∧
      sampleState.peers ⟨[1]⟩ = some samplePeer ∧ ∃ p', st'.peers ⟨[1]⟩ = some p' ∧
        p'.rxBytes.toNat = (samplePeer.rxBytes.toNat +
          ((sampleJobs.filterMap (authenticated ⟨[1]⟩)).map (·.1.length)).foldr (· + ·) 0) % 2 ^ 64 ∧
        p'.txBytes.toNat = (samplePeer.txBytes.toNat +
          ((sampleJobs.filterMap (authenticated ⟨[1]⟩)).map fun a => (a.2.2.map List.length).getD 0).foldr
            (· + ·) 0) %
            2 ^ 64 :=
  ⟨_, rfl, rfl, @handshakeWorker_bytes Unit Unit Unit (List UInt8) sampleWrite sampleState _ sampleJobs rfl
    ⟨[1]⟩ samplePeer rfl⟩

/-- **Requests for a new handshake.** Over any run the worker comes back
from, a peer's router sends, in order, each initiation the device built
for a request for it, and its `handshake_queued` flag ends cleared if
there was any request for it, even one whose initiation failed, and
unchanged otherwise: the worker never sets it. -/
theorem handshakeWorker_queued (h : handshakeWorker write js st = some st') {k : PublicKey}
    {p : Peer E KP} (hk : st.peers k = some p) :
    ∃ p', st'.peers k = some p' ∧
      p'.handshakeQueued = (p.handshakeQueued && !js.any (requests k)) ∧
      p'.initiations = p.initiations ++ js.filterMap fun j => if requests k j then j.2.begin else none := by
  rw [handshakeWorker_peers h k, hk]
  exact ⟨_, rfl, foldl_handle_queued k js p⟩

theorem handshakeWorker_queued_sample :
    ∃ st', handshakeWorker sampleWrite sampleJobs sampleState = some st' ∧
      sampleState.peers ⟨[1]⟩ = some samplePeer ∧ ∃ p', st'.peers ⟨[1]⟩ = some p' ∧
        p'.handshakeQueued = (samplePeer.handshakeQueued && !sampleJobs.any (requests ⟨[1]⟩)) ∧
        p'.initiations = samplePeer.initiations ++
          sampleJobs.filterMap fun j => if requests ⟨[1]⟩ j then j.2.begin else none :=
  ⟨_, rfl, rfl, @handshakeWorker_queued Unit Unit Unit (List UInt8) sampleWrite sampleState _ sampleJobs rfl
    ⟨[1]⟩ samplePeer rfl⟩

/-- A job keeps which keys the device has a peer for. -/
theorem handshakeWorkerStep_isSome {j : HandshakeJob E × Reply W KP}
    (h : handshakeWorkerStep write st j = some st') (k : PublicKey) :
    (st'.peers k).isSome = (st.peers k).isSome := by
  rw [handshakeWorkerStep_peers h k]
  split <;> simp

/-- The ids a run releases: those of each key pair handed to a peer the
device has, in order. -/
theorem handshakeWorker_released (h : handshakeWorker write js st = some st') :
    st'.released = st.released ++
      (js.filter fun j => ((about j).bind st.peers).isSome && (keypairOf j).isSome).flatMap (·.2.ids) := by
  induction js generalizing st with
  | nil =>
    cases h
    simp
  | cons j js ih =>
    obtain ⟨st₁, h₁, h⟩ := Option.bind_eq_some.1 h
    have hs : ∀ j' : HandshakeJob E × Reply W KP,
        ((about j').bind st₁.peers).isSome = ((about j').bind st.peers).isSome := by
      intro j'
      cases about j' <;> simp [handshakeWorkerStep_isSome h₁]
    rw [ih h, handshakeWorkerStep_released h₁, List.filter_congr fun j' _ => by rw [hs j']]
    by_cases hc : ((about j).bind st.peers).isSome ∧ (keypairOf j).isSome
    · simp [List.filter_cons, hc]
    · simp only [List.filter_cons, decide_eq_true_eq, Bool.and_eq_true, hc, if_false, List.append_nil]

/-- **Key pairs reach the routers, and superseded ids reach the device.**
Over any run the worker comes back from, each peer's router has taken, in
order, exactly the new key pairs the device derived from handshake
messages it authenticated as that peer; and the ids released to the
handshake device are, in order, all those the routers returned on taking
them. A key pair derived for a key the device has no peer for reaches no
router and releases nothing. -/
theorem handshakeWorker_keypairs (h : handshakeWorker write js st = some st') :
    st'.released = st.released ++
        (js.filter fun j => ((about j).bind st.peers).isSome && (keypairOf j).isSome).flatMap (·.2.ids) ∧
      ∀ k p, st.peers k = some p → ∃ p', st'.peers k = some p' ∧
        p'.keypairs = p.keypairs ++ js.filterMap fun j => if about j = some k then keypairOf j else none :=
  ⟨handshakeWorker_released h, fun k p hk => by
    rw [handshakeWorker_peers h k, hk]
    exact ⟨_, rfl, foldl_handle_keypairs k js p⟩⟩

theorem handshakeWorker_keypairs_sample :
    ∃ st', handshakeWorker sampleWrite sampleJobs sampleState = some st' ∧
      (st'.released = sampleState.released ++
          (sampleJobs.filter fun j => ((about j).bind sampleState.peers).isSome && (keypairOf j).isSome).flatMap
            (·.2.ids) ∧
        ∀ k p, sampleState.peers k = some p → ∃ p', st'.peers k = some p' ∧
          p'.keypairs = p.keypairs ++ sampleJobs.filterMap fun j => if about j = some k then keypairOf j else none) :=
  ⟨_, rfl, @handshakeWorker_keypairs Unit Unit Unit (List UInt8) sampleWrite sampleState _ sampleJobs rfl⟩

/-- **Timer calls.** Over any run the worker comes back from, the timer
calls on a peer are, in order, those of the jobs about it: for each
handshake message the device authenticated as it,
`sent_handshake_response` when the response has a non-zero length and
`timers_handshake_complete` otherwise, an empty response counting as
none, then `timers_session_derived` when the device derived a key pair;
for each request for it, `sent_handshake_initiation` when the initiation
was built. -/
theorem handshakeWorker_timers (h : handshakeWorker write js st = some st') {k : PublicKey}
    {p : Peer E KP} (hk : st.peers k = some p) :
    ∃ p', st'.peers k = some p' ∧ p'.timers = p.timers ++ js.flatMap (timerEvents k) := by
  rw [handshakeWorker_peers h k, hk]
  exact ⟨_, rfl, foldl_handle_timers k js p⟩

/-- An empty response counts as none: the peer hears of a completed
handshake. -/
example : timerEvents ⟨[1]⟩ ((.Message [1] (), ⟨some (some ⟨[1]⟩, some [], none), some (), [], none⟩) :
    HandshakeJob Unit × Reply Unit Unit) = [.handshakeComplete] := rfl

theorem handshakeWorker_timers_sample :
    ∃ st', handshakeWorker sampleWrite sampleJobs sampleState = some st' ∧
      sampleState.peers ⟨[1]⟩ = some samplePeer ∧ ∃ p', st'.peers ⟨[1]⟩ = some p' ∧
        p'.timers = samplePeer.timers ++ sampleJobs.flatMap (timerEvents ⟨[1]⟩) :=
  ⟨_, rfl, rfl, @handshakeWorker_timers Unit Unit Unit (List UInt8) sampleWrite sampleState _ sampleJobs rfl
    ⟨[1]⟩ samplePeer rfl⟩

variable (write) in
/-- **The responses go out in order, each to its message's source.** The
worker comes back from a run exactly when every write it owes returns,
and it then has sent, after what was sent before, the answer of each
write: one per message the device answered with a response while a
writer was installed, to the message's source, whether or not the device
authenticated it. -/
theorem handshakeWorker_sent (js : List (HandshakeJob E × Reply W KP)) (st : HandshakeState E KP O) :
    (handshakeWorker write js st).map (·.sent) =
      ((js.filterMap toWrite).mapM fun x => write x.1 x.2.1 x.2.2).map (st.sent ++ ·) := by
  induction js generalizing st with
  | nil => exact congrArg some (List.append_nil _).symm
  | cons j js ih =>
    have hs := @handshakeWorkerStep_sent E W KP O write st j
    rw [List.filterMap_cons]
    rcases hw : toWrite j with _ | x <;> simp only [hw] at hs
    · obtain ⟨st₁, h₁, hsent⟩ := Option.map_eq_some'.1 hs
      simp only [handshakeWorker, h₁, Option.some_bind, ih, hsent]
    · rw [List.mapM_cons]
      rcases hx : write x.1 x.2.1 x.2.2 with _ | o <;> simp only [hx, Option.map_none', Option.map_some'] at hs
      · simp [handshakeWorker, Option.map_eq_none'.1 hs, hx]
      · obtain ⟨st₁, h₁, hsent⟩ := Option.map_eq_some'.1 hs
        simp only [handshakeWorker, h₁, Option.some_bind, ih, hsent, hx]
        cases List.mapM (fun x => write x.1 x.2.1 x.2.2) (js.filterMap toWrite) <;> simp

end

/-! ## On Linux -/

/-- `Writer::write` of the Linux writer as the worker calls it: the
`sendmsg` it makes, or `none` for a panic. The worker drops the result,
so the kernel's verdict `ret` does not matter to it. -/
def linuxSend (e : Endian) (ret : Int) (w : LinuxUDPWriter) (buf : List UInt8) (ep : LinuxEndpoint) :
    Option SendCall :=
  match w.write e buf ret ep with
  | .ok (call, _) => some call
  | .error _ => none

/-- The Linux writer returns exactly on a non-empty buffer to an IPv4
endpoint. -/
theorem linuxSend_isSome (e : Endian) (ret : Int) (w : LinuxUDPWriter) (buf : List UInt8)
    (ep : LinuxEndpoint) : (linuxSend e ret w buf ep).isSome ↔ buf ≠ [] ∧ ∃ ep4, ep = .V4 ep4 := by
  cases ep with
  | V4 ep4 => by_cases hb : buf = [] <;> simp [linuxSend, LinuxUDPWriter.write, write4, hb]
  | V6 ep6 => simp [linuxSend, LinuxUDPWriter.write, write6]

theorem mapM_isSome {α β : Type} (f : α → Option β) (l : List α) :
    (l.mapM f).isSome ↔ ∀ x ∈ l, (f x).isSome := by
  induction l with
  | nil => simp only [List.not_mem_nil, false_implies, implies_true, iff_true]; rfl
  | cons a l ih =>
    simp only [List.mapM_cons, List.mem_cons, forall_eq_or_imp, ← ih]
    cases f a <;> cases List.mapM f l <;> simp

/-- **On Linux the worker dies at the first response to an IPv6 peer.**
With the Linux writer, the handshake worker comes back from a run, on
any host and whatever the kernel answers, exactly when every response it
owes is non-empty and bound for an IPv4 source: `write6` is
`unimplemented!()`, so a response to a message that came in over IPv6
panics the worker. -/
theorem handshakeWorker_linux_returns (e : Endian) (ret : Int)
    (js : List (HandshakeJob LinuxEndpoint × Reply LinuxUDPWriter KP))
    (st : HandshakeState LinuxEndpoint KP SendCall) :
    (handshakeWorker (linuxSend e ret) js st).isSome ↔
      ∀ x ∈ js.filterMap toWrite, x.2.1 ≠ [] ∧ ∃ ep, x.2.2 = .V4 ep := by
  have h := congrArg Option.isSome (handshakeWorker_sent (linuxSend e ret) js st)
  simp only [Option.isSome_map'] at h
  rw [h, mapM_isSome]
  exact forall₂_congr fun x _ => linuxSend_isSome e ret x.1 x.2.1 x.2.2

end WireguardRs
