import WireguardRs.Wireguard.UdpWorker
/-!
# The pending counter, over every interleaving

`wg.pending` counts the handshake jobs in flight. A producer, such as
`udp_worker` on a handshake message, runs `pending.fetch_add(1)` and
later `queue.send(job)`; a consumer, `handshake_worker`, takes a job
from the channel and then runs `pending.fetch_sub(1)`, which wraps to
`usize::MAX` at `0`. Each thread is a program counter, `some job` inside
the window between its two steps, and a run is any interleaving of them.

The counter always equals the jobs in flight, queued or inside a window
(`run_balanced`). From a fresh device it therefore never meets a
`fetch_sub` at `0`, it is at least the channel's length, and it is the
number of increments minus the number of decrements (`pending_spec`).
-/

namespace WireguardRs

namespace Pending

/-- What the workers share around the counter: `wg.pending`, the
handshake channel, and the program counter of each producer and each
consumer thread. -/
structure Shared (E : Type) where
  pending : Nat
  queue : List (HandshakeJob E)
  producers : List (Option (HandshakeJob E))
  consumers : List (Option (HandshakeJob E))
  deriving DecidableEq, Repr

/-- The steps around the counter, each by one thread. -/
inductive Event (E : Type) where
  /-- Producer `i`: `pending.fetch_add(1)`, before sending `job`. -/
  | fetchAdd (i : Nat) (job : HandshakeJob E)
  /-- Producer `i`: `queue.send(job)`. -/
  | send (i : Nat)
  /-- Consumer `j`: `for job in rx` takes the channel's head. -/
  | recv (j : Nat)
  /-- Consumer `j`: `pending.fetch_sub(1)`. -/
  | fetchSub (j : Nat)
  deriving DecidableEq, Repr

/-- `AtomicUsize::fetch_sub(1)`'s new value, wrapping at `0`. -/
def fetchSub (p : Nat) : Nat := if p = 0 then USIZE_MAX else p - 1

variable {E : Type}

/-- One step; `none` when the thread is not at that step. `fetch_add`
would wrap only with `2^64` jobs alive at once, more than an address
space holds, so the counter adds without bound. -/
def step (d : Shared E) : Event E → Option (Shared E)
  | .fetchAdd i job =>
    match d.producers[i]? with
    | some none => some { d with pending := d.pending + 1, producers := d.producers.set i (some job) }
    | _ => none
  | .send i =>
    match d.producers[i]? with
    | some (some job) => some { d with queue := d.queue ++ [job], producers := d.producers.set i none }
    | _ => none
  | .recv j =>
    match d.consumers[j]?, d.queue with
    | some none, job :: rest => some { d with queue := rest, consumers := d.consumers.set j (some job) }
    | _, _ => none
  | .fetchSub j =>
    match d.consumers[j]? with
    | some (some _) => some { d with pending := fetchSub d.pending, consumers := d.consumers.set j none }
    | _ => none

/-- A run of steps, failing at the first that is not enabled. -/
def run (d : Shared E) : List (Event E) → Option (Shared E)
  | [] => some d
  | ev :: evs => (step d ev).bind (run · evs)

/-- A device with `np` producers and `nc` consumers, before any job. -/
def init (np nc : Nat) : Shared E := ⟨0, [], List.replicate np none, List.replicate nc none⟩

/-- The threads inside their window. -/
def held (l : List (Option (HandshakeJob E))) : Nat := l.countP Option.isSome

/-- The jobs in flight: queued, or held by a producer or a consumer. -/
def inflight (d : Shared E) : Nat := d.queue.length + held d.producers + held d.consumers

/-- The counter counts the jobs in flight. -/
def Balanced (d : Shared E) : Prop := d.pending = inflight d

instance (d : Shared E) : Decidable (Balanced d) := inferInstanceAs (Decidable (_ = _))

/-- The increments of a run. -/
def adds (evs : List (Event E)) : Nat := evs.countP fun | .fetchAdd .. => true | _ => false

/-- The decrements of a run. -/
def subs (evs : List (Event E)) : Nat := evs.countP fun | .fetchSub .. => true | _ => false

/-! ## One step -/

section

variable {l : List (Option (HandshakeJob E))} {i : Nat} {job : HandshakeJob E}

/-- A thread entering its window adds one to the threads inside. -/
theorem held_set_some (h : l[i]? = some none) : held (l.set i (some job)) = held l + 1 := by
  obtain ⟨hi, hl⟩ := List.getElem?_eq_some_iff.1 h
  simp [held, List.countP_set _ _ _ _ hi, hl]

/-- A thread leaving its window takes one from the threads inside. -/
theorem held_set_none (h : l[i]? = some (some job)) : held (l.set i none) + 1 = held l := by
  obtain ⟨hi, hl⟩ := List.getElem?_eq_some_iff.1 h
  have := List.boole_getElem_le_countP Option.isSome l i hi
  simp only [hl, Option.isSome_some, if_true] at this
  simp [held, List.countP_set _ _ _ _ hi, hl]
  omega

theorem held_replicate (n : Nat) : held (List.replicate n (none : Option (HandshakeJob E))) = 0 := by
  simp [held]

end

variable {d d' : Shared E}

/-- `fetch_add` is enabled for a producer between jobs, and only raises the counter. -/
theorem step_fetchAdd {i : Nat} {job : HandshakeJob E} (h : step d (.fetchAdd i job) = some d') :
    d.producers[i]? = some none ∧
      d' = { d with pending := d.pending + 1, producers := d.producers.set i (some job) } := by
  simp only [step] at h
  split at h <;> simp_all

/-- `send` is enabled for a producer holding a job, which it appends to the channel. -/
theorem step_send {i : Nat} (h : step d (.send i) = some d') :
    ∃ job, d.producers[i]? = some (some job) ∧
      d' = { d with queue := d.queue ++ [job], producers := d.producers.set i none } := by
  simp only [step] at h
  split at h <;> simp_all

/-- A consumer between jobs takes the channel's head, when there is one. -/
theorem step_recv {j : Nat} (h : step d (.recv j) = some d') :
    ∃ job rest, d.consumers[j]? = some none ∧ d.queue = job :: rest ∧
      d' = { d with queue := rest, consumers := d.consumers.set j (some job) } := by
  simp only [step] at h
  split at h
  · exact ⟨_, _, ‹_›, ‹_›, (Option.some.inj h).symm⟩
  · cases h

/-- `fetch_sub` is enabled for a consumer holding a job, and only lowers the counter. -/
theorem step_fetchSub {j : Nat} (h : step d (.fetchSub j) = some d') :
    ∃ job, d.consumers[j]? = some (some job) ∧
      d' = { d with pending := fetchSub d.pending, consumers := d.consumers.set j none } := by
  simp only [step] at h
  split at h <;> simp_all

/-- A consumer inside its window holds a job in flight, so a balanced
counter is positive there: `fetch_sub` takes one off and does not wrap. -/
theorem step_fetchSub_pos (hb : Balanced d) {j : Nat} (h : step d (.fetchSub j) = some d') :
    0 < d.pending ∧ d'.pending + 1 = d.pending := by
  obtain ⟨job, hj, rfl⟩ := step_fetchSub h
  have := held_set_none hj
  have hpos : 0 < d.pending := by rw [hb, inflight]; omega
  exact ⟨hpos, by simp only [fetchSub, if_neg (Nat.pos_iff_ne_zero.1 hpos)]; omega⟩

/-- **Every step keeps the counter balanced**, and moves it by its own
increment or decrement. -/
theorem step_balanced (hb : Balanced d) {ev : Event E} (h : step d ev = some d') :
    Balanced d' ∧ d'.pending + subs [ev] = d.pending + adds [ev] := by
  cases ev with
  | fetchAdd i job =>
    obtain ⟨hi, rfl⟩ := step_fetchAdd h
    have : held (d.producers.set i (some job)) = held d.producers + 1 := held_set_some hi
    simp [Balanced, inflight, adds, subs] at hb ⊢
    omega
  | send i =>
    obtain ⟨job, hi, rfl⟩ := step_send h
    have := held_set_none hi
    simp [Balanced, inflight, adds, subs] at hb ⊢
    omega
  | recv j =>
    obtain ⟨job, rest, hj, hq, rfl⟩ := step_recv h
    have : held (d.consumers.set j (some job)) = held d.consumers + 1 := held_set_some hj
    simp [Balanced, inflight, adds, subs, hq] at hb ⊢
    omega
  | fetchSub j =>
    obtain ⟨-, hp⟩ := step_fetchSub_pos hb h
    obtain ⟨job, hj, rfl⟩ := step_fetchSub h
    have := held_set_none hj
    simp [Balanced, inflight, adds, subs] at hb hp ⊢
    omega

/-! ## Whole runs -/

theorem adds_cons (ev : Event E) (evs : List (Event E)) : adds (ev :: evs) = adds [ev] + adds evs := by
  simp only [adds, List.countP_cons, List.countP_nil]
  omega

theorem subs_cons (ev : Event E) (evs : List (Event E)) : subs (ev :: evs) = subs [ev] + subs evs := by
  simp only [subs, List.countP_cons, List.countP_nil]
  omega

/-- **Every run keeps the counter balanced**: from any balanced device,
after any interleaving the counter still counts the jobs in flight, and
it has moved by the run's increments less its decrements. -/
theorem run_balanced {evs : List (Event E)} (hb : Balanced d) (h : run d evs = some d') :
    Balanced d' ∧ d'.pending + subs evs = d.pending + adds evs := by
  induction evs generalizing d with
  | nil =>
    cases h
    exact ⟨hb, rfl⟩
  | cons ev evs ih =>
    obtain ⟨d₁, h₁, h⟩ := Option.bind_eq_some.1 h
    obtain ⟨hb₁, hp₁⟩ := step_balanced hb h₁
    obtain ⟨hb', hp'⟩ := ih hb₁ h
    refine ⟨hb', ?_⟩
    rw [adds_cons, subs_cons]
    omega

/-- A fresh device is balanced: no job is in flight and the counter is `0`. -/
theorem balanced_init (np nc : Nat) : Balanced (init np nc : Shared E) := by
  simp [Balanced, inflight, init, held_replicate]

/-- **The pending counter over every interleaving.** For any number of
producer and consumer threads, at every point a run from a fresh
device reaches, the counter is the number of jobs in flight, at least
the number of jobs in the channel, and the run's increments less its
decrements; and a `fetch_sub` taken there meets a positive counter and
lowers it by one, never wrapping. -/
theorem pending_spec {np nc : Nat} {evs : List (Event E)} (h : run (init np nc) evs = some d) :
    d.pending = inflight d ∧ d.queue.length ≤ d.pending ∧ d.pending + subs evs = adds evs ∧
      ∀ j d', step d (.fetchSub j) = some d' → 0 < d.pending ∧ d'.pending + 1 = d.pending := by
  obtain ⟨hb, hp⟩ := run_balanced (balanced_init np nc) h
  refine ⟨hb, by rw [hb, inflight]; omega, by simpa [init] using hp, fun j d' => step_fetchSub_pos hb⟩

/-- One producer queues a job that one consumer then takes. -/
theorem pending_spec_sample :
    run (init 1 1) [.fetchAdd 0 (.Message [1] ()), .send 0, .recv 0] = some ⟨1, [], [none], [some (.Message [1] ())]⟩ ∧
      ((⟨1, [], [none], [some (.Message [1] ())]⟩ : Shared Unit).pending =
          inflight (⟨1, [], [none], [some (.Message [1] ())]⟩ : Shared Unit) ∧
        ([] : List (HandshakeJob Unit)).length ≤ 1 ∧
        1 + subs [.fetchAdd 0 (.Message [1] ()), .send 0, .recv 0] =
          adds [.fetchAdd 0 (.Message [1] ()), .send 0, .recv 0] ∧
        ∀ j d', step (⟨1, [], [none], [some (.Message [1] ())]⟩ : Shared Unit) (.fetchSub j) = some d' →
          0 < 1 ∧ d'.pending + 1 = 1) :=
  ⟨rfl, @pending_spec Unit _ 1 1 _ rfl⟩

end Pending

end WireguardRs
