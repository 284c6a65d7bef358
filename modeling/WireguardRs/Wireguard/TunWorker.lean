import WireguardRs.Wireguard.Padding
/-!
# The TUN worker

One turn of `tun_worker`'s loop: allocate a zeroed buffer with room for
the MTU, the router's prefix and postfix and one spare byte, let the TUN
reader place a packet after the prefix, pad it, cut the buffer to the
padded length and hand it to the router. The prefix, postfix and padding
multiple are constants outside this excerpt, so they are parameters, and
the allocation is assumed to succeed.

`tunWorkerStep_some` is the turn's spec: the router gets the prefix's
zeros and the packet with its zero tail cut to `min(mtu, roundUp |p|)`
bytes. Every turn that starts passes both `debug_assert`s
(`padding_spec`), and over the loop (`tunWorkerLoop_forwards`) the router
gets what `tunForward` gives for each packet read, until a read fails.
-/

namespace WireguardRs

/-- What one turn of `tun_worker`'s loop does. -/
inductive TunStep where
  /-- The TUN read failed: `break`. -/
  | exit
  /-- The device is down: `continue`. -/
  | drop
  /-- `wg.router.send(msg)`. -/
  | send (msg : List UInt8)
  deriving DecidableEq, Repr

/-- The buffer after a reader placed `p` at `offset` in `buf`. -/
def placeAt (buf : List UInt8) (offset : Nat) (p : List UInt8) : List UInt8 :=
  buf.take offset ++ p ++ buf.drop (offset + p.length)

/-- The two `debug_assert`s after the truncation: `padded <= mtu`, and a
length below the MTU is a multiple of the padding. -/
def tunAssertions (MESSAGE_PADDING_MULTIPLE SIZE_MESSAGE_PREFIX mtu padded msgLen : Nat) :
    Option Unit := do
  guard (padded ≤ mtu)
  let lhs ← if padded < mtu then do
      let d ← Usize.sub msgLen SIZE_MESSAGE_PREFIX
      Usize.rem d MESSAGE_PADDING_MULTIPLE
    else pure 0
  guard (lhs = 0)

section

variable (SIZE_MESSAGE_PREFIX CAPACITY_MESSAGE_POSTFIX MESSAGE_PADDING_MULTIPLE : Nat)

/-- One turn of `tun_worker`'s loop, given the MTU it loads and the packet
the TUN reader places at offset `SIZE_MESSAGE_PREFIX` (`none` for a read
error). `none` is a panic: an overflow or a failed `debug_assert`. -/
def tunWorkerStep (mtu : Nat) (read : Option (List UInt8)) : Option TunStep := do
  let size ← Usize.add mtu SIZE_MESSAGE_PREFIX >>= (Usize.add · 1)
  let msg := List.replicate (← Usize.add size CAPACITY_MESSAGE_POSTFIX) 0
  match read with
  | none => pure .exit
  | some p =>
    let msg := placeAt msg SIZE_MESSAGE_PREFIX p
    let payload := p.length
    if mtu = 0 then pure .drop
    else
      let padded ← padding MESSAGE_PADDING_MULTIPLE payload mtu
      let msg := msg.take (← Usize.add SIZE_MESSAGE_PREFIX padded)
      tunAssertions MESSAGE_PADDING_MULTIPLE SIZE_MESSAGE_PREFIX mtu padded msg.length
      pure (.send msg)

/-- What the router should get for a packet, by the padding rule: nothing
while the device is down; otherwise the prefix's zeros, then the packet
and zeros up to `min(mtu, P * ceil(|p| / P))`, or, for a packet longer
than the MTU, its first `mtu` bytes. -/
def tunForward (mtu : Nat) (p : List UInt8) : Option (List UInt8) :=
  if mtu = 0 then none
  else some (List.replicate SIZE_MESSAGE_PREFIX 0 ++ if p.length ≤ mtu then
    p ++ List.replicate (min mtu (roundUp MESSAGE_PADDING_MULTIPLE p.length) - p.length) 0 else p.take mtu)

end

section

variable {PREFIX POSTFIX P mtu : Nat} {p : List UInt8}

/-- The assertions hold of a padded length: it is at most the MTU and,
below it, a multiple of `P`. -/
theorem tunAssertions_eq {padded : Nat} (hP : 0 < P) (hle : padded ≤ mtu)
    (hmod : padded < mtu → padded % P = 0) :
    tunAssertions P PREFIX mtu padded (PREFIX + padded) = some () := by
  by_cases hlt : padded < mtu
  · simp [tunAssertions, hle, hlt, Usize.sub_of_le, Usize.rem_of_pos hP, hmod hlt]
  · simp [tunAssertions, hle, hlt]

/-- The buffer after the TUN reader placed a packet that fits after the
prefix: the prefix's zeros, the packet, then zeros. -/
theorem placeAt_replicate {len : Nat} (hp : PREFIX + p.length ≤ len) :
    placeAt (List.replicate len 0) PREFIX p =
      List.replicate PREFIX 0 ++ (p ++ List.replicate (len - PREFIX - p.length) 0) := by
  rw [placeAt, List.take_replicate, List.drop_replicate, List.append_assoc,
    Nat.min_eq_left (by omega), Nat.sub_sub]

/-- **One turn of the TUN worker.** With the MTU up and the buffer
allocatable, a packet that fits the buffer's room after the prefix and
rounds up within `usize` is forwarded as the prefix's zeros, then the
packet and its zero tail cut to `min(mtu, roundUp |p|)` bytes. -/
theorem tunWorkerStep_some (hP : 0 < P) (hmtu : 0 < mtu)
    (hbuf : mtu + PREFIX + 1 + POSTFIX ≤ USIZE_MAX) (hp : p.length ≤ mtu + 1 + POSTFIX)
    (hround : roundUp P p.length ≤ USIZE_MAX) :
    tunWorkerStep PREFIX POSTFIX P mtu (some p) = some (.send (List.replicate PREFIX 0 ++
      (p ++ List.replicate (mtu + 1 + POSTFIX - p.length) 0).take (min mtu (roundUp P p.length)))) := by
  obtain ⟨r, hr⟩ : ∃ r, min mtu (roundUp P p.length) = r := ⟨_, rfl⟩
  have hle : r ≤ mtu := hr ▸ Nat.min_le_left _ _
  have hmod : r < mtu → r % P = 0 := fun h => by
    rw [← hr, Nat.min_eq_right (by omega)]
    exact roundUp_mod _
  have hmsg : placeAt (List.replicate (mtu + PREFIX + 1 + POSTFIX) 0) PREFIX p = _ :=
    placeAt_replicate (by omega)
  have hroom : mtu + PREFIX + 1 + POSTFIX - PREFIX - p.length = mtu + 1 + POSTFIX - p.length := by
    omega
  have htake : (List.replicate PREFIX 0 ++ (p ++ List.replicate (mtu + 1 + POSTFIX - p.length) 0)).take
      (PREFIX + r) = List.replicate PREFIX 0 ++
        (p ++ List.replicate (mtu + 1 + POSTFIX - p.length) 0).take r := by
    simpa using @List.take_append _ (List.replicate PREFIX (0 : UInt8)) _ r
  have hlen : (List.replicate PREFIX 0 ++
      (p ++ List.replicate (mtu + 1 + POSTFIX - p.length) 0).take r).length = PREFIX + r := by
    simp only [List.length_append, List.length_take, List.length_replicate]
    omega
  rw [hr]
  simp only [tunWorkerStep, Usize.add_of_le (show mtu + PREFIX ≤ USIZE_MAX by omega),
    Usize.add_of_le (show mtu + PREFIX + 1 ≤ USIZE_MAX by omega), Usize.add_of_le hbuf,
    Option.bind_eq_bind, Option.some_bind, Nat.pos_iff_ne_zero.1 hmtu, if_false, hmsg, hroom,
    padding_eq hP hround (show mtu ≤ USIZE_MAX by omega), hr, Usize.add_of_le (show PREFIX + r ≤ USIZE_MAX by omega),
    htake, hlen, tunAssertions_eq hP hle hmod]
  rfl

/-- A packet no longer than the MTU is forwarded whole, then zeros up to
its padded length. -/
theorem tunWorkerStep_of_le (hP : 0 < P) (hmtu : 0 < mtu)
    (hbuf : mtu + PREFIX + 1 + POSTFIX ≤ USIZE_MAX) (hp : p.length ≤ mtu)
    (hround : roundUp P p.length ≤ USIZE_MAX) :
    tunWorkerStep PREFIX POSTFIX P mtu (some p) = some (.send (List.replicate PREFIX 0 ++
      (p ++ List.replicate (min mtu (roundUp P p.length) - p.length) 0))) := by
  have hr : p.length ≤ min mtu (roundUp P p.length) := Nat.le_min.2 ⟨hp, le_roundUp hP _⟩
  rw [tunWorkerStep_some hP hmtu hbuf (by omega) hround, List.take_append_eq_append_take,
    List.take_of_length_le hr, List.take_replicate, Nat.min_eq_left (by omega)]

/-- A packet longer than the MTU is cut to the MTU. -/
theorem tunWorkerStep_of_lt (hP : 0 < P) (hmtu : 0 < mtu) (hbuf : mtu + PREFIX + 1 + POSTFIX ≤ USIZE_MAX)
    (hp : p.length ≤ mtu + 1 + POSTFIX) (hlt : mtu < p.length)
    (hround : roundUp P p.length ≤ USIZE_MAX) :
    tunWorkerStep PREFIX POSTFIX P mtu (some p) = some (.send (List.replicate PREFIX 0 ++ p.take mtu)) := by
  have hr : min mtu (roundUp P p.length) = mtu :=
    Nat.min_eq_left (Nat.le_trans hlt.le (le_roundUp hP _))
  rw [tunWorkerStep_some hP hmtu hbuf hp hround, hr, List.take_append_of_le_length hlt.le]

/-- A read while the device is down forwards nothing. -/
theorem tunWorkerStep_down (hbuf : PREFIX + 1 + POSTFIX ≤ USIZE_MAX) :
    tunWorkerStep PREFIX POSTFIX P 0 (some p) = some .drop := by
  simp [tunWorkerStep, Usize.add_of_le (show 0 + PREFIX ≤ USIZE_MAX by omega),
    Usize.add_of_le (show PREFIX + 1 ≤ USIZE_MAX by omega), Usize.add_of_le hbuf]

/-- A packet that fits the buffer rounds up within `usize`. -/
theorem roundUp_length_le (hP : 0 < P) (hPfix : P ≤ PREFIX + 1)
    (hbuf : mtu + PREFIX + 1 + POSTFIX ≤ USIZE_MAX) (hp : p.length ≤ mtu + 1 + POSTFIX) :
    roundUp P p.length ≤ USIZE_MAX := by
  have := roundUp_le hP p.length
  omega

/-- One turn on a packet that fits the buffer forwards what the padding
rule says. -/
theorem tunWorkerStep_eq_tunForward (hP : 0 < P) (hPfix : P ≤ PREFIX + 1)
    (hbuf : mtu + PREFIX + 1 + POSTFIX ≤ USIZE_MAX) (hp : p.length ≤ mtu + 1 + POSTFIX) :
    tunWorkerStep PREFIX POSTFIX P mtu (some p) =
      some ((tunForward PREFIX P mtu p).elim .drop .send) := by
  rcases Nat.eq_zero_or_pos mtu with rfl | hmtu
  · rw [tunWorkerStep_down (by omega)]
    rfl
  · have hround := roundUp_length_le hP hPfix hbuf hp
    rw [tunForward, if_neg (Nat.pos_iff_ne_zero.1 hmtu)]
    by_cases hle : p.length ≤ mtu
    · rw [if_pos hle, tunWorkerStep_of_le hP hmtu hbuf hle hround]
      rfl
    · rw [if_neg hle, tunWorkerStep_of_lt hP hmtu hbuf hp (by omega) hround]
      rfl

/-- **What the TUN worker forwards.** For padding constants with
`0 < P ≤ SIZE_MESSAGE_PREFIX + 1`, every MTU above zero whose buffer is
allocatable and every packet the reader can place, the turn hands the
router the prefix's zeros followed by the whole packet and
`padding(|p|, mtu) - |p|` zeros when the packet fits the MTU, and by the
packet's first `mtu` bytes when it does not. -/
theorem tunWorkerStep_forwards (hP : 0 < P) (hPfix : P ≤ PREFIX + 1) (hmtu : 0 < mtu)
    (hbuf : mtu + PREFIX + 1 + POSTFIX ≤ USIZE_MAX) (hp : p.length ≤ mtu + 1 + POSTFIX) :
    ∃ padded, padding P p.length mtu = some padded ∧
      tunWorkerStep PREFIX POSTFIX P mtu (some p) = some (.send (List.replicate PREFIX 0 ++
        if p.length ≤ mtu then p ++ List.replicate (padded - p.length) 0 else p.take mtu)) := by
  refine ⟨_, padding_eq hP (roundUp_length_le hP hPfix hbuf hp) (show mtu ≤ USIZE_MAX by omega), ?_⟩
  rw [tunWorkerStep_eq_tunForward hP hPfix hbuf hp, tunForward, if_neg (Nat.pos_iff_ne_zero.1 hmtu)]
  rfl

/-- A 1500-byte MTU and a three-byte packet, with the router's sixteen-byte constants. -/
theorem tunWorkerStep_forwards_sample :
    0 < 16 ∧ 16 ≤ 16 + 1 ∧ 0 < 1500 ∧ 1500 + 16 + 1 + 16 ≤ USIZE_MAX ∧
      ([1, 2, 3] : List UInt8).length ≤ 1500 + 1 + 16 ∧
      ∃ padded, padding 16 ([1, 2, 3] : List UInt8).length 1500 = some padded ∧
        tunWorkerStep 16 16 16 1500 (some [1, 2, 3]) = some (.send (List.replicate 16 0 ++
          if ([1, 2, 3] : List UInt8).length ≤ 1500 then
            [1, 2, 3] ++ List.replicate (padded - ([1, 2, 3] : List UInt8).length) 0
          else List.take 1500 [1, 2, 3])) :=
  ⟨by decide, by decide, by decide, by decide, by decide,
    tunWorkerStep_forwards (by decide) (by decide) (by decide) (by decide) (by decide)⟩

/-- A two-byte packet on an MTU of one reaches the router cut to one byte. -/
theorem tunWorkerStep_cuts :
    tunWorkerStep 16 16 16 1 (some [1, 2]) = some (.send (List.replicate 16 0 ++ [1])) :=
  tunWorkerStep_of_lt (by decide) (by decide) (by decide) (by decide) (by decide) (by decide)

/-- **`padding`, in `usize`.** For every `size` up to `usize::MAX - (P - 1)`
and every MTU, no step overflows and the result is `min(mtu, P * ceil(size
/ P))`. For `size <= mtu` the result `r` lies between `size` and the MTU,
is the MTU or a multiple of `P`, pads to itself, and a packet of `size`
bytes passes `tun_worker`'s assertions whenever its buffer is
allocatable. -/
theorem padding_spec (hP : 0 < P) {size : Nat} (hs : size ≤ USIZE_MAX - (P - 1))
    (hm : mtu ≤ USIZE_MAX) :
    padding P size mtu = some (min mtu (roundUp P size)) ∧
      (size ≤ mtu → size ≤ min mtu (roundUp P size) ∧ min mtu (roundUp P size) ≤ mtu ∧
        (min mtu (roundUp P size) = mtu ∨ min mtu (roundUp P size) % P = 0) ∧
        padding P (min mtu (roundUp P size)) mtu = some (min mtu (roundUp P size)) ∧
        ∀ (PREFIX POSTFIX : Nat) (p : List UInt8), p.length = size →
          mtu + PREFIX + 1 + POSTFIX ≤ USIZE_MAX → (tunWorkerStep PREFIX POSTFIX P mtu (some p)).isSome) := by
  have hround : roundUp P size ≤ USIZE_MAX := by
    rcases Nat.eq_zero_or_pos size with rfl | hpos
    · simp [roundUp, Nat.div_eq_of_lt (Nat.sub_lt hP Nat.one_pos)]
    · have := roundUp_le hP size
      omega
  refine ⟨padding_eq hP hround hm, fun hsm => ⟨Nat.le_min.2 ⟨hsm, le_roundUp hP size⟩,
    Nat.min_le_left _ _, ?_, padding_min_roundUp hP hround hm, ?_⟩⟩
  · rcases Nat.le_total mtu (roundUp P size) with h | h
    · exact .inl (Nat.min_eq_left h)
    · exact .inr (by rw [Nat.min_eq_right h]; exact roundUp_mod size)
  · intro PREFIX POSTFIX p hp hbuf
    subst hp
    rcases Nat.eq_zero_or_pos mtu with h0 | hmtu
    · subst h0
      simp [tunWorkerStep, Usize.add_of_le (show 0 + PREFIX ≤ USIZE_MAX by omega),
        Usize.add_of_le (show PREFIX + 1 ≤ USIZE_MAX by omega),
        Usize.add_of_le (show PREFIX + 1 + POSTFIX ≤ USIZE_MAX by omega)]
    · rw [tunWorkerStep_of_le hP hmtu hbuf hsm hround]
      rfl

/-- Size `1` and MTU `1500`, with a multiple of `16`. -/
theorem padding_spec_sample :
    0 < 16 ∧ 1 ≤ USIZE_MAX - (16 - 1) ∧ 1500 ≤ USIZE_MAX ∧
      (padding 16 1 1500 = some (min 1500 (roundUp 16 1)) ∧
      (1 ≤ 1500 → 1 ≤ min 1500 (roundUp 16 1) ∧ min 1500 (roundUp 16 1) ≤ 1500 ∧
        (min 1500 (roundUp 16 1) = 1500 ∨ min 1500 (roundUp 16 1) % 16 = 0) ∧
        padding 16 (min 1500 (roundUp 16 1)) 1500 = some (min 1500 (roundUp 16 1)) ∧
        ∀ (PREFIX POSTFIX : Nat) (p : List UInt8), p.length = 1 →
          1500 + PREFIX + 1 + POSTFIX ≤ USIZE_MAX →
            (tunWorkerStep PREFIX POSTFIX 16 1500 (some p)).isSome)) :=
  ⟨by decide, by decide, by decide, padding_spec (by decide) (by decide) (by decide)⟩

end

/-! ## The loop -/

section

variable (SIZE_MESSAGE_PREFIX CAPACITY_MESSAGE_POSTFIX MESSAGE_PADDING_MULTIPLE : Nat)

/-- `tun_worker`'s loop over the turns it runs, each with the MTU it loads
and what the TUN reader returns: the buffers handed to `router.send`, in
order, up to the first failed read. `none` is a panic. -/
def tunWorkerLoop : List (Nat × Option (List UInt8)) → Option (List (List UInt8))
  | [] => some []
  | (mtu, read) :: turns =>
    match tunWorkerStep SIZE_MESSAGE_PREFIX CAPACITY_MESSAGE_POSTFIX MESSAGE_PADDING_MULTIPLE mtu read with
    | none => none
    | some .exit => some []
    | some .drop => tunWorkerLoop turns
    | some (.send msg) => (tunWorkerLoop turns).map (msg :: ·)

end

section

variable {PREFIX POSTFIX P : Nat}

/-- A failed read ends the loop. -/
theorem tunWorkerStep_none {mtu : Nat} (hbuf : mtu + PREFIX + 1 + POSTFIX ≤ USIZE_MAX) :
    tunWorkerStep PREFIX POSTFIX P mtu none = some .exit := by
  simp [tunWorkerStep, Usize.add_of_le (show mtu + PREFIX ≤ USIZE_MAX by omega),
    Usize.add_of_le (show mtu + PREFIX + 1 ≤ USIZE_MAX by omega), Usize.add_of_le hbuf]

/-- **The TUN worker's loop, over every run.** For padding constants with
`0 < P ≤ SIZE_MESSAGE_PREFIX + 1`, every sequence of turns whose buffers
are allocatable and whose packets fit the room the buffer leaves, the
loop never panics and hands `router.send`, in order, what the padding
rule gives for each packet read, up to the first failed read. -/
theorem tunWorkerLoop_forwards (hP : 0 < P) (hPfix : P ≤ PREFIX + 1)
    (turns : List (Nat × Option (List UInt8)))
    (hturns : ∀ t ∈ turns, t.1 + PREFIX + 1 + POSTFIX ≤ USIZE_MAX ∧ ∀ p ∈ t.2, p.length ≤ t.1 + 1 + POSTFIX) :
    tunWorkerLoop PREFIX POSTFIX P turns =
      some ((turns.takeWhile (·.2.isSome)).filterMap fun t => t.2.bind (tunForward PREFIX P t.1)) := by
  induction turns with
  | nil => rfl
  | cons t turns ih =>
    obtain ⟨mtu, read⟩ := t
    obtain ⟨hbuf, hp⟩ := hturns _ (List.mem_cons_self _ _)
    have ih := ih fun t ht => hturns t (List.mem_cons_of_mem _ ht)
    cases read with
    | none => simp [tunWorkerLoop, tunWorkerStep_none hbuf]
    | some p =>
      rw [tunWorkerLoop, tunWorkerStep_eq_tunForward hP hPfix hbuf (hp p rfl)]
      cases h : tunForward PREFIX P mtu p <;> simp [ih, h]

/-- A packet, a read while the device is down, then a failed read. -/
theorem tunWorkerLoop_forwards_sample :
    0 < 16 ∧ 16 ≤ 16 + 1 ∧
      (∀ t ∈ ([(1500, some [1, 2, 3]), (0, some [4]), (1500, none)] : List (Nat × Option (List UInt8))),
        t.1 + 16 + 1 + 16 ≤ USIZE_MAX ∧ ∀ p ∈ t.2, p.length ≤ t.1 + 1 + 16) ∧
      tunWorkerLoop 16 16 16 [(1500, some [1, 2, 3]), (0, some [4]), (1500, none)] =
        some ((([(1500, some [1, 2, 3]), (0, some [4]), (1500, none)] : List (Nat × Option (List UInt8))).takeWhile
          (·.2.isSome)).filterMap fun t => t.2.bind (tunForward 16 16 t.1)) :=
  ⟨by decide, by decide, by decide, tunWorkerLoop_forwards (by decide) (by decide) _ (by decide)⟩

end

end WireguardRs
