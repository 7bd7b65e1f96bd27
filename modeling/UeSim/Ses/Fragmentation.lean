import UeSim.Ses.Cargo
import UeSim.Ses.DispatchCalls
import UeSim.Support.Pieces

/-!
# Fragments and the payload

The number of fragments of a request is fixed by its announced length and the
payload MTU when it is submitted; their offsets and lengths follow from the
announced length and the MTU when it is dispatched, and their bytes from the
packet.  The fragments partition the packet exactly when these agree and the
packet delivery sublayer refuses none of them.
-/

namespace UeSim
namespace SesManager

variable {m : ExtendedOperationMetadata} {packet : Packet} {mtu count : ℕ}

/-! ## Offsets and lengths -/

/-- The offset and the length of fragment `i`, as the loop of
`DispatchRequestPackets` computes them. -/
def fragmentExtent (m : ExtendedOperationMetadata) (packet : Packet)
    (payloadPerPacket packetCount i : ℕ) : ℕ × ℕ :=
  let offset := toU32 (i * payloadPerPacket)
  (offset,
    if packetCount = 1 ∨ m.opType = .read then packet.length
    else min payloadPerPacket (subU32 m.payloadBytes offset))

/-- The offsets and lengths of one dispatch, in the order of emission. -/
def fragmentExtents (m : ExtendedOperationMetadata) (packet : Packet)
    (payloadPerPacket packetCount : ℕ) : List (ℕ × ℕ) :=
  (List.range packetCount).map (fragmentExtent m packet payloadPerPacket packetCount)

/-- The fragments of one dispatch partition the packet, and the length that is left
never wraps below zero. -/
structure FragmentsPartition (m : ExtendedOperationMetadata) (packet : Packet)
    (payloadPerPacket packetCount : ℕ) : Prop where
  pieces : Pieces.Partitions (fragmentExtents m packet payloadPerPacket packetCount)
    packet.length
  remains : m.opType ≠ .read → ∀ i < packetCount, toU32 (i * payloadPerPacket) ≤ m.payloadBytes

/-- The packet is not empty and either travels whole, or is a SEND or WRITE that the
payload per packet cuts into as many packets as were counted. -/
def fragmentsFit (m : ExtendedOperationMetadata) (packet : Packet)
    (payloadPerPacket packetCount : ℕ) : Bool :=
  0 < packet.length &&
    (packetCount = 1 ||
      (m.opType ≠ .read && (packetCount - 1) * payloadPerPacket < m.payloadBytes &&
        packet.length = min (packetCount * payloadPerPacket) m.payloadBytes))

theorem payloadBytes_lt (m : ExtendedOperationMetadata) : m.payloadBytes < 2 ^ 32 :=
  toU32_lt _

/-! ## When they partition the packet -/

/-- A packet that travels whole is one piece. -/
theorem fragmentsPartition_whole :
    FragmentsPartition m packet mtu 1 ↔ 0 < packet.length := by
  have hextents : fragmentExtents m packet mtu 1 = [(0, packet.length)] := by
    simp [fragmentExtents, fragmentExtent, toU32]
  constructor
  · intro h
    have hpieces := h.pieces
    rw [hextents] at hpieces
    exact Pieces.partitions_single.mp hpieces
  · intro hpos
    refine ⟨hextents ▸ Pieces.partitions_single.mpr hpos, fun _ i hi => ?_⟩
    obtain rfl : i = 0 := by omega
    simp [toU32]

/-- Several copies of a READ packet never partition it. -/
theorem not_fragmentsPartition_read (hread : m.opType = .read) (hcount : 1 < count) :
    ¬ FragmentsPartition m packet mtu count := by
  rintro ⟨hpieces, -⟩
  have hextent : ∀ i, fragmentExtent m packet mtu count i = (toU32 (i * mtu), packet.length) := by
    intro i
    simp [fragmentExtent, hread]
  have hmem : ∀ i < count, (toU32 (i * mtu), packet.length) ∈ fragmentExtents m packet mtu count :=
    fun i hi => List.mem_map.mpr ⟨i, List.mem_range.mpr hi, hextent i⟩
  have hpos : 0 < packet.length := hpieces.nonempty _ (hmem 0 (by omega))
  have hwithin : toU32 (1 * mtu) + packet.length ≤ packet.length :=
    hpieces.within _ (hmem 1 hcount)
  have hzero : toU32 (0 * mtu) = 0 := by simp [toU32]
  refine Pieces.not_partitions_of_overlap 0 1 0 Nat.zero_lt_one hcount
    ?_ ?_ hpieces
  · rw [hextent, hzero]
    exact ⟨le_rfl, by omega⟩
  · rw [hextent]
    exact ⟨by omega, by omega⟩

/-- While no offset wraps and no subtraction does, the fragments are the pieces at the
multiples of the payload per packet. -/
theorem fragmentExtents_eq_cut (hop : m.opType ≠ .read) (hcount : 1 < count)
    (hoffsets : ∀ i < count, i * mtu < 2 ^ 32) (hremains : ∀ i < count, i * mtu ≤ m.payloadBytes) :
    fragmentExtents m packet mtu count = Pieces.cut mtu m.payloadBytes count := by
  refine List.map_congr_left fun i hi => ?_
  have hi' : i < count := List.mem_range.mp hi
  have hcut : ¬ (count = 1 ∨ m.opType = .read) := by
    rintro (h | h)
    · omega
    · exact hop h
  simp only [fragmentExtent, if_neg hcut, toU32_of_lt (hoffsets i hi')]
  rw [subU32_of_le (payloadBytes_lt m) (hremains i hi')]

/-- The first offset that wraps around falls into the first fragment. -/
theorem not_fragmentsPartition_of_wrap (hmtu : 0 < mtu) (hop : m.opType ≠ .read)
    (hcount : 1 < count) (hwrap : ∃ i, i < count ∧ 2 ^ 32 ≤ i * mtu) :
    ¬ FragmentsPartition m packet mtu count := by
  rintro ⟨hpieces, hremains⟩
  have hcut : ¬ (count = 1 ∨ m.opType = .read) := by
    rintro (h | h)
    · omega
    · exact hop h
  obtain ⟨hi, hover⟩ := Nat.find_spec hwrap
  have hfirst : ∀ j, j < Nat.find hwrap → j * mtu < 2 ^ 32 := by
    intro j hj
    by_contra hlong
    exact Nat.find_min hwrap hj ⟨hj.trans hi, by omega⟩
  generalize Nat.find hwrap = i at hi hover hfirst
  have hi0 : 0 < i := by
    rcases Nat.eq_zero_or_pos i with rfl | hpos
    · simp at hover
    · exact hpos
  have hbefore := hfirst (i - 1) (by omega)
  have hstep : (i - 1) * mtu + mtu = i * mtu := by
    rw [← Nat.succ_mul]
    congr 1
    omega
  have hsmall : toU32 (i * mtu) < mtu := by
    unfold toU32
    omega
  have hleft := hremains hop i hi
  have hmem : fragmentExtent m packet mtu count i ∈ fragmentExtents m packet mtu count :=
    List.mem_map.mpr ⟨i, List.mem_range.mpr hi, rfl⟩
  have hpos := hpieces.nonempty _ hmem
  simp only [fragmentExtent, if_neg hcut,
    subU32_of_le (payloadBytes_lt m) hleft] at hpos
  refine Pieces.not_partitions_of_overlap 0 i (toU32 (i * mtu)) hi0 hi
    ?_ ?_ hpieces
  · have hzero : toU32 (0 * mtu) = 0 := by simp [toU32]
    simp only [fragmentExtent, if_neg hcut, hzero,
      subU32_of_le (payloadBytes_lt m) (Nat.zero_le _)]
    omega
  · simp only [fragmentExtent, if_neg hcut, subU32_of_le (payloadBytes_lt m) hleft]
    omega

/-- The fragments of a SEND or WRITE in several packets. -/
theorem fragmentsPartition_cut (hmtu : 0 < mtu) (hop : m.opType ≠ .read) (hcount : 1 < count) :
    FragmentsPartition m packet mtu count ↔
      (count - 1) * mtu < m.payloadBytes ∧
        packet.length = min (count * mtu) m.payloadBytes := by
  have htotal := payloadBytes_lt m
  constructor
  · intro h
    have hoffsets : ∀ i < count, i * mtu < 2 ^ 32 := by
      intro i hi
      by_contra hlong
      exact not_fragmentsPartition_of_wrap hmtu hop hcount ⟨i, hi, by omega⟩ h
    have hpieces := h.pieces
    rw [fragmentExtents_eq_cut hop hcount hoffsets fun i hi => ?_] at hpieces
    · exact (Pieces.partitions_cut hmtu (by omega)).mp hpieces
    · have hleft := h.remains hop i hi
      rwa [toU32_of_lt (hoffsets i hi)] at hleft
  · intro h
    have hbound : ∀ i < count, i * mtu < m.payloadBytes :=
      fun i hi => (Pieces.mul_le_pred hi).trans_lt h.1
    have hoffsets : ∀ i < count, i * mtu < 2 ^ 32 := fun i hi => (hbound i hi).trans htotal
    refine ⟨?_, fun _ i hi => ?_⟩
    · rw [fragmentExtents_eq_cut hop hcount hoffsets fun i hi => (hbound i hi).le]
      exact (Pieces.partitions_cut hmtu (by omega)).mpr h
    · rw [toU32_of_lt (hoffsets i hi)]
      exact (hbound i hi).le

/-- The fragments of one dispatch partition the packet exactly when the counts and
lengths agree. -/
theorem fragmentsPartition_iff (hmtu : 0 < mtu) (hcount : 0 < count) :
    FragmentsPartition m packet mtu count ↔ fragmentsFit m packet mtu count = true := by
  simp only [fragmentsFit, Bool.and_eq_true, Bool.or_eq_true, decide_eq_true_eq]
  by_cases hone : count = 1
  · subst hone
    rw [fragmentsPartition_whole]
    simp
  have hmany : 1 < count := by omega
  by_cases hop : m.opType = .read
  · simp [not_fragmentsPartition_read hop hmany, hone, hop]
  · rw [fragmentsPartition_cut hmtu hop hmany]
    have hnonempty : (count - 1) * mtu < m.payloadBytes ∧
        packet.length = min (count * mtu) m.payloadBytes → 0 < packet.length := by
      rintro ⟨hstart, hsize⟩
      have := Nat.mul_pos hcount hmtu
      omega
    constructor
    · intro h
      exact ⟨hnonempty h, .inr ⟨⟨hop, h.1⟩, h.2⟩⟩
    · rintro ⟨-, h⟩
      obtain ⟨⟨-, hstart⟩, hsize⟩ := h.resolve_left hone
      exact ⟨hstart, hsize⟩

/-- A SEND or WRITE that announces the size of its packet is cut exactly, unless the
rounding term of its packet count wraps around. -/
theorem fragmentsFit_of_exact (hmtu : 0 < mtu) (hop : m.opType ≠ .read)
    (hpos : 0 < packet.length) (hexact : m.payloadBytes = packet.length)
    (hround : packet.length + mtu ≤ 2 ^ 32) :
    fragmentsFit m packet mtu (max 1 (m.calculatePacketCount mtu)) = true := by
  have hcount : m.calculatePacketCount mtu = (packet.length + mtu - 1) / mtu := by
    unfold ExtendedOperationMetadata.calculatePacketCount
    rw [if_neg (by omega), if_neg (by omega), hexact, toU32_of_lt (by omega)]
  have hdiv := Nat.div_add_mod (packet.length + mtu - 1) mtu
  have hmod := Nat.mod_lt (packet.length + mtu - 1) hmtu
  have hone : 1 ≤ (packet.length + mtu - 1) / mtu :=
    (Nat.one_le_div_iff hmtu).mpr (by omega)
  rw [hcount, max_eq_right hone]
  generalize (packet.length + mtu - 1) / mtu = count at hdiv hone ⊢
  have hpred : (count - 1) * mtu + mtu = mtu * count := by
    rw [← Nat.succ_mul, Nat.mul_comm]
    congr 1
    omega
  have hcomm : count * mtu = mtu * count := Nat.mul_comm _ _
  simp only [fragmentsFit, Bool.and_eq_true, Bool.or_eq_true, decide_eq_true_eq]
  exact ⟨hpos, .inr ⟨⟨hop, by omega⟩, by omega⟩⟩

/-! ## The fragments themselves -/

/-- The offset and the length that a fragment is handed down with. -/
def extent (fragment : TaggedPacket) : ℕ × ℕ :=
  (fragment.metadata.fragmentOffset, fragment.bytes.length)

/-- A fragment inside the packet has the offset and the length of the loop, and is not
empty only then. -/
theorem extent_requestFragment (m : ExtendedOperationMetadata) (packet : Packet)
    (mtu count i : ℕ) :
    extent (requestFragment m packet mtu count i) = fragmentExtent m packet mtu count i ∨
      (extent (requestFragment m packet mtu count i)).2 = 0 ∧
        packet.length < (fragmentExtent m packet mtu count i).1 +
          (fragmentExtent m packet mtu count i).2 := by
  by_cases hwhole : count = 1 ∨ m.opType = .read
  · left
    simp [extent, requestFragment, fragmentExtent, requestTags, hwhole]
  · simp only [extent, requestFragment, fragmentExtent, requestTags, if_neg hwhole]
    generalize toU32 (i * mtu) = offset
    generalize min mtu (subU32 m.payloadBytes offset) = length
    by_cases hwithin : offset + length ≤ packet.length
    · left
      rw [Packet.createFragment, if_pos hwithin, List.length_take, List.length_drop]
      exact Prod.ext rfl (min_eq_left (by omega))
    · right
      rw [Packet.createFragment, if_neg hwithin]
      exact ⟨rfl, by omega⟩

/-- The fragments partition the packet exactly when the offsets and lengths of the loop do. -/
theorem partitions_requestFragments :
    Pieces.Partitions ((requestFragments m packet mtu count).map extent) packet.length ↔
      Pieces.Partitions (fragmentExtents m packet mtu count) packet.length := by
  have hextents : (requestFragments m packet mtu count).map extent =
      (List.range count).map fun i => extent (requestFragment m packet mtu count i) := by
    rw [requestFragments, List.map_map]
    rfl
  rw [hextents]
  constructor
  · intro h
    have hsame : (List.range count).map (fun i => extent (requestFragment m packet mtu count i)) =
        fragmentExtents m packet mtu count := by
      refine List.map_congr_left fun i hi => ?_
      rcases extent_requestFragment m packet mtu count i with hsame | ⟨hempty, -⟩
      · exact hsame
      · have hpos := h.nonempty _ (List.mem_map.mpr ⟨i, hi, rfl⟩)
        omega
    exact hsame ▸ h
  · intro h
    have hsame : (List.range count).map (fun i => extent (requestFragment m packet mtu count i)) =
        fragmentExtents m packet mtu count := by
      refine List.map_congr_left fun i hi => ?_
      rcases extent_requestFragment m packet mtu count i with hsame | ⟨-, hbeyond⟩
      · exact hsame
      · have hwithin := h.within _ (List.mem_map.mpr ⟨i, hi, rfl⟩)
        omega
    exact hsame.symm ▸ h

/-! ## What a dispatch hands down -/

/-- The fragments of one call of `DispatchRequestPackets` that the packet delivery sublayer
accepts. -/
def emittedFragments (env : Environment) (s : SesManager) (key : RequestKey) : List TaggedPacket :=
  (dispatchRequestPackets env s key).1.dispatched.drop s.dispatched.length

/-- The fragments that the loop of the call builds, one for each call of
`DispatchPacket`; one that is refused is the last of them. -/
def built (env : Environment) (s : SesManager) (key : RequestKey)
    (r : RequestLifecycleState) : List TaggedPacket :=
  (requestFragments r.metadata r.packet s.getPayloadMtu (max 1 r.totalPacketCount)).take
    ((dispatchRequestPackets env s key).1.dispatchCalls - s.dispatchCalls)

/-- The pieces that a dispatch of the request builds are not empty, lie in the packet and
are disjoint, those that it emits cover the packet, and no subtraction wraps below zero. -/
structure EmitsPartition (env : Environment) (s : SesManager) (key : RequestKey)
    (r : RequestLifecycleState) : Prop where
  nonempty : ∀ fragment ∈ s.built env key r, 0 < (extent fragment).2
  within : ∀ fragment ∈ s.built env key r,
    (extent fragment).1 + (extent fragment).2 ≤ r.packet.length
  disjoint : ((s.built env key r).map extent).Pairwise fun piece other =>
    piece.1 + piece.2 ≤ other.1 ∨ other.1 + other.2 ≤ piece.1
  cover : ∀ pos < r.packet.length, Pieces.Covered ((s.emittedFragments env key).map extent) pos
  remains : r.metadata.opType ≠ .read → ∀ i < (s.built env key r).length,
    toU32 (i * s.getPayloadMtu) ≤ r.metadata.payloadBytes

/-- The packet delivery sublayer accepts as many packets as were counted, and the counts
and lengths agree. -/
def dispatchFits (env : Environment) (s : SesManager) (r : RequestLifecycleState) : Bool :=
  (List.range (max 1 r.totalPacketCount)).all (fun i => env.dispatchPacket (s.dispatchCalls + i)) &&
    fragmentsFit r.metadata r.packet s.getPayloadMtu (max 1 r.totalPacketCount)

theorem releaseDispatchBudget_handed (s : SesManager) (key : RequestKey) :
    (s.releaseDispatchBudget key).dispatched = s.dispatched ∧
      (s.releaseDispatchBudget key).dispatchCalls = s.dispatchCalls := by
  have hsend : (s.releaseSendReservation key).dispatched = s.dispatched ∧
      (s.releaseSendReservation key).dispatchCalls = s.dispatchCalls := by
    unfold releaseSendReservation
    cases s.requestStates.lookup key with
    | none => exact ⟨rfl, rfl⟩
    | some r =>
        dsimp only
        split_ifs <;> exact ⟨rfl, rfl⟩
  rw [← hsend.1, ← hsend.2]
  unfold releaseDispatchBudget releaseWriteReservation
  cases (s.releaseSendReservation key).requestStates.lookup key with
  | none => exact ⟨rfl, rfl⟩
  | some r =>
      dsimp only
      split_ifs <;> exact ⟨rfl, rfl⟩

/-- What the fragment loop adds to the packets handed down and to the calls made. -/
structure HandsDown (accepted : List TaggedPacket × Bool) (s s' : SesManager) : Prop where
  dispatched : s'.dispatched = s.dispatched ++ accepted.1
  dispatchCalls : s'.dispatchCalls =
    s.dispatchCalls + accepted.1.length + (if accepted.2 then 0 else 1)

theorem dispatchFragments_handsDown (env : Environment) (s : SesManager) (key : RequestKey)
    (r : RequestLifecycleState) :
    HandsDown (acceptedFragments env s.dispatchCalls (requestFragments r.metadata r.packet
      s.getPayloadMtu (max 1 r.totalPacketCount))) s (dispatchFragments env s key r).1 := by
  simp only [dispatchFragments]
  split_ifs
  · exact ⟨rfl, rfl⟩
  · obtain ⟨hdispatched, hcalls⟩ := releaseDispatchBudget_handed
      (dispatchSemanticPackets env s (requestFragments r.metadata r.packet s.getPayloadMtu
        (max 1 r.totalPacketCount))).1 key
    exact ⟨hdispatched, hcalls⟩

/-- A call that is granted its budget hands the fragments of its request to the packet
delivery sublayer, up to the first that is refused there. -/
theorem handsDown_of_admitted (env : Environment) {s : SesManager} {key : RequestKey}
    {r : RequestLifecycleState} (h : s.admittedRecord key = some r) :
    HandsDown (acceptedFragments env s.dispatchCalls (requestFragments r.metadata r.packet
      s.getPayloadMtu (max 1 r.totalPacketCount))) s (dispatchRequestPackets env s key).1 := by
  unfold admittedRecord at h
  unfold dispatchRequestPackets
  cases hr : s.requestStates.lookup key with
  | none => simp [hr] at h
  | some state =>
      dsimp only
      simp only [hr] at h
      by_cases hterm : state.terminalized = true
      · simp [hterm] at h
      by_cases hqueued : (state.blockedQueueLinked && !s.isBlockedQueueHead key) = true
      · rw [if_neg hterm, if_pos hqueued] at h
        cases h
      rw [if_neg hterm, if_neg hqueued] at h ⊢
      cases hgrant : s.tryReserveDispatchBudget key state with
      | none => simp [hgrant] at h
      | some s₁ =>
          simp only [hgrant, Option.isSome_some, if_true, Option.some.injEq] at h
          subst h
          have hsame : s₁.dispatched = s.dispatched ∧ s₁.dispatchCalls = s.dispatchCalls ∧
              s₁.getPayloadMtu = s.getPayloadMtu := by
            rcases tryReserveDispatchBudget_cases hgrant with
              ⟨-, -, -, rfl⟩ | ⟨-, -, -, rfl⟩ | rfl
            all_goals exact ⟨rfl, rfl, rfl⟩
          obtain ⟨hdispatched, hcalls, hmtu⟩ := hsame
          rw [← hcalls, ← hmtu]
          dsimp only
          split_ifs
          all_goals
            obtain ⟨hd, hc⟩ := dispatchFragments_handsDown env
              (SesManager.modifyRequest _ key granted) key state
            exact ⟨hd.trans (congrArg (· ++ _) hdispatched),
              hc.trans (by rw [← hcalls]; rfl)⟩

/-- The accepted fragments are all of them when every call is accepted, else those
before a call that is refused. -/
theorem acceptedFragments_cases (env : Environment) (calls : ℕ) (fragments : List TaggedPacket) :
    ((∀ i < fragments.length, env.dispatchPacket (calls + i) = true) ∧
        acceptedFragments env calls fragments = (fragments, true)) ∨
      ∃ k < fragments.length, env.dispatchPacket (calls + k) = false ∧
        acceptedFragments env calls fragments = (fragments.take k, false) := by
  induction fragments generalizing calls with
  | nil => exact .inl ⟨fun i hi => absurd hi (Nat.not_lt_zero i), rfl⟩
  | cons fragment rest ih =>
      simp only [acceptedFragments]
      cases haccept : env.dispatchPacket calls with
      | false => exact .inr ⟨0, Nat.succ_pos _, haccept, rfl⟩
      | true =>
          simp only [if_true]
          rcases ih (calls + 1) with ⟨hall, heq⟩ | ⟨k, hk, hrefused, heq⟩
          · refine .inl ⟨fun i hi => ?_, by rw [heq]⟩
            cases i with
            | zero => exact haccept
            | succ i =>
                rw [Nat.add_comm i 1, ← Nat.add_assoc]
                exact hall i (Nat.lt_of_succ_lt_succ hi)
          · refine .inr ⟨k + 1, Nat.succ_lt_succ hk, ?_, by rw [heq]; rfl⟩
            rw [Nat.add_comm k 1, ← Nat.add_assoc]
            exact hrefused

theorem length_requestFragments (m : ExtendedOperationMetadata) (packet : Packet)
    (mtu count : ℕ) : (requestFragments m packet mtu count).length = count := by
  simp [requestFragments]

/-- A dispatch whose fragments are all accepted builds and emits all of them. -/
theorem built_of_accepted {env : Environment} {s : SesManager} {key : RequestKey}
    {r : RequestLifecycleState} (hadmitted : s.admittedRecord key = some r)
    (haccepted : ∀ i < max 1 r.totalPacketCount, env.dispatchPacket (s.dispatchCalls + i) = true) :
    s.built env key r =
        requestFragments r.metadata r.packet s.getPayloadMtu (max 1 r.totalPacketCount) ∧
      s.emittedFragments env key =
        requestFragments r.metadata r.packet s.getPayloadMtu (max 1 r.totalPacketCount) := by
  obtain ⟨hdispatched, hcalls⟩ := handsDown_of_admitted env hadmitted
  unfold built emittedFragments
  rw [hdispatched, hcalls, List.drop_left]
  rcases acceptedFragments_cases env s.dispatchCalls (requestFragments r.metadata r.packet
    s.getPayloadMtu (max 1 r.totalPacketCount)) with ⟨-, heq⟩ | ⟨k, hk, hrefused, -⟩
  · rw [heq]
    refine ⟨List.take_of_length_le ?_, rfl⟩
    simp only [if_true]
    omega
  · rw [length_requestFragments] at hk
    exact absurd ((haccepted k hk).symm.trans hrefused) Bool.true_eq_false.mp

/-- A dispatch that is refused a fragment has built that one too, but emits only those
before it. -/
theorem built_of_refused {env : Environment} {s : SesManager} {key : RequestKey}
    {r : RequestLifecycleState} (hadmitted : s.admittedRecord key = some r)
    (hrefused : ¬ ∀ i < max 1 r.totalPacketCount,
      env.dispatchPacket (s.dispatchCalls + i) = true) :
    ∃ fragment, s.built env key r = s.emittedFragments env key ++ [fragment] := by
  obtain ⟨hdispatched, hcalls⟩ := handsDown_of_admitted env hadmitted
  unfold built emittedFragments
  rw [hdispatched, hcalls, List.drop_left]
  have hlength := length_requestFragments r.metadata r.packet s.getPayloadMtu
    (max 1 r.totalPacketCount)
  rcases acceptedFragments_cases env s.dispatchCalls (requestFragments r.metadata r.packet
    s.getPayloadMtu (max 1 r.totalPacketCount)) with ⟨hall, -⟩ | ⟨k, hk, -, heq⟩
  · exact absurd (hlength ▸ hall) hrefused
  · have hnext := List.take_succ_eq_append_getElem hk
    have hcount : s.dispatchCalls + ((requestFragments r.metadata r.packet s.getPayloadMtu
        (max 1 r.totalPacketCount)).take k).length + 1 - s.dispatchCalls = k + 1 := by
      rw [List.length_take, min_eq_left hk.le]
      omega
    simp only [heq, Bool.false_eq_true, if_false, hcount]
    exact ⟨_, hnext⟩

/-- A dispatch emits a partition of its packet exactly when none of its fragments is
refused and the counts and lengths agree. -/
theorem emitsPartition_iff {env : Environment} {s : SesManager} {key : RequestKey}
    {r : RequestLifecycleState} (hadmitted : s.admittedRecord key = some r) :
    EmitsPartition env s key r ↔ dispatchFits env s r = true := by
  simp only [dispatchFits, Bool.and_eq_true, List.all_eq_true, List.mem_range]
  by_cases haccepted : ∀ i < max 1 r.totalPacketCount,
      env.dispatchPacket (s.dispatchCalls + i) = true
  · obtain ⟨hbuilt, hemitted⟩ := built_of_accepted hadmitted haccepted
    rw [← fragmentsPartition_iff s.getPayloadMtu_pos (by omega)]
    constructor
    · intro h
      have hpieces : Pieces.Partitions ((requestFragments r.metadata r.packet s.getPayloadMtu
          (max 1 r.totalPacketCount)).map extent) r.packet.length := by
        refine ⟨?_, ?_, hbuilt ▸ h.disjoint, hemitted ▸ h.cover⟩
        · exact List.forall_mem_map.mpr (hbuilt ▸ h.nonempty)
        · exact List.forall_mem_map.mpr (hbuilt ▸ h.within)
      refine ⟨haccepted, partitions_requestFragments.mp hpieces, fun hop i hi => ?_⟩
      exact h.remains hop i (by rwa [hbuilt, length_requestFragments])
    · rintro ⟨-, hpieces, hremains⟩
      have hparts := partitions_requestFragments.mpr hpieces
      refine ⟨?_, ?_, hbuilt ▸ hparts.disjoint, hemitted ▸ hparts.cover, fun hop i hi => ?_⟩
      · exact fun fragment hmem => hparts.nonempty _ (List.mem_map_of_mem (hbuilt ▸ hmem))
      · exact fun fragment hmem => hparts.within _ (List.mem_map_of_mem (hbuilt ▸ hmem))
      · rw [hbuilt, length_requestFragments] at hi
        exact hremains hop i hi
  · refine iff_of_false (fun h => ?_) fun h => haccepted h.1
    obtain ⟨fragment, hbuilt⟩ := built_of_refused hadmitted haccepted
    have hmem : fragment ∈ s.built env key r := hbuilt ▸ List.mem_append_right _ (by simp)
    have hpos := h.nonempty fragment hmem
    have hwithin := h.within fragment hmem
    -- the refused piece starts at a position that nothing else may cover
    obtain ⟨piece, hpiece, hlow, hhigh⟩ := h.cover (extent fragment).1 (by omega)
    have hdisjoint := h.disjoint
    rw [hbuilt, List.map_append, List.pairwise_append] at hdisjoint
    have hapart := hdisjoint.2.2 piece hpiece (extent fragment) (by simp)
    omega

/-! ## Runs with a changing payload MTU -/

/-- `SesManager::SetPayloadMtu`. -/
def setPayloadMtu (s : SesManager) (payloadMtu : ℕ) : SesManager :=
  { s with payloadMtu := toU32 payloadMtu }

/-- The actions of a manager whose payload MTU may change. -/
inductive ConfiguredAction
  | ses (a : SesAction)
  | setPayloadMtu (payloadMtu : ℕ)

/-- The transition system of one manager whose payload MTU may change. -/
def configuredSystem (env : Environment) : TransitionSystem SesManager ConfiguredAction where
  init := Initial
  step s
    | .ses a => sesStep env s a
    | .setPayloadMtu payloadMtu => some (s.setPayloadMtu payloadMtu)

/-- A property of every dispatch that an action makes and that is granted its budget: of
the state before it and the record of its request. -/
def EachDispatch (P : SesManager → RequestKey → RequestLifecycleState → Prop)
    (env : Environment) (s : SesManager) : ConfiguredAction → Prop
  | .ses a => ∀ call ∈ s.dispatchRequestCalls env a, ∀ r,
      call.1.admittedRecord call.2 = some r → P call.1 call.2 r
  | .setPayloadMtu _ => True

/-- Every dispatch emits fragments that partition its packet. -/
def DispatchesPartition (env : Environment) : SesManager → ConfiguredAction → Prop :=
  EachDispatch (EmitsPartition env) env

/-- In every dispatch no fragment is refused, and the counts and lengths agree. -/
def DispatchesFit (env : Environment) : SesManager → ConfiguredAction → Prop :=
  EachDispatch (fun s _ r => dispatchFits env s r = true) env

theorem dispatchesPartition_step {env : Environment} {s : SesManager} {a : ConfiguredAction} :
    DispatchesPartition env s a ↔ DispatchesFit env s a := by
  cases a with
  | ses a =>
      refine forall₂_congr fun call _ => forall₂_congr fun r hadmitted => ?_
      exact emitsPartition_iff hadmitted
  | setPayloadMtu payloadMtu => exact Iff.rfl

/-- Along every run, with the payload MTU changed at any time, all dispatches partition
their packets exactly when no fragment is refused and the counts and lengths agree. -/
theorem dispatchesPartition_iff (env : Environment) (s : SesManager)
    (as : List ConfiguredAction) :
    (configuredSystem env).GuardedRun (DispatchesPartition env) s as ↔
      (configuredSystem env).GuardedRun (DispatchesFit env) s as :=
  ⟨fun h => h.mono fun _ _ => dispatchesPartition_step.mp,
    fun h => h.mono fun _ _ => dispatchesPartition_step.mpr⟩

/-! ## Runs with one payload MTU -/

/-- A submitted request is cut exactly by the payload MTU of its submission. -/
def SubmissionsCut (s : SesManager) (a : SesAction) : Prop :=
  ∀ m packet, s.rebuildOf a = some (m, packet) →
    fragmentsFit m packet s.getPayloadMtu
      (max 1 (m.calculatePacketCount s.getPayloadMtu)) = true

/-- The record of a request fits the payload MTU. -/
def RecordsCut (s : SesManager) : Prop :=
  RecordsCarry (fun m packet count =>
    fragmentsFit m packet s.getPayloadMtu (max 1 count) = true) s

theorem recordsCut_step {env : Environment} {s s' : SesManager} {a : SesAction}
    (h : RecordsCut s) (hguard : SubmissionsCut s a) (hstep : sesStep env s a = some s') :
    RecordsCut s' := by
  have hkeep := recordsCarry_step h hguard hstep
  unfold RecordsCut
  rw [getPayloadMtu_step hstep]
  exact hkeep

theorem lookup_of_admitted {s : SesManager} {key : RequestKey} {r : RequestLifecycleState}
    (h : s.admittedRecord key = some r) : s.requestStates.lookup key = some r := by
  unfold admittedRecord at h
  cases hr : s.requestStates.lookup key with
  | none => simp [hr] at h
  | some state =>
      simp only [hr] at h
      split_ifs at h
      exact h

/-- With one payload MTU throughout, every submission cut exactly by it and lower layers
that refuse nothing, all dispatches partition their packets, whether at once or from a
blocked queue. -/
theorem dispatchesPartition_of_submissionsCut (env : Environment) (s : SesManager)
    (a : SesAction) (haccepts : ∀ call, env.dispatchPacket call = true)
    (hreach : (sesSystem env).ReachableBy SubmissionsCut s)
    (hguard : SubmissionsCut s a) : DispatchesPartition env s (.ses a) := by
  have hcut : RecordsCut s := hreach.invariant (P := RecordsCut)
    (fun _ hinit => recordsCarry_initial hinit) (fun _ _ _ => recordsCut_step)
  refine dispatchesPartition_step.mpr fun call hcall r hadmitted => ?_
  simp only [dispatchFits, haccepts, List.all_eq_true, implies_true, Bool.and_eq_true, true_and]
  have hr := lookup_of_admitted hadmitted
  cases hrebuild : s.rebuildOf a with
  | none =>
      obtain ⟨p, fuel, hdrain⟩ := drainCall_of_quiet hrebuild hcall
      have hupd : Updates s call.1 :=
        (Update.fire s p).updates.trans (drainCalls_updates hdrain)
      rw [hupd.getPayloadMtu]
      exact hcut.updates hupd call.2 r hr
  | some accepted =>
      obtain ⟨m, packet⟩ := accepted
      have hsubmission := submissionCall_of_rebuild hrebuild hcall
      have hrecord := hsubmission.lookup.symm.trans hr
      cases hrecord
      rw [hsubmission.payloadMtu]
      exact hguard m packet hrebuild

/-! ## A payload MTU that changes -/

/-- A manager that admits one message at a time and cuts payloads every four bytes. -/
def fourByteMtu : SesManager where
  payloadMtu := 4
  sendAdmissionBudget := { messageLimit := 1 }

/-- A SEND of eight bytes waits for another one; meanwhile the payload MTU grows to ten
bytes. -/
def mtuGrows : List ConfiguredAction :=
  [.ses (.sendRequest (sampleSend 2 1) (some [0])),
    .ses (.sendRequest (sampleSend 2 2) (some [1, 2, 3, 4, 5, 6, 7, 8])),
    .setPayloadMtu 10, .ses (.receiveResponse (sampleResponse 2 1 .ok))]

/-- Whether a dispatch of the action, granted its budget, breaks the condition. -/
def misfits (env : Environment) (s : SesManager) (a : SesAction) : Bool :=
  (s.dispatchRequestCalls env a).any fun call =>
    (call.1.admittedRecord call.2).any fun r =>
      !dispatchFits env call.1 r

/-- The wakeup dispatches two fragments, as counted at the submission, of ten bytes each:
the second one starts behind the end of the payload. -/
theorem mtu_change_misfits :
    ∃ s, (configuredSystem reliable).Reachable s ∧
      (configuredSystem reliable).runActions fourByteMtu mtuGrows = some s ∧
      ¬ DispatchesPartition reliable s (.ses (.wakeupEvent 2 2)) := by
  obtain ⟨s, hs⟩ : ∃ s, (configuredSystem reliable).runActions fourByteMtu mtuGrows = some s :=
    Option.isSome_iff_exists.mp (by decide)
  have hend : ((configuredSystem reliable).runActions fourByteMtu mtuGrows).map
      (fun s => misfits reliable s (.wakeupEvent 2 2)) = some true := by decide
  rw [hs, Option.map_some, Option.some.injEq, misfits, List.any_eq_true] at hend
  obtain ⟨call, hcall, hmisfit⟩ := hend
  obtain ⟨r, hadmitted, hmisfit⟩ := (Option.any_eq_true _ _).mp hmisfit
  refine ⟨s, ?_, hs, fun hpartition => ?_⟩
  · refine TransitionSystem.ReachableBy.runActions (.init ?_) (fun _ _ _ => trivial) hs
    exact ⟨rfl, rfl, rfl, rfl, rfl, rfl, rfl, rfl, rfl, rfl⟩
  · have hpieces := hpartition call hcall r hadmitted
    rw [emitsPartition_iff hadmitted] at hpieces
    simp [hpieces] at hmisfit

end SesManager
end UeSim
