import UeSim.Sue.CbfcManager
import UeSim.Support.Transition
import UeSim.Support.WeightedList
import Mathlib.Data.Finset.Lattice.Fold
import Mathlib.Order.Lattice.Nat

/-!
# One credit hop

A sender spends credits for the packets of its virtual channels, and the receiver
returns them when the packets leave its buffers.  The receiver withholds what it owes
until a batch is complete, and no timer sends a part of a batch.  A sender that waits
for credits while nothing is on the way waits for ever.
-/

namespace UeSim

/-- The two ends of a hop, the packet sizes in the sender's queues, the packets that
are downstream with their virtual channels, and the credit updates on their way. -/
structure CreditHop where
  sender : CbfcManager
  receiver : CbfcManager
  queues : UInt8 → List ℕ := fun _ => []
  downstream : List (UInt8 × ℕ) := []
  updates : List CreditFrame := []

/-- What is fixed about a hop: the addresses of its ends, the other devices of their
nodes, the attributes of both and the size of the largest packet. -/
structure HopConfig where
  attributes : CbfcManager.Config
  senderMac : Mac48Address
  receiverMac : Mac48Address
  senderDevices : List Mac48Address
  receiverDevices : List Mac48Address
  maxPacket : ℕ

namespace HopConfig

/-- The credits of a packet. -/
def credits (c : HopConfig) (size : ℕ) : ℕ :=
  c.attributes.settings.calculateCreditsForPacket size

/-- The credits of the largest packet: no packet takes more. -/
def largest (c : HopConfig) : ℕ :=
  (Finset.range (c.maxPacket + 1)).sup c.credits

/-- A configuration that the attributes accept, with the control on, and the initial
credits enough for every packet.  The devices at the two ends are on different nodes. -/
structure Accepted (c : HopConfig) : Prop where
  attributes : c.attributes.Accepted
  enabled : c.attributes.enableLinkCBFC = true
  bytesPos : 0 < c.attributes.bytesPerCredit
  packetPos : 0 < c.maxPacket
  vcsPos : 0 < c.attributes.numVcs
  enough : c.largest ≤ c.attributes.initialCredits
  elsewhere : c.receiverMac ∉ c.senderDevices

end HopConfig

namespace CreditHop

variable {c : HopConfig} {s s' : CreditHop} {vcId : UInt8}

/-- What can happen on a hop: a packet enters a queue, is transmitted, leaves the
receiver with a size that returns the credits it took, or a credit update arrives. -/
inductive Action
  | enqueue (vcId : UInt8) (size : ℕ)
  | transmit (vcId : UInt8)
  | leave (i : ℕ) (returnedSize : ℕ)
  | arrive (i : ℕ)

/-- The hop after a packet has entered a queue. -/
def enqueue (s : CreditHop) (vcId : UInt8) (size : ℕ) : CreditHop :=
  { s with queues := Function.update s.queues vcId (s.queues vcId ++ [size]) }

/-- The hop after `TryTransmit` has sent the first packet of a queue. -/
def transmit (c : HopConfig) (s : CreditHop) (vcId : UInt8) (size : ℕ) (rest : List ℕ) :
    CreditHop :=
  { s with
    sender := s.sender.consumeDynamicCredits c.receiverMac vcId size
    queues := Function.update s.queues vcId rest
    downstream := s.downstream ++ [(vcId, size)] }

/-- The receiver after `HandleCreditReturn` for a packet that leaves. -/
def handled (c : HopConfig) (s : CreditHop) (vcId : UInt8) (size : ℕ) : CbfcManager :=
  s.receiver.handleCreditReturn c.senderMac vcId size

/-- The hop after a packet has left, with `HandleCreditReturn` and `CreditReturn`. -/
def leave (c : HopConfig) (s : CreditHop) (vcId : UInt8) (size i : ℕ) : CreditHop :=
  { s with
    receiver := ((s.handled c vcId size).creditReturn c.receiverMac c.senderMac vcId).1
    downstream := s.downstream.eraseIdx i
    updates := s.updates ++
      ((s.handled c vcId size).creditReturn c.receiverMac c.senderMac vcId).2 }

/-- The hop after a credit update has arrived. -/
def arrive (s : CreditHop) (frame : CreditFrame) (i : ℕ) : CreditHop :=
  { s with
    sender := s.sender.receiveCreditUpdate frame
    updates := s.updates.eraseIdx i }

/-- The hop right after both ends are initialised. -/
def fresh (c : HopConfig) : CreditHop where
  sender := .initializeCbfc c.attributes c.receiverMac c.senderMac c.senderDevices
  receiver := .initializeCbfc c.attributes c.senderMac c.receiverMac c.receiverDevices

/-- The runs of one hop. -/
def hopSystem (c : HopConfig) : TransitionSystem CreditHop Action where
  init s := s = fresh c
  step s
    | .enqueue vcId size =>
        if 0 < size ∧ size ≤ c.maxPacket then some (s.enqueue vcId size) else none
    | .transmit vcId =>
        match s.queues vcId with
        | [] => none
        | size :: rest =>
            if vcId < c.attributes.numVcs ∧
                s.sender.hasEnoughCredits c.receiverMac vcId size = true then
              some (s.transmit c vcId size rest)
            else none
    | .leave i returnedSize =>
        match s.downstream[i]? with
        | none => none
        | some (vcId, size) =>
            if c.credits returnedSize = c.credits size then
              some (s.leave c vcId returnedSize i)
            else none
    | .arrive i => s.updates[i]?.map fun frame => s.arrive frame i

/-- Nothing of a virtual channel is downstream, and no credit update for it is on its
way. -/
def Quiet (s : CreditHop) (vcId : UInt8) : Prop :=
  (∀ packet ∈ s.downstream, packet.1 ≠ vcId) ∧ ∀ frame ∈ s.updates, frame.vcId ≠ some vcId

/-- The sender can send the first packet of every quiet virtual channel. -/
def NeverShort (c : HopConfig) (s : CreditHop) : Prop :=
  ∀ vcId < c.attributes.numVcs, s.Quiet vcId → ∀ size rest, s.queues vcId = size :: rest →
    s.sender.hasEnoughCredits c.receiverMac vcId size = true

/-- A whole batch may be withheld without leaving the sender short of credits for a
packet, and a batch that a packet completes fits into a credit update. -/
def BatchFits (c : HopConfig) : Prop :=
  c.attributes.creditBatchSize + c.largest ≤ c.attributes.initialCredits + 1 ∧
    c.attributes.creditBatchSize + c.largest ≤ 256

/-! ## The credits of packets -/

theorem credits_pos (c : HopConfig) (size : ℕ) : 1 ≤ c.credits size :=
  Nat.le_max_right _ _

theorem credits_le_largest {size : ℕ} (hsize : size ≤ c.maxPacket) :
    c.credits size ≤ c.largest :=
  Finset.le_sup (Finset.mem_range.mpr (Nat.lt_succ_of_le hsize))

/-- A packet of one byte takes one credit. -/
theorem credits_one (haccepted : c.Accepted) : c.credits 1 = 1 := by
  have hpos := haccepted.bytesPos
  have hlt := haccepted.attributes.bytesPerCredit
  have hsum : 1 + c.attributes.bytesPerCredit - 1 = c.attributes.bytesPerCredit := by omega
  have hcredits : c.credits 1 = max (toU32 (1 + c.attributes.bytesPerCredit - 1) /
      c.attributes.bytesPerCredit) 1 := rfl
  rw [hcredits, hsum, toU32_of_lt hlt, Nat.div_self hpos, Nat.max_self]

/-- Some packet takes the credits of the largest packet. -/
theorem exists_credits_eq_largest (haccepted : c.Accepted) :
    ∃ size, 0 < size ∧ size ≤ c.maxPacket ∧ c.credits size = c.largest := by
  have hpacket := haccepted.packetPos
  obtain ⟨size, hmem, hsize⟩ := Finset.exists_mem_eq_sup (Finset.range (c.maxPacket + 1))
    ⟨0, Finset.mem_range.mpr (by omega)⟩ c.credits
  have hle : size ≤ c.maxPacket := Nat.le_of_lt_succ (Finset.mem_range.mp hmem)
  by_cases hzero : size = 0
  · -- an empty packet takes one credit, as a packet of one byte does
    subst hzero
    have hempty : c.credits 0 ≤ 1 := by
      have hcredits : c.credits 0 = max (toU32 (0 + c.attributes.bytesPerCredit - 1) /
          c.attributes.bytesPerCredit) 1 := rfl
      have hlt := haccepted.attributes.bytesPerCredit
      have hpos := haccepted.bytesPos
      rw [hcredits, toU32_of_lt (by omega), Nat.div_eq_of_lt (by omega)]
      exact le_refl 1
    have hone := credits_one haccepted
    have hlargest : c.credits 1 ≤ c.largest := credits_le_largest hpacket
    have hsup : c.largest ≤ c.credits 1 := by
      rw [HopConfig.largest, hsize, hone]
      exact hempty
    exact ⟨1, Nat.one_pos, hpacket, le_antisymm hlargest hsup⟩
  · exact ⟨size, Nat.pos_of_ne_zero hzero, hle, hsize.symm⟩

/-! ## The balance of a virtual channel -/

/-- The credits of a virtual channel that a packet holds. -/
def holds (c : HopConfig) (vcId : UInt8) (packet : UInt8 × ℕ) : ℕ :=
  if packet.1 = vcId then c.credits packet.2 else 0

/-- The credits of a virtual channel that a credit update carries. -/
def carries (vcId : UInt8) (frame : CreditFrame) : ℕ :=
  if frame.vcId = some vcId then frame.credits else 0

/-- The credits of a virtual channel, wherever they are. -/
def account (c : HopConfig) (s : CreditHop) (vcId : UInt8) : ℕ :=
  s.sender.getTxCredits c.receiverMac vcId +
    WeightedList.weight (holds c vcId) s.downstream +
    s.receiver.getCreditsToReturn c.senderMac vcId +
    WeightedList.weight (carries vcId) s.updates

/-- What holds of every state of a hop, whether or not a batch fits. -/
structure Formed (c : HopConfig) (s : CreditHop) : Prop where
  sender : s.sender.toCbfcSettings = c.attributes.settings
  receiver : s.receiver.toCbfcSettings = c.attributes.settings
  entries : ∀ vcId < c.attributes.numVcs, (c.receiverMac, vcId) ∈ s.sender.txCreditsMap
  queued : ∀ vcId, ∀ size ∈ s.queues vcId, size ≤ c.maxPacket
  packets : ∀ packet ∈ s.downstream, packet.1 < c.attributes.numVcs ∧ packet.2 ≤ c.maxPacket
  frames : ∀ frame ∈ s.updates, frame.source = c.receiverMac

/-- The invariant of a hop on which batches fit: less than a batch is withheld, and no
credit is lost. -/
structure Balanced (c : HopConfig) (s : CreditHop) : Prop extends Formed c s where
  withheld : ∀ vcId < c.attributes.numVcs,
    s.receiver.getCreditsToReturn c.senderMac vcId < c.attributes.creditBatchSize
  balance : ∀ vcId < c.attributes.numVcs, s.account c vcId = c.attributes.initialCredits

theorem Formed.credits_sender (hformed : s.Formed c) (size : ℕ) :
    s.sender.calculateCreditsForPacket size = c.credits size := by
  rw [hformed.sender]
  rfl

theorem Formed.credits_receiver (hformed : s.Formed c) (size : ℕ) :
    s.receiver.calculateCreditsForPacket size = c.credits size := by
  rw [hformed.receiver]
  rfl

/-- The sender has enough credits for a packet when it has the credits of the packet. -/
theorem Formed.hasEnoughCredits (hformed : s.Formed c) (hvc : vcId < c.attributes.numVcs)
    {size : ℕ} :
    s.sender.hasEnoughCredits c.receiverMac vcId size = true ↔
      c.credits size ≤ s.sender.getTxCredits c.receiverMac vcId := by
  rw [CbfcManager.hasEnoughCredits_iff, hformed.credits_sender]
  exact and_iff_right (hformed.entries vcId hvc)

/-- The receiver sends an update when a batch is complete. -/
theorem Formed.returnsCredits (haccepted : c.Accepted) (hformed : s.Formed c) (size : ℕ)
    {mac : Mac48Address} :
    (s.handled c vcId size).returnsCredits mac vcId = true ↔
      c.attributes.creditBatchSize ≤ (s.handled c vcId size).getCreditsToReturn mac vcId := by
  have hsettings : (s.handled c vcId size).toCbfcSettings = c.attributes.settings :=
    (CbfcManager.settings_handleCreditReturn size).trans hformed.receiver
  unfold CbfcManager.returnsCredits
  rw [hsettings]
  simp [CbfcManager.Config.settings, haccepted.enabled]

/-! ## Steps keep the form -/

theorem formed_fresh (haccepted : c.Accepted) : (fresh c).Formed c where
  sender := CbfcManager.settings_initializeCbfc _ _ _ _
  receiver := CbfcManager.settings_initializeCbfc _ _ _ _
  entries := by
    intro vcId hvc
    have hlookup : (fresh c).sender.txCreditsMap.lookup (c.receiverMac, vcId) =
        some c.attributes.initialCredits := by
      unfold fresh
      rw [CbfcManager.lookup_initializeCbfc, if_pos hvc,
        if_neg fun h => haccepted.elsewhere h.2.1, if_pos rfl]
    rw [← AList.lookup_isSome, hlookup]
    rfl
  queued := by
    intro vcId size hsize
    cases hsize
  packets := by
    intro packet hpacket
    cases hpacket
  frames := by
    intro frame hframe
    cases hframe

theorem Formed.enqueue (hformed : s.Formed c) {size : ℕ} (hsize : size ≤ c.maxPacket) :
    (s.enqueue vcId size).Formed c where
  sender := hformed.sender
  receiver := hformed.receiver
  entries := hformed.entries
  queued := by
    intro vc size' hmem
    unfold CreditHop.enqueue at hmem
    by_cases hvc : vc = vcId
    · subst hvc
      dsimp only at hmem
      rw [Function.update_self] at hmem
      rcases List.mem_append.mp hmem with hold | hnew
      · exact hformed.queued vc size' hold
      · rw [List.mem_singleton.mp hnew]
        exact hsize
    · dsimp only at hmem
      rw [Function.update_of_ne hvc] at hmem
      exact hformed.queued vc size' hmem
  packets := hformed.packets
  frames := hformed.frames

theorem Formed.transmit (hformed : s.Formed c) (hvc : vcId < c.attributes.numVcs) {size : ℕ}
    {rest : List ℕ} (hqueue : s.queues vcId = size :: rest) :
    (s.transmit c vcId size rest).Formed c where
  sender := (CbfcManager.settings_consumeDynamicCredits size).trans hformed.sender
  receiver := hformed.receiver
  entries := fun vc hvc' =>
    CbfcManager.mem_consumeDynamicCredits size (hformed.entries vc hvc')
  queued := by
    intro vc size' hmem
    unfold CreditHop.transmit at hmem
    dsimp only at hmem
    by_cases hvc' : vc = vcId
    · subst hvc'
      rw [Function.update_self] at hmem
      exact hformed.queued vc size' (hqueue ▸ List.mem_cons_of_mem size hmem)
    · rw [Function.update_of_ne hvc'] at hmem
      exact hformed.queued vc size' hmem
  packets := by
    intro packet hmem
    rcases List.mem_append.mp hmem with hold | hnew
    · exact hformed.packets packet hold
    · rw [List.mem_singleton.mp hnew]
      exact ⟨hvc, hformed.queued vcId size (hqueue ▸ List.mem_cons_self ..)⟩
  frames := hformed.frames

theorem Formed.leave (hformed : s.Formed c) (size i : ℕ) :
    (s.leave c vcId size i).Formed c where
  sender := hformed.sender
  receiver := by
    have hhandled : (s.handled c vcId size).toCbfcSettings = s.receiver.toCbfcSettings :=
      CbfcManager.settings_handleCreditReturn size
    exact (CbfcManager.settings_creditReturn.trans hhandled).trans hformed.receiver
  entries := hformed.entries
  queued := hformed.queued
  packets := fun packet hmem => hformed.packets packet (List.mem_of_mem_eraseIdx hmem)
  frames := by
    intro frame hmem
    rcases List.mem_append.mp hmem with hold | hnew
    · exact hformed.frames frame hold
    · unfold CbfcManager.creditReturn at hnew
      split_ifs at hnew
      · rw [List.mem_singleton.mp hnew]
        rfl
      · cases hnew

theorem Formed.arrive (hformed : s.Formed c) (frame : CreditFrame) (i : ℕ) :
    (s.arrive frame i).Formed c where
  sender := (CbfcManager.settings_receiveCreditUpdate frame).trans hformed.sender
  receiver := hformed.receiver
  entries := fun vc hvc => CbfcManager.mem_receiveCreditUpdate frame (hformed.entries vc hvc)
  queued := hformed.queued
  packets := hformed.packets
  frames := fun frame' hmem => hformed.frames frame' (List.mem_of_mem_eraseIdx hmem)

/-! ## The cases of a step -/

/-- What a step of the hop does. -/
inductive StepCase (c : HopConfig) (s : CreditHop) : CreditHop → Prop
  | enqueue (vcId : UInt8) (size : ℕ) (hsize : size ≤ c.maxPacket) :
      StepCase c s (s.enqueue vcId size)
  | transmit (vcId : UInt8) (size : ℕ) (rest : List ℕ) (hvc : vcId < c.attributes.numVcs)
      (hqueue : s.queues vcId = size :: rest)
      (henough : s.sender.hasEnoughCredits c.receiverMac vcId size = true) :
      StepCase c s (s.transmit c vcId size rest)
  | leave (i : ℕ) (vcId : UInt8) (size returnedSize : ℕ)
      (hpacket : s.downstream[i]? = some (vcId, size))
      (hcredits : c.credits returnedSize = c.credits size) :
      StepCase c s (s.leave c vcId returnedSize i)
  | arrive (i : ℕ) (frame : CreditFrame) (hframe : s.updates[i]? = some frame) :
      StepCase c s (s.arrive frame i)

theorem step_cases {action : Action} (hstep : (hopSystem c).step s action = some s') :
    StepCase c s s' := by
  cases action with
  | enqueue vcId size =>
      have hstep : (if 0 < size ∧ size ≤ c.maxPacket then some (s.enqueue vcId size)
        else none) = some s' := hstep
      split_ifs at hstep with hsize
      cases hstep
      exact .enqueue vcId size hsize.2
  | transmit vcId =>
      unfold hopSystem at hstep
      dsimp only at hstep
      cases hqueue : s.queues vcId with
      | nil => rw [hqueue] at hstep; cases hstep
      | cons size rest =>
          rw [hqueue] at hstep
          dsimp only at hstep
          split_ifs at hstep with hsend
          cases hstep
          exact .transmit vcId size rest hsend.1 hqueue hsend.2
  | leave i returnedSize =>
      unfold hopSystem at hstep
      dsimp only at hstep
      cases hpacket : s.downstream[i]? with
      | none => rw [hpacket] at hstep; cases hstep
      | some packet =>
          obtain ⟨vcId, size⟩ := packet
          rw [hpacket] at hstep
          dsimp only at hstep
          split_ifs at hstep with hcredits
          cases hstep
          exact .leave i vcId size returnedSize hpacket hcredits
  | arrive i =>
      obtain ⟨frame, hframe, rfl⟩ := Option.map_eq_some_iff.mp hstep
      exact .arrive i frame hframe

theorem Formed.step {action : Action} (hformed : s.Formed c)
    (hstep : (hopSystem c).step s action = some s') : s'.Formed c := by
  cases step_cases hstep with
  | enqueue vcId size hsize => exact hformed.enqueue hsize
  | transmit vcId size rest hvc hqueue _ => exact hformed.transmit hvc hqueue
  | leave i vcId size returnedSize _ _ => exact hformed.leave returnedSize i
  | arrive i frame _ => exact hformed.arrive frame i

/-! ## A packet that leaves -/

/-- What the receiver owes once a packet is handled. -/
theorem owed_handled (haccepted : c.Accepted) (hformed : s.Formed c) (size : ℕ)
    (hrange : s.receiver.getCreditsToReturn c.senderMac vcId + c.credits size < 2 ^ 32)
    (vc : UInt8) :
    (s.handled c vcId size).getCreditsToReturn c.senderMac vc =
      if vc = vcId then s.receiver.getCreditsToReturn c.senderMac vcId + c.credits size
      else s.receiver.getCreditsToReturn c.senderMac vc := by
  have henabled : s.receiver.enableLinkCBFC = true := by
    rw [hformed.receiver]
    exact haccepted.enabled
  unfold handled
  rw [CbfcManager.getCreditsToReturn_handleCreditReturn size henabled]
  by_cases hvc : vc = vcId
  · subst hvc
    rw [if_pos rfl, if_pos rfl, hformed.credits_receiver, toU32_of_lt hrange]
  · rw [if_neg hvc, if_neg fun h => hvc (congrArg Prod.snd h)]

/-- A packet that does not complete a batch: its credits are withheld. -/
theorem leave_withheld (haccepted : c.Accepted) (hformed : s.Formed c) (size i : ℕ)
    (hrange : s.receiver.getCreditsToReturn c.senderMac vcId + c.credits size < 2 ^ 32)
    (hbatch : s.receiver.getCreditsToReturn c.senderMac vcId + c.credits size <
      c.attributes.creditBatchSize) :
    (s.leave c vcId size i).receiver = s.handled c vcId size ∧
      (s.leave c vcId size i).updates = s.updates := by
  have howed := owed_handled haccepted hformed size hrange vcId
  rw [if_pos rfl] at howed
  have hnot : ¬(s.handled c vcId size).returnsCredits c.senderMac vcId = true := by
    rw [hformed.returnsCredits haccepted, howed]
    omega
  unfold leave CbfcManager.creditReturn
  rw [if_neg hnot]
  exact ⟨rfl, List.append_nil _⟩

/-- A packet that completes a batch: what is owed is sent, modulo 256. -/
theorem leave_sends (haccepted : c.Accepted) (hformed : s.Formed c) (size i : ℕ)
    (hrange : s.receiver.getCreditsToReturn c.senderMac vcId + c.credits size < 2 ^ 32)
    (hbatch : c.attributes.creditBatchSize ≤
      s.receiver.getCreditsToReturn c.senderMac vcId + c.credits size) :
    (∀ vc, (s.leave c vcId size i).receiver.getCreditsToReturn c.senderMac vc =
      if vc = vcId then 0 else s.receiver.getCreditsToReturn c.senderMac vc) ∧
    ∃ frame : CreditFrame, (s.leave c vcId size i).updates = s.updates ++ [frame] ∧
      frame.source = c.receiverMac ∧ frame.vcId = some vcId ∧
      frame.credits =
        (s.receiver.getCreditsToReturn c.senderMac vcId + c.credits size) % 256 := by
  have howed := owed_handled haccepted hformed size hrange
  have hself := howed vcId
  rw [if_pos rfl] at hself
  have hreturns : (s.handled c vcId size).returnsCredits c.senderMac vcId = true := by
    rw [hformed.returnsCredits haccepted, hself]
    exact hbatch
  constructor
  · intro vc
    unfold leave
    dsimp only
    rw [CbfcManager.getCreditsToReturn_creditReturn, howed]
    by_cases hvc : vc = vcId
    · rw [if_pos ⟨hreturns, by rw [hvc]⟩, if_pos hvc]
    · rw [if_neg fun h => hvc (congrArg Prod.snd h.2), if_neg hvc, if_neg hvc]
  · refine ⟨(s.handled c vcId size).creditFrame c.receiverMac c.senderMac vcId, ?_, rfl, rfl, ?_⟩
    · unfold leave CbfcManager.creditReturn
      rw [if_pos hreturns]
    · rw [CbfcManager.credits_creditFrame, hself]

/-! ## Steps keep the balance -/

theorem balanced_fresh (haccepted : c.Accepted) : (fresh c).Balanced c where
  toFormed := formed_fresh haccepted
  withheld := by
    intro vcId _
    have hnone : (fresh c).receiver.getCreditsToReturn c.senderMac vcId = 0 :=
      CbfcManager.owesNothing_initializeCbfc _ _ _ _ _ _
    rw [hnone]
    exact haccepted.attributes.batchPos
  balance := by
    intro vcId hvc
    have hnone : (fresh c).receiver.getCreditsToReturn c.senderMac vcId = 0 :=
      CbfcManager.owesNothing_initializeCbfc _ _ _ _ _ _
    have hinitial : (fresh c).sender.getTxCredits c.receiverMac vcId =
        c.attributes.initialCredits := by
      unfold fresh CbfcManager.getTxCredits
      rw [CbfcManager.lookup_initializeCbfc, if_pos hvc,
        if_neg fun h => haccepted.elsewhere h.2.1, if_pos rfl]
      rfl
    unfold account
    rw [hnone, hinitial]
    rfl

theorem Balanced.transmit (hbalanced : s.Balanced c) (hvc : vcId < c.attributes.numVcs)
    {size : ℕ} {rest : List ℕ} (hqueue : s.queues vcId = size :: rest)
    (henough : s.sender.hasEnoughCredits c.receiverMac vcId size = true) :
    (s.transmit c vcId size rest).Balanced c where
  toFormed := hbalanced.toFormed.transmit hvc hqueue
  withheld := hbalanced.withheld
  balance := by
    intro vc hvc'
    have hbalance := hbalanced.balance vc hvc'
    have hcredits := (hbalanced.toFormed.hasEnoughCredits hvc).mp henough
    unfold account at hbalance ⊢
    unfold CreditHop.transmit
    dsimp only
    rw [CbfcManager.getTxCredits_consumeDynamicCredits henough,
      hbalanced.toFormed.credits_sender, WeightedList.weight_append,
      WeightedList.weight_singleton]
    by_cases heq : vc = vcId
    · subst heq
      have hself : holds c vc (vc, size) = c.credits size := if_pos rfl
      rw [if_pos rfl]
      omega
    · have hother : holds c vc (vcId, size) = 0 := if_neg fun h => heq h.symm
      rw [if_neg fun h => heq (congrArg Prod.snd h)]
      omega

/-- On a hop whose batches fit, a packet that leaves gives back what it held. -/
theorem Balanced.leave (haccepted : c.Accepted) (hfits : BatchFits c)
    (hbalanced : s.Balanced c) {i size returnedSize : ℕ}
    (hpacket : s.downstream[i]? = some (vcId, size))
    (hcredits : c.credits returnedSize = c.credits size) :
    (s.leave c vcId returnedSize i).Balanced c := by
  have hmem := hbalanced.packets (vcId, size) (List.mem_of_getElem? hpacket)
  have hlargest : c.credits size ≤ c.largest := credits_le_largest hmem.2
  have hwithheld := hbalanced.withheld vcId hmem.1
  have hinitial := haccepted.attributes.initialCredits
  obtain ⟨hroom, hbyte⟩ := hfits
  have hsplit (vc : UInt8) := WeightedList.weight_eraseIdx (w := holds c vc) hpacket
  have hrange : s.receiver.getCreditsToReturn c.senderMac vcId + c.credits returnedSize <
      2 ^ 32 := by omega
  by_cases hbatch : s.receiver.getCreditsToReturn c.senderMac vcId + c.credits returnedSize <
      c.attributes.creditBatchSize
  · obtain ⟨hreceiver, hupdates⟩ :=
      leave_withheld haccepted hbalanced.toFormed returnedSize i hrange hbatch
    have howed := owed_handled haccepted hbalanced.toFormed returnedSize hrange
    refine ⟨hbalanced.toFormed.leave returnedSize i, ?_, ?_⟩
    · intro vc hvc
      rw [hreceiver, howed]
      split_ifs
      · exact hbatch
      · exact hbalanced.withheld vc hvc
    · intro vc hvc
      have hbalance := hbalanced.balance vc hvc
      unfold account at hbalance ⊢
      rw [hreceiver, hupdates, howed]
      have herase := hsplit vc
      unfold CreditHop.leave
      dsimp only
      by_cases heq : vc = vcId
      · subst heq
        have hself : holds c vc (vc, size) = c.credits size := if_pos rfl
        rw [if_pos rfl]
        omega
      · have hother : holds c vc (vcId, size) = 0 := if_neg fun h => heq h.symm
        rw [if_neg heq]
        omega
  · obtain ⟨howed, frame, hupdates, _, hframe, hcarried⟩ :=
      leave_sends haccepted hbalanced.toFormed returnedSize i hrange (not_lt.mp hbatch)
    have hfull : frame.credits =
        s.receiver.getCreditsToReturn c.senderMac vcId + c.credits returnedSize := by
      rw [hcarried]
      exact Nat.mod_eq_of_lt (by omega)
    refine ⟨hbalanced.toFormed.leave returnedSize i, ?_, ?_⟩
    · intro vc hvc
      rw [howed]
      split_ifs
      · exact haccepted.attributes.batchPos
      · exact hbalanced.withheld vc hvc
    · intro vc hvc
      have hbalance := hbalanced.balance vc hvc
      unfold account at hbalance ⊢
      rw [hupdates, howed, WeightedList.weight_append, WeightedList.weight_singleton]
      have herase := hsplit vc
      unfold CreditHop.leave
      dsimp only
      by_cases heq : vc = vcId
      · subst heq
        have hself : holds c vc (vc, size) = c.credits size := if_pos rfl
        have hcarries : carries vc frame = frame.credits := if_pos hframe
        rw [if_pos rfl]
        omega
      · have hother : holds c vc (vcId, size) = 0 := if_neg fun h => heq h.symm
        have hcarries : carries vc frame = 0 := by
          refine if_neg fun h => heq ?_
          exact Option.some.inj (h.symm.trans hframe)
        rw [if_neg heq]
        omega

theorem Balanced.arrive (haccepted : c.Accepted) (hbalanced : s.Balanced c) {i : ℕ}
    {frame : CreditFrame} (hframe : s.updates[i]? = some frame) :
    (s.arrive frame i).Balanced c where
  toFormed := hbalanced.toFormed.arrive frame i
  withheld := hbalanced.withheld
  balance := by
    intro vc hvc
    have hbalance := hbalanced.balance vc hvc
    have hinitial := haccepted.attributes.initialCredits
    have hsource := hbalanced.frames frame (List.mem_of_getElem? hframe)
    have hsplit := WeightedList.weight_eraseIdx (w := carries vc) hframe
    unfold account at hbalance ⊢
    unfold CreditHop.arrive
    dsimp only
    rw [CbfcManager.getTxCredits_receiveCreditUpdate frame (by omega)]
    by_cases heq : frame.vcId = some vc
    · have hcarries : carries vc frame = frame.credits := if_pos heq
      rw [if_pos ⟨hsource.symm, heq⟩, toU32_of_lt (by omega)]
      omega
    · have hcarries : carries vc frame = 0 := if_neg heq
      rw [if_neg fun h => heq h.2]
      omega

theorem Balanced.step (haccepted : c.Accepted) (hfits : BatchFits c) {action : Action}
    (hbalanced : s.Balanced c) (hstep : (hopSystem c).step s action = some s') :
    s'.Balanced c := by
  cases step_cases hstep with
  | enqueue vcId size hsize =>
      exact ⟨hbalanced.toFormed.enqueue hsize, hbalanced.withheld, hbalanced.balance⟩
  | transmit vcId size rest hvc hqueue henough => exact hbalanced.transmit hvc hqueue henough
  | leave i vcId size returnedSize hpacket hcredits =>
      exact hbalanced.leave haccepted hfits hpacket hcredits
  | arrive i frame hframe => exact hbalanced.arrive haccepted hframe

theorem balanced_of_reachable (haccepted : c.Accepted) (hfits : BatchFits c)
    (hreach : (hopSystem c).Reachable s) : s.Balanced c := by
  refine hreach.invariant ?_ ?_
  · intro s hinit
    rw [hinit]
    exact balanced_fresh haccepted
  · exact fun s action s' hbalanced _ hstep => hbalanced.step haccepted hfits hstep

/-- A quiet virtual channel has its credits with the sender, but for less than a batch. -/
theorem Balanced.neverShort (hbalanced : s.Balanced c) (hfits : BatchFits c) :
    s.NeverShort c := by
  intro vcId hvc hquiet size rest hqueue
  rw [hbalanced.toFormed.hasEnoughCredits hvc]
  have hdownstream : WeightedList.weight (holds c vcId) s.downstream = 0 :=
    WeightedList.weight_eq_zero fun packet hmem => if_neg (hquiet.1 packet hmem)
  have hupdates : WeightedList.weight (carries vcId) s.updates = 0 :=
    WeightedList.weight_eq_zero fun frame hmem => if_neg (hquiet.2 frame hmem)
  have hbalance := hbalanced.balance vcId hvc
  have hwithheld := hbalanced.withheld vcId hvc
  have hsize : c.credits size ≤ c.largest :=
    credits_le_largest (hbalanced.queued vcId size (hqueue ▸ List.mem_cons_self ..))
  obtain ⟨hroom, _⟩ := hfits
  unfold account at hbalance
  omega

/-! ## Runs that leave the sender short

The converse uses the first virtual channel alone, one packet at a time. -/

/-- Nothing of the hop is under way: the sender has `tx` credits for the first virtual
channel, and the receiver owes it `owed`. -/
structure Idle (c : HopConfig) (s : CreditHop) (tx owed : ℕ) : Prop extends Formed c s where
  tx_eq : s.sender.getTxCredits c.receiverMac 0 = tx
  owed_eq : s.receiver.getCreditsToReturn c.senderMac 0 = owed
  queue : s.queues 0 = []
  downstream : s.downstream = []
  updates : s.updates = []

variable {tx owed size : ℕ}

theorem idle_fresh (haccepted : c.Accepted) :
    (fresh c).Idle c c.attributes.initialCredits 0 := by
  have hbalanced := balanced_fresh haccepted
  have howed : (fresh c).receiver.getCreditsToReturn c.senderMac 0 = 0 :=
    CbfcManager.owesNothing_initializeCbfc _ _ _ _ _ _
  refine ⟨formed_fresh haccepted, ?_, howed, rfl, rfl, rfl⟩
  have hbalance := hbalanced.balance 0 haccepted.vcsPos
  unfold account at hbalance
  rw [howed] at hbalance
  exact hbalance

/-- A packet for which the credits of an idle sender do not suffice waits for ever. -/
theorem Idle.short (haccepted : c.Accepted) (hreach : (hopSystem c).Reachable s)
    (hidle : s.Idle c tx owed) (hshort : tx < c.largest) :
    ∃ s', (hopSystem c).Reachable s' ∧ ¬s'.NeverShort c := by
  obtain ⟨size, hpos, hle, hsize⟩ := exists_credits_eq_largest haccepted
  have hstep : (hopSystem c).step s (.enqueue 0 size) = some (s.enqueue 0 size) :=
    if_pos ⟨hpos, hle⟩
  refine ⟨s.enqueue 0 size, .step _ hreach trivial hstep, fun hnever => ?_⟩
  have hquiet : (s.enqueue 0 size).Quiet 0 := by
    unfold Quiet CreditHop.enqueue
    rw [hidle.downstream, hidle.updates]
    exact ⟨nofun, nofun⟩
  have hqueue : (s.enqueue 0 size).queues 0 = size :: [] := by
    unfold CreditHop.enqueue
    dsimp only
    rw [Function.update_self, hidle.queue]
    rfl
  have henough := hnever 0 haccepted.vcsPos hquiet size [] hqueue
  rw [(hidle.toFormed.enqueue hle).hasEnoughCredits haccepted.vcsPos, hsize] at henough
  have htx : (s.enqueue 0 size).sender.getTxCredits c.receiverMac 0 = tx := hidle.tx_eq
  omega

/-- The hop once a packet of an idle hop has reached the receiver. -/
theorem Idle.sent (haccepted : c.Accepted) (hreach : (hopSystem c).Reachable s)
    (hidle : s.Idle c tx owed) (hpos : 0 < size) (hle : size ≤ c.maxPacket)
    (hcredits : c.credits size ≤ tx) :
    ∃ s', (hopSystem c).Reachable s' ∧ s'.Formed c ∧
      s'.sender.getTxCredits c.receiverMac 0 = tx - c.credits size ∧
      s'.receiver.getCreditsToReturn c.senderMac 0 = owed ∧ s'.queues 0 = [] ∧
      s'.downstream = [(0, size)] ∧ s'.updates = [] := by
  have henqueue : (hopSystem c).step s (.enqueue 0 size) = some (s.enqueue 0 size) :=
    if_pos ⟨hpos, hle⟩
  have hformed : (s.enqueue 0 size).Formed c := hidle.toFormed.enqueue hle
  have hqueue : (s.enqueue 0 size).queues 0 = [size] := by
    unfold CreditHop.enqueue
    dsimp only
    rw [Function.update_self, hidle.queue]
    rfl
  have htx : (s.enqueue 0 size).sender.getTxCredits c.receiverMac 0 = tx := hidle.tx_eq
  have henough : (s.enqueue 0 size).sender.hasEnoughCredits c.receiverMac 0 size = true := by
    rw [hformed.hasEnoughCredits haccepted.vcsPos, htx]
    exact hcredits
  have htransmit : (hopSystem c).step (s.enqueue 0 size) (.transmit 0) =
      some ((s.enqueue 0 size).transmit c 0 size []) := by
    unfold hopSystem
    dsimp only
    rw [hqueue]
    exact if_pos ⟨haccepted.vcsPos, henough⟩
  refine ⟨(s.enqueue 0 size).transmit c 0 size [],
    .step _ (.step _ hreach trivial henqueue) trivial htransmit,
    hformed.transmit haccepted.vcsPos hqueue, ?_, hidle.owed_eq, ?_, ?_, hidle.updates⟩
  · unfold CreditHop.transmit
    dsimp only
    rw [CbfcManager.getTxCredits_consumeDynamicCredits henough, if_pos rfl, htx,
      hformed.credits_sender]
  · unfold CreditHop.transmit
    dsimp only
    rw [Function.update_self]
  · exact congrArg (· ++ [(0, size)]) hidle.downstream

/-- A packet that does not complete a batch leaves its credits with the receiver. -/
theorem Idle.withhold (haccepted : c.Accepted) (hreach : (hopSystem c).Reachable s)
    (hidle : s.Idle c tx owed) (hpos : 0 < size) (hle : size ≤ c.maxPacket)
    (hcredits : c.credits size ≤ tx)
    (hbatch : owed + c.credits size < c.attributes.creditBatchSize) :
    ∃ s', (hopSystem c).Reachable s' ∧
      s'.Idle c (tx - c.credits size) (owed + c.credits size) := by
  obtain ⟨s', hreach', hformed, htx, howed, hqueue, hdownstream, hupdates⟩ :=
    hidle.sent haccepted hreach hpos hle hcredits
  have hmax := haccepted.attributes.batchMax
  have hrange : s'.receiver.getCreditsToReturn c.senderMac 0 + c.credits size < 2 ^ 32 := by
    omega
  obtain ⟨hreceiver, hsame⟩ :=
    leave_withheld haccepted hformed size 0 hrange (by omega)
  have hstep : (hopSystem c).step s' (.leave 0 size) = some (s'.leave c 0 size 0) := by
    unfold hopSystem
    dsimp only
    rw [hdownstream]
    exact if_pos rfl
  refine ⟨s'.leave c 0 size 0, .step _ hreach' trivial hstep, hformed.leave size 0, htx, ?_,
    hqueue, ?_, hsame.trans hupdates⟩
  · rw [hreceiver, owed_handled haccepted hformed size hrange, if_pos rfl, howed]
  · exact congrArg (List.eraseIdx · 0) hdownstream

/-- A packet that completes a batch brings back what is owed, modulo 256. -/
theorem Idle.complete (haccepted : c.Accepted) (hreach : (hopSystem c).Reachable s)
    (hidle : s.Idle c tx owed) (hpos : 0 < size) (hle : size ≤ c.maxPacket)
    (hcredits : c.credits size ≤ tx) (hrange : tx + owed < 2 ^ 32)
    (hbatch : c.attributes.creditBatchSize ≤ owed + c.credits size) :
    ∃ s', (hopSystem c).Reachable s' ∧
      s'.Idle c (tx - c.credits size + (owed + c.credits size) % 256) 0 := by
  obtain ⟨s', hreach', hformed, htx, howed, hqueue, hdownstream, hupdates⟩ :=
    hidle.sent haccepted hreach hpos hle hcredits
  have hrange' : s'.receiver.getCreditsToReturn c.senderMac 0 + c.credits size < 2 ^ 32 := by
    omega
  obtain ⟨hsettled, frame, hsent, hsource, hvc, hcarried⟩ :=
    leave_sends haccepted hformed size 0 hrange' (by omega)
  have hstep : (hopSystem c).step s' (.leave 0 size) = some (s'.leave c 0 size 0) := by
    unfold hopSystem
    dsimp only
    rw [hdownstream]
    exact if_pos rfl
  have hupdates' : (s'.leave c 0 size 0).updates = [frame] := by
    rw [hsent, hupdates]
    rfl
  have harrive : (hopSystem c).step (s'.leave c 0 size 0) (.arrive 0) =
      some ((s'.leave c 0 size 0).arrive frame 0) := by
    unfold hopSystem
    dsimp only
    rw [hupdates']
    rfl
  refine ⟨(s'.leave c 0 size 0).arrive frame 0,
    .step _ (.step _ hreach' trivial hstep) trivial harrive,
    (hformed.leave size 0).arrive frame 0, ?_, ?_, hqueue, ?_, ?_⟩
  · have htx' : (s'.leave c 0 size 0).sender.getTxCredits c.receiverMac 0 =
        tx - c.credits size := htx
    have hmod := Nat.mod_le (owed + c.credits size) 256
    unfold CreditHop.arrive
    dsimp only
    rw [CbfcManager.getTxCredits_receiveCreditUpdate frame (by omega),
      if_pos ⟨hsource.symm, hvc⟩, htx', hcarried, howed, toU32_of_lt (by omega)]
  · have hzero := hsettled 0
    rw [if_pos rfl] at hzero
    exact hzero
  · exact congrArg (List.eraseIdx · 0) hdownstream
  · exact congrArg (List.eraseIdx · 0) hupdates'

/-- Packets of one credit fill a batch up to its last credit. -/
theorem Idle.fill (haccepted : c.Accepted) (hreach : (hopSystem c).Reachable s)
    (hidle : s.Idle c tx 0) {n : ℕ} (hn : n ≤ tx) (hbatch : n < c.attributes.creditBatchSize) :
    ∃ s', (hopSystem c).Reachable s' ∧ s'.Idle c (tx - n) n := by
  induction n with
  | zero => exact ⟨s, hreach, hidle⟩
  | succ n ih =>
      obtain ⟨t, hreach', hidle'⟩ := ih (by omega) (by omega)
      have hone := credits_one haccepted
      obtain ⟨t', hreach'', hidle''⟩ := hidle'.withhold haccepted hreach' Nat.one_pos
        haccepted.packetPos (by omega) (by omega)
      rw [hone] at hidle''
      exact ⟨t', hreach'', hidle''⟩

/-- Where a batch does not fit, some run leaves the sender short. -/
theorem exists_short (haccepted : c.Accepted) (hnot : ¬BatchFits c)
    (hreach : (hopSystem c).Reachable s) (hidle : s.Idle c tx 0)
    (hbound : tx ≤ c.attributes.initialCredits) :
    ∃ s', (hopSystem c).Reachable s' ∧ ¬s'.NeverShort c := by
  have hbatchPos := haccepted.attributes.batchPos
  have hinitial := haccepted.attributes.initialCredits
  have hlargest : 1 ≤ c.largest :=
    (credits_pos c 0).trans (credits_le_largest (Nat.zero_le c.maxPacket))
  induction tx using Nat.strong_induction_on generalizing s with
  | _ tx ih =>
      by_cases hfull : c.attributes.creditBatchSize + c.largest ≤ tx + 1
      · -- a batch can be filled, and the packet that completes it loses credits
        have hbyte : 256 < c.attributes.creditBatchSize + c.largest := by
          by_contra hle
          exact hnot ⟨by omega, by omega⟩
        obtain ⟨t, hreach', hidle'⟩ := hidle.fill haccepted hreach
          (n := c.attributes.creditBatchSize - 1) (by omega) (by omega)
        obtain ⟨size, hpos, hle, hsize⟩ := exists_credits_eq_largest haccepted
        obtain ⟨t', hreach'', hidle''⟩ := hidle'.complete haccepted hreach' hpos hle
          (by omega) (by omega) (by omega)
        rw [hsize] at hidle''
        exact ih _ (by omega) hreach'' hidle'' (by omega)
      · by_cases hshort : tx < c.largest
        · exact hidle.short haccepted hreach hshort
        · -- packets of one credit leave one credit too few for the largest packet
          obtain ⟨t, hreach', hidle'⟩ := hidle.fill haccepted hreach
            (n := tx + 1 - c.largest) (by omega) (by omega)
          refine hidle'.short haccepted hreach' ?_
          omega

/-- A hop never leaves its sender short exactly when its batches fit. -/
theorem neverShort_iff_batchFits (haccepted : c.Accepted) :
    (∀ s, (hopSystem c).Reachable s → s.NeverShort c) ↔ BatchFits c := by
  constructor
  · intro hnever
    by_contra hnot
    obtain ⟨s, hreach, hshort⟩ :=
      exists_short haccepted hnot (.init rfl) (idle_fresh haccepted) le_rfl
    exact hshort (hnever s hreach)
  · intro hfits s hreach
    exact (balanced_of_reachable haccepted hfits hreach).neverShort hfits

/-- The default attributes, with packets that take all twenty initial credits. -/
def defaultHop : HopConfig where
  attributes := { enableLinkCBFC := true }
  senderMac := { b5 := 1 }
  receiverMac := { b5 := 2 }
  senderDevices := [{ b5 := 1 }]
  receiverDevices := [{ b5 := 2 }]
  maxPacket := 5120

theorem accepted_defaultHop : defaultHop.Accepted := by
  have henough : defaultHop.largest ≤ 20 := by
    refine Finset.sup_le fun size hsize => ?_
    have hle : size < 5121 := Finset.mem_range.mp hsize
    have hcredits : defaultHop.credits size = max (toU32 (size + 256 - 1) / 256) 1 := rfl
    rw [hcredits, toU32_of_lt (by omega)]
    omega
  refine ⟨?_, rfl, by decide, by decide, by decide, henough, by decide⟩
  constructor <;> decide

/-- A packet of one credit is returned to a receiver that withholds the credit, and a
packet of twenty credits is waiting. -/
def defaultActions : List Action :=
  [.enqueue 0 256, .transmit 0, .leave 0 256, .enqueue 0 5120]

/-- With the default attributes one withheld credit stops the largest packet for ever. -/
theorem not_neverShort_defaultHop :
    defaultHop.Accepted ∧
      ∃ s, (hopSystem defaultHop).runActions (fresh defaultHop) defaultActions = some s ∧
        (hopSystem defaultHop).Reachable s ∧ ¬s.NeverShort defaultHop := by
  obtain ⟨s, hrun⟩ : ∃ s,
      (hopSystem defaultHop).runActions (fresh defaultHop) defaultActions = some s := ⟨_, rfl⟩
  have hreach : (hopSystem defaultHop).Reachable s :=
    TransitionSystem.ReachableBy.runActions (.init rfl) (fun _ _ _ => trivial) hrun
  refine ⟨accepted_defaultHop, s, hrun, hreach, fun hnever => ?_⟩
  have hqueue : s.queues 0 = [5120] := by
    cases hrun
    rfl
  have hquiet : s.Quiet 0 := by
    cases hrun
    exact ⟨nofun, nofun⟩
  have henough := hnever 0 (by decide) hquiet 5120 [] hqueue
  have hshort : s.sender.hasEnoughCredits defaultHop.receiverMac 0 5120 = false := by
    cases hrun
    rfl
  rw [hshort] at henough
  cases henough

theorem neverShort_iff_batchFits_defaultHop :
    (∀ s, (hopSystem defaultHop).Reachable s → s.NeverShort defaultHop) ↔
      BatchFits defaultHop :=
  neverShort_iff_batchFits accepted_defaultHop

end CreditHop

end UeSim
