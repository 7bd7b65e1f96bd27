import UeSim.Sue.CreditLedger

/-!
# No packet is dropped for want of room

Credits stand for room in the buffers behind a link and behind a switch port.  A
packet that is on its way or waits there holds the credits that were taken for it, so
that the bytes in a buffer are bounded by the credits that its senders started with.

The bound needs that the PPP header, which the packet gets when it enters the queue of
a port, fits into the credits that were taken without it, that the virtual channel is read
right without that header, that a switch port returns no credits for control frames, and
that no packet leaves through the port by which it came.  Lost credits do no harm here.
-/

namespace UeSim

namespace SueNetwork

variable {t : SueTopology} {s s' : SueNetwork} {sender receiver : Mac48Address} {vcId : UInt8}

/-! ## The account of a pair -/

/-- The credits of a pair that a charge stands for. -/
def heldBy (sender receiver : Mac48Address) (vcId : UInt8) (charge : Charge) : ℕ :=
  if charge.sender = sender ∧ charge.receiver = receiver ∧ charge.vcId = vcId then charge.credits
  else 0

/-- The credits of a pair that a credit update carries back. -/
def carriedBy (sender receiver : Mac48Address) (vcId : UInt8) (frame : CreditFrame) : ℕ :=
  if frame.destination = sender ∧ frame.source = receiver ∧ frame.vcId = some vcId then
    frame.credits
  else 0

/-- The credits of a pair that packets hold, wherever they are. -/
def packetCredits (s : SueNetwork) (sender receiver : Mac48Address) (vcId : UInt8) : ℕ :=
  WeightedList.weight (heldBy sender receiver vcId) s.held

/-- The credits of a pair that its two managers and the credit updates hold. -/
def managerCredits (s : SueNetwork) (sender receiver : Mac48Address) (vcId : UInt8) : ℕ :=
  (s.managers sender).getTxCredits receiver vcId +
    (s.managers receiver).getCreditsToReturn sender vcId +
    WeightedList.weight (carriedBy sender receiver vcId) s.updates

/-- All credits of a pair. -/
def account (s : SueNetwork) (sender receiver : Mac48Address) (vcId : UInt8) : ℕ :=
  s.packetCredits sender receiver vcId + s.managerCredits sender receiver vcId

/-! ## Managers that change -/

theorem getCreditsToReturn_spend {m : CbfcManager} {mac mac' : Mac48Address} {vc : UInt8}
    {size : ℕ} :
    (spend m mac vcId size).getCreditsToReturn mac' vc = m.getCreditsToReturn mac' vc := by
  unfold spend
  split_ifs
  · exact CbfcManager.getCreditsToReturn_consumeDynamicCredits size
  · rfl

/-- What a credit return leaves with the manager and puts on its way is at most what was
owed and what it is for. -/
theorem owed_settle {m : CbfcManager} {device target : Mac48Address} {size : ℕ}
    (hsettings : m.toCbfcSettings = t.attributes.settings)
    (henabled : t.attributes.enableLinkCBFC = true) (mac : Mac48Address) (vc : UInt8) :
    ((m.handleCreditReturn target vcId size).creditReturn device target
        vcId).1.getCreditsToReturn mac vc +
      WeightedList.weight (carriedBy mac device vc)
        ((m.handleCreditReturn target vcId size).creditReturn device target vcId).2 ≤
      m.getCreditsToReturn mac vc +
        (if target = mac ∧ vcId = vc then t.credits size else 0) := by
  have hon : m.enableLinkCBFC = true := by
    rw [hsettings]
    exact henabled
  have hcredits : m.calculateCreditsForPacket size = t.credits size := by
    rw [hsettings]
    rfl
  have howed : (m.handleCreditReturn target vcId size).getCreditsToReturn mac vc = _ :=
    CbfcManager.getCreditsToReturn_handleCreditReturn size hon
  have hreduce := Nat.mod_le (m.getCreditsToReturn mac vc + t.credits size) (2 ^ 32)
  rw [hcredits] at howed
  rw [CbfcManager.getCreditsToReturn_creditReturn, howed]
  unfold CbfcManager.creditReturn
  by_cases hkey : target = mac ∧ vcId = vc
  · obtain ⟨rfl, rfl⟩ := hkey
    rw [if_pos rfl] at howed
    by_cases hreturns : (m.handleCreditReturn target vcId size).returnsCredits target vcId = true
    · rw [if_pos hreturns, if_pos ⟨hreturns, rfl⟩, if_pos ⟨rfl, rfl⟩]
      dsimp only
      have hcarried : carriedBy target device vcId
          ((m.handleCreditReturn target vcId size).creditFrame device target vcId) =
          (m.handleCreditReturn target vcId size).getCreditsToReturn target vcId % 256 :=
        (if_pos ⟨rfl, rfl, rfl⟩).trans (CbfcManager.credits_creditFrame device)
      have hbyte := Nat.mod_le
        ((m.handleCreditReturn target vcId size).getCreditsToReturn target vcId) 256
      rw [WeightedList.weight_singleton, hcarried]
      unfold toU32 at howed
      omega
    · rw [if_neg hreturns, if_neg fun h => hreturns h.1, if_pos rfl, if_pos ⟨rfl, rfl⟩]
      exact hreduce
  · have hne : ¬(mac, vc) = (target, vcId) :=
      fun h => hkey ⟨(congrArg Prod.fst h).symm, (congrArg Prod.snd h).symm⟩
    rw [if_neg fun h => hne h.2, if_neg hne, if_neg hkey]
    by_cases hreturns : (m.handleCreditReturn target vcId size).returnsCredits target vcId = true
    · rw [if_pos hreturns]
      dsimp only
      have hcarried : carriedBy mac device vc
          ((m.handleCreditReturn target vcId size).creditFrame device target vcId) = 0 := by
        refine if_neg fun h => hkey ⟨h.1, ?_⟩
        exact Option.some.inj h.2.2
      rw [WeightedList.weight_singleton, hcarried]
    · rw [if_neg hreturns]
      exact le_refl _

/-! ## What the steps do to the account -/

theorem packetCredits_enqueue (x : LocatedPacket) :
    (s.enqueueToVcQueue t x).packetCredits sender receiver vcId ≤
      s.packetCredits sender receiver vcId +
        chargeWeight (heldBy sender receiver vcId) x.charge := by
  unfold packetCredits
  rw [weight_held, weight_held]
  unfold enqueueToVcQueue
  dsimp only
  split_ifs
  · rw [WeightedList.weight_append, WeightedList.weight_singleton]
    omega
  · omega

theorem packetCredits_enqueueToProcessingQueue (x : LocatedPacket) :
    (s.enqueueToProcessingQueue t x).packetCredits sender receiver vcId ≤
      s.packetCredits sender receiver vcId +
        chargeWeight (heldBy sender receiver vcId) x.charge := by
  unfold packetCredits
  rw [weight_held, weight_held]
  unfold enqueueToProcessingQueue
  split_ifs
  · dsimp only
    rw [WeightedList.weight_append, WeightedList.weight_singleton]
    omega
  · dsimp only
    omega

/-- What a manager spends goes over to the charge. -/
theorem managerCredits_spend (henabled : t.attributes.enableLinkCBFC = true)
    (hconfigured : s.Configured t) {device mac : Mac48Address} {vc : UInt8} {size : ℕ}
    (hallows : allows (s.managers device) mac vc size = true) (u : SueNetwork)
    (hmanagers : u.managers =
      Function.update s.managers device (spend (s.managers device) mac vc size))
    (hupdates : u.updates = s.updates) :
    u.managerCredits sender receiver vcId + heldBy sender receiver vcId
        ⟨device, mac, vc, size, spent (s.managers device) mac vc size⟩ =
      s.managerCredits sender receiver vcId := by
  have hreceiver : (u.managers receiver).getCreditsToReturn sender vcId =
      (s.managers receiver).getCreditsToReturn sender vcId := by
    rw [hmanagers]
    by_cases hdevice : receiver = device
    · subst hdevice
      rw [Function.update_self]
      exact getCreditsToReturn_spend
    · rw [Function.update_of_ne hdevice]
  unfold managerCredits heldBy
  dsimp only
  rw [hreceiver, hupdates, hmanagers, spent_eq (hconfigured device) henabled hallows]
  by_cases hdevice : sender = device
  · subst hdevice
    have hspend := getTxCredits_spend (hconfigured sender) henabled hallows receiver vcId
    rw [Function.update_self]
    by_cases hkey : mac = receiver ∧ vc = vcId
    · rw [if_pos hkey] at hspend
      rw [if_pos ⟨rfl, hkey⟩]
      omega
    · rw [if_neg hkey] at hspend
      rw [if_neg fun h => hkey h.2]
      omega
  · rw [Function.update_of_ne hdevice, if_neg fun h => hdevice h.1.symm]
    rfl

theorem managerCredits_settle (henabled : t.attributes.enableLinkCBFC = true)
    (hconfigured : s.Configured t) (e : CreditEvent) :
    (s.settle e).managerCredits sender receiver vcId ≤
      s.managerCredits sender receiver vcId +
        heldBy sender receiver vcId
          ⟨e.target, e.device, e.vcId, e.size, t.credits e.size⟩ := by
  have hsender : ((s.settle e).managers sender).getTxCredits receiver vcId =
      (s.managers sender).getTxCredits receiver vcId := by
    unfold settle
    dsimp only
    by_cases hdevice : sender = e.device
    · rw [hdevice, Function.update_self, CbfcManager.getTxCredits_creditReturn,
        CbfcManager.getTxCredits_handleCreditReturn]
    · rw [Function.update_of_ne hdevice]
  unfold managerCredits heldBy
  rw [hsender]
  unfold settle
  dsimp only
  rw [WeightedList.weight_append]
  by_cases hdevice : receiver = e.device
  · subst hdevice
    have howed : (((s.managers e.device).handleCreditReturn e.target e.vcId
        e.size).creditReturn e.device e.target e.vcId).1.getCreditsToReturn sender vcId + _ ≤ _ :=
      owed_settle (hconfigured e.device) henabled sender vcId
    rw [Function.update_self]
    by_cases hkey : e.target = sender ∧ e.vcId = vcId
    · rw [if_pos hkey] at howed
      rw [if_pos ⟨hkey.1, rfl, hkey.2⟩]
      omega
    · rw [if_neg hkey] at howed
      rw [if_neg fun h => hkey ⟨h.1, h.2.2⟩]
      omega
  · have hnone : WeightedList.weight (carriedBy sender receiver vcId)
        (((s.managers e.device).handleCreditReturn e.target e.vcId e.size).creditReturn e.device
          e.target e.vcId).2 = 0 := by
      refine WeightedList.weight_eq_zero fun frame hframe => ?_
      unfold CbfcManager.creditReturn at hframe
      split_ifs at hframe
      · rw [List.mem_singleton.mp hframe]
        exact if_neg fun h => hdevice h.2.1.symm
      · cases hframe
    rw [Function.update_of_ne hdevice, hnone]
    omega

theorem managerCredits_receiveUpdate {frame : CreditFrame} {i : ℕ}
    (hframe : s.updates[i]? = some frame) :
    (s.receiveUpdate t frame i).managerCredits sender receiver vcId ≤
      s.managerCredits sender receiver vcId := by
  have hsplit := WeightedList.weight_eraseIdx (w := carriedBy sender receiver vcId) hframe
  unfold managerCredits receiveUpdate
  dsimp only
  split_ifs
  · have hreceiver : (Function.update s.managers frame.destination
        ((s.managers frame.destination).receiveCreditUpdate frame) receiver).getCreditsToReturn
          sender vcId = (s.managers receiver).getCreditsToReturn sender vcId := by
      by_cases hdestination : receiver = frame.destination
      · rw [hdestination, Function.update_self,
          CbfcManager.getCreditsToReturn_receiveCreditUpdate]
      · rw [Function.update_of_ne hdestination]
    rw [hreceiver]
    by_cases hdestination : sender = frame.destination
    · have hadded : ((s.managers sender).receiveCreditUpdate frame).getTxCredits receiver vcId ≤
          _ := CbfcManager.getTxCredits_receiveCreditUpdate_le frame
      subst hdestination
      rw [Function.update_self]
      unfold carriedBy at hsplit
      by_cases hkey : receiver = frame.source ∧ frame.vcId = some vcId
      · rw [if_pos hkey] at hadded
        rw [if_pos ⟨rfl, hkey.1.symm, hkey.2⟩] at hsplit
        unfold carriedBy
        omega
      · rw [if_neg hkey] at hadded
        rw [if_neg fun h => hkey ⟨h.2.1.symm, h.2.2⟩] at hsplit
        unfold carriedBy
        omega
    · rw [Function.update_of_ne hdestination]
      omega
  · omega

/-! ## Packets that fit into their credits -/

/-- A packet whose PPP header fits into the credits of its Ethernet frame. -/
structure FitsCredits (t : SueTopology) (packet : FramedPacket) : Prop where
  range : packet.wireSize + t.attributes.bytesPerCredit ≤ 2 ^ 32
  rounding : NoMultipleIn t.attributes.bytesPerCredit packet.size packet.wireSize

/-- The steps of runs in which credits stand for room: the packets fit into their
credits and their virtual channel is read right without a PPP header, no packet leaves
through the port by which it came, and the switch ports send no acknowledgments. -/
def KeepsRoom (t : SueTopology) (s : SueNetwork) : Action → Prop
  | .submit _ packet => FitsCredits t packet ∧ packet.bareVcId = packet.vcId
  | .process device => ∀ x, s.processing.find? (fun y => y.device = device) = some x →
      device.isSwitchDevice = true →
      t.forwardingTable device x.packet.destination ≠ some device
  | .control _ _ _ => False
  | _ => True

/-- A packet of one of the virtual channels, which is read right, that fits into its
credits. -/
structure Carriable (t : SueTopology) (packet : FramedPacket) : Prop extends
    FitsCredits t packet where
  vcId : packet.bareVcId < t.attributes.numVcs
  read : packet.bareVcId = packet.vcId

/-- Who the source of a packet is has no part in it. -/
theorem Carriable.withSource {packet : FramedPacket} (h : Carriable t packet)
    (source : Mac48Address) : Carriable t (packet.withSource source) where
  range := h.range
  rounding := h.rounding
  vcId := (packet.bareVcId_withSource source).symm ▸ h.vcId
  read := (packet.bareVcId_withSource source).trans h.read

/-- A packet in a queue: in a port, one that another port of the switch has sent. -/
structure QueuedSafely (t : SueTopology) (x : LocatedPacket) : Prop where
  carriable : Carriable t x.packet
  card : x.device.isSwitchDevice = false → x.packet.source = x.device ∧ x.charge = none
  port : x.device.isSwitchDevice = true → ChargedAs t x.packet.size x ∧
    x.packet.source.isSwitchDevice = true ∧ x.packet.source ∈ t.ports x.device ∧
    x.packet.source ≠ x.device

/-- A packet that has crossed a link, charged to the device at its other end. -/
structure CrossedSafely (t : SueTopology) (x : LocatedPacket) : Prop where
  carriable : Carriable t x.packet
  charged : ChargedAs t x.packet.wireSize x
  source : x.packet.source = t.remote x.device

/-- A packet inside a switch, charged on the link and again inside. -/
structure InsideSafely (t : SueTopology) (f : Forwarding) : Prop where
  carriable : Carriable t f.packet
  inbound : f.inbound =
    some ⟨f.source, f.ingress, f.vcId, f.packet.wireSize, t.credits f.packet.wireSize⟩
  queued : QueuedSafely t (forwardedPacket f)
  egress : f.egress.isSwitchDevice = true

/-- A credit return of no more than was taken. -/
def ReturnedSafely (t : SueTopology) (e : CreditEvent) : Prop :=
  ∃ size, e.charge = some ⟨e.target, e.device, e.vcId, size, t.credits size⟩ ∧
    t.credits e.size ≤ t.credits size

/-- Everything in the network is charged, and returns no more than that. -/
def SafelyCharged (t : SueTopology) (s : SueNetwork) : Prop :=
  Everywhere (QueuedSafely t) (CrossedSafely t) (InsideSafely t) (ReturnedSafely t)
    (fun _ => True) s

theorem credits_mono (hpos : 0 < t.attributes.bytesPerCredit) {x y : ℕ} (hle : x ≤ y)
    (hrange : y + t.attributes.bytesPerCredit ≤ 2 ^ 32) : t.credits x ≤ t.credits y := by
  rw [SueTopology.credits_of_le hpos (by omega), SueTopology.credits_of_le hpos hrange]
  exact Nat.add_le_add_right (Nat.div_le_div_right (by omega)) 1

/-- A size is at most the bytes of its credits. -/
theorem le_credits_mul (hpos : 0 < t.attributes.bytesPerCredit) {x : ℕ}
    (hrange : x + t.attributes.bytesPerCredit ≤ 2 ^ 32) :
    x ≤ t.attributes.bytesPerCredit * t.credits x := by
  rw [SueTopology.credits_of_le hpos hrange]
  have hlt := Nat.lt_mul_div_succ (x - 1) hpos
  omega

/-- The Ethernet frame of a packet that fits takes the credits of its wire size. -/
theorem FitsCredits.credits_size (hpos : 0 < t.attributes.bytesPerCredit) {packet : FramedPacket}
    (hfits : FitsCredits t packet) : t.credits packet.size = t.credits packet.wireSize := by
  have hle := packet.size_le_wireSize
  have hrange := hfits.range
  rw [SueTopology.credits_of_le hpos (by omega), SueTopology.credits_of_le hpos hrange,
    (div_eq_iff_noMultipleIn hpos hle).mpr hfits.rounding]

theorem passes_safelyCharged (hpos : 0 < t.attributes.bytesPerCredit)
    (henabled : t.attributes.enableLinkCBFC = true) (hconfigured : s.Configured t)
    {action : Action} (hsafe : KeepsRoom t s action) :
    Passes t (QueuedSafely t) (CrossedSafely t) (InsideSafely t) (ReturnedSafely t)
      (fun _ => True) s action where
  submit := by
    rintro device packet rfl hcard hsource hvc
    obtain ⟨hfits, hread⟩ : FitsCredits t packet ∧ packet.bareVcId = packet.vcId := hsafe
    exact ⟨⟨hfits, hvc, hread⟩, fun _ => ⟨hsource, rfl⟩,
      fun hport => absurd (hport.symm.trans hcard) nofun⟩
  transmit := by
    intro x hallows hx
    have hcarriable := hx.carriable
    have hspent := spent_eq (hconfigured x.device) henabled hallows
    unfold transmitted transmitEvents linkCharge
    rw [hspent]
    by_cases hport : x.device.isSwitchDevice = true
    · obtain ⟨hcharged, _⟩ := hx.port hport
      rw [if_pos hport, if_pos hport]
      refine ⟨⟨hcarriable.withSource x.device, ?_, ?_⟩, ?_⟩
      · unfold ChargedAs
        dsimp only
        rw [FramedPacket.bareVcId_withSource]
        rfl
      · exact (t.remote_remote x.device).symm
      · intro e he
        rw [List.mem_singleton.mp he]
        refine ⟨x.packet.size, ?_, (hcarriable.credits_size hpos).ge⟩
        dsimp only
        rw [FramedPacket.wireVcId_eq, ← hcarriable.read]
        exact hcharged
    · obtain ⟨hcard, _⟩ := hx.card (Bool.eq_false_iff.mpr hport)
      rw [if_neg hport, if_neg hport]
      refine ⟨⟨hcarriable, ?_, ?_⟩, fun e he => absurd he List.not_mem_nil⟩
      · unfold ChargedAs
        dsimp only
        rw [hcard]
      · exact hcard.trans (t.remote_remote x.device).symm
  ownEgress := by
    rintro x rfl hfirst hport htable _
    exact absurd htable (hsafe x hfirst hport)
  forward := by
    intro egress x hport htable hother hallows hx
    have hspent := spent_eq (hconfigured x.device) henabled hallows
    have hmem := t.forwardingTable_mem _ _ _ htable
    obtain ⟨hegress, hports⟩ := t.ports_switch x.device egress hport hmem
    have hcarriable := hx.carriable.withSource x.device
    refine ⟨hcarriable, hx.charged, ⟨hcarriable, ?_, ?_⟩, hegress⟩
    · exact fun hcard => absurd (hegress.symm.trans hcard) nofun
    · intro _
      refine ⟨?_, hport, ?_, hother.symm⟩
      · unfold ChargedAs forwardedPacket forwardingOf portCharge
        dsimp only
        rw [hspent, FramedPacket.bareVcId_withSource]
        rfl
      · have hself : x.device ∈ t.ports egress := hports ▸ t.ports_self x.device
        exact hself
  consume := by
    intro x _ hx
    refine ⟨x.packet.wireSize, hx.charged, ?_⟩
    exact credits_mono hpos x.packet.bodySize_le_wireSize hx.carriable.range
  complete := by
    intro f hf
    refine ⟨hf.queued, f.packet.wireSize, hf.inbound, ?_⟩
    exact (hf.carriable.credits_size hpos).le
  control := by
    rintro device target vcId rfl
    exact hsafe.elim
  settle := fun _ _ => trivial

/-! ## The account of a run -/

/-- A credit return takes the credits of its charge out of the account of packets. -/
theorem account_settle (henabled : t.attributes.enableLinkCBFC = true)
    (hconfigured : s.Configured t) {e : CreditEvent} (he : ReturnedSafely t e) :
    (s.settle e).account sender receiver vcId ≤
      s.account sender receiver vcId + chargeWeight (heldBy sender receiver vcId) e.charge := by
  obtain ⟨size, hcharge, hle⟩ := he
  have hmanagers : (s.settle e).managerCredits sender receiver vcId ≤ _ :=
    managerCredits_settle henabled hconfigured e
  have hpackets : (s.settle e).packetCredits sender receiver vcId =
      s.packetCredits sender receiver vcId := rfl
  have hheld : heldBy sender receiver vcId
        ⟨e.target, e.device, e.vcId, e.size, t.credits e.size⟩ ≤
      chargeWeight (heldBy sender receiver vcId) e.charge := by
    rw [hcharge]
    unfold chargeWeight heldBy
    dsimp only [Option.elim_some]
    split_ifs
    · exact hle
    · exact le_refl 0
  unfold account
  omega

theorem account_transmit (henabled : t.attributes.enableLinkCBFC = true)
    (hconfigured : s.Configured t) {x : LocatedPacket}
    (hcard : x.device.isSwitchDevice = false → x.charge = none)
    (hfirst : s.queued.find? (inVcQueue x.device x.packet.bareVcId) = some x)
    (hallows : allows (s.managers x.device) (t.remote x.device) x.packet.bareVcId
      x.packet.wireSize = true) :
    (s.transmit t x.device x).account sender receiver vcId =
      s.account sender receiver vcId := by
  have hmanagers : (s.transmit t x.device x).managerCredits sender receiver vcId +
      heldBy sender receiver vcId (s.linkCharge t x.device x) = _ :=
    managerCredits_spend henabled hconfigured hallows (s.transmit t x.device x) rfl rfl
  have hpackets := weight_transmit (t := t) (heldBy sender receiver vcId) hcard hfirst
  unfold account packetCredits
  omega

theorem account_forward (henabled : t.attributes.enableLinkCBFC = true)
    (hconfigured : s.Configured t) {x : LocatedPacket} {egress : Mac48Address}
    (hfirst : s.processing.find? (fun y => y.device = x.device) = some x)
    (hallows : allows (s.managers x.device) egress x.packet.bareVcId x.packet.size = true) :
    (s.startForwarding egress x).account sender receiver vcId =
      s.account sender receiver vcId := by
  have hmanagers : (s.startForwarding egress x).managerCredits sender receiver vcId +
      heldBy sender receiver vcId (s.portCharge egress x) = _ :=
    managerCredits_spend henabled hconfigured hallows (s.startForwarding egress x) rfl rfl
  have hpackets : WeightedList.weight (heldBy sender receiver vcId)
      (s.startForwarding egress x).held = _ := weight_startForwarding _ hfirst
  unfold account packetCredits
  omega

theorem account_forwardingComplete {f : Forwarding} {i : ℕ}
    (hpending : s.forwarding[i]? = some f) :
    (s.forwardingComplete t f i).account sender receiver vcId ≤
      s.account sender receiver vcId := by
  have hleft := WeightedList.weight_eraseIdx (w := fun g : Forwarding =>
    chargeWeight (heldBy sender receiver vcId) g.inbound +
      chargeWeight (heldBy sender receiver vcId) g.internal) hpending
  have hqueued : (s.enqueueToVcQueue t (forwardedPacket f)).packetCredits sender receiver
      vcId ≤ _ := packetCredits_enqueue (forwardedPacket f)
  have hevents : WeightedList.weight
      (fun e => chargeWeight (heldBy sender receiver vcId) e.charge)
      (if (s.managers f.ingress).enableLinkCBFC then [forwardedEvent f] else []) ≤
      chargeWeight (heldBy sender receiver vcId) f.inbound := by
    split_ifs
    · exact (WeightedList.weight_singleton _).le
    · exact Nat.zero_le _
  have hmanagers : (s.forwardingComplete t f i).managerCredits sender receiver vcId =
      s.managerCredits sender receiver vcId := rfl
  have hcharge : (forwardedPacket f).charge = f.internal := rfl
  rw [hcharge] at hqueued
  unfold account
  rw [hmanagers]
  unfold packetCredits at hqueued ⊢
  rw [weight_held] at hqueued ⊢
  rw [weight_held] at hqueued
  unfold forwardingComplete
  unfold enqueueToVcQueue at hqueued ⊢
  dsimp only at hqueued ⊢
  rw [WeightedList.weight_append, weight_held]
  omega

/-- No step of a run that keeps room adds to the account of a pair. -/
theorem account_step (henabled : t.attributes.enableLinkCBFC = true) {action : Action}
    (hcharged : s.SafelyCharged t) (hconfigured : s.Configured t)
    (hpos : 0 < t.attributes.bytesPerCredit) (hsafe : KeepsRoom t s action)
    (hstep : (networkSystem t).step s action = some s') :
    s'.account sender receiver vcId ≤ s.account sender receiver vcId := by
  have hpasses := passes_safelyCharged hpos henabled hconfigured hsafe
  cases step_cases hstep with
  | refuse device packet => exact le_refl _
  | submit device packet hcard hsource =>
      have hqueued : (s.enqueueToVcQueue t { device := device, packet := packet }).packetCredits
          sender receiver vcId ≤ _ := packetCredits_enqueue _
      exact Nat.add_le_add_right hqueued _
  | transmit device x hfirst hdevice hallows =>
      subst hdevice
      have hx := hcharged.queued x (List.mem_of_find?_eq_some hfirst)
      exact (account_transmit henabled hconfigured (fun hcard => (hx.card hcard).2) hfirst
        hallows).le
  | receive i x hwire =>
      have hleft := weight_popWire (heldBy sender receiver vcId) hwire
      have hkept : (enqueueToProcessingQueue t { s with wire := s.wire.eraseIdx i }
          x).packetCredits sender receiver vcId ≤ _ := packetCredits_enqueueToProcessingQueue x
      have hmanagers : (enqueueToProcessingQueue t { s with wire := s.wire.eraseIdx i }
          x).managerCredits sender receiver vcId = s.managerCredits sender receiver vcId := by
        unfold enqueueToProcessingQueue
        split_ifs <;> rfl
      unfold account packetCredits at *
      omega
  | ownEgress x hfirst hport htable => exact absurd htable (hsafe x hfirst hport)
  | forward egress x hfirst hport htable hother hallows =>
      exact (account_forward henabled hconfigured hfirst hallows).le
  | consume x hfirst hcard =>
      have hx := hcharged.processing x (List.mem_of_find?_eq_some hfirst)
      have hpopped : (s.popProcessing x.device).Configured t := hconfigured
      have hsettle : ((s.popProcessing x.device).settle (consumedEvent x)).account sender
          receiver vcId ≤ _ + chargeWeight _ x.charge :=
        account_settle henabled hpopped (hpasses.consume x hcard hx)
      have hpop := weight_popProcessing (heldBy sender receiver vcId) hfirst
      have hmanagers : (s.popProcessing x.device).managerCredits sender receiver vcId =
          s.managerCredits sender receiver vcId := rfl
      unfold account packetCredits at hsettle ⊢
      omega
  | forwardingComplete i f hpending => exact account_forwardingComplete hpending
  | creditEvent i event hevent =>
      have herased : Configured t { s with events := s.events.eraseIdx i } := hconfigured
      have hsettle : (settle { s with events := s.events.eraseIdx i } event).account sender
          receiver vcId ≤ _ :=
        account_settle henabled herased (hcharged.events event (List.mem_of_getElem? hevent))
      have hpop := weight_popEvent (heldBy sender receiver vcId) hevent
      have hmanagers : managerCredits { s with events := s.events.eraseIdx i } sender receiver
          vcId = s.managerCredits sender receiver vcId := rfl
      unfold account packetCredits at hsettle ⊢
      omega
  | creditArrives i frame hframe =>
      have hmanagers : (s.receiveUpdate t frame i).managerCredits sender receiver vcId ≤ _ :=
        managerCredits_receiveUpdate hframe
      exact Nat.add_le_add_left hmanagers _
  | control device target vcId hllr hport => exact hsafe.elim

/-! ## Room in the buffers -/

/-- The buffers are as large as the credits they back: the processing queues for the
initial credits of all virtual channels, and the queues of a switch port for the switch
credits of all other ports. -/
structure Backed (t : SueTopology) : Prop where
  processing : t.attributes.numVcs.toNat *
    (t.attributes.initialCredits * t.attributes.bytesPerCredit) ≤ t.processingQueueMaxBytes
  egress : ∀ port, port.isSwitchDevice = true → ((t.ports port).length - 1) *
    (t.attributes.switchCredits * t.attributes.bytesPerCredit) ≤ t.vcQueueMaxBytes

/-- The invariant of runs that keep room. -/
structure Roomy (t : SueTopology) (s : SueNetwork) : Prop where
  charged : s.SafelyCharged t
  configured : s.Configured t
  bounded : ∀ sender receiver vcId,
    s.account sender receiver vcId ≤ (fresh t).account sender receiver vcId
  dropped : s.dropped = []

/-- The credits of a link at the start. -/
theorem account_fresh_link (device : Mac48Address) (hvc : vcId < t.attributes.numVcs) :
    (fresh t).account (t.remote device) device vcId = t.attributes.initialCredits := by
  have hnone : ((fresh t).managers device).getCreditsToReturn (t.remote device) vcId = 0 :=
    CbfcManager.owesNothing_initializeCbfc _ _ _ _ _ _
  have hlocal : device ∉ t.ports (t.remote device) := by
    have hremote := t.remote_notMem (t.remote device)
    rwa [t.remote_remote] at hremote
  have hlookup : ((fresh t).managers (t.remote device)).txCreditsMap.lookup (device, vcId) =
      some t.attributes.initialCredits := by
    unfold fresh
    rw [CbfcManager.lookup_initializeCbfc, if_pos hvc, if_neg fun h => hlocal h.2.1,
      t.remote_remote, if_pos rfl]
  have hcredits : ((fresh t).managers (t.remote device)).getTxCredits device vcId =
      t.attributes.initialCredits := by
    unfold CbfcManager.getTxCredits
    rw [hlookup]
    rfl
  have haccount : (fresh t).account (t.remote device) device vcId =
      0 + (((fresh t).managers (t.remote device)).getTxCredits device vcId +
        ((fresh t).managers device).getCreditsToReturn (t.remote device) vcId + 0) := rfl
  rw [haccount, hcredits, hnone]
  omega

/-- The credits between two ports of a switch at the start. -/
theorem account_fresh_port (hcredits : t.attributes.switchCredits ≠ 0)
    (hport : sender.isSwitchDevice = true) (hmem : receiver ∈ t.ports sender)
    (hne : receiver ≠ sender) (hvc : vcId < t.attributes.numVcs) :
    (fresh t).account sender receiver vcId = t.attributes.switchCredits := by
  have hnone : ((fresh t).managers receiver).getCreditsToReturn sender vcId = 0 :=
    CbfcManager.owesNothing_initializeCbfc _ _ _ _ _ _
  have hlookup : ((fresh t).managers sender).txCreditsMap.lookup (receiver, vcId) =
      some ((CbfcManager.configured t.attributes).peerCredits t.attributes.switchCredits) := by
    unfold fresh
    rw [CbfcManager.lookup_initializeCbfc, if_pos hvc, if_pos ⟨hport, hmem, hne⟩]
  have hpeer : (CbfcManager.configured t.attributes).peerCredits t.attributes.switchCredits =
      t.attributes.switchCredits := if_neg hcredits
  have htx : ((fresh t).managers sender).getTxCredits receiver vcId =
      t.attributes.switchCredits := by
    unfold CbfcManager.getTxCredits
    rw [hlookup, hpeer]
    rfl
  have haccount : (fresh t).account sender receiver vcId =
      0 + (((fresh t).managers sender).getTxCredits receiver vcId +
        ((fresh t).managers receiver).getCreditsToReturn sender vcId + 0) := rfl
  rw [haccount, htx, hnone]
  omega

theorem heldBy_of_charge {charge : Option Charge} {size : ℕ}
    (hcharge : charge = some ⟨sender, receiver, vcId, size, t.credits size⟩) :
    chargeWeight (heldBy sender receiver vcId) charge = t.credits size := by
  rw [hcharge]
  exact if_pos ⟨rfl, rfl, rfl⟩

/-- A packet that reaches a device finds room in its processing queue. -/
theorem Roomy.processing_room (hroomy : s.Roomy t) (hpos : 0 < t.attributes.bytesPerCredit)
    {i : ℕ} {x : LocatedPacket} (hwire : s.wire[i]? = some x) :
    s.processingQueueBytes x.device + x.packet.size ≤ t.attributes.numVcs.toNat *
      (t.attributes.initialCredits * t.attributes.bytesPerCredit) := by
  have hcrossed : ∀ y ∈ x :: s.processing.filter (fun y => y.device = x.device),
      CrossedSafely t y ∧ y.device = x.device := by
    intro y hy
    rcases List.mem_cons.mp hy with rfl | hy
    · exact ⟨hroomy.charged.wire y (List.mem_of_getElem? hwire), rfl⟩
    · obtain ⟨hmem, hdevice⟩ := List.mem_filter.mp hy
      exact ⟨hroomy.charged.processing y hmem, of_decide_eq_true hdevice⟩
  have hbound : WeightedList.weight (fun y : LocatedPacket => y.packet.size)
      (x :: s.processing.filter fun y => y.device = x.device) ≤
      (vcIds t.attributes.numVcs).length *
        (t.attributes.initialCredits * t.attributes.bytesPerCredit) := by
    refine WeightedList.weight_le_of_classes (g := fun y : LocatedPacket => y.packet.bareVcId) ?_ ?_
    · intro y hy
      exact mem_vcIds.mpr (hcrossed y hy).1.carriable.vcId
    · intro vc hkey
      have hlt : vc < t.attributes.numVcs := mem_vcIds.mp hkey
      have haccount := hroomy.bounded (t.remote x.device) x.device vc
      rw [account_fresh_link x.device hlt] at haccount
      have hwireHeld := WeightedList.weight_eraseIdx (w := fun y : LocatedPacket =>
        chargeWeight (heldBy (t.remote x.device) x.device vc) y.charge) hwire
      have hqueueHeld := WeightedList.weight_filter_le (w := fun y : LocatedPacket =>
        chargeWeight (heldBy (t.remote x.device) x.device vc) y.charge)
        (fun y => y.device = x.device) s.processing
      have hheld : WeightedList.weight (fun y : LocatedPacket =>
          chargeWeight (heldBy (t.remote x.device) x.device vc) y.charge)
          (x :: s.processing.filter fun y => y.device = x.device) ≤
          t.attributes.initialCredits := by
        rw [WeightedList.weight_cons]
        unfold account packetCredits at haccount
        rw [weight_held] at haccount
        omega
      refine le_trans ?_ ((Nat.mul_le_mul_left t.attributes.bytesPerCredit hheld).trans
        (Nat.mul_comm _ _).le)
      rw [← WeightedList.weight_mul]
      refine WeightedList.weight_mono fun y hy => ?_
      obtain ⟨hy, hdevice⟩ := hcrossed y hy
      split_ifs with heq
      · have hcharge : y.charge =
            some ⟨t.remote x.device, x.device, vc, y.packet.wireSize,
              t.credits y.packet.wireSize⟩ := by
          rw [hy.charged, hy.source, hdevice, heq]
        rw [heldBy_of_charge hcharge]
        exact y.packet.size_le_wireSize.trans (le_credits_mul hpos hy.carriable.range)
      · exact Nat.zero_le _
  rw [WeightedList.weight_cons, length_vcIds] at hbound
  unfold processingQueueBytes
  omega

/-- A packet that is forwarded finds room in the queue of its egress port. -/
theorem Roomy.egress_room (hroomy : s.Roomy t) (hpos : 0 < t.attributes.bytesPerCredit)
    (hcredits : t.attributes.switchCredits ≠ 0) {i : ℕ} {f : Forwarding}
    (hpending : s.forwarding[i]? = some f) :
    s.vcQueueBytes f.egress f.packet.bareVcId + f.packet.wireSize ≤
      ((t.ports f.egress).length - 1) *
        (t.attributes.switchCredits * t.attributes.bytesPerCredit) := by
  have hinside := hroomy.charged.forwarding f (List.mem_of_getElem? hpending)
  have hport := hinside.egress
  have hqueued : ∀ y ∈ forwardedPacket f ::
      s.queued.filter (inVcQueue f.egress f.packet.bareVcId),
      QueuedSafely t y ∧ y.device = f.egress ∧ y.packet.bareVcId = f.packet.bareVcId := by
    intro y hy
    rcases List.mem_cons.mp hy with rfl | hy
    · exact ⟨hinside.queued, rfl, rfl⟩
    · obtain ⟨hmem, hplace⟩ := List.mem_filter.mp hy
      simp only [inVcQueue, Bool.and_eq_true, decide_eq_true_eq] at hplace
      exact ⟨hroomy.charged.queued y hmem, hplace.1, hplace.2⟩
  have hbound : WeightedList.weight (fun y : LocatedPacket => y.packet.wireSize)
      (forwardedPacket f :: s.queued.filter (inVcQueue f.egress f.packet.bareVcId)) ≤
      ((t.ports f.egress).erase f.egress).length *
        (t.attributes.switchCredits * t.attributes.bytesPerCredit) := by
    refine WeightedList.weight_le_of_classes
      (g := fun y : LocatedPacket => y.packet.source) ?_ ?_
    · intro y hy
      obtain ⟨hy, hdevice, _⟩ := hqueued y hy
      obtain ⟨_, _, hmem, hne⟩ := hy.port (hdevice ▸ hport)
      rw [hdevice] at hmem hne
      exact (List.mem_erase_of_ne hne).mpr hmem
    · intro ingress hkey
      have hmem : ingress ∈ t.ports f.egress := List.mem_of_mem_erase hkey
      have hne : ingress ≠ f.egress :=
        ((t.ports_nodup f.egress).mem_erase_iff.mp hkey).1
      obtain ⟨hswitch, hports⟩ := t.ports_switch f.egress ingress hport hmem
      have haccount := hroomy.bounded ingress f.egress f.packet.bareVcId
      rw [account_fresh_port hcredits hswitch (hports ▸ t.ports_self f.egress) hne.symm
        hinside.carriable.vcId] at haccount
      have hforwardingHeld := WeightedList.weight_eraseIdx (w := fun g : Forwarding =>
        chargeWeight (heldBy ingress f.egress f.packet.bareVcId) g.inbound +
          chargeWeight (heldBy ingress f.egress f.packet.bareVcId) g.internal) hpending
      have hqueueHeld := WeightedList.weight_filter_le (w := fun y : LocatedPacket =>
        chargeWeight (heldBy ingress f.egress f.packet.bareVcId) y.charge)
        (inVcQueue f.egress f.packet.bareVcId) s.queued
      have hcharge : (forwardedPacket f).charge = f.internal := rfl
      have hheld : WeightedList.weight (fun y : LocatedPacket =>
          chargeWeight (heldBy ingress f.egress f.packet.bareVcId) y.charge)
          (forwardedPacket f :: s.queued.filter (inVcQueue f.egress f.packet.bareVcId)) ≤
          t.attributes.switchCredits := by
        rw [WeightedList.weight_cons, hcharge]
        unfold account packetCredits at haccount
        rw [weight_held] at haccount
        omega
      refine le_trans ?_ ((Nat.mul_le_mul_left t.attributes.bytesPerCredit hheld).trans
        (Nat.mul_comm _ _).le)
      rw [← WeightedList.weight_mul]
      refine WeightedList.weight_mono fun y hy => ?_
      obtain ⟨hy, hdevice, hvc⟩ := hqueued y hy
      split_ifs with heq
      · obtain ⟨hcharged, _⟩ := hy.port (hdevice ▸ hport)
        have hcharge : y.charge =
            some ⟨ingress, f.egress, f.packet.bareVcId, y.packet.size,
              t.credits y.packet.size⟩ := by
          rw [hcharged, heq, hdevice, hvc]
        rw [heldBy_of_charge hcharge, hy.carriable.credits_size hpos]
        exact le_credits_mul hpos hy.carriable.range
      · exact Nat.zero_le _
  rw [WeightedList.weight_cons, List.length_erase_of_mem (t.ports_self f.egress)] at hbound
  have hsize : (forwardedPacket f).packet.wireSize = f.packet.wireSize := rfl
  unfold vcQueueBytes
  omega

/-! ## Nothing is dropped -/

theorem dropped_enqueue {x : LocatedPacket}
    (h : x.device.isSwitchDevice = true → s.vcQueueTakes t x = true) :
    (s.enqueueToVcQueue t x).dropped = s.dropped := by
  unfold enqueueToVcQueue
  dsimp only
  refine if_neg fun hdrop => ?_
  rw [Bool.and_eq_true, Bool.not_eq_true'] at hdrop
  have htakes := h hdrop.2
  rw [hdrop.1] at htakes
  cases htakes

/-- No step of a run that keeps room drops a packet. -/
theorem Roomy.dropped_step (hroomy : s.Roomy t) (hpos : 0 < t.attributes.bytesPerCredit)
    (hcredits : t.attributes.switchCredits ≠ 0) (hbacked : Backed t) {action : Action}
    (hsafe : KeepsRoom t s action) (hstep : (networkSystem t).step s action = some s') :
    s'.dropped = [] := by
  cases step_cases hstep with
  | refuse device packet => exact hroomy.dropped
  | submit device packet hcard hsource =>
      refine (dropped_enqueue fun hport => ?_).trans hroomy.dropped
      cases hcard.symm.trans hport
  | transmit device x hfirst hdevice hallows => exact hroomy.dropped
  | receive i x hwire =>
      have hroom := hroomy.processing_room hpos hwire
      have hcapacity := hbacked.processing
      have hreduce := Nat.mod_le (s.processingQueueBytes x.device + x.packet.size) (2 ^ 32)
      have htakes : toU32 (processingQueueBytes { s with wire := s.wire.eraseIdx i } x.device +
          x.packet.size) ≤ t.processingQueueMaxBytes :=
        hreduce.trans (hroom.trans hcapacity)
      unfold enqueueToProcessingQueue
      rw [if_pos htakes]
      exact hroomy.dropped
  | ownEgress x hfirst hport htable => exact absurd htable (hsafe x hfirst hport)
  | forward egress x hfirst hport htable hother hallows => exact hroomy.dropped
  | consume x hfirst hcard => exact hroomy.dropped
  | forwardingComplete i f hpending =>
      have hinside := hroomy.charged.forwarding f (List.mem_of_getElem? hpending)
      have hroom := hroomy.egress_room hpos hcredits hpending
      have hcapacity := hbacked.egress f.egress hinside.egress
      have hreduce := Nat.mod_le
        (s.vcQueueBytes f.egress f.packet.bareVcId + f.packet.wireSize) (2 ^ 32)
      have htakes : s.vcQueueTakes t (forwardedPacket f) = true := by
        unfold vcQueueTakes
        rw [Bool.and_eq_true, decide_eq_true_eq, decide_eq_true_eq]
        exact ⟨hinside.carriable.vcId, hreduce.trans (hroom.trans hcapacity)⟩
      exact (dropped_enqueue fun _ => htakes).trans hroomy.dropped
  | creditEvent i event hevent => exact hroomy.dropped
  | creditArrives i frame hframe => exact hroomy.dropped
  | control device target vcId hllr hport => exact hsafe.elim

theorem roomy_fresh : (fresh t).Roomy t where
  charged := everywhere_fresh
  configured := configured_fresh
  bounded := fun _ _ _ => le_refl _
  dropped := rfl

theorem Roomy.step (hroomy : s.Roomy t) (henabled : t.attributes.enableLinkCBFC = true)
    (hpos : 0 < t.attributes.bytesPerCredit) (hcredits : t.attributes.switchCredits ≠ 0)
    (hbacked : Backed t) {action : Action} (hsafe : KeepsRoom t s action)
    (hstep : (networkSystem t).step s action = some s') : s'.Roomy t where
  charged := hroomy.charged.step (passes_safelyCharged hpos henabled hroomy.configured hsafe) hstep
  configured := configured_step hroomy.configured hstep
  bounded := fun sender receiver vcId =>
    (account_step henabled hroomy.charged hroomy.configured hpos hsafe hstep).trans
      (hroomy.bounded sender receiver vcId)
  dropped := hroomy.dropped_step hpos hcredits hbacked hsafe hstep

/-- In a run that keeps room, with buffers as large as the credits they back, neither a
processing queue nor the queue of a switch port drops a packet. -/
theorem dropped_eq_nil_of_keepsRoom (henabled : t.attributes.enableLinkCBFC = true)
    (hpos : 0 < t.attributes.bytesPerCredit) (hcredits : t.attributes.switchCredits ≠ 0)
    (hbacked : Backed t) (hreach : (networkSystem t).ReachableBy (KeepsRoom t) s) :
    s.dropped = [] := by
  have hroomy : s.Roomy t := by
    refine hreach.invariant ?_ ?_
    · intro s hinit
      rw [hinit]
      exact roomy_fresh
    · exact fun s action s' hroomy hsafe hstep =>
        hroomy.step henabled hpos hcredits hbacked hsafe hstep
  exact hroomy.dropped

/-- Two switch credits of 256 bytes, and queues for as many bytes. -/
def tightCards : SueTopology :=
  twoCards { enableLinkCBFC := true, switchCredits := 2 } 512 20480

theorem backed_tightCards : Backed tightCards where
  processing := by decide
  egress := by
    intro port _
    have hlength : (tightCards.ports port).length ≤ 2 := by
      unfold tightCards twoCards
      dsimp only
      split_ifs
      · exact le_refl 2
      · exact Nat.le_succ 1
    have hcapacity : 1 * (tightCards.attributes.switchCredits *
        tightCards.attributes.bytesPerCredit) = tightCards.vcQueueMaxBytes := rfl
    rw [← hcapacity]
    exact Nat.mul_le_mul_right _ (by omega)

/-- Two packets of 256 bytes are forwarded to a port that does not transmit yet. -/
def tightActions : List Action :=
  [.submit { b5 := 1 } fullCreditPacket, .transmit { b5 := 1 } 0, .receive 0,
    .process { b5 := 0 }, .forwardingComplete 0,
    .submit { b5 := 1 } fullCreditPacket, .transmit { b5 := 1 } 0, .receive 0,
    .process { b5 := 0 }, .forwardingComplete 0]

/-- Each packet takes one credit inside the switch and 258 bytes of the queue, so that
the second of them is dropped. -/
theorem dropped_ne_nil_tightCards :
    Backed tightCards ∧ ∃ s,
      (networkSystem tightCards).runActions (fresh tightCards) tightActions = some s ∧
        (networkSystem tightCards).Reachable s ∧
        s.dropped.map LocatedPacket.device = [{ b5 := 2 }] := by
  have hrun : (((networkSystem tightCards).runActions (fresh tightCards) tightActions).map
      fun s => s.dropped.map LocatedPacket.device) = some [{ b5 := 2 }] := by
    decide +kernel
  obtain ⟨s, hs, hdropped⟩ := Option.map_eq_some_iff.mp hrun
  refine ⟨backed_tightCards, s, hs, ?_, hdropped⟩
  exact TransitionSystem.ReachableBy.runActions (.init rfl) (fun _ _ _ => trivial) hs

/-- Two short packets are forwarded to the port, which does not transmit yet. -/
def waitingActions : List Action :=
  [.submit { b5 := 1 } (shortPacket false), .submit { b5 := 1 } (shortPacket false),
    .transmit { b5 := 1 } 0, .transmit { b5 := 1 } 0, .receive 0, .receive 0,
    .process { b5 := 0 }, .forwardingComplete 0, .process { b5 := 0 }, .forwardingComplete 0]

/-- Then they go on to the other network card, and all their credits are returned. -/
def leavingActions : List Action :=
  waitingActions ++ [.creditEvent 0, .creditEvent 0, .transmit { b5 := 2 } 0,
    .transmit { b5 := 2 } 0, .creditEvent 0, .creditEvent 0, .receive 0, .receive 0,
    .process { b5 := 3 }, .process { b5 := 3 }]

instance (packet : FramedPacket) : Decidable (FitsCredits tightCards packet) :=
  decidable_of_iff (packet.wireSize + 256 ≤ 2 ^ 32 ∧
    (packet.size - 1) / 256 = (packet.wireSize - 1) / 256) <| by
      have hsame := div_eq_iff_noMultipleIn (b := 256) (by decide) packet.size_le_wireSize
      exact ⟨fun h => ⟨h.1, hsame.mp h.2⟩, fun h => ⟨h.range, hsame.mpr h.rounding⟩⟩

instance keepsRoomDecidable (s : SueNetwork) : ∀ action, Decidable (KeepsRoom tightCards s action)
  | .submit _ packet =>
      inferInstanceAs (Decidable (FitsCredits tightCards packet ∧ packet.bareVcId = packet.vcId))
  | .process device => inferInstanceAs (Decidable (∀ x,
      x ∈ s.processing.find? (fun y => y.device = device) → device.isSwitchDevice = true →
        tightCards.forwardingTable device x.packet.destination ≠ some device))
  | .control _ _ _ => .isFalse id
  | .transmit _ _ => .isTrue trivial
  | .receive _ => .isTrue trivial
  | .forwardingComplete _ => .isTrue trivial
  | .creditEvent _ => .isTrue trivial
  | .creditArrives _ => .isTrue trivial

/-- Both packets are in the queue of the port at once, which has room for them, and both are
handed up. -/
theorem dropped_eq_nil_tightCards :
    ∃ s u, (networkSystem tightCards).runActions (fresh tightCards) waitingActions = some s ∧
      s.queued.map LocatedPacket.device = [{ b5 := 2 }, { b5 := 2 }] ∧ s.dropped = [] ∧
      (networkSystem tightCards).runActions (fresh tightCards) leavingActions = some u ∧
      u.ledger.length = 6 ∧ u.dropped = [] := by
  have hwaiting : (networkSystem tightCards).GuardedRun (KeepsRoom tightCards)
      (fresh tightCards) waitingActions := by
    decide +kernel
  have hleaving : (networkSystem tightCards).GuardedRun (KeepsRoom tightCards)
      (fresh tightCards) leavingActions := by
    decide +kernel
  have hqueued : (((networkSystem tightCards).runActions (fresh tightCards) waitingActions).map
      fun s => s.queued.map LocatedPacket.device) = some [{ b5 := 2 }, { b5 := 2 }] := by
    decide +kernel
  have hledger : (((networkSystem tightCards).runActions (fresh tightCards) leavingActions).map
      fun s => s.ledger.length) = some 6 := by
    decide +kernel
  obtain ⟨s, hs, hqueued⟩ := Option.map_eq_some_iff.mp hqueued
  obtain ⟨u, hu, hledger⟩ := Option.map_eq_some_iff.mp hledger
  refine ⟨s, u, hs, hqueued, ?_, hu, hledger, ?_⟩
  · exact dropped_eq_nil_of_keepsRoom rfl (by decide) (by decide) backed_tightCards
      (.of_guardedRun (.init rfl) hwaiting hs)
  · exact dropped_eq_nil_of_keepsRoom rfl (by decide) (by decide) backed_tightCards
      (.of_guardedRun (.init rfl) hleaving hu)

end SueNetwork

end UeSim
