import UeSim.Sue.Network

/-!
# Credits taken and credits returned

A device takes the credits of a packet at the size that the packet has then, and the
next device returns credits at the size that it has when it leaves.  In between an
Ethernet or a PPP header comes or goes.  The two numbers of credits are equal exactly
when the two sizes are rounded up to the same number of credits.
-/

namespace UeSim

/-! ## Rounding -/

/-- No positive multiple of `b` is at least `x` and less than `y`. -/
def NoMultipleIn (b x y : ℕ) : Prop :=
  ∀ k, 0 < k → x ≤ k * b → y ≤ k * b

/-- Two sizes `x ≤ y` take the same credits of `b` bytes: no multiple of `b` separates
them.  From `2 ^ 32 - b` on the sum in the source wraps around, and a size takes one
credit. -/
def SameRounding (b x y : ℕ) : Prop :=
  if y + b ≤ 2 ^ 32 then NoMultipleIn b x y else x ≤ b ∨ 2 ^ 32 < x + b

theorem div_eq_iff_noMultipleIn {b x y : ℕ} (hb : 0 < b) (hle : x ≤ y) :
    (x - 1) / b = (y - 1) / b ↔ NoMultipleIn b x y := by
  constructor
  · intro heq k hk hx
    by_contra hy
    have hpos : 0 < k * b := Nat.mul_pos hk hb
    have hupper : (x - 1) / b < k := (Nat.div_lt_iff_lt_mul hb).mpr (by omega)
    have hlower : k ≤ (y - 1) / b := (Nat.le_div_iff_mul_le hb).mpr (by omega)
    omega
  · intro hnone
    by_contra hne
    have hmono : (x - 1) / b ≤ (y - 1) / b := Nat.div_le_div_right (by omega)
    have hlt : (x - 1) / b < (y - 1) / b := by omega
    have hx : x - 1 < (y - 1) / b * b := (Nat.div_lt_iff_lt_mul hb).mp hlt
    have hy : (y - 1) / b * b ≤ y - 1 := Nat.div_mul_le_self (y - 1) b
    have hle' := hnone ((y - 1) / b) (Nat.zero_lt_of_lt hlt) (by omega)
    omega

namespace SueTopology

variable {t : SueTopology} {x y : ℕ}

theorem credits_eq_max (t : SueTopology) (size : ℕ) :
    t.credits size = max (toU32 (size + t.attributes.bytesPerCredit - 1) /
      t.attributes.bytesPerCredit) 1 := rfl

/-- Without a wrap-around the credits are the size divided by the bytes per credit,
rounded up, and at least one. -/
theorem credits_of_le (hpos : 0 < t.attributes.bytesPerCredit)
    (hrange : x + t.attributes.bytesPerCredit ≤ 2 ^ 32) :
    t.credits x = (x - 1) / t.attributes.bytesPerCredit + 1 := by
  rw [credits_eq_max, toU32_of_lt (by omega)]
  by_cases hzero : x = 0
  · subst hzero
    have hsmall : (0 + t.attributes.bytesPerCredit - 1) / t.attributes.bytesPerCredit = 0 :=
      Nat.div_eq_of_lt (by omega)
    have hnone : (0 - 1) / t.attributes.bytesPerCredit = 0 := Nat.zero_div _
    rw [hsmall, hnone]
    rfl
  · have hsum : x + t.attributes.bytesPerCredit - 1 = x - 1 + t.attributes.bytesPerCredit := by
      omega
    rw [hsum, Nat.add_div_right _ hpos]
    exact Nat.max_eq_left (Nat.le_add_left 1 _)

/-- With a wrap-around there is one credit. -/
theorem credits_of_wrap (hbytes : t.attributes.bytesPerCredit < 2 ^ 32) (hx : x < 2 ^ 32)
    (hwrap : 2 ^ 32 < x + t.attributes.bytesPerCredit) : t.credits x = 1 := by
  have hsmall : toU32 (x + t.attributes.bytesPerCredit - 1) /
      t.attributes.bytesPerCredit = 0 := by
    refine Nat.div_eq_of_lt ?_
    unfold toU32
    omega
  rw [credits_eq_max, hsmall]
  rfl

theorem credits_eq_iff (hpos : 0 < t.attributes.bytesPerCredit)
    (hbytes : t.attributes.bytesPerCredit < 2 ^ 32) (hle : x ≤ y) (hy : y < 2 ^ 32) :
    t.credits x = t.credits y ↔ SameRounding t.attributes.bytesPerCredit x y := by
  unfold SameRounding
  split_ifs with hrange
  · rw [credits_of_le hpos (by omega), credits_of_le hpos hrange,
      ← div_eq_iff_noMultipleIn hpos hle]
    exact Nat.add_right_cancel_iff
  · rw [credits_of_wrap hbytes hy (by omega)]
    by_cases hx : x + t.attributes.bytesPerCredit ≤ 2 ^ 32
    · rw [credits_of_le hpos hx]
      have hdiv : (x - 1) / t.attributes.bytesPerCredit = 0 ↔
          x - 1 < t.attributes.bytesPerCredit := Nat.div_eq_zero_iff_lt hpos
      omega
    · rw [credits_of_wrap hbytes (by omega) (by omega)]
      exact iff_of_true rfl (.inr (by omega))

/-- The credits of a packet are a 32-bit number. -/
theorem credits_lt (t : SueTopology) (size : ℕ) : t.credits size < 2 ^ 32 := by
  have hdiv := Nat.div_le_self (toU32 (size + t.attributes.bytesPerCredit - 1))
    t.attributes.bytesPerCredit
  have hlt := toU32_lt (size + t.attributes.bytesPerCredit - 1)
  rw [credits_eq_max]
  omega

end SueTopology

namespace SueNetwork

variable {t : SueTopology} {s s' : SueNetwork} {w : Charge → ℕ}

/-! ## What managers spend and owe -/

/-- Spending takes the credits of a packet from one pair of the account. -/
theorem getTxCredits_spend {m : CbfcManager} {mac : Mac48Address} {vcId : UInt8} {size : ℕ}
    (hsettings : m.toCbfcSettings = t.attributes.settings)
    (henabled : t.attributes.enableLinkCBFC = true) (hallows : allows m mac vcId size = true)
    (mac' : Mac48Address) (vc : UInt8) :
    (spend m mac vcId size).getTxCredits mac' vc +
        (if mac = mac' ∧ vcId = vc then t.credits size else 0) =
      m.getTxCredits mac' vc := by
  have hon : m.enableLinkCBFC = true := by
    rw [hsettings]
    exact henabled
  have henough : m.hasEnoughCredits mac vcId size = true := by
    unfold allows at hallows
    rwa [hon] at hallows
  have hcredits : m.calculateCreditsForPacket size = t.credits size := by
    rw [hsettings]
    rfl
  obtain ⟨_, hle⟩ := CbfcManager.hasEnoughCredits_iff.mp henough
  unfold spend
  rw [if_pos hon, CbfcManager.getTxCredits_consumeDynamicCredits henough, hcredits]
  by_cases hkey : mac = mac' ∧ vcId = vc
  · obtain ⟨rfl, rfl⟩ := hkey
    rw [if_pos rfl, if_pos ⟨rfl, rfl⟩]
    omega
  · rw [if_neg hkey, if_neg fun h => hkey ⟨(congrArg Prod.fst h).symm, (congrArg Prod.snd h).symm⟩]
    omega

/-- A manager spends the credits of the size of the packet. -/
theorem spent_eq {m : CbfcManager} {mac : Mac48Address} {vcId : UInt8} {size : ℕ}
    (hsettings : m.toCbfcSettings = t.attributes.settings)
    (henabled : t.attributes.enableLinkCBFC = true) (hallows : allows m mac vcId size = true) :
    spent m mac vcId size = t.credits size := by
  have hspend := getTxCredits_spend hsettings henabled hallows mac vcId
  rw [if_pos ⟨rfl, rfl⟩] at hspend
  unfold spent
  omega

/-- A manager owes the credits of the size of the packet. -/
theorem added_entryOf {m : CbfcManager} (hsettings : m.toCbfcSettings = t.attributes.settings)
    (henabled : t.attributes.enableLinkCBFC = true) (e : CreditEvent) :
    (entryOf m e).added = t.credits e.size := by
  have hon : m.enableLinkCBFC = true := by
    rw [hsettings]
    exact henabled
  have howed : (m.handleCreditReturn e.target e.vcId e.size).getCreditsToReturn e.target e.vcId =
      _ := CbfcManager.getCreditsToReturn_handleCreditReturn e.size hon
  have hcredits : m.calculateCreditsForPacket e.size = t.credits e.size := by
    rw [hsettings]
    rfl
  have hlt := t.credits_lt e.size
  unfold entryOf
  dsimp only
  rw [howed, if_pos rfl, hcredits]
  unfold subU32 toU32
  omega

/-! ## Where charges come from -/

/-- A packet that was charged, at a size, for reaching the device it is at, by its source and for
the virtual channel that is read without its PPP header. -/
def ChargedAs (t : SueTopology) (size : ℕ) (x : LocatedPacket) : Prop :=
  x.charge = some ⟨x.packet.source, x.device, x.packet.bareVcId, size, t.credits size⟩

/-- A packet in a queue: a network card has packets of its own, not yet charged, and a switch port
has packets that were charged inside the switch, or on the link when it is its own egress. -/
def Enqueued (t : SueTopology) (x : LocatedPacket) : Prop :=
  if x.device.isSwitchDevice then
    ChargedAs t x.packet.size x ∨ ChargedAs t x.packet.wireSize x
  else
    x.packet.source = x.device ∧ x.charge = none

/-- A packet that has crossed a link. -/
def Arrived (t : SueTopology) (x : LocatedPacket) : Prop := ChargedAs t x.packet.wireSize x

/-- A packet inside a switch. -/
structure Inside (t : SueTopology) (f : Forwarding) : Prop where
  vcId : f.vcId = f.packet.bareVcId
  inbound : f.inbound =
    some ⟨f.source, f.ingress, f.vcId, f.packet.wireSize, t.credits f.packet.wireSize⟩
  internal : ChargedAs t f.packet.size (forwardedPacket f)
  egress : f.egress.isSwitchDevice = true

/-- The sizes of a packet when it was charged and when its credits are returned, and the virtual
channel of the return: at an ingress port, an egress port, a port that is both, and a network
card. -/
inductive Hop (packet : FramedPacket) : ℕ → ℕ → UInt8 → Prop
  | ingress : Hop packet packet.wireSize packet.size packet.bareVcId
  | egress : Hop packet packet.size packet.wireSize packet.wireVcId
  | ownEgress : Hop packet packet.wireSize packet.wireSize packet.wireVcId
  | card : Hop packet packet.wireSize packet.bodySize packet.bareVcId

/-- A credit return is for a control frame, or for a data packet: then it goes from the
receiver of the charge to its sender. -/
def Returned (t : SueTopology) (e : CreditEvent) : Prop :=
  e.charge = none ∨ ∃ packet size, e.packet = some packet ∧
    e.charge = some ⟨e.target, e.device, packet.bareVcId, size, t.credits size⟩ ∧
    Hop packet size e.size e.vcId

/-- A credit return that has happened added the credits of its size. -/
structure Recorded (t : SueTopology) (r : CreditEntry) : Prop where
  returned : Returned t r.toCreditEvent
  added : r.added = t.credits r.size

theorem Hop.lt {packet : FramedPacket} {x y : ℕ} {vcId : UInt8} (h : Hop packet x y vcId) :
    x < 2 ^ 32 ∧ y < 2 ^ 32 := by
  have hsmall : packet.bodySize + ethernetHeaderSize + pppHeaderSize < 2 ^ 32 := packet.small
  have hsize : packet.size = packet.bodySize + ethernetHeaderSize := rfl
  have hwire : packet.wireSize = packet.bodySize + ethernetHeaderSize + pppHeaderSize := rfl
  cases h <;> constructor <;> omega

/-- The virtual channel of the return is that of the charge unless the PPP header, with which it
is read, makes a difference. -/
theorem Hop.vcId_iff {packet : FramedPacket} {x y : ℕ} {vcId : UInt8} (h : Hop packet x y vcId) :
    packet.bareVcId = vcId ↔ (y = packet.wireSize → packet.bareVcId = packet.vcId) := by
  have hsize : packet.size = packet.bodySize + 14 := rfl
  have hwire : packet.wireSize = packet.size + 2 := rfl
  cases h with
  | ingress => exact iff_of_true rfl fun hsame => absurd hsame (by omega)
  | egress => rw [packet.wireVcId_eq, imp_iff_right rfl]
  | ownEgress => rw [packet.wireVcId_eq, imp_iff_right rfl]
  | card => exact iff_of_true rfl fun hsame => absurd hsame (by omega)

/-- Everything in a network is charged as it should be. -/
def WellCharged (t : SueTopology) (s : SueNetwork) : Prop :=
  Everywhere (Enqueued t) (Arrived t) (Inside t) (Returned t) (Recorded t) s

section Charging

variable (henabled : t.attributes.enableLinkCBFC = true) (hconfigured : s.Configured t)
include henabled hconfigured

theorem arrived_transmitted {x : LocatedPacket} (hx : Enqueued t x)
    (hallows : allows (s.managers x.device) (t.remote x.device) x.packet.bareVcId
      x.packet.wireSize = true) : Arrived t (s.transmitted t x.device x) := by
  have hspent := spent_eq (hconfigured x.device) henabled hallows
  unfold Arrived ChargedAs transmitted linkCharge
  rw [hspent]
  dsimp only
  unfold Enqueued at hx
  split_ifs at hx ⊢ with hport
  · rw [FramedPacket.bareVcId_withSource]
    rfl
  · rw [hx.1]

theorem passes_wellCharged (action : Action) :
    Passes t (Enqueued t) (Arrived t) (Inside t) (Returned t) (Recorded t) s action where
  submit := by
    intro device packet _ hcard hsource _
    unfold Enqueued
    dsimp only
    rw [hcard]
    exact ⟨hsource, rfl⟩
  transmit := by
    intro x hallows hx
    refine ⟨arrived_transmitted henabled hconfigured hx hallows, fun e he => ?_⟩
    unfold transmitEvents at he
    unfold Enqueued at hx
    split_ifs at he hx with hport
    · rw [List.mem_singleton.mp he]
      right
      rcases hx with hinside | hlink
      · exact ⟨x.packet, _, rfl, hinside, .egress⟩
      · exact ⟨x.packet, _, rfl, hlink, .ownEgress⟩
    · cases he
  ownEgress := by
    intro x _ _ hport _ hx
    unfold Enqueued
    rw [if_pos hport]
    exact .inr hx
  forward := by
    intro egress x hport htable _ hallows hx
    have hspent := spent_eq (hconfigured x.device) henabled hallows
    refine ⟨(x.packet.bareVcId_withSource x.device).symm, hx, ?_, ?_⟩
    · unfold ChargedAs forwardedPacket forwardingOf portCharge
      dsimp only
      rw [hspent, FramedPacket.bareVcId_withSource]
      rfl
    · exact (t.ports_switch x.device egress hport (t.forwardingTable_mem _ _ _ htable)).1
  consume := fun x _ hx => .inr ⟨x.packet, _, rfl, hx, .card⟩
  complete := by
    intro f hf
    constructor
    · have hport : (forwardedPacket f).device.isSwitchDevice = true := hf.egress
      unfold Enqueued
      rw [if_pos hport]
      exact .inl hf.internal
    · refine .inr ⟨f.packet, f.packet.wireSize, rfl, ?_, ?_⟩
      · rw [← hf.vcId]
        exact hf.inbound
      · have hhop : Hop f.packet f.packet.wireSize f.packet.size f.packet.bareVcId := .ingress
        rwa [← hf.vcId] at hhop
  control := fun _ _ _ _ => .inl rfl
  settle := fun e he => ⟨he, added_entryOf (hconfigured e.device) henabled e⟩

end Charging

theorem wellCharged_of_reachable (henabled : t.attributes.enableLinkCBFC = true)
    (hreach : (networkSystem t).Reachable s) : s.WellCharged t := by
  have hboth : s.Configured t ∧ s.WellCharged t := by
    refine hreach.invariant
      (P := fun s => s.Configured t ∧ s.WellCharged t) ?_ ?_
    · intro s hinit
      rw [hinit]
      exact ⟨configured_fresh, everywhere_fresh⟩
    · exact fun s action s' h _ hstep =>
        ⟨configured_step h.1 hstep, h.2.step (passes_wellCharged henabled h.1 action) hstep⟩
  exact hboth.2

/-! ## Where charges go -/

/-- The charges of the packets in a network and of the credit returns that are pending. -/
def held (s : SueNetwork) : List Charge :=
  s.queued.filterMap LocatedPacket.charge ++ s.wire.filterMap LocatedPacket.charge ++
    s.processing.filterMap LocatedPacket.charge ++
    s.forwarding.flatMap (fun f => f.inbound.toList ++ f.internal.toList) ++
    s.events.filterMap CreditEvent.charge

/-- The charges for which credits have been returned, one for each return. -/
def returned (s : SueNetwork) : List Charge :=
  s.ledger.filterMap fun r => r.charge

/-- The charges of the packets that have been dropped. -/
def lost (s : SueNetwork) : List Charge :=
  s.dropped.filterMap LocatedPacket.charge

/-- The weight of a charge, if there is one. -/
def chargeWeight (w : Charge → ℕ) (charge : Option Charge) : ℕ := charge.elim 0 w

theorem weight_held (w : Charge → ℕ) (s : SueNetwork) :
    WeightedList.weight w s.held =
      WeightedList.weight (fun x => chargeWeight w x.charge) s.queued +
      WeightedList.weight (fun x => chargeWeight w x.charge) s.wire +
      WeightedList.weight (fun x => chargeWeight w x.charge) s.processing +
      WeightedList.weight (fun f => chargeWeight w f.inbound + chargeWeight w f.internal)
        s.forwarding +
      WeightedList.weight (fun e => chargeWeight w e.charge) s.events := by
  unfold held chargeWeight
  simp only [WeightedList.weight_append, WeightedList.weight_filterMap,
    WeightedList.weight_flatMap, WeightedList.weight_toList]

theorem weight_returned (w : Charge → ℕ) (s : SueNetwork) :
    WeightedList.weight w s.returned =
      WeightedList.weight (fun r => chargeWeight w r.charge) s.ledger :=
  WeightedList.weight_filterMap _ _

theorem weight_lost (w : Charge → ℕ) (s : SueNetwork) :
    WeightedList.weight w s.lost =
      WeightedList.weight (fun x => chargeWeight w x.charge) s.dropped :=
  WeightedList.weight_filterMap _ _

/-- Every charge is with its packet or its credit return, has been returned, or was lost with
its packet. -/
def Accounted (s : SueNetwork) : Prop :=
  ∀ w : Charge → ℕ, WeightedList.weight w s.charged =
    WeightedList.weight w s.held + WeightedList.weight w s.returned + WeightedList.weight w s.lost

/-- A packet that is to be queued keeps its charge in the queue, or loses it; a network card has
no charges to lose. -/
theorem weight_enqueue (w : Charge → ℕ) {x : LocatedPacket}
    (hcard : x.device.isSwitchDevice = false → x.charge = none) :
    WeightedList.weight w (s.enqueueToVcQueue t x).held +
        WeightedList.weight w (s.enqueueToVcQueue t x).lost =
      WeightedList.weight w s.held + WeightedList.weight w s.lost + chargeWeight w x.charge := by
  rw [weight_held, weight_held, weight_lost, weight_lost]
  unfold enqueueToVcQueue
  dsimp only
  cases htakes : s.vcQueueTakes t x with
  | true =>
      simp only [if_true, Bool.not_true, Bool.false_and, Bool.false_eq_true, if_false,
        WeightedList.weight_append, WeightedList.weight_singleton]
      omega
  | false =>
      cases hport : x.device.isSwitchDevice with
      | true =>
          simp only [Bool.false_eq_true, if_false, Bool.not_false, Bool.and_self, if_true,
            WeightedList.weight_append, WeightedList.weight_singleton]
          omega
      | false =>
          rw [hcard hport]
          simp only [Bool.false_eq_true, if_false, Bool.and_false]
          rfl

/-- The first packet of a processing queue leaves with its charge. -/
theorem weight_popProcessing (w : Charge → ℕ) {x : LocatedPacket}
    (hfirst : s.processing.find? (fun y => y.device = x.device) = some x) :
    WeightedList.weight w s.held =
      WeightedList.weight w (s.popProcessing x.device).held + chargeWeight w x.charge := by
  have hpop := WeightedList.weight_eraseP (w := fun y => chargeWeight w y.charge) hfirst
  rw [weight_held, weight_held]
  unfold popProcessing
  dsimp only
  omega

/-- A packet leaves the wire with its charge. -/
theorem weight_popWire (w : Charge → ℕ) {i : ℕ} {x : LocatedPacket}
    (hwire : s.wire[i]? = some x) :
    WeightedList.weight w s.held =
      WeightedList.weight w (held { s with wire := s.wire.eraseIdx i }) +
        chargeWeight w x.charge := by
  have hpop := WeightedList.weight_eraseIdx (w := fun y => chargeWeight w y.charge) hwire
  rw [weight_held, weight_held]
  dsimp only
  omega

/-- A pending credit return leaves with its charge. -/
theorem weight_popEvent (w : Charge → ℕ) {i : ℕ} {e : CreditEvent}
    (hevent : s.events[i]? = some e) :
    WeightedList.weight w s.held =
      WeightedList.weight w (held { s with events := s.events.eraseIdx i }) +
        chargeWeight w e.charge := by
  have hpop := WeightedList.weight_eraseIdx (w := fun e => chargeWeight w e.charge) hevent
  rw [weight_held, weight_held]
  dsimp only
  omega

/-- A packet that has crossed a link keeps its charge in the processing queue, or loses it. -/
theorem weight_enqueueToProcessingQueue (w : Charge → ℕ) (x : LocatedPacket) :
    WeightedList.weight w (s.enqueueToProcessingQueue t x).held +
        WeightedList.weight w (s.enqueueToProcessingQueue t x).lost =
      WeightedList.weight w s.held + WeightedList.weight w s.lost + chargeWeight w x.charge := by
  rw [weight_held, weight_held, weight_lost, weight_lost]
  unfold enqueueToProcessingQueue
  split_ifs <;> dsimp only <;>
    rw [WeightedList.weight_append, WeightedList.weight_singleton] <;> omega

/-- A credit return moves its charge to those that have been returned. -/
theorem weight_settle (w : Charge → ℕ) (e : CreditEvent) :
    WeightedList.weight w (s.settle e).returned =
      WeightedList.weight w s.returned + chargeWeight w e.charge := by
  rw [weight_returned, weight_returned]
  unfold settle
  dsimp only
  rw [WeightedList.weight_append, WeightedList.weight_singleton]
  rfl

/-- A packet that is transmitted takes its new charge with it and leaves its old one to the credit
return. -/
theorem weight_transmit (w : Charge → ℕ) {x : LocatedPacket}
    (hcharge : x.device.isSwitchDevice = false → x.charge = none)
    (hfirst : s.queued.find? (inVcQueue x.device x.packet.bareVcId) = some x) :
    WeightedList.weight w (s.transmit t x.device x).held =
      WeightedList.weight w s.held + w (s.linkCharge t x.device x) := by
  have hpop := WeightedList.weight_eraseP (w := fun y => chargeWeight w y.charge) hfirst
  have hnew : chargeWeight w (s.transmitted t x.device x).charge = w (s.linkCharge t x.device x) :=
    rfl
  have hold : WeightedList.weight (fun e => chargeWeight w e.charge) (transmitEvents x.device x) =
      chargeWeight w x.charge := by
    unfold transmitEvents
    split_ifs with hport
    · rw [WeightedList.weight_singleton]
    · rw [hcharge (Bool.eq_false_iff.mpr hport)]
      rfl
  rw [weight_held, weight_held]
  unfold transmit
  dsimp only
  rw [WeightedList.weight_append, WeightedList.weight_singleton, WeightedList.weight_append, hnew,
    hold]
  omega

/-- A packet inside a switch has the charge of its link and the one for going on. -/
theorem weight_startForwarding (w : Charge → ℕ) {egress : Mac48Address} {x : LocatedPacket}
    (hfirst : s.processing.find? (fun y => y.device = x.device) = some x) :
    WeightedList.weight w (s.startForwarding egress x).held =
      WeightedList.weight w s.held + w (s.portCharge egress x) := by
  have hpop := WeightedList.weight_eraseP (w := fun y => chargeWeight w y.charge) hfirst
  have hnew : chargeWeight w (s.forwardingOf egress x).inbound +
      chargeWeight w (s.forwardingOf egress x).internal =
      chargeWeight w x.charge + w (s.portCharge egress x) := rfl
  rw [weight_held, weight_held]
  unfold startForwarding popProcessing
  dsimp only
  rw [WeightedList.weight_append, WeightedList.weight_singleton, hnew]
  omega

/-- A step accounts for every charge. -/
theorem Accounted.step (h : s.Accounted) (henabled : t.attributes.enableLinkCBFC = true)
    (hconfigured : s.Configured t) (hcharged : s.WellCharged t) {action : Action}
    (hstep : (networkSystem t).step s action = some s') : s'.Accounted := by
  intro w
  have hbefore := h w
  cases step_cases hstep with
  | refuse device packet => exact hbefore
  | submit device packet hcard hsource =>
      have hqueued := weight_enqueue (t := t) (s := s) w
        (x := { device := device, packet := packet }) fun _ => rfl
      change WeightedList.weight w s.charged = _ + WeightedList.weight w s.returned + _
      change _ = _ + 0 at hqueued
      omega
  | transmit device x hfirst hdevice hallows =>
      subst hdevice
      have hplace := hcharged.queued x (List.mem_of_find?_eq_some hfirst)
      have hcard : x.device.isSwitchDevice = false → x.charge = none := by
        intro hport
        unfold Enqueued at hplace
        rw [hport] at hplace
        exact hplace.2
      have hheld := weight_transmit (t := t) w hcard hfirst
      change WeightedList.weight w (s.charged ++ [s.linkCharge t x.device x]) =
        _ + WeightedList.weight w s.returned + WeightedList.weight w s.lost
      rw [WeightedList.weight_append, WeightedList.weight_singleton]
      omega
  | receive i x hwire =>
      have hleft := weight_popWire w hwire
      have hkept := weight_enqueueToProcessingQueue (t := t)
        (s := { s with wire := s.wire.eraseIdx i }) w x
      have hsame : ∀ u : SueNetwork, (u.enqueueToProcessingQueue t x).charged = u.charged ∧
          (u.enqueueToProcessingQueue t x).returned = u.returned := by
        intro u
        unfold enqueueToProcessingQueue
        split_ifs <;> exact ⟨rfl, rfl⟩
      rw [(hsame _).1, (hsame _).2]
      change WeightedList.weight w s.charged = _ + WeightedList.weight w s.returned + _
      change _ = _ + WeightedList.weight w s.lost + _ at hkept
      omega
  | ownEgress x hfirst hport htable =>
      have hpop := weight_popProcessing w hfirst
      have hqueued := weight_enqueue (t := t) (s := s.popProcessing x.device) (x := x) w
        fun hcard => absurd hport (Bool.eq_false_iff.mp hcard)
      change WeightedList.weight w s.charged = _ + WeightedList.weight w s.returned + _
      change _ = _ + WeightedList.weight w s.lost + _ at hqueued
      omega
  | forward egress x hfirst hport htable hother hallows =>
      have hheld : WeightedList.weight w (s.startForwarding egress x).held = _ :=
        weight_startForwarding w hfirst
      change WeightedList.weight w (s.charged ++ [s.portCharge egress x]) =
        _ + WeightedList.weight w s.returned + WeightedList.weight w s.lost
      rw [WeightedList.weight_append, WeightedList.weight_singleton]
      omega
  | consume x hfirst hcard =>
      have hpop := weight_popProcessing w hfirst
      have hsettled := weight_settle (s := s.popProcessing x.device) w (consumedEvent x)
      change WeightedList.weight w s.charged =
        WeightedList.weight w (s.popProcessing x.device).held + _ + WeightedList.weight w s.lost
      change _ = WeightedList.weight w s.returned + chargeWeight w x.charge at hsettled
      omega
  | forwardingComplete i f hpending =>
      have hcard : (forwardedPacket f).device.isSwitchDevice = false →
          (forwardedPacket f).charge = none := by
        have hport : (forwardedPacket f).device.isSwitchDevice = true :=
          (hcharged.forwarding f (List.mem_of_getElem? hpending)).egress
        exact fun hcard => absurd hport (Bool.eq_false_iff.mp hcard)
      have hqueued := weight_enqueue (t := t) (s := s) w hcard
      have hleft := WeightedList.weight_eraseIdx
        (w := fun f => chargeWeight w f.inbound + chargeWeight w f.internal) hpending
      have hinternal : (forwardedPacket f).charge = f.internal := rfl
      have hinbound : (forwardedEvent f).charge = f.inbound := rfl
      have hon : (s.managers f.ingress).enableLinkCBFC = true := by
        rw [hconfigured f.ingress]
        exact henabled
      have hforwarding : (s.enqueueToVcQueue t (forwardedPacket f)).forwarding = s.forwarding :=
        rfl
      have hevents : (s.enqueueToVcQueue t (forwardedPacket f)).events = s.events := rfl
      change WeightedList.weight w s.charged = WeightedList.weight w
        (s.forwardingComplete t f i).held + WeightedList.weight w s.returned +
          WeightedList.weight w (s.enqueueToVcQueue t (forwardedPacket f)).lost
      rw [weight_held w (s.enqueueToVcQueue t _), hinternal, hforwarding, hevents] at hqueued
      rw [weight_held]
      unfold forwardingComplete
      dsimp only
      rw [if_pos hon, WeightedList.weight_append, WeightedList.weight_singleton, hinbound]
      omega
  | creditEvent i event hevent =>
      have hleft := weight_popEvent w hevent
      have hsettled := weight_settle (s := { s with events := s.events.eraseIdx i }) w event
      change WeightedList.weight w s.charged =
        WeightedList.weight w (held { s with events := s.events.eraseIdx i }) + _ +
          WeightedList.weight w s.lost
      change _ = WeightedList.weight w s.returned + _ at hsettled
      omega
  | creditArrives i frame hframe => exact hbefore
  | control device target vcId hllr hport =>
      change WeightedList.weight w s.charged = _ + WeightedList.weight w s.returned +
        WeightedList.weight w s.lost
      rw [weight_held] at hbefore
      rw [weight_held]
      dsimp only
      rw [WeightedList.weight_append, WeightedList.weight_singleton]
      change WeightedList.weight w s.charged = _ + (_ + 0) + _ + _
      omega

theorem accounted_fresh : (fresh t).Accounted :=
  fun _ => rfl

theorem accounted_of_reachable (henabled : t.attributes.enableLinkCBFC = true)
    (hreach : (networkSystem t).Reachable s) : s.Accounted := by
  refine (hreach.invariant
    (P := fun s => s.Configured t ∧ s.WellCharged t ∧ s.Accounted) ?_ ?_).2.2
  · intro s hinit
    rw [hinit]
    exact ⟨configured_fresh, everywhere_fresh, accounted_fresh⟩
  · intro s action s' h hreach hstep
    exact ⟨configured_step h.1 hstep, h.2.1.step (passes_wellCharged henabled h.1 action) hstep,
      h.2.2.step henabled h.1 h.2.1 hstep⟩

/-! ## What is returned -/

/-- A credit return that matches a charge: the device that returns received the packet
from the one it returns to, on the same virtual channel, and what it owes has gone up by the
number of credits that were taken. -/
def Matches (r : CreditEntry) : Prop :=
  ∃ charge, r.charge = some charge ∧ charge.sender = r.target ∧ charge.receiver = r.device ∧
    charge.vcId = r.vcId ∧ charge.credits = r.added

/-- Credits are returned as they are taken: every return matches a charge, and every charge is
still with its packet or its pending return, or has been returned once. -/
structure Balanced (s : SueNetwork) : Prop where
  entry : ∀ r ∈ s.ledger, Matches r
  charged : s.charged.Perm (s.held ++ s.returned)

/-- A credit return for a data packet whose two sizes are rounded alike.  If the packet has its
PPP header then, its virtual channel was read right without it. -/
def RoundsAlike (t : SueTopology) (r : CreditEntry) : Prop :=
  ∃ charge packet, r.charge = some charge ∧ r.packet = some packet ∧
    SameRounding t.attributes.bytesPerCredit (min charge.size r.size) (max charge.size r.size) ∧
    (r.size = packet.wireSize → packet.bareVcId = packet.vcId)

/-- The credits of two sizes, in either order. -/
theorem credits_eq_iff_minMax {x y : ℕ} (hpos : 0 < t.attributes.bytesPerCredit)
    (hbytes : t.attributes.bytesPerCredit < 2 ^ 32) (hx : x < 2 ^ 32) (hy : y < 2 ^ 32) :
    t.credits x = t.credits y ↔
      SameRounding t.attributes.bytesPerCredit (min x y) (max x y) := by
  rcases Nat.le_total x y with hle | hle
  · rw [Nat.min_eq_left hle, Nat.max_eq_right hle]
    exact SueTopology.credits_eq_iff hpos hbytes hle hy
  · rw [Nat.min_eq_right hle, Nat.max_eq_left hle, ← SueTopology.credits_eq_iff hpos hbytes hle hx]
    exact eq_comm

theorem Recorded.matches_iff {r : CreditEntry} (hrecorded : Recorded t r)
    (hpos : 0 < t.attributes.bytesPerCredit) (hbytes : t.attributes.bytesPerCredit < 2 ^ 32) :
    Matches r ↔ RoundsAlike t r := by
  rcases hrecorded.returned with hnone | ⟨packet, size, hpacket, hcharge, hhop⟩
  · refine iff_of_false ?_ ?_
    · rintro ⟨charge, hsome, _⟩
      cases hnone.symm.trans hsome
    · rintro ⟨charge, packet, hsome, _⟩
      cases hnone.symm.trans hsome
  · obtain ⟨hsize, hreturn⟩ := hhop.lt
    have hcredits := credits_eq_iff_minMax hpos hbytes hsize hreturn
    constructor
    · rintro ⟨charge, hsome, _, _, hvc, heq⟩
      cases hcharge.symm.trans hsome
      rw [hrecorded.added] at heq
      exact ⟨_, packet, hcharge, hpacket, hcredits.mp heq, hhop.vcId_iff.mp hvc⟩
    · rintro ⟨charge, packet', hsome, hsame, hrounds, hread⟩
      cases hcharge.symm.trans hsome
      cases hpacket.symm.trans hsame
      refine ⟨_, hcharge, rfl, rfl, hhop.vcId_iff.mpr hread, ?_⟩
      rw [hrecorded.added]
      exact hcredits.mpr hrounds

/-- Nothing is lost when the charges are those that are held or have been returned. -/
theorem Accounted.lost_eq_nil_iff (h : s.Accounted) :
    s.charged.Perm (s.held ++ s.returned) ↔ s.lost = [] := by
  have hperm : s.charged.Perm (s.held ++ s.returned ++ s.lost) := by
    refine WeightedList.perm_of_weight fun w => ?_
    rw [WeightedList.weight_append, WeightedList.weight_append]
    exact h w
  constructor
  · intro hbalanced
    have hlength : (s.held ++ s.returned).length = (s.held ++ s.returned ++ s.lost).length :=
      (hbalanced.symm.trans hperm).length_eq
    have hsplit : (s.held ++ s.returned ++ s.lost).length =
      (s.held ++ s.returned).length + s.lost.length := List.length_append
    exact List.length_eq_zero_iff.mp (by omega)
  · intro hlost
    rwa [hlost, List.append_nil] at hperm

/-- The default attributes with the control on. -/
def defaultCards : SueTopology :=
  twoCards { enableLinkCBFC := true } (2 * 1024 * 1024) (2 * 1024 * 1024)

/-- A packet whose Ethernet frame takes one credit of 256 bytes, and whose PPP header
takes another. -/
def fullCreditPacket : FramedPacket where
  source := { b5 := 1 }
  destination := { b5 := 3 }
  vcId := 0
  contents := { SueFrame.transaction with payload := List.replicate 206 0 }
  vcId_lt := by decide
  small := by
    rw [DataContents.length_bytes, List.length_replicate]
    decide

/-- The packet reaches the switch and is forwarded, and its credits are returned. -/
def fullCreditActions : List Action :=
  [.submit { b5 := 1 } fullCreditPacket, .transmit { b5 := 1 } 0, .receive 0,
    .process { b5 := 0 }, .forwardingComplete 0, .creditEvent 0]

/-- A short packet between the network cards, on the first or the second virtual channel. -/
def shortPacket (second : Bool) : FramedPacket where
  source := { b5 := 1 }
  destination := { b5 := 3 }
  vcId := if second then 1 else 0
  contents := SueFrame.transaction
  vcId_lt := by cases second <;> decide
  small := by
    rw [DataContents.length_bytes]
    decide

/-- Two packets on different virtual channels cross the switch, and the credits of all their hops
are returned. -/
def shortActions : List Action :=
  [.submit { b5 := 1 } (shortPacket false), .submit { b5 := 1 } (shortPacket true),
    .transmit { b5 := 1 } 0, .transmit { b5 := 1 } 1, .receive 1, .receive 0,
    .process { b5 := 0 }, .forwardingComplete 0, .process { b5 := 0 }, .forwardingComplete 0,
    .creditEvent 1, .creditEvent 0, .transmit { b5 := 2 } 0, .transmit { b5 := 2 } 1,
    .creditEvent 0, .creditEvent 0, .receive 0, .receive 0, .process { b5 := 3 },
    .process { b5 := 3 }]

/-- Whether a credit return is for a data packet that takes one credit at both sizes, and whose
virtual channel is read right. -/
def takesOneCredit (t : SueTopology) (r : CreditEntry) : Bool :=
  match r.charge, r.packet with
  | some charge, some packet =>
      charge.size ≤ t.attributes.bytesPerCredit && r.size ≤ t.attributes.bytesPerCredit &&
        packet.bareVcId = packet.vcId
  | _, _ => false

theorem roundsAlike_of_takesOneCredit {r : CreditEntry} (hr : takesOneCredit t r = true) :
    RoundsAlike t r := by
  unfold takesOneCredit at hr
  split at hr
  case h_1 charge packet hcharge hpacket =>
    simp only [Bool.and_eq_true, decide_eq_true_eq] at hr
    obtain ⟨⟨hcharged, hreturned⟩, hvc⟩ := hr
    refine ⟨charge, packet, hcharge, hpacket, ?_, fun _ => hvc⟩
    unfold SameRounding
    split_ifs
    · intro k hk _
      exact (max_le hcharged hreturned).trans (Nat.le_mul_of_pos_left _ hk)
    · exact .inl ((min_le_left _ _).trans hcharged)
  case h_2 => cases hr

end SueNetwork

end UeSim
