import UeSim.Sue.CbfcManager
import UeSim.Support.Transition
import UeSim.Support.WeightedList

/-!
# Credits in credit updates

A manager collects the credits that it owes and hands them to its peers in credit
updates.  The owed count and the transmit credits of a peer are 32 bits wide and the
field of the update eight, so that a batch of 256 credits or more does not fit.  What
was lost is never made up for.
-/

namespace UeSim

/-- A manager, the managers of its peers and the credit updates between them.  `gained`
holds by how much the transmit credits of each peer have changed when credit updates
arrived, and the log `handed` the credits that were handed to `HandleCreditReturn`. -/
structure CreditMessages where
  manager : CbfcManager
  localMac : Mac48Address
  peers : Mac48Address → CbfcManager
  inFlight : List CreditFrame := []
  gained : CreditKey → ℤ := fun _ => 0
  handed : List (CreditKey × ℕ) := []

namespace CreditMessages

variable {s s' : CreditMessages} {key : CreditKey}

/-- A call on the manager, the arrival of a credit update at its peer, or a packet for
which a peer spends credits. -/
inductive Call
  | handleCreditReturn (source : Mac48Address) (vcId : UInt8) (packetSize : ℕ)
  | creditReturn (targetMac : Mac48Address) (vcId : UInt8)
  | receive (i : ℕ)
  | spend (peerMac : Mac48Address) (vcId : UInt8) (packetSize : ℕ)

/-- The pair that a credit update is for, and its credits. -/
def entry (frame : CreditFrame) : Option (CreditKey × ℕ) :=
  (SueCbfcHeader.deserialize frame.header).map fun header =>
    ((frame.destination, header.vcId), header.getCredits)

/-- The credits that a call of `HandleCreditReturn` is for: none while the control is
off. -/
def handedBy (m : CbfcManager) (source : Mac48Address) (vcId : UInt8) (packetSize : ℕ) :
    List (CreditKey × ℕ) :=
  if m.enableLinkCBFC then
    [((source, vcId), m.calculateCreditsForPacket packetSize)]
  else
    []

/-- The state after `HandleCreditReturn`. -/
def handlePacket (s : CreditMessages) (source : Mac48Address) (vcId : UInt8) (packetSize : ℕ) :
    CreditMessages :=
  { s with
    manager := s.manager.handleCreditReturn source vcId packetSize
    handed := s.handed ++ handedBy s.manager source vcId packetSize }

/-- The state after `CreditReturn`. -/
def returnCredits (s : CreditMessages) (targetMac : Mac48Address) (vcId : UInt8) : CreditMessages :=
  { s with
    manager := (s.manager.creditReturn s.localMac targetMac vcId).1
    inFlight := s.inFlight ++ (s.manager.creditReturn s.localMac targetMac vcId).2 }

/-- The transmit credits of a peer towards the device of the manager. -/
def peerCredits (s : CreditMessages) (key : CreditKey) : ℕ :=
  (s.peers key.1).getTxCredits s.localMac key.2

/-- The state after the manager of one peer has changed. -/
def withPeer (s : CreditMessages) (peerMac : Mac48Address) (peer : CbfcManager) :
    CreditMessages :=
  { s with peers := Function.update s.peers peerMac peer }

/-- The peers after a credit update has arrived. -/
def delivered (s : CreditMessages) (frame : CreditFrame) : CreditMessages :=
  s.withPeer frame.destination ((s.peers frame.destination).receiveCreditUpdate frame)

/-- The state after a credit update has arrived. -/
def arrive (s : CreditMessages) (frame : CreditFrame) (i : ℕ) : CreditMessages :=
  { s.delivered frame with
    inFlight := s.inFlight.eraseIdx i
    gained := fun key => s.gained key + ((s.delivered frame).peerCredits key - s.peerCredits key) }

/-- The state after a peer has consumed the credits of a packet. -/
def spendCredits (s : CreditMessages) (peerMac : Mac48Address) (vcId : UInt8)
    (packetSize : ℕ) : CreditMessages :=
  s.withPeer peerMac ((s.peers peerMac).consumeDynamicCredits s.localMac vcId packetSize)

/-- The system of a manager and its peers, from any manager that owes nothing.  A
packet cannot be handled while the bytes per credit of its device are zero. -/
def messageSystem : TransitionSystem CreditMessages Call where
  init s := (∀ mac vcId, s.manager.getCreditsToReturn mac vcId = 0) ∧
    s = { manager := s.manager, localMac := s.localMac, peers := s.peers }
  step s
    | .handleCreditReturn source vcId packetSize =>
        if s.manager.bytesPerCredit = 0 then none else some (s.handlePacket source vcId packetSize)
    | .creditReturn targetMac vcId => some (s.returnCredits targetMac vcId)
    | .receive i => s.inFlight[i]?.map fun frame => s.arrive frame i
    | .spend peerMac vcId packetSize =>
        if (s.peers peerMac).bytesPerCredit = 0 then none
        else some (s.spendCredits peerMac vcId packetSize)

/-! ## The account of a pair -/

/-- The credits of one pair in a log. -/
def creditsFor (key : CreditKey) (log : List (CreditKey × ℕ)) : ℕ :=
  WeightedList.weight (fun e => if e.1 = key then e.2 else 0) log

/-- The credits of one pair that the peer has gained, are on the way or are still owed. -/
def accounted (s : CreditMessages) (key : CreditKey) : ℤ :=
  s.gained key + creditsFor key (s.inFlight.filterMap entry) +
    s.manager.getCreditsToReturn key.1 key.2

/-- Every credit handed to the manager was added to those of the peer, is on the way or
is still owed. -/
def Conserves (s : CreditMessages) : Prop :=
  ∀ key, s.accounted key = creditsFor key s.handed

/-- A call that loses no credit: the owed count and the transmit credits of a peer do not
pass their 32 bits, and a batch that is sent fits into a byte. -/
def CarriesAll (s : CreditMessages) : Call → Prop
  | .handleCreditReturn source vcId packetSize =>
      s.manager.enableLinkCBFC = true → s.manager.getCreditsToReturn source vcId +
        s.manager.calculateCreditsForPacket packetSize < 2 ^ 32
  | .creditReturn targetMac vcId =>
      s.manager.returnsCredits targetMac vcId = true →
        s.manager.getCreditsToReturn targetMac vcId < 256
  | .receive i => ∀ frame ∈ s.inFlight[i]?, 0 < frame.credits → ∀ vcId ∈ frame.vcId,
      s.peerCredits (frame.destination, vcId) + frame.credits < 2 ^ 32
  | .spend _ _ _ => True

instance (s : CreditMessages) : ∀ call, Decidable (s.CarriesAll call)
  | .handleCreditReturn _ _ _ => inferInstanceAs (Decidable (_ → _))
  | .creditReturn _ _ => inferInstanceAs (Decidable (_ → _))
  | .receive i => inferInstanceAs (Decidable (∀ frame ∈ s.inFlight[i]?, _))
  | .spend _ _ _ => inferInstanceAs (Decidable True)

@[simp] theorem creditsFor_append (log log' : List (CreditKey × ℕ)) :
    creditsFor key (log ++ log') = creditsFor key log + creditsFor key log' :=
  WeightedList.weight_append log log'

theorem creditsFor_singleton (key' : CreditKey) (credits : ℕ) :
    creditsFor key [(key', credits)] = if key' = key then credits else 0 :=
  WeightedList.weight_singleton (key', credits)

/-- Taking one credit update off the way. -/
theorem creditsFor_eraseIdx (key : CreditKey) {i : ℕ} {frame : CreditFrame}
    {frames : List CreditFrame} (hframe : frames[i]? = some frame) :
    creditsFor key (frames.filterMap entry) =
      creditsFor key (entry frame).toList +
        creditsFor key ((frames.eraseIdx i).filterMap entry) := by
  unfold creditsFor
  rw [WeightedList.weight_filterMap, WeightedList.weight_filterMap,
    WeightedList.weight_eraseIdx hframe]
  cases entry frame <;> simp

/-! ## What one call loses -/

/-- The credits of a pair that the count of its peer has no room for when a credit update
arrives. -/
def lossAt (s : CreditMessages) (key : CreditKey) (frame : CreditFrame) : ℕ :=
  if 0 < frame.credits ∧ frame.vcId.map (Prod.mk frame.destination) = some key then
    s.peerCredits key + frame.credits - toU32 (s.peerCredits key + frame.credits)
  else 0

/-- The credits of a pair that a call loses: those that the owed count, the byte of a
credit update or the count of a peer has no room for. -/
def lossOf (s : CreditMessages) (key : CreditKey) : Call → ℕ
  | .handleCreditReturn source vcId packetSize =>
      if s.manager.enableLinkCBFC = true ∧ (source, vcId) = key then
        s.manager.getCreditsToReturn source vcId +
            s.manager.calculateCreditsForPacket packetSize -
          toU32 (s.manager.getCreditsToReturn source vcId +
            s.manager.calculateCreditsForPacket packetSize)
      else 0
  | .creditReturn targetMac vcId =>
      if s.manager.returnsCredits targetMac vcId = true ∧ (targetMac, vcId) = key then
        s.manager.getCreditsToReturn targetMac vcId -
          s.manager.getCreditsToReturn targetMac vcId % 256
      else 0
  | .receive i => s.inFlight[i]?.elim 0 (s.lossAt key)
  | .spend _ _ _ => 0

/-- A call loses nothing exactly when there is room for its credits. -/
theorem carriesAll_iff {call : Call} : s.CarriesAll call ↔ ∀ key, s.lossOf key call = 0 := by
  cases call with
  | handleCreditReturn source vcId packetSize =>
      constructor
      · intro hcarries key
        unfold lossOf
        dsimp only
        split_ifs with hcase
        · rw [toU32_of_lt (hcarries hcase.1), Nat.sub_self]
        · rfl
      · intro hloss henabled
        have hzero := hloss (source, vcId)
        unfold lossOf at hzero
        dsimp only at hzero
        rw [if_pos ⟨henabled, rfl⟩] at hzero
        have hlt := toU32_lt (s.manager.getCreditsToReturn source vcId +
          s.manager.calculateCreditsForPacket packetSize)
        omega
  | creditReturn targetMac vcId =>
      constructor
      · intro hcarries key
        unfold lossOf
        dsimp only
        split_ifs with hcase
        · rw [Nat.mod_eq_of_lt (hcarries hcase.1), Nat.sub_self]
        · rfl
      · intro hloss hreturns
        have hzero := hloss (targetMac, vcId)
        unfold lossOf at hzero
        dsimp only at hzero
        rw [if_pos ⟨hreturns, rfl⟩] at hzero
        omega
  | receive i =>
      unfold CarriesAll lossOf
      dsimp only
      cases s.inFlight[i]? with
      | none => exact iff_of_true (fun frame hframe => by cases hframe) fun _ => rfl
      | some frame =>
          constructor
          · intro hcarries key
            change s.lossAt key frame = 0
            unfold lossAt
            split_ifs with hcase
            · obtain ⟨hpos, hkey⟩ := hcase
              obtain ⟨vcId, hvc, rfl⟩ := Option.map_eq_some_iff.mp hkey
              rw [toU32_of_lt (hcarries frame rfl hpos vcId hvc), Nat.sub_self]
            · rfl
          · rintro hloss _ ⟨⟩ hpos vcId hvc
            have hzero : s.lossAt (frame.destination, vcId) frame = 0 :=
              hloss (frame.destination, vcId)
            unfold lossAt at hzero
            rw [if_pos ⟨hpos, Option.map_eq_some_iff.mpr ⟨vcId, hvc, rfl⟩⟩] at hzero
            have hlt := toU32_lt (s.peerCredits (frame.destination, vcId) + frame.credits)
            omega
  | spend peerMac vcId packetSize => exact iff_of_true trivial fun _ => rfl

theorem accounted_handlePacket (source : Mac48Address) (vcId : UInt8) (packetSize : ℕ) :
    (s.handlePacket source vcId packetSize).accounted key +
        s.lossOf key (.handleCreditReturn source vcId packetSize) +
        creditsFor key s.handed =
      s.accounted key + creditsFor key (s.handlePacket source vcId packetSize).handed := by
  obtain ⟨mac, vc⟩ := key
  unfold handlePacket accounted lossOf handedBy
  dsimp only
  by_cases henabled : s.manager.enableLinkCBFC = true
  · have hle := Nat.mod_le (s.manager.getCreditsToReturn source vcId +
      s.manager.calculateCreditsForPacket packetSize) (2 ^ 32)
    rw [CbfcManager.getCreditsToReturn_handleCreditReturn packetSize henabled,
      if_pos henabled, creditsFor_append, creditsFor_singleton]
    by_cases hkey : (source, vcId) = (mac, vc)
    · cases hkey
      rw [if_pos rfl, if_pos ⟨henabled, rfl⟩, if_pos rfl]
      unfold toU32
      omega
    · rw [if_neg fun h => hkey h.symm, if_neg fun h => hkey h.2, if_neg hkey]
      omega
  · rw [if_neg fun h => henabled h.1, if_neg henabled, List.append_nil]
    unfold CbfcManager.handleCreditReturn
    rw [if_neg henabled]
    omega

theorem accounted_returnCredits (targetMac : Mac48Address) (vcId : UInt8) :
    (s.returnCredits targetMac vcId).accounted key +
        s.lossOf key (.creditReturn targetMac vcId) + creditsFor key s.handed =
      s.accounted key + creditsFor key (s.returnCredits targetMac vcId).handed := by
  obtain ⟨mac, vc⟩ := key
  unfold returnCredits accounted lossOf CbfcManager.creditReturn
  dsimp only
  by_cases hreturns : s.manager.returnsCredits targetMac vcId = true
  · have hentry : entry (s.manager.creditFrame s.localMac targetMac vcId) =
        some ((targetMac, vcId), s.manager.getCreditsToReturn targetMac vcId % 256) :=
      congrArg some (Prod.ext rfl (SueCbfcHeader.getCredits_setCredits { vcId := vcId } _))
    have hle := Nat.mod_le (s.manager.getCreditsToReturn targetMac vcId) 256
    rw [if_pos hreturns]
    dsimp only
    rw [CbfcManager.getCreditsToReturn_clearCreditsToReturn, List.filterMap_append,
      creditsFor_append, List.filterMap_cons_some hentry, List.filterMap_nil,
      creditsFor_singleton]
    by_cases hkey : (targetMac, vcId) = (mac, vc)
    · cases hkey
      rw [if_pos rfl, if_pos rfl, if_pos ⟨hreturns, rfl⟩]
      omega
    · rw [if_neg hkey, if_neg fun h => hkey h.symm, if_neg fun h => hkey h.2]
      omega
  · rw [if_neg hreturns, if_neg fun h => hreturns h.1, List.append_nil]
    simp

theorem peerCredits_withPeer (peerMac : Mac48Address) (peer : CbfcManager) (key : CreditKey) :
    (s.withPeer peerMac peer).peerCredits key =
      if key.1 = peerMac then peer.getTxCredits s.localMac key.2 else s.peerCredits key := by
  unfold peerCredits withPeer
  by_cases hmac : key.1 = peerMac
  · subst hmac
    simp
  · simp only [if_neg hmac, Function.update_of_ne hmac]

/-- What a credit update leaves of a count, whatever its value. -/
theorem getTxCredits_receiveCreditUpdate_eq {m : CbfcManager} {mac : Mac48Address}
    {vcId : UInt8} (frame : CreditFrame) :
    (m.receiveCreditUpdate frame).getTxCredits mac vcId =
      if 0 < frame.credits ∧ mac = frame.source ∧ frame.vcId = some vcId then
        toU32 (m.getTxCredits mac vcId + frame.credits)
      else m.getTxCredits mac vcId := by
  unfold CbfcManager.receiveCreditUpdate CbfcManager.addTxCredits
  cases hheader : SueCbfcHeader.deserialize frame.header with
  | none =>
      have hvc : frame.vcId = none := by
        rw [CreditFrame.vcId, hheader, Option.map_none]
      simp [hvc]
  | some header =>
      have hvc : frame.vcId = some header.vcId := by
        rw [CreditFrame.vcId, hheader, Option.map_some]
      have hcredits : frame.credits = header.getCredits := by
        rw [CreditFrame.credits, hheader, Option.elim_some]
      rw [hvc, hcredits]
      dsimp only
      by_cases hpos : 0 < header.getCredits
      · rw [if_pos hpos, CbfcManager.getTxCredits_setTxCredits]
        by_cases hkey : (mac, vcId) = (frame.source, header.vcId)
        · cases hkey
          rw [if_pos rfl, if_pos ⟨hpos, rfl, rfl⟩]
        · rw [if_neg hkey, if_neg]
          rintro ⟨-, rfl, hvc⟩
          exact hkey (congrArg (Prod.mk frame.source) (Option.some.inj hvc).symm)
      · rw [if_neg hpos, if_neg fun h => hpos h.1]

theorem creditsFor_entry (frame : CreditFrame) :
    creditsFor key (entry frame).toList =
      if frame.vcId.map (Prod.mk frame.destination) = some key then frame.credits else 0 := by
  unfold entry CreditFrame.vcId CreditFrame.credits
  cases SueCbfcHeader.deserialize frame.header with
  | none => rfl
  | some header =>
      simp only [Option.map_some, Option.toList_some, Option.some.injEq, Option.elim_some]
      exact creditsFor_singleton _ _

/-- By how much the transmit credits of a pair change when a credit update arrives: by its
credits, as far as the count has room for them. -/
theorem peerCredits_delivered (key : CreditKey) {frame : CreditFrame}
    (hsource : frame.source = s.localMac) :
    ((s.delivered frame).peerCredits key : ℤ) - s.peerCredits key + s.lossAt key frame =
      creditsFor key (entry frame).toList := by
  have hpeer : (s.delivered frame).peerCredits key =
      if 0 < frame.credits ∧ frame.vcId.map (Prod.mk frame.destination) = some key then
        toU32 (s.peerCredits key + frame.credits)
      else s.peerCredits key := by
    unfold delivered
    rw [peerCredits_withPeer, getTxCredits_receiveCreditUpdate_eq]
    obtain ⟨mac, vcId⟩ := key
    by_cases hmac : mac = frame.destination
    · subst hmac
      rw [if_pos rfl]
      refine if_congr (and_congr_right fun _ => ?_) rfl rfl
      simp [hsource, Option.map_eq_some_iff]
    · rw [if_neg hmac, if_neg]
      rintro ⟨-, hkey⟩
      obtain ⟨vc, -, hkey⟩ := Option.map_eq_some_iff.mp hkey
      exact hmac (congrArg Prod.fst hkey).symm
  have hle := Nat.mod_le (s.peerCredits key + frame.credits) (2 ^ 32)
  rw [hpeer, creditsFor_entry]
  unfold lossAt
  by_cases hkey : frame.vcId.map (Prod.mk frame.destination) = some key
  · by_cases hpos : 0 < frame.credits
    · simp only [if_pos hkey, if_pos (And.intro hpos hkey)]
      unfold toU32
      omega
    · simp only [if_pos hkey, hpos, false_and, if_false]
      omega
  · simp only [hkey, and_false, if_false]
    omega

theorem accounted_arrive {i : ℕ} {frame : CreditFrame} (hframe : s.inFlight[i]? = some frame)
    (hsource : frame.source = s.localMac) :
    (s.arrive frame i).accounted key + s.lossOf key (.receive i) = s.accounted key := by
  have hgained := peerCredits_delivered key hsource
  have hway := creditsFor_eraseIdx key hframe
  have harrive : (s.arrive frame i).accounted key =
      s.gained key + ((s.delivered frame).peerCredits key - s.peerCredits key) +
        creditsFor key ((s.inFlight.eraseIdx i).filterMap entry) +
        s.manager.getCreditsToReturn key.1 key.2 := rfl
  have hloss : s.lossOf key (.receive i) = s.lossAt key frame := by
    change s.inFlight[i]?.elim 0 (s.lossAt key) = _
    rw [hframe]
    rfl
  rw [harrive, hloss]
  unfold accounted
  omega

theorem accounted_withPeer (peerMac : Mac48Address) (peer : CbfcManager) :
    (s.withPeer peerMac peer).accounted key = s.accounted key := rfl

/-- Every credit update on the way comes from the device of the manager. -/
def FromHere (s : CreditMessages) : Prop :=
  ∀ frame ∈ s.inFlight, frame.source = s.localMac

theorem FromHere.step {call : Call} (hhere : s.FromHere)
    (hstep : messageSystem.step s call = some s') : s'.FromHere := by
  cases call with
  | handleCreditReturn source vcId packetSize =>
      have hstep : (if s.manager.bytesPerCredit = 0 then none
        else some (s.handlePacket source vcId packetSize)) = some s' := hstep
      split_ifs at hstep
      cases hstep
      exact hhere
  | creditReturn targetMac vcId =>
      cases hstep
      refine List.forall_mem_append.mpr ⟨hhere, fun frame hframe => ?_⟩
      unfold CbfcManager.creditReturn at hframe
      split_ifs at hframe
      · cases List.mem_singleton.mp hframe
        rfl
      · cases hframe
  | receive i =>
      obtain ⟨frame, -, rfl⟩ := Option.map_eq_some_iff.mp hstep
      exact fun other hother => hhere other (List.mem_of_mem_eraseIdx hother)
  | spend peerMac vcId packetSize =>
      have hstep : (if (s.peers peerMac).bytesPerCredit = 0 then none
        else some (s.spendCredits peerMac vcId packetSize)) = some s' := hstep
      split_ifs at hstep
      cases hstep
      exact hhere

/-- The balance of one call: what was accounted for and what is handed over is
accounted for afterwards or lost. -/
theorem accounted_step (key : CreditKey) {call : Call} (hhere : s.FromHere)
    (hstep : messageSystem.step s call = some s') :
    s'.accounted key + s.lossOf key call + creditsFor key s.handed =
      s.accounted key + creditsFor key s'.handed := by
  cases call with
  | handleCreditReturn source vcId packetSize =>
      have hstep : (if s.manager.bytesPerCredit = 0 then none
        else some (s.handlePacket source vcId packetSize)) = some s' := hstep
      split_ifs at hstep
      cases hstep
      exact accounted_handlePacket source vcId packetSize
  | creditReturn targetMac vcId =>
      cases hstep
      exact accounted_returnCredits targetMac vcId
  | receive i =>
      obtain ⟨frame, hframe, rfl⟩ := Option.map_eq_some_iff.mp hstep
      rw [accounted_arrive hframe (hhere frame (List.mem_of_getElem? hframe))]
      rfl
  | spend peerMac vcId packetSize =>
      have hstep : (if (s.peers peerMac).bytesPerCredit = 0 then none
        else some (s.spendCredits peerMac vcId packetSize)) = some s' := hstep
      split_ifs at hstep
      cases hstep
      rw [spendCredits, accounted_withPeer]
      exact congrArg (· + _) (add_zero _)

/-! ## Runs -/

/-- The updates come from the device, and no pair ever has more credits than were handed
over for it. -/
def Bounded (s : CreditMessages) : Prop :=
  s.FromHere ∧ ∀ key, s.accounted key ≤ creditsFor key s.handed

theorem Bounded.step {call : Call} (hbounded : s.Bounded)
    (hstep : messageSystem.step s call = some s') : s'.Bounded := by
  refine ⟨hbounded.1.step hstep, fun key => ?_⟩
  have hbalance := accounted_step key hbounded.1 hstep
  have hle := hbounded.2 key
  omega

/-- A call that loses nothing keeps the accounts. -/
theorem Conserves.step {call : Call} (hbounded : s.Bounded) (hconserves : s.Conserves)
    (hcarries : s.CarriesAll call) (hstep : messageSystem.step s call = some s') :
    s'.Conserves := by
  intro key
  have hbalance := accounted_step key hbounded.1 hstep
  have hloss := carriesAll_iff.mp hcarries key
  have heq := hconserves key
  omega

/-- What a call loses is missing afterwards. -/
theorem not_conserves_of_loss {call : Call} (hbounded : s.Bounded)
    (hcarries : ¬s.CarriesAll call) (hstep : messageSystem.step s call = some s') :
    ¬s'.Conserves := by
  rw [carriesAll_iff] at hcarries
  obtain ⟨key, hloss⟩ := not_forall.mp hcarries
  intro hconserves
  have hbalance := accounted_step key hbounded.1 hstep
  have hle := hbounded.2 key
  have heq := hconserves key
  omega

/-- What is missing stays missing. -/
theorem not_conserves_step {call : Call} (hbounded : s.Bounded) (hnot : ¬s.Conserves)
    (hstep : messageSystem.step s call = some s') : ¬s'.Conserves := by
  obtain ⟨key, hne⟩ := not_forall.mp hnot
  intro hconserves
  have hbalance := accounted_step key hbounded.1 hstep
  have hle := hbounded.2 key
  have heq := hconserves key
  omega

theorem conserves_init (hinit : messageSystem.init s) : s.Conserves := by
  obtain ⟨howed, hfresh⟩ := hinit
  rw [hfresh]
  intro key
  have haccounted : accounted
      { manager := s.manager, localMac := s.localMac, peers := s.peers } key =
        0 + (0 : ℕ) + s.manager.getCreditsToReturn key.1 key.2 := rfl
  rw [haccounted, howed]
  rfl

/-- A run of calls conserves the credits exactly when each of its calls has room for
the credits it moves. -/
theorem conserves_iff_carriesAll {calls : List Call} (hinit : messageSystem.init s)
    (hrun : messageSystem.runActions s calls = some s') :
    s'.Conserves ↔ messageSystem.GuardedRun CarriesAll s calls := by
  have hconserves := conserves_init hinit
  refine TransitionSystem.iff_guardedRun (P := Bounded) ?_ ?_ ?_ ?_ ?_ hconserves hrun
  · exact fun s call t hP hQ hguard hstep => hQ.step hP hguard hstep
  · exact fun s call t hP _ hguard hstep => not_conserves_of_loss hP hguard hstep
  · exact fun s call t hP hQ hstep => not_conserves_step hP hQ hstep
  · exact fun s call t hP hstep => hP.step hstep
  · refine ⟨?_, fun key => (hconserves key).le⟩
    rw [hinit.2]
    exact fun frame hframe => absurd hframe List.not_mem_nil

/-- Updates wait for three hundred credits of one byte each. -/
def largeBatchConfig : CbfcManager.Config :=
  { enableLinkCBFC := true, creditBatchSize := 300, bytesPerCredit := 1 }

/-- A device with a batch that no credit update can carry. -/
def largeBatch : CreditMessages where
  manager := CbfcManager.initializeCbfc largeBatchConfig {} { b5 := 1 } []
  localMac := { b5 := 1 }
  peers := fun _ => CbfcManager.initializeCbfc { enableLinkCBFC := true } { b5 := 1 } {} []

/-- A packet of three hundred credits is handled, and its credits are sent. -/
def largeBatchCalls : List Call :=
  [.handleCreditReturn {} 0 300, .creditReturn {} 0]

theorem init_largeBatch : messageSystem.init largeBatch :=
  ⟨CbfcManager.owesNothing_initializeCbfc _ _ _ _, rfl⟩

/-- Three hundred credits were handed over, and forty-four of them are on the way. -/
theorem not_conserves_largeBatch :
    largeBatchConfig.Accepted ∧ messageSystem.init largeBatch ∧
      ∃ s', messageSystem.runActions largeBatch largeBatchCalls = some s' ∧
        s'.accounted ({}, 0) = 44 ∧ creditsFor ({}, 0) s'.handed = 300 ∧ ¬s'.Conserves := by
  obtain ⟨s', hrun⟩ : ∃ s', messageSystem.runActions largeBatch largeBatchCalls = some s' :=
    ⟨_, rfl⟩
  have haccounted : s'.accounted ({}, 0) = 44 := by
    cases hrun
    rfl
  have hhanded : creditsFor ({}, 0) s'.handed = 300 := by
    cases hrun
    rfl
  have haccepted : largeBatchConfig.Accepted := by
    constructor <;> decide
  refine ⟨haccepted, init_largeBatch, s', hrun, haccounted, hhanded, fun hconserves => ?_⟩
  have heq := hconserves ({}, 0)
  omega

/-- A device with batches of three credits, and a peer that spends what it gets back. -/
def smallBatch : CreditMessages where
  manager := CbfcManager.initializeCbfc
    { enableLinkCBFC := true, creditBatchSize := 3 } {} { b5 := 1 } []
  localMac := { b5 := 1 }
  peers := fun _ => CbfcManager.initializeCbfc { enableLinkCBFC := true } { b5 := 1 } {} []

/-- Packets on two virtual channels, of which one returns a batch that its peer receives
and spends from, while the other still waits for a batch. -/
def smallBatchCalls : List Call :=
  [.handleCreditReturn {} 0 300, .handleCreditReturn {} 1 600, .handleCreditReturn {} 0 300,
    .creditReturn {} 0, .creditReturn {} 1, .spend {} 0 1000, .receive 1, .receive 0,
    .handleCreditReturn {} 0 100, .creditReturn {} 0]

/-- The run on two virtual channels has room for all its credits: the peer has gained four
on one and three on the other, and one is still owed. -/
theorem conserves_iff_carriesAll_smallBatch :
    ∃ s', messageSystem.runActions smallBatch smallBatchCalls = some s' ∧
      s'.gained ({}, 0) = 4 ∧ s'.gained ({}, 1) = 3 ∧
      s'.manager.getCreditsToReturn {} 0 = 1 ∧
      messageSystem.GuardedRun CarriesAll smallBatch smallBatchCalls ∧ s'.Conserves := by
  obtain ⟨s', hrun⟩ : ∃ s', messageSystem.runActions smallBatch smallBatchCalls = some s' :=
    ⟨_, rfl⟩
  have hguarded : messageSystem.GuardedRun CarriesAll smallBatch smallBatchCalls := by
    decide +kernel
  have hinit : messageSystem.init smallBatch :=
    ⟨CbfcManager.owesNothing_initializeCbfc _ _ _ _, rfl⟩
  have hend : (messageSystem.runActions smallBatch smallBatchCalls).map (fun s =>
      (s.gained ({}, 0), s.gained ({}, 1), s.manager.getCreditsToReturn {} 0)) =
      some (4, 3, 1) := by decide
  rw [hrun, Option.map_some, Option.some.injEq, Prod.mk.injEq, Prod.mk.injEq] at hend
  exact ⟨s', hrun, hend.1, hend.2.1, hend.2.2, hguarded,
    (conserves_iff_carriesAll hinit hrun).mpr hguarded⟩

end CreditMessages

end UeSim
