import UeSim.Sue.Frames
import UeSim.Support.KeyedMap

/-!
# The manager of credit-based flow control

`CbfcManager` keeps two maps from a peer and a virtual channel to a number of
credits: those that the device may still spend towards the peer, and those that
it owes to the peer for packets that have left its own buffers.  All counts are
32 bits wide.
-/

namespace UeSim

/-- A peer and a virtual channel. -/
abbrev CreditKey := Mac48Address × UInt8

/-- The members of `CbfcManager` that are written when it is initialised.  The
transaction size and the header size are left out, since no calculation reads them. -/
structure CbfcSettings where
  initialized : Bool := false
  enableLinkCBFC : Bool := false
  initialCredits : ℕ := 20
  numVcs : UInt8 := 4
  creditBatchSize : ℕ := 1
  enableDynamicCredits : Bool := true
  baseCredit : ℕ := 1
  bytesPerCredit : ℕ := 256
  callbacksSet : Bool := false
  deriving DecidableEq, Repr

/-- `CbfcManager`, with its maps of maps keyed by pairs. -/
structure CbfcManager extends CbfcSettings where
  txCreditsMap : KeyedMap CreditKey ℕ := ∅
  rxCreditsToReturnMap : KeyedMap CreditKey ℕ := ∅

/-- `CbfcManager::CalculateCreditsForPacket`.  The source divides by the bytes per
credit, so that these must not be zero. -/
def CbfcSettings.calculateCreditsForPacket (settings : CbfcSettings) (packetSize : ℕ) : ℕ :=
  if settings.enableDynamicCredits then
    max (toU32 (packetSize + settings.bytesPerCredit - 1) / settings.bytesPerCredit)
      settings.baseCredit
  else
    settings.baseCredit

namespace CbfcManager

variable {m : CbfcManager} {mac mac' : Mac48Address} {vcId vcId' : UInt8}

/-! ## Reading the maps -/

/-- `CbfcManager::GetTxCredits`. -/
def getTxCredits (m : CbfcManager) (mac : Mac48Address) (vcId : UInt8) : ℕ :=
  (m.txCreditsMap.lookup (mac, vcId)).getD 0

/-- `CbfcManager::GetCreditsToReturn`. -/
def getCreditsToReturn (m : CbfcManager) (peerMac : Mac48Address) (vcId : UInt8) : ℕ :=
  (m.rxCreditsToReturnMap.lookup (peerMac, vcId)).getD 0

/-- `CbfcManager::HasEnoughCredits`: a pair that has no entry has no credits. -/
def hasEnoughCredits (m : CbfcManager) (mac : Mac48Address) (vcId : UInt8)
    (packetSize : ℕ) : Bool :=
  (m.txCreditsMap.lookup (mac, vcId)).elim false fun credits =>
    m.calculateCreditsForPacket packetSize ≤ credits

/-! ## Writing the maps -/

/-- Write the credits that may be spent towards a peer. -/
def setTxCredits (m : CbfcManager) (key : CreditKey) (credits : ℕ) : CbfcManager :=
  { m with txCreditsMap := m.txCreditsMap.insert key credits }

/-- Write the credits that are owed to a peer. -/
def setCreditsToReturn (m : CbfcManager) (key : CreditKey) (credits : ℕ) : CbfcManager :=
  { m with rxCreditsToReturnMap := m.rxCreditsToReturnMap.insert key credits }

/-- `CbfcManager::ConsumeDynamicCredits`, through `DecrementTxCredits`: nothing
happens when the credits do not suffice. -/
def consumeDynamicCredits (m : CbfcManager) (mac : Mac48Address) (vcId : UInt8)
    (packetSize : ℕ) : CbfcManager :=
  if m.hasEnoughCredits mac vcId packetSize then
    m.setTxCredits (mac, vcId) (m.getTxCredits mac vcId - m.calculateCreditsForPacket packetSize)
  else
    m

/-- `CbfcManager::AddTxCredits`. -/
def addTxCredits (m : CbfcManager) (mac : Mac48Address) (vcId : UInt8) (credits : ℕ) :
    CbfcManager :=
  if 0 < credits then
    m.setTxCredits (mac, vcId) (toU32 (m.getTxCredits mac vcId + credits))
  else
    m

/-- `CbfcManager::HandleCreditReturn`, with the source address of the header. -/
def handleCreditReturn (m : CbfcManager) (source : Mac48Address) (vcId : UInt8)
    (packetSize : ℕ) : CbfcManager :=
  if m.enableLinkCBFC then
    m.setCreditsToReturn (source, vcId)
      (toU32 (m.getCreditsToReturn source vcId + m.calculateCreditsForPacket packetSize))
  else
    m

/-- `CbfcManager::ClearCreditsToReturn`. -/
def clearCreditsToReturn (m : CbfcManager) (peerMac : Mac48Address) (vcId : UInt8) :
    CbfcManager :=
  { m with
    rxCreditsToReturnMap :=
      KeyedMap.modify m.rxCreditsToReturnMap (peerMac, vcId) fun _ => 0 }

/-- Whether `CreditReturn` sends a credit update. -/
def returnsCredits (m : CbfcManager) (targetMac : Mac48Address) (vcId : UInt8) : Bool :=
  m.enableLinkCBFC && m.callbacksSet &&
    m.creditBatchSize ≤ m.getCreditsToReturn targetMac vcId

/-- The credit update that `CreditReturn` builds. -/
def creditFrame (m : CbfcManager) (localMac targetMac : Mac48Address) (vcId : UInt8) :
    CreditFrame where
  source := localMac
  destination := targetMac
  header := (SueCbfcHeader.setCredits { vcId := vcId }
    (m.getCreditsToReturn targetMac vcId)).serialize

/-- `CbfcManager::CreditReturn`: the manager, and the credit update that it schedules. -/
def creditReturn (m : CbfcManager) (localMac targetMac : Mac48Address) (vcId : UInt8) :
    CbfcManager × List CreditFrame :=
  if m.returnsCredits targetMac vcId then
    (m.clearCreditsToReturn targetMac vcId, [m.creditFrame localMac targetMac vcId])
  else
    (m, [])

/-- The credit update branch of `PointToPointSueNetDevice::Receive`. -/
def receiveCreditUpdate (m : CbfcManager) (frame : CreditFrame) : CbfcManager :=
  match SueCbfcHeader.deserialize frame.header with
  | none => m
  | some header => m.addTxCredits frame.source header.vcId header.getCredits

/-! ## Initialisation -/

/-- `CbfcManager::Configure`. -/
def configure (m : CbfcManager) (numVcs : UInt8) (initialCredits : ℕ) (enableLinkCBFC : Bool)
    (creditBatchSize : ℕ) : CbfcManager :=
  { m with
    numVcs := numVcs
    initialCredits := initialCredits
    enableLinkCBFC := enableLinkCBFC
    creditBatchSize := creditBatchSize }

/-- `CbfcManager::InitializeBasic`. -/
def initializeBasic (m : CbfcManager) : CbfcManager :=
  if m.initialized then
    m
  else
    { m with txCreditsMap := ∅, rxCreditsToReturnMap := ∅, initialized := true }

/-- The loop of `AddPeerDevice` over some virtual channels. -/
def fillVcs (peerMac : Mac48Address) (credits : ℕ) (vcs : List UInt8)
    (map : KeyedMap CreditKey ℕ) : KeyedMap CreditKey ℕ :=
  vcs.foldl (fun map vcId => map.insert (peerMac, vcId) credits) map

/-- `CbfcManager::AddPeerDevice`, of a manager that is initialised. -/
def addPeerDevice (m : CbfcManager) (peerMac : Mac48Address) (initialCredits : ℕ) :
    CbfcManager :=
  let credits := if initialCredits = 0 then m.initialCredits else initialCredits
  { m with
    txCreditsMap := fillVcs peerMac credits (vcIds m.numVcs) m.txCreditsMap
    rxCreditsToReturnMap := fillVcs peerMac 0 (vcIds m.numVcs) m.rxCreditsToReturnMap }

/-- The devices of its node that a switch port adds as peers. -/
def addPeers (m : CbfcManager) (localMac : Mac48Address) (devices : List Mac48Address)
    (switchCredits : ℕ) : CbfcManager :=
  devices.foldl (fun m mac => if mac = localMac then m else m.addPeerDevice mac switchCredits) m

/-- `CbfcManager::InitializePeerDeviceCredits`, with the addresses of the devices of
the node. -/
def initializePeerDeviceCredits (m : CbfcManager) (remoteMac localMac : Mac48Address)
    (devices : List Mac48Address) (switchCredits : ℕ) : CbfcManager :=
  let m := m.addPeerDevice remoteMac m.initialCredits
  if localMac.isSwitchDevice then m.addPeers localMac devices switchCredits else m

/-- `CbfcManager::SetDynamicCreditMode`. -/
def setDynamicCreditMode (m : CbfcManager) (enable : Bool) (baseCredit : ℕ) : CbfcManager :=
  { m with enableDynamicCredits := enable, baseCredit := baseCredit }

/-- `CbfcManager::SetAdvancedCreditCalculation`. -/
def setAdvancedCreditCalculation (m : CbfcManager) (bytesPerCredit : ℕ) : CbfcManager :=
  { m with bytesPerCredit := bytesPerCredit }

/-- The attributes of a device that its manager is configured with. -/
structure Config where
  numVcs : UInt8 := 4
  initialCredits : ℕ := 20
  enableLinkCBFC : Bool := false
  creditBatchSize : ℕ := 10
  switchCredits : ℕ := 85
  bytesPerCredit : ℕ := 256
  deriving DecidableEq, Repr

/-- The ranges of the attributes: `CreditBatchSize` has a range of its own, and the
other counts are 32 bits wide. -/
structure Config.Accepted (config : Config) : Prop where
  initialCredits : config.initialCredits < 2 ^ 32
  batchPos : 1 ≤ config.creditBatchSize
  batchMax : config.creditBatchSize ≤ 1000
  switchCredits : config.switchCredits < 2 ^ 32
  bytesPerCredit : config.bytesPerCredit < 2 ^ 32

/-- The manager of a device after `Configure`, `SetCallbacks` and `InitializeBasic`. -/
def configured (config : Config) : CbfcManager :=
  (configure { callbacksSet := true } config.numVcs config.initialCredits config.enableLinkCBFC
    config.creditBatchSize).initializeBasic

/-- `PointToPointSueNetDevice::InitializeCbfc`, with `CbfcManager::Initialize`. -/
def initializeCbfc (config : Config) (remoteMac localMac : Mac48Address)
    (devices : List Mac48Address) : CbfcManager :=
  let m := (configured config).initializePeerDeviceCredits remoteMac localMac devices
    config.switchCredits
  (m.setDynamicCreditMode true 1).setAdvancedCreditCalculation config.bytesPerCredit

/-! ## The settings stay -/

@[simp] theorem settings_setTxCredits (key : CreditKey) (credits : ℕ) :
    (m.setTxCredits key credits).toCbfcSettings = m.toCbfcSettings := rfl

@[simp] theorem settings_setCreditsToReturn (key : CreditKey) (credits : ℕ) :
    (m.setCreditsToReturn key credits).toCbfcSettings = m.toCbfcSettings := rfl

@[simp] theorem settings_consumeDynamicCredits (packetSize : ℕ) :
    (m.consumeDynamicCredits mac vcId packetSize).toCbfcSettings = m.toCbfcSettings := by
  unfold consumeDynamicCredits
  split_ifs <;> rfl

@[simp] theorem settings_addTxCredits (credits : ℕ) :
    (m.addTxCredits mac vcId credits).toCbfcSettings = m.toCbfcSettings := by
  unfold addTxCredits
  split_ifs <;> rfl

@[simp] theorem settings_handleCreditReturn (packetSize : ℕ) :
    (m.handleCreditReturn mac vcId packetSize).toCbfcSettings = m.toCbfcSettings := by
  unfold handleCreditReturn
  split_ifs <;> rfl

@[simp] theorem settings_creditReturn :
    (m.creditReturn mac mac' vcId).1.toCbfcSettings = m.toCbfcSettings := by
  unfold creditReturn
  split_ifs <;> rfl

@[simp] theorem settings_receiveCreditUpdate (frame : CreditFrame) :
    (m.receiveCreditUpdate frame).toCbfcSettings = m.toCbfcSettings := by
  unfold receiveCreditUpdate
  cases SueCbfcHeader.deserialize frame.header with
  | none => rfl
  | some header => exact settings_addTxCredits _

/-! ## Credits that may be spent -/

theorem hasEnoughCredits_iff {packetSize : ℕ} :
    m.hasEnoughCredits mac vcId packetSize = true ↔
      ((mac, vcId) ∈ m.txCreditsMap ∧
        m.calculateCreditsForPacket packetSize ≤ m.getTxCredits mac vcId) := by
  unfold hasEnoughCredits getTxCredits
  cases hlookup : m.txCreditsMap.lookup (mac, vcId) with
  | none =>
      have hmem : (mac, vcId) ∉ m.txCreditsMap := AList.lookup_eq_none.mp hlookup
      simp [hmem]
  | some credits =>
      have hmem : (mac, vcId) ∈ m.txCreditsMap := by
        rw [← AList.lookup_isSome, hlookup]
        rfl
      simp [hmem]

theorem getTxCredits_setTxCredits (key : CreditKey) (credits : ℕ) :
    (m.setTxCredits key credits).getTxCredits mac vcId =
      if (mac, vcId) = key then credits else m.getTxCredits mac vcId := by
  unfold getTxCredits setTxCredits
  split_ifs with hkey
  · subst hkey
    simp
  · simp [AList.lookup_insert_ne hkey]

@[simp] theorem getTxCredits_setCreditsToReturn (key : CreditKey) (credits : ℕ) :
    (m.setCreditsToReturn key credits).getTxCredits mac vcId = m.getTxCredits mac vcId := rfl

/-- Adding credits changes one pair, modulo the width of the count. -/
theorem getTxCredits_addTxCredits (credits : ℕ) (hrange : m.getTxCredits mac vcId < 2 ^ 32) :
    (m.addTxCredits mac' vcId' credits).getTxCredits mac vcId =
      if (mac, vcId) = (mac', vcId') then toU32 (m.getTxCredits mac vcId + credits)
      else m.getTxCredits mac vcId := by
  unfold addTxCredits
  split_ifs with hpos hkey hkey
  · rw [getTxCredits_setTxCredits, if_pos hkey]
    obtain ⟨rfl, rfl⟩ := Prod.ext_iff.mp hkey
    rfl
  · rw [getTxCredits_setTxCredits, if_neg hkey]
  · have hzero : credits = 0 := by omega
    rw [hzero, Nat.add_zero, toU32_of_lt hrange]
  · rfl

@[simp] theorem getTxCredits_handleCreditReturn (packetSize : ℕ) :
    (m.handleCreditReturn mac' vcId' packetSize).getTxCredits mac vcId =
      m.getTxCredits mac vcId := by
  unfold handleCreditReturn
  split_ifs <;> rfl

@[simp] theorem getTxCredits_creditReturn (localMac : Mac48Address) :
    (m.creditReturn localMac mac' vcId').1.getTxCredits mac vcId = m.getTxCredits mac vcId := by
  unfold creditReturn
  split_ifs <;> rfl

theorem mem_setTxCredits {key key' : CreditKey} (credits : ℕ) (hmem : key ∈ m.txCreditsMap) :
    key ∈ (m.setTxCredits key' credits).txCreditsMap :=
  (AList.mem_insert _).mpr (.inr hmem)

theorem mem_consumeDynamicCredits {key : CreditKey} (packetSize : ℕ)
    (hmem : key ∈ m.txCreditsMap) :
    key ∈ (m.consumeDynamicCredits mac vcId packetSize).txCreditsMap := by
  unfold consumeDynamicCredits
  split_ifs
  · exact mem_setTxCredits _ hmem
  · exact hmem

/-- What a device can afford depends on its settings and on the credits that it may spend. -/
theorem hasEnoughCredits_congr {m' : CbfcManager} (hmap : m'.txCreditsMap = m.txCreditsMap)
    (hsettings : m'.toCbfcSettings = m.toCbfcSettings) :
    m'.hasEnoughCredits = m.hasEnoughCredits := by
  unfold hasEnoughCredits
  rw [hmap, hsettings]

/-- A credit update without credits changes nothing. -/
theorem receiveCreditUpdate_of_zero {frame : CreditFrame} (hzero : frame.credits = 0) :
    m.receiveCreditUpdate frame = m := by
  unfold CreditFrame.credits at hzero
  unfold receiveCreditUpdate
  cases hheader : SueCbfcHeader.deserialize frame.header with
  | none => rfl
  | some header =>
      rw [hheader, Option.elim_some] at hzero
      dsimp only
      rw [hzero]
      rfl

/-- Consuming takes the credits of the packet from one pair. -/
theorem getTxCredits_consumeDynamicCredits {packetSize : ℕ}
    (henough : m.hasEnoughCredits mac' vcId' packetSize = true) :
    (m.consumeDynamicCredits mac' vcId' packetSize).getTxCredits mac vcId =
      if (mac, vcId) = (mac', vcId') then
        m.getTxCredits mac vcId - m.calculateCreditsForPacket packetSize
      else m.getTxCredits mac vcId := by
  unfold consumeDynamicCredits
  rw [if_pos henough, getTxCredits_setTxCredits]
  split_ifs with hkey
  · obtain ⟨rfl, rfl⟩ := Prod.ext_iff.mp hkey
    rfl
  · rfl

/-- Who can afford a packet after credits have been consumed could before. -/
theorem hasEnoughCredits_of_consume {packetSize packetSize' : ℕ}
    (h : (m.consumeDynamicCredits mac' vcId' packetSize').hasEnoughCredits mac vcId
      packetSize = true) : m.hasEnoughCredits mac vcId packetSize = true := by
  by_cases henough : m.hasEnoughCredits mac' vcId' packetSize' = true
  · obtain ⟨hmem, hle⟩ := hasEnoughCredits_iff.mp h
    rw [settings_consumeDynamicCredits, getTxCredits_consumeDynamicCredits henough] at hle
    refine hasEnoughCredits_iff.mpr ⟨?_, ?_⟩
    · unfold consumeDynamicCredits at hmem
      rw [if_pos henough] at hmem
      rcases (AList.mem_insert _).mp hmem with hkey | hold
      · exact hkey ▸ (hasEnoughCredits_iff.mp henough).1
      · exact hold
    · split_ifs at hle
      · exact hle.trans (Nat.sub_le _ _)
      · exact hle
  · unfold consumeDynamicCredits at h
    rw [if_neg henough] at h
    exact h

theorem getCreditsToReturn_consumeDynamicCredits (packetSize : ℕ) :
    (m.consumeDynamicCredits mac' vcId' packetSize).getCreditsToReturn mac vcId =
      m.getCreditsToReturn mac vcId := by
  unfold consumeDynamicCredits
  split_ifs <;> rfl

theorem mem_receiveCreditUpdate {key : CreditKey} (frame : CreditFrame)
    (hmem : key ∈ m.txCreditsMap) : key ∈ (m.receiveCreditUpdate frame).txCreditsMap := by
  unfold receiveCreditUpdate addTxCredits
  cases SueCbfcHeader.deserialize frame.header with
  | none => exact hmem
  | some header =>
      dsimp only
      split_ifs
      · exact mem_setTxCredits _ hmem
      · exact hmem

/-- A credit update adds its credits to the pair of its source and virtual channel. -/
theorem getTxCredits_receiveCreditUpdate (frame : CreditFrame)
    (hrange : m.getTxCredits mac vcId < 2 ^ 32) :
    (m.receiveCreditUpdate frame).getTxCredits mac vcId =
      if mac = frame.source ∧ frame.vcId = some vcId then
        toU32 (m.getTxCredits mac vcId + frame.credits)
      else m.getTxCredits mac vcId := by
  unfold receiveCreditUpdate CreditFrame.vcId CreditFrame.credits
  cases SueCbfcHeader.deserialize frame.header with
  | none => simp
  | some header =>
      dsimp only
      rw [getTxCredits_addTxCredits _ hrange]
      refine if_congr ?_ rfl rfl
      simp [Prod.ext_iff, eq_comm]

/-- A credit update adds at most its credits. -/
theorem getTxCredits_receiveCreditUpdate_le (frame : CreditFrame) :
    (m.receiveCreditUpdate frame).getTxCredits mac vcId ≤ m.getTxCredits mac vcId +
      if mac = frame.source ∧ frame.vcId = some vcId then frame.credits else 0 := by
  unfold receiveCreditUpdate addTxCredits CreditFrame.vcId CreditFrame.credits
  cases SueCbfcHeader.deserialize frame.header with
  | none => exact Nat.le_add_right _ _
  | some header =>
      dsimp only
      split_ifs with hpos hkey hkey
      · obtain ⟨rfl, hvc⟩ := hkey
        cases hvc
        rw [getTxCredits_setTxCredits, if_pos rfl]
        exact Nat.mod_le _ _
      · rw [getTxCredits_setTxCredits, if_neg]
        · exact Nat.le_add_right _ _
        · rintro heq
          cases heq
          exact hkey ⟨rfl, rfl⟩
      · exact Nat.le_add_right _ _
      · exact Nat.le_add_right _ _

theorem getCreditsToReturn_receiveCreditUpdate (frame : CreditFrame) :
    (m.receiveCreditUpdate frame).getCreditsToReturn mac vcId =
      m.getCreditsToReturn mac vcId := by
  unfold receiveCreditUpdate addTxCredits
  cases SueCbfcHeader.deserialize frame.header with
  | none => rfl
  | some header =>
      dsimp only
      split_ifs <;> rfl

/-! ## Credits that are owed -/

theorem getCreditsToReturn_setCreditsToReturn (key : CreditKey) (credits : ℕ) :
    (m.setCreditsToReturn key credits).getCreditsToReturn mac vcId =
      if (mac, vcId) = key then credits else m.getCreditsToReturn mac vcId := by
  unfold getCreditsToReturn setCreditsToReturn
  split_ifs with hkey
  · subst hkey
    simp
  · simp [AList.lookup_insert_ne hkey]

@[simp] theorem getCreditsToReturn_setTxCredits (key : CreditKey) (credits : ℕ) :
    (m.setTxCredits key credits).getCreditsToReturn mac vcId =
      m.getCreditsToReturn mac vcId := rfl

/-- Handling a packet adds its credits to one pair, modulo the width of the count. -/
theorem getCreditsToReturn_handleCreditReturn (packetSize : ℕ)
    (henabled : m.enableLinkCBFC = true) :
    (m.handleCreditReturn mac' vcId' packetSize).getCreditsToReturn mac vcId =
      if (mac, vcId) = (mac', vcId') then
        toU32 (m.getCreditsToReturn mac vcId + m.calculateCreditsForPacket packetSize)
      else m.getCreditsToReturn mac vcId := by
  unfold handleCreditReturn
  rw [if_pos henabled, getCreditsToReturn_setCreditsToReturn]
  split_ifs with hkey
  · obtain ⟨rfl, rfl⟩ := Prod.ext_iff.mp hkey
    rfl
  · rfl

theorem getCreditsToReturn_clearCreditsToReturn :
    (m.clearCreditsToReturn mac' vcId').getCreditsToReturn mac vcId =
      if (mac, vcId) = (mac', vcId') then 0 else m.getCreditsToReturn mac vcId := by
  unfold getCreditsToReturn clearCreditsToReturn
  dsimp only
  split_ifs with hkey
  · rw [hkey, KeyedMap.lookup_modify_self]
    cases m.rxCreditsToReturnMap.lookup (mac', vcId') <;> rfl
  · rw [KeyedMap.lookup_modify_ne hkey]

/-- `CreditReturn` settles what is owed to one pair, when it sends at all. -/
theorem getCreditsToReturn_creditReturn (localMac : Mac48Address) :
    (m.creditReturn localMac mac' vcId').1.getCreditsToReturn mac vcId =
      if m.returnsCredits mac' vcId' = true ∧ (mac, vcId) = (mac', vcId') then 0
      else m.getCreditsToReturn mac vcId := by
  unfold creditReturn
  by_cases hreturns : m.returnsCredits mac' vcId' = true
  · rw [if_pos hreturns]
    dsimp only
    rw [getCreditsToReturn_clearCreditsToReturn]
    exact if_congr (by simp [hreturns]) rfl rfl
  · rw [if_neg hreturns, if_neg fun h => hreturns h.1]

/-! ## Initial credits -/

theorem lookup_fillVcs (credits : ℕ) (vcs : List UInt8) (map : KeyedMap CreditKey ℕ)
    (mac' : Mac48Address) (vcId : UInt8) :
    (fillVcs mac credits vcs map).lookup (mac', vcId) =
      if mac' = mac ∧ vcId ∈ vcs then some credits else map.lookup (mac', vcId) := by
  induction vcs generalizing map with
  | nil => simp [fillVcs]
  | cons vc vcs ih =>
      have hfold : fillVcs mac credits (vc :: vcs) map =
          fillVcs mac credits vcs (map.insert (mac, vc) credits) := rfl
      rw [hfold, ih]
      by_cases hkey : (mac', vcId) = (mac, vc)
      · cases hkey
        rw [AList.lookup_insert, ite_self, if_pos ⟨rfl, List.mem_cons_self ..⟩]
      · rw [AList.lookup_insert_ne hkey]
        refine if_congr (and_congr_right fun hmac => ?_) rfl rfl
        have hne : vcId ≠ vc := fun h => hkey (Prod.ext hmac h)
        exact ⟨List.mem_cons_of_mem vc, fun h => (List.mem_cons.mp h).resolve_left hne⟩

/-- The credits that a new peer starts with: zero stands for the initial credits. -/
def peerCredits (m : CbfcManager) (credits : ℕ) : ℕ :=
  if credits = 0 then m.initialCredits else credits

theorem lookup_addPeerDevice (peerMac : Mac48Address) (credits : ℕ) :
    (m.addPeerDevice peerMac credits).txCreditsMap.lookup (mac, vcId) =
      if mac = peerMac ∧ vcId < m.numVcs then some (m.peerCredits credits)
      else m.txCreditsMap.lookup (mac, vcId) := by
  unfold addPeerDevice
  dsimp only
  rw [lookup_fillVcs]
  exact if_congr (and_congr_right fun _ => mem_vcIds) rfl rfl

theorem settings_addPeers (localMac : Mac48Address) (devices : List Mac48Address)
    (switchCredits : ℕ) :
    (m.addPeers localMac devices switchCredits).toCbfcSettings = m.toCbfcSettings := by
  induction devices generalizing m with
  | nil => rfl
  | cons peer devices ih =>
      refine ih.trans ?_
      dsimp only
      split_ifs <;> rfl

theorem lookup_addPeers (localMac : Mac48Address) (devices : List Mac48Address)
    (switchCredits : ℕ) :
    (m.addPeers localMac devices switchCredits).txCreditsMap.lookup (mac, vcId) =
      if (mac ∈ devices ∧ mac ≠ localMac) ∧ vcId < m.numVcs then
        some (m.peerCredits switchCredits)
      else m.txCreditsMap.lookup (mac, vcId) := by
  induction devices generalizing m with
  | nil => simp [addPeers]
  | cons peer devices ih =>
      have hfold : m.addPeers localMac (peer :: devices) switchCredits =
          (if peer = localMac then m else m.addPeerDevice peer switchCredits).addPeers localMac
            devices switchCredits := rfl
      rw [hfold, ih]
      by_cases hpeer : peer = localMac
      · rw [if_pos hpeer]
        refine if_congr ?_ rfl rfl
        constructor
        · rintro ⟨⟨hmem, hne⟩, hvc⟩
          exact ⟨⟨List.mem_cons_of_mem peer hmem, hne⟩, hvc⟩
        · rintro ⟨⟨hmem, hne⟩, hvc⟩
          refine ⟨⟨(List.mem_cons.mp hmem).resolve_left ?_, hne⟩, hvc⟩
          exact fun h => hne (h.trans hpeer)
      · rw [if_neg hpeer, lookup_addPeerDevice]
        have hpeers : (m.addPeerDevice peer switchCredits).peerCredits switchCredits =
            m.peerCredits switchCredits := rfl
        have hnum : (m.addPeerDevice peer switchCredits).numVcs = m.numVcs := rfl
        rw [hpeers, hnum]
        by_cases hvc : vcId < m.numVcs
        · by_cases hmac : mac = peer
          · subst hmac
            simp [hvc, hpeer]
          · simp [hvc, hmac]
        · simp [hvc]

/-- No pair is owed anything. -/
def OwesNothing (m : CbfcManager) : Prop :=
  ∀ mac vcId, m.getCreditsToReturn mac vcId = 0

theorem OwesNothing.addPeerDevice (hnone : m.OwesNothing) (peerMac : Mac48Address)
    (credits : ℕ) : (m.addPeerDevice peerMac credits).OwesNothing := by
  intro mac vcId
  unfold CbfcManager.addPeerDevice getCreditsToReturn
  dsimp only
  rw [lookup_fillVcs]
  split_ifs
  · rfl
  · exact hnone mac vcId

theorem OwesNothing.addPeers (hnone : m.OwesNothing) (localMac : Mac48Address)
    (devices : List Mac48Address) (switchCredits : ℕ) :
    (m.addPeers localMac devices switchCredits).OwesNothing := by
  induction devices generalizing m with
  | nil => exact hnone
  | cons peer devices ih =>
      refine ih ?_
      dsimp only
      split_ifs
      · exact hnone
      · exact hnone.addPeerDevice peer switchCredits

/-- The settings of an initialised device. -/
def Config.settings (config : Config) : CbfcSettings where
  initialized := true
  enableLinkCBFC := config.enableLinkCBFC
  initialCredits := config.initialCredits
  numVcs := config.numVcs
  creditBatchSize := config.creditBatchSize
  bytesPerCredit := config.bytesPerCredit
  callbacksSet := true

theorem settings_initializeCbfc (config : Config) (remoteMac localMac : Mac48Address)
    (devices : List Mac48Address) :
    (initializeCbfc config remoteMac localMac devices).toCbfcSettings = config.settings := by
  have hsettings : ((configured config).initializePeerDeviceCredits remoteMac localMac devices
      config.switchCredits).toCbfcSettings = (configured config).toCbfcSettings := by
    unfold initializePeerDeviceCredits
    dsimp only
    split_ifs
    · exact settings_addPeers localMac devices config.switchCredits
    · rfl
  unfold initializeCbfc setDynamicCreditMode setAdvancedCreditCalculation
  dsimp only
  rw [hsettings]
  rfl

/-- A device starts without owing anything. -/
theorem owesNothing_initializeCbfc (config : Config) (remoteMac localMac : Mac48Address)
    (devices : List Mac48Address) :
    (initializeCbfc config remoteMac localMac devices).OwesNothing := by
  have hfresh : (configured config).OwesNothing := fun _ _ => rfl
  have hpeer := hfresh.addPeerDevice remoteMac config.initialCredits
  intro mac vcId
  unfold initializeCbfc initializePeerDeviceCredits
  dsimp only
  split_ifs
  · exact hpeer.addPeers localMac devices config.switchCredits mac vcId
  · exact hpeer mac vcId

/-- The credits that a device starts with. -/
theorem lookup_initializeCbfc (config : Config) (remoteMac localMac : Mac48Address)
    (devices : List Mac48Address) :
    (initializeCbfc config remoteMac localMac devices).txCreditsMap.lookup (mac, vcId) =
      if vcId < config.numVcs then
        if localMac.isSwitchDevice = true ∧ mac ∈ devices ∧ mac ≠ localMac then
          some ((configured config).peerCredits config.switchCredits)
        else if mac = remoteMac then some config.initialCredits
        else none
      else none := by
  have hself : (configured config).peerCredits config.initialCredits =
      config.initialCredits := by
    unfold peerCredits
    split_ifs with hzero
    · rfl
    · rfl
  have hremote : ((configured config).addPeerDevice remoteMac
      config.initialCredits).txCreditsMap.lookup (mac, vcId) =
      if mac = remoteMac ∧ vcId < config.numVcs then some config.initialCredits else none := by
    rw [lookup_addPeerDevice, hself]
    rfl
  have hpeers : (((configured config).addPeerDevice remoteMac config.initialCredits).addPeers
      localMac devices config.switchCredits).txCreditsMap.lookup (mac, vcId) = _ :=
    lookup_addPeers localMac devices config.switchCredits
  have hmap : (initializeCbfc config remoteMac localMac devices).txCreditsMap =
      (if localMac.isSwitchDevice = true then
        ((configured config).addPeerDevice remoteMac config.initialCredits).addPeers localMac
          devices config.switchCredits
      else (configured config).addPeerDevice remoteMac config.initialCredits).txCreditsMap := rfl
  rw [hmap]
  by_cases hswitch : localMac.isSwitchDevice = true
  · rw [if_pos hswitch, hpeers, hremote]
    by_cases hvc : vcId < config.numVcs
    · have hnum : vcId < ((configured config).addPeerDevice remoteMac
          config.initialCredits).numVcs := hvc
      simp [hvc, hnum, hswitch]
      rfl
    · have hnum : ¬vcId < ((configured config).addPeerDevice remoteMac
          config.initialCredits).numVcs := hvc
      simp [hvc, hnum]
  · rw [if_neg hswitch, hremote]
    by_cases hvc : vcId < config.numVcs
    · simp [hvc, hswitch]
    · simp [hvc]

/-! ## The credit update -/

@[simp] theorem deserialize_creditFrame (localMac : Mac48Address) :
    SueCbfcHeader.deserialize (m.creditFrame localMac mac vcId).header =
      some (SueCbfcHeader.setCredits { vcId := vcId } (m.getCreditsToReturn mac vcId)) := rfl

/-- A credit update carries the owed credits modulo 256. -/
theorem credits_creditFrame (localMac : Mac48Address) :
    (m.creditFrame localMac mac vcId).credits = m.getCreditsToReturn mac vcId % 256 :=
  SueCbfcHeader.getCredits_setCredits _ _

end CbfcManager

end UeSim
