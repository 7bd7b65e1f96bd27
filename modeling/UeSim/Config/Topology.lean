import UeSim.Config.SimulationConfig
import UeSim.Sue.Frames
import UeSim.Support.NestedLoops

/-!
# The links of a topology

`CreateConnections` goes through the XPUs, their SUEs and the ports of each SUE, and links each
port to the switch of its SUE.  A device takes the next MAC address and the next index on its
node, where the loopback device is the first one.  The link of XPU `x` and port `p` has the
subnet `10.<x + 1>.<p + 1>.0`.  A text with a number above 255 in it is not an address and
stands for the subnet of zero, and an address that is allocated twice ends the program.
-/

namespace UeSim

/-! ## The state -/

/-- `PointToPointSueNetDevice`, as it is found through its node. -/
structure SueNetDevice where
  mac : Mac48Address
  ifIndex : ℕ
  deriving DecidableEq

/-- A channel with its two devices, and the indices that it is created for. -/
structure SueChannel where
  xpuIdx : ℕ
  globalPortIdx : ℕ
  switchIdx : ℕ
  xpuDevice : SueNetDevice
  switchDevice : SueNetDevice
  deriving DecidableEq

/-- `TopologyBuilder`: the nodes with the number of their devices, and the devices. -/
structure TopologyBuilder where
  /-- `m_allocationIndex` of `Mac48Address`. -/
  allocationIndex : ℕ := 0
  /-- The addresses of `Ipv4AddressGenerator`. -/
  allocatedAddresses : List ℕ := []
  xpuNodes : List ℕ
  switchNodes : List ℕ
  xpuDevices : List (List SueNetDevice)
  switchDevices : List (List SueNetDevice)
  channels : List SueChannel := []

/-- How the construction of a topology ends without one. -/
inductive TopologyFailure where
  | addressCollision
  | outOfBounds
  deriving DecidableEq

/-- The indices of a round of the three loops. -/
structure PortLink where
  xpuIdx : ℕ
  sueIdx : ℕ
  portInSue : ℕ
  deriving DecidableEq

/-! ## The construction -/

/-- `Mac48Address::Allocate`, for the value of the counter. -/
def allocateMac (index : ℕ) : Mac48Address where
  b0 := UInt8.ofNat (index / 2 ^ 40)
  b1 := UInt8.ofNat (index / 2 ^ 32)
  b2 := UInt8.ofNat (index / 2 ^ 24)
  b3 := UInt8.ofNat (index / 2 ^ 16)
  b4 := UInt8.ofNat (index / 2 ^ 8)
  b5 := UInt8.ofNat index

/-- `inet_pton`, for four numbers with dots between them. -/
def inetPton (a b c d : ℕ) : Option ℕ :=
  if a ≤ 255 ∧ b ≤ 255 ∧ c ≤ 255 ∧ d ≤ 255 then
    some (a * 2 ^ 24 + b * 2 ^ 16 + c * 2 ^ 8 + d)
  else none

/-- `Ipv4Address`, from four numbers with dots between them. -/
def ipv4Address (a b c d : ℕ) : ℕ := (inetPton a b c d).getD 0

namespace NetworkConfig

/-- The rounds of the loops over XPUs, SUEs and ports. -/
def portLinks (n : NetworkConfig) : List PortLink :=
  (List.range n.nXpus.toNat).flatMap fun xpuIdx =>
    (List.range n.suesPerXpu.toNat).flatMap fun sueIdx =>
      (List.range n.portsPerSue.toNat).map fun portInSue => ⟨xpuIdx, sueIdx, portInSue⟩

/-- `CreateNodes` and `InstallNetworkStack`: each node has its loopback device. -/
def createNodes (n : NetworkConfig) : TopologyBuilder where
  xpuNodes := List.replicate n.nXpus.toNat 1
  switchNodes := List.replicate n.suesPerXpu.toNat 1
  xpuDevices := List.replicate n.nXpus.toNat []
  switchDevices := List.replicate n.suesPerXpu.toNat []

/-- `globalPortIdx`. -/
def globalPortIdx (n : NetworkConfig) (l : PortLink) : ℕ :=
  (l.sueIdx * n.portsPerSue.toNat + l.portInSue) % 2 ^ 32

/-- The base of the subnet of a link. -/
def subnet (n : NetworkConfig) (l : PortLink) : ℕ :=
  ipv4Address 10 ((l.xpuIdx + 1) % 2 ^ 32) ((n.globalPortIdx l + 1) % 2 ^ 32) 0

/-- A round of `CreateConnections`. -/
def createLink (n : NetworkConfig) (t : TopologyBuilder) (l : PortLink) :
    Except TopologyFailure TopologyBuilder :=
  match t.xpuNodes[l.xpuIdx]?, t.switchNodes[l.sueIdx]? with
  | some xpuCount, some switchCount =>
    let xpuDevice : SueNetDevice := ⟨allocateMac (t.allocationIndex + 1), xpuCount⟩
    let switchDevice : SueNetDevice := ⟨allocateMac (t.allocationIndex + 2), switchCount⟩
    if n.subnet l + 1 ∈ t.allocatedAddresses ∨ n.subnet l + 2 ∈ t.allocatedAddresses then
      .error .addressCollision
    else if t.xpuDevices.length ≤ l.xpuIdx ∨ t.switchDevices.length ≤ l.sueIdx then
      .error .outOfBounds
    else .ok
      { allocationIndex := t.allocationIndex + 2
        allocatedAddresses := t.allocatedAddresses ++ [n.subnet l + 1, n.subnet l + 2]
        xpuNodes := t.xpuNodes.modify l.xpuIdx (· + 1)
        switchNodes := t.switchNodes.modify l.sueIdx (· + 1)
        xpuDevices := t.xpuDevices.modify l.xpuIdx (· ++ [xpuDevice])
        switchDevices := t.switchDevices.modify l.sueIdx (· ++ [switchDevice])
        channels := t.channels ++
          [⟨l.xpuIdx, n.globalPortIdx l, l.sueIdx, xpuDevice, switchDevice⟩] }
  | _, _ => .error .outOfBounds

/-- `CreateConnections`. -/
def createConnections (n : NetworkConfig) : Except TopologyFailure TopologyBuilder :=
  n.portLinks.foldlM n.createLink n.createNodes

/-- The numbers of ports and of SUEs agree, as after the validation. -/
structure Accepted (n : NetworkConfig) : Prop where
  portsPerSue_pos : 0 < n.portsPerSue.toNat
  portsPerXpu_eq : n.portsPerXpu.toNat = n.suesPerXpu.toNat * n.portsPerSue.toNat

end NetworkConfig

/-- What the validation accepts has whole SUEs. -/
theorem accepted_of_validated {c c' : SueSimulationConfig}
    (h : c.validateAndCalculate = .ok c') : c'.network.Accepted := by
  have hrefusal : c.refusal = none := by
    cases hr : c.refusal with
    | none => rfl
    | some text => simp [SueSimulationConfig.validateAndCalculate, hr] at h
  have hports : c.network.portsPerSue = 1 ∨ c.network.portsPerSue = 2 ∨
      c.network.portsPerSue = 4 := by
    by_contra hne
    rw [SueSimulationConfig.refusal, if_pos (by tauto)] at hrefusal
    cases hrefusal
  have hmod : c.network.portsPerXpu % c.network.portsPerSue = 0 := by
    by_contra hne
    rw [SueSimulationConfig.refusal, if_neg (by tauto), if_pos hne] at hrefusal
    cases hrefusal
  have hpos : 0 < c.network.portsPerSue.toNat := by
    rcases hports with h | h | h <;> simp [h]
  have hmod' : c.network.portsPerXpu.toNat % c.network.portsPerSue.toNat = 0 := by
    rw [← UInt32.toNat_mod, hmod]
    rfl
  rw [SueSimulationConfig.validateAndCalculate_eq_ok h]
  refine ⟨hpos, ?_⟩
  change c.network.portsPerXpu.toNat =
    (c.network.portsPerXpu / c.network.portsPerSue).toNat * c.network.portsPerSue.toNat
  rw [UInt32.toNat_div, Nat.div_mul_cancel (Nat.dvd_of_mod_eq_zero hmod')]

/-! ## The order of the links -/

namespace NetworkConfig

variable {n : NetworkConfig}

/-- The number of a link in the order of the loops. -/
def linkOrdinal (n : NetworkConfig) (l : PortLink) : ℕ :=
  l.xpuIdx * n.portsPerXpu.toNat + (l.sueIdx * n.portsPerSue.toNat + l.portInSue)

/-- The link of a number. -/
def linkAt (n : NetworkConfig) (k : ℕ) : PortLink where
  xpuIdx := k / n.portsPerXpu.toNat
  sueIdx := k % n.portsPerXpu.toNat / n.portsPerSue.toNat
  portInSue := k % n.portsPerXpu.toNat % n.portsPerSue.toNat

/-- The three loops go through the numbers of the links. -/
theorem portLinks_eq (hn : n.Accepted) :
    n.portLinks = (List.range (n.nXpus.toNat * n.portsPerXpu.toNat)).map n.linkAt := by
  have hinner : ∀ xpuIdx, ((List.range n.suesPerXpu.toNat).flatMap fun sueIdx =>
      (List.range n.portsPerSue.toNat).map fun portInSue =>
        (⟨xpuIdx, sueIdx, portInSue⟩ : PortLink)) =
      (List.range n.portsPerXpu.toNat).map fun p =>
        ⟨xpuIdx, p / n.portsPerSue.toNat, p % n.portsPerSue.toNat⟩ := by
    intro xpuIdx
    rw [flatMap_range_map _ _ fun sueIdx portInSue => (⟨xpuIdx, sueIdx, portInSue⟩ : PortLink),
      hn.portsPerXpu_eq]
  simp only [portLinks, hinner]
  rw [flatMap_range_map _ _ fun xpuIdx p =>
    (⟨xpuIdx, p / n.portsPerSue.toNat, p % n.portsPerSue.toNat⟩ : PortLink)]
  rfl

/-- The link of a number has that number. -/
theorem linkOrdinal_linkAt (k : ℕ) : n.linkOrdinal (n.linkAt k) = k := by
  have hport := Nat.div_add_mod' (k % n.portsPerXpu.toNat) n.portsPerSue.toNat
  have hxpu := Nat.div_add_mod' k n.portsPerXpu.toNat
  simp only [linkOrdinal, linkAt, hport, hxpu]

/-- A link is gone through when all links before it have been. -/
theorem length_before (hn : n.Accepted) {before after : List PortLink} {l : PortLink}
    (hlinks : n.portLinks = before ++ l :: after) : before.length = n.linkOrdinal l := by
  rw [portLinks_eq hn] at hlinks
  exact length_of_append_eq_map n.linkOrdinal (fun k _ => linkOrdinal_linkAt k) hlinks.symm

/-- No link is gone through twice. -/
theorem nodup_portLinks (hn : n.Accepted) : n.portLinks.Nodup := by
  rw [portLinks_eq hn]
  apply List.nodup_range.map
  intro j k hjk
  rw [← linkOrdinal_linkAt (n := n) j, ← linkOrdinal_linkAt (n := n) k, hjk]

/-- The links that are gone through. -/
theorem mem_portLinks {l : PortLink} :
    l ∈ n.portLinks ↔ l.xpuIdx < n.nXpus.toNat ∧ l.sueIdx < n.suesPerXpu.toNat ∧
      l.portInSue < n.portsPerSue.toNat := by
  simp only [portLinks, List.mem_flatMap, List.mem_map, List.mem_range]
  constructor
  · rintro ⟨x, hx, s, hs, p, hp, rfl⟩
    exact ⟨hx, hs, hp⟩
  · intro h
    exact ⟨l.xpuIdx, h.1, l.sueIdx, h.2.1, l.portInSue, h.2.2, rfl⟩

/-- The links of an XPU, in the order of its ports. -/
theorem filter_xpuIdx (hn : n.Accepted) {x : ℕ} (hx : x < n.nXpus.toNat) :
    n.portLinks.filter (fun l => l.xpuIdx = x) =
      (List.range n.portsPerXpu.toNat).map fun p =>
        ⟨x, p / n.portsPerSue.toNat, p % n.portsPerSue.toNat⟩ := by
  have hrow : ∀ a, ((List.range n.suesPerXpu.toNat).flatMap fun sueIdx =>
      (List.range n.portsPerSue.toNat).map fun portInSue =>
        (⟨a, sueIdx, portInSue⟩ : PortLink)).filter (fun l => l.xpuIdx = x) =
      if a = x then (List.range n.suesPerXpu.toNat).flatMap fun sueIdx =>
        (List.range n.portsPerSue.toNat).map fun portInSue => ⟨a, sueIdx, portInSue⟩ else [] := by
    intro a
    by_cases ha : a = x
    · rw [if_pos ha, List.filter_eq_self]
      simp only [List.mem_flatMap, List.mem_map]
      rintro _ ⟨s, -, p, -, rfl⟩
      simp [ha]
    · rw [if_neg ha, List.filter_eq_nil_iff]
      simp only [List.mem_flatMap, List.mem_map]
      rintro _ ⟨s, -, p, -, rfl⟩
      simp [ha]
  simp only [portLinks, List.filter_flatMap, hrow]
  rw [flatMap_range_single hx,
    flatMap_range_map _ _ fun sueIdx portInSue => (⟨x, sueIdx, portInSue⟩ : PortLink),
    hn.portsPerXpu_eq]

/-- The links of a switch, in the order of the XPUs. -/
theorem filter_sueIdx {s : ℕ} (hs : s < n.suesPerXpu.toNat) :
    n.portLinks.filter (fun l => l.sueIdx = s) =
      (List.range (n.nXpus.toNat * n.portsPerSue.toNat)).map fun k =>
        ⟨k / n.portsPerSue.toNat, s, k % n.portsPerSue.toNat⟩ := by
  have hrow : ∀ x a, ((List.range n.portsPerSue.toNat).map fun portInSue =>
        (⟨x, a, portInSue⟩ : PortLink)).filter (fun l => l.sueIdx = s) =
      if a = s then (List.range n.portsPerSue.toNat).map fun portInSue => ⟨x, a, portInSue⟩
      else [] := by
    intro x a
    by_cases ha : a = s
    · rw [if_pos ha, List.filter_eq_self]
      simp [ha]
    · rw [if_neg ha, List.filter_eq_nil_iff]
      simp [ha]
  simp only [portLinks, List.filter_flatMap, hrow, flatMap_range_single hs]
  rw [flatMap_range_map _ _ fun x portInSue => (⟨x, s, portInSue⟩ : PortLink)]

/-- A port of an XPU is preceded by its ports with smaller numbers. -/
theorem length_before_xpu (hn : n.Accepted) {before after : List PortLink} {l : PortLink}
    (hlinks : n.portLinks = before ++ l :: after) :
    (before.filter fun b => b.xpuIdx = l.xpuIdx).length =
      l.sueIdx * n.portsPerSue.toNat + l.portInSue := by
  have hl : l ∈ n.portLinks := by simp [hlinks]
  have hrow := filter_xpuIdx hn (mem_portLinks.mp hl).1
  rw [hlinks, List.filter_append, List.filter_cons_of_pos (by simp)] at hrow
  exact length_of_append_eq_map (fun b => b.sueIdx * n.portsPerSue.toNat + b.portInSue)
    (fun k _ => Nat.div_add_mod' k _) hrow

/-- A device of a switch is preceded by those of its earlier links. -/
theorem length_before_sue {before after : List PortLink} {l : PortLink}
    (hlinks : n.portLinks = before ++ l :: after) :
    (before.filter fun b => b.sueIdx = l.sueIdx).length =
      l.xpuIdx * n.portsPerSue.toNat + l.portInSue := by
  have hl : l ∈ n.portLinks := by simp [hlinks]
  have hrow := filter_sueIdx (mem_portLinks.mp hl).2.1
  rw [hlinks, List.filter_append, List.filter_cons_of_pos (by simp)] at hrow
  exact length_of_append_eq_map (fun b => b.xpuIdx * n.portsPerSue.toNat + b.portInSue)
    (fun k _ => Nat.div_add_mod' k _) hrow

/-- The port of a link is a port of its XPU. -/
theorem port_lt (hn : n.Accepted) {l : PortLink} (hl : l ∈ n.portLinks) :
    l.sueIdx * n.portsPerSue.toNat + l.portInSue < n.portsPerXpu.toNat := by
  rw [hn.portsPerXpu_eq]
  exact mul_add_lt (mem_portLinks.mp hl).2.1 (mem_portLinks.mp hl).2.2

/-- The index of a port does not wrap. -/
theorem globalPortIdx_eq (hn : n.Accepted) {l : PortLink} (hl : l ∈ n.portLinks) :
    n.globalPortIdx l = l.sueIdx * n.portsPerSue.toNat + l.portInSue :=
  Nat.mod_eq_of_lt (lt_trans (port_lt hn hl) n.portsPerXpu.toNat_lt)

/-! ## What the links leave -/

/-- The device of an XPU at a link. -/
def xpuDevice (n : NetworkConfig) (l : PortLink) : SueNetDevice where
  mac := allocateMac (2 * n.linkOrdinal l + 1)
  ifIndex := 1 + (l.sueIdx * n.portsPerSue.toNat + l.portInSue)

/-- The device of a switch at a link. -/
def switchDevice (n : NetworkConfig) (l : PortLink) : SueNetDevice where
  mac := allocateMac (2 * n.linkOrdinal l + 2)
  ifIndex := 1 + (l.xpuIdx * n.portsPerSue.toNat + l.portInSue)

/-- The channel of a link. -/
def channel (n : NetworkConfig) (l : PortLink) : SueChannel where
  xpuIdx := l.xpuIdx
  globalPortIdx := l.sueIdx * n.portsPerSue.toNat + l.portInSue
  switchIdx := l.sueIdx
  xpuDevice := n.xpuDevice l
  switchDevice := n.switchDevice l

/-- The addresses of a link. -/
def addresses (n : NetworkConfig) (l : PortLink) : List ℕ := [n.subnet l + 1, n.subnet l + 2]

/-- The state after some of the links. -/
structure Linked (n : NetworkConfig) (links : List PortLink) (t : TopologyBuilder) : Prop where
  allocationIndex : t.allocationIndex = 2 * links.length
  allocatedAddresses : t.allocatedAddresses = links.flatMap n.addresses
  xpuNodes : ∀ x < n.nXpus.toNat,
    t.xpuNodes[x]? = some (1 + (links.filter fun l => l.xpuIdx = x).length)
  switchNodes : ∀ s < n.suesPerXpu.toNat,
    t.switchNodes[s]? = some (1 + (links.filter fun l => l.sueIdx = s).length)
  xpuDevices : ∀ x < n.nXpus.toNat,
    t.xpuDevices[x]? = some ((links.filter fun l => l.xpuIdx = x).map n.xpuDevice)
  switchDevices : ∀ s < n.suesPerXpu.toNat,
    t.switchDevices[s]? = some ((links.filter fun l => l.sueIdx = s).map n.switchDevice)
  channels : t.channels = links.map n.channel

/-- Before the first link, each node has its loopback device. -/
theorem linked_createNodes (n : NetworkConfig) : n.Linked [] n.createNodes := by
  constructor <;> simp +contextual [createNodes]

/-- One row more at a key. -/
theorem getElem?_modify_filter {α β : Type} {rows : List (List β)} {key : α → ℕ} {device : α → β}
    {l : List α} {bound : ℕ}
    (hrows : ∀ i < bound, rows[i]? = some ((l.filter fun y => key y = i).map device)) (x : α) :
    ∀ i < bound, (rows.modify (key x) (· ++ [device x]))[i]? =
      some (((l ++ [x]).filter fun y => key y = i).map device) := by
  intro i hi
  rw [List.getElem?_modify, hrows i hi, List.filter_append]
  by_cases hkey : key x = i <;> simp [hkey]

/-- One device more at a key. -/
theorem getElem?_modify_count {α : Type} {counts : List ℕ} {key : α → ℕ} {l : List α}
    {bound : ℕ}
    (hcounts : ∀ i < bound, counts[i]? = some (1 + (l.filter fun y => key y = i).length))
    (x : α) :
    ∀ i < bound, (counts.modify (key x) (· + 1))[i]? =
      some (1 + ((l ++ [x]).filter fun y => key y = i).length) := by
  intro i hi
  rw [List.getElem?_modify, hcounts i hi, List.filter_append]
  by_cases hkey : key x = i <;> simp [hkey]
  omega

/-- A link whose addresses are new is created, with the next devices of its nodes. -/
theorem createLink_of_linked (hn : n.Accepted) {before after : List PortLink} {l : PortLink}
    {t : TopologyBuilder} (hlinks : n.portLinks = before ++ l :: after)
    (ht : n.Linked before t) (hnew : ∀ a ∈ n.addresses l, a ∉ t.allocatedAddresses) :
    ∃ t', n.createLink t l = .ok t' ∧ n.Linked (before ++ [l]) t' := by
  have hl : l ∈ n.portLinks := by simp [hlinks]
  obtain ⟨hx, hs, -⟩ := mem_portLinks.mp hl
  have hxpuLength : l.xpuIdx < t.xpuDevices.length := by
    by_contra hle
    have hrow := ht.xpuDevices l.xpuIdx hx
    rw [List.getElem?_eq_none (by omega)] at hrow
    cases hrow
  have hswitchLength : l.sueIdx < t.switchDevices.length := by
    by_contra hle
    have hrow := ht.switchDevices l.sueIdx hs
    rw [List.getElem?_eq_none (by omega)] at hrow
    cases hrow
  have hxpuDevice : (⟨allocateMac (t.allocationIndex + 1),
      1 + (before.filter fun b => b.xpuIdx = l.xpuIdx).length⟩ : SueNetDevice) =
      n.xpuDevice l := by
    rw [ht.allocationIndex, length_before hn hlinks, length_before_xpu hn hlinks]
    rfl
  have hswitchDevice : (⟨allocateMac (t.allocationIndex + 2),
      1 + (before.filter fun b => b.sueIdx = l.sueIdx).length⟩ : SueNetDevice) =
      n.switchDevice l := by
    rw [ht.allocationIndex, length_before hn hlinks, length_before_sue hlinks]
    rfl
  have hfree : ¬ (n.subnet l + 1 ∈ t.allocatedAddresses ∨
      n.subnet l + 2 ∈ t.allocatedAddresses) := by
    rintro (h | h)
    · exact hnew _ (by simp [addresses]) h
    · exact hnew _ (by simp [addresses]) h
  simp only [createLink, ht.xpuNodes _ hx, ht.switchNodes _ hs, hxpuDevice, hswitchDevice]
  rw [if_neg hfree, if_neg (by omega)]
  refine ⟨_, rfl, ?_⟩
  constructor
  · simp [ht.allocationIndex]
    omega
  · simp [ht.allocatedAddresses, addresses]
  · exact getElem?_modify_count ht.xpuNodes l
  · exact getElem?_modify_count ht.switchNodes l
  · exact getElem?_modify_filter ht.xpuDevices l
  · exact getElem?_modify_filter ht.switchDevices l
  · simp [ht.channels, channel, globalPortIdx_eq hn hl]

/-- All links are created, if no address is given twice. -/
theorem createConnections_of_nodup (hn : n.Accepted)
    (hnodup : (n.portLinks.flatMap n.addresses).Nodup) :
    ∃ t, n.createConnections = .ok t ∧ n.Linked n.portLinks t := by
  apply foldlM_invariant n.createLink n.Linked n.linked_createNodes
  intro before l after t hlinks ht
  apply createLink_of_linked hn hlinks ht
  intro a ha hmem
  rw [ht.allocatedAddresses] at hmem
  rw [hlinks, List.flatMap_append, List.nodup_append] at hnodup
  exact hnodup.2.2 a hmem a (List.mem_flatMap.mpr ⟨l, by simp, ha⟩) rfl

/-- A link is not created with an address that has been given. -/
theorem createLink_ok_addresses {t t' : TopologyBuilder} {l : PortLink}
    (h : n.createLink t l = .ok t') :
    t'.allocatedAddresses = t.allocatedAddresses ++ n.addresses l ∧
      n.subnet l + 1 ∉ t.allocatedAddresses := by
  unfold createLink at h
  cases hx : t.xpuNodes[l.xpuIdx]? with
  | none => simp [hx] at h
  | some xpuCount =>
      cases hs : t.switchNodes[l.sueIdx]? with
      | none => simp [hx, hs] at h
      | some switchCount =>
          simp only [hx, hs] at h
          by_cases hfree : n.subnet l + 1 ∈ t.allocatedAddresses ∨
              n.subnet l + 2 ∈ t.allocatedAddresses
          · rw [if_pos hfree] at h
            cases h
          · rw [if_neg hfree] at h
            split at h
            · cases h
            · cases h
              exact ⟨rfl, fun h => hfree (Or.inl h)⟩

/-- If all links are created, no two of them have the same subnet. -/
theorem subnet_nodup_of_createConnections {t : TopologyBuilder}
    (h : n.createConnections = .ok t) : (n.portLinks.map n.subnet).Nodup := by
  have hinv : (∀ l ∈ n.portLinks, n.subnet l + 1 ∈ t.allocatedAddresses) ∧
      (n.portLinks.map n.subnet).Nodup := by
    apply foldlM_invariant_of_ok n.createLink
      (fun links t => (∀ l ∈ links, n.subnet l + 1 ∈ t.allocatedAddresses) ∧
        (links.map n.subnet).Nodup) h
    · simp
    · rintro before l b b' hstep ⟨hmem, hnodup⟩
      obtain ⟨haddresses, hnew⟩ := createLink_ok_addresses hstep
      constructor
      · intro y hy
        rw [haddresses, List.mem_append]
        rcases List.mem_append.mp hy with hy | hy
        · exact Or.inl (hmem y hy)
        · rw [List.mem_singleton.mp hy]
          exact Or.inr (by simp [addresses])
      · rw [List.map_append, List.nodup_append]
        refine ⟨hnodup, by simp, ?_⟩
        intro a ha b hb hab
        obtain ⟨y, hy, rfl⟩ := List.mem_map.mp ha
        simp only [List.map_cons, List.map_nil, List.mem_singleton] at hb
        apply hnew
        rw [← hb, ← hab]
        exact hmem y hy
  exact hinv.2

end NetworkConfig

end UeSim
