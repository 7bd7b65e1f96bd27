import UeSim.Config.Topology
import UeSim.Support.KeyedMap

/-!
# The forwarding tables of the switches

`BuildForwardingTables` finds the devices of the links again by index arithmetic: it collects
the MAC addresses of the XPUs by XPU and port, and looks for the switch device of port `p` of
XPU `x` at the place `portsPerSue * x + (p - sueManagedPortStart)` of the switch.  The
arithmetic is right for every topology that is created; a topology is created if and only if at
most one of its links has a subnet that is not an address.
-/

namespace UeSim

namespace NetworkConfig

/-! ## The construction -/

/-- The loops over ports and XPUs that collect the addresses. -/
def collectionOrder (n : NetworkConfig) : List (ℕ × ℕ) :=
  (List.range n.portsPerXpu.toNat).flatMap fun portIdx =>
    (List.range n.nXpus.toNat).map fun xpuIdx => (xpuIdx, portIdx)

/-- The element of a matrix. -/
def entryAt {α : Type} (rows : List (List α)) (i j : ℕ) : Option α :=
  rows[i]?.bind fun row => row[j]?

/-- A matrix with one element replaced. -/
def setEntry {α : Type} (rows : List (List α)) (i j : ℕ) (a : α) : List (List α) :=
  rows.modify i fun row => row.set j a

/-- A round of the collection: `m_xpuMacAddresses[xpuIdx][portIdx] = mac`. -/
def collectMac (t : TopologyBuilder) (macs : List (List Mac48Address)) (i : ℕ × ℕ) :
    Except TopologyFailure (List (List Mac48Address)) :=
  match entryAt t.xpuDevices i.1 i.2, entryAt macs i.1 i.2 with
  | some device, some _ => .ok (setEntry macs i.1 i.2 device.mac)
  | _, _ => .error .outOfBounds

/-- The table of the MAC addresses of the XPUs. -/
def xpuMacAddresses (n : NetworkConfig) (t : TopologyBuilder) :
    Except TopologyFailure (List (List Mac48Address)) :=
  n.collectionOrder.foldlM (collectMac t)
    (List.replicate n.nXpus.toNat (List.replicate n.portsPerXpu.toNat {}))

/-- `sueManagedPortStart`. -/
def sueManagedPortStart (n : NetworkConfig) (switchIdx : ℕ) : ℕ :=
  switchIdx * n.portsPerSue.toNat % 2 ^ 32

/-- `sueManagedPortEnd`. -/
def sueManagedPortEnd (n : NetworkConfig) (switchIdx : ℕ) : ℕ :=
  (n.sueManagedPortStart switchIdx + n.portsPerSue.toNat + (2 ^ 32 - 1)) % 2 ^ 32

/-- The loops over XPUs and the ports that a switch manages. -/
def tableOrder (n : NetworkConfig) (switchIdx : ℕ) : List (ℕ × ℕ) :=
  (List.range n.nXpus.toNat).flatMap fun xpuIdx =>
    (List.range' (n.sueManagedPortStart switchIdx)
      (n.sueManagedPortEnd switchIdx + 1 - n.sueManagedPortStart switchIdx)).map
        fun xpuPortIdx => (xpuIdx, xpuPortIdx)

/-- `switchPortIdx`. -/
def switchPortIdx (n : NetworkConfig) (switchIdx : ℕ) (i : ℕ × ℕ) : ℕ :=
  (n.portsPerSue.toNat * i.1 + (i.2 - n.sueManagedPortStart switchIdx)) % 2 ^ 32

/-- A round of the table: `globalSwitchTables[switchIdx][xpuMac] = switchDev->GetIfIndex()`. -/
def addTableEntry (n : NetworkConfig) (t : TopologyBuilder) (macs : List (List Mac48Address))
    (switchIdx : ℕ) (table : KeyedMap Mac48Address ℕ) (i : ℕ × ℕ) :
    Except TopologyFailure (KeyedMap Mac48Address ℕ) :=
  match entryAt macs i.1 i.2, entryAt t.switchDevices switchIdx (n.switchPortIdx switchIdx i) with
  | some xpuMac, some switchDev => .ok (table.insert xpuMac switchDev.ifIndex)
  | _, _ => .error .outOfBounds

/-- The table of a switch. -/
def switchTable (n : NetworkConfig) (t : TopologyBuilder) (macs : List (List Mac48Address))
    (switchIdx : ℕ) : Except TopologyFailure (KeyedMap Mac48Address ℕ) :=
  (n.tableOrder switchIdx).foldlM (n.addTableEntry t macs switchIdx) ∅

/-- `BuildForwardingTables`. -/
def buildForwardingTables (n : NetworkConfig) (t : TopologyBuilder) :
    Except TopologyFailure (List (KeyedMap Mac48Address ℕ)) := do
  let macs ← n.xpuMacAddresses t
  (List.range n.suesPerXpu.toNat).mapM (n.switchTable t macs)

/-! ## What the tables are for -/

/-- Each port of each XPU has exactly one channel, to the switch of its SUE. -/
def PortsLinked (n : NetworkConfig) (t : TopologyBuilder) : Prop :=
  (∀ x < n.nXpus.toNat, ∀ p < n.portsPerXpu.toNat, ∃! ch, ch ∈ t.channels ∧ ch.xpuIdx = x ∧
    ch.globalPortIdx = p) ∧
  ∀ ch ∈ t.channels, ch.xpuIdx < n.nXpus.toNat ∧ ch.globalPortIdx < n.portsPerXpu.toNat ∧
    ch.switchIdx = ch.globalPortIdx / n.portsPerSue.toNat

/-- A table maps the address of each port that the switch manages to the device that the port
is linked to, and nothing else. -/
def TableRight (n : NetworkConfig) (t : TopologyBuilder) (switchIdx : ℕ)
    (table : KeyedMap Mac48Address ℕ) : Prop :=
  ∀ mac ifIndex, table.lookup mac = some ifIndex ↔
    ∃ ch ∈ t.channels, ch.globalPortIdx / n.portsPerSue.toNat = switchIdx ∧
      ch.xpuDevice.mac = mac ∧ ch.switchDevice.ifIndex = ifIndex

/-- The connections and the tables are built without a failure, and each switch has the right
table. -/
def ForwardsRight (n : NetworkConfig) : Prop :=
  ∃ t tables, n.createConnections = .ok t ∧ n.buildForwardingTables t = .ok tables ∧
    n.PortsLinked t ∧ tables.length = n.suesPerXpu.toNat ∧
    ∀ s < n.suesPerXpu.toNat, ∃ table, tables[s]? = some table ∧ n.TableRight t s table

/-- At most one link has a subnet that is not an address. -/
def AddressesFit (n : NetworkConfig) : Prop :=
  n.nXpus = 0 ∨ n.portsPerXpu = 0 ∨ (n.nXpus ≤ 255 ∧ n.portsPerXpu ≤ 255) ∨
    (n.nXpus = 256 ∧ n.portsPerXpu = 1) ∨ (n.nXpus = 1 ∧ n.portsPerXpu = 256)

instance (n : NetworkConfig) : Decidable n.AddressesFit := by
  unfold AddressesFit
  infer_instance

/-! ## Which addresses there are -/

variable {n : NetworkConfig}

/-- A link is told by its XPU and its port. -/
theorem link_ext {l₁ l₂ : PortLink} (h₁ : l₁ ∈ n.portLinks) (h₂ : l₂ ∈ n.portLinks)
    (hxpu : l₁.xpuIdx = l₂.xpuIdx)
    (hport : l₁.sueIdx * n.portsPerSue.toNat + l₁.portInSue =
      l₂.sueIdx * n.portsPerSue.toNat + l₂.portInSue) : l₁ = l₂ := by
  have hdiv : ∀ l ∈ n.portLinks,
      (l.sueIdx * n.portsPerSue.toNat + l.portInSue) / n.portsPerSue.toNat = l.sueIdx ∧
        (l.sueIdx * n.portsPerSue.toNat + l.portInSue) % n.portsPerSue.toNat = l.portInSue := by
    intro l hl
    have hlt := (mem_portLinks.mp hl).2.2
    rw [Nat.mul_comm, Nat.mul_add_div (by omega), Nat.mul_add_mod, Nat.div_eq_of_lt hlt,
      Nat.mod_eq_of_lt hlt]
    exact ⟨rfl, rfl⟩
  obtain ⟨hsue₁, hin₁⟩ := hdiv l₁ h₁
  obtain ⟨hsue₂, hin₂⟩ := hdiv l₂ h₂
  rw [hport] at hsue₁ hin₁
  cases l₁
  cases l₂
  simp_all

/-- The subnet of a link. -/
theorem subnet_eq (hn : n.Accepted) {l : PortLink} (hl : l ∈ n.portLinks) :
    n.subnet l =
      if l.xpuIdx ≤ 254 ∧ l.sueIdx * n.portsPerSue.toNat + l.portInSue ≤ 254 then
        10 * 2 ^ 24 + (l.xpuIdx + 1) * 2 ^ 16 +
          (l.sueIdx * n.portsPerSue.toNat + l.portInSue + 1) * 2 ^ 8
      else 0 := by
  have hx := (mem_portLinks.mp hl).1
  have hxlt := n.nXpus.toNat_lt
  have hp := port_lt hn hl
  have hplt := n.portsPerXpu.toNat_lt
  rw [subnet, globalPortIdx_eq hn hl, Nat.mod_eq_of_lt (by omega), Nat.mod_eq_of_lt (by omega),
    ipv4Address, inetPton]
  by_cases h : l.xpuIdx ≤ 254 ∧ l.sueIdx * n.portsPerSue.toNat + l.portInSue ≤ 254
  · rw [if_pos h, if_pos (by omega), Option.getD_some, Nat.add_zero]
  · rw [if_neg h, if_neg (by omega), Option.getD_none]

/-- At most one link has a subnet that is not an address. -/
theorem AddressesFit.link_eq (hn : n.Accepted) (hfit : n.AddressesFit) {l₁ l₂ : PortLink}
    (h₁ : l₁ ∈ n.portLinks) (h₂ : l₂ ∈ n.portLinks)
    (hbad₁ : ¬ (l₁.xpuIdx ≤ 254 ∧ l₁.sueIdx * n.portsPerSue.toNat + l₁.portInSue ≤ 254))
    (hbad₂ : ¬ (l₂.xpuIdx ≤ 254 ∧ l₂.sueIdx * n.portsPerSue.toNat + l₂.portInSue ≤ 254)) :
    l₁ = l₂ := by
  have hx₁ := (mem_portLinks.mp h₁).1
  have hx₂ := (mem_portLinks.mp h₂).1
  have hp₁ := port_lt hn h₁
  have hp₂ := port_lt hn h₂
  apply link_ext h₁ h₂
  all_goals
    rcases hfit with h | h | ⟨hx, hp⟩ | ⟨hx, hp⟩ | ⟨hx, hp⟩
    · simp [h] at hx₁
    · simp [h] at hp₁
    · have hx' : n.nXpus.toNat ≤ 255 := hx
      have hp' : n.portsPerXpu.toNat ≤ 255 := hp
      omega
    · have hx' : n.nXpus.toNat = 256 := by rw [hx]; rfl
      have hp' : n.portsPerXpu.toNat = 1 := by rw [hp]; rfl
      omega
    · have hx' : n.nXpus.toNat = 1 := by rw [hx]; rfl
      have hp' : n.portsPerXpu.toNat = 256 := by rw [hp]; rfl
      omega

/-- If they fit, no two links have the same subnet. -/
theorem AddressesFit.subnet_injOn (hn : n.Accepted) (hfit : n.AddressesFit) {l₁ l₂ : PortLink}
    (h₁ : l₁ ∈ n.portLinks) (h₂ : l₂ ∈ n.portLinks) (hsubnet : n.subnet l₁ = n.subnet l₂) :
    l₁ = l₂ := by
  rw [subnet_eq hn h₁, subnet_eq hn h₂] at hsubnet
  by_cases hgood₁ : l₁.xpuIdx ≤ 254 ∧ l₁.sueIdx * n.portsPerSue.toNat + l₁.portInSue ≤ 254
  · rw [if_pos hgood₁] at hsubnet
    by_cases hgood₂ : l₂.xpuIdx ≤ 254 ∧ l₂.sueIdx * n.portsPerSue.toNat + l₂.portInSue ≤ 254
    · rw [if_pos hgood₂] at hsubnet
      apply link_ext h₁ h₂ <;> omega
    · rw [if_neg hgood₂] at hsubnet
      omega
  · by_cases hgood₂ : l₂.xpuIdx ≤ 254 ∧ l₂.sueIdx * n.portsPerSue.toNat + l₂.portInSue ≤ 254
    · rw [if_neg hgood₁, if_pos hgood₂] at hsubnet
      omega
    · exact hfit.link_eq hn h₁ h₂ hgood₁ hgood₂

/-- If they fit, no address is given twice. -/
theorem AddressesFit.nodup (hn : n.Accepted) (hfit : n.AddressesFit) :
    (n.portLinks.flatMap n.addresses).Nodup := by
  have hmod : ∀ l ∈ n.portLinks, n.subnet l % 4 = 0 := by
    intro l hl
    rw [subnet_eq hn hl]
    split_ifs <;> omega
  rw [List.nodup_flatMap]
  refine ⟨fun l _ => by simp [addresses], ?_⟩
  apply (nodup_portLinks hn).imp_of_mem
  intro l₁ l₂ h₁ h₂ hne a ha₁ ha₂
  have hsubnet : n.subnet l₁ ≠ n.subnet l₂ := fun h => hne (hfit.subnet_injOn hn h₁ h₂ h)
  have hmod₁ := hmod l₁ h₁
  have hmod₂ := hmod l₂ h₂
  simp only [addresses, List.mem_cons, List.not_mem_nil, or_false] at ha₁ ha₂
  omega

/-- If they do not fit, two links have the subnet of zero. -/
theorem addressesFit_of_nodup (hn : n.Accepted) (hnodup : (n.portLinks.map n.subnet).Nodup) :
    n.AddressesFit := by
  have hpos := hn.portsPerSue_pos
  have htwo : ∀ x₁ p₁ x₂ p₂, x₁ < n.nXpus.toNat → p₁ < n.portsPerXpu.toNat →
      x₂ < n.nXpus.toNat → p₂ < n.portsPerXpu.toNat → ¬ (x₁ ≤ 254 ∧ p₁ ≤ 254) →
      ¬ (x₂ ≤ 254 ∧ p₂ ≤ 254) → x₁ = x₂ ∧ p₁ = p₂ := by
    intro x₁ p₁ x₂ p₂ hx₁ hp₁ hx₂ hp₂ hbad₁ hbad₂
    have hlink : ∀ x p, x < n.nXpus.toNat → p < n.portsPerXpu.toNat → ¬ (x ≤ 254 ∧ p ≤ 254) →
        (⟨x, p / n.portsPerSue.toNat, p % n.portsPerSue.toNat⟩ : PortLink) ∈ n.portLinks ∧
          n.subnet ⟨x, p / n.portsPerSue.toNat, p % n.portsPerSue.toNat⟩ = 0 := by
      intro x p hx hp hbad
      have hmem : (⟨x, p / n.portsPerSue.toNat, p % n.portsPerSue.toNat⟩ : PortLink) ∈
          n.portLinks := by
        rw [hn.portsPerXpu_eq] at hp
        exact mem_portLinks.mpr ⟨hx, Nat.div_lt_of_lt_mul (by rwa [Nat.mul_comm]),
          Nat.mod_lt _ hpos⟩
      refine ⟨hmem, ?_⟩
      rw [subnet_eq hn hmem, Nat.div_add_mod', if_neg hbad]
    obtain ⟨hmem₁, hzero₁⟩ := hlink x₁ p₁ hx₁ hp₁ hbad₁
    obtain ⟨hmem₂, hzero₂⟩ := hlink x₂ p₂ hx₂ hp₂ hbad₂
    have heq := List.inj_on_of_nodup_map hnodup hmem₁ hmem₂ (hzero₁.trans hzero₂.symm)
    simp only [PortLink.mk.injEq] at heq
    refine ⟨heq.1, ?_⟩
    rw [← Nat.div_add_mod' p₁ n.portsPerSue.toNat, ← Nat.div_add_mod' p₂ n.portsPerSue.toNat,
      heq.2.1, heq.2.2]
  have hvalues : n.nXpus.toNat = 0 ∨ n.portsPerXpu.toNat = 0 ∨
      (n.nXpus.toNat ≤ 255 ∧ n.portsPerXpu.toNat ≤ 255) ∨
      (n.nXpus.toNat = 256 ∧ n.portsPerXpu.toNat = 1) ∨
      (n.nXpus.toNat = 1 ∧ n.portsPerXpu.toNat = 256) := by
    have h₁ := htwo 255 0 256 0
    have h₂ := htwo 255 0 255 1
    have h₃ := htwo 0 255 0 256
    have h₄ := htwo 0 255 1 255
    omega
  rcases hvalues with h | h | ⟨hx, hp⟩ | ⟨hx, hp⟩ | ⟨hx, hp⟩
  · exact Or.inl (UInt32.toNat_inj.mp h)
  · exact Or.inr (Or.inl (UInt32.toNat_inj.mp h))
  · exact Or.inr (Or.inr (Or.inl ⟨hx, hp⟩))
  · exact Or.inr (Or.inr (Or.inr (Or.inl ⟨UInt32.toNat_inj.mp hx, UInt32.toNat_inj.mp hp⟩)))
  · exact Or.inr (Or.inr (Or.inr (Or.inr ⟨UInt32.toNat_inj.mp hx, UInt32.toNat_inj.mp hp⟩)))

/-! ## Which devices there are -/

/-- The counter of the addresses is told by 48 bits. -/
theorem allocateMac_inj {a b : ℕ} (ha : a < 2 ^ 48) (hb : b < 2 ^ 48)
    (h : allocateMac a = allocateMac b) : a = b := by
  have hbyte : ∀ x y : ℕ, UInt8.ofNat x = UInt8.ofNat y → x % 256 = y % 256 := by
    intro x y hxy
    have hnat := congrArg UInt8.toNat hxy
    rwa [UInt8.toNat_ofNat', UInt8.toNat_ofNat'] at hnat
  simp only [allocateMac, Mac48Address.mk.injEq] at h
  obtain ⟨h₀, h₁, h₂, h₃, h₄, h₅⟩ := h
  have h₀' := hbyte _ _ h₀
  have h₁' := hbyte _ _ h₁
  have h₂' := hbyte _ _ h₂
  have h₃' := hbyte _ _ h₃
  have h₄' := hbyte _ _ h₄
  have h₅' := hbyte _ _ h₅
  omega

/-- The last byte of an address has the parity of the counter. -/
theorem isSwitchDevice_allocateMac (a : ℕ) :
    (allocateMac a).isSwitchDevice = decide (a % 2 = 0) := by
  have hmod : (UInt8.ofNat a % 2).toNat = a % 2 := by
    rw [UInt8.toNat_mod, UInt8.toNat_ofNat']
    change a % 256 % 2 = a % 2
    omega
  rw [Mac48Address.isSwitchDevice, decide_eq_decide, ← UInt8.toNat_inj]
  change (UInt8.ofNat a % 2).toNat = 0 ↔ a % 2 = 0
  rw [hmod]

/-- The devices of XPUs are not taken for switch devices. -/
theorem isSwitchDevice_xpuDevice (l : PortLink) :
    (n.xpuDevice l).mac.isSwitchDevice = false := by
  rw [xpuDevice, isSwitchDevice_allocateMac, decide_eq_false_iff_not]
  omega

/-- The devices of switches are taken for switch devices. -/
theorem isSwitchDevice_switchDevice (l : PortLink) :
    (n.switchDevice l).mac.isSwitchDevice = true := by
  rw [switchDevice, isSwitchDevice_allocateMac, decide_eq_true_eq]
  omega

/-- If the addresses fit, there are few links. -/
theorem AddressesFit.mul_le (hfit : n.AddressesFit) :
    n.nXpus.toNat * n.portsPerXpu.toNat ≤ 255 * 255 := by
  rcases hfit with h | h | ⟨hx, hp⟩ | ⟨hx, hp⟩ | ⟨hx, hp⟩
  · simp [h]
  · simp [h]
  · exact Nat.mul_le_mul hx hp
  · simp [hx, hp]
  · simp [hx, hp]

/-- The number of a link is below the number of links. -/
theorem linkOrdinal_lt (hn : n.Accepted) {l : PortLink} (hl : l ∈ n.portLinks) :
    n.linkOrdinal l < n.nXpus.toNat * n.portsPerXpu.toNat :=
  mul_add_lt (mem_portLinks.mp hl).1 (port_lt hn hl)

/-- If the addresses fit, each XPU device has an address of its own. -/
theorem AddressesFit.xpuDevice_inj (hn : n.Accepted) (hfit : n.AddressesFit) {l₁ l₂ : PortLink}
    (h₁ : l₁ ∈ n.portLinks) (h₂ : l₂ ∈ n.portLinks)
    (hmac : (n.xpuDevice l₁).mac = (n.xpuDevice l₂).mac) : l₁ = l₂ := by
  have hcount := hfit.mul_le
  have hlt₁ := linkOrdinal_lt hn h₁
  have hlt₂ := linkOrdinal_lt hn h₂
  have hindex := allocateMac_inj (by omega) (by omega) hmac
  have hordinal : n.linkOrdinal l₁ = n.linkOrdinal l₂ := by omega
  rw [portLinks_eq hn] at h₁ h₂
  obtain ⟨j, -, rfl⟩ := List.mem_map.mp h₁
  obtain ⟨k, -, rfl⟩ := List.mem_map.mp h₂
  rw [linkOrdinal_linkAt, linkOrdinal_linkAt] at hordinal
  rw [hordinal]

/-- The link of a port. -/
def portLink (n : NetworkConfig) (x p : ℕ) : PortLink :=
  ⟨x, p / n.portsPerSue.toNat, p % n.portsPerSue.toNat⟩

theorem portLink_mem (hn : n.Accepted) {x p : ℕ} (hx : x < n.nXpus.toNat)
    (hp : p < n.portsPerXpu.toNat) : n.portLink x p ∈ n.portLinks := by
  rw [hn.portsPerXpu_eq] at hp
  exact mem_portLinks.mpr ⟨hx, Nat.div_lt_of_lt_mul (by rwa [Nat.mul_comm]),
    Nat.mod_lt _ hn.portsPerSue_pos⟩

/-- A link is the link of its port. -/
theorem portLink_eq {l : PortLink} (hl : l ∈ n.portLinks) :
    n.portLink l.xpuIdx (l.sueIdx * n.portsPerSue.toNat + l.portInSue) = l := by
  have hlt := (mem_portLinks.mp hl).2.2
  rw [portLink, Nat.mul_comm, Nat.mul_add_div (by omega), Nat.mul_add_mod, Nat.div_eq_of_lt hlt,
    Nat.mod_eq_of_lt hlt]
  rfl

/-- Each port has exactly one channel. -/
theorem Linked.portsLinked (hn : n.Accepted) {t : TopologyBuilder}
    (ht : n.Linked n.portLinks t) : n.PortsLinked t := by
  constructor
  · intro x hx p hp
    have hmem := portLink_mem hn hx hp
    refine ⟨n.channel (n.portLink x p), ⟨?_, rfl, Nat.div_add_mod' p _⟩, ?_⟩
    · rw [ht.channels]
      exact List.mem_map_of_mem hmem
    · rintro ch ⟨hch, rfl, rfl⟩
      rw [ht.channels] at hch
      obtain ⟨l, hl, rfl⟩ := List.mem_map.mp hch
      exact congrArg n.channel (portLink_eq hl).symm
  · intro ch hch
    rw [ht.channels] at hch
    obtain ⟨l, hl, rfl⟩ := List.mem_map.mp hch
    refine ⟨(mem_portLinks.mp hl).1, port_lt hn hl, ?_⟩
    exact (congrArg PortLink.sueIdx (portLink_eq hl)).symm

/-- The device of port `p` of XPU `x` is at that place. -/
theorem Linked.entryAt_xpuDevices (hn : n.Accepted) {t : TopologyBuilder}
    (ht : n.Linked n.portLinks t) {x p : ℕ} (hx : x < n.nXpus.toNat)
    (hp : p < n.portsPerXpu.toNat) :
    entryAt t.xpuDevices x p = some (n.xpuDevice (n.portLink x p)) := by
  rw [entryAt, ht.xpuDevices x hx, filter_xpuIdx hn hx]
  simp only [Option.bind_some, List.getElem?_map, List.getElem?_range hp, Option.map_some]
  rfl

/-- The device of a link is at its place on the switch. -/
theorem Linked.entryAt_switchDevices {t : TopologyBuilder} (ht : n.Linked n.portLinks t)
    {l : PortLink} (hl : l ∈ n.portLinks) :
    entryAt t.switchDevices l.sueIdx (n.portsPerSue.toNat * l.xpuIdx + l.portInSue) =
      some (n.switchDevice l) := by
  obtain ⟨hx, hs, hp⟩ := mem_portLinks.mp hl
  have hlt : n.portsPerSue.toNat * l.xpuIdx + l.portInSue <
      n.nXpus.toNat * n.portsPerSue.toNat := by
    rw [Nat.mul_comm]
    exact mul_add_lt hx hp
  rw [entryAt, ht.switchDevices _ hs, filter_sueIdx hs]
  simp only [Option.bind_some, List.getElem?_map, List.getElem?_range hlt, Option.map_some]
  rw [Nat.mul_add_div (by omega), Nat.mul_add_mod, Nat.div_eq_of_lt hp, Nat.mod_eq_of_lt hp]
  rfl

/-! ## The tables -/

/-- What a write does to a matrix. -/
theorem entryAt_setEntry {α : Type} (rows : List (List α)) (i j : ℕ) (a : α) (x y : ℕ) :
    entryAt (setEntry rows i j a) x y =
      if i = x ∧ j = y then (entryAt rows x y).map fun _ => a else entryAt rows x y := by
  rw [entryAt, setEntry, List.getElem?_modify, entryAt]
  cases hrow : rows[x]? with
  | none => simp
  | some row =>
      by_cases hi : i = x
      · by_cases hj : j = y
        · subst hj
          simp [hi, List.getElem?_set_self']
          rfl
        · simp [hi, hj, List.getElem?_set_ne hj]
      · simp [hi]

/-- The addresses after some rounds of the collection. -/
def Collected (n : NetworkConfig) (done : List (ℕ × ℕ)) (macs : List (List Mac48Address)) :
    Prop :=
  ∀ x < n.nXpus.toNat, ∀ p < n.portsPerXpu.toNat, ∃ mac, entryAt macs x p = some mac ∧
    ((x, p) ∈ done → mac = (n.xpuDevice (n.portLink x p)).mac)

theorem mem_collectionOrder {x p : ℕ} :
    (x, p) ∈ n.collectionOrder ↔ x < n.nXpus.toNat ∧ p < n.portsPerXpu.toNat := by
  simp only [collectionOrder, List.mem_flatMap, List.mem_map, List.mem_range, Prod.mk.injEq]
  constructor
  · rintro ⟨p, hp, x, hx, rfl, rfl⟩
    exact ⟨hx, hp⟩
  · intro h
    exact ⟨p, h.2, x, h.1, rfl, rfl⟩

/-- A round of the collection finds its device. -/
theorem Linked.collectMac (hn : n.Accepted) {t : TopologyBuilder}
    (ht : n.Linked n.portLinks t) {done : List (ℕ × ℕ)} {macs : List (List Mac48Address)}
    (hdone : n.Collected done macs) {x p : ℕ} (hx : x < n.nXpus.toNat)
    (hp : p < n.portsPerXpu.toNat) :
    ∃ macs', NetworkConfig.collectMac t macs (x, p) = .ok macs' ∧
      n.Collected (done ++ [(x, p)]) macs' := by
  obtain ⟨mac, hentry, -⟩ := hdone x hx p hp
  refine ⟨setEntry macs x p (n.xpuDevice (n.portLink x p)).mac, ?_, ?_⟩
  · simp only [NetworkConfig.collectMac, ht.entryAt_xpuDevices hn hx hp, hentry]
  · intro x' hx' p' hp'
    obtain ⟨mac', hentry', hmac'⟩ := hdone x' hx' p' hp'
    rw [entryAt_setEntry]
    by_cases hsame : x = x' ∧ p = p'
    · obtain ⟨rfl, rfl⟩ := hsame
      exact ⟨_, by rw [if_pos ⟨rfl, rfl⟩, hentry']; rfl, fun _ => rfl⟩
    · refine ⟨mac', by rw [if_neg hsame, hentry'], ?_⟩
      intro h
      rcases List.mem_append.mp h with h | h
      · exact hmac' h
      · simp only [List.mem_singleton, Prod.mk.injEq] at h
        exact absurd ⟨h.1.symm, h.2.symm⟩ hsame

/-- The addresses of the XPUs are collected without a failure. -/
theorem Linked.xpuMacAddresses (hn : n.Accepted) {t : TopologyBuilder}
    (ht : n.Linked n.portLinks t) :
    ∃ macs, n.xpuMacAddresses t = .ok macs ∧ ∀ x < n.nXpus.toNat, ∀ p < n.portsPerXpu.toNat,
      entryAt macs x p = some (n.xpuDevice (n.portLink x p)).mac := by
  have hinit : n.Collected []
      (List.replicate n.nXpus.toNat (List.replicate n.portsPerXpu.toNat {})) := by
    intro x hx p hp
    exact ⟨{}, by simp [entryAt, hx, hp], by simp⟩
  have hall := foldlM_invariant (NetworkConfig.collectMac t) n.Collected (l := n.collectionOrder)
    hinit (by
      rintro before ⟨x, p⟩ after macs horder hbefore
      have hmem : (x, p) ∈ n.collectionOrder := by simp [horder]
      obtain ⟨hx, hp⟩ := mem_collectionOrder.mp hmem
      exact ht.collectMac hn hbefore hx hp)
  obtain ⟨macs, hmacs, hcollected⟩ := hall
  refine ⟨macs, hmacs, ?_⟩
  intro x hx p hp
  obtain ⟨mac, hentry, hmac⟩ := hcollected x hx p hp
  rw [hentry, hmac (mem_collectionOrder.mpr ⟨hx, hp⟩)]

/-- The ports that a switch manages, without a wrap. -/
theorem managedPorts_eq (hn : n.Accepted) {s : ℕ} (hs : s < n.suesPerXpu.toNat) :
    n.sueManagedPortStart s = s * n.portsPerSue.toNat ∧
      n.sueManagedPortEnd s + 1 = s * n.portsPerSue.toNat + n.portsPerSue.toNat := by
  have hpos := hn.portsPerSue_pos
  have hlast : s * n.portsPerSue.toNat + n.portsPerSue.toNat ≤ n.portsPerXpu.toNat := by
    rw [hn.portsPerXpu_eq, ← Nat.succ_mul]
    exact Nat.mul_le_mul_right _ hs
  have hbound := n.portsPerXpu.toNat_lt
  have hstart : n.sueManagedPortStart s = s * n.portsPerSue.toNat :=
    Nat.mod_eq_of_lt (by omega)
  refine ⟨hstart, ?_⟩
  rw [sueManagedPortEnd, hstart]
  omega

/-- The rounds of the table of a switch are its links. -/
theorem mem_tableOrder (hn : n.Accepted) {s : ℕ} (hs : s < n.suesPerXpu.toNat) {x p : ℕ} :
    (x, p) ∈ n.tableOrder s ↔
      x < n.nXpus.toNat ∧ s * n.portsPerSue.toNat ≤ p ∧
        p < s * n.portsPerSue.toNat + n.portsPerSue.toNat := by
  obtain ⟨hstart, hend⟩ := managedPorts_eq hn hs
  simp only [tableOrder, List.mem_flatMap, List.mem_map, List.mem_range, List.mem_range'_1,
    Prod.mk.injEq, hstart, hend]
  constructor
  · rintro ⟨x, hx, p, ⟨hlow, hhigh⟩, rfl, rfl⟩
    exact ⟨hx, hlow, by omega⟩
  · rintro ⟨hx, hlow, hhigh⟩
    exact ⟨x, hx, p, ⟨hlow, by omega⟩, rfl, rfl⟩

/-- The table after some rounds. -/
def TableOf (n : NetworkConfig) (done : List (ℕ × ℕ)) (table : KeyedMap Mac48Address ℕ) : Prop :=
  ∀ mac ifIndex, table.lookup mac = some ifIndex ↔
    ∃ i ∈ done, (n.xpuDevice (n.portLink i.1 i.2)).mac = mac ∧
      (n.switchDevice (n.portLink i.1 i.2)).ifIndex = ifIndex

/-- A port that a switch manages belongs to its SUE. -/
theorem portLink_managed (hn : n.Accepted) {s x p : ℕ} (hs : s < n.suesPerXpu.toNat)
    (hx : x < n.nXpus.toNat) (hlow : s * n.portsPerSue.toNat ≤ p)
    (hhigh : p < s * n.portsPerSue.toNat + n.portsPerSue.toNat) :
    n.portLink x p ∈ n.portLinks ∧ p < n.portsPerXpu.toNat ∧ (n.portLink x p).sueIdx = s ∧
      (n.portLink x p).portInSue = p - s * n.portsPerSue.toNat := by
  obtain ⟨j, rfl⟩ := Nat.exists_eq_add_of_le hlow
  have hj : j < n.portsPerSue.toNat := by omega
  have hp : s * n.portsPerSue.toNat + j < n.portsPerXpu.toNat := by
    rw [hn.portsPerXpu_eq]
    exact mul_add_lt hs hj
  refine ⟨portLink_mem hn hx hp, hp, ?_, ?_⟩
  · rw [portLink, Nat.mul_comm, Nat.mul_add_div (by omega), Nat.div_eq_of_lt hj, Nat.add_zero]
  · rw [portLink, Nat.mul_comm, Nat.mul_add_mod, Nat.mod_eq_of_lt hj, Nat.add_sub_cancel_left]

/-- A round of a table finds its devices, and adds the entry of its link. -/
theorem Linked.addTableEntry (hn : n.Accepted) (hfit : n.AddressesFit) {t : TopologyBuilder}
    (ht : n.Linked n.portLinks t) {macs : List (List Mac48Address)}
    (hmacs : ∀ x < n.nXpus.toNat, ∀ p < n.portsPerXpu.toNat,
      entryAt macs x p = some (n.xpuDevice (n.portLink x p)).mac)
    {s : ℕ} (hs : s < n.suesPerXpu.toNat) {done : List (ℕ × ℕ)}
    (hdone : ∀ i ∈ done, i ∈ n.tableOrder s) {table : KeyedMap Mac48Address ℕ}
    (htable : n.TableOf done table) {i : ℕ × ℕ} (hi : i ∈ n.tableOrder s) :
    ∃ table', n.addTableEntry t macs s table i = .ok table' ∧
      n.TableOf (done ++ [i]) table' := by
  obtain ⟨x, p⟩ := i
  obtain ⟨hx, hlow, hhigh⟩ := (mem_tableOrder hn hs).mp hi
  obtain ⟨hmem, hp, hsue, hport⟩ := portLink_managed hn hs hx hlow hhigh
  have hindex : n.switchPortIdx s (x, p) =
      n.portsPerSue.toNat * (n.portLink x p).xpuIdx + (n.portLink x p).portInSue := by
    have hlt : n.portsPerSue.toNat * x + (p - s * n.portsPerSue.toNat) < 2 ^ 32 := by
      have hcount : x * n.portsPerSue.toNat + (p - s * n.portsPerSue.toNat) <
          n.nXpus.toNat * n.portsPerSue.toNat := mul_add_lt hx (by omega)
      have hle : n.portsPerSue.toNat ≤ n.portsPerXpu.toNat := by
        rw [hn.portsPerXpu_eq]
        exact Nat.le_mul_of_pos_left _ (by omega)
      have hfew := hfit.mul_le
      have hless := Nat.mul_le_mul_left n.nXpus.toNat hle
      rw [Nat.mul_comm]
      omega
    rw [hport, switchPortIdx, (managedPorts_eq hn hs).1]
    exact Nat.mod_eq_of_lt hlt
  have hdevice := ht.entryAt_switchDevices hmem
  rw [hsue, ← hindex] at hdevice
  refine ⟨table.insert (n.xpuDevice (n.portLink x p)).mac
    (n.switchDevice (n.portLink x p)).ifIndex, ?_, ?_⟩
  · simp only [NetworkConfig.addTableEntry, hmacs x hx p hp, hdevice]
  · intro mac ifIndex
    by_cases hmac : (n.xpuDevice (n.portLink x p)).mac = mac
    · subst hmac
      rw [AList.lookup_insert]
      constructor
      · rintro h
        cases h
        exact ⟨(x, p), by simp, rfl, rfl⟩
      · rintro ⟨⟨x', p'⟩, hi', hmac', rfl⟩
        have hi' : (x', p') ∈ n.tableOrder s := by
          rcases List.mem_append.mp hi' with h | h
          · exact hdone _ h
          · rw [List.mem_singleton.mp h]
            exact hi
        obtain ⟨hx', hlow', hhigh'⟩ := (mem_tableOrder hn hs).mp hi'
        obtain ⟨hmem', -⟩ := portLink_managed hn hs hx' hlow' hhigh'
        rw [hfit.xpuDevice_inj hn hmem' hmem hmac']
    · rw [AList.lookup_insert_ne (Ne.symm hmac), htable mac ifIndex]
      constructor
      · rintro ⟨i, hi, h⟩
        exact ⟨i, by simp [hi], h⟩
      · rintro ⟨i, hi, hmac', hif⟩
        rcases List.mem_append.mp hi with h | h
        · exact ⟨i, h, hmac', hif⟩
        · rw [List.mem_singleton.mp h] at hmac'
          exact absurd hmac' hmac

/-- The table of a switch is built without a failure, and is right. -/
theorem Linked.switchTable (hn : n.Accepted) (hfit : n.AddressesFit) {t : TopologyBuilder}
    (ht : n.Linked n.portLinks t) {macs : List (List Mac48Address)}
    (hmacs : ∀ x < n.nXpus.toNat, ∀ p < n.portsPerXpu.toNat,
      entryAt macs x p = some (n.xpuDevice (n.portLink x p)).mac)
    {s : ℕ} (hs : s < n.suesPerXpu.toNat) :
    ∃ table, n.switchTable t macs s = .ok table ∧ n.TableRight t s table := by
  have hall := foldlM_invariant (n.addTableEntry t macs s)
    (fun done table => (∀ i ∈ done, i ∈ n.tableOrder s) ∧ n.TableOf done table)
    (l := n.tableOrder s) (b := ∅) ⟨by simp, fun _ _ => by simp⟩ (by
      rintro before i after table horder ⟨hbefore, htable⟩
      have hi : i ∈ n.tableOrder s := by simp [horder]
      obtain ⟨table', hok, htable'⟩ := ht.addTableEntry hn hfit hmacs hs hbefore htable hi
      refine ⟨table', hok, ?_, htable'⟩
      intro j hj
      rcases List.mem_append.mp hj with h | h
      · exact hbefore j h
      · rw [List.mem_singleton.mp h]
        exact hi)
  obtain ⟨table, hok, -, htable⟩ := hall
  refine ⟨table, hok, ?_⟩
  intro mac ifIndex
  rw [htable mac ifIndex, ht.channels]
  constructor
  · rintro ⟨⟨x, p⟩, hi, hmac, hif⟩
    obtain ⟨hx, hlow, hhigh⟩ := (mem_tableOrder hn hs).mp hi
    obtain ⟨hmem, -, hsue, -⟩ := portLink_managed hn hs hx hlow hhigh
    refine ⟨_, List.mem_map_of_mem hmem, ?_, hmac, hif⟩
    exact (congrArg PortLink.sueIdx (portLink_eq hmem)).trans hsue
  · rintro ⟨ch, hch, hsue, hmac, hif⟩
    obtain ⟨l, hl, rfl⟩ := List.mem_map.mp hch
    have hlink := portLink_eq hl
    have hsue' : l.sueIdx = s := (congrArg PortLink.sueIdx hlink).symm.trans hsue
    have hport := (mem_portLinks.mp hl).2.2
    refine ⟨(l.xpuIdx, l.sueIdx * n.portsPerSue.toNat + l.portInSue), ?_, ?_, ?_⟩
    · rw [mem_tableOrder hn hs, hsue']
      exact ⟨(mem_portLinks.mp hl).1, by omega, by omega⟩
    · rw [hlink]
      exact hmac
    · rw [hlink]
      exact hif

/-- The tables are right if the addresses fit. -/
theorem AddressesFit.forwardsRight (hn : n.Accepted) (hfit : n.AddressesFit) :
    n.ForwardsRight := by
  obtain ⟨t, ht, hlinked⟩ := createConnections_of_nodup hn (hfit.nodup hn)
  obtain ⟨macs, hmacs, hentries⟩ := hlinked.xpuMacAddresses hn
  obtain ⟨tables, htables, hright⟩ := mapM_ok (P := n.TableRight t)
    (l := List.range n.suesPerXpu.toNat)
    fun s hs => hlinked.switchTable hn hfit hentries (List.mem_range.mp hs)
  have hlength : tables.length = n.suesPerXpu.toNat := by
    rw [← hright.length_eq, List.length_range]
  refine ⟨t, tables, ht, ?_, hlinked.portsLinked hn, hlength, ?_⟩
  · rw [buildForwardingTables, hmacs]
    exact htables
  · intro s hs
    have hs' : s < tables.length := by omega
    refine ⟨tables[s], List.getElem?_eq_getElem hs', ?_⟩
    have hget := hright.get (i := s) (by simpa using hs) hs'
    simpa using hget

end NetworkConfig

/-- For what the validation accepts, the forwarding tables are right if and only if at most one
link has a subnet that is not an address. -/
theorem forwardsRight_iff {c c' : SueSimulationConfig} (h : c.validateAndCalculate = .ok c') :
    c'.network.ForwardsRight ↔ c'.network.AddressesFit := by
  have hn := accepted_of_validated h
  constructor
  · rintro ⟨t, tables, ht, -⟩
    exact NetworkConfig.addressesFit_of_nodup hn
      (NetworkConfig.subnet_nodup_of_createConnections ht)
  · intro hfit
    exact hfit.forwardsRight hn

/-- A configuration of the mode with switches. -/
def legacyConfig (nXpus portsPerXpu portsPerSue : UInt32) : SueSimulationConfig where
  network := { nXpus := nXpus, portsPerXpu := portsPerXpu, portsPerSue := portsPerSue }
  systemScenarioMode := "legacy_sue"

/-- The tables of four XPUs with eight ports each. -/
theorem forwardsRight_four_xpus : (legacyConfig 4 8 2).calculate.network.ForwardsRight :=
  (forwardsRight_iff (c := legacyConfig 4 8 2) rfl).mpr (by decide)

/-- The links of XPUs 256 and 257 have the same addresses. -/
theorem not_forwardsRight_of_257_xpus :
    (legacyConfig 257 1 1).validateAndCalculate = .ok (legacyConfig 257 1 1).calculate ∧
      ¬ (legacyConfig 257 1 1).calculate.network.ForwardsRight := by
  refine ⟨rfl, ?_⟩
  rintro ⟨t, tables, ht, -⟩
  have hn := accepted_of_validated (c := legacyConfig 257 1 1) rfl
  have hfit := NetworkConfig.addressesFit_of_nodup hn
    (NetworkConfig.subnet_nodup_of_createConnections ht)
  exact absurd hfit (by decide)

end UeSim
