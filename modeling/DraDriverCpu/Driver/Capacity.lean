import DraDriverCpu.Driver.Exclusive

/-!
# Published capacity and the pool a claim is resolved from

A grouped device publishes its coordinate's allocatable CPUs as capacity, and the scheduler
lets claims share it as long as their consumed quantities fit. `AllocateCPUs` rounds each
quantity away from zero (`Quantity.Value()`) before asking the packing primitive for that
many CPUs, so exact quantities that fit can still ask for more CPUs than the device has:
two claims of half a CPU on a one-CPU socket ask for one CPU each
(`prepareResourceClaim_half_cpus`).

Counted with the rounded values, the accounting agrees with the pool. Along every run of a
started grouped driver, each stored set holds, within each coordinate, at most what its
claim's results there asked for (`Accounted`). Hence, when the rounded requests of the
stored claims and of a new claim fit a device's capacity, the pool of that device holds the
new claim's requests, and its preparation can fail only by naming a device that was not
published (`run_capacity`).

Results:
* `Accounted.ghostPrepare`, `Accounted.ghostUnprepare`: the per-coordinate accounting
  survives every preparation and unpreparation.
* `claimCPUSet_capacity`: on a catalogued, accounted driver a claim whose requests fit never
  fails in the packing primitive.
* `run_capacity`: the same along every run of a started grouped driver.
-/

namespace DraDriverCpu

/-- The CPUs the results of driver `driverName` on device `device` ask for, each count
    rounded as `AllocateCPUs` rounds it (negative counts ask for none). -/
def requestedOn (driverName device : String) (results : List AllocationResult) : ℕ :=
  ((results.filter fun r => r.driver = driverName ∧ r.device = device).map
    fun r => (claimCPUCount r).toNat).sum

/-- The exact `dra.cpu/cpu` quantities the results of driver `driverName` on device `device`
    consume, as the scheduler adds them. -/
def consumedOn (driverName device : String) (results : List AllocationResult) : ℚ :=
  ((results.filter fun r => r.driver = driverName ∧ r.device = device).map
    fun r => (r.consumedCapacity.lookup cpuResourceQualifiedName).getD 0).sum

/-- Modelled from the spec: the driver once `Start` has built it around the manager `m` and
    `PublishResources` has run `CreateSlices`, before any claim is prepared. -/
def startedDriver (env : Env) (name : String) (topo : CPUTopology) (R : CPUSet)
    (m : DeviceManager) : CPUDriver :=
  ⟨name, (m.createSlices env).2, newCPUAllocationStore topo R, ∅⟩

/-! ## The catalogue a grouped driver resolves against -/

/-- What the pool arithmetic needs of a grouped driver and the devices it published: the
    coordinates do not overlap and lie in the store's CPUs, and the index is a bijection
    between the published names and coordinates whose capacity is the coordinate's
    allocatable CPUs. -/
structure Catalogued (published : List Device) (cp : CPUDriver) : Prop where
  grouped : cp.devMgr.IsGrouped
  disjoint : ∀ id id', id ≠ id' → Disjoint (cp.devMgr.coordCPUs id) (cp.devMgr.coordCPUs id')
  within : ∀ id, cp.devMgr.coordCPUs id ⊆ cp.cpuAllocationStore.allCPUs
  indexed : ∀ dev ∈ published, ∃ id, cp.devMgr.coordIndex.lookup dev.name = some id
  published : ∀ d id, cp.devMgr.coordIndex.lookup d = some id → ∃ dev ∈ published, dev.name = d ∧
    dev.capacity.lookup cpuResourceQualifiedName =
      some ((cp.devMgr.coordCPUs id \ cp.cpuAllocationStore.reservedCPUs).card : ℚ)
  injective : ∀ d d' id, cp.devMgr.coordIndex.lookup d = some id →
    cp.devMgr.coordIndex.lookup d' = some id → d = d'

/-- The catalogue facts read only the manager and the store's CPUs and reserved set. -/
theorem Catalogued.of_eq {published : List Device} {cp cp' : CPUDriver} (hc : Catalogued published cp)
    (hm : cp'.devMgr = cp.devMgr) (hall : cp'.cpuAllocationStore.allCPUs = cp.cpuAllocationStore.allCPUs)
    (hres : cp'.cpuAllocationStore.reservedCPUs = cp.cpuAllocationStore.reservedCPUs) :
    Catalogued published cp' := by
  obtain ⟨h₁, h₂, h₃, h₄, h₅, h₆⟩ := hc
  exact ⟨hm ▸ h₁, hm ▸ h₂, hm ▸ hall ▸ h₃, hm ▸ h₄, hm ▸ hres ▸ h₅, hm ▸ h₆⟩

/-- A grouped `CreateSlices` from an empty index, over the ascending coordinates, catalogues
    its devices. -/
theorem catalogued_groupedCreateSlices (name devicePrefix : String)
    (topo : CPUTopology) (R : CPUSet) (f : CPUInfo → ℤ) (attributes : ℤ → CPUSet → Attributes)
    (m : DeviceManager) (hg : m.IsGrouped)
    (hindex : m.coordIndex =
      (groupedCreateSlices devicePrefix (topo.cpuDetails.ids f).list (topo.cpuDetails.cpusWith f) R
        attributes ∅).2)
    (hcpus : m.coordCPUs = topo.cpuDetails.cpusWith f) :
    Catalogued
      (groupedCreateSlices devicePrefix (topo.cpuDetails.ids f).list (topo.cpuDetails.cpusWith f) R
        attributes ∅).1.flatten
      ⟨name, m, newCPUAllocationStore topo R, ∅⟩ := by
  have hdev := groupedCreateSlices_devices devicePrefix (topo.cpuDetails.cpusWith f) R attributes
    (topo.cpuDetails.ids f).list ∅
  refine ⟨hg, ?_, ?_, ?_, ?_, ?_⟩
  · intro id id' h
    simpa only [hcpus] using CPUDetails.disjoint_cpusWith _ f h
  · intro id
    simpa only [hcpus] using CPUDetails.cpusWith_subset f id
  · intro dev hd
    rw [hdev] at hd
    obtain ⟨id, hid, rfl⟩ := List.mem_map.mp hd
    exact ⟨id, by rw [hindex]; exact groupedCreateSlices_lookup _ _ _ _ (CPUSet.list_nodup _) _ hid⟩
  · intro d id hl
    rw [hindex] at hl
    obtain ⟨hid, rfl⟩ := groupedCreateSlices_lookup_eq_some _ _ _ _ _ hl
    refine ⟨_, hdev ▸ List.mem_map_of_mem _ hid, rfl, ?_⟩
    simp [groupedDevice, groupedCapacity, hcpus, newCPUAllocationStore]
  · intro d d' id hd hd'
    rw [hindex] at hd hd'
    exact (groupedCreateSlices_lookup_eq_some _ _ _ _ _ hd).2.trans
      (groupedCreateSlices_lookup_eq_some _ _ _ _ _ hd').2.symm

/-- Both grouped managers, started, catalogue what they published. -/
theorem catalogued_startedDriver (env : Env) (name : String) (topo : CPUTopology) (R : CPUSet)
    (m : DeviceManager)
    (hm : m = .socket (newSocketGroupedManager name topo R) ∨ m = .numa (newNUMAGroupedManager name topo R)) :
    Catalogued (m.createSlices env).1.flatten (startedDriver env name topo R m) := by
  rcases hm with rfl | rfl
  · exact catalogued_groupedCreateSlices name _ topo R CPUInfo.socketID _ _ trivial rfl rfl
  · exact catalogued_groupedCreateSlices name _ topo R CPUInfo.numaNodeID _ _ trivial rfl rfl

/-! ## Accounting along a run -/

/-- Each stored set holds, within each coordinate, at most what the results of the claim it
    was resolved from ask of that coordinate. -/
def Accounted (cp : CPUDriver) (l : Ledger) : Prop :=
  ∀ u S, cp.cpuAllocationStore.allocations.lookup u = some S → ∃ claim, l.lookup u = some claim ∧
    ∀ id, (S ∩ cp.devMgr.coordCPUs id).card ≤
      requestedIn cp.devMgr.driverName cp.devMgr.coordIndex id (claim.allocation.getD [])

section Step

variable {env : Env} (htake : TakeContract env.take) {cp : CPUDriver} {l : Ledger}

include htake in
theorem Accounted.ghostPrepare (hg : cp.devMgr.IsGrouped)
    (hdisj : ∀ id id', id ≠ id' → Disjoint (cp.devMgr.coordCPUs id) (cp.devMgr.coordCPUs id'))
    (ha : Accounted cp l) (c : ResourceClaim × Option String) :
    Accounted (CPUDriver.ghostPrepare env (cp, l) c).1 (CPUDriver.ghostPrepare env (cp, l) c).2 := by
  obtain heq | ⟨S, hc, hdev, hstore, hledger⟩ := CPUDriver.ghostPrepare_cases env (cp, l) c
  · rwa [heq]
  obtain ⟨results, halloc, hS⟩ := CPUDriver.claimCPUSet_ok hc
  have hcount : ∀ id, (S ∩ cp.devMgr.coordCPUs id).card ≤
      requestedIn cp.devMgr.driverName cp.devMgr.coordIndex id results := by
    obtain ⟨notFound, hm⟩ := DeviceManager.allocateCPUs_grouped env hg
    obtain ⟨S₀, hS₀, rfl⟩ := Except.map_eq_ok.mp ((hm _ _).symm.trans hS)
    intro id
    have := groupedAllocLoop_count htake hdisj hS₀ id
    split_ifs
    · simp
    · simpa using this
  intro u U hu
  rw [hstore, CPUAllocationStore.lookup_addResourceClaimAllocation] at hu
  rw [hdev, hledger]
  split_ifs at hu with hu'
  · cases hu
    subst hu'
    exact ⟨c.1, AList.lookup_insert _, by rw [halloc]; exact hcount⟩
  · rw [AList.lookup_insert_ne hu']
    exact ha u U hu

theorem Accounted.ghostUnprepare (ha : Accounted cp l) (c : NamespacedObject × Option String) :
    Accounted (CPUDriver.ghostUnprepare (cp, l) c).1 (CPUDriver.ghostUnprepare (cp, l) c).2 := by
  intro u U hu
  simp only [CPUDriver.ghostUnprepare, CPUDriver.unprepareResourceClaim_store,
    CPUAllocationStore.lookup_removeResourceClaimAllocation] at hu
  split_ifs at hu with hne
  simp only [CPUDriver.ghostUnprepare, CPUDriver.unprepareResourceClaim_devMgr,
    AList.lookup_erase_ne hne]
  exact ha u U hu

end Step

/-! ## The pool of a claim whose requests fit -/

/-- The CPUs the stored claims hold within a coordinate are at most what their results ask
    of it. -/
theorem Accounted.allocated_le {cp : CPUDriver} {l : Ledger} (ha : Accounted cp l) (id : ℤ) :
    (cp.cpuAllocationStore.allocatedCPUs ∩ cp.devMgr.coordCPUs id).card ≤
      (l.entries.map fun e =>
        requestedIn cp.devMgr.driverName cp.devMgr.coordIndex id (e.2.allocation.getD [])).sum := by
  -- the CPUs of the coordinate stored under a ledger entry's UID
  let held : (Σ _ : String, ResourceClaim) → CPUSet :=
    fun e => ((cp.cpuAllocationStore.allocations.lookup e.1).getD ∅) ∩ cp.devMgr.coordCPUs id
  have hsub : cp.cpuAllocationStore.allocatedCPUs ∩ cp.devMgr.coordCPUs id ⊆
      l.entries.foldr (fun e acc => held e ∪ acc) ∅ := by
    intro x hx
    obtain ⟨hx, hxC⟩ := Finset.mem_inter.mp hx
    obtain ⟨u, S, hu, hxS⟩ := CPUAllocationStore.mem_allocatedCPUs.mp hx
    obtain ⟨claim, hl, -⟩ := ha u S hu
    exact (mem_foldr_union held _).mpr
      ⟨⟨u, claim⟩, AList.mem_lookup_iff.mp hl, by simp [held, hu, hxS, hxC]⟩
  have hheld : ∀ e ∈ l.entries, (held e).card ≤
      requestedIn cp.devMgr.driverName cp.devMgr.coordIndex id (e.2.allocation.getD []) := by
    rintro ⟨u, claim⟩ he
    cases hS : cp.cpuAllocationStore.allocations.lookup u with
    | none => simp [held, hS]
    | some S =>
      obtain ⟨claim', hl, hcount⟩ := ha u S hS
      rw [AList.mem_lookup_iff.mpr he, Option.some_inj] at hl
      simpa [held, hS, ← hl] using hcount id
  calc _ ≤ (l.entries.foldr (fun e acc => held e ∪ acc) ∅).card := Finset.card_le_card hsub
    _ ≤ (l.entries.map fun e => (held e).card).sum := card_foldr_union_le held _
    _ ≤ _ := List.sum_le_sum hheld

/-- Every non-reserved CPU of the store is shared or held by a prepared claim. -/
theorem CPUAllocationStore.card_sdiff_reserved_le (st : CPUAllocationStore) {C : CPUSet}
    (hC : C ⊆ st.allCPUs) :
    (C \ st.reservedCPUs).card ≤ (st.getSharedCPUs ∩ C).card + (st.allocatedCPUs ∩ C).card := by
  refine (Finset.card_le_card fun x hx => ?_).trans (Finset.card_union_le _ _)
  obtain ⟨hxC, hxR⟩ := Finset.mem_sdiff.mp hx
  by_cases hxa : x ∈ st.allocatedCPUs <;>
    simp [CPUAllocationStore.getSharedCPUs, hxC, hxR, hxa, hC hxC]

/-- On a catalogued device, asking by name is asking by coordinate. -/
theorem Catalogued.requestedOn_eq {published : List Device} {cp : CPUDriver}
    (hc : Catalogued published cp) {d : String} {id : ℤ} (hd : cp.devMgr.coordIndex.lookup d = some id)
    (results : List AllocationResult) :
    requestedOn cp.devMgr.driverName d results =
      requestedIn cp.devMgr.driverName cp.devMgr.coordIndex id results := by
  unfold requestedOn requestedIn
  congr 2
  refine List.filter_congr fun r _ => ?_
  simp only [decide_eq_decide]
  exact and_congr_right fun _ => ⟨fun h => h ▸ hd, fun h => hc.injective _ _ _ h hd⟩

/-- What `CapacityLaw` concludes: a claim's resolution that fails does so for a claim without
    allocation or at a result of this driver naming a device that was not published. -/
def FailsOnlyUnpublished (published : List Device) (cp : CPUDriver) (claim : ResourceClaim) : Prop :=
  claim.allocation = none ∨ ∃ r ∈ claim.allocation.getD [], r.driver = cp.devMgr.driverName ∧
    r.device ∉ published.map Device.name

/-- On a catalogued, accounted driver, a claim whose rounded requests fit every published
    device beside the stored claims' never fails in the packing primitive. -/
theorem claimCPUSet_capacity {env : Env} (htake : TakeContract env.take) {published : List Device}
    {cp : CPUDriver} {l : Ledger} (hc : Catalogued published cp) (ha : Accounted cp l)
    (claim : ResourceClaim)
    (hcap : ∀ dev ∈ published,
      (((l.entries.map fun e => requestedOn cp.devMgr.driverName dev.name (e.2.allocation.getD [])).sum +
        requestedOn cp.devMgr.driverName dev.name (claim.allocation.getD []) : ℕ) : ℚ) ≤
        (dev.capacity.lookup cpuResourceQualifiedName).getD 0)
    {err : String} (herr : cp.claimCPUSet env claim = .error err) :
    FailsOnlyUnpublished published cp claim := by
  unfold FailsOnlyUnpublished
  cases halloc : claim.allocation with
  | none => exact .inl rfl
  | some results =>
    right
    obtain ⟨notFound, hm⟩ := DeviceManager.allocateCPUs_grouped env hc.grouped
    have h : groupedAllocateCPUs cp.devMgr.driverName cp.devMgr.coordIndex cp.devMgr.coordCPUs notFound
        env.take cp.cpuAllocationStore.getSharedCPUs results = .error err := by
      rw [← hm]; simpa [CPUDriver.claimCPUSet, halloc] using herr
    obtain ⟨r, hr, hd, hnone | ⟨id, hl, hlt⟩⟩ := groupedAllocateCPUs_error htake h
    · refine ⟨r, hr, hd, fun hpub => ?_⟩
      obtain ⟨dev, hdev, hname⟩ := List.mem_map.mp hpub
      obtain ⟨id, hid⟩ := hc.indexed dev hdev
      rw [hname, hnone] at hid
      cases hid
    · -- the pool holds the device's capacity less what the stored claims hold there, which
      -- covers this claim's requests on it, so the packing primitive cannot fall short
      exfalso
      obtain ⟨dev, hdev, hname, hcapdev⟩ := hc.published _ _ hl
      have hfit := hcap dev hdev
      rw [hcapdev, Option.getD_some, hname, halloc, Option.getD_some] at hfit
      simp only [hc.requestedOn_eq hl] at hfit
      have hfit' := Nat.cast_le.mp hfit
      have hheld := ha.allocated_le id
      have hpool := cp.cpuAllocationStore.card_sdiff_reserved_le (hc.within id)
      have hr_le := claimCPUCount_le_requestedIn hr hd hl
      omega

/-- The capacity law of a driver and its ledger: for every claim whose rounded requests fit,
    with those of the stored claims, the capacity of each published device, the claim's
    resolution fails only for a claim without allocation or one naming a device that was not
    published, never in the packing primitive. -/
def CapacityLaw (env : Env) (published : List Device) (cp : CPUDriver) (l : Ledger) : Prop :=
  ∀ claim : ResourceClaim,
    (∀ dev ∈ published,
      (((l.entries.map fun e => requestedOn cp.devMgr.driverName dev.name (e.2.allocation.getD [])).sum +
        requestedOn cp.devMgr.driverName dev.name (claim.allocation.getD []) : ℕ) : ℚ) ≤
        (dev.capacity.lookup cpuResourceQualifiedName).getD 0) →
    ∀ err, cp.claimCPUSet env claim = .error err → FailsOnlyUnpublished published cp claim

/-- Along every run of a started grouped driver, with a packing primitive of the contract,
    the capacity law holds. -/
theorem run_capacity (env : Env) (htake : TakeContract env.take) (name : String)
    (topo : CPUTopology) (R : CPUSet) (m : DeviceManager)
    (hm : m = .socket (newSocketGroupedManager name topo R) ∨ m = .numa (newNUMAGroupedManager name topo R))
    (calls : List KubeletCall) :
    CapacityLaw env (m.createSlices env).1.flatten ((startedDriver env name topo R m).run env calls)
      (CPUDriver.ledger env (startedDriver env name topo R m) calls) := by
  rw [CPUDriver.ledger, ← CPUDriver.ghostRun_fst env calls (startedDriver env name topo R m, ∅)]
  have hc0 := catalogued_startedDriver env name topo R m hm
  have hinv : Catalogued (m.createSlices env).1.flatten
        (calls.foldl (CPUDriver.ghostServe env) (startedDriver env name topo R m, ∅)).1 ∧
      Accounted (calls.foldl (CPUDriver.ghostServe env) (startedDriver env name topo R m, ∅)).1
        (calls.foldl (CPUDriver.ghostServe env) (startedDriver env name topo R m, ∅)).2 :=
    ghostRun_induction (fun s => Catalogued (m.createSlices env).1.flatten s.1 ∧ Accounted s.1 s.2)
      (startedDriver env name topo R m).devMgr
      (fun s c hm' hs => ⟨hs.1.of_eq (by simp [CPUDriver.ghostPrepare]) (by simp [CPUDriver.ghostPrepare])
          (by simp [CPUDriver.ghostPrepare]),
        hs.2.ghostPrepare htake (hm' ▸ hc0.grouped) (hm' ▸ hc0.disjoint) c⟩)
      (fun s c _ hs => ⟨hs.1.of_eq (by simp [CPUDriver.ghostUnprepare])
          (by simp [CPUDriver.ghostUnprepare, CPUAllocationStore.removeResourceClaimAllocation])
          (by simp [CPUDriver.ghostUnprepare, CPUAllocationStore.removeResourceClaimAllocation]),
        hs.2.ghostUnprepare c⟩)
      calls rfl ⟨hc0, fun u S hu => by simp [startedDriver, newCPUAllocationStore] at hu⟩
  exact fun claim hcap err herr => claimCPUSet_capacity htake hinv.1 hinv.2 claim hcap herr

/-- The socket-grouped driver of `twoCPUSocket`, started. -/
def startedSocketDriver : CPUDriver :=
  startedDriver takeFirstEnv "dra.cpu" twoCPUSocket ∅ (.socket (newSocketGroupedManager "dra.cpu" twoCPUSocket ∅))

theorem run_capacity_startedSocketDriver :
    TakeContract takeFirstEnv.take ∧
      ((DeviceManager.socket (newSocketGroupedManager "dra.cpu" twoCPUSocket ∅) =
          .socket (newSocketGroupedManager "dra.cpu" twoCPUSocket ∅) ∨
        DeviceManager.socket (newSocketGroupedManager "dra.cpu" twoCPUSocket ∅) =
          .numa (newNUMAGroupedManager "dra.cpu" twoCPUSocket ∅)) ∧
      CapacityLaw takeFirstEnv
        ((DeviceManager.socket (newSocketGroupedManager "dra.cpu" twoCPUSocket ∅)).createSlices
          takeFirstEnv).1.flatten
        (startedSocketDriver.run takeFirstEnv [.prepare [(socketClaim, none)]])
        (CPUDriver.ledger takeFirstEnv startedSocketDriver [.prepare [(socketClaim, none)]])) :=
  ⟨takeFirst_contract, .inl rfl, run_capacity takeFirstEnv takeFirst_contract "dra.cpu" twoCPUSocket ∅ _
    (.inl rfl) _⟩

/-- One CPU, in socket `0`. -/
def oneCPUSocket : CPUTopology :=
  ⟨false, List.toAList [⟨0, ⟨0, 0, 0, 0, 0, -1, "performance"⟩⟩]⟩

/-- Half a CPU, as the reduced fraction `1 / 2`. -/
def halfCPU : ℚ := ⟨1, 2, by decide, by decide⟩

theorem halfCPU_eq : halfCPU = 1 / 2 := by
  rw [← Rat.num_div_den halfCPU]
  norm_num [halfCPU]

/-- A claim of UID `uid` whose one result consumes half a CPU of `cpudevsocket000`. -/
def halfCPUClaim (uid : String) : ResourceClaim :=
  ⟨uid, "default", uid, some [⟨"dra.cpu", "node", "cpudevsocket000", "cpu",
    List.toAList [⟨cpuResourceQualifiedName, halfCPU⟩]⟩]⟩

/-- The socket-grouped driver of `oneCPUSocket`, started. -/
def halfSocketDriver : CPUDriver :=
  startedDriver takeFirstEnv "dra.cpu" oneCPUSocket ∅ (.socket (newSocketGroupedManager "dra.cpu" oneCPUSocket ∅))

/-- Two claims of half a CPU fit the one-CPU socket device exactly, but each asks for one
    CPU: once the first is prepared, the second, new, fails in the packing primitive on a
    published device. -/
theorem prepareResourceClaim_half_cpus :
    (CPUDriver.ledger takeFirstEnv halfSocketDriver [.prepare [(halfCPUClaim "a", none)]]).entries =
        [⟨"a", halfCPUClaim "a"⟩] ∧
      (∀ dev ∈ ((DeviceManager.socket (newSocketGroupedManager "dra.cpu" oneCPUSocket ∅)).createSlices
          takeFirstEnv).1.flatten,
        consumedOn "dra.cpu" dev.name ((halfCPUClaim "a").allocation.getD []) +
            consumedOn "dra.cpu" dev.name ((halfCPUClaim "b").allocation.getD []) ≤
          (dev.capacity.lookup cpuResourceQualifiedName).getD 0) ∧
      (halfSocketDriver.run takeFirstEnv [.prepare [(halfCPUClaim "a", none)]]).cpuAllocationStore.allocations.lookup
        "b" = none ∧
      (halfSocketDriver.run takeFirstEnv [.prepare [(halfCPUClaim "a", none)]]).claimCPUSet takeFirstEnv
        (halfCPUClaim "b") = .error "not enough cpus available to satisfy request" := by
  refine ⟨rfl, fun dev hdev => ?_, by decide, rfl⟩
  have hids : publishedIDs oneCPUSocket.cpuDetails.cpusInSockets ∅ oneCPUSocket.cpuDetails.sockets.list = [0] := by
    decide
  simp only [DeviceManager.createSlices, SocketGroupedManager.createSlices, newSocketGroupedManager,
    groupedCreateSlices_devices, hids, List.map_cons, List.map_nil, List.mem_singleton] at hdev
  subst hdev
  have hname : cpuDeviceSocketGroupedPrefix ++ sprintf03d 0 = "cpudevsocket000" := by decide
  have hhalf : (List.toAList [⟨cpuResourceQualifiedName, halfCPU⟩] : Capacity).lookup
      cpuResourceQualifiedName = some halfCPU := by decide
  have hcard : (oneCPUSocket.cpuDetails.cpusInSockets 0).card = 1 := by decide
  simp [consumedOn, halfCPUClaim, groupedDevice, groupedCapacity, hcard, hname, hhalf, halfCPU_eq]
  norm_num

end DraDriverCpu
