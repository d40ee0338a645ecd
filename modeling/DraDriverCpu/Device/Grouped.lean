import DraDriverCpu.Device.Basic

/-!
# `SocketGroupedManager` and `NUMAGroupedManager`

Models of the two grouped device managers (`src/unnamed/part_000` and
`src/pkg/device/grouped_numa.go`). They differ in the coordinate (socket or NUMA node),
in the device-name prefix, in the text of the lookup error, and in one place of
`CreateSlices`: the NUMA manager reads the socket of an arbitrary allocatable CPU of the
node (`allocatableCPUs.UnsortedList()[0]`) and adds two NUMA attributes. The shared loops
are `groupedStep` and `groupedAllocLoop`; each manager applies them to its own values.

`getSharedCPUs` is the callback the driver passes at construction. It reads the
allocation store, which nothing writes while one claim is resolved, so every call in the
loop of `AllocateCPUs` returns the same set: the models take that set as `sharedCPUs`.
`cpumanager.TakeByTopologyNUMAPacked` and `cpuset.UnsortedList` are not among the sources
and are parameters: `take` and `unsortedList`.

Results:
* `createSlices_grouped_catalogue`: both managers publish one device per coordinate with an
  allocatable CPU, in ascending order, with its CPU count as capacity and `numCPUs`, indexed
  under its name; the capacities add up to the allocatable CPUs of the topology.
* `numaCreateSlices_socketID`: a NUMA device carries the socket of the first allocatable
  CPU of its node that `UnsortedList` yields; `numaCreateSlices_spanning_node`: on a node
  that spans two sockets the attribute depends on the enumeration order.
* `groupedAllocLoop_subset`: a resolved CPU is a shared CPU of a coordinate named by a result
  of this driver.
* `groupedAllocLoop_repeat`, `allocateCPUs_same_device`: two requests on one device pack
  from the same pool, so the second adds nothing, whatever the packing function.
* `groupedAllocateCPUs_perm`: what a claim resolves to does not depend on the order of its
  results.
* `allocateCPUs_card`: when the packing function returns exactly the requested count from
  its pool and the claim names each device once, a resolved claim holds exactly the CPUs
  its results request (`requestedTotal`).
-/

namespace DraDriverCpu

/-! ## Devices -/

/-- The capacity map of a grouped device: `dra.cpu/cpu` is the number of allocatable CPUs. -/
def groupedCapacity (allocatableCPUs : CPUSet) : Capacity :=
  List.toAList [⟨cpuResourceQualifiedName, (allocatableCPUs.card : ℚ)⟩]

/-- The state of the grouped `CreateSlices` loop: `devices` and the device-name index. -/
structure GroupedEmission where
  devices : List Device
  index : AList (fun _ : String => ℤ)

/-- One iteration of the loop over the coordinate IDs of a grouped `CreateSlices`
    (part_000 lines 54–77, grouped_numa.go lines 54–86): coordinates without an
    allocatable CPU are skipped. -/
def groupedStep (devicePrefix : String) (cpusIn : ℤ → CPUSet) (reservedCPUs : CPUSet)
    (attributes : ℤ → CPUSet → Attributes) (st : GroupedEmission) (id : ℤ) : GroupedEmission :=
  let deviceName := devicePrefix ++ sprintf03d id
  let allocatableCPUs := cpusIn id \ reservedCPUs
  if allocatableCPUs.card = 0 then st
  else
    ⟨st.devices ++ [⟨deviceName, attributes id allocatableCPUs, groupedCapacity allocatableCPUs,
      some true⟩], st.index.insert deviceName id⟩

/-- A grouped `CreateSlices` over the coordinate IDs `ids`: the device list (one slice, or
    none when empty) and the filled index. -/
def groupedCreateSlices (devicePrefix : String) (ids : List ℤ) (cpusIn : ℤ → CPUSet)
    (reservedCPUs : CPUSet) (attributes : ℤ → CPUSet → Attributes)
    (index : AList (fun _ : String => ℤ)) : List (List Device) × AList (fun _ : String => ℤ) :=
  let out := ids.foldl (groupedStep devicePrefix cpusIn reservedCPUs attributes) ⟨[], index⟩
  (if out.devices.length = 0 then [] else [out.devices], out.index)

/-- `SocketGroupedManager`; `getSharedCPUs` is an argument of `allocateCPUs`. -/
structure SocketGroupedManager where
  driverName : String
  cpuTopology : CPUTopology
  reservedCPUs : CPUSet
  deviceNameToSocketID : AList (fun _ : String => ℤ)

/-- `NUMAGroupedManager`; `getSharedCPUs` is an argument of `allocateCPUs`. -/
structure NUMAGroupedManager where
  driverName : String
  cpuTopology : CPUTopology
  reservedCPUs : CPUSet
  deviceNameToNUMANodeID : AList (fun _ : String => ℤ)

/-- `NewSocketGroupedManager(name, topo, resv, getSharedCPUs)`. -/
def newSocketGroupedManager (name : String) (topo : CPUTopology) (resv : CPUSet) :
    SocketGroupedManager :=
  ⟨name, topo, resv, ∅⟩

/-- `NewNUMAGroupedManager(name, topo, resv, getSharedCPUs)`. -/
def newNUMAGroupedManager (name : String) (topo : CPUTopology) (resv : CPUSet) :
    NUMAGroupedManager :=
  ⟨name, topo, resv, ∅⟩

/-- The attributes of a NUMA device (grouped_numa.go lines 65–78): the socket of the first
    CPU `UnsortedList` yields, then the two NUMA attributes. -/
def numaAttributes (topo : CPUTopology) (unsortedList : CPUSet → List ℤ) (numaID : ℤ)
    (allocatableCPUs : CPUSet) : Attributes :=
  let anyCPU := (unsortedList allocatableCPUs).headD 0
  let socketID := (topo.cpuDetails.get anyCPU).socketID
  ((makeGroupedAttributes topo socketID allocatableCPUs).insert "dra.cpu/numaNodeID"
    (.int numaID)).insert "dra.net/numaNode" (.int numaID)

/-- `SocketGroupedManager.CreateSlices` (part_000 lines 49–83). -/
def SocketGroupedManager.createSlices (mgr : SocketGroupedManager) :
    List (List Device) × SocketGroupedManager :=
  let out := groupedCreateSlices cpuDeviceSocketGroupedPrefix mgr.cpuTopology.cpuDetails.sockets.list
    mgr.cpuTopology.cpuDetails.cpusInSockets mgr.reservedCPUs
    (makeGroupedAttributes mgr.cpuTopology) mgr.deviceNameToSocketID
  (out.1, { mgr with deviceNameToSocketID := out.2 })

/-- `NUMAGroupedManager.CreateSlices` (grouped_numa.go lines 49–92), for one enumeration
    order `unsortedList` of CPU sets. -/
def NUMAGroupedManager.createSlices (mgr : NUMAGroupedManager) (unsortedList : CPUSet → List ℤ) :
    List (List Device) × NUMAGroupedManager :=
  let out := groupedCreateSlices cpuDeviceNUMAGroupedPrefix mgr.cpuTopology.cpuDetails.numaNodes.list
    mgr.cpuTopology.cpuDetails.cpusInNUMANodes mgr.reservedCPUs
    (numaAttributes mgr.cpuTopology unsortedList) mgr.deviceNameToNUMANodeID
  (out.1, { mgr with deviceNameToNUMANodeID := out.2 })

@[simp] theorem SocketGroupedManager.createSlices_driverName (mgr : SocketGroupedManager) :
    mgr.createSlices.2.driverName = mgr.driverName := rfl

@[simp] theorem SocketGroupedManager.createSlices_cpuTopology (mgr : SocketGroupedManager) :
    mgr.createSlices.2.cpuTopology = mgr.cpuTopology := rfl

@[simp] theorem SocketGroupedManager.createSlices_reservedCPUs (mgr : SocketGroupedManager) :
    mgr.createSlices.2.reservedCPUs = mgr.reservedCPUs := rfl

@[simp] theorem NUMAGroupedManager.createSlices_driverName (mgr : NUMAGroupedManager)
    (unsortedList : CPUSet → List ℤ) :
    (mgr.createSlices unsortedList).2.driverName = mgr.driverName := rfl

@[simp] theorem NUMAGroupedManager.createSlices_cpuTopology (mgr : NUMAGroupedManager)
    (unsortedList : CPUSet → List ℤ) :
    (mgr.createSlices unsortedList).2.cpuTopology = mgr.cpuTopology := rfl

@[simp] theorem NUMAGroupedManager.createSlices_reservedCPUs (mgr : NUMAGroupedManager)
    (unsortedList : CPUSet → List ℤ) :
    (mgr.createSlices unsortedList).2.reservedCPUs = mgr.reservedCPUs := rfl

/-! ## Claim resolution -/

/-- The CPU count a result asks for: `ConsumedCapacity[dra.cpu/cpu].Value()`, or `0`. -/
def claimCPUCount (alloc : AllocationResult) : ℤ :=
  ((alloc.consumedCapacity.lookup cpuResourceQualifiedName).map quantityValue).getD 0

/-- The loop of a grouped `AllocateCPUs` (part_000 lines 90–116, grouped_numa.go lines
    99–125): for each result of this driver, resolve its device to a coordinate, take
    `claimCPUCount` CPUs from the shared pool within that coordinate, and add them to
    `cpuAssignment`. The first failure is returned. -/
def groupedAllocLoop (driverName : String) (index : AList (fun _ : String => ℤ))
    (cpusIn : ℤ → CPUSet) (notFound : String → String)
    (take : CPUSet → ℤ → Except String CPUSet) (sharedCPUs : CPUSet) :
    List AllocationResult → CPUSet → Except String CPUSet
  | [], cpuAssignment => .ok cpuAssignment
  | alloc :: rest, cpuAssignment =>
    if alloc.driver ≠ driverName then
      groupedAllocLoop driverName index cpusIn notFound take sharedCPUs rest cpuAssignment
    else
      match index.lookup alloc.device with
      | none => .error (notFound alloc.device)
      | some id =>
        match take (sharedCPUs ∩ cpusIn id) (claimCPUCount alloc) with
        | .error err => .error err
        | .ok cur =>
          groupedAllocLoop driverName index cpusIn notFound take sharedCPUs rest (cpuAssignment ∪ cur)

/-- A grouped `AllocateCPUs`: the loop from the empty assignment. -/
def groupedAllocateCPUs (driverName : String) (index : AList (fun _ : String => ℤ))
    (cpusIn : ℤ → CPUSet) (notFound : String → String)
    (take : CPUSet → ℤ → Except String CPUSet) (sharedCPUs : CPUSet)
    (results : List AllocationResult) : Except String CPUSet :=
  (groupedAllocLoop driverName index cpusIn notFound take sharedCPUs results ∅).map
    fun cpuAssignment => if cpuAssignment.card = 0 then ∅ else cpuAssignment

/-- `SocketGroupedManager.AllocateCPUs(claim)`, on the claim's allocation results. -/
def SocketGroupedManager.allocateCPUs (mgr : SocketGroupedManager)
    (take : CPUSet → ℤ → Except String CPUSet) (sharedCPUs : CPUSet)
    (results : List AllocationResult) : Except String CPUSet :=
  groupedAllocateCPUs mgr.driverName mgr.deviceNameToSocketID mgr.cpuTopology.cpuDetails.cpusInSockets
    (fun device => "no valid socket ID found for device " ++ device) take sharedCPUs results

/-- `NUMAGroupedManager.AllocateCPUs(claim)`, on the claim's allocation results. -/
def NUMAGroupedManager.allocateCPUs (mgr : NUMAGroupedManager)
    (take : CPUSet → ℤ → Except String CPUSet) (sharedCPUs : CPUSet)
    (results : List AllocationResult) : Except String CPUSet :=
  groupedAllocateCPUs mgr.driverName mgr.deviceNameToNUMANodeID mgr.cpuTopology.cpuDetails.cpusInNUMANodes
    (fun device => "no valid NUMA node ID found for device " ++ device) take sharedCPUs results

/-! ## The packing primitive -/

/-- The contract of `cpumanager.TakeByTopologyNUMAPacked` that this layer relies on (the
    spec's packing primitive): a selection is drawn from the pool and holds exactly the
    requested count (none for a count below one), and a pool with at least that many CPUs
    always yields one. -/
structure TakeContract (take : CPUSet → ℤ → Except String CPUSet) : Prop where
  subset : ∀ pool n S, take pool n = .ok S → S ⊆ pool
  card : ∀ pool n S, take pool n = .ok S → (S.card : ℤ) = max n 0
  ok_of_le : ∀ pool n, n ≤ pool.card → ∃ S, take pool n = .ok S

/-- A packing function that meets the contract: the lowest `n` CPUs of the pool. -/
def takeFirst (pool : CPUSet) (n : ℤ) : Except String CPUSet :=
  if n ≤ pool.card then .ok (pool.list.take n.toNat).toFinset
  else .error "not enough cpus available to satisfy request"

theorem takeFirst_contract : TakeContract takeFirst where
  subset pool n S h := by
    unfold takeFirst at h
    split at h
    · cases h
      exact fun c hc => CPUSet.mem_list.mp (List.mem_of_mem_take (List.mem_toFinset.mp hc))
    · cases h
  card pool n S h := by
    unfold takeFirst at h
    split at h
    · cases h
      rw [List.toFinset_card_of_nodup ((List.take_sublist _ _).nodup pool.list_nodup),
        List.length_take, CPUSet.length_list]
      omega
    · cases h
  ok_of_le pool n h := ⟨_, if_pos h⟩

/-! ## `CreateSlices` -/

section CreateSlices

variable (devicePrefix : String) (cpusIn : ℤ → CPUSet) (reservedCPUs : CPUSet)
  (attributes : ℤ → CPUSet → Attributes)

/-- The coordinates of `ids` that get a device: those with an allocatable CPU. -/
def publishedIDs (ids : List ℤ) : List ℤ :=
  ids.filter fun id => (cpusIn id \ reservedCPUs).Nonempty

/-- The device published for coordinate `id`. -/
def groupedDevice (id : ℤ) : Device :=
  ⟨devicePrefix ++ sprintf03d id, attributes id (cpusIn id \ reservedCPUs),
    groupedCapacity (cpusIn id \ reservedCPUs), some true⟩

/-- The loop appends the device of each coordinate with an allocatable CPU and indexes it
    under its name. -/
theorem groupedStep_foldl (ids : List ℤ) (st : GroupedEmission) :
    (ids.foldl (groupedStep devicePrefix cpusIn reservedCPUs attributes) st).devices =
        st.devices ++ (publishedIDs cpusIn reservedCPUs ids).map
          (groupedDevice devicePrefix cpusIn reservedCPUs attributes) ∧
      (ids.foldl (groupedStep devicePrefix cpusIn reservedCPUs attributes) st).index =
        (publishedIDs cpusIn reservedCPUs ids).foldl
          (fun idx id => idx.insert (devicePrefix ++ sprintf03d id) id) st.index := by
  induction ids generalizing st with
  | nil => simp [publishedIDs]
  | cons id ids ih =>
    rw [List.foldl_cons, (ih _).1, (ih _).2]
    by_cases h : (cpusIn id \ reservedCPUs).Nonempty
    · simp [groupedStep, publishedIDs, List.filter_cons, h, Finset.card_ne_zero.mpr h,
        groupedDevice]
    · simp [groupedStep, publishedIDs, List.filter_cons, h, Finset.not_nonempty_iff_eq_empty.mp h]

/-- A grouped `CreateSlices` returns no slice when no coordinate has an allocatable CPU, and
    otherwise one slice holding every device: it never chunks. -/
theorem groupedCreateSlices_fst (ids : List ℤ) (index : AList (fun _ : String => ℤ)) :
    (groupedCreateSlices devicePrefix ids cpusIn reservedCPUs attributes index).1 =
      if publishedIDs cpusIn reservedCPUs ids = [] then []
      else [(publishedIDs cpusIn reservedCPUs ids).map
        (groupedDevice devicePrefix cpusIn reservedCPUs attributes)] := by
  have h := (groupedStep_foldl devicePrefix cpusIn reservedCPUs attributes ids ⟨[], index⟩).1
  rw [List.nil_append] at h
  simp only [groupedCreateSlices, h, List.length_map, List.length_eq_zero]

theorem groupedCreateSlices_devices (ids : List ℤ) (index : AList (fun _ : String => ℤ)) :
    (groupedCreateSlices devicePrefix ids cpusIn reservedCPUs attributes index).1.flatten =
      (publishedIDs cpusIn reservedCPUs ids).map
        (groupedDevice devicePrefix cpusIn reservedCPUs attributes) := by
  rw [groupedCreateSlices_fst]
  split_ifs with h
  · rw [h]; rfl
  · exact List.flatten_singleton _

/-- The coordinates that get a device, as a set. -/
theorem toFinset_publishedIDs (coords : CPUSet) :
    (publishedIDs cpusIn reservedCPUs coords.list).toFinset =
      coords.filter fun id => (cpusIn id \ reservedCPUs).Nonempty := by
  ext id
  simp [publishedIDs, CPUSet.mem_list]

theorem length_publishedIDs (coords : CPUSet) :
    (publishedIDs cpusIn reservedCPUs coords.list).length =
      (coords.filter fun id => (cpusIn id \ reservedCPUs).Nonempty).card := by
  rw [← toFinset_publishedIDs]
  exact (List.toFinset_card_of_nodup (coords.list_nodup.filter _)).symm

/-- Started from an empty index, the index holds only the published coordinates, each
    under its name. -/
theorem groupedCreateSlices_lookup_eq_some (ids : List ℤ) {device : String} {id : ℤ}
    (h : (groupedCreateSlices devicePrefix ids cpusIn reservedCPUs attributes ∅).2.lookup device =
      some id) :
    id ∈ publishedIDs cpusIn reservedCPUs ids ∧ device = devicePrefix ++ sprintf03d id := by
  simp only [groupedCreateSlices, (groupedStep_foldl devicePrefix cpusIn reservedCPUs attributes ids _).2]
    at h
  rcases foldl_insert_lookup_eq_some (devicePrefix ++ sprintf03d ·) (fun id => id) _ _ h with
    h | ⟨x, hx, hname, rfl⟩
  · simp at h
  · exact ⟨hx, hname.symm⟩

theorem groupedCreateSlices_lookup {ids : List ℤ} (hids : ids.Nodup)
    (index : AList (fun _ : String => ℤ)) {id : ℤ} (hid : id ∈ publishedIDs cpusIn reservedCPUs ids) :
    (groupedCreateSlices devicePrefix ids cpusIn reservedCPUs attributes index).2.lookup
      (devicePrefix ++ sprintf03d id) = some id := by
  simp only [groupedCreateSlices, (groupedStep_foldl devicePrefix cpusIn reservedCPUs attributes ids _).2]
  exact foldl_insert_lookup (devicePrefix ++ sprintf03d ·) (fun id => id) _
    ((hids.filter _).map (append_sprintf03d_injective devicePrefix)) _ hid

end CreateSlices

/-- What a grouped `CreateSlices` publishes over the coordinates `coords` whose CPUs are
    `cpusIn`, for the reserved set `R` and the topology's CPUs `allCPUs`: the device names
    are those of the coordinates with an allocatable CPU, in ascending order; each device's
    capacity and `numCPUs` count its coordinate's allocatable CPUs, and the index maps its
    name back to the coordinate; the names are distinct; the capacities add up to the
    allocatable CPUs of the topology. -/
def GroupedCatalogue (devicePrefix : String) (coords : CPUSet) (cpusIn : ℤ → CPUSet)
    (R allCPUs : CPUSet) (slices : List (List Device)) (index : AList (fun _ : String => ℤ)) :
    Prop :=
  slices.flatten.map Device.name =
      (coords.list.filter fun id => (cpusIn id \ R).Nonempty).map (devicePrefix ++ sprintf03d ·) ∧
    (∀ dev ∈ slices.flatten, ∀ id, dev.name = devicePrefix ++ sprintf03d id →
      dev.capacity.lookup cpuResourceQualifiedName = some ((cpusIn id \ R).card : ℚ) ∧
      dev.intAttr "dra.cpu/numCPUs" = some ((cpusIn id \ R).card : ℤ) ∧
      index.lookup dev.name = some id) ∧
    (slices.flatten.map Device.name).Nodup ∧
    (slices.flatten.map fun dev => (dev.capacity.lookup cpuResourceQualifiedName).getD 0).sum =
      ((allCPUs \ R).card : ℚ)

/-- A grouped `CreateSlices` over the ascending coordinates publishes its catalogue, when
    the attributes count the allocatable CPUs and the coordinates partition the CPUs. -/
theorem groupedCreateSlices_catalogue (devicePrefix : String) (coords allCPUs : CPUSet)
    (cpusIn : ℤ → CPUSet) (R : CPUSet) (attributes : ℤ → CPUSet → Attributes)
    (index : AList (fun _ : String => ℤ))
    (hnum : ∀ id s, (attributes id s).lookup "dra.cpu/numCPUs" = some (.int s.card))
    (hsum : ∑ id ∈ coords, (cpusIn id \ R).card = (allCPUs \ R).card) :
    GroupedCatalogue devicePrefix coords cpusIn R allCPUs
      (groupedCreateSlices devicePrefix coords.list cpusIn R attributes index).1
      (groupedCreateSlices devicePrefix coords.list cpusIn R attributes index).2 := by
  have hdev := groupedCreateSlices_devices devicePrefix cpusIn R attributes coords.list index
  have hnodup : (publishedIDs cpusIn R coords.list).Nodup := coords.list_nodup.filter _
  refine ⟨?names, ?devices, ?distinct, ?sum⟩
  case names => rw [hdev, List.map_map]; rfl
  case devices =>
    intro dev hd id hname
    rw [hdev] at hd
    obtain ⟨id', hid', rfl⟩ := List.mem_map.mp hd
    obtain rfl : id' = id := append_sprintf03d_injective devicePrefix hname
    exact ⟨by simp [groupedDevice, groupedCapacity], by simp [groupedDevice, Device.intAttr, hnum],
      groupedCreateSlices_lookup devicePrefix cpusIn R attributes coords.list_nodup index hid'⟩
  case distinct =>
    rw [hdev, List.map_map]
    exact hnodup.map (append_sprintf03d_injective devicePrefix)
  case sum =>
    have hpos : ∀ id ∈ coords, ((cpusIn id \ R).card : ℚ) ≠ 0 → (cpusIn id \ R).Nonempty :=
      fun id _ h => Finset.card_ne_zero.mp (by exact_mod_cast h)
    rw [hdev, List.map_map]
    calc ((publishedIDs cpusIn R coords.list).map fun id => ((cpusIn id \ R).card : ℚ)).sum
        = ∑ id ∈ coords.filter (fun id => (cpusIn id \ R).Nonempty), ((cpusIn id \ R).card : ℚ) := by
          rw [← toFinset_publishedIDs, List.sum_toFinset _ hnodup]
      _ = ((allCPUs \ R).card : ℚ) := by
          rw [Finset.sum_filter_of_ne hpos, ← Nat.cast_sum, hsum]

@[simp] theorem numaAttributes_numCPUs (topo : CPUTopology) (unsortedList : CPUSet → List ℤ)
    (numaID : ℤ) (s : CPUSet) :
    (numaAttributes topo unsortedList numaID s).lookup "dra.cpu/numCPUs" = some (.int s.card) := by
  simp [numaAttributes]

/-- Both grouped managers publish their catalogue, whatever the topology, the reserved set,
    the index left by an earlier call and, for NUMA nodes, the enumeration order. -/
theorem createSlices_grouped_catalogue (smgr : SocketGroupedManager) (nmgr : NUMAGroupedManager)
    (unsortedList : CPUSet → List ℤ) :
    GroupedCatalogue cpuDeviceSocketGroupedPrefix smgr.cpuTopology.cpuDetails.sockets
        smgr.cpuTopology.cpuDetails.cpusInSockets smgr.reservedCPUs smgr.cpuTopology.cpuDetails.cpus
        smgr.createSlices.1 smgr.createSlices.2.deviceNameToSocketID ∧
      GroupedCatalogue cpuDeviceNUMAGroupedPrefix nmgr.cpuTopology.cpuDetails.numaNodes
        nmgr.cpuTopology.cpuDetails.cpusInNUMANodes nmgr.reservedCPUs nmgr.cpuTopology.cpuDetails.cpus
        (nmgr.createSlices unsortedList).1 (nmgr.createSlices unsortedList).2.deviceNameToNUMANodeID :=
  ⟨groupedCreateSlices_catalogue cpuDeviceSocketGroupedPrefix _ _ _ smgr.reservedCPUs _
      smgr.deviceNameToSocketID (makeGroupedAttributes_numCPUs _)
      (CPUDetails.sum_card_cpusWith_sdiff _ _),
    groupedCreateSlices_catalogue cpuDeviceNUMAGroupedPrefix _ _ _ nmgr.reservedCPUs _
      nmgr.deviceNameToNUMANodeID (numaAttributes_numCPUs _ _)
      (CPUDetails.sum_card_cpusWith_sdiff _ _)⟩

/-! ## The socket of a NUMA device -/

@[simp] theorem numaAttributes_socketID (topo : CPUTopology) (unsortedList : CPUSet → List ℤ)
    (numaID : ℤ) (s : CPUSet) :
    (numaAttributes topo unsortedList numaID s).lookup "dra.cpu/socketID" =
      some (.int (topo.cpuDetails.get ((unsortedList s).headD 0)).socketID) := by
  simp [numaAttributes]

/-- Each NUMA device carries the socket of the first CPU `UnsortedList` yields for the
    allocatable CPUs of its node, which is one of them; so when they share a socket, that
    socket. -/
def NUMASocketAttribute (mgr : NUMAGroupedManager) (unsortedList : CPUSet → List ℤ) : Prop :=
  ∀ dev ∈ (mgr.createSlices unsortedList).1.flatten, ∃ id,
    dev.name = cpuDeviceNUMAGroupedPrefix ++ sprintf03d id ∧
    (unsortedList (mgr.cpuTopology.cpuDetails.cpusInNUMANodes id \ mgr.reservedCPUs)).headD 0 ∈
      mgr.cpuTopology.cpuDetails.cpusInNUMANodes id \ mgr.reservedCPUs ∧
    dev.intAttr "dra.cpu/socketID" = some (mgr.cpuTopology.cpuDetails.get
      ((unsortedList (mgr.cpuTopology.cpuDetails.cpusInNUMANodes id \ mgr.reservedCPUs)).headD 0)).socketID ∧
    ∀ socket : ℤ, (∀ c ∈ mgr.cpuTopology.cpuDetails.cpusInNUMANodes id \ mgr.reservedCPUs,
      (mgr.cpuTopology.cpuDetails.get c).socketID = socket) →
      dev.intAttr "dra.cpu/socketID" = some socket

/-- For an `UnsortedList` that enumerates each set, the NUMA devices carry the socket of
    the first allocatable CPU of their node that it yields. -/
theorem numaCreateSlices_socketID (mgr : NUMAGroupedManager) (unsortedList : CPUSet → List ℤ)
    (hlist : ∀ (s : CPUSet) (x : ℤ), x ∈ unsortedList s ↔ x ∈ s) :
    NUMASocketAttribute mgr unsortedList := by
  intro dev hdev
  rw [NUMAGroupedManager.createSlices, groupedCreateSlices_devices] at hdev
  obtain ⟨id, hid, rfl⟩ := List.mem_map.mp hdev
  obtain ⟨c, hc⟩ := (List.mem_filter.mp hid).2 |> decide_eq_true_eq.mp
  have hhead : (unsortedList (mgr.cpuTopology.cpuDetails.cpusInNUMANodes id \ mgr.reservedCPUs)).headD 0 ∈
      mgr.cpuTopology.cpuDetails.cpusInNUMANodes id \ mgr.reservedCPUs := by
    cases hl : unsortedList (mgr.cpuTopology.cpuDetails.cpusInNUMANodes id \ mgr.reservedCPUs) with
    | nil => simp [← hlist, hl] at hc
    | cons x xs => exact (hlist _ x).mp (hl ▸ List.mem_cons_self x xs)
  have hattr : (groupedDevice cpuDeviceNUMAGroupedPrefix mgr.cpuTopology.cpuDetails.cpusInNUMANodes
      mgr.reservedCPUs (numaAttributes mgr.cpuTopology unsortedList) id).intAttr "dra.cpu/socketID" =
      some (mgr.cpuTopology.cpuDetails.get ((unsortedList
        (mgr.cpuTopology.cpuDetails.cpusInNUMANodes id \ mgr.reservedCPUs)).headD 0)).socketID := by
    simp [groupedDevice, Device.intAttr]
  exact ⟨id, rfl, hhead, hattr, fun socket hs => hattr.trans (congrArg some (hs _ hhead))⟩

/-- One NUMA node whose two CPUs lie in two sockets. -/
def spanningNode : CPUTopology :=
  ⟨false, List.toAList
    [⟨0, ⟨0, 0, 0, 0, 0, -1, "performance"⟩⟩, ⟨1, ⟨1, 1, 1, 0, 0, -1, "performance"⟩⟩]⟩

theorem numaCreateSlices_socketID_spanningNode :
    (∀ (s : CPUSet) (x : ℤ), x ∈ s.list ↔ x ∈ s) ∧
      NUMASocketAttribute (newNUMAGroupedManager "dra.cpu" spanningNode ∅) CPUSet.list :=
  ⟨fun _ _ => CPUSet.mem_list,
    numaCreateSlices_socketID _ CPUSet.list fun _ _ => CPUSet.mem_list⟩

/-- On a NUMA node spanning two sockets the attribute is the socket of whichever CPU
    `UnsortedList` yields first: `0` in ascending order, `1` in descending order, while CPU
    `1` of the node lies in socket `1`. -/
theorem numaCreateSlices_spanning_node :
    ((newNUMAGroupedManager "dra.cpu" spanningNode ∅).createSlices CPUSet.list).1.flatten.map
        (Device.intAttr · "dra.cpu/socketID") = [some 0] ∧
      ((newNUMAGroupedManager "dra.cpu" spanningNode ∅).createSlices
        (fun s => s.list.reverse)).1.flatten.map (Device.intAttr · "dra.cpu/socketID") = [some 1] ∧
      1 ∈ spanningNode.cpuDetails.cpusInNUMANodes 0 ∧ (spanningNode.cpuDetails.get 1).socketID = 1 := by
  decide

/-! ## `AllocateCPUs` -/

section Allocate

variable {driverName : String} {index : AList (fun _ : String => ℤ)} {cpusIn : ℤ → CPUSet}
  {notFound : String → String} {take : CPUSet → ℤ → Except String CPUSet} {sharedCPUs : CPUSet}

/-- What one iteration does in a loop that succeeds: a result of another driver is skipped;
    a result of this driver resolves to a coordinate whose pool yields a selection, and the
    rest of the loop starts from the assignment with it added. -/
theorem groupedAllocLoop_cons_eq_ok {r : AllocationResult} {rest : List AllocationResult}
    {acc S : CPUSet} :
    groupedAllocLoop driverName index cpusIn notFound take sharedCPUs (r :: rest) acc = .ok S ↔
      (r.driver ≠ driverName ∧
        groupedAllocLoop driverName index cpusIn notFound take sharedCPUs rest acc = .ok S) ∨
      (r.driver = driverName ∧ ∃ id cur, index.lookup r.device = some id ∧
        take (sharedCPUs ∩ cpusIn id) (claimCPUCount r) = .ok cur ∧
        groupedAllocLoop driverName index cpusIn notFound take sharedCPUs rest (acc ∪ cur) = .ok S) := by
  simp only [groupedAllocLoop]
  split_ifs with hd
  · simp [hd]
  · rw [not_not] at hd
    rcases hl : index.lookup r.device with _ | id
    · simp [hd]
    · rcases ht : take (sharedCPUs ∩ cpusIn id) (claimCPUCount r) with err | cur <;> simp [hd, ht]

/-- The loop reads a result only through its driver, its device and its count, and the
    pool it packs from does not change: a result followed by another one that agrees on
    these three adds nothing. -/
theorem groupedAllocLoop_repeat {r r' : AllocationResult} (hdriver : r'.driver = r.driver)
    (hdevice : r'.device = r.device) (hcount : claimCPUCount r' = claimCPUCount r)
    (rest : List AllocationResult) (acc : CPUSet) :
    groupedAllocLoop driverName index cpusIn notFound take sharedCPUs (r :: r' :: rest) acc =
      groupedAllocLoop driverName index cpusIn notFound take sharedCPUs (r :: rest) acc := by
  by_cases hd : r.driver ≠ driverName
  · simp only [groupedAllocLoop, hdriver, if_pos hd]
  · simp only [groupedAllocLoop, hdriver, hdevice, hcount, if_neg hd]
    cases hl : index.lookup r.device with
    | none => rfl
    | some id =>
      cases ht : take (sharedCPUs ∩ cpusIn id) (claimCPUCount r) with
      | error err => simp only [ht]
      | ok cur =>
        rw [hdevice, hl]
        simp only [ht, Finset.union_assoc, Finset.union_self]

/-- Every CPU a successful loop adds is a shared CPU within the coordinate of a device
    named by a result of this driver, when packing selects within its pool. -/
theorem groupedAllocLoop_subset (hsub : ∀ pool n S, take pool n = .ok S → S ⊆ pool)
    {results : List AllocationResult} {acc S : CPUSet}
    (h : groupedAllocLoop driverName index cpusIn notFound take sharedCPUs results acc = .ok S)
    {c : ℤ} (hc : c ∈ S) :
    c ∈ acc ∨ c ∈ sharedCPUs ∧ ∃ r ∈ results, r.driver = driverName ∧
      ∃ id, index.lookup r.device = some id ∧ c ∈ cpusIn id := by
  induction results generalizing acc with
  | nil => cases h; exact .inl hc
  | cons r rest ih =>
    rcases groupedAllocLoop_cons_eq_ok.mp h with ⟨-, h⟩ | ⟨hd, id, cur, hl, ht, h⟩
    · rcases ih h with hacc | ⟨hs, r', hr', hrest⟩
      · exact .inl hacc
      · exact .inr ⟨hs, r', List.mem_cons_of_mem _ hr', hrest⟩
    · rcases ih h with hacc | ⟨hs, r', hr', hrest⟩
      · rcases Finset.mem_union.mp hacc with hacc | hcur
        · exact .inl hacc
        · have := Finset.mem_inter.mp (hsub _ _ _ ht hcur)
          exact .inr ⟨this.1, r, List.mem_cons_self _ _, hd, id, hl, this.2⟩
      · exact .inr ⟨hs, r', List.mem_cons_of_mem _ hr', hrest⟩

/-- A loop fails exactly when a result of this driver names an unindexed device or its
    packing fails, whatever the starting assignment. -/
theorem groupedAllocLoop_error_iff {results : List AllocationResult} {acc : CPUSet} :
    (∃ e, groupedAllocLoop driverName index cpusIn notFound take sharedCPUs results acc = .error e) ↔
      ∃ r ∈ results, r.driver = driverName ∧ ∀ id, index.lookup r.device = some id →
        ∃ e, take (sharedCPUs ∩ cpusIn id) (claimCPUCount r) = .error e := by
  induction results generalizing acc with
  | nil => simp [groupedAllocLoop]
  | cons r rest ih =>
    by_cases hd : r.driver = driverName
    · rcases hl : index.lookup r.device with _ | id
      · simp [groupedAllocLoop, hd, hl]
      · rcases ht : take (sharedCPUs ∩ cpusIn id) (claimCPUCount r) with err | cur
        · simp [groupedAllocLoop, hd, hl, ht]
        · simp [groupedAllocLoop, hd, hl, ht, ih]
    · simp [groupedAllocLoop, hd, ih]

/-- A successful loop adds to the assignment exactly the selections of the results of this
    driver. -/
theorem mem_groupedAllocLoop {results : List AllocationResult} {acc S : CPUSet}
    (h : groupedAllocLoop driverName index cpusIn notFound take sharedCPUs results acc = .ok S)
    {x : ℤ} :
    x ∈ S ↔ x ∈ acc ∨ ∃ r ∈ results, r.driver = driverName ∧ ∃ id cur,
      index.lookup r.device = some id ∧ take (sharedCPUs ∩ cpusIn id) (claimCPUCount r) = .ok cur ∧
        x ∈ cur := by
  induction results generalizing acc with
  | nil => cases h; simp
  | cons r rest ih =>
    rcases groupedAllocLoop_cons_eq_ok.mp h with ⟨hd, h⟩ | ⟨hd, id, cur, hl, ht, h⟩
    · simp [ih h, hd]
    · simp [ih h, hd, hl, ht, or_assoc]

/-- The pool does not change within a resolution, so the loop's outcome does not depend on the
    order of the results. -/
theorem groupedAllocLoop_perm {results results' : List AllocationResult} (hp : results.Perm results')
    (acc : CPUSet) :
    (groupedAllocLoop driverName index cpusIn notFound take sharedCPUs results acc).toOption =
      (groupedAllocLoop driverName index cpusIn notFound take sharedCPUs results' acc).toOption := by
  have hfail : ∀ {l l' : List AllocationResult}, l.Perm l' →
      (∃ e, groupedAllocLoop driverName index cpusIn notFound take sharedCPUs l acc = .error e) →
        ∃ e, groupedAllocLoop driverName index cpusIn notFound take sharedCPUs l' acc = .error e :=
    fun hp h => groupedAllocLoop_error_iff.mpr <|
      let ⟨r, hr, hrest⟩ := groupedAllocLoop_error_iff.mp h
      ⟨r, hp.subset hr, hrest⟩
  cases h : groupedAllocLoop driverName index cpusIn notFound take sharedCPUs results acc with
  | error e =>
    obtain ⟨e', he'⟩ := hfail hp ⟨e, h⟩
    rw [he']
    rfl
  | ok S =>
    cases h' : groupedAllocLoop driverName index cpusIn notFound take sharedCPUs results' acc with
    | error e' => exact absurd (hfail hp.symm ⟨e', h'⟩) fun ⟨_, he⟩ => by rw [h] at he; cases he
    | ok S' =>
      refine congrArg some (Finset.ext fun x => ?_)
      rw [mem_groupedAllocLoop h, mem_groupedAllocLoop h']
      simp only [hp.mem_iff]

theorem groupedAllocateCPUs_perm {results results' : List AllocationResult} (hp : results.Perm results') :
    (groupedAllocateCPUs driverName index cpusIn notFound take sharedCPUs results).toOption =
      (groupedAllocateCPUs driverName index cpusIn notFound take sharedCPUs results').toOption := by
  rw [groupedAllocateCPUs, groupedAllocateCPUs, Except.toOption_map, Except.toOption_map,
    groupedAllocLoop_perm hp]

/-- The CPUs the results of driver `driverName` on the devices the index gives coordinate
    `id` ask for, each count rounded as `AllocateCPUs` rounds it (negative counts ask for
    none). -/
def requestedIn (driverName : String) (index : AList (fun _ : String => ℤ)) (id : ℤ)
    (results : List AllocationResult) : ℕ :=
  ((results.filter fun r => r.driver = driverName ∧ index.lookup r.device = some id).map
    fun r => (claimCPUCount r).toNat).sum

theorem requestedIn_cons (r : AllocationResult) (results : List AllocationResult) (id : ℤ) :
    requestedIn driverName index id (r :: results) =
      (if r.driver = driverName ∧ index.lookup r.device = some id then (claimCPUCount r).toNat else 0) +
        requestedIn driverName index id results := by
  unfold requestedIn
  split_ifs with h <;> simp [List.filter_cons, h]

theorem claimCPUCount_le_requestedIn {r : AllocationResult} {results : List AllocationResult}
    {id : ℤ} (hr : r ∈ results) (hd : r.driver = driverName) (hl : index.lookup r.device = some id) :
    (claimCPUCount r).toNat ≤ requestedIn driverName index id results :=
  List.single_le_sum (fun _ _ => Nat.zero_le _) _
    (List.mem_map_of_mem _ (List.mem_filter.mpr ⟨hr, by simp [hd, hl]⟩))

/-- Within each coordinate, a successful loop adds at most what the results on it ask for,
    when packing selects the requested count within its pool and coordinates do not
    overlap. -/
theorem groupedAllocLoop_count (htake : TakeContract take)
    (hdisj : ∀ id id', id ≠ id' → Disjoint (cpusIn id) (cpusIn id'))
    {results : List AllocationResult} {acc S : CPUSet}
    (h : groupedAllocLoop driverName index cpusIn notFound take sharedCPUs results acc = .ok S)
    (id : ℤ) :
    (S ∩ cpusIn id).card ≤ (acc ∩ cpusIn id).card + requestedIn driverName index id results := by
  induction results generalizing acc with
  | nil => cases h; simp [requestedIn]
  | cons r rest ih =>
    rw [requestedIn_cons]
    rcases groupedAllocLoop_cons_eq_ok.mp h with ⟨hd, h⟩ | ⟨hd, idr, cur, hl, ht, h⟩
    · simpa [hd] using ih h
    -- the CPUs packed for `r` lie in its coordinate and are as many as it asks for
    have hcur : (cur ∩ cpusIn id).card ≤ if idr = id then (claimCPUCount r).toNat else 0 := by
      split_ifs with hid
      · have := htake.card _ _ _ ht
        exact (Finset.card_le_card Finset.inter_subset_left).trans (by omega)
      · rw [Finset.disjoint_iff_inter_eq_empty.mp ((hdisj _ _ hid).mono_left
          fun x hx => (Finset.mem_inter.mp (htake.subset _ _ _ ht hx)).2), Finset.card_empty]
    have hunion := Finset.card_union_le (acc ∩ cpusIn id) (cur ∩ cpusIn id)
    rw [← Finset.union_inter_distrib_right] at hunion
    have := ih h
    simp only [hd, hl, Option.some_inj, true_and]
    omega

/-- The CPUs the results of driver `driverName` ask for in all, each count rounded as
    `AllocateCPUs` rounds it (negative counts ask for none). -/
def requestedTotal (driverName : String) (results : List AllocationResult) : ℕ :=
  ((results.filter fun r => r.driver = driverName).map fun r => (claimCPUCount r).toNat).sum

/-- When the results of this driver resolve to distinct, non-overlapping coordinates that the
    starting assignment avoids, each selection adds exactly its count, for a packing function
    of the contract. -/
theorem groupedAllocLoop_card (htake : TakeContract take)
    (hdisj : ∀ id id', id ≠ id' → Disjoint (cpusIn id) (cpusIn id'))
    {results : List AllocationResult}
    (hdistinct : results.Pairwise fun r r' => r.driver = driverName → r'.driver = driverName →
      ∀ id, index.lookup r.device = some id → index.lookup r'.device ≠ some id)
    {acc S : CPUSet}
    (hacc : ∀ r ∈ results, r.driver = driverName → ∀ id, index.lookup r.device = some id →
      Disjoint acc (cpusIn id))
    (h : groupedAllocLoop driverName index cpusIn notFound take sharedCPUs results acc = .ok S) :
    S.card = acc.card + requestedTotal driverName results := by
  unfold requestedTotal
  induction results generalizing acc with
  | nil => cases h; simp
  | cons r rest ih =>
    obtain ⟨hhead, htail⟩ := List.pairwise_cons.mp hdistinct
    rcases groupedAllocLoop_cons_eq_ok.mp h with ⟨hd, h⟩ | ⟨hd, id, cur, hl, ht, h⟩
    · rw [List.filter_cons_of_neg (by simpa using hd)]
      exact ih htail (fun r' hr' => hacc r' (List.mem_cons_of_mem _ hr')) h
    -- the CPUs packed for `r` are its count, in its coordinate, which the assignment and the
    -- coordinates of the later results avoid
    have hcur : cur ⊆ cpusIn id := fun x hx => (Finset.mem_inter.mp (htake.subset _ _ _ ht hx)).2
    have hcard : cur.card = (claimCPUCount r).toNat := by have := htake.card _ _ _ ht; omega
    have hacc' : ∀ r' ∈ rest, r'.driver = driverName → ∀ id', index.lookup r'.device = some id' →
        Disjoint (acc ∪ cur) (cpusIn id') := fun r' hr' hd' id' hl' =>
      Finset.disjoint_union_left.mpr ⟨hacc r' (List.mem_cons_of_mem _ hr') hd' id' hl',
        (hdisj id id' fun he => hhead r' hr' hd hd' id hl (he ▸ hl')).mono_left hcur⟩
    rw [ih htail hacc' h,
      Finset.card_union_of_disjoint ((hacc r (List.mem_cons_self _ _) hd id hl).mono_right hcur),
      hcard, List.filter_cons_of_pos (by simpa using hd), List.map_cons, List.sum_cons]
    omega

/-- A loop in which every result of this driver names an indexed coordinate whose pool holds
    its count succeeds, for a packing function of the contract. -/
theorem groupedAllocLoop_ok (htake : TakeContract take) {results : List AllocationResult}
    (hres : ∀ r ∈ results, r.driver = driverName →
      ∃ id, index.lookup r.device = some id ∧ claimCPUCount r ≤ (sharedCPUs ∩ cpusIn id).card)
    (acc : CPUSet) :
    ∃ S, groupedAllocLoop driverName index cpusIn notFound take sharedCPUs results acc = .ok S := by
  induction results generalizing acc with
  | nil => exact ⟨acc, rfl⟩
  | cons r rest ih =>
    have hrest := ih fun r' hr' => hres r' (List.mem_cons_of_mem _ hr')
    by_cases hd : r.driver = driverName
    · obtain ⟨id, hl, hle⟩ := hres r (List.mem_cons_self _ _) hd
      obtain ⟨cur, ht⟩ := htake.ok_of_le _ _ hle
      obtain ⟨S, hS⟩ := hrest (acc ∪ cur)
      exact ⟨S, groupedAllocLoop_cons_eq_ok.mpr (.inr ⟨hd, id, cur, hl, ht, hS⟩)⟩
    · obtain ⟨S, hS⟩ := hrest acc
      exact ⟨S, groupedAllocLoop_cons_eq_ok.mpr (.inl ⟨hd, hS⟩)⟩

/-- A resolution fails only at a result of this driver whose device is not indexed or whose
    pool is short of its count, for a packing function of the contract. -/
theorem groupedAllocateCPUs_error (htake : TakeContract take) {results : List AllocationResult}
    {err : String}
    (h : groupedAllocateCPUs driverName index cpusIn notFound take sharedCPUs results = .error err) :
    ∃ r ∈ results, r.driver = driverName ∧ (index.lookup r.device = none ∨
      ∃ id, index.lookup r.device = some id ∧ (sharedCPUs ∩ cpusIn id).card < claimCPUCount r) := by
  by_contra hne
  push_neg at hne
  obtain ⟨S, hS⟩ : ∃ S, groupedAllocLoop driverName index cpusIn notFound take sharedCPUs
      results ∅ = .ok S := groupedAllocLoop_ok htake (fun r hr hd => by
    obtain ⟨hnone, hlt⟩ := hne r hr hd
    obtain ⟨id, hid⟩ := Option.ne_none_iff_exists'.mp hnone
    exact ⟨id, hid, hlt id hid⟩) ∅
  simp [groupedAllocateCPUs, hS, Except.map] at h

/-- The same for a whole resolution, which starts from the empty assignment. -/
theorem groupedAllocateCPUs_subset (hsub : ∀ pool n S, take pool n = .ok S → S ⊆ pool)
    {results : List AllocationResult} {S : CPUSet}
    (h : groupedAllocateCPUs driverName index cpusIn notFound take sharedCPUs results = .ok S)
    {c : ℤ} (hc : c ∈ S) :
    c ∈ sharedCPUs ∧ ∃ r ∈ results, r.driver = driverName ∧
      ∃ id, index.lookup r.device = some id ∧ c ∈ cpusIn id := by
  obtain ⟨S₀, hloop, rfl⟩ := Except.map_eq_ok.mp h
  have hc₀ : c ∈ S₀ := by split_ifs at hc; exacts [absurd hc (Finset.not_mem_empty c), hc]
  exact (groupedAllocLoop_subset hsub hloop hc₀).resolve_left (Finset.not_mem_empty c)

/-- A resolution whose results of this driver name distinct devices, through an index that
    gives distinct names distinct coordinates, holds exactly the requested count, for a
    packing function of the contract and non-overlapping coordinates. -/
theorem groupedAllocateCPUs_card (htake : TakeContract take)
    (hdisj : ∀ id id', id ≠ id' → Disjoint (cpusIn id) (cpusIn id'))
    (hinj : ∀ d d' id, index.lookup d = some id → index.lookup d' = some id → d = d')
    {results : List AllocationResult}
    (hdevices : ((results.filter fun r => r.driver = driverName).map AllocationResult.device).Nodup)
    {S : CPUSet} (h : groupedAllocateCPUs driverName index cpusIn notFound take sharedCPUs results = .ok S) :
    S.card = requestedTotal driverName results := by
  obtain ⟨S₀, hloop, rfl⟩ := Except.map_eq_ok.mp h
  have hdistinct := (List.pairwise_filter.mp (List.pairwise_map.mp hdevices)).imp
    fun hne hd hd' id hl hl' => hne hd hd' (hinj _ _ id hl hl')
  have hcard := groupedAllocLoop_card htake hdisj hdistinct (fun _ _ _ _ _ => Finset.disjoint_empty_left _) hloop
  rw [Finset.card_empty, Nat.zero_add] at hcard
  split_ifs with h0
  · rw [Finset.card_empty, ← hcard, h0]
  · exact hcard

end Allocate

/-- Two CPUs in socket `0`. -/
def twoCPUSocket : CPUTopology :=
  ⟨false, List.toAList
    [⟨0, ⟨0, 0, 0, 0, 0, -1, "performance"⟩⟩, ⟨1, ⟨1, 1, 0, 0, 0, -1, "performance"⟩⟩]⟩

/-- A result of request `request` of driver `dra.cpu` on `cpudevsocket000`, consuming one
    CPU. -/
def oneCPUOnSocket0 (request : String) : AllocationResult :=
  ⟨"dra.cpu", "node", "cpudevsocket000", request, List.toAList [⟨cpuResourceQualifiedName, 1⟩]⟩

/-- Two requests of a claim, each consuming one CPU of the same socket device, resolve to
    one CPU for every packing function of the contract: the second request packs from the
    same pool and gets the same CPU. -/
theorem allocateCPUs_same_device (take : CPUSet → ℤ → Except String CPUSet)
    (htake : TakeContract take) :
    ∃ S, (newSocketGroupedManager "dra.cpu" twoCPUSocket ∅).createSlices.2.allocateCPUs take {0, 1}
        [oneCPUOnSocket0 "a", oneCPUOnSocket0 "b"] = .ok S ∧
      S.card = 1 ∧ claimCPUCount (oneCPUOnSocket0 "a") + claimCPUCount (oneCPUOnSocket0 "b") = 2 := by
  have hcount : claimCPUCount (oneCPUOnSocket0 "a") = 1 := by decide
  have hindex : (newSocketGroupedManager "dra.cpu" twoCPUSocket ∅).createSlices.2.deviceNameToSocketID.lookup
      "cpudevsocket000" = some 0 := by decide
  have hpool : ({0, 1} ∩ twoCPUSocket.cpuDetails.cpusInSockets 0 : CPUSet).card = 2 := by decide
  obtain ⟨cur, hcur⟩ := htake.ok_of_le ({0, 1} ∩ twoCPUSocket.cpuDetails.cpusInSockets 0) 1
    (by rw [hpool]; decide)
  have hcard : cur.card = 1 := by have := htake.card _ _ _ hcur; omega
  refine ⟨cur, ?_, hcard, by decide⟩
  rw [SocketGroupedManager.allocateCPUs, groupedAllocateCPUs,
    @groupedAllocLoop_repeat _ _ _ _ _ _ (oneCPUOnSocket0 "a") (oneCPUOnSocket0 "b") rfl rfl rfl]
  have hdevice : (oneCPUOnSocket0 "a").device = "cpudevsocket000" := rfl
  have hdriver : (oneCPUOnSocket0 "a").driver = "dra.cpu" := rfl
  simp only [groupedAllocLoop, SocketGroupedManager.createSlices_driverName,
    SocketGroupedManager.createSlices_cpuTopology, hdriver, hcount]
  rw [hdevice, hindex]
  simp only [newSocketGroupedManager]
  rw [hcur]
  simp [Except.map, hcard]

theorem allocateCPUs_same_device_takeFirst :
    TakeContract takeFirst ∧
      ∃ S, (newSocketGroupedManager "dra.cpu" twoCPUSocket ∅).createSlices.2.allocateCPUs takeFirst
          {0, 1} [oneCPUOnSocket0 "a", oneCPUOnSocket0 "b"] = .ok S ∧
        S.card = 1 ∧ claimCPUCount (oneCPUOnSocket0 "a") + claimCPUCount (oneCPUOnSocket0 "b") = 2 :=
  ⟨takeFirst_contract, allocateCPUs_same_device takeFirst takeFirst_contract⟩

/-! ## Exact counts -/

/-- Both grouped managers, after `CreateSlices` from an empty index, resolve a claim whose
    results of this driver name distinct devices to exactly as many CPUs as those results ask
    for, for every packing function of the contract: distinct names stand for distinct
    coordinates, whose CPUs do not overlap. -/
theorem allocateCPUs_card (name : String) (topo : CPUTopology) (R : CPUSet)
    (unsortedList : CPUSet → List ℤ) (take : CPUSet → ℤ → Except String CPUSet)
    (htake : TakeContract take) (sharedCPUs : CPUSet) (results : List AllocationResult)
    (hdevices : ((results.filter fun r => r.driver = name).map AllocationResult.device).Nodup) :
    (∀ S, (newSocketGroupedManager name topo R).createSlices.2.allocateCPUs take sharedCPUs results =
        .ok S → S.card = requestedTotal name results) ∧
      ∀ S, ((newNUMAGroupedManager name topo R).createSlices unsortedList).2.allocateCPUs take
        sharedCPUs results = .ok S → S.card = requestedTotal name results :=
  ⟨fun _ h => groupedAllocateCPUs_card htake (fun _ _ => CPUDetails.disjoint_cpusWith _ _)
      (fun _ _ _ hd hd' => (groupedCreateSlices_lookup_eq_some _ _ _ _ _ hd).2.trans
        (groupedCreateSlices_lookup_eq_some _ _ _ _ _ hd').2.symm) hdevices h,
    fun _ h => groupedAllocateCPUs_card htake (fun _ _ => CPUDetails.disjoint_cpusWith _ _)
      (fun _ _ _ hd hd' => (groupedCreateSlices_lookup_eq_some _ _ _ _ _ hd).2.trans
        (groupedCreateSlices_lookup_eq_some _ _ _ _ _ hd').2.symm) hdevices h⟩

theorem allocateCPUs_card_twoCPUSocket :
    TakeContract takeFirst ∧
      (([oneCPUOnSocket0 "a"].filter fun r => r.driver = "dra.cpu").map AllocationResult.device).Nodup ∧
      (∀ S, (newSocketGroupedManager "dra.cpu" twoCPUSocket ∅).createSlices.2.allocateCPUs takeFirst {0, 1}
          [oneCPUOnSocket0 "a"] = .ok S → S.card = requestedTotal "dra.cpu" [oneCPUOnSocket0 "a"]) ∧
      ∀ S, ((newNUMAGroupedManager "dra.cpu" twoCPUSocket ∅).createSlices CPUSet.list).2.allocateCPUs
        takeFirst {0, 1} [oneCPUOnSocket0 "a"] = .ok S → S.card = requestedTotal "dra.cpu" [oneCPUOnSocket0 "a"] :=
  have hdevices : (([oneCPUOnSocket0 "a"].filter fun r => r.driver = "dra.cpu").map
      AllocationResult.device).Nodup := by decide
  ⟨takeFirst_contract, hdevices, allocateCPUs_card "dra.cpu" twoCPUSocket ∅ CPUSet.list takeFirst
    takeFirst_contract {0, 1} _ hdevices⟩

end DraDriverCpu
