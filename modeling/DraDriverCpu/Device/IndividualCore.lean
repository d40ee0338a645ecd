import DraDriverCpu.Device.Basic

/-!
# `IndividualCoreManager`

Model of the individual-core device manager (`src/unnamed/part_002`): one device per
non-reserved CPU, hyperthread siblings at adjacent indices.

`CreateSlices` (lines 50–116) is cut at its loops:
* `availableCPUs`: the non-reserved CPUs of the topology, sorted by CPU ID. Go's
  `sort.Slice` is not stable; it is modelled by `List.insertionSort`, and the two agree
  whenever the keys are distinct, which they are on every well-formed topology;
* `groupCore`: one iteration of the core-grouping loop (lines 76–88);
* `emitDevice`: one iteration of the inner device loop (lines 97–107).

`AllocateCPUs` (lines 118–140) resolves each result of this driver through
`deviceNameToCPUID` (`collectCPUIDs`).

Results:
* `emitDevices_eq`: the device loop publishes `individualDevice i cpu` for the `i`-th CPU
  of the concatenated groups, and records its name in the index.
* `collectCPUIDs_ok`, `collectCPUIDs_error`: `AllocateCPUs` fails exactly when a result
  of this driver names a device missing from the index, and otherwise collects the
  indexed CPU IDs in result order.
* `IndividualCoreManager.allocateCPUs_toOption_perm`: what a claim resolves to does not
  depend on the order of its results.
* `createSlices_perm`: the published devices and the index do not depend on the iteration
  order of the topology map, also when a CPU's sibling is absent or reserved.
-/

namespace DraDriverCpu

/-- `IndividualCoreManager`. -/
structure IndividualCoreManager where
  driverName : String
  cpuTopology : CPUTopology
  reservedCPUs : CPUSet
  deviceNameToCPUID : AList (fun _ : String => ℤ)

/-- `NewIndividualCoreManager(name, topo, resv)`: the index starts empty. -/
def newIndividualCoreManager (name : String) (topo : CPUTopology) (resv : CPUSet) :
    IndividualCoreManager :=
  ⟨name, topo, resv, ∅⟩

@[simp] theorem newIndividualCoreManager_deviceNameToCPUID (name : String) (topo : CPUTopology)
    (resv : CPUSet) : (newIndividualCoreManager name topo resv).deviceNameToCPUID = ∅ := rfl

/-- The device `CreateSlices` publishes as number `devId` for `cpu`: named `cpudev`
    followed by `devId` formatted `%03d`, with the CPU's attributes and an empty
    capacity map. -/
def individualDevice (devId : ℕ) (cpu : CPUInfo) : Device :=
  ⟨cpuDevicePrefix ++ sprintf03d devId, makeIndividualAttributes cpu, ∅, none⟩

@[simp] theorem individualDevice_cpuID (devId : ℕ) (cpu : CPUInfo) :
    (individualDevice devId cpu).intAttr "dra.cpu/cpuID" = some cpu.cpuID := by
  simp [individualDevice, Device.intAttr]

/-- The state of the core-grouping loop: `processedCpus` and `coreGroups`. -/
structure CoreGrouping where
  processedCpus : CPUSet
  coreGroups : List (List CPUInfo)

/-- One iteration of `for _, cpu := range availableCPUs` (lines 76–88). -/
def groupCore (reservedCPUs : CPUSet) (cpuInfoMap : CPUDetails) (st : CoreGrouping)
    (cpu : CPUInfo) : CoreGrouping :=
  if cpu.cpuID ∈ st.processedCpus then st
  else if cpu.siblingCpuID = -1 ∨ cpu.siblingCpuID ∈ reservedCPUs then
    ⟨insert cpu.cpuID st.processedCpus, st.coreGroups ++ [[cpu]]⟩
  else
    ⟨insert cpu.siblingCpuID (insert cpu.cpuID st.processedCpus),
      st.coreGroups ++ [[cpu, cpuInfoMap.get cpu.siblingCpuID]]⟩

/-- `coreGroups[i][0].CpuID`: a group's first CPU (groups are never empty). -/
def firstCpuID (group : List CPUInfo) : ℤ := (group.headD default).cpuID

/-- The state of the device loop: `devId`, `deviceNameToCPUID` and `allDevices`. -/
structure DeviceEmission where
  devId : ℕ
  index : AList (fun _ : String => ℤ)
  allDevices : List Device

/-- One iteration of the inner loop `for _, cpu := range group` (lines 97–107). -/
def emitDevice (st : DeviceEmission) (cpu : CPUInfo) : DeviceEmission :=
  let deviceName := cpuDevicePrefix ++ sprintf03d st.devId
  ⟨st.devId + 1, st.index.insert deviceName cpu.cpuID,
    st.allDevices ++ [⟨deviceName, makeIndividualAttributes cpu, ∅, none⟩]⟩

@[simp] theorem emitDevice_devId (st : DeviceEmission) (cpu : CPUInfo) :
    (emitDevice st cpu).devId = st.devId + 1 := rfl

@[simp] theorem emitDevice_index (st : DeviceEmission) (cpu : CPUInfo) :
    (emitDevice st cpu).index = st.index.insert (cpuDevicePrefix ++ sprintf03d st.devId) cpu.cpuID :=
  rfl

@[simp] theorem emitDevice_allDevices (st : DeviceEmission) (cpu : CPUInfo) :
    (emitDevice st cpu).allDevices = st.allDevices ++ [individualDevice st.devId cpu] := rfl

namespace IndividualCoreManager

variable (mgr : IndividualCoreManager)

/-- `allCPUs`: the entries of `CPUDetails`, in map iteration order (lines 58–64). -/
def allCPUs : List CPUInfo := mgr.cpuTopology.cpuDetails.entries.map (·.2)

/-- `availableCPUs` after `sort.Slice` (lines 56–67). -/
def availableCPUs : List CPUInfo :=
  (mgr.allCPUs.filter fun cpu => cpu.cpuID ∉ mgr.reservedCPUs).insertionSort
    fun a b => a.cpuID ≤ b.cpuID

/-- `cpuInfoMap` (lines 71–74): later entries with the same CPU ID win. -/
def cpuInfoMap : CPUDetails := mgr.allCPUs.foldl (fun m info => m.insert info.cpuID info) ∅

/-- `coreGroups` after the grouping loop and `sort.Slice` (lines 69–92). -/
def coreGroups : List (List CPUInfo) :=
  ((mgr.availableCPUs.foldl (groupCore mgr.reservedCPUs mgr.cpuInfoMap) ⟨∅, []⟩).coreGroups).insertionSort
    fun g h => firstCpuID g ≤ firstCpuID h

/-- The device loops (lines 94–108), from the manager's current index. -/
def emission : DeviceEmission :=
  mgr.coreGroups.foldl (fun st group => group.foldl emitDevice st) ⟨0, mgr.deviceNameToCPUID, []⟩

/-- `CreateSlices`: the device chunks and the manager with its index filled. -/
def createSlices : List (List Device) × IndividualCoreManager :=
  let out := mgr.emission
  (if out.allDevices.length = 0 then [] else slicesChunk maxDevicesPerResourceSlice out.allDevices,
    { mgr with deviceNameToCPUID := out.index })

/-- `%q` of a device name. Device names are DNS labels, which `%q` only wraps in
    double quotes. -/
def quoteName (s : String) : String := "\"" ++ s ++ "\""

/-- The loop of `AllocateCPUs` (lines 123–132): `claimCPUIDs` in result order, or the
    error of the first result of this driver whose device is not in the index. -/
def collectCPUIDs : List AllocationResult → Except String (List ℤ)
  | [] => .ok []
  | alloc :: rest =>
    if alloc.driver ≠ mgr.driverName then collectCPUIDs rest
    else
      match mgr.deviceNameToCPUID.lookup alloc.device with
      | none => .error ("device " ++ quoteName alloc.device ++ " not found in device to CPU ID map")
      | some cpuID => (cpuID :: ·) <$> collectCPUIDs rest

/-- `AllocateCPUs(claim)`, on the claim's allocation results. -/
def allocateCPUs (results : List AllocationResult) : Except String CPUSet :=
  (mgr.collectCPUIDs results).map fun claimCPUIDs =>
    if claimCPUIDs.length = 0 then ∅ else claimCPUIDs.toFinset

/-- `AllocateCPUs` returns the set of the collected CPU IDs. -/
theorem allocateCPUs_eq (results : List AllocationResult) :
    mgr.allocateCPUs results = (mgr.collectCPUIDs results).map List.toFinset := by
  unfold allocateCPUs
  congr 1
  funext ids
  split
  · rename_i h; rw [List.length_eq_zero.mp h]; rfl
  · rfl

@[simp] theorem createSlices_fst :
    mgr.createSlices.1 = if mgr.emission.allDevices.length = 0 then []
      else slicesChunk maxDevicesPerResourceSlice mgr.emission.allDevices := rfl

@[simp] theorem createSlices_snd_index :
    mgr.createSlices.2.deviceNameToCPUID = mgr.emission.index := rfl

@[simp] theorem createSlices_snd_driverName : mgr.createSlices.2.driverName = mgr.driverName :=
  rfl

/-! ## The device loop -/

/-- The device loop over the concatenated groups publishes `individualDevice` for each CPU,
    numbered from `devId`. -/
theorem emitDevices_eq (cpus : List CPUInfo) (st : DeviceEmission) :
    (cpus.foldl emitDevice st).devId = st.devId + cpus.length ∧
    (cpus.foldl emitDevice st).allDevices =
      st.allDevices ++ (cpus.enumFrom st.devId).map fun p => individualDevice p.1 p.2 := by
  induction cpus generalizing st with
  | nil => simp
  | cons cpu cpus ih =>
    obtain ⟨h1, h2⟩ := ih (emitDevice st cpu)
    rw [List.foldl_cons, h1, h2, emitDevice_devId, emitDevice_allDevices]
    simp only [List.length_cons, List.enumFrom_cons, List.map_cons, List.append_assoc,
      List.singleton_append, and_true]
    omega

/-- A name the loop does not write keeps its index entry. -/
theorem emitDevices_lookup_of_lt (cpus : List CPUInfo) (st : DeviceEmission) {i : ℕ}
    (hi : i < st.devId) :
    (cpus.foldl emitDevice st).index.lookup (cpuDevicePrefix ++ sprintf03d i) =
      st.index.lookup (cpuDevicePrefix ++ sprintf03d i) := by
  induction cpus generalizing st with
  | nil => rfl
  | cons cpu cpus ih =>
    rw [List.foldl_cons, ih _ (by simp only [emitDevice_devId]; omega), emitDevice_index,
      AList.lookup_insert_ne]
    exact fun h => by have := append_sprintf03d_injective _ h; omega

/-- The name numbered `devId + j` maps to the `j`-th CPU of the loop. -/
theorem emitDevices_lookup (cpus : List CPUInfo) (st : DeviceEmission) {j : ℕ}
    (hj : j < cpus.length) :
    (cpus.foldl emitDevice st).index.lookup (cpuDevicePrefix ++ sprintf03d ((st.devId + j : ℕ) : ℤ)) =
      some (cpus.get ⟨j, hj⟩).cpuID := by
  induction cpus generalizing st j with
  | nil => simp at hj
  | cons cpu cpus ih =>
    rw [List.foldl_cons]
    cases j with
    | zero =>
      rw [emitDevices_lookup_of_lt _ _ (by simp only [emitDevice_devId]; omega)]
      simp
    | succ j =>
      have := ih (emitDevice st cpu) (Nat.lt_of_succ_lt_succ hj)
      rwa [emitDevice_devId, Nat.add_right_comm, Nat.add_assoc] at this

/-- The loop writes exactly the names it numbers. -/
theorem emitDevices_mem (cpus : List CPUInfo) (st : DeviceEmission) (n : String) :
    n ∈ (cpus.foldl emitDevice st).index ↔
      n ∈ st.index ∨ ∃ j, j < cpus.length ∧ n = cpuDevicePrefix ++ sprintf03d ((st.devId + j : ℕ) : ℤ) := by
  induction cpus generalizing st with
  | nil => simp
  | cons cpu cpus ih =>
    rw [List.foldl_cons, ih, emitDevice_index, emitDevice_devId, AList.mem_insert, List.length_cons,
      Nat.exists_lt_succ_left]
    simp only [Nat.add_zero, Nat.add_right_comm _ 1, Nat.add_assoc]
    tauto

/-- The device loops emit `individualDevice i` for the `i`-th CPU of the concatenated core
    groups. -/
theorem emission_allDevices :
    mgr.emission.allDevices = mgr.coreGroups.flatten.enum.map fun p => individualDevice p.1 p.2 := by
  rw [emission, ← List.foldl_flatten, (emitDevices_eq _ _).2, List.nil_append]
  rfl

/-- The slices are the chunks of the emitted devices (none when there is none). -/
theorem createSlices_fst_eq_slicesChunk :
    mgr.createSlices.1 = slicesChunk maxDevicesPerResourceSlice mgr.emission.allDevices := by
  rw [createSlices_fst]
  split
  · rename_i h0
    rw [List.length_eq_zero.mp h0]; rfl
  · rfl

/-- `CreateSlices` publishes `individualDevice i` for the `i`-th CPU of the concatenated
    core groups. -/
theorem createSlices_flatten :
    mgr.createSlices.1.flatten =
      mgr.coreGroups.flatten.enum.map fun p => individualDevice p.1 p.2 := by
  rw [createSlices_fst_eq_slicesChunk, slicesChunk_flatten (by decide), emission_allDevices]

theorem emission_index_flatten :
    mgr.emission.index = (mgr.coreGroups.flatten.foldl emitDevice ⟨0, mgr.deviceNameToCPUID, []⟩).index := by
  rw [emission, List.foldl_flatten]

/-! ## `AllocateCPUs` -/

/-- The results of this driver. -/
def ownResults (results : List AllocationResult) : List AllocationResult :=
  results.filter fun r => r.driver = mgr.driverName

theorem collectCPUIDs_ok (results : List AllocationResult)
    (h : ∀ r ∈ results, r.driver = mgr.driverName → r.device ∈ mgr.deviceNameToCPUID) :
    mgr.collectCPUIDs results =
      .ok ((mgr.ownResults results).filterMap fun r => mgr.deviceNameToCPUID.lookup r.device) := by
  induction results with
  | nil => rfl
  | cons r rs ih =>
    have ih := ih fun r' hr' => h r' (List.mem_cons_of_mem _ hr')
    by_cases hd : r.driver = mgr.driverName
    · obtain ⟨c, hc⟩ := Option.isSome_iff_exists.mp
        (AList.lookup_isSome.mpr (h r (List.mem_cons_self _ _) hd))
      simp [collectCPUIDs, ownResults, hd, hc, ih, Except.map]
    · simpa [collectCPUIDs, ownResults, hd] using ih

theorem collectCPUIDs_error (results : List AllocationResult) :
    (∃ e, mgr.collectCPUIDs results = .error e) ↔
      ∃ r ∈ results, r.driver = mgr.driverName ∧ r.device ∉ mgr.deviceNameToCPUID := by
  induction results with
  | nil => simp [collectCPUIDs]
  | cons r rs ih =>
    by_cases hd : r.driver = mgr.driverName
    · by_cases hm : r.device ∈ mgr.deviceNameToCPUID
      · obtain ⟨c, hc⟩ := Option.isSome_iff_exists.mp (AList.lookup_isSome.mpr hm)
        simp only [collectCPUIDs, hd, ne_eq, not_true_eq_false, ↓reduceIte, hc,
          List.mem_cons, exists_eq_or_imp, hm, not_true_eq_false, and_false, false_or, ← ih]
        cases mgr.collectCPUIDs rs <;> simp [Functor.map, Except.map]
      · have : mgr.deviceNameToCPUID.lookup r.device = none := AList.lookup_eq_none.mpr hm
        simp [collectCPUIDs, hd, this, hm]
    · simp [collectCPUIDs, hd, ih]

/-- A CPU of a resolution is the index entry of a device named by a result of this driver. -/
theorem mem_allocateCPUs {results : List AllocationResult} {S : CPUSet}
    (h : mgr.allocateCPUs results = .ok S) {c : ℤ} (hc : c ∈ S) :
    ∃ r ∈ results, r.driver = mgr.driverName ∧ mgr.deviceNameToCPUID.lookup r.device = some c := by
  rw [allocateCPUs_eq] at h
  obtain ⟨ids, hids, rfl⟩ := Except.map_eq_ok.mp h
  -- the loop did not fail, so every result of this driver is indexed
  have hall : ∀ r ∈ results, r.driver = mgr.driverName → r.device ∈ mgr.deviceNameToCPUID := by
    by_contra hne
    push_neg at hne
    obtain ⟨e, he⟩ := (mgr.collectCPUIDs_error results).mpr hne
    rw [hids] at he
    cases he
  rw [mgr.collectCPUIDs_ok results hall, Except.ok.injEq] at hids
  subst hids
  obtain ⟨r, hr, hl⟩ := List.mem_filterMap.mp (List.mem_toFinset.mp hc)
  exact ⟨r, (List.mem_filter.mp hr).1, of_decide_eq_true (List.mem_filter.mp hr).2, hl⟩

/-- The resolution, or its failure, does not depend on the order of the results. -/
theorem allocateCPUs_toOption_perm {results results' : List AllocationResult}
    (hp : results.Perm results') :
    (mgr.allocateCPUs results).toOption = (mgr.allocateCPUs results').toOption := by
  by_cases hall : ∀ r ∈ results, r.driver = mgr.driverName → r.device ∈ mgr.deviceNameToCPUID
  · rw [allocateCPUs_eq, allocateCPUs_eq, mgr.collectCPUIDs_ok results hall,
      mgr.collectCPUIDs_ok results' fun r hr => hall r (hp.symm.subset hr)]
    exact congrArg some (List.toFinset_eq_of_perm _ _ ((hp.filter _).filterMap _))
  · push_neg at hall
    obtain ⟨r, hr, hd, hn⟩ := hall
    obtain ⟨e, he⟩ := (mgr.collectCPUIDs_error results).mpr ⟨r, hr, hd, hn⟩
    obtain ⟨e', he'⟩ := (mgr.collectCPUIDs_error results').mpr ⟨r, hp.subset hr, hd, hn⟩
    rw [allocateCPUs_eq, allocateCPUs_eq, he, he']
    rfl

end IndividualCoreManager

/-! ## The iteration order of `CPUDetails` -/

section Order

/-- The CPUs of a map whose keys are their entries' CPU IDs have distinct IDs. -/
theorem map_cpuID_nodup {d : CPUDetails} (hkeys : ∀ e ∈ d.entries, e.2.cpuID = e.1) :
    ((d.entries.map (·.2)).map CPUInfo.cpuID).Nodup := by
  rw [List.map_map, (List.map_congr_left hkeys : d.entries.map (CPUInfo.cpuID ∘ (·.2)) = d.keys)]
  exact d.keys_nodup

/-- Sorting CPUs with distinct IDs by ID gives one list, whatever order they come in. -/
theorem insertionSort_cpuID_perm {l l' : List CPUInfo} (hp : l.Perm l')
    (hnodup : (l.map CPUInfo.cpuID).Nodup) :
    l.insertionSort (fun a b => a.cpuID ≤ b.cpuID) = l'.insertionSort (fun a b => a.cpuID ≤ b.cpuID) := by
  haveI : IsTotal CPUInfo fun a b => a.cpuID ≤ b.cpuID := ⟨fun a b => le_total _ _⟩
  haveI : IsTrans CPUInfo fun a b => a.cpuID ≤ b.cpuID := ⟨fun _ _ _ => le_trans⟩
  haveI : IsAntisymm CPUInfo fun a b => a.cpuID < b.cpuID :=
    ⟨fun _ _ h h' => absurd (h.trans h') (lt_irrefl _)⟩
  -- a sorted permutation of CPUs with distinct IDs ascends strictly
  have hlt : ∀ k : List CPUInfo, k.Perm l →
      (k.insertionSort fun a b => a.cpuID ≤ b.cpuID).Sorted fun a b => a.cpuID < b.cpuID :=
    fun k hk => ((List.sorted_insertionSort _ k).and (List.pairwise_map.mp
      ((((List.perm_insertionSort _ k).trans hk).map _).nodup_iff.mpr hnodup))).imp
        fun h => lt_of_le_of_ne h.1 h.2
  exact List.eq_of_perm_of_sorted
    ((List.perm_insertionSort _ l).trans (hp.trans (List.perm_insertionSort _ l').symm))
    (hlt l (List.Perm.refl l)) (hlt l' hp.symm)

/-- Inserting CPUs with distinct IDs under their IDs gives the same lookups in any order. -/
theorem lookup_foldl_insert_perm {l l' : List CPUInfo} (hp : l.Perm l')
    (hnodup : (l.map CPUInfo.cpuID).Nodup) (k : ℤ) :
    (l.foldl (fun (m : CPUDetails) info => m.insert info.cpuID info) ∅).lookup k =
      (l'.foldl (fun (m : CPUDetails) info => m.insert info.cpuID info) ∅).lookup k := by
  have hnodup' := (hp.map CPUInfo.cpuID).nodup_iff.mp hnodup
  by_cases hk : ∃ info ∈ l, info.cpuID = k
  · obtain ⟨info, hinfo, rfl⟩ := hk
    rw [foldl_insert_lookup CPUInfo.cpuID (fun x => x) l hnodup ∅ hinfo,
      foldl_insert_lookup CPUInfo.cpuID (fun x => x) l' hnodup' ∅ (hp.subset hinfo)]
  · push_neg at hk
    rw [foldl_insert_lookup_of_not_mem CPUInfo.cpuID (fun x => x) l ∅ hk,
      foldl_insert_lookup_of_not_mem CPUInfo.cpuID (fun x => x) l' ∅ fun x hx => hk x (hp.symm.subset hx)]

/-- The grouping loop reads the CPU map only by key. -/
theorem groupCore_congr {R : CPUSet} {m m' : CPUDetails} (h : ∀ k, m.lookup k = m'.lookup k) :
    groupCore R m = groupCore R m' := by
  funext st cpu
  simp only [groupCore, CPUDetails.get, h]

/-- `CreateSlices` publishes the same devices and builds the same index for every iteration
    order of a `CPUDetails` map whose keys are its entries' CPU IDs, whatever their sibling
    data: it sorts the available CPUs by ID and reads the CPU map only by key. A restarted
    driver thus gives every device name the CPU it had. -/
theorem createSlices_perm (name : String) (R : CPUSet) {topo topo' : CPUTopology}
    (hperm : topo.cpuDetails.entries.Perm topo'.cpuDetails.entries)
    (hkeys : ∀ e ∈ topo.cpuDetails.entries, e.2.cpuID = e.1) :
    (newIndividualCoreManager name topo R).createSlices.1 =
        (newIndividualCoreManager name topo' R).createSlices.1 ∧
      (newIndividualCoreManager name topo R).createSlices.2.deviceNameToCPUID =
        (newIndividualCoreManager name topo' R).createSlices.2.deviceNameToCPUID := by
  have hall : (newIndividualCoreManager name topo R).allCPUs.Perm
      (newIndividualCoreManager name topo' R).allCPUs := hperm.map _
  have hnodup := map_cpuID_nodup hkeys
  have havail : (newIndividualCoreManager name topo R).availableCPUs =
      (newIndividualCoreManager name topo' R).availableCPUs :=
    insertionSort_cpuID_perm (hall.filter _) (hnodup.sublist ((List.filter_sublist _).map _))
  have hmap : groupCore R (newIndividualCoreManager name topo R).cpuInfoMap =
      groupCore R (newIndividualCoreManager name topo' R).cpuInfoMap :=
    groupCore_congr (lookup_foldl_insert_perm hall hnodup)
  have hgroups : (newIndividualCoreManager name topo R).coreGroups =
      (newIndividualCoreManager name topo' R).coreGroups := by
    unfold IndividualCoreManager.coreGroups
    rw [havail]
    exact congrArg (fun g => ((List.foldl g ⟨∅, []⟩
      (newIndividualCoreManager name topo' R).availableCPUs).coreGroups).insertionSort
        fun g h => firstCpuID g ≤ firstCpuID h) hmap
  simp only [IndividualCoreManager.createSlices, IndividualCoreManager.emission, hgroups]
  exact ⟨rfl, rfl⟩

/-- Two CPUs whose sibling data is not well formed (CPU `0` names an absent sibling `5`), in
    the order a map iteration gives when `swapped` is false, and in the other order. -/
def unpairedCPUs (swapped : Bool) : CPUTopology :=
  let cpu0 : Σ _ : ℤ, CPUInfo := ⟨0, ⟨0, 0, 0, 0, 0, 5, "performance"⟩⟩
  let cpu1 : Σ _ : ℤ, CPUInfo := ⟨1, ⟨1, 0, 0, 0, 0, 0, "performance"⟩⟩
  ⟨true, List.toAList (if swapped then [cpu1, cpu0] else [cpu0, cpu1])⟩

theorem createSlices_perm_unpairedCPUs :
    (unpairedCPUs false).cpuDetails.entries.Perm (unpairedCPUs true).cpuDetails.entries ∧
      (∀ e ∈ (unpairedCPUs false).cpuDetails.entries, e.2.cpuID = e.1) ∧
      (newIndividualCoreManager "dra.cpu" (unpairedCPUs false) ∅).createSlices.1 =
        (newIndividualCoreManager "dra.cpu" (unpairedCPUs true) ∅).createSlices.1 ∧
      (newIndividualCoreManager "dra.cpu" (unpairedCPUs false) ∅).createSlices.2.deviceNameToCPUID =
        (newIndividualCoreManager "dra.cpu" (unpairedCPUs true) ∅).createSlices.2.deviceNameToCPUID :=
  have hperm : (unpairedCPUs false).cpuDetails.entries.Perm (unpairedCPUs true).cpuDetails.entries := by
    decide
  have hkeys : ∀ e ∈ (unpairedCPUs false).cpuDetails.entries, e.2.cpuID = e.1 := by decide
  ⟨hperm, hkeys, createSlices_perm "dra.cpu" ∅ hperm hkeys⟩

end Order

end DraDriverCpu
