import DraDriverCpu.Device.IndividualCatalogue
import DraDriverCpu.Device.Grouped

/-!
# How the catalogues are cut into slices

One `ResourceSlice` holds at most `maxDevicesPerResourceSlice` (128) devices
(`pkg/device/consts.go` lines 19–23). `IndividualCoreManager.CreateSlices` returns nothing for
no device and otherwise cuts its devices with `slices.Chunk` (part_002 lines 110–115). The two
grouped managers return their whole device list as one slice (part_000 lines 79–82,
grouped_numa.go lines 88–91), whatever its length.

Results:
* `createSlices_sliceLaw`: the individual-core slices are the consecutive runs of 128 of the
  `m` emitted devices, slice `k` holding the devices of indices `128k` to
  `min (128k + 127) (m - 1)`; on a well-formed topology without CPU `-1`, `m` is the number of
  non-reserved CPUs.
* `createSlices_single_slice`: each grouped manager returns at most one slice, with a device
  for every coordinate that has an allocatable CPU; `createSlices_single_slice_129` shows a
  slice of 129 devices.
-/

namespace DraDriverCpu

/-! ## The individual-core catalogue -/

/-- The slicing law over the device sequence `ds`: no slice for no device; otherwise
    `⌈|ds| / 128⌉` slices, each non-empty and all but the last of exactly 128 devices, that
    concatenate to `ds`; slice `k` holds `min 128 (|ds| - 128k)` devices, the one at position `j`
    named by index `128k + j`. -/
def SliceLaw (ds : List Device) (slices : List (List Device)) : Prop :=
  (ds = [] → slices = []) ∧
    slices.length = (ds.length + maxDevicesPerResourceSlice - 1) / maxDevicesPerResourceSlice ∧
    (∀ s ∈ slices, s ≠ []) ∧
    (∀ k (hk : k + 1 < slices.length),
      (slices.get ⟨k, Nat.lt_of_succ_lt hk⟩).length = maxDevicesPerResourceSlice) ∧
    slices.flatten = ds ∧
    ∀ k (hk : k < slices.length),
      (slices.get ⟨k, hk⟩).length =
          min maxDevicesPerResourceSlice (ds.length - maxDevicesPerResourceSlice * k) ∧
        ∀ j (hj : j < (slices.get ⟨k, hk⟩).length),
          ((slices.get ⟨k, hk⟩).get ⟨j, hj⟩).name =
            cpuDevicePrefix ++ sprintf03d ((maxDevicesPerResourceSlice * k + j : ℕ) : ℤ)

/-- Chunking a device sequence whose device `i` is named by index `i` obeys the law. -/
theorem sliceLaw_slicesChunk {ds : List Device}
    (hname : ∀ i (hi : i < ds.length), (ds.get ⟨i, hi⟩).name = cpuDevicePrefix ++ sprintf03d (i : ℤ)) :
    SliceLaw ds (slicesChunk maxDevicesPerResourceSlice ds) := by
  have hn : 0 < maxDevicesPerResourceSlice := by decide
  refine ⟨fun h => by rw [h]; rfl, length_slicesChunk hn ds, fun s hs => ?nonempty,
    fun k hk => ?full, slicesChunk_flatten hn ds,
    fun k hk => ⟨length_get_slicesChunk hn ds hk, fun j hj => ?names⟩⟩
  case nonempty =>
    obtain ⟨⟨k, hk⟩, rfl⟩ := List.mem_iff_get.mp hs
    have := lt_length_of_lt_length_slicesChunk hn ds hk
    rw [← List.length_pos, length_get_slicesChunk hn ds hk]
    omega
  case full =>
    have := add_lt_length_of_succ_lt_length_slicesChunk hn ds hk
    rw [length_get_slicesChunk hn ds]
    omega
  case names => rw [get_get_slicesChunk hn ds hk hj, hname]

/-- `CreateSlices` of the individual-core manager cuts the devices it emits by the law, and on
    a well-formed topology without CPU `-1` it emits one device per non-reserved CPU. -/
theorem createSlices_sliceLaw (mgr : IndividualCoreManager) :
    SliceLaw mgr.emission.allDevices mgr.createSlices.1 ∧
      (WellFormed mgr.cpuTopology → -1 ∉ mgr.cpuTopology.cpuDetails.cpus →
        mgr.emission.allDevices.length = (mgr.cpuTopology.cpuDetails.cpus \ mgr.reservedCPUs).card) := by
  refine ⟨?_, fun hwf hid => ?_⟩
  · rw [IndividualCoreManager.createSlices_fst_eq_slicesChunk]
    refine sliceLaw_slicesChunk fun i hi => ?_
    simp only [List.get_eq_getElem, List.getElem_of_eq mgr.emission_allDevices, List.getElem_map,
      List.getElem_enum]
    rfl
  · rw [mgr.emission_allDevices, List.length_map, List.enum_length, coreGroups_flatten hwf hid,
      List.length_map, visitOrder_eq_catalogueOrder hwf hid, Spec.length_catalogueOrder]

theorem createSlices_sliceLaw_fourCPUs :
    WellFormed fourCPUs ∧ -1 ∉ fourCPUs.cpuDetails.cpus ∧
      SliceLaw (newIndividualCoreManager "dra.cpu" fourCPUs {2}).emission.allDevices
        (newIndividualCoreManager "dra.cpu" fourCPUs {2}).createSlices.1 ∧
      (newIndividualCoreManager "dra.cpu" fourCPUs {2}).emission.allDevices.length =
        (fourCPUs.cpuDetails.cpus \ {2}).card :=
  have h := createSlices_sliceLaw (newIndividualCoreManager "dra.cpu" fourCPUs {2})
  ⟨by decide, by decide, h.1, h.2 (by decide) (by decide)⟩

/-! ## The grouped catalogues -/

/-- What a grouped `CreateSlices` over the coordinates `coords` returns: the slices are one
    device list `ds`, or none when `ds` is empty, and `ds` has a device for every coordinate
    with an allocatable CPU, however many there are. -/
def SingleSlice (coords : CPUSet) (cpusIn : ℤ → CPUSet) (R : CPUSet)
    (slices : List (List Device)) : Prop :=
  ∃ ds, slices = (if ds = [] then [] else [ds]) ∧
    ds.length = (coords.filter fun id => (cpusIn id \ R).Nonempty).card

/-- With `m > 0` coordinates to publish, the slices are exactly one list of `m` devices. -/
theorem SingleSlice.exists_eq_singleton {coords : CPUSet} {cpusIn : ℤ → CPUSet} {R : CPUSet}
    {slices : List (List Device)} (h : SingleSlice coords cpusIn R slices) {m : ℕ}
    (hm : (coords.filter fun id => (cpusIn id \ R).Nonempty).card = m) (hpos : 0 < m) :
    ∃ ds, slices = [ds] ∧ ds.length = m := by
  obtain ⟨ds, hs, hlen⟩ := h
  have hne : ds ≠ [] := fun e => by rw [e, List.length_nil] at hlen; omega
  exact ⟨ds, by rw [hs, if_neg hne], hlen.trans hm⟩

theorem singleSlice_groupedCreateSlices (devicePrefix : String) (coords : CPUSet)
    (cpusIn : ℤ → CPUSet) (R : CPUSet) (attributes : ℤ → CPUSet → Attributes)
    (index : AList (fun _ : String => ℤ)) :
    SingleSlice coords cpusIn R (groupedCreateSlices devicePrefix coords.list cpusIn R attributes index).1 :=
  ⟨(publishedIDs cpusIn R coords.list).map (groupedDevice devicePrefix cpusIn R attributes),
    by rw [groupedCreateSlices_fst]; simp only [List.map_eq_nil_iff],
    by rw [List.length_map, length_publishedIDs]⟩

/-- Both grouped managers return at most one slice, for every topology, reserved set and
    enumeration order: more than 128 coordinates with an allocatable CPU give a slice of more
    than `maxDevicesPerResourceSlice` devices. -/
theorem createSlices_single_slice (smgr : SocketGroupedManager) (nmgr : NUMAGroupedManager)
    (unsortedList : CPUSet → List ℤ) :
    SingleSlice smgr.cpuTopology.cpuDetails.sockets smgr.cpuTopology.cpuDetails.cpusInSockets
        smgr.reservedCPUs smgr.createSlices.1 ∧
      SingleSlice nmgr.cpuTopology.cpuDetails.numaNodes nmgr.cpuTopology.cpuDetails.cpusInNUMANodes
        nmgr.reservedCPUs (nmgr.createSlices unsortedList).1 :=
  ⟨singleSlice_groupedCreateSlices _ _ _ _ _ _, singleSlice_groupedCreateSlices _ _ _ _ _ _⟩

/-- `n` CPUs, CPU `i` alone in socket `i` and in NUMA node `i`. -/
def singleCPUCoordinates (n : ℕ) : CPUTopology :=
  ⟨false, ⟨(List.range n).map fun i : ℕ =>
      (⟨(i : ℤ), ⟨i, i, i, i, i, -1, "performance"⟩⟩ : Σ _ : ℤ, CPUInfo), by
    simpa [List.NodupKeys, List.keys, List.map_map, Function.comp_def] using
      (List.nodup_range n).map (Nat.cast_injective : Function.Injective (Nat.cast : ℕ → ℤ))⟩⟩

/-- With nothing reserved, every coordinate of `singleCPUCoordinates n` has its CPU, and there
    are `n` of them. -/
theorem card_filter_singleCPUCoordinates (n : ℕ) {f : CPUInfo → ℤ}
    (hf : ∀ i : ℕ, f ⟨i, i, i, i, i, -1, "performance"⟩ = i) :
    (((singleCPUCoordinates n).cpuDetails.ids f).filter fun id =>
      ((singleCPUCoordinates n).cpuDetails.cpusWith f id \ ∅).Nonempty).card = n := by
  have hids : (singleCPUCoordinates n).cpuDetails.ids f = ((List.range n).map fun i : ℕ => (i : ℤ)).toFinset := by
    simp only [CPUDetails.ids, singleCPUCoordinates, List.map_map]
    exact congrArg List.toFinset (List.map_congr_left fun i _ => hf i)
  rw [Finset.filter_true_of_mem fun id hid => ?_, hids,
    List.toFinset_card_of_nodup ((List.nodup_range n).map
      (Nat.cast_injective : Function.Injective (Nat.cast : ℕ → ℤ))), List.length_map,
    List.length_range]
  obtain ⟨k, hk, rfl⟩ := CPUDetails.mem_ids.mp hid
  exact ⟨k, by simpa using CPUDetails.mem_cpusWith.mpr ⟨hk, rfl⟩⟩

/-- On 129 single-CPU sockets and NUMA nodes, each grouped manager returns one slice of 129
    devices, more than a `ResourceSlice` may hold. -/
theorem createSlices_single_slice_129 :
    (∃ ds, (newSocketGroupedManager "dra.cpu" (singleCPUCoordinates 129) ∅).createSlices.1 = [ds] ∧
        maxDevicesPerResourceSlice < ds.length) ∧
      ∃ ds, ((newNUMAGroupedManager "dra.cpu" (singleCPUCoordinates 129) ∅).createSlices
          CPUSet.list).1 = [ds] ∧ maxDevicesPerResourceSlice < ds.length := by
  obtain ⟨hs, hn⟩ := createSlices_single_slice
    (newSocketGroupedManager "dra.cpu" (singleCPUCoordinates 129) ∅)
    (newNUMAGroupedManager "dra.cpu" (singleCPUCoordinates 129) ∅) CPUSet.list
  obtain ⟨ds, h1, h2⟩ :=
    hs.exists_eq_singleton (card_filter_singleCPUCoordinates 129 fun _ => rfl) (by decide)
  obtain ⟨ds', h1', h2'⟩ :=
    hn.exists_eq_singleton (card_filter_singleCPUCoordinates 129 fun _ => rfl) (by decide)
  exact ⟨⟨ds, h1, by rw [h2]; decide⟩, ⟨ds', h1', by rw [h2']; decide⟩⟩

end DraDriverCpu
