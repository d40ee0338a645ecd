import DraDriverCpu.Driver.Exclusive
import DraDriverCpu.Device.IndividualCatalogue

/-!
# `Start`: the catalogue is published while the kubelet calls

`Start` (`pkg/driver/driver.go` lines 82–163) registers the kubelet plugin
(`kubeletplugin.Start`, line 105), then creates the CDI manager (lines 121–125), and only
then starts the publishing goroutine (`go plugin.PublishResources(ctx)`, line 160).
`PublishResources` runs the manager's `CreateSlices`, whose device loop writes the
device-name index one entry per iteration (part_002 line 100, part_000 line 69,
grouped_numa.go line 73). The kubelet may call `PrepareResourceClaims` as soon as the plugin
is registered, and `AllocateCPUs` reads the same index (part_002 line 127, part_000 line 102,
grouped_numa.go line 111) with no lock.

`StartStep` lets kubelet claims interleave with every step of `Start` and of the goroutine,
for any manager, with the outcomes the Go runtime allows:
* before the CDI manager exists, a claim that reaches it calls a method of a nil interface and
  panics;
* a claim's reads may overlap iterations of the loop, and see together the index after one of
  the iterations so far;
* a read while an iteration writes an entry is a concurrent map read and write: the runtime may
  stop the process, or the read may find the new name before its value is stored, with the
  zero value `0`.

Reachable states carry a ghost `Ledger`: the claims the run's preparations resolved.

Results:
* `DeviceManager.indexedUpTo_succ`: iteration `k` writes `entryAt k` into the index.
* `DeviceManager.lookup_indexedUpTo_mono`: from an empty index, a grouped manager never
  overwrites an entry.
* `StartReachable.devMgr`: the manager is the one the device loop has built so far.
* `StartReachable.serve`: whole kubelet batches are runs of claim steps.
* `start_prepare_before_publish`: right after registration, every claim whose first result
  names a device of the individual-core driver fails the index lookup.
-/

namespace DraDriverCpu

namespace IndividualCoreManager

/-- The manager once the device loop of `CreateSlices` has run `k` iterations: its index
    holds the devices of those iterations. -/
def indexedUpTo (mgr : IndividualCoreManager) (k : ℕ) : IndividualCoreManager :=
  { mgr with deviceNameToCPUID :=
      ((mgr.coreGroups.flatten.take k).foldl emitDevice ⟨0, mgr.deviceNameToCPUID, []⟩).index }

theorem indexedUpTo_length (mgr : IndividualCoreManager) :
    mgr.indexedUpTo mgr.coreGroups.flatten.length = mgr.createSlices.2 := by
  rw [indexedUpTo, List.take_length, ← emission_index_flatten]
  rfl

end IndividualCoreManager

section Grouped

variable (devicePrefix : String) (cpusIn : ℤ → CPUSet) (reservedCPUs : CPUSet)

/-- The entry iteration `k` of a grouped device loop over `ids` writes: the coordinate's name
    and the coordinate, or nothing when the coordinate has no allocatable CPU. -/
def groupedEntry (ids : List ℤ) (k : ℕ) : Option (String × ℤ) :=
  ids[k]?.bind fun id =>
    if (cpusIn id \ reservedCPUs).card = 0 then none else some (devicePrefix ++ sprintf03d id, id)

theorem groupedCreateSlices_take_succ (attributes : ℤ → CPUSet → Attributes) (ids : List ℤ) (k : ℕ)
    (index : AList (fun _ : String => ℤ)) :
    (groupedCreateSlices devicePrefix (ids.take (k + 1)) cpusIn reservedCPUs attributes index).2 =
      match groupedEntry devicePrefix cpusIn reservedCPUs ids k with
      | some (name, id) =>
        (groupedCreateSlices devicePrefix (ids.take k) cpusIn reservedCPUs attributes index).2.insert name id
      | none => (groupedCreateSlices devicePrefix (ids.take k) cpusIn reservedCPUs attributes index).2 := by
  simp only [groupedCreateSlices, groupedEntry, List.take_succ, List.foldl_append]
  cases ids[k]? with
  | none => rfl
  | some id =>
    simp only [Option.toList, List.foldl_cons, List.foldl_nil, Option.some_bind, groupedStep]
    split_ifs <;> rfl

end Grouped

/-- From an empty index, an entry written by the loop over `ids` is written by the loop over
    any duplicate-free list that holds `ids` as a sublist; the attributes play no part. -/
theorem groupedCreateSlices_lookup_sublist {devicePrefix : String} {cpusIn : ℤ → CPUSet}
    {reservedCPUs : CPUSet} {attributes attributes' : ℤ → CPUSet → Attributes} {ids ids' : List ℤ}
    (hs : ids.Sublist ids') (hids : ids'.Nodup) {device : String} {id : ℤ}
    (h : (groupedCreateSlices devicePrefix ids cpusIn reservedCPUs attributes ∅).2.lookup device =
      some id) :
    (groupedCreateSlices devicePrefix ids' cpusIn reservedCPUs attributes' ∅).2.lookup device =
      some id := by
  obtain ⟨hid, rfl⟩ := groupedCreateSlices_lookup_eq_some devicePrefix cpusIn reservedCPUs attributes _ h
  exact groupedCreateSlices_lookup devicePrefix cpusIn reservedCPUs attributes' hids ∅
    ((hs.filter _).subset hid)

namespace DeviceManager

variable (env : Env)

/-- The number of iterations of the device loop of `CreateSlices`: one per CPU of the core
    groups, or one per socket or NUMA node. -/
def loopLength : DeviceManager → ℕ
  | .individual mgr => mgr.coreGroups.flatten.length
  | .socket mgr => mgr.cpuTopology.cpuDetails.sockets.list.length
  | .numa mgr => mgr.cpuTopology.cpuDetails.numaNodes.list.length

/-- The manager once the device loop of `CreateSlices` has run `k` iterations. -/
def indexedUpTo : DeviceManager → ℕ → DeviceManager
  | .individual mgr, k => .individual (mgr.indexedUpTo k)
  | .socket mgr, k => .socket { mgr with deviceNameToSocketID :=
      (groupedCreateSlices cpuDeviceSocketGroupedPrefix (mgr.cpuTopology.cpuDetails.sockets.list.take k)
        mgr.cpuTopology.cpuDetails.cpusInSockets mgr.reservedCPUs (makeGroupedAttributes mgr.cpuTopology)
        mgr.deviceNameToSocketID).2 }
  | .numa mgr, k => .numa { mgr with deviceNameToNUMANodeID :=
      (groupedCreateSlices cpuDeviceNUMAGroupedPrefix (mgr.cpuTopology.cpuDetails.numaNodes.list.take k)
        mgr.cpuTopology.cpuDetails.cpusInNUMANodes mgr.reservedCPUs
        (numaAttributes mgr.cpuTopology env.unsortedList) mgr.deviceNameToNUMANodeID).2 }

/-- The index entry iteration `k` of the device loop writes, if any: the device `cpudev<k>`
    of the `k`-th CPU, or the device of the `k`-th socket or NUMA node. -/
def entryAt : DeviceManager → ℕ → Option (String × ℤ)
  | .individual mgr, k =>
    mgr.coreGroups.flatten[k]?.map fun cpu => (cpuDevicePrefix ++ sprintf03d k, cpu.cpuID)
  | .socket mgr, k => groupedEntry cpuDeviceSocketGroupedPrefix mgr.cpuTopology.cpuDetails.cpusInSockets
      mgr.reservedCPUs mgr.cpuTopology.cpuDetails.sockets.list k
  | .numa mgr, k => groupedEntry cpuDeviceNUMAGroupedPrefix mgr.cpuTopology.cpuDetails.cpusInNUMANodes
      mgr.reservedCPUs mgr.cpuTopology.cpuDetails.numaNodes.list k

/-- The manager with `name` mapped to `id` in its index. -/
def insertIndex (name : String) (id : ℤ) : DeviceManager → DeviceManager
  | .individual mgr => .individual { mgr with deviceNameToCPUID := mgr.deviceNameToCPUID.insert name id }
  | .socket mgr => .socket { mgr with deviceNameToSocketID := mgr.deviceNameToSocketID.insert name id }
  | .numa mgr => .numa { mgr with deviceNameToNUMANodeID := mgr.deviceNameToNUMANodeID.insert name id }

@[simp] theorem indexedUpTo_zero (m : DeviceManager) : m.indexedUpTo env 0 = m := by
  cases m <;> rfl

@[simp] theorem driverName_indexedUpTo (m : DeviceManager) (k : ℕ) :
    (m.indexedUpTo env k).driverName = m.driverName := by
  cases m <;> rfl

@[simp] theorem coordCPUs_indexedUpTo (m : DeviceManager) (k : ℕ) :
    (m.indexedUpTo env k).coordCPUs = m.coordCPUs := by
  cases m <;> rfl

theorem IsGrouped.indexedUpTo {m : DeviceManager} (hg : m.IsGrouped) (k : ℕ) :
    (m.indexedUpTo env k).IsGrouped := by
  cases m <;> exact hg

/-- Iteration `k` writes `entryAt k` into the index, and nothing else. -/
theorem indexedUpTo_succ (m : DeviceManager) (k : ℕ) :
    m.indexedUpTo env (k + 1) =
      match m.entryAt k with
      | some (name, id) => (m.indexedUpTo env k).insertIndex name id
      | none => m.indexedUpTo env k := by
  cases m with
  | individual mgr =>
    simp only [indexedUpTo, entryAt, IndividualCoreManager.indexedUpTo, List.take_succ, List.foldl_append]
    rcases h : mgr.coreGroups.flatten[k]? with _ | cpu
    · rfl
    · have hk : k < mgr.coreGroups.flatten.length := (List.getElem?_eq_some_iff.mp h).1
      have hdev := (IndividualCoreManager.emitDevices_eq (mgr.coreGroups.flatten.take k)
        ⟨0, mgr.deviceNameToCPUID, []⟩).1
      simp only [Option.toList, List.foldl_cons, List.foldl_nil, emitDevice_index, hdev,
        List.length_take, min_eq_left hk.le, Nat.zero_add, Option.map_some']
      rfl
  | socket mgr | numa mgr =>
    simp only [indexedUpTo, entryAt, groupedCreateSlices_take_succ]
    split <;> rfl

/-- Once the loop has run all its iterations, the manager is the one `CreateSlices`
    returns. -/
theorem indexedUpTo_of_loopLength_le {m : DeviceManager} {k : ℕ} (hk : m.loopLength ≤ k) :
    m.indexedUpTo env k = (m.createSlices env).2 := by
  cases m with
  | individual mgr =>
    show individual (mgr.indexedUpTo k) = individual mgr.createSlices.2
    rw [← mgr.indexedUpTo_length, IndividualCoreManager.indexedUpTo, IndividualCoreManager.indexedUpTo,
      List.take_of_length_le hk, List.take_length]
  | socket mgr | numa mgr => simp only [indexedUpTo, List.take_of_length_le hk]; rfl

@[simp] theorem coordIndex_insertIndex (m : DeviceManager) (name : String) (id : ℤ) :
    (m.insertIndex name id).coordIndex = m.coordIndex.insert name id := by
  cases m <;> rfl

@[simp] theorem driverName_insertIndex (m : DeviceManager) (name : String) (id : ℤ) :
    (m.insertIndex name id).driverName = m.driverName := by
  cases m <;> rfl

@[simp] theorem coordCPUs_insertIndex (m : DeviceManager) (name : String) (id : ℤ) :
    (m.insertIndex name id).coordCPUs = m.coordCPUs := by
  cases m <;> rfl

theorem IsGrouped.insertIndex {m : DeviceManager} (hg : m.IsGrouped) (name : String) (id : ℤ) :
    (m.insertIndex name id).IsGrouped := by
  cases m <;> exact hg

/-- Through an index with one more entry, a device stands for what it stood for, or for the
    CPUs of the new entry's coordinate. -/
theorem mem_deviceCPUs_insertIndex {m : DeviceManager} {name device : String} {id c : ℤ}
    (h : c ∈ (m.insertIndex name id).deviceCPUs device) : c ∈ m.deviceCPUs device ∨ c ∈ m.coordCPUs id := by
  by_cases hd : device = name
  · subst hd
    right
    simpa [deviceCPUs] using h
  · left
    simpa [deviceCPUs, AList.lookup_insert_ne hd] using h

variable {env} {m : DeviceManager} (hg : m.IsGrouped) (h0 : m.coordIndex = ∅)

include hg h0 in
/-- From an empty index, a grouped manager's index only grows along the device loop: an entry
    is never overwritten. -/
theorem lookup_indexedUpTo_mono {k k' : ℕ} (hk : k ≤ k') {device : String} {id : ℤ}
    (h : (m.indexedUpTo env k).coordIndex.lookup device = some id) :
    (m.indexedUpTo env k').coordIndex.lookup device = some id := by
  cases m with
  | individual => exact hg.elim
  | socket mgr | numa mgr =>
    dsimp only [indexedUpTo, coordIndex] at h0 h ⊢
    rw [h0] at h ⊢
    exact groupedCreateSlices_lookup_sublist (List.take_sublist_take_left _ hk)
      ((List.take_sublist _ _).nodup (CPUSet.list_nodup _)) h

include hg h0 in
/-- A lookup that succeeds at some point of the loop returns what the complete index
    returns. -/
theorem lookup_indexedUpTo_createSlices (k : ℕ) {device : String} {id : ℤ}
    (h : (m.indexedUpTo env k).coordIndex.lookup device = some id) :
    (m.createSlices env).2.coordIndex.lookup device = some id := by
  rw [← indexedUpTo_of_loopLength_le env (le_max_right k m.loopLength)]
  exact lookup_indexedUpTo_mono hg h0 (le_max_left _ _) h

include hg h0 in
theorem deviceCPUs_indexedUpTo_subset (k : ℕ) (device : String) :
    (m.indexedUpTo env k).deviceCPUs device ⊆ (m.createSlices env).2.deviceCPUs device := by
  intro c hc
  rcases h : (m.indexedUpTo env k).coordIndex.lookup device with _ | id
  · simp [deviceCPUs, h] at hc
  · have hfinal := lookup_indexedUpTo_createSlices hg h0 k h
    rw [← indexedUpTo_of_loopLength_le env le_rfl] at hfinal ⊢
    simpa [deviceCPUs, h, hfinal] using hc

end DeviceManager

/-- A claim prepared while its reads see the index of `view`; the manager itself is kept. -/
def CPUDriver.prepareReading (env : Env) (d : CPUDriver) (view : DeviceManager) (claim : ResourceClaim)
    (cdiErr : Option String) : CPUDriver :=
  { ({ d with devMgr := view }.prepareResourceClaim env claim cdiErr).2 with devMgr := d.devMgr }

/-- Read through the index as it stands, a claim is prepared by the driver itself. -/
theorem CPUDriver.prepareReading_self (env : Env) (d : CPUDriver) (claim : ResourceClaim)
    (cdiErr : Option String) :
    d.prepareReading env d.devMgr claim cdiErr = (d.prepareResourceClaim env claim cdiErr).2 := by
  change { (d.prepareResourceClaim env claim cdiErr).2 with devMgr := d.devMgr } = _
  rw [← CPUDriver.prepareResourceClaim_devMgr claim cdiErr]

/-! ## Interleavings -/

/-- Where `Start` and its publishing goroutine are. -/
inductive StartPhase
  /-- The driver exists; the plugin is not registered. -/
  | created
  /-- `kubeletplugin.Start` has returned: kubelet calls may arrive; the CDI manager is nil. -/
  | registered
  /-- `Start` has created the CDI manager and the NRI stub. -/
  | cdiCreated
  /-- The device loop of `CreateSlices` has run `k` iterations. -/
  | publishing (k : ℕ)
  /-- `CreateSlices` has returned. -/
  | published
  /-- The process has stopped, after `k` iterations of the device loop. -/
  | aborted (k : ℕ)
  deriving DecidableEq

/-- The phase and the driver. -/
structure StartState where
  phase : StartPhase
  driver : CPUDriver

/-- The number of device-loop iterations a phase has seen, for the manager `m`. -/
def StartPhase.iterations (m : DeviceManager) : StartPhase → ℕ
  | .created | .registered | .cdiCreated => 0
  | .publishing k | .aborted k => k
  | .published => m.loopLength

/-- The phases in which the CDI manager exists. -/
def StartPhase.CdiCreated : StartPhase → Prop
  | .cdiCreated | .publishing _ | .published => True
  | _ => False

/-- The phases in which the device loop has started. -/
def StartPhase.LoopStarted : StartPhase → Prop
  | .publishing _ | .published => True
  | _ => False

/-- Whether `AllocateCPUs` reads the index for the claim: it has a result of driver `name`
    (the results of other drivers are skipped). -/
def ResourceClaim.ReadsIndex (name : String) (claim : ResourceClaim) : Prop :=
  ∃ r ∈ claim.allocation.getD [], r.driver = name

/-- The indexes the reads of one claim can see in phase `p`. The loop only adds entries and a
    claim stops at its first failed lookup, so its reads see together what its last read sees:
    the index after some iteration `j` the phase has seen. A read while iteration `j` writes its
    entry can also find the new name before its value, with the zero value `0`. -/
inductive StartPhase.Reads (env : Env) (m : DeviceManager) (p : StartPhase) : DeviceManager → Prop
  | stage (j : ℕ) (hj : j ≤ p.iterations m) : p.Reads env m (m.indexedUpTo env j)
  | torn (j : ℕ) (hj : j ≤ p.iterations m) (hp : p.LoopStarted) (name : String) (id : ℤ)
      (h : m.entryAt j = some (name, id)) : p.Reads env m ((m.indexedUpTo env j).insertIndex name 0)

/-- What a step does, as far as the ghost ledger is concerned. -/
inductive StartEvent
  | register
  | createCdi
  | publish
  | emit
  | finish
  /-- One claim prepared, its reads seeing the index of `view`. -/
  | prepare (view : DeviceManager) (claim : ResourceClaim) (cdiErr : Option String)
  | unprepare (claim : NamespacedObject) (cdiErr : Option String)
  | abort

/-- The steps of `Start`, of the publishing goroutine and of the kubelet, for a driver built
    around the manager `m`. The kubelet plugin helper serializes the prepare and unprepare
    batches by default (`Start` passes no option against it), so the kubelet's steps are its
    claims, one at a time. -/
inductive StartStep (env : Env) (m : DeviceManager) : StartState → StartEvent → StartState → Prop
  /-- `kubeletplugin.Start` registers the plugin (line 105). -/
  | register (d : CPUDriver) : StartStep env m ⟨.created, d⟩ .register ⟨.registered, d⟩
  /-- After the registration wait `Start` creates the CDI manager (lines 121–125) and the NRI
      stub. -/
  | createCdi (d : CPUDriver) : StartStep env m ⟨.registered, d⟩ .createCdi ⟨.cdiCreated, d⟩
  /-- `Start` starts `PublishResources` (line 160), which calls `CreateSlices`. -/
  | publish (d : CPUDriver) : StartStep env m ⟨.cdiCreated, d⟩ .publish ⟨.publishing 0, d⟩
  /-- Iteration `k` of the device loop writes its entry, if any. -/
  | emit (k : ℕ) (d : CPUDriver) (hk : k < m.loopLength) :
      StartStep env m ⟨.publishing k, d⟩ .emit
        ⟨.publishing (k + 1), { d with devMgr := m.indexedUpTo env (k + 1) }⟩
  /-- `CreateSlices` returns. -/
  | finish (d : CPUDriver) : StartStep env m ⟨.publishing m.loopLength, d⟩ .finish ⟨.published, d⟩
  /-- One claim of a `PrepareResourceClaims` batch once the CDI manager exists, its reads
      seeing `view`. -/
  | prepare (p : StartPhase) (d : CPUDriver) (view : DeviceManager) (claim : ResourceClaim)
      (cdiErr : Option String) (hp : p.CdiCreated) (hview : p.Reads env m view) :
      StartStep env m ⟨p, d⟩ (.prepare view claim cdiErr) ⟨p, d.prepareReading env view claim cdiErr⟩
  /-- One claim of an `UnprepareResourceClaims` batch once the CDI manager exists. -/
  | unprepare (p : StartPhase) (d : CPUDriver) (claim : NamespacedObject) (cdiErr : Option String)
      (hp : p.CdiCreated) :
      StartStep env m ⟨p, d⟩ (.unprepare claim cdiErr) ⟨p, (d.unprepareResourceClaim claim cdiErr).2⟩
  /-- Before the CDI manager exists, a claim that does not resolve fails without reaching it. -/
  | prepareEarly (d : CPUDriver) (claim : ResourceClaim) (cdiErr : Option String)
      (hc : (d.claimCPUSet env claim).toBool = false) :
      StartStep env m ⟨.registered, d⟩ (.prepare d.devMgr claim cdiErr)
        ⟨.registered, (d.prepareResourceClaim env claim cdiErr).2⟩
  /-- A claim that resolves before the CDI manager exists calls `AddDevice` on a nil interface
      and panics; the model follows the run no further. -/
  | panicPrepare (d : CPUDriver) (claim : ResourceClaim) (hc : (d.claimCPUSet env claim).toBool = true) :
      StartStep env m ⟨.registered, d⟩ .abort ⟨.aborted 0, d⟩
  /-- So does every claim unprepared before the CDI manager exists, through `RemoveDevice`. -/
  | panicUnprepare (d : CPUDriver) (claim : NamespacedObject) :
      StartStep env m ⟨.registered, d⟩ .abort ⟨.aborted 0, d⟩
  /-- A claim that reads the index while iteration `k` writes an entry: the runtime detects the
      concurrent map read and write and stops the process. -/
  | race (k : ℕ) (d : CPUDriver) (claim : ResourceClaim) (hclaim : claim.ReadsIndex m.driverName)
      (name : String) (id : ℤ) (hk : m.entryAt k = some (name, id)) :
      StartStep env m ⟨.publishing k, d⟩ .abort ⟨.aborted k, d⟩

/-- The ghost ledger after an event from driver `d`: the claim a preparation resolved, through
    the index its reads saw, as `CPUDriver.ghostPrepare` records it. -/
def StartEvent.ledger (env : Env) (d : CPUDriver) (l : Ledger) : StartEvent → Ledger
  | .prepare view claim cdiErr => (CPUDriver.ghostPrepare env ({ d with devMgr := view }, l) (claim, cdiErr)).2
  | .unprepare claim cdiErr => (CPUDriver.ghostUnprepare (d, l) (claim, cdiErr)).2
  | _ => l

/-- The states reachable from the driver `d₀`, each with the ledger of the run that reaches
    it. -/
inductive StartReachable (env : Env) (m : DeviceManager) (d₀ : CPUDriver) : StartState → Ledger → Prop
  | init : StartReachable env m d₀ ⟨.created, d₀⟩ ∅
  | step {s s' : StartState} {e : StartEvent} {l : Ledger} :
      StartReachable env m d₀ s l → StartStep env m s e s' →
        StartReachable env m d₀ s' (e.ledger env s.driver l)

section Reachable

variable {env : Env} {m : DeviceManager} {d₀ : CPUDriver}

/-- Only the device loop changes the manager: it is the one the loop has built so far. -/
theorem StartStep.devMgr {s s' : StartState} {e : StartEvent} (hstep : StartStep env m s e s')
    (h : s.driver.devMgr = m.indexedUpTo env (s.phase.iterations m)) :
    s'.driver.devMgr = m.indexedUpTo env (s'.phase.iterations m) := by
  cases hstep with
  | emit => rfl
  | unprepare => exact (CPUDriver.unprepareResourceClaim_devMgr _ _).trans h
  | prepareEarly => exact (CPUDriver.prepareResourceClaim_devMgr _ _).trans h
  | _ => exact h

theorem StartReachable.devMgr (hd₀ : d₀.devMgr = m) {s : StartState} {l : Ledger}
    (hs : StartReachable env m d₀ s l) : s.driver.devMgr = m.indexedUpTo env (s.phase.iterations m) := by
  induction hs with
  | init => exact hd₀.trans (DeviceManager.indexedUpTo_zero env m).symm
  | step _ hstep ih => exact hstep.devMgr ih

/-- Whole batches served through the index as it stands, once the CDI manager exists, are runs
    of claim steps: the interleavings contain every run of `CPUDriver.serve`, with its
    ledger. -/
theorem StartReachable.serve (hd₀ : d₀.devMgr = m) {p : StartPhase} (hp : p.CdiCreated) {d : CPUDriver}
    {l : Ledger} (hs : StartReachable env m d₀ ⟨p, d⟩ l) (call : KubeletCall) :
    StartReachable env m d₀ ⟨p, d.serve env call⟩ (CPUDriver.ghostServe env (d, l) call).2 := by
  let Q := fun s : CPUDriver × Ledger => StartReachable env m d₀ ⟨p, s.1⟩ s.2
  rw [← CPUDriver.ghostServe_fst env (d, l) call]
  rcases call with claims | claims
  · refine List.foldlRecOn (motive := Q) claims _ (d, l) hs fun s hs c _ => ?_
    have hdev : s.1.devMgr = m.indexedUpTo env (p.iterations m) := hs.devMgr hd₀
    have hstep := hs.step (.prepare p s.1 s.1.devMgr c.1 c.2 hp (hdev ▸ .stage _ le_rfl))
    rwa [CPUDriver.prepareReading_self] at hstep
  · exact List.foldlRecOn (motive := Q) claims _ (d, l) hs fun s hs c _ =>
      hs.step (.unprepare p s.1 c.1 c.2 hp)

end Reachable

/-- Right after registration the index of a new individual-core manager is still empty:
    preparing a claim whose first result names a device of the driver fails the lookup,
    whatever the device, and changes nothing. -/
theorem start_prepare_before_publish (env : Env) (name : String) (topo : CPUTopology) (R : CPUSet)
    (d₀ : CPUDriver) (hd₀ : d₀.devMgr = .individual (newIndividualCoreManager name topo R))
    (claim : ResourceClaim) (r : AllocationResult) (rest : List AllocationResult)
    (halloc : claim.allocation = some (r :: rest)) (hr : r.driver = name) (cdiErr : Option String) :
    StartReachable env (.individual (newIndividualCoreManager name topo R)) d₀ ⟨.registered, d₀⟩ ∅ ∧
      d₀.prepareResourceClaim env claim cdiErr =
        (.error ("device " ++ IndividualCoreManager.quoteName r.device ++ " not found in device to CPU ID map"), d₀) := by
  refine ⟨.step .init (.register d₀), CPUDriver.prepareResourceClaim_of_error ?_ cdiErr⟩
  simp [CPUDriver.claimCPUSet, halloc, hd₀, DeviceManager.allocateCPUs,
    IndividualCoreManager.allocateCPUs, IndividualCoreManager.collectCPUIDs, newIndividualCoreManager, hr,
    Except.map]

/-- The driver `Start` builds around the individual-core manager of `fourCPUs`. -/
def fourCPUDriver : CPUDriver :=
  ⟨"dra.cpu", .individual (newIndividualCoreManager "dra.cpu" fourCPUs ∅),
    newCPUAllocationStore fourCPUs ∅, ∅⟩

/-- A claim whose one result names `cpudev000`. -/
def cpudev000Claim : ResourceClaim :=
  ⟨"c", "default", "claim", some [⟨"dra.cpu", "node", "cpudev000", "cpu", ∅⟩]⟩

theorem start_prepare_before_publish_fourCPUDriver :
    "cpudev000" ∈ (newIndividualCoreManager "dra.cpu" fourCPUs ∅).createSlices.1.flatten.map Device.name ∧
      StartReachable takeFirstEnv (.individual (newIndividualCoreManager "dra.cpu" fourCPUs ∅)) fourCPUDriver
        ⟨.registered, fourCPUDriver⟩ ∅ ∧
      fourCPUDriver.prepareResourceClaim takeFirstEnv cpudev000Claim none =
        (.error ("device " ++ IndividualCoreManager.quoteName "cpudev000" ++ " not found in device to CPU ID map"), fourCPUDriver) :=
  ⟨by decide, start_prepare_before_publish takeFirstEnv "dra.cpu" fourCPUs ∅ fourCPUDriver rfl
    cpudev000Claim _ [] rfl rfl none⟩

end DraDriverCpu
