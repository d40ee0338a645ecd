import DraDriverCpu.Device.IndividualCore
import DraDriverCpu.Device.Grouped

/-!
# `CPUDriver`: preparing and unpreparing claims

Model of the claim handling of `pkg/driver/driver.go` (lines 233–320). Several of its
collaborators are not among the sources and are modelled from the spec:

* the allocation store (`CPUAllocationStore`): the CPU set of each prepared claim by UID;
  `GetSharedCPUs` returns the non-reserved CPUs that no prepared claim holds;
* the driver's `devMgr`, one of the three device managers (`DeviceManager`);
* the CDI manager: the devices written to the CDI spec, each with its environment variable.
  `AddDevice` and `RemoveDevice` may fail; a failed call is an input of the model (`cdiErr`)
  and leaves the spec unchanged;
* `TakeByTopologyNUMAPacked`, `UnsortedList` and the CDI constants (`Env`).

The kubelet plugin helper serializes its calls, so a run of the driver is a sequence of
`PrepareResourceClaims` and `UnprepareResourceClaims` batches (`CPUDriver.run`), each
processing its claims in order.

Results:
* `prepareResourceClaim_of_error`, `prepareResourceClaim_of_ok`: what one preparation does.
* `prepareResourceClaim_error_store`: a failed preparation leaves the store as it was, unless
  the CDI write failed, after which it is the store a success leaves.
* `prepareResourceClaim_repeat`: with the individual-core manager a repeated preparation
  changes nothing; with a grouped manager it resolves to CPUs disjoint from the first
  (`prepareResourceClaim_repeat_socket`: `{0}`, then `{1}`).
* `DeviceManager.allocateCPUs_perm`: what a claim resolves to does not depend on the order of
  its allocation results.
* `CPUAllocationStore.card_getSharedCPUs_add_sum`: with disjoint stored sets, the shared pool
  and the stored sets count every non-reserved CPU once.
* `unprepareResourceClaims_release`: an unprepare batch forgets the CPUs of every claim it
  names, also when `RemoveDevice` fails, and removes only the devices whose removal succeeded.
* `prepareResourceClaims_result`: a prepare batch reports under each UID the result of the
  last claim of the batch with that UID.
-/

namespace DraDriverCpu

/-! ## The allocation store -/

/-- Modelled from the spec: `CPUAllocationStore`, the CPU set of each prepared claim by UID,
    over the CPUs of the topology it is built for and the reserved set. -/
structure CPUAllocationStore where
  allCPUs : CPUSet
  reservedCPUs : CPUSet
  allocations : AList (fun _ : String => CPUSet)

def newCPUAllocationStore (topo : CPUTopology) (reservedCPUs : CPUSet) : CPUAllocationStore :=
  ⟨topo.cpuDetails.cpus, reservedCPUs, ∅⟩

namespace CPUAllocationStore

variable (st : CPUAllocationStore)

def addResourceClaimAllocation (uid : String) (cpus : CPUSet) : CPUAllocationStore :=
  { st with allocations := st.allocations.insert uid cpus }

def removeResourceClaimAllocation (uid : String) : CPUAllocationStore :=
  { st with allocations := st.allocations.erase uid }

def allocatedCPUs : CPUSet := st.allocations.entries.foldr (fun e acc => e.2 ∪ acc) ∅

/-- `GetSharedCPUs()`: the non-reserved CPUs no prepared claim holds. -/
def getSharedCPUs : CPUSet := (st.allCPUs \ st.reservedCPUs) \ st.allocatedCPUs

variable {st}

theorem lookup_addResourceClaimAllocation (uid u : String) (cpus : CPUSet) :
    (st.addResourceClaimAllocation uid cpus).allocations.lookup u =
      if u = uid then some cpus else st.allocations.lookup u := by
  split_ifs with hu
  · rw [hu]; exact AList.lookup_insert _
  · exact AList.lookup_insert_ne hu

theorem lookup_removeResourceClaimAllocation (uid u : String) :
    (st.removeResourceClaimAllocation uid).allocations.lookup u =
      if u = uid then none else st.allocations.lookup u := by
  split_ifs with hu
  · rw [hu]; exact AList.lookup_erase _ _
  · exact AList.lookup_erase_ne hu

theorem mem_allocatedCPUs {c : ℤ} :
    c ∈ st.allocatedCPUs ↔ ∃ uid S, st.allocations.lookup uid = some S ∧ c ∈ S := by
  rw [allocatedCPUs, mem_foldr_union]
  constructor
  · rintro ⟨⟨uid, S⟩, he, hc⟩
    exact ⟨uid, S, AList.mem_lookup_iff.mpr he, hc⟩
  · rintro ⟨uid, S, hl, hc⟩
    exact ⟨⟨uid, S⟩, AList.mem_lookup_iff.mp hl, hc⟩

/-- When the stored sets are pairwise disjoint, hold no reserved CPU and lie within the store's
    CPUs, the shared pool and the stored sets count every non-reserved CPU once. -/
theorem card_getSharedCPUs_add_sum
    (hdisj : ∀ u v S T, u ≠ v → st.allocations.lookup u = some S → st.allocations.lookup v = some T →
      Disjoint S T)
    (hres : ∀ u S, st.allocations.lookup u = some S → Disjoint S st.reservedCPUs)
    (hwithin : ∀ u S, st.allocations.lookup u = some S → S ⊆ st.allCPUs) :
    st.getSharedCPUs.card + (st.allocations.entries.map fun e => e.2.card).sum =
      (st.allCPUs \ st.reservedCPUs).card := by
  have hpair : st.allocations.entries.Pairwise fun a b => Disjoint a.2 b.2 :=
    (List.nodupKeys_iff_pairwise.mp st.allocations.nodupKeys).imp_of_mem fun ha hb hne =>
      hdisj _ _ _ _ hne (AList.mem_lookup_iff.mpr ha) (AList.mem_lookup_iff.mpr hb)
  have hsum : st.allocatedCPUs.card = (st.allocations.entries.map fun e => e.2.card).sum :=
    card_foldr_union_of_pairwise (fun e : Σ _ : String, CPUSet => e.2) hpair
  have hsub : st.allocatedCPUs ⊆ st.allCPUs \ st.reservedCPUs := fun x hx =>
    let ⟨u, S, hl, hxS⟩ := mem_allocatedCPUs.mp hx
    Finset.mem_sdiff.mpr ⟨hwithin u S hl hxS, Finset.disjoint_left.mp (hres u S hl) hxS⟩
  have hle := Finset.card_le_card hsub
  rw [getSharedCPUs, Finset.card_sdiff hsub, ← hsum]
  omega

/-- A shared CPU is non-reserved and held by no prepared claim. -/
theorem mem_getSharedCPUs {c : ℤ} :
    c ∈ st.getSharedCPUs ↔
      c ∈ st.allCPUs ∧ c ∉ st.reservedCPUs ∧ ∀ uid S, st.allocations.lookup uid = some S → c ∉ S := by
  simp only [getSharedCPUs, Finset.mem_sdiff, mem_allocatedCPUs, not_exists, not_and, and_assoc]

end CPUAllocationStore

/-! ## The device manager -/

/-- Modelled from the spec: the driver's `devMgr`, one of the three managers (the field and
    its construction are not among the sources). -/
inductive DeviceManager
  | individual (mgr : IndividualCoreManager)
  | socket (mgr : SocketGroupedManager)
  | numa (mgr : NUMAGroupedManager)

/-- The collaborators of the driver that are not among the sources. -/
structure Env where
  /-- `cpumanager.TakeByTopologyNUMAPacked` with `CPUSortingStrategyPacked`. -/
  take : CPUSet → ℤ → Except String CPUSet
  unsortedList : CPUSet → List ℤ
  cdiEnvVarPrefix : String
  cdiVendor : String
  cdiClass : String

namespace DeviceManager

variable (env : Env)

def createSlices : DeviceManager → List (List Device) × DeviceManager
  | .individual mgr => (mgr.createSlices.1, .individual mgr.createSlices.2)
  | .socket mgr => (mgr.createSlices.1, .socket mgr.createSlices.2)
  | .numa mgr => ((mgr.createSlices env.unsortedList).1, .numa (mgr.createSlices env.unsortedList).2)

/-- `devMgr.AllocateCPUs(logger, claim)` on the claim's allocation results, where
    `getSharedCPUs()` returns `sharedCPUs`. -/
def allocateCPUs (sharedCPUs : CPUSet) : DeviceManager → List AllocationResult → Except String CPUSet
  | .individual mgr, results => mgr.allocateCPUs results
  | .socket mgr, results => mgr.allocateCPUs env.take sharedCPUs results
  | .numa mgr, results => mgr.allocateCPUs env.take sharedCPUs results

def driverName : DeviceManager → String
  | .individual mgr => mgr.driverName
  | .socket mgr => mgr.driverName
  | .numa mgr => mgr.driverName

/-- The manager's device-name index. -/
def coordIndex : DeviceManager → AList (fun _ : String => ℤ)
  | .individual mgr => mgr.deviceNameToCPUID
  | .socket mgr => mgr.deviceNameToSocketID
  | .numa mgr => mgr.deviceNameToNUMANodeID

/-- The CPUs of a coordinate: the CPU itself, or the CPUs of the socket or NUMA node. -/
def coordCPUs : DeviceManager → ℤ → CPUSet
  | .individual _, id => {id}
  | .socket mgr, id => mgr.cpuTopology.cpuDetails.cpusInSockets id
  | .numa mgr, id => mgr.cpuTopology.cpuDetails.cpusInNUMANodes id

/-- The CPUs a device name stands for, through the manager's index. -/
def deviceCPUs (m : DeviceManager) (device : String) : CPUSet :=
  ((m.coordIndex.lookup device).map m.coordCPUs).getD ∅

/-- The managers that resolve claims from the shared pool. -/
def IsGrouped : DeviceManager → Prop
  | .individual _ => False
  | .socket _ | .numa _ => True

/-- A grouped manager resolves claims with the loop of `groupedAllocateCPUs` over its
    index and coordinates. -/
theorem allocateCPUs_grouped {m : DeviceManager} (hg : m.IsGrouped) :
    ∃ notFound : String → String, ∀ sharedCPUs results, m.allocateCPUs env sharedCPUs results =
      groupedAllocateCPUs m.driverName m.coordIndex m.coordCPUs notFound env.take sharedCPUs results := by
  cases m with
  | individual => exact hg.elim
  | socket mgr => exact ⟨_, fun _ _ => rfl⟩
  | numa mgr => exact ⟨_, fun _ _ => rfl⟩

/-- A grouped manager resolves a claim to shared CPUs, each within a device named by a
    result of its driver, when packing selects within its pool. -/
theorem allocateCPUs_subset {m : DeviceManager} (hg : m.IsGrouped)
    (hsub : ∀ pool n S, env.take pool n = .ok S → S ⊆ pool) {sharedCPUs : CPUSet}
    {results : List AllocationResult} {S : CPUSet} (h : m.allocateCPUs env sharedCPUs results = .ok S)
    {c : ℤ} (hc : c ∈ S) :
    c ∈ sharedCPUs ∧ ∃ r ∈ results, r.driver = m.driverName ∧ c ∈ m.deviceCPUs r.device := by
  obtain ⟨notFound, hm⟩ := allocateCPUs_grouped env hg
  rw [hm] at h
  obtain ⟨hs, r, hr, hd, id, hl, hcid⟩ := groupedAllocateCPUs_subset hsub h hc
  exact ⟨hs, r, hr, hd, by simpa [deviceCPUs, hl] using hcid⟩

/-- What a manager resolves a claim to, or whether it fails, does not depend on the order in
    which the claim lists its allocation results: the individual-core manager collects a set
    of indexed CPUs, and a grouped manager packs every result from the same pool. -/
theorem allocateCPUs_perm (m : DeviceManager) (sharedCPUs : CPUSet)
    {results results' : List AllocationResult} (hp : results.Perm results') :
    (m.allocateCPUs env sharedCPUs results).toOption = (m.allocateCPUs env sharedCPUs results').toOption := by
  cases m with
  | individual mgr => exact mgr.allocateCPUs_toOption_perm hp
  | socket mgr => exact groupedAllocateCPUs_perm hp
  | numa mgr => exact groupedAllocateCPUs_perm hp

end DeviceManager

/-! ## CDI -/

/-- The maximal runs of consecutive IDs of an ascending list, as first and last ID. -/
def cpuRanges : List ℤ → List (ℤ × ℤ)
  | [] => []
  | c :: cs =>
    match cpuRanges cs with
    | (a, b) :: rs => if c + 1 = a then (c, b) :: rs else (c, c) :: (a, b) :: rs
    | [] => [(c, c)]

/-- `CPUSet.String()`: the canonical Linux CPU list, such as `0-3,8`. -/
def CPUSet.string (s : CPUSet) : String :=
  ",".intercalate ((cpuRanges s.list).map fun p =>
    if p.1 = p.2 then toString p.1 else toString p.1 ++ "-" ++ toString p.2)

example : CPUSet.string {0, 1, 2, 3, 8} = "0-3,8" := by decide

def getCDIDeviceName (uid : String) : String := "claim-" ++ uid

def qualifiedName (vendor «class» name : String) : String := vendor ++ "/" ++ «class» ++ "=" ++ name

structure PreparedDevice where
  poolName : String
  deviceName : String
  cdiDeviceIDs : List String
  requests : List String
  deriving DecidableEq

/-- `kubeletplugin.PrepareResult`: `Err`, or the prepared devices. -/
abbrev PrepareResult := Except String (List PreparedDevice)

/-- `kubeletplugin.NamespacedObject`: the claim an unprepare call names. -/
structure NamespacedObject where
  «namespace» : String
  name : String
  uid : String

/-! ## The driver -/

/-- The part of `CPUDriver` that claim preparation reads and writes, with the devices of the
    CDI spec (device name to environment variable). -/
structure CPUDriver where
  driverName : String
  devMgr : DeviceManager
  cpuAllocationStore : CPUAllocationStore
  cdiDevices : AList (fun _ : String => String)

namespace CPUDriver

variable (env : Env) (cp : CPUDriver)

/-- Lines 257–266 of `prepareResourceClaim`: the claim's CPU set, or the error returned
    before anything is written. -/
def claimCPUSet (claim : ResourceClaim) : Except String CPUSet :=
  match claim.allocation with
  | none => .error ("claim " ++ claim.«namespace» ++ "/" ++ claim.name ++ " has no allocation")
  | some results => cp.devMgr.allocateCPUs env cp.cpuAllocationStore.getSharedCPUs results

/-- The prepared devices of lines 278–287: one per allocation result of the claim (its
    `Status.Allocation` is known to be set there). -/
def preparedDevices (qualifiedName : String) (claim : ResourceClaim) : List PreparedDevice :=
  (claim.allocation.getD []).map fun allocResult =>
    ⟨allocResult.pool, allocResult.device, [qualifiedName], [allocResult.request]⟩

/-- The environment variable of lines 270–271. -/
def cdiEnvVar (uid : String) (claimCPUSet : CPUSet) : String :=
  env.cdiEnvVarPrefix ++ "_" ++ uid ++ "=" ++ claimCPUSet.string

/-- `prepareResourceClaim(ctx, claim)` (lines 254–293), where `AddDevice` fails with
    `cdiErr` when it is `some`. -/
def prepareResourceClaim (claim : ResourceClaim) (cdiErr : Option String) : PrepareResult × CPUDriver :=
  match cp.claimCPUSet env claim with
  | .error err => (.error err, cp)
  | .ok claimCPUSet =>
    let cp := { cp with
      cpuAllocationStore := cp.cpuAllocationStore.addResourceClaimAllocation claim.uid claimCPUSet }
    let deviceName := getCDIDeviceName claim.uid
    match cdiErr with
    | some err => (.error err, cp)
    | none =>
      (.ok (preparedDevices (qualifiedName env.cdiVendor env.cdiClass deviceName) claim),
        { cp with cdiDevices := cp.cdiDevices.insert deviceName (cdiEnvVar env claim.uid claimCPUSet) })

/-- `unprepareResourceClaim(ctx, claim)` (lines 316–320), where `RemoveDevice` fails with
    `cdiErr` when it is `some`. -/
def unprepareResourceClaim (claim : NamespacedObject) (cdiErr : Option String) :
    Option String × CPUDriver :=
  let cp := { cp with
    cpuAllocationStore := cp.cpuAllocationStore.removeResourceClaimAllocation claim.uid }
  match cdiErr with
  | some err => (some err, cp)
  | none => (none, { cp with cdiDevices := cp.cdiDevices.erase (getCDIDeviceName claim.uid) })

/-- `PrepareResourceClaims(ctx, claims)` (lines 234–248), each claim with the outcome of its
    CDI write: the result by claim UID. -/
def prepareResourceClaims (claims : List (ResourceClaim × Option String)) :
    AList (fun _ : String => PrepareResult) × CPUDriver :=
  claims.foldl (fun acc c =>
    ((acc.2.prepareResourceClaim env c.1 c.2).1 |> acc.1.insert c.1.uid,
      (acc.2.prepareResourceClaim env c.1 c.2).2)) (∅, cp)

/-- `UnprepareResourceClaims(ctx, claims)` (lines 296–314), each claim with the outcome of
    its CDI removal: the error by claim UID. -/
def unprepareResourceClaims (claims : List (NamespacedObject × Option String)) :
    AList (fun _ : String => Option String) × CPUDriver :=
  claims.foldl (fun acc c =>
    ((acc.2.unprepareResourceClaim c.1 c.2).1 |> acc.1.insert c.1.uid,
      (acc.2.unprepareResourceClaim c.1 c.2).2)) (∅, cp)

end CPUDriver

/-- A call of the kubelet plugin helper, with the outcome of each CDI call it causes. -/
inductive KubeletCall
  | prepare (claims : List (ResourceClaim × Option String))
  | unprepare (claims : List (NamespacedObject × Option String))

namespace CPUDriver

variable (env : Env)

def serve (cp : CPUDriver) : KubeletCall → CPUDriver
  | .prepare claims => (cp.prepareResourceClaims env claims).2
  | .unprepare claims => (cp.unprepareResourceClaims claims).2

def run (cp : CPUDriver) (calls : List KubeletCall) : CPUDriver := calls.foldl (serve env) cp

/-! ## One preparation -/

variable {env} {cp : CPUDriver}

theorem prepareResourceClaim_of_error {claim : ResourceClaim} {err : String}
    (h : cp.claimCPUSet env claim = .error err) (cdiErr : Option String) :
    cp.prepareResourceClaim env claim cdiErr = (.error err, cp) := by
  simp only [prepareResourceClaim, h]

/-- After a resolution to `S`, the store maps the claim's UID to `S` whatever the CDI write
    does; the CDI spec gains the claim's device when the write succeeds. -/
theorem prepareResourceClaim_of_ok {claim : ResourceClaim} {S : CPUSet}
    (h : cp.claimCPUSet env claim = .ok S) (cdiErr : Option String) :
    (cp.prepareResourceClaim env claim cdiErr).2 =
      { cp with
        cpuAllocationStore := cp.cpuAllocationStore.addResourceClaimAllocation claim.uid S
        cdiDevices := match cdiErr with
          | some _ => cp.cdiDevices
          | none => cp.cdiDevices.insert (getCDIDeviceName claim.uid) (cdiEnvVar env claim.uid S) } ∧
    (cp.prepareResourceClaim env claim cdiErr).1 =
      match cdiErr with
      | some err => .error err
      | none => .ok (preparedDevices (qualifiedName env.cdiVendor env.cdiClass
          (getCDIDeviceName claim.uid)) claim) := by
  cases cdiErr <;> simp [prepareResourceClaim, h]

@[simp] theorem prepareResourceClaim_devMgr (claim : ResourceClaim) (cdiErr : Option String) :
    (cp.prepareResourceClaim env claim cdiErr).2.devMgr = cp.devMgr := by
  unfold prepareResourceClaim
  split
  · rfl
  · split <;> rfl

@[simp] theorem prepareResourceClaim_allCPUs (claim : ResourceClaim) (cdiErr : Option String) :
    (cp.prepareResourceClaim env claim cdiErr).2.cpuAllocationStore.allCPUs =
      cp.cpuAllocationStore.allCPUs := by
  unfold prepareResourceClaim
  split
  · rfl
  · split <;> rfl

@[simp] theorem prepareResourceClaim_reservedCPUs (claim : ResourceClaim) (cdiErr : Option String) :
    (cp.prepareResourceClaim env claim cdiErr).2.cpuAllocationStore.reservedCPUs =
      cp.cpuAllocationStore.reservedCPUs := by
  unfold prepareResourceClaim
  split
  · rfl
  · split <;> rfl

@[simp] theorem unprepareResourceClaim_devMgr (claim : NamespacedObject) (cdiErr : Option String) :
    (cp.unprepareResourceClaim claim cdiErr).2.devMgr = cp.devMgr := by
  cases cdiErr <;> rfl

@[simp] theorem unprepareResourceClaim_store (claim : NamespacedObject) (cdiErr : Option String) :
    (cp.unprepareResourceClaim claim cdiErr).2.cpuAllocationStore =
      cp.cpuAllocationStore.removeResourceClaimAllocation claim.uid := by
  cases cdiErr <;> rfl

/-- A property of the driver that every preparation and every unpreparation keeps, whatever
    their CDI calls return, holds after every kubelet call. -/
theorem serve_induction (P : CPUDriver → Prop)
    (hprepare : ∀ cp claim cdiErr, P cp → P (cp.prepareResourceClaim env claim cdiErr).2)
    (hunprepare : ∀ cp claim cdiErr, P cp → P (cp.unprepareResourceClaim claim cdiErr).2)
    (call : KubeletCall) (h : P cp) : P (cp.serve env call) := by
  cases call with
  | prepare claims =>
    rw [serve, prepareResourceClaims,
      foldl_pair_snd _ (fun cp c => (cp.prepareResourceClaim env c.1 c.2).2) claims (∅, cp)]
    exact List.foldlRecOn (motive := P) claims _ cp h fun d hd c _ => hprepare d c.1 c.2 hd
  | unprepare claims =>
    rw [serve, unprepareResourceClaims,
      foldl_pair_snd _ (fun cp c => (cp.unprepareResourceClaim c.1 c.2).2) claims (∅, cp)]
    exact List.foldlRecOn (motive := P) claims _ cp h fun d hd c _ => hunprepare d c.1 c.2 hd

theorem run_induction (P : CPUDriver → Prop)
    (hprepare : ∀ cp claim cdiErr, P cp → P (cp.prepareResourceClaim env claim cdiErr).2)
    (hunprepare : ∀ cp claim cdiErr, P cp → P (cp.unprepareResourceClaim claim cdiErr).2)
    (calls : List KubeletCall) (h : P cp) : P (cp.run env calls) :=
  List.foldlRecOn (motive := P) calls _ cp h fun _ hd call _ =>
    serve_induction P hprepare hunprepare call hd

@[simp] theorem serve_devMgr (call : KubeletCall) : (cp.serve env call).devMgr = cp.devMgr :=
  serve_induction (fun d => d.devMgr = cp.devMgr) (fun _ _ _ h => (prepareResourceClaim_devMgr _ _).trans h)
    (fun _ _ _ h => (unprepareResourceClaim_devMgr _ _).trans h) call rfl

theorem run_allCPUs (calls : List KubeletCall) :
    (cp.run env calls).cpuAllocationStore.allCPUs = cp.cpuAllocationStore.allCPUs :=
  run_induction (fun d => d.cpuAllocationStore.allCPUs = cp.cpuAllocationStore.allCPUs)
    (fun _ _ _ h => (prepareResourceClaim_allCPUs _ _).trans h)
    (fun _ _ _ h => by dsimp only; rw [unprepareResourceClaim_store]; exact h) calls rfl

theorem run_reservedCPUs (calls : List KubeletCall) :
    (cp.run env calls).cpuAllocationStore.reservedCPUs = cp.cpuAllocationStore.reservedCPUs :=
  run_induction (fun d => d.cpuAllocationStore.reservedCPUs = cp.cpuAllocationStore.reservedCPUs)
    (fun _ _ _ h => (prepareResourceClaim_reservedCPUs _ _).trans h)
    (fun _ _ _ h => by dsimp only; rw [unprepareResourceClaim_store]; exact h) calls rfl

theorem prepareResourceClaim_store {claim : ResourceClaim} {S : CPUSet}
    (h : cp.claimCPUSet env claim = .ok S) (cdiErr : Option String) :
    (cp.prepareResourceClaim env claim cdiErr).2.cpuAllocationStore =
      cp.cpuAllocationStore.addResourceClaimAllocation claim.uid S := by
  rw [(prepareResourceClaim_of_ok h cdiErr).1]

/-- The individual-core manager resolves a claim without reading the store. -/
theorem claimCPUSet_individual {cp' : CPUDriver} {mgr : IndividualCoreManager}
    (hmgr : cp.devMgr = .individual mgr) (hmgr' : cp'.devMgr = cp.devMgr) (claim : ResourceClaim) :
    cp'.claimCPUSet env claim = cp.claimCPUSet env claim := by
  simp only [claimCPUSet, hmgr', hmgr, DeviceManager.allocateCPUs]

/-! ## Batches -/

@[simp] theorem unprepareResourceClaim_fst (claim : NamespacedObject) (cdiErr : Option String) :
    (cp.unprepareResourceClaim claim cdiErr).1 = cdiErr := by
  cases cdiErr <;> rfl

theorem unprepareResourceClaim_cdiDevices (claim : NamespacedObject) (cdiErr : Option String) :
    (cp.unprepareResourceClaim claim cdiErr).2.cdiDevices =
      match cdiErr with
      | some _ => cp.cdiDevices
      | none => cp.cdiDevices.erase (getCDIDeviceName claim.uid) := by
  cases cdiErr <;> rfl

/-- An unprepare batch forgets the stored CPUs of every claim it names, whatever `RemoveDevice`
    returns, and of no other claim, while the CDI spec loses only the devices whose removal
    succeeded: a failed removal leaves a device whose CPUs are back in the shared pool. -/
theorem unprepareResourceClaims_release (cp : CPUDriver)
    (claims : List (NamespacedObject × Option String)) :
    (∀ u, (cp.unprepareResourceClaims claims).2.cpuAllocationStore.allocations.lookup u =
      if u ∈ claims.map (·.1.uid) then none else cp.cpuAllocationStore.allocations.lookup u) ∧
    ∀ n, (cp.unprepareResourceClaims claims).2.cdiDevices.lookup n =
      if n ∈ (claims.filter (·.2 = none)).map (getCDIDeviceName ·.1.uid) then none
      else cp.cdiDevices.lookup n := by
  rw [unprepareResourceClaims,
    foldl_pair_snd _ (fun cp c => (cp.unprepareResourceClaim c.1 c.2).2) claims (∅, cp)]
  induction claims generalizing cp with
  | nil => simp
  | cons c cs ih =>
    obtain ⟨h₁, h₂⟩ := ih (cp.unprepareResourceClaim c.1 c.2).2
    refine ⟨fun u => ?_, fun n => ?_⟩
    · rw [List.foldl_cons, h₁, unprepareResourceClaim_store,
        CPUAllocationStore.lookup_removeResourceClaimAllocation]
      by_cases h₁ : u ∈ cs.map (·.1.uid) <;> by_cases h₂ : u = c.1.uid <;> simp [h₁, h₂]
    · rw [List.foldl_cons, h₂, unprepareResourceClaim_cdiDevices]
      cases hc : c.2 with
      | some e => rw [List.filter_cons_of_neg (by simp [hc])]
      | none =>
        rw [List.filter_cons_of_pos (by simp [hc]), List.map_cons]
        dsimp only
        by_cases hn : n = getCDIDeviceName c.1.uid
        · subst hn
          rw [if_pos (List.mem_cons_self _ _), AList.lookup_erase, ite_self]
        · simp only [AList.lookup_erase_ne hn, List.mem_cons, hn, false_or]

/-- A later claim of a prepare batch with another UID leaves the reported result of a UID. -/
theorem prepareResourceClaims_lookup_of_not_mem (post : List (ResourceClaim × Option String))
    (acc : AList (fun _ : String => PrepareResult) × CPUDriver) {u : String}
    (hu : u ∉ post.map (·.1.uid)) :
    (post.foldl (fun acc c =>
      ((acc.2.prepareResourceClaim env c.1 c.2).1 |> acc.1.insert c.1.uid,
        (acc.2.prepareResourceClaim env c.1 c.2).2)) acc).1.lookup u = acc.1.lookup u := by
  induction post generalizing acc with
  | nil => rfl
  | cons c cs ih =>
    rw [List.map_cons, List.mem_cons, not_or] at hu
    rw [List.foldl_cons, ih _ hu.2]
    exact AList.lookup_insert_ne hu.1

/-- A prepare batch reports under a claim's UID the result of that claim's own preparation,
    made after the claims before it in the batch, when no later claim of the batch has the
    same UID. -/
theorem prepareResourceClaims_result (cp : CPUDriver) (pre post : List (ResourceClaim × Option String))
    (c : ResourceClaim × Option String) (hlast : c.1.uid ∉ post.map (·.1.uid)) :
    (cp.prepareResourceClaims env (pre ++ c :: post)).1.lookup c.1.uid =
      some ((cp.prepareResourceClaims env pre).2.prepareResourceClaim env c.1 c.2).1 := by
  rw [prepareResourceClaims, List.foldl_append, List.foldl_cons,
    prepareResourceClaims_lookup_of_not_mem post _ hlast]
  exact AList.lookup_insert _

/-! ## Reported devices -/

/-- A successful preparation reports one device per allocation result of the claim, of every
    driver, in result order, each with the result's pool, device and request and the claim's
    CDI device: the loop of lines 278–287 reads every result, whatever its driver. -/
theorem prepareResourceClaim_devices {claim : ResourceClaim} {cdiErr : Option String}
    {devices : List PreparedDevice} (h : (cp.prepareResourceClaim env claim cdiErr).1 = .ok devices) :
    ∃ results, claim.allocation = some results ∧
      devices = results.map fun r =>
        ⟨r.pool, r.device, [qualifiedName env.cdiVendor env.cdiClass (getCDIDeviceName claim.uid)],
          [r.request]⟩ := by
  cases hc : cp.claimCPUSet env claim with
  | error err => rw [prepareResourceClaim_of_error hc] at h; cases h
  | ok S =>
    rw [(prepareResourceClaim_of_ok hc cdiErr).2] at h
    cases cdiErr with
    | some err => cases h
    | none =>
      cases halloc : claim.allocation with
      | none => simp [claimCPUSet, halloc] at hc
      | some results =>
        cases h
        exact ⟨results, rfl, by simp [preparedDevices, halloc]⟩

/-! ## Failed preparations -/

/-- A failed preparation leaves the driver as it was when the claim did not resolve; when
    the CDI write failed, the store is the one a successful preparation leaves. -/
theorem prepareResourceClaim_error_store {claim : ResourceClaim} {cdiErr : Option String}
    {err : String} (h : (cp.prepareResourceClaim env claim cdiErr).1 = .error err) :
    (cp.claimCPUSet env claim = .error err ∧ (cp.prepareResourceClaim env claim cdiErr).2 = cp) ∨
      (cdiErr = some err ∧ (∃ S, cp.claimCPUSet env claim = .ok S) ∧
        (cp.prepareResourceClaim env claim cdiErr).2.cpuAllocationStore =
          (cp.prepareResourceClaim env claim none).2.cpuAllocationStore) := by
  cases hc : cp.claimCPUSet env claim with
  | error e =>
    rw [prepareResourceClaim_of_error hc] at h ⊢
    cases h
    exact .inl ⟨rfl, rfl⟩
  | ok S =>
    rw [(prepareResourceClaim_of_ok hc cdiErr).2] at h
    cases cdiErr with
    | none => cases h
    | some e =>
      cases h
      exact .inr ⟨rfl, ⟨S, rfl⟩, by rw [prepareResourceClaim_store hc, prepareResourceClaim_store hc]⟩

/-! ## Repeated preparations -/

/-- What preparing a claim a second time does: with the individual-core manager, when the
    CDI writes succeed, nothing changes (the same result and the same driver); with a grouped
    manager, a second resolution of a resolved claim yields CPUs disjoint from the first. -/
def RepeatLaw (env : Env) (cp : CPUDriver) (claim : ResourceClaim) : Prop :=
  ((∃ mgr, cp.devMgr = .individual mgr) →
      (cp.prepareResourceClaim env claim none).2.prepareResourceClaim env claim none =
        cp.prepareResourceClaim env claim none) ∧
    (cp.devMgr.IsGrouped → ∀ cdiErr S S', cp.claimCPUSet env claim = .ok S →
      (cp.prepareResourceClaim env claim cdiErr).2.claimCPUSet env claim = .ok S' → Disjoint S S')

theorem prepareResourceClaim_repeat (env : Env)
    (hsub : ∀ pool n S, env.take pool n = .ok S → S ⊆ pool) (cp : CPUDriver) (claim : ResourceClaim) :
    RepeatLaw env cp claim := by
  refine ⟨fun ⟨mgr, hmgr⟩ => ?individual, fun hg cdiErr S S' hS hS' => ?grouped⟩
  case individual =>
    cases hc : cp.claimCPUSet env claim with
    | error e => rw [prepareResourceClaim_of_error hc, prepareResourceClaim_of_error hc]
    | ok S =>
      have hc' := (claimCPUSet_individual hmgr (@prepareResourceClaim_devMgr env cp claim none) claim).trans hc
      obtain ⟨h₂, h₁⟩ := prepareResourceClaim_of_ok hc none
      obtain ⟨h₂', h₁'⟩ := prepareResourceClaim_of_ok hc' none
      refine Prod.ext (h₁'.trans h₁.symm) (h₂'.trans ?_)
      rw [h₂]
      simp only [CPUAllocationStore.addResourceClaimAllocation, AList.insert_insert]
  case grouped =>
    have hstore := prepareResourceClaim_store hS cdiErr
    simp only [claimCPUSet, prepareResourceClaim_devMgr] at hS'
    split at hS'
    · cases hS'
    · refine Finset.disjoint_left.mpr fun c hc hc' => ?_
      have hshared := (DeviceManager.allocateCPUs_subset env hg hsub hS' hc').1
      rw [hstore, CPUAllocationStore.mem_getSharedCPUs] at hshared
      exact hshared.2.2 claim.uid S (AList.lookup_insert _) hc

end CPUDriver

/-! ## Two drivers of `twoCPUSocket` -/

def takeFirstEnv : Env := ⟨takeFirst, CPUSet.list, "CPUSET", "dra.cpu", "cpu"⟩

/-- The driver after `CreateSlices` of the socket manager of `twoCPUSocket`, with an empty
    store. -/
def socketDriver : CPUDriver :=
  ⟨"dra.cpu", .socket (newSocketGroupedManager "dra.cpu" twoCPUSocket ∅).createSlices.2,
    newCPUAllocationStore twoCPUSocket ∅, ∅⟩

/-- A claim of UID `c` with one result consuming one CPU of `cpudevsocket000`. -/
def socketClaim : ResourceClaim := ⟨"c", "default", "claim", some [oneCPUOnSocket0 "a"]⟩

theorem prepareResourceClaim_error_store_noAllocation :
    (socketDriver.prepareResourceClaim takeFirstEnv { socketClaim with allocation := none } none).1 =
        .error "claim default/claim has no allocation" ∧
      ((socketDriver.claimCPUSet takeFirstEnv { socketClaim with allocation := none } =
          .error "claim default/claim has no allocation" ∧
        (socketDriver.prepareResourceClaim takeFirstEnv { socketClaim with allocation := none } none).2 =
          socketDriver) ∨
      (none = some "claim default/claim has no allocation" ∧
        (∃ S, socketDriver.claimCPUSet takeFirstEnv { socketClaim with allocation := none } = .ok S) ∧
        (socketDriver.prepareResourceClaim takeFirstEnv { socketClaim with allocation := none } none).2.cpuAllocationStore =
          (socketDriver.prepareResourceClaim takeFirstEnv { socketClaim with allocation := none } none).2.cpuAllocationStore)) :=
  ⟨rfl, CPUDriver.prepareResourceClaim_error_store rfl⟩

/-- A failed CDI write leaves the claim's CPUs in the store. -/
theorem prepareResourceClaim_cdi_failure :
    (socketDriver.prepareResourceClaim takeFirstEnv socketClaim (some "cdi write failed")).1 =
        .error "cdi write failed" ∧
      socketDriver.cpuAllocationStore.allocations.lookup "c" = none ∧
      (socketDriver.prepareResourceClaim takeFirstEnv socketClaim
        (some "cdi write failed")).2.cpuAllocationStore.allocations.lookup "c" = some {0} :=
  ⟨rfl, by decide, by decide⟩

/-- The driver after `CreateSlices` of the individual-core manager of `twoCPUSocket`, with an
    empty store. -/
def coreDriver : CPUDriver :=
  ⟨"dra.cpu", .individual (newIndividualCoreManager "dra.cpu" twoCPUSocket ∅).createSlices.2,
    newCPUAllocationStore twoCPUSocket ∅, ∅⟩

/-- A claim of UID `c` with one result naming `cpudev000`. -/
def coreClaim : ResourceClaim := ⟨"c", "default", "claim", some [⟨"dra.cpu", "node", "cpudev000", "a", ∅⟩]⟩

/-- The law at the socket driver, and at the individual-core driver, where the claim resolves
    and preparing it again changes nothing. -/
theorem prepareResourceClaim_repeat_takeFirst :
    (∀ pool n S, takeFirstEnv.take pool n = .ok S → S ⊆ pool) ∧
      CPUDriver.RepeatLaw takeFirstEnv socketDriver socketClaim ∧
      CPUDriver.RepeatLaw takeFirstEnv coreDriver coreClaim ∧
      (coreDriver.prepareResourceClaim takeFirstEnv coreClaim none).1.toBool = true ∧
      (coreDriver.prepareResourceClaim takeFirstEnv coreClaim none).2.prepareResourceClaim takeFirstEnv
        coreClaim none = coreDriver.prepareResourceClaim takeFirstEnv coreClaim none :=
  have h := CPUDriver.prepareResourceClaim_repeat takeFirstEnv takeFirst_contract.subset coreDriver coreClaim
  ⟨takeFirst_contract.subset, CPUDriver.prepareResourceClaim_repeat takeFirstEnv
    takeFirst_contract.subset socketDriver socketClaim, h, by decide, h.1 ⟨_, rfl⟩⟩

/-- Preparing the same claim twice with the socket manager succeeds twice, with `{0}` and
    then `{1}`: the second resolution packs from a pool the first one emptied of CPU `0`. -/
theorem prepareResourceClaim_repeat_socket :
    (socketDriver.prepareResourceClaim takeFirstEnv socketClaim none).1.toBool = true ∧
      (socketDriver.claimCPUSet takeFirstEnv socketClaim).toOption = some {0} ∧
      ((socketDriver.prepareResourceClaim takeFirstEnv socketClaim none).2.prepareResourceClaim
        takeFirstEnv socketClaim none).1.toBool = true ∧
      ((socketDriver.prepareResourceClaim takeFirstEnv socketClaim none).2.claimCPUSet takeFirstEnv
        socketClaim).toOption = some {1} ∧
      ((socketDriver.prepareResourceClaim takeFirstEnv socketClaim none).2.prepareResourceClaim
        takeFirstEnv socketClaim none).2.cpuAllocationStore.allocations.lookup "c" = some {1} := by
  decide

theorem allocateCPUs_perm_socketDriver :
    [oneCPUOnSocket0 "a", oneCPUOnSocket0 "b"].Perm [oneCPUOnSocket0 "b", oneCPUOnSocket0 "a"] ∧
      (socketDriver.devMgr.allocateCPUs takeFirstEnv {0, 1}
          [oneCPUOnSocket0 "a", oneCPUOnSocket0 "b"]).toOption =
        (socketDriver.devMgr.allocateCPUs takeFirstEnv {0, 1}
          [oneCPUOnSocket0 "b", oneCPUOnSocket0 "a"]).toOption :=
  have hp := List.Perm.swap (oneCPUOnSocket0 "b") (oneCPUOnSocket0 "a") []
  ⟨hp, DeviceManager.allocateCPUs_perm takeFirstEnv socketDriver.devMgr {0, 1} hp⟩

theorem prepareResourceClaims_result_socketDriver :
    socketClaim.uid ∉ ([] : List (ResourceClaim × Option String)).map (·.1.uid) ∧
      (socketDriver.prepareResourceClaims takeFirstEnv
          ([(socketClaim, none)] ++ [(socketClaim, none)])).1.lookup socketClaim.uid =
        some ((socketDriver.prepareResourceClaims takeFirstEnv [(socketClaim, none)]).2.prepareResourceClaim
          takeFirstEnv socketClaim none).1 :=
  ⟨List.not_mem_nil _, CPUDriver.prepareResourceClaims_result socketDriver [(socketClaim, none)] []
    (socketClaim, none) (List.not_mem_nil _)⟩

/-- A claim of UID `m` with a result of this driver on `cpudevsocket000` and one of the network
    driver `dra.net` on its device `nic0`. -/
def mixedClaim : ResourceClaim :=
  ⟨"m", "default", "mixed", some [oneCPUOnSocket0 "a", ⟨"dra.net", "node", "nic0", "b", ∅⟩]⟩

/-- Preparing it succeeds and reports `nic0`, the network driver's device, among this driver's
    prepared devices, with this driver's CDI device. -/
theorem prepareResourceClaim_devices_mixedClaim :
    ∃ devices, (socketDriver.prepareResourceClaim takeFirstEnv mixedClaim none).1 = .ok devices ∧
      (⟨"node", "nic0", ["dra.cpu/cpu=claim-m"], ["b"]⟩ : PreparedDevice) ∈ devices ∧
      ∃ results, mixedClaim.allocation = some results ∧
        devices = results.map fun r =>
          ⟨r.pool, r.device, [qualifiedName takeFirstEnv.cdiVendor takeFirstEnv.cdiClass
            (getCDIDeviceName mixedClaim.uid)], [r.request]⟩ :=
  have h : (socketDriver.prepareResourceClaim takeFirstEnv mixedClaim none).1 =
      .ok [⟨"node", "cpudevsocket000", ["dra.cpu/cpu=claim-m"], ["a"]⟩,
        ⟨"node", "nic0", ["dra.cpu/cpu=claim-m"], ["b"]⟩] := rfl
  ⟨_, h, List.mem_cons_of_mem _ (List.mem_singleton_self _),
    CPUDriver.prepareResourceClaim_devices h⟩

end DraDriverCpu
