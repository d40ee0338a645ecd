import DraDriverCpu.Driver.CdiSpec
import DraDriverCpu.Driver.Scheduled

/-!
# The order of the claims of a batch

`PrepareResourceClaims` (`pkg/driver/driver.go` lines 234–248) prepares the claims of a batch
one after the other, in the order the kubelet lists them. Whether that order matters depends
on the manager:

* the individual-core manager resolves a claim through its device index alone, so claims with
  distinct UIDs prepare to the same results, the same stored sets and the same CDI devices in
  every order;
* a grouped manager packs each claim from the shared pool that the claims before it left, so
  the order decides which claim gets which CPUs (the example after
  `prepareResourceClaims_perm_individual`).

Two drivers are compared through what a caller observes and a preparation reads
(`CPUDriver.SameView`): the manager, the store's CPUs, and the stored set and CDI device under
every key. Go maps have no order, and `SameView` ignores the order of the `AList` entries.

Results:
* `SameView.prepareResourceClaim`: a preparation on two drivers with the same view reports
  the same result and leaves the same view.
* `prepareStep_swap_individual`: with the individual-core manager, two claims with distinct
  UIDs commute.
* `prepareResourceClaims_perm_individual`: with the individual-core manager, a batch of
  claims with distinct UIDs reports the same results and leaves the same view in every
  order.
-/

namespace DraDriverCpu

namespace CPUDriver

variable {env : Env} {cp cp' : CPUDriver}

/-- Two drivers with the same manager and CPUs and the same stored set and CDI device under
    every key: they differ at most in the order of their maps' entries. -/
structure SameView (cp cp' : CPUDriver) : Prop where
  driverName : cp'.driverName = cp.driverName
  devMgr : cp'.devMgr = cp.devMgr
  allCPUs : cp'.cpuAllocationStore.allCPUs = cp.cpuAllocationStore.allCPUs
  reservedCPUs : cp'.cpuAllocationStore.reservedCPUs = cp.cpuAllocationStore.reservedCPUs
  allocations : ∀ u, cp'.cpuAllocationStore.allocations.lookup u = cp.cpuAllocationStore.allocations.lookup u
  cdiDevices : ∀ n, cp'.cdiDevices.lookup n = cp.cdiDevices.lookup n

theorem SameView.refl (cp : CPUDriver) : SameView cp cp :=
  ⟨rfl, rfl, rfl, rfl, fun _ => rfl, fun _ => rfl⟩

theorem SameView.trans {cp'' : CPUDriver} (h₁ : SameView cp cp') (h₂ : SameView cp' cp'') :
    SameView cp cp'' :=
  ⟨h₂.driverName.trans h₁.driverName, h₂.devMgr.trans h₁.devMgr, h₂.allCPUs.trans h₁.allCPUs,
    h₂.reservedCPUs.trans h₁.reservedCPUs, fun u => (h₂.allocations u).trans (h₁.allocations u),
    fun n => (h₂.cdiDevices n).trans (h₁.cdiDevices n)⟩

/-- The shared pool reads the store only by key. -/
theorem SameView.getSharedCPUs (h : SameView cp cp') :
    cp'.cpuAllocationStore.getSharedCPUs = cp.cpuAllocationStore.getSharedCPUs := by
  ext c
  simp only [CPUAllocationStore.mem_getSharedCPUs, h.allCPUs, h.reservedCPUs, h.allocations]

theorem SameView.claimCPUSet (h : SameView cp cp') (env : Env) (claim : ResourceClaim) :
    cp'.claimCPUSet env claim = cp.claimCPUSet env claim := by
  simp only [CPUDriver.claimCPUSet, h.devMgr, h.getSharedCPUs]

/-! ## One preparation, seen by key -/

@[simp] theorem prepareResourceClaim_driverName (claim : ResourceClaim) (cdiErr : Option String) :
    (cp.prepareResourceClaim env claim cdiErr).2.driverName = cp.driverName := by
  unfold prepareResourceClaim
  split
  · rfl
  · split <;> rfl

/-- The result of a preparation depends on the driver only through the claim's resolution. -/
theorem prepareResourceClaim_fst_congr {claim : ResourceClaim}
    (h : cp'.claimCPUSet env claim = cp.claimCPUSet env claim) (cdiErr : Option String) :
    (cp'.prepareResourceClaim env claim cdiErr).1 = (cp.prepareResourceClaim env claim cdiErr).1 := by
  simp only [prepareResourceClaim, h]
  split
  · rfl
  · split <;> rfl

theorem prepareResourceClaim_allocations (claim : ResourceClaim) (cdiErr : Option String) (u : String) :
    (cp.prepareResourceClaim env claim cdiErr).2.cpuAllocationStore.allocations.lookup u =
      match cp.claimCPUSet env claim with
      | .ok S => if u = claim.uid then some S else cp.cpuAllocationStore.allocations.lookup u
      | .error _ => cp.cpuAllocationStore.allocations.lookup u := by
  cases h : cp.claimCPUSet env claim with
  | error err => rw [prepareResourceClaim_of_error h]
  | ok S => rw [prepareResourceClaim_store h, CPUAllocationStore.lookup_addResourceClaimAllocation]

theorem prepareResourceClaim_cdiDevices (claim : ResourceClaim) (cdiErr : Option String) (n : String) :
    (cp.prepareResourceClaim env claim cdiErr).2.cdiDevices.lookup n =
      match cp.claimCPUSet env claim, cdiErr with
      | .ok S, none =>
        if n = getCDIDeviceName claim.uid then some (cdiEnvVar env claim.uid S) else cp.cdiDevices.lookup n
      | _, _ => cp.cdiDevices.lookup n := by
  cases h : cp.claimCPUSet env claim with
  | error err => rw [prepareResourceClaim_of_error h]
  | ok S =>
    rw [(prepareResourceClaim_of_ok h cdiErr).1]
    cases cdiErr with
    | some err => rfl
    | none =>
      by_cases hn : n = getCDIDeviceName claim.uid
      · subst hn
        simp only [AList.lookup_insert, if_true]
      · simp only [hn, AList.lookup_insert_ne hn, if_false]

theorem SameView.prepareResourceClaim (h : SameView cp cp') (env : Env) (claim : ResourceClaim)
    (cdiErr : Option String) :
    (cp'.prepareResourceClaim env claim cdiErr).1 = (cp.prepareResourceClaim env claim cdiErr).1 ∧
      SameView (cp.prepareResourceClaim env claim cdiErr).2 (cp'.prepareResourceClaim env claim cdiErr).2 := by
  have hc := h.claimCPUSet env claim
  refine ⟨prepareResourceClaim_fst_congr hc cdiErr, ?_, ?_, ?_, ?_, fun u => ?_, fun n => ?_⟩
  · simp only [prepareResourceClaim_driverName, h.driverName]
  · simp only [prepareResourceClaim_devMgr, h.devMgr]
  · simp only [prepareResourceClaim_allCPUs, h.allCPUs]
  · simp only [prepareResourceClaim_reservedCPUs, h.reservedCPUs]
  · rw [prepareResourceClaim_allocations, prepareResourceClaim_allocations, hc, h.allocations]
  · rw [prepareResourceClaim_cdiDevices, prepareResourceClaim_cdiDevices, hc, h.cdiDevices]

/-! ## The loop of `PrepareResourceClaims` -/

/-- A state of the loop of `PrepareResourceClaims`: the results so far and the driver. -/
abbrev BatchState := AList (fun _ : String => PrepareResult) × CPUDriver

variable (env) in
/-- One iteration of the loop of `PrepareResourceClaims` (line 244). -/
def prepareStep (acc : BatchState) (c : ResourceClaim × Option String) : BatchState :=
  ((acc.2.prepareResourceClaim env c.1 c.2).1 |> acc.1.insert c.1.uid,
    (acc.2.prepareResourceClaim env c.1 c.2).2)

/-- Two loop states with the same result under every UID and drivers with the same view. -/
def SameBatch (acc acc' : BatchState) : Prop :=
  (∀ u, acc'.1.lookup u = acc.1.lookup u) ∧ SameView acc.2 acc'.2

theorem SameBatch.refl (acc : BatchState) : SameBatch acc acc :=
  ⟨fun _ => rfl, SameView.refl _⟩

theorem SameBatch.trans {acc acc' acc'' : BatchState} (h₁ : SameBatch acc acc')
    (h₂ : SameBatch acc' acc'') : SameBatch acc acc'' :=
  ⟨fun u => (h₂.1 u).trans (h₁.1 u), h₁.2.trans h₂.2⟩

theorem SameBatch.step {acc acc' : BatchState} (h : SameBatch acc acc')
    (c : ResourceClaim × Option String) :
    SameBatch (prepareStep env acc c) (prepareStep env acc' c) := by
  obtain ⟨hres, hview⟩ := h.2.prepareResourceClaim env c.1 c.2
  refine ⟨fun u => ?_, hview⟩
  by_cases hu : u = c.1.uid
  · subst hu
    simp only [CPUDriver.prepareStep, AList.lookup_insert, hres]
  · simp only [CPUDriver.prepareStep, AList.lookup_insert_ne hu, h.1 u]

theorem SameBatch.foldl {acc acc' : BatchState} (h : SameBatch acc acc')
    (l : List (ResourceClaim × Option String)) :
    SameBatch (l.foldl (CPUDriver.prepareStep env) acc) (l.foldl (CPUDriver.prepareStep env) acc') := by
  induction l generalizing acc acc' with
  | nil => exact h
  | cons c l ih => exact ih (h.step c)

@[simp] theorem prepareStep_devMgr (acc : BatchState) (c : ResourceClaim × Option String) :
    (prepareStep env acc c).2.devMgr = acc.2.devMgr :=
  prepareResourceClaim_devMgr c.1 c.2

/-! ## Swapping two claims under the individual-core manager -/

section Individual

variable {mgr : IndividualCoreManager}

/-- With the individual-core manager, two claims with distinct UIDs prepared in either order
    report the same results and leave the same view: each resolves through the index alone,
    and their writes fall under distinct keys. -/
theorem prepareStep_swap_individual (acc : BatchState) (hmgr : acc.2.devMgr = .individual mgr)
    (c d : ResourceClaim × Option String) (hne : c.1.uid ≠ d.1.uid) :
    SameBatch (prepareStep env (prepareStep env acc c) d) (prepareStep env (prepareStep env acc d) c) := by
  obtain ⟨results, cp⟩ := acc
  have hd : (cp.prepareResourceClaim env c.1 c.2).2.claimCPUSet env d.1 = cp.claimCPUSet env d.1 :=
    claimCPUSet_individual hmgr (prepareResourceClaim_devMgr c.1 c.2) d.1
  have hc : (cp.prepareResourceClaim env d.1 d.2).2.claimCPUSet env c.1 = cp.claimCPUSet env c.1 :=
    claimCPUSet_individual hmgr (prepareResourceClaim_devMgr d.1 d.2) c.1
  have hname : getCDIDeviceName c.1.uid ≠ getCDIDeviceName d.1.uid :=
    getCDIDeviceName_injective.ne hne
  refine ⟨fun u => ?_, ?_, ?_, ?_, ?_, fun u => ?_, fun n => ?_⟩
  · simp only [CPUDriver.prepareStep, prepareResourceClaim_fst_congr hc, prepareResourceClaim_fst_congr hd]
    exact AList.perm_lookup (AList.insert_insert_of_ne _ hne.symm)
  · simp only [CPUDriver.prepareStep, prepareResourceClaim_driverName]
  · simp only [CPUDriver.prepareStep, prepareResourceClaim_devMgr]
  · simp only [CPUDriver.prepareStep, prepareResourceClaim_allCPUs]
  · simp only [CPUDriver.prepareStep, prepareResourceClaim_reservedCPUs]
  · simp only [CPUDriver.prepareStep, prepareResourceClaim_allocations, hc, hd]
    cases cp.claimCPUSet env c.1 <;> cases cp.claimCPUSet env d.1 <;> simp only []
    by_cases hu : u = c.1.uid
    · simp only [hu, hne, if_true, if_false]
    · simp only [hu, if_false]
  · simp only [CPUDriver.prepareStep, prepareResourceClaim_cdiDevices, hc, hd]
    cases cp.claimCPUSet env c.1 <;> cases cp.claimCPUSet env d.1 <;> cases c.2 <;> cases d.2 <;>
      simp only []
    by_cases hn : n = getCDIDeviceName c.1.uid
    · simp only [hn, hname, if_true, if_false]
    · simp only [hn, if_false]

/-- With the individual-core manager, permuting claims with distinct UIDs does not change what
    the loop reports or leaves. -/
theorem SameBatch.foldl_perm {l l' : List (ResourceClaim × Option String)} (hp : l.Perm l')
    (hu : (l.map (·.1.uid)).Nodup) (acc : BatchState) (hmgr : acc.2.devMgr = .individual mgr) :
    SameBatch (l.foldl (prepareStep env) acc) (l'.foldl (prepareStep env) acc) := by
  induction hp generalizing acc with
  | nil => exact SameBatch.refl acc
  | cons c _ ih =>
    exact ih (List.nodup_cons.mp hu).2 _ ((prepareStep_devMgr acc c).trans hmgr)
  | swap c d l =>
    have hne : c.1.uid ≠ d.1.uid := fun h => (List.nodup_cons.mp hu).1 (by simp [h])
    exact (prepareStep_swap_individual acc hmgr d c hne.symm).foldl l
  | trans h₁₂ _ ih₁ ih₂ =>
    exact (ih₁ hu acc hmgr).trans (ih₂ ((h₁₂.map _).nodup_iff.mp hu) acc hmgr)

end Individual

end CPUDriver

/-- With the individual-core manager, a `PrepareResourceClaims` batch of claims with distinct
    UIDs reports the same result under every UID, and leaves the same stored sets and CDI
    devices, in every order of its claims, whatever CDI writes fail. -/
theorem prepareResourceClaims_perm_individual (env : Env) (cp : CPUDriver)
    {mgr : IndividualCoreManager} (hmgr : cp.devMgr = .individual mgr)
    {claims claims' : List (ResourceClaim × Option String)} (hp : claims.Perm claims')
    (hu : (claims.map (·.1.uid)).Nodup) :
    (∀ u, (cp.prepareResourceClaims env claims').1.lookup u = (cp.prepareResourceClaims env claims).1.lookup u) ∧
      CPUDriver.SameView (cp.prepareResourceClaims env claims).2 (cp.prepareResourceClaims env claims').2 :=
  CPUDriver.SameBatch.foldl_perm hp hu (∅, cp) hmgr

theorem prepareResourceClaims_perm_individual_startedFourCPUDriver :
    startedFourCPUDriver.devMgr = .individual (newIndividualCoreManager "dra.cpu" fourCPUs {2}).createSlices.2 ∧
      [(cpuClaim "a" "cpudev000", none), (cpuClaim "b" "cpudev001", some "AddDevice failed")].Perm
        [(cpuClaim "b" "cpudev001", some "AddDevice failed"), (cpuClaim "a" "cpudev000", none)] ∧
      ([(cpuClaim "a" "cpudev000", none), (cpuClaim "b" "cpudev001", some "AddDevice failed")].map
        (·.1.uid)).Nodup ∧
      (∀ u, (startedFourCPUDriver.prepareResourceClaims takeFirstEnv
          [(cpuClaim "b" "cpudev001", some "AddDevice failed"), (cpuClaim "a" "cpudev000", none)]).1.lookup u =
        (startedFourCPUDriver.prepareResourceClaims takeFirstEnv
          [(cpuClaim "a" "cpudev000", none), (cpuClaim "b" "cpudev001", some "AddDevice failed")]).1.lookup u) ∧
      CPUDriver.SameView
        (startedFourCPUDriver.prepareResourceClaims takeFirstEnv
          [(cpuClaim "a" "cpudev000", none), (cpuClaim "b" "cpudev001", some "AddDevice failed")]).2
        (startedFourCPUDriver.prepareResourceClaims takeFirstEnv
          [(cpuClaim "b" "cpudev001", some "AddDevice failed"), (cpuClaim "a" "cpudev000", none)]).2 :=
  have hp := List.Perm.swap (cpuClaim "b" "cpudev001", some "AddDevice failed") (cpuClaim "a" "cpudev000", none) []
  have hu : ([(cpuClaim "a" "cpudev000", none), (cpuClaim "b" "cpudev001", some "AddDevice failed")].map
      (·.1.uid)).Nodup := by decide
  ⟨rfl, hp, hu, prepareResourceClaims_perm_individual takeFirstEnv startedFourCPUDriver rfl hp hu⟩

/-- With the socket manager the order decides: the claim prepared first takes CPU `0` of the
    socket, the other CPU `1`. -/
example :
    (socketDriver.prepareResourceClaims takeFirstEnv
        [({ socketClaim with uid := "a" }, none), ({ socketClaim with uid := "b" }, none)]).2.cpuAllocationStore.allocations.lookup "a" =
      some {0} ∧
    (socketDriver.prepareResourceClaims takeFirstEnv
        [({ socketClaim with uid := "b" }, none), ({ socketClaim with uid := "a" }, none)]).2.cpuAllocationStore.allocations.lookup "a" =
      some {1} := by
  decide

end DraDriverCpu
