import DraDriverCpu.Driver.Prepare

/-!
# Exclusive allocation over every run

With a grouped manager, a claim is resolved from the shared pool: the non-reserved CPUs no
prepared claim holds. Along every run of prepare and unprepare batches, whatever the claims
and whatever CDI calls fail, the stored CPU sets stay pairwise disjoint, hold no reserved
CPU, and hold only CPUs of the devices their claim names.

The last property speaks of the claim a stored set was resolved from, which the driver does
not keep. A ghost run (`CPUDriver.ghostServe`) records it beside the driver, in a `Ledger`
from claim UID to claim; its driver component is the driver's own run (`ghostRun_fst`).

Results:
* `Exclusive.ghostPrepare`, `Exclusive.ghostUnprepare`: one preparation or unpreparation
  keeps the invariant.
* `run_exclusive`: every run from an empty store keeps it.
* `run_conservation`: along every such run, the shared pool and the stored sets count every
  non-reserved CPU exactly once.
-/

namespace DraDriverCpu

/-- The claim each stored UID was last resolved from. -/
abbrev Ledger := AList (fun _ : String => ResourceClaim)

namespace CPUDriver

variable (env : Env)

/-- One preparation, recording the claim when it resolves. -/
def ghostPrepare (s : CPUDriver × Ledger) (c : ResourceClaim × Option String) : CPUDriver × Ledger :=
  ((s.1.prepareResourceClaim env c.1 c.2).2,
    match s.1.claimCPUSet env c.1 with
    | .ok _ => s.2.insert c.1.uid c.1
    | .error _ => s.2)

/-- One unpreparation, forgetting the claim. -/
def ghostUnprepare (s : CPUDriver × Ledger) (c : NamespacedObject × Option String) :
    CPUDriver × Ledger :=
  ((s.1.unprepareResourceClaim c.1 c.2).2, s.2.erase c.1.uid)

/-- One call, with the ledger. -/
def ghostServe (s : CPUDriver × Ledger) : KubeletCall → CPUDriver × Ledger
  | .prepare claims => claims.foldl (ghostPrepare env) s
  | .unprepare claims => claims.foldl ghostUnprepare s

/-- The ledger of a run from `cp`, which has prepared no claim. -/
def ledger (cp : CPUDriver) (calls : List KubeletCall) : Ledger :=
  (calls.foldl (ghostServe env) ((cp, ∅) : CPUDriver × Ledger)).2

theorem ghostServe_fst (s : CPUDriver × Ledger) (call : KubeletCall) :
    (ghostServe env s call).1 = s.1.serve env call := by
  cases call with
  | prepare claims =>
    exact (foldl_pair_fst (fun cp c => (cp.prepareResourceClaim env c.1 c.2).2) _ claims s).trans
      (foldl_pair_snd _ (fun cp c => (cp.prepareResourceClaim env c.1 c.2).2) claims ((∅, s.1) : AList (fun _ : String => PrepareResult) × CPUDriver)).symm
  | unprepare claims =>
    exact (foldl_pair_fst (fun cp c => (cp.unprepareResourceClaim c.1 c.2).2) _ claims s).trans
      (foldl_pair_snd _ (fun cp c => (cp.unprepareResourceClaim c.1 c.2).2) claims ((∅, s.1) : AList (fun _ : String => Option String) × CPUDriver)).symm

/-- The driver component of the ghost run is the driver's run. -/
theorem ghostRun_fst (calls : List KubeletCall) (s : CPUDriver × Ledger) :
    (calls.foldl (ghostServe env) s).1 = s.1.run env calls := by
  induction calls generalizing s with
  | nil => rfl
  | cons call calls ih => rw [List.foldl_cons, ih, ghostServe_fst]; rfl

/-- What one ghost preparation does: a claim that does not resolve changes nothing; one that
    resolves to `S` is stored under its UID and recorded in the ledger, and the manager is
    kept. -/
theorem ghostPrepare_cases (s : CPUDriver × Ledger) (c : ResourceClaim × Option String) :
    ghostPrepare env s c = s ∨ ∃ S, s.1.claimCPUSet env c.1 = .ok S ∧
      (ghostPrepare env s c).1.devMgr = s.1.devMgr ∧
      (ghostPrepare env s c).1.cpuAllocationStore =
        s.1.cpuAllocationStore.addResourceClaimAllocation c.1.uid S ∧
      (ghostPrepare env s c).2 = s.2.insert c.1.uid c.1 := by
  cases hc : s.1.claimCPUSet env c.1 with
  | error err => exact .inl (by simp [ghostPrepare, hc, prepareResourceClaim_of_error hc])
  | ok S => exact .inr ⟨S, rfl, prepareResourceClaim_devMgr _ _, prepareResourceClaim_store hc _,
      by simp [ghostPrepare, hc]⟩

variable {env}

/-- A resolved claim has an allocation, resolved by the manager from the shared pool. -/
theorem claimCPUSet_ok {cp : CPUDriver} {claim : ResourceClaim} {S : CPUSet}
    (h : cp.claimCPUSet env claim = .ok S) :
    ∃ results, claim.allocation = some results ∧
      cp.devMgr.allocateCPUs env cp.cpuAllocationStore.getSharedCPUs results = .ok S := by
  unfold claimCPUSet at h
  split at h
  · cases h
  · exact ⟨_, ‹_›, h⟩

end CPUDriver

/-! ## The invariant -/

/-- The exclusive-allocation invariant of a driver, with the ledger of the claims its stored
    sets were resolved from. -/
structure Exclusive (cp : CPUDriver) (ledger : Ledger) : Prop where
  disjoint : ∀ u v S T, u ≠ v → cp.cpuAllocationStore.allocations.lookup u = some S →
    cp.cpuAllocationStore.allocations.lookup v = some T → Disjoint S T
  not_reserved : ∀ u S, cp.cpuAllocationStore.allocations.lookup u = some S →
    Disjoint S cp.cpuAllocationStore.reservedCPUs
  within_devices : ∀ u S, cp.cpuAllocationStore.allocations.lookup u = some S →
    ∃ claim results, ledger.lookup u = some claim ∧ claim.uid = u ∧ claim.allocation = some results ∧
      ∀ c ∈ S, ∃ r ∈ results, r.driver = cp.devMgr.driverName ∧ c ∈ cp.devMgr.deviceCPUs r.device

/-- The first two fields of `Exclusive`: the stored sets are pairwise disjoint and hold no
    reserved CPU. -/
structure Isolated (cp : CPUDriver) : Prop where
  disjoint : ∀ u v S T, u ≠ v → cp.cpuAllocationStore.allocations.lookup u = some S →
    cp.cpuAllocationStore.allocations.lookup v = some T → Disjoint S T
  not_reserved : ∀ u S, cp.cpuAllocationStore.allocations.lookup u = some S →
    Disjoint S cp.cpuAllocationStore.reservedCPUs

/-- The last field of `Exclusive`, for a driver name and a reading `inDevice` of what a device
    holds: every CPU of a stored set lies in a device of driver `name` that the recorded claim
    names. -/
def WithinDevices (name : String) (inDevice : String → ℤ → Prop) (cp : CPUDriver) (ledger : Ledger) :
    Prop :=
  ∀ u S, cp.cpuAllocationStore.allocations.lookup u = some S →
    ∃ claim results, ledger.lookup u = some claim ∧ claim.uid = u ∧ claim.allocation = some results ∧
      ∀ c ∈ S, ∃ r ∈ results, r.driver = name ∧ inDevice r.device c

theorem Exclusive.isolated {cp : CPUDriver} {l : Ledger} (h : Exclusive cp l) : Isolated cp :=
  ⟨h.disjoint, h.not_reserved⟩

theorem Exclusive.withinDevices {cp : CPUDriver} {l : Ledger} (h : Exclusive cp l) :
    WithinDevices cp.devMgr.driverName (fun device c => c ∈ cp.devMgr.deviceCPUs device) cp l :=
  h.within_devices

theorem exclusive_empty (cp : CPUDriver) (h : cp.cpuAllocationStore.allocations = ∅) :
    Exclusive cp ∅ where
  disjoint u _ _ _ _ hu := by simp [h] at hu
  not_reserved u _ hu := by simp [h] at hu
  within_devices u _ hu := by simp [h] at hu

@[simp] theorem CPUDriver.ghostPrepare_devMgr (env : Env) (s : CPUDriver × Ledger)
    (c : ResourceClaim × Option String) : (CPUDriver.ghostPrepare env s c).1.devMgr = s.1.devMgr :=
  CPUDriver.prepareResourceClaim_devMgr c.1 c.2

section Step

variable {env : Env} (hsub : ∀ pool n S, env.take pool n = .ok S → S ⊆ pool)
  {cp : CPUDriver} {l : Ledger} (hg : cp.devMgr.IsGrouped)

include hsub hg in
/-- A preparation keeps the stored sets isolated: the new set is drawn from the shared pool,
    which excludes the reserved CPUs and every stored set, the claim's earlier one included. -/
theorem Isolated.prepareResourceClaim (hi : Isolated cp) (claim : ResourceClaim) (cdiErr : Option String) :
    Isolated (cp.prepareResourceClaim env claim cdiErr).2 := by
  change Isolated (CPUDriver.ghostPrepare env (cp, (∅ : Ledger)) (claim, cdiErr)).1
  obtain heq | ⟨S, hc, -, hstore, -⟩ := CPUDriver.ghostPrepare_cases env (cp, ∅) (claim, cdiErr)
  · rwa [heq]
  obtain ⟨results, -, hS⟩ := CPUDriver.claimCPUSet_ok hc
  have hshared := fun {x} (hx : x ∈ S) =>
    CPUAllocationStore.mem_getSharedCPUs.mp (DeviceManager.allocateCPUs_subset env hg hsub hS hx).1
  refine ⟨fun u v U V huv hu hv => ?_, fun u U hu => ?_⟩
  · rw [hstore, CPUAllocationStore.lookup_addResourceClaimAllocation] at hu hv
    split_ifs at hu hv with h₁ h₂ h₂
    · exact absurd (h₁.trans h₂.symm) huv
    · cases hu
      exact Finset.disjoint_left.mpr fun x hx => (hshared hx).2.2 v V hv
    · cases hv
      exact Finset.disjoint_right.mpr fun x hx => (hshared hx).2.2 u U hu
    · exact hi.disjoint u v U V huv hu hv
  · rw [hstore, CPUAllocationStore.lookup_addResourceClaimAllocation] at hu
    rw [hstore]
    split_ifs at hu
    · cases hu
      exact Finset.disjoint_left.mpr fun x hx => (hshared hx).2.1
    · exact hi.not_reserved u U hu

include hsub hg in
/-- A preparation keeps every stored set within the devices of its claim, for any reading of
    the devices that holds what the manager resolves them to. -/
theorem WithinDevices.ghostPrepare {name : String} {inDevice : String → ℤ → Prop}
    (hname : cp.devMgr.driverName = name) (hin : ∀ device c, c ∈ cp.devMgr.deviceCPUs device → inDevice device c)
    (hw : WithinDevices name inDevice cp l) (c : ResourceClaim × Option String) :
    WithinDevices name inDevice (CPUDriver.ghostPrepare env (cp, l) c).1 (CPUDriver.ghostPrepare env (cp, l) c).2 := by
  obtain heq | ⟨S, hc, -, hstore, hledger⟩ := CPUDriver.ghostPrepare_cases env (cp, l) c
  · rwa [heq]
  obtain ⟨results, halloc, hS⟩ := CPUDriver.claimCPUSet_ok hc
  intro u U hu
  rw [hstore, CPUAllocationStore.lookup_addResourceClaimAllocation] at hu
  rw [hledger]
  split_ifs at hu with hu'
  · cases hu
    subst hu'
    exact ⟨c.1, results, AList.lookup_insert _, rfl, halloc, fun x hx =>
      (DeviceManager.allocateCPUs_subset env hg hsub hS hx).2.imp fun r ⟨hr, hd, hx'⟩ =>
        ⟨hr, hd.trans hname, hin _ _ hx'⟩⟩
  · rw [AList.lookup_insert_ne hu']
    exact hw u U hu

include hsub hg in
theorem Exclusive.ghostPrepare (hi : Exclusive cp l) (c : ResourceClaim × Option String) :
    Exclusive (CPUDriver.ghostPrepare env (cp, l) c).1 (CPUDriver.ghostPrepare env (cp, l) c).2 :=
  have hiso := hi.isolated.prepareResourceClaim hsub hg c.1 c.2
  have hw := WithinDevices.ghostPrepare hsub hg rfl (fun _ _ h => h) hi.withinDevices c
  ⟨hiso.disjoint, hiso.not_reserved, by rw [CPUDriver.ghostPrepare_devMgr]; exact hw⟩

/-- An unpreparation keeps the stored sets isolated: it only forgets one. -/
theorem Isolated.unprepareResourceClaim (hi : Isolated cp) (claim : NamespacedObject)
    (cdiErr : Option String) : Isolated (cp.unprepareResourceClaim claim cdiErr).2 := by
  refine ⟨fun u v U V huv hu hv => ?_, fun u U hu => ?_⟩
  · rw [CPUDriver.unprepareResourceClaim_store,
      CPUAllocationStore.lookup_removeResourceClaimAllocation] at hu hv
    split_ifs at hu hv
    exact hi.disjoint u v U V huv hu hv
  · rw [CPUDriver.unprepareResourceClaim_store,
      CPUAllocationStore.lookup_removeResourceClaimAllocation] at hu
    split_ifs at hu
    rw [CPUDriver.unprepareResourceClaim_store]
    exact hi.not_reserved u U hu

theorem WithinDevices.ghostUnprepare {name : String} {inDevice : String → ℤ → Prop}
    (hw : WithinDevices name inDevice cp l) (c : NamespacedObject × Option String) :
    WithinDevices name inDevice (CPUDriver.ghostUnprepare (cp, l) c).1 (CPUDriver.ghostUnprepare (cp, l) c).2 := by
  intro u U hu
  simp only [CPUDriver.ghostUnprepare, CPUDriver.unprepareResourceClaim_store,
    CPUAllocationStore.lookup_removeResourceClaimAllocation] at hu ⊢
  split_ifs at hu with hne
  rw [AList.lookup_erase_ne hne]
  exact hw u U hu

theorem Exclusive.ghostUnprepare (hi : Exclusive cp l) (c : NamespacedObject × Option String) :
    Exclusive (CPUDriver.ghostUnprepare (cp, l) c).1 (CPUDriver.ghostUnprepare (cp, l) c).2 :=
  have hiso := hi.isolated.unprepareResourceClaim c.1 c.2
  ⟨hiso.disjoint, hiso.not_reserved, by
    simp only [CPUDriver.ghostUnprepare, CPUDriver.unprepareResourceClaim_devMgr]
    exact WithinDevices.ghostUnprepare hi.withinDevices c⟩

end Step

/-! ## Runs -/

section Run

variable {env : Env}

/-- A property of the driver and its ledger that every preparation and unpreparation keeps,
    for one device manager, holds along every run. -/
theorem ghostRun_induction (P : CPUDriver × Ledger → Prop) (m : DeviceManager)
    (hprepare : ∀ s c, s.1.devMgr = m → P s → P (CPUDriver.ghostPrepare env s c))
    (hunprepare : ∀ s c, s.1.devMgr = m → P s → P (CPUDriver.ghostUnprepare s c))
    (calls : List KubeletCall) {s : CPUDriver × Ledger} (hm : s.1.devMgr = m) (hs : P s) :
    P (calls.foldl (CPUDriver.ghostServe env) s) := by
  let Q := fun s : CPUDriver × Ledger => s.1.devMgr = m ∧ P s
  have hserve : ∀ s call, Q s → Q (CPUDriver.ghostServe env s call) := by
    rintro s (claims | claims) hs
    · exact List.foldlRecOn (motive := Q) claims _ s hs fun s ⟨hm, hs⟩ c _ =>
        ⟨by simpa [CPUDriver.ghostPrepare] using hm, hprepare s c hm hs⟩
    · exact List.foldlRecOn (motive := Q) claims _ s hs fun s ⟨hm, hs⟩ c _ =>
        ⟨by simpa [CPUDriver.ghostUnprepare] using hm, hunprepare s c hm hs⟩
  exact (List.foldlRecOn (motive := Q) calls _ s ⟨hm, hs⟩ fun s hs call _ => hserve s call hs).2

end Run

/-- With a grouped manager and a packing primitive that selects within its pool, every run
    from an empty store keeps the allocations exclusive: stored sets are pairwise disjoint,
    hold no reserved CPU, and hold only CPUs of the devices their claim names. -/
theorem run_exclusive (env : Env) (hsub : ∀ pool n S, env.take pool n = .ok S → S ⊆ pool)
    (cp : CPUDriver) (hg : cp.devMgr.IsGrouped) (hempty : cp.cpuAllocationStore.allocations = ∅)
    (calls : List KubeletCall) :
    Exclusive (cp.run env calls) (CPUDriver.ledger env cp calls) := by
  rw [CPUDriver.ledger, ← CPUDriver.ghostRun_fst env calls (cp, ∅)]
  exact ghostRun_induction (fun s => Exclusive s.1 s.2) cp.devMgr
    (fun s c hm hs => hs.ghostPrepare hsub (hm ▸ hg) c) (fun s c _ hs => hs.ghostUnprepare c) calls rfl
    (exclusive_empty cp hempty)

theorem run_exclusive_socketDriver :
    (∀ pool n S, takeFirstEnv.take pool n = .ok S → S ⊆ pool) ∧ socketDriver.devMgr.IsGrouped ∧
      socketDriver.cpuAllocationStore.allocations = ∅ ∧
      Exclusive (socketDriver.run takeFirstEnv [.prepare [(socketClaim, none)], .prepare [(socketClaim, none)]])
        (CPUDriver.ledger takeFirstEnv socketDriver
          [.prepare [(socketClaim, none)], .prepare [(socketClaim, none)]]) :=
  ⟨takeFirst_contract.subset, trivial, rfl,
    run_exclusive takeFirstEnv takeFirst_contract.subset socketDriver trivial rfl _⟩

/-! ## Conservation -/

/-- Every stored set lies within the store's CPUs. -/
def StoredWithin (cp : CPUDriver) : Prop :=
  ∀ u S, cp.cpuAllocationStore.allocations.lookup u = some S → S ⊆ cp.cpuAllocationStore.allCPUs

section Within

variable {env : Env} (hsub : ∀ pool n S, env.take pool n = .ok S → S ⊆ pool)
  {cp : CPUDriver} {l : Ledger} (hg : cp.devMgr.IsGrouped)

include hsub hg in
/-- A preparation stores shared CPUs, which lie within the store's CPUs. -/
theorem StoredWithin.ghostPrepare (hw : StoredWithin cp) (c : ResourceClaim × Option String) :
    StoredWithin (CPUDriver.ghostPrepare env (cp, l) c).1 := by
  obtain heq | ⟨S, hc, -, hstore, -⟩ := CPUDriver.ghostPrepare_cases env (cp, l) c
  · rw [heq]
    exact hw
  obtain ⟨results, -, hS⟩ := CPUDriver.claimCPUSet_ok hc
  intro u U hu
  rw [hstore, CPUAllocationStore.lookup_addResourceClaimAllocation] at hu
  rw [hstore]
  split_ifs at hu
  · cases hu
    exact fun x hx =>
      (CPUAllocationStore.mem_getSharedCPUs.mp (DeviceManager.allocateCPUs_subset env hg hsub hS hx).1).1
  · exact hw u U hu

theorem StoredWithin.ghostUnprepare (hw : StoredWithin cp) (c : NamespacedObject × Option String) :
    StoredWithin (CPUDriver.ghostUnprepare (cp, l) c).1 := by
  intro u U hu
  simp only [CPUDriver.ghostUnprepare, CPUDriver.unprepareResourceClaim_store,
    CPUAllocationStore.lookup_removeResourceClaimAllocation] at hu ⊢
  split_ifs at hu
  exact hw u U hu

end Within

/-- Along every run of a grouped driver from an empty store, the allocations stay exclusive and
    within the store's CPUs. -/
theorem run_exclusive_storedWithin (env : Env) (hsub : ∀ pool n S, env.take pool n = .ok S → S ⊆ pool)
    (cp : CPUDriver) (hg : cp.devMgr.IsGrouped) (hempty : cp.cpuAllocationStore.allocations = ∅)
    (calls : List KubeletCall) :
    Exclusive (cp.run env calls) (CPUDriver.ledger env cp calls) ∧ StoredWithin (cp.run env calls) := by
  rw [CPUDriver.ledger, ← CPUDriver.ghostRun_fst env calls (cp, ∅)]
  exact ghostRun_induction (fun s => Exclusive s.1 s.2 ∧ StoredWithin s.1) cp.devMgr
    (fun s c hm hs => ⟨hs.1.ghostPrepare hsub (hm ▸ hg) c, hs.2.ghostPrepare hsub (hm ▸ hg) c⟩)
    (fun s c _ hs => ⟨hs.1.ghostUnprepare c, hs.2.ghostUnprepare c⟩)
    calls rfl ⟨exclusive_empty cp hempty, fun u S hu => by simp [hempty] at hu⟩

/-- With a grouped manager and a packing primitive that selects within its pool, along every
    run from an empty store no CPU is lost or counted twice: the shared pool and the stored
    sets together count each non-reserved CPU of the store once. -/
theorem run_conservation (env : Env) (hsub : ∀ pool n S, env.take pool n = .ok S → S ⊆ pool)
    (cp : CPUDriver) (hg : cp.devMgr.IsGrouped) (hempty : cp.cpuAllocationStore.allocations = ∅)
    (calls : List KubeletCall) :
    (cp.run env calls).cpuAllocationStore.getSharedCPUs.card +
        ((cp.run env calls).cpuAllocationStore.allocations.entries.map fun e => e.2.card).sum =
      (cp.cpuAllocationStore.allCPUs \ cp.cpuAllocationStore.reservedCPUs).card := by
  obtain ⟨hex, hw⟩ := run_exclusive_storedWithin env hsub cp hg hempty calls
  rw [← CPUDriver.run_allCPUs calls, ← CPUDriver.run_reservedCPUs calls]
  exact CPUAllocationStore.card_getSharedCPUs_add_sum hex.disjoint hex.not_reserved hw

theorem run_conservation_socketDriver :
    (∀ pool n S, takeFirstEnv.take pool n = .ok S → S ⊆ pool) ∧ socketDriver.devMgr.IsGrouped ∧
      socketDriver.cpuAllocationStore.allocations = ∅ ∧
      (socketDriver.run takeFirstEnv [.prepare [(socketClaim, none)]]).cpuAllocationStore.getSharedCPUs.card +
          ((socketDriver.run takeFirstEnv [.prepare [(socketClaim, none)]]).cpuAllocationStore.allocations.entries.map
            fun e => e.2.card).sum =
        (socketDriver.cpuAllocationStore.allCPUs \ socketDriver.cpuAllocationStore.reservedCPUs).card :=
  ⟨takeFirst_contract.subset, trivial, rfl,
    run_conservation takeFirstEnv takeFirst_contract.subset socketDriver trivial rfl _⟩

end DraDriverCpu
