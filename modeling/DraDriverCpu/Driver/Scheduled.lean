import DraDriverCpu.Driver.Capacity
import DraDriverCpu.Device.IndividualCatalogue

/-!
# Exclusive allocation with the individual-core manager

The individual-core manager resolves a claim through its device-name index alone
(`AllocateCPUs`, `src/unnamed/part_002` lines 118–140): it never reads the allocation store,
so nothing in the driver keeps two claims off one CPU. Its devices are published without
`AllowMultipleAllocations`, and exclusivity rests on the scheduler, which gives each of them
to one allocated claim at a time.

`CPUDriver.Scheduled` states that guarantee along a run, checked at each preparation against
the claims stored at that point: no device of this driver that the claim names is named by a
claim stored under another UID. Under it, on a well-formed topology without CPU `-1`, where
distinct names resolve to distinct non-reserved CPUs, every run of a started individual-core
driver keeps the invariant `Exclusive` that the grouped managers keep by resolving from the
shared pool.

Results:
* `SchedInv.ghostPrepare`, `SchedInv.ghostUnprepare`: each stored set is what its recorded
  claim resolves to, and claims recorded under distinct UIDs name distinct devices.
* `SchedInv.exclusive`: with the manager of a started driver, the invariant gives exclusive
  allocations.
* `run_exclusive_individual`: the exclusive-allocation invariant along every scheduled run.
-/

namespace DraDriverCpu

/-- The devices of driver `name` that the results of a claim name. -/
def claimDevices (name : String) (claim : ResourceClaim) : List String :=
  ((claim.allocation.getD []).filter fun r => r.driver = name).map AllocationResult.device

theorem mem_claimDevices {name : String} {claim : ResourceClaim} {results : List AllocationResult}
    (halloc : claim.allocation = some results) {r : AllocationResult} (hr : r ∈ results)
    (hd : r.driver = name) : r.device ∈ claimDevices name claim := by
  rw [claimDevices, halloc, Option.getD_some]
  exact List.mem_map_of_mem _ (List.mem_filter.mpr ⟨hr, decide_eq_true hd⟩)

/-- The scheduler's guarantee for one preparation: no device of driver `name` that the claim
    names is named by a claim recorded under another UID. -/
def DevicesFree (name : String) (l : Ledger) (claim : ResourceClaim) : Prop :=
  ∀ e ∈ l.entries, e.1 ≠ claim.uid → ∀ d ∈ claimDevices name claim, d ∉ claimDevices name e.2

instance (name : String) (l : Ledger) (claim : ResourceClaim) :
    Decidable (DevicesFree name l claim) :=
  inferInstanceAs (Decidable (∀ e ∈ l.entries, e.1 ≠ claim.uid →
    ∀ d ∈ claimDevices name claim, d ∉ claimDevices name e.2))

namespace CPUDriver

variable (env : Env) (name : String)

/-- The scheduler's guarantee along a batch of preparations, each checked against the ledger
    the batch has reached. -/
def ScheduledBatch : CPUDriver × Ledger → List (ResourceClaim × Option String) → Prop
  | _, [] => True
  | s, c :: cs => DevicesFree name s.2 c.1 ∧ ScheduledBatch (ghostPrepare env s c) cs

/-- The scheduler's guarantee along a run of kubelet calls. -/
def Scheduled : CPUDriver × Ledger → List KubeletCall → Prop
  | _, [] => True
  | s, .prepare cs :: calls =>
    ScheduledBatch env name s cs ∧ Scheduled (ghostServe env s (.prepare cs)) calls
  | s, .unprepare cs :: calls => Scheduled (ghostServe env s (.unprepare cs)) calls

instance decidableScheduledBatch :
    (s : CPUDriver × Ledger) → (cs : List (ResourceClaim × Option String)) →
      Decidable (ScheduledBatch env name s cs)
  | _, [] => isTrue trivial
  | s, c :: cs =>
    have := decidableScheduledBatch (ghostPrepare env s c) cs
    inferInstanceAs (Decidable (_ ∧ _))

instance decidableScheduled :
    (s : CPUDriver × Ledger) → (calls : List KubeletCall) → Decidable (Scheduled env name s calls)
  | _, [] => isTrue trivial
  | s, .prepare cs :: calls =>
    have := decidableScheduled (ghostServe env s (.prepare cs)) calls
    inferInstanceAs (Decidable (_ ∧ _))
  | s, .unprepare cs :: calls => decidableScheduled (ghostServe env s (.unprepare cs)) calls

end CPUDriver

/-! ## The invariant -/

/-- What a scheduled run keeps with the individual-core manager `mgr` of driver `name`: each
    stored set is what `mgr` resolves the claim recorded under its UID to, and claims recorded
    under distinct UIDs name distinct devices of the driver. -/
structure SchedInv (mgr : IndividualCoreManager) (name : String) (s : CPUDriver × Ledger) :
    Prop where
  resolved : ∀ u S, s.1.cpuAllocationStore.allocations.lookup u = some S →
    ∃ claim results, s.2.lookup u = some claim ∧ claim.uid = u ∧ claim.allocation = some results ∧
      mgr.allocateCPUs results = .ok S
  distinct : ∀ u v c c', u ≠ v → s.2.lookup u = some c → s.2.lookup v = some c' →
    ∀ d ∈ claimDevices name c, d ∉ claimDevices name c'

section Step

variable {env : Env} {name : String} {mgr : IndividualCoreManager} {s : CPUDriver × Ledger}

theorem lookup_of_lookup_erase {l : Ledger} {k u : String} {c : ResourceClaim}
    (h : (l.erase k).lookup u = some c) : l.lookup u = some c := by
  by_cases hu : u = k
  · rw [hu, AList.lookup_erase] at h
    cases h
  · rwa [AList.lookup_erase_ne hu] at h

/-- A scheduled preparation keeps the invariant: the new set is what the manager resolves the
    claim to, and the scheduler has given its devices to no other stored claim. -/
theorem SchedInv.ghostPrepare (hmgr : s.1.devMgr = .individual mgr) (hi : SchedInv mgr name s)
    (c : ResourceClaim × Option String) (hfree : DevicesFree name s.2 c.1) :
    SchedInv mgr name (CPUDriver.ghostPrepare env s c) := by
  obtain heq | ⟨S, hc, -, hstore, hledger⟩ := CPUDriver.ghostPrepare_cases env s c
  · rwa [heq]
  obtain ⟨results, halloc, hS⟩ := CPUDriver.claimCPUSet_ok hc
  rw [hmgr] at hS
  refine ⟨fun u U hu => ?_, fun u v a b huv hu hv => ?_⟩
  · rw [hstore, CPUAllocationStore.lookup_addResourceClaimAllocation] at hu
    rw [hledger]
    split_ifs at hu with hu'
    · cases hu
      subst hu'
      exact ⟨c.1, results, AList.lookup_insert _, rfl, halloc, hS⟩
    · rw [AList.lookup_insert_ne hu']
      exact hi.resolved u U hu
  · rw [hledger] at hu hv
    by_cases hu' : u = c.1.uid <;> by_cases hv' : v = c.1.uid
    · exact absurd (hu'.trans hv'.symm) huv
    · rw [hu', AList.lookup_insert, Option.some_inj] at hu
      rw [AList.lookup_insert_ne hv'] at hv
      subst hu
      exact hfree ⟨v, b⟩ (AList.mem_lookup_iff.mp hv) hv'
    · rw [AList.lookup_insert_ne hu'] at hu
      rw [hv', AList.lookup_insert, Option.some_inj] at hv
      subst hv
      exact fun d hd hd' => hfree ⟨u, a⟩ (AList.mem_lookup_iff.mp hu) hu' d hd' hd
    · rw [AList.lookup_insert_ne hu'] at hu
      rw [AList.lookup_insert_ne hv'] at hv
      exact hi.distinct u v a b huv hu hv

/-- An unpreparation keeps the invariant: it forgets the stored set and the recorded claim. -/
theorem SchedInv.ghostUnprepare (hi : SchedInv mgr name s) (c : NamespacedObject × Option String) :
    SchedInv mgr name (CPUDriver.ghostUnprepare s c) := by
  simp only [CPUDriver.ghostUnprepare]
  refine ⟨fun u U hu => ?_, fun u v a b huv hu hv =>
    hi.distinct u v a b huv (lookup_of_lookup_erase hu) (lookup_of_lookup_erase hv)⟩
  rw [CPUDriver.unprepareResourceClaim_store,
    CPUAllocationStore.lookup_removeResourceClaimAllocation] at hu
  split_ifs at hu with hne
  rw [AList.lookup_erase_ne hne]
  exact hi.resolved u U hu

end Step

section Exclusive

variable {name : String} {topo : CPUTopology} {R : CPUSet}

/-- With the manager a started individual-core driver resolves against, on a well-formed
    topology without CPU `-1`, the invariant gives exclusive allocations: distinct devices
    resolve to distinct CPUs, none of them reserved. -/
theorem SchedInv.exclusive (hwf : WellFormed topo) (hid : -1 ∉ topo.cpuDetails.cpus)
    {s : CPUDriver × Ledger} (hmgr : s.1.devMgr = .individual (newIndividualCoreManager name topo R).createSlices.2)
    (hres : s.1.cpuAllocationStore.reservedCPUs = R)
    (hi : SchedInv (newIndividualCoreManager name topo R).createSlices.2 name s) :
    Exclusive s.1 s.2 := by
  set mgr := (newIndividualCoreManager name topo R).createSlices.2
  refine ⟨fun u v U V huv hu hv => ?_, fun u U hu => ?_, fun u U hu => ?_⟩
  · obtain ⟨a, ra, hla, -, hra, hU⟩ := hi.resolved u U hu
    obtain ⟨b, rb, hlb, -, hrb, hV⟩ := hi.resolved v V hv
    refine Finset.disjoint_left.mpr fun x hxU hxV => ?_
    obtain ⟨r, hr, hd, hl⟩ := mgr.mem_allocateCPUs hU hxU
    obtain ⟨r', hr', hd', hl'⟩ := mgr.mem_allocateCPUs hV hxV
    have hdev : r.device = r'.device := lookup_index_injective name topo R hwf hid hl hl'
    exact hi.distinct u v a b huv hla hlb r.device (mem_claimDevices hra hr hd)
      (hdev ▸ mem_claimDevices hrb hr' hd')
  · obtain ⟨a, ra, -, -, -, hU⟩ := hi.resolved u U hu
    rw [hres]
    refine Finset.disjoint_left.mpr fun x hx hxR => ?_
    obtain ⟨r, -, -, hl⟩ := mgr.mem_allocateCPUs hU hx
    exact (Finset.mem_sdiff.mp (lookup_index_mem name topo R hwf hid hl)).2 hxR
  · obtain ⟨a, ra, hla, hua, hra, hU⟩ := hi.resolved u U hu
    refine ⟨a, ra, hla, hua, hra, fun x hx => ?_⟩
    obtain ⟨r, hr, hd, hl⟩ := mgr.mem_allocateCPUs hU hx
    rw [hmgr]
    exact ⟨r, hr, hd, by simp [DeviceManager.deviceCPUs, DeviceManager.coordIndex,
      DeviceManager.coordCPUs, hl]⟩

end Exclusive

/-! ## Runs -/

/-- A property of the driver and its ledger that every scheduled preparation and every
    unpreparation keeps, for one device manager, holds along every scheduled run, whose
    manager does not change. -/
theorem scheduledRun_induction {env : Env} {name : String} (P : CPUDriver × Ledger → Prop)
    (m : DeviceManager)
    (hprepare : ∀ s c, s.1.devMgr = m → DevicesFree name s.2 c.1 → P s →
      P (CPUDriver.ghostPrepare env s c))
    (hunprepare : ∀ s c, s.1.devMgr = m → P s → P (CPUDriver.ghostUnprepare s c)) :
    ∀ (calls : List KubeletCall) (s : CPUDriver × Ledger), CPUDriver.Scheduled env name s calls →
      s.1.devMgr = m → P s →
      (calls.foldl (CPUDriver.ghostServe env) s).1.devMgr = m ∧ P (calls.foldl (CPUDriver.ghostServe env) s)
  | [], _, _, hm, hs => ⟨hm, hs⟩
  | .prepare cs :: calls, s, ⟨hbatch, hrest⟩, hm, hs => by
    have hserve : ∀ (cs : List (ResourceClaim × Option String)) (s : CPUDriver × Ledger),
        CPUDriver.ScheduledBatch env name s cs → s.1.devMgr = m → P s →
        (cs.foldl (CPUDriver.ghostPrepare env) s).1.devMgr = m ∧
          P (cs.foldl (CPUDriver.ghostPrepare env) s) := by
      intro cs
      induction cs with
      | nil => exact fun _ _ hm hs => ⟨hm, hs⟩
      | cons c cs ih =>
        exact fun s ⟨hfree, hb⟩ hm hs => ih _ hb (by simpa [CPUDriver.ghostPrepare] using hm)
          (hprepare s c hm hfree hs)
    obtain ⟨hm', hs'⟩ := hserve cs s hbatch hm hs
    exact scheduledRun_induction P m hprepare hunprepare calls _ hrest hm' hs'
  | .unprepare cs :: calls, s, hrest, hm, hs => by
    have hserve : ∀ (s : CPUDriver × Ledger), s.1.devMgr = m ∧ P s →
        (cs.foldl CPUDriver.ghostUnprepare s).1.devMgr = m ∧ P (cs.foldl CPUDriver.ghostUnprepare s) :=
      fun s hs => List.foldlRecOn (motive := fun s => s.1.devMgr = m ∧ P s) cs _ s hs
        fun s ⟨hm, hs⟩ c _ => ⟨by simpa [CPUDriver.ghostUnprepare] using hm, hunprepare s c hm hs⟩
    obtain ⟨hm', hs'⟩ := hserve s ⟨hm, hs⟩
    exact scheduledRun_induction P m hprepare hunprepare calls _ hrest hm' hs'

/-- With the individual-core manager, on a well-formed topology without CPU `-1`, every run of
    the started driver along which the scheduler never gives a device to two stored claims
    keeps the allocations exclusive: stored sets are pairwise disjoint, hold no reserved CPU,
    and hold only CPUs of the devices their claim names. -/
theorem run_exclusive_individual (env : Env) (name : String) (topo : CPUTopology) (R : CPUSet)
    (hwf : WellFormed topo) (hid : -1 ∉ topo.cpuDetails.cpus) (calls : List KubeletCall)
    (hsched : CPUDriver.Scheduled env name
      (startedDriver env name topo R (.individual (newIndividualCoreManager name topo R)), ∅) calls) :
    Exclusive ((startedDriver env name topo R (.individual (newIndividualCoreManager name topo R))).run
        env calls)
      (CPUDriver.ledger env (startedDriver env name topo R (.individual (newIndividualCoreManager name topo R)))
        calls) := by
  rw [CPUDriver.ledger, ← CPUDriver.ghostRun_fst env calls
    (startedDriver env name topo R (.individual (newIndividualCoreManager name topo R)), ∅)]
  obtain ⟨hm, hres, hi⟩ := scheduledRun_induction
    (fun s => s.1.cpuAllocationStore.reservedCPUs = R ∧
      SchedInv (newIndividualCoreManager name topo R).createSlices.2 name s)
    (.individual (newIndividualCoreManager name topo R).createSlices.2)
    (fun s c hm hfree hs => ⟨by simpa [CPUDriver.ghostPrepare] using hs.1, hs.2.ghostPrepare hm c hfree⟩)
    (fun s c _ hs => ⟨by simpa [CPUDriver.ghostUnprepare, CPUAllocationStore.removeResourceClaimAllocation]
      using hs.1, hs.2.ghostUnprepare c⟩)
    calls _ hsched rfl
    ⟨rfl, fun u S hu => by simp [startedDriver, newCPUAllocationStore] at hu,
      fun u v c c' _ hu => by simp at hu⟩
  exact hi.exclusive hwf hid hm hres

/-- A claim of UID `uid` whose one result names the individual-core device `device`. -/
def cpuClaim (uid device : String) : ResourceClaim :=
  ⟨uid, "default", uid, some [⟨"dra.cpu", "node", device, "cpu", ∅⟩]⟩

/-- The driver of `fourCPUs`, CPU `2` reserved, started around the individual-core manager. -/
def startedFourCPUDriver : CPUDriver :=
  startedDriver takeFirstEnv "dra.cpu" fourCPUs {2} (.individual (newIndividualCoreManager "dra.cpu" fourCPUs {2}))

/-- Two claims on two devices; then the first is unprepared and its device goes to a third. -/
def scheduledCalls : List KubeletCall :=
  [.prepare [(cpuClaim "a" "cpudev000", none), (cpuClaim "b" "cpudev001", none)],
   .unprepare [(⟨"default", "a", "a"⟩, none)],
   .prepare [(cpuClaim "c" "cpudev000", none)]]

theorem run_exclusive_individual_fourCPUs :
    WellFormed fourCPUs ∧ -1 ∉ fourCPUs.cpuDetails.cpus ∧
      CPUDriver.Scheduled takeFirstEnv "dra.cpu" (startedFourCPUDriver, ∅) scheduledCalls ∧
      Exclusive (startedFourCPUDriver.run takeFirstEnv scheduledCalls)
        (CPUDriver.ledger takeFirstEnv startedFourCPUDriver scheduledCalls) :=
  have hs : CPUDriver.Scheduled takeFirstEnv "dra.cpu" (startedFourCPUDriver, ∅) scheduledCalls := by
    decide
  ⟨by decide, by decide, hs,
    run_exclusive_individual takeFirstEnv "dra.cpu" fourCPUs {2} (by decide) (by decide) scheduledCalls hs⟩

/-- Without the scheduler's guarantee the driver stores CPU `0` for two claims at once. -/
example :
    ¬CPUDriver.Scheduled takeFirstEnv "dra.cpu" (startedFourCPUDriver, ∅)
        [.prepare [(cpuClaim "a" "cpudev000", none), (cpuClaim "b" "cpudev000", none)]] ∧
      ((startedFourCPUDriver.run takeFirstEnv
        [.prepare [(cpuClaim "a" "cpudev000", none), (cpuClaim "b" "cpudev000", none)]]).cpuAllocationStore.allocations.lookup "a",
       (startedFourCPUDriver.run takeFirstEnv
        [.prepare [(cpuClaim "a" "cpudev000", none), (cpuClaim "b" "cpudev000", none)]]).cpuAllocationStore.allocations.lookup "b") =
        (some {0}, some {0}) := by
  decide

end DraDriverCpu
