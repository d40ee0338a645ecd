import DraDriverCpu.Driver.CdiSpec
import DraDriverCpu.Driver.CpuList
import DraDriverCpu.Driver.Exclusive

/-!
# CPU isolation as the containers see it

A container learns its CPUs from the environment variable of its claim's CDI device,
`<prefix>_<uid>=<list>` (`pkg/driver/driver.go` lines 270–272). Three facts combine into what
the containers rely on: the CDI spec agrees with the store while the CDI calls succeed
(`CDISynced`), a grouped manager keeps the stored sets exclusive (`Exclusive`), and a CPU list
reads back as its set (`parseCPUList_string`). Along every such run, no CPU is listed by two
CDI devices, and no reserved CPU by any.

A failed `RemoveDevice` breaks this: the unprepared claim's CPUs return to the shared pool
while its device stays, and the next claim is given a CPU the stale device still lists (the
example at the end).

Results:
* `envVarCPUs_cdiEnvVar`: a container reads from a claim's variable exactly the claim's CPUs.
* `run_cdiDevices_isolated`: the CPU lists of the CDI devices are disjoint and hold no
  reserved CPU, along every run of a grouped driver whose CDI calls succeed.
* `run_unprepare_stale_device`: after a failed `RemoveDevice` the claim's device still lists
  its CPUs, which are back in the shared pool.
-/

namespace DraDriverCpu

/-- The CPUs a container reads from a variable `NAME=list`: the CPU list after its last `=`. -/
def envVarCPUs (v : String) : List ℤ :=
  parseCPUList ⟨(v.data.reverse.takeWhile (· ≠ '=')).reverse⟩

theorem envVarCPUs_cdiEnvVar (env : Env) (uid : String) (S : CPUSet) :
    envVarCPUs (CPUDriver.cdiEnvVar env uid S) = S.list := by
  have hlist : ∀ c ∈ S.string.data.reverse, decide (c ≠ '=') = true := fun c hc =>
    decide_eq_true <| by
      rcases mem_string (List.mem_reverse.mp hc) with rfl | rfl | h
      · decide
      · decide
      · exact ne_of_isDigit h (by decide)
  have hdata : (CPUDriver.cdiEnvVar env uid S).data =
      (env.cdiEnvVarPrefix ++ "_" ++ uid).data ++ '=' :: S.string.data := by
    simp only [CPUDriver.cdiEnvVar, String.data_append, List.append_assoc]
    rfl
  rw [envVarCPUs, hdata, List.reverse_append, List.reverse_cons, List.append_assoc,
    List.takeWhile_append_of_pos hlist, List.singleton_append, List.takeWhile_cons]
  simp only [ne_eq, not_true_eq_false, decide_False, Bool.false_eq_true, if_false, List.append_nil,
    List.reverse_reverse]
  exact parseCPUList_string S

/-- With a grouped manager and a packing primitive that selects within its pool, along every
    run from a driver that holds no claim and no CDI device, while every CDI call succeeds, the
    CPUs a container reads from a CDI device are reserved by no one and listed by no other
    device. -/
theorem run_cdiDevices_isolated (env : Env) (hsub : ∀ pool n S, env.take pool n = .ok S → S ⊆ pool)
    (cp : CPUDriver) (hg : cp.devMgr.IsGrouped) (hstore : cp.cpuAllocationStore.allocations = ∅)
    (hcdi : cp.cdiDevices = ∅) (calls : List KubeletCall) (hcalls : ∀ call ∈ calls, call.CdiSucceeds)
    {n : String} {v : String} (hv : (cp.run env calls).cdiDevices.lookup n = some v) :
    (∀ c ∈ envVarCPUs v, c ∉ cp.cpuAllocationStore.reservedCPUs) ∧
      ∀ n' v', n' ≠ n → (cp.run env calls).cdiDevices.lookup n' = some v' →
        ∀ c ∈ envVarCPUs v, c ∉ envVarCPUs v' := by
  have hsync : CDISynced env (cp.run env calls) := (cdiSynced_empty hstore hcdi).run hcalls
  have hex := (run_exclusive_storedWithin env hsub cp hg hstore calls).1
  obtain ⟨uid, S, rfl, hS, rfl⟩ := (hsync n v).mp hv
  rw [envVarCPUs_cdiEnvVar]
  refine ⟨fun c hc hres => ?_, fun n' v' hne hv' c hc hc' => ?_⟩
  · rw [← CPUDriver.run_reservedCPUs calls] at hres
    exact Finset.disjoint_left.mp (hex.not_reserved uid S hS) (CPUSet.mem_list.mp hc) hres
  · obtain ⟨uid', S', rfl, hS', rfl⟩ := (hsync n' v').mp hv'
    rw [envVarCPUs_cdiEnvVar] at hc'
    have huid : uid' ≠ uid := fun h => hne (congrArg getCDIDeviceName h)
    exact Finset.disjoint_left.mp (hex.disjoint uid' uid S' S huid hS' hS) (CPUSet.mem_list.mp hc')
      (CPUSet.mem_list.mp hc)

theorem run_cdiDevices_isolated_socketDriver :
    (∀ pool n S, takeFirstEnv.take pool n = .ok S → S ⊆ pool) ∧ socketDriver.devMgr.IsGrouped ∧
      socketDriver.cpuAllocationStore.allocations = ∅ ∧ socketDriver.cdiDevices = ∅ ∧
      (∀ call ∈ [KubeletCall.prepare [(socketClaim, none)]], call.CdiSucceeds) ∧
      (socketDriver.run takeFirstEnv [.prepare [(socketClaim, none)]]).cdiDevices.lookup
        (getCDIDeviceName socketClaim.uid) = some (CPUDriver.cdiEnvVar takeFirstEnv socketClaim.uid {0}) ∧
      ((∀ c ∈ envVarCPUs (CPUDriver.cdiEnvVar takeFirstEnv socketClaim.uid {0}),
          c ∉ socketDriver.cpuAllocationStore.reservedCPUs) ∧
        ∀ n' v', n' ≠ getCDIDeviceName socketClaim.uid →
          (socketDriver.run takeFirstEnv [.prepare [(socketClaim, none)]]).cdiDevices.lookup n' = some v' →
          ∀ c ∈ envVarCPUs (CPUDriver.cdiEnvVar takeFirstEnv socketClaim.uid {0}), c ∉ envVarCPUs v') :=
  have hcalls : ∀ call ∈ [KubeletCall.prepare [(socketClaim, none)]], call.CdiSucceeds := by
    simp [KubeletCall.CdiSucceeds]
  have hv : (socketDriver.run takeFirstEnv [.prepare [(socketClaim, none)]]).cdiDevices.lookup
      (getCDIDeviceName socketClaim.uid) = some (CPUDriver.cdiEnvVar takeFirstEnv socketClaim.uid {0}) := by
    decide
  ⟨takeFirst_contract.subset, trivial, rfl, rfl, hcalls, hv,
    run_cdiDevices_isolated takeFirstEnv takeFirst_contract.subset socketDriver trivial rfl rfl _ hcalls hv⟩

/-- A failed `RemoveDevice` breaks this: along the same runs, unpreparing a stored claim whose
    `RemoveDevice` fails leaves its CDI device listing the claim's CPUs, while each of them is
    back in the shared pool that the next claim is resolved from. -/
theorem run_unprepare_stale_device (env : Env) (hsub : ∀ pool n S, env.take pool n = .ok S → S ⊆ pool)
    (cp : CPUDriver) (hg : cp.devMgr.IsGrouped) (hstore : cp.cpuAllocationStore.allocations = ∅)
    (hcdi : cp.cdiDevices = ∅) (calls : List KubeletCall) (hcalls : ∀ call ∈ calls, call.CdiSucceeds)
    (claim : NamespacedObject) {S : CPUSet}
    (hS : (cp.run env calls).cpuAllocationStore.allocations.lookup claim.uid = some S) (err : String) :
    (((cp.run env calls).unprepareResourceClaim claim (some err)).2.cdiDevices.lookup
        (getCDIDeviceName claim.uid)).map envVarCPUs = some S.list ∧
      ∀ c ∈ S, c ∈ ((cp.run env calls).unprepareResourceClaim claim (some err)).2.cpuAllocationStore.getSharedCPUs := by
  have hsync : CDISynced env (cp.run env calls) := (cdiSynced_empty hstore hcdi).run hcalls
  obtain ⟨hex, hw⟩ := run_exclusive_storedWithin env hsub cp hg hstore calls
  have hv := (hsync _ _).mpr ⟨claim.uid, S, rfl, hS, rfl⟩
  refine ⟨by rw [CPUDriver.unprepareResourceClaim_cdiDevices, hv, Option.map_some', envVarCPUs_cdiEnvVar],
    fun c hc => ?_⟩
  rw [CPUDriver.unprepareResourceClaim_store, CPUAllocationStore.mem_getSharedCPUs]
  refine ⟨hw _ _ hS hc, Finset.disjoint_left.mp (hex.not_reserved _ _ hS) hc, fun u T hu hcT => ?_⟩
  rw [CPUAllocationStore.lookup_removeResourceClaimAllocation] at hu
  split_ifs at hu with hne
  exact Finset.disjoint_left.mp (hex.disjoint _ _ _ _ (Ne.symm hne) hS hu) hc hcT

theorem run_unprepare_stale_device_socketDriver :
    (∀ pool n S, takeFirstEnv.take pool n = .ok S → S ⊆ pool) ∧ socketDriver.devMgr.IsGrouped ∧
      socketDriver.cpuAllocationStore.allocations = ∅ ∧ socketDriver.cdiDevices = ∅ ∧
      (∀ call ∈ [KubeletCall.prepare [(socketClaim, none)]], call.CdiSucceeds) ∧
      (socketDriver.run takeFirstEnv [.prepare [(socketClaim, none)]]).cpuAllocationStore.allocations.lookup
        "c" = some {0} ∧
      (((((socketDriver.run takeFirstEnv [.prepare [(socketClaim, none)]]).unprepareResourceClaim
          ⟨"default", "claim", "c"⟩ (some "RemoveDevice failed")).2.cdiDevices.lookup
          (getCDIDeviceName "c")).map envVarCPUs = some ({0} : CPUSet).list) ∧
        ∀ c ∈ ({0} : CPUSet), c ∈ ((socketDriver.run takeFirstEnv [.prepare [(socketClaim, none)]]).unprepareResourceClaim
          ⟨"default", "claim", "c"⟩ (some "RemoveDevice failed")).2.cpuAllocationStore.getSharedCPUs) :=
  have hcalls : ∀ call ∈ [KubeletCall.prepare [(socketClaim, none)]], call.CdiSucceeds := by
    simp [KubeletCall.CdiSucceeds]
  have hS : (socketDriver.run takeFirstEnv [.prepare [(socketClaim, none)]]).cpuAllocationStore.allocations.lookup
      "c" = some {0} := by
    decide
  ⟨takeFirst_contract.subset, trivial, rfl, rfl, hcalls, hS,
    run_unprepare_stale_device takeFirstEnv takeFirst_contract.subset socketDriver trivial rfl rfl _ hcalls
      ⟨"default", "claim", "c"⟩ hS "RemoveDevice failed"⟩

/-- After a failed `RemoveDevice` the device of claim `a` still lists CPU `0`, which the
    socket manager then gives to claim `b`. -/
example :
    ((socketDriver.run takeFirstEnv
        [.prepare [({ socketClaim with uid := "a" }, none)],
         .unprepare [(⟨"default", "claim", "a"⟩, some "RemoveDevice failed")],
         .prepare [({ socketClaim with uid := "b" }, none)]]).cdiDevices.lookup (getCDIDeviceName "a")).map
        envVarCPUs = some [0] ∧
    ((socketDriver.run takeFirstEnv
        [.prepare [({ socketClaim with uid := "a" }, none)],
         .unprepare [(⟨"default", "claim", "a"⟩, some "RemoveDevice failed")],
         .prepare [({ socketClaim with uid := "b" }, none)]]).cdiDevices.lookup (getCDIDeviceName "b")).map
        envVarCPUs = some [0] := by
  decide

end DraDriverCpu
