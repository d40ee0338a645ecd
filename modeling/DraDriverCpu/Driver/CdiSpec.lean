import DraDriverCpu.Driver.Prepare

/-!
# The CDI spec and the allocation store

`prepareResourceClaim` records a claim's CPUs in the store, then writes them to the CDI spec
as a device named after the claim's UID (`pkg/driver/driver.go` lines 268–274);
`unprepareResourceClaim` removes both (lines 316–320). The two writes are not atomic: a failed
`AddDevice` leaves the CPUs stored without a CDI device, and a failed `RemoveDevice` leaves the
device after the CPUs went back to the shared pool.

Along every run whose CDI calls succeed, the spec and the store agree: the spec holds exactly
one device per stored claim, named `claim-<uid>`, whose environment variable carries that
claim's stored set (`CDISynced`).

Results:
* `CDISynced.prepareResourceClaim`, `CDISynced.unprepareResourceClaim`: a call whose CDI write
  succeeds keeps the agreement.
* `run_cdiSynced`: every run from a driver holding nothing keeps it while the CDI calls
  succeed.
* `unprepareResourceClaim_prepareResourceClaim`: unpreparing a claim right after preparing it
  restores the driver, whatever the preparation did.
-/

namespace DraDriverCpu

section Maps

variable {β : Type} {s : AList (fun _ : String => β)} {a : String}

theorem erase_of_not_mem (h : a ∉ s) : s.erase a = s :=
  AList.ext (List.kerase_of_not_mem_keys (AList.mem_keys.not.mp h))

theorem erase_insert_of_not_mem (b : β) (h : a ∉ s) : (s.insert a b).erase a = s := by
  apply AList.ext
  simp [AList.insert_entries, AList.erase, List.kerase_of_not_mem_keys (AList.mem_keys.not.mp h)]

end Maps

theorem getCDIDeviceName_injective : Function.Injective getCDIDeviceName :=
  fun _ _ h => String.ext <| List.append_cancel_left <| by
    simpa only [getCDIDeviceName, String.data_append] using congrArg String.data h

/-- The CDI spec agrees with the store: it holds one device per stored claim, named after the
    claim's UID, whose environment variable carries the claim's stored CPUs, and no other
    device. -/
def CDISynced (env : Env) (cp : CPUDriver) : Prop :=
  ∀ n v, cp.cdiDevices.lookup n = some v ↔
    ∃ uid S, n = getCDIDeviceName uid ∧ cp.cpuAllocationStore.allocations.lookup uid = some S ∧
      v = CPUDriver.cdiEnvVar env uid S

/-- Every CDI call a kubelet call causes succeeds. -/
def KubeletCall.CdiSucceeds : KubeletCall → Prop
  | .prepare claims => ∀ c ∈ claims, c.2 = none
  | .unprepare claims => ∀ c ∈ claims, c.2 = none

section Synced

variable {env : Env} {cp : CPUDriver}

/-- Storing a claim's CPUs and writing its device keeps the agreement. -/
theorem CDISynced.insert (h : CDISynced env cp) (uid : String) (S : CPUSet) :
    CDISynced env { cp with
      cpuAllocationStore := cp.cpuAllocationStore.addResourceClaimAllocation uid S
      cdiDevices := cp.cdiDevices.insert (getCDIDeviceName uid) (CPUDriver.cdiEnvVar env uid S) } := by
  intro n v
  simp only [CPUAllocationStore.lookup_addResourceClaimAllocation]
  by_cases hn : n = getCDIDeviceName uid
  · subst hn
    rw [AList.lookup_insert, Option.some_inj]
    constructor
    · rintro rfl
      exact ⟨uid, S, rfl, if_pos rfl, rfl⟩
    · rintro ⟨u, T, hu, hl, rfl⟩
      obtain rfl := getCDIDeviceName_injective hu
      rw [if_pos rfl, Option.some_inj] at hl
      rw [hl]
  · rw [AList.lookup_insert_ne hn, h n v]
    refine exists_congr fun u => exists_congr fun T => and_congr_right fun hu => ?_
    rw [if_neg fun h => hn (hu.trans (congrArg _ h))]

/-- Forgetting a claim's CPUs and removing its device keeps the agreement. -/
theorem CDISynced.erase (h : CDISynced env cp) (uid : String) :
    CDISynced env { cp with
      cpuAllocationStore := cp.cpuAllocationStore.removeResourceClaimAllocation uid
      cdiDevices := cp.cdiDevices.erase (getCDIDeviceName uid) } := by
  intro n v
  simp only [CPUAllocationStore.lookup_removeResourceClaimAllocation]
  by_cases hn : n = getCDIDeviceName uid
  · subst hn
    rw [AList.lookup_erase]
    refine iff_of_false (Option.some_ne_none v).symm fun ⟨u, T, hu, hl, _⟩ => ?_
    obtain rfl := getCDIDeviceName_injective hu
    rw [if_pos rfl] at hl
    cases hl
  · rw [AList.lookup_erase_ne hn, h n v]
    refine exists_congr fun u => exists_congr fun T => and_congr_right fun hu => ?_
    rw [if_neg fun h => hn (hu.trans (congrArg _ h))]

/-- A preparation whose CDI write succeeds keeps the agreement: a claim that does not resolve
    changes nothing, and one that does is stored and written with the same CPUs. -/
theorem CDISynced.prepareResourceClaim (h : CDISynced env cp) (claim : ResourceClaim) :
    CDISynced env (cp.prepareResourceClaim env claim none).2 := by
  cases hc : cp.claimCPUSet env claim with
  | error err => rwa [CPUDriver.prepareResourceClaim_of_error hc]
  | ok S =>
    rw [(CPUDriver.prepareResourceClaim_of_ok hc none).1]
    exact h.insert claim.uid S

/-- An unpreparation whose CDI removal succeeds keeps the agreement. -/
theorem CDISynced.unprepareResourceClaim (h : CDISynced env cp) (claim : NamespacedObject) :
    CDISynced env (cp.unprepareResourceClaim claim none).2 :=
  h.erase claim.uid

theorem CDISynced.serve (h : CDISynced env cp) {call : KubeletCall} (hcall : call.CdiSucceeds) :
    CDISynced env (cp.serve env call) := by
  cases call with
  | prepare claims =>
    rw [CPUDriver.serve, CPUDriver.prepareResourceClaims,
      foldl_pair_snd _ (fun cp c => (cp.prepareResourceClaim env c.1 c.2).2) claims (∅, cp)]
    exact List.foldlRecOn (motive := CDISynced env) claims _ cp h fun d hd c hc => by
      rw [hcall c hc]
      exact hd.prepareResourceClaim c.1
  | unprepare claims =>
    rw [CPUDriver.serve, CPUDriver.unprepareResourceClaims,
      foldl_pair_snd _ (fun cp c => (cp.unprepareResourceClaim c.1 c.2).2) claims (∅, cp)]
    exact List.foldlRecOn (motive := CDISynced env) claims _ cp h fun d hd c hc => by
      rw [hcall c hc]
      exact hd.unprepareResourceClaim c.1

theorem CDISynced.run (h : CDISynced env cp) {calls : List KubeletCall}
    (hcalls : ∀ call ∈ calls, call.CdiSucceeds) : CDISynced env (cp.run env calls) :=
  List.foldlRecOn (motive := CDISynced env) calls _ cp h fun _ hd call hc => hd.serve (hcalls call hc)

/-- A driver that holds no claim and no CDI device agrees with its CDI spec. -/
theorem cdiSynced_empty (hstore : cp.cpuAllocationStore.allocations = ∅) (hcdi : cp.cdiDevices = ∅) :
    CDISynced env cp :=
  fun n v => by simp [hstore, hcdi]

end Synced

/-- Along every run from a driver that holds no claim and no CDI device, while every CDI call
    succeeds, the CDI spec holds exactly one device per stored claim, named after its UID and
    carrying its stored CPUs, whatever the manager. -/
theorem run_cdiSynced (env : Env) (cp : CPUDriver) (hstore : cp.cpuAllocationStore.allocations = ∅)
    (hcdi : cp.cdiDevices = ∅) (calls : List KubeletCall)
    (hcalls : ∀ call ∈ calls, call.CdiSucceeds) :
    CDISynced env (cp.run env calls) :=
  (cdiSynced_empty hstore hcdi).run hcalls

theorem run_cdiSynced_socketDriver :
    socketDriver.cpuAllocationStore.allocations = ∅ ∧ socketDriver.cdiDevices = ∅ ∧
      (∀ call ∈ [KubeletCall.prepare [(socketClaim, none)]], call.CdiSucceeds) ∧
      CDISynced takeFirstEnv (socketDriver.run takeFirstEnv [.prepare [(socketClaim, none)]]) :=
  have hcalls : ∀ call ∈ [KubeletCall.prepare [(socketClaim, none)]], call.CdiSucceeds := by
    simp [KubeletCall.CdiSucceeds]
  ⟨rfl, rfl, hcalls, run_cdiSynced takeFirstEnv socketDriver rfl rfl _ hcalls⟩

/-! ## Preparing and unpreparing -/

/-- Unpreparing a claim right after preparing it, with a successful `RemoveDevice`, restores
    the driver when it held neither the claim's UID nor its CDI device: whether the claim did
    not resolve, resolved and was written, or resolved and failed its `AddDevice`. -/
theorem unprepareResourceClaim_prepareResourceClaim (env : Env) (cp : CPUDriver)
    (claim : ResourceClaim) (cdiErr : Option String)
    (hstore : claim.uid ∉ cp.cpuAllocationStore.allocations)
    (hcdi : getCDIDeviceName claim.uid ∉ cp.cdiDevices) :
    ((cp.prepareResourceClaim env claim cdiErr).2.unprepareResourceClaim
      ⟨claim.«namespace», claim.name, claim.uid⟩ none).2 = cp := by
  cases hc : cp.claimCPUSet env claim with
  | error err =>
    rw [CPUDriver.prepareResourceClaim_of_error hc]
    simp [CPUDriver.unprepareResourceClaim, CPUAllocationStore.removeResourceClaimAllocation,
      erase_of_not_mem hstore, erase_of_not_mem hcdi]
  | ok S =>
    rw [(CPUDriver.prepareResourceClaim_of_ok hc cdiErr).1]
    cases cdiErr <;> simp [CPUDriver.unprepareResourceClaim, CPUAllocationStore.addResourceClaimAllocation,
      CPUAllocationStore.removeResourceClaimAllocation, erase_insert_of_not_mem _ hstore,
      erase_insert_of_not_mem _ hcdi, erase_of_not_mem hcdi]

theorem unprepareResourceClaim_prepareResourceClaim_socketDriver :
    socketClaim.uid ∉ socketDriver.cpuAllocationStore.allocations ∧
      getCDIDeviceName socketClaim.uid ∉ socketDriver.cdiDevices ∧
      ((socketDriver.prepareResourceClaim takeFirstEnv socketClaim none).2.unprepareResourceClaim
        ⟨socketClaim.«namespace», socketClaim.name, socketClaim.uid⟩ none).2 = socketDriver :=
  ⟨by decide, by decide, unprepareResourceClaim_prepareResourceClaim takeFirstEnv socketDriver socketClaim
    none (by decide) (by decide)⟩

end DraDriverCpu
