import Mathlib

/-!
# CPU descriptors, topologies and CPU sets

The device managers read the node's CPU topology (`pkg/cpuinfo`) and compute with
`k8s.io/utils/cpuset`; neither package is among the sources. Both are modelled from the
spec (§3, "Topology" and "CPU set") and from the calls the managers make:

* `cpuset.CPUSet` is a finite set of integer CPU IDs; `List()` enumerates it ascending.
* `CPUDetails` is a Go map from CPU ID to `CPUInfo`. It is an `AList`: its keys are
  distinct, and the order of its entries is one iteration order of the Go map, so a
  statement over every `CPUDetails` is a statement over every iteration order.
* `Sockets()`, `NUMANodes()`, `CPUsInSockets` and `CPUsInNUMANodes` are one query each
  over a coordinate field of `CPUInfo` (`CPUDetails.ids` and `CPUDetails.cpusWith`).

Results:
* `CPUDetails.mem_cpusWith`, `CPUDetails.mem_ids`: membership in the two queries.
* `CPUDetails.sum_card_cpusWith_sdiff`: the CPU sets of the coordinates partition the
  topology's CPUs, also after removing any reserved set.
-/

namespace DraDriverCpu

/-- `cpuset.CPUSet`: an immutable set of CPU IDs (Go `int`). -/
abbrev CPUSet := Finset ℤ

/-- `CPUSet.List()`: the CPU IDs in ascending order. Sorting by insertion keeps it
    structurally recursive, so that it evaluates by `decide`. -/
def CPUSet.list (s : CPUSet) : List ℤ :=
  Quot.liftOn s.val (fun l => l.insertionSort (· ≤ ·)) fun a b h =>
    List.eq_of_perm_of_sorted
      ((List.perm_insertionSort _ a).trans (h.trans (List.perm_insertionSort _ b).symm))
      (List.sorted_insertionSort _ a) (List.sorted_insertionSort _ b)

theorem CPUSet.mem_list {s : CPUSet} {x : ℤ} : x ∈ s.list ↔ x ∈ s := by
  rcases s with ⟨⟨l⟩, _⟩
  exact (List.perm_insertionSort _ l).mem_iff

theorem CPUSet.list_nodup (s : CPUSet) : s.list.Nodup := by
  rcases s with ⟨⟨l⟩, hl⟩
  exact (List.perm_insertionSort _ l).nodup_iff.mpr hl

theorem CPUSet.length_list (s : CPUSet) : s.list.length = s.card := by
  rcases s with ⟨⟨l⟩, _⟩
  exact (List.perm_insertionSort _ l).length_eq

theorem CPUSet.list_sorted (s : CPUSet) : s.list.Sorted (· ≤ ·) := by
  rcases s with ⟨⟨l⟩, _⟩
  exact List.sorted_insertionSort _ l

/-- Modelled from the spec: `cpuinfo.CPUInfo`, the facts about one logical CPU. The zero
    value (`default`) is the Go zero value, which a lookup of an absent key returns.
    `coreType` is the text `CoreType.String()` gives. -/
structure CPUInfo where
  cpuID : ℤ
  coreID : ℤ
  socketID : ℤ
  numaNodeID : ℤ
  uncoreCacheID : ℤ
  siblingCpuID : ℤ
  coreType : String
  deriving DecidableEq, Repr, Inhabited

/-- Modelled from the spec: `CPUDetails`, the map from CPU ID to `CPUInfo`. -/
abbrev CPUDetails := AList (fun _ : ℤ => CPUInfo)

/-- Modelled from the spec: `cpuinfo.CPUTopology`. -/
structure CPUTopology where
  smtEnabled : Bool
  cpuDetails : CPUDetails

namespace CPUDetails

variable (d : CPUDetails)

/-- `CPUDetails[k]`: the entry of `k`, or the zero value. -/
def get (k : ℤ) : CPUInfo := (d.lookup k).getD default

/-- The CPU IDs of the topology (the keys of the map). -/
def cpus : CPUSet := d.keys.toFinset

/-- The values of the coordinate `f` over all CPUs: `Sockets()` for `f = socketID`,
    `NUMANodes()` for `f = numaNodeID`. -/
def ids (f : CPUInfo → ℤ) : CPUSet := (d.entries.map fun e => f e.2).toFinset

/-- The CPUs whose coordinate `f` is `id`: `CPUsInSockets(id)` for `f = socketID`,
    `CPUsInNUMANodes(id)` for `f = numaNodeID`. -/
def cpusWith (f : CPUInfo → ℤ) (id : ℤ) : CPUSet :=
  ((d.entries.filter fun e => f e.2 = id).map Sigma.fst).toFinset

/-- `Sockets()`. -/
def sockets : CPUSet := d.ids CPUInfo.socketID

/-- `NUMANodes()`. -/
def numaNodes : CPUSet := d.ids CPUInfo.numaNodeID

/-- `CPUsInSockets(id)`. -/
def cpusInSockets (id : ℤ) : CPUSet := d.cpusWith CPUInfo.socketID id

/-- `CPUsInNUMANodes(id)`. -/
def cpusInNUMANodes (id : ℤ) : CPUSet := d.cpusWith CPUInfo.numaNodeID id

variable {d}

theorem get_of_mem_entries {k : ℤ} {info : CPUInfo} (h : ⟨k, info⟩ ∈ d.entries) :
    d.get k = info := by
  rw [get, Option.mem_def.mp (AList.mem_lookup_iff.mpr h)]
  rfl

theorem mem_cpus {k : ℤ} : k ∈ d.cpus ↔ ∃ info, (⟨k, info⟩ : Σ _ : ℤ, CPUInfo) ∈ d.entries := by
  simp [cpus, AList.keys, List.keys, List.mem_map]

theorem mem_cpusWith {f : CPUInfo → ℤ} {id k : ℤ} :
    k ∈ d.cpusWith f id ↔ k ∈ d.cpus ∧ f (d.get k) = id := by
  simp only [cpusWith, List.mem_toFinset, List.mem_map, List.mem_filter, decide_eq_true_eq,
    mem_cpus]
  constructor
  · rintro ⟨⟨k, info⟩, ⟨he, hf⟩, rfl⟩
    exact ⟨⟨info, he⟩, by rwa [get_of_mem_entries he]⟩
  · rintro ⟨⟨info, he⟩, hf⟩
    exact ⟨⟨k, info⟩, ⟨he, by rwa [get_of_mem_entries he] at hf⟩, rfl⟩

theorem mem_ids {f : CPUInfo → ℤ} {x : ℤ} : x ∈ d.ids f ↔ ∃ k ∈ d.cpus, f (d.get k) = x := by
  simp only [ids, List.mem_toFinset, List.mem_map, mem_cpus]
  constructor
  · rintro ⟨⟨k, info⟩, he, rfl⟩
    exact ⟨k, ⟨info, he⟩, by rw [get_of_mem_entries he]⟩
  · rintro ⟨k, ⟨info, he⟩, rfl⟩
    exact ⟨⟨k, info⟩, he, by rw [get_of_mem_entries he]⟩

theorem cpusWith_subset (f : CPUInfo → ℤ) (id : ℤ) : d.cpusWith f id ⊆ d.cpus :=
  fun _ hk => (mem_cpusWith.mp hk).1

/-- Distinct coordinates hold distinct CPUs. -/
theorem disjoint_cpusWith (d : CPUDetails) (f : CPUInfo → ℤ) {id id' : ℤ} (h : id ≠ id') :
    Disjoint (d.cpusWith f id) (d.cpusWith f id') :=
  Finset.disjoint_left.mpr fun _ hx hx' => h ((mem_cpusWith.mp hx).2.symm.trans (mem_cpusWith.mp hx').2)

/-- The coordinate classes partition the CPUs, also after removing the reserved set `R`. -/
theorem sum_card_cpusWith_sdiff (f : CPUInfo → ℤ) (R : CPUSet) :
    ∑ id ∈ d.ids f, (d.cpusWith f id \ R).card = (d.cpus \ R).card := by
  have hmaps : ∀ k ∈ d.cpus \ R, f (d.get k) ∈ d.ids f :=
    fun k hk => mem_ids.mpr ⟨k, (Finset.mem_sdiff.mp hk).1, rfl⟩
  rw [Finset.card_eq_sum_card_fiberwise hmaps]
  refine Finset.sum_congr rfl fun id _ => congrArg Finset.card ?_
  ext k
  simp only [Finset.mem_sdiff, Finset.mem_filter, mem_cpusWith]
  tauto

end CPUDetails

end DraDriverCpu
