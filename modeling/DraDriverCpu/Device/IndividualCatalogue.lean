import DraDriverCpu.Device.IndividualCore

/-!
# The individual-core catalogue

What `IndividualCoreManager.CreateSlices` publishes, and what `AllocateCPUs` resolves
against it.

The catalogue order (`Spec.catalogueOrder`): the non-reserved CPU IDs sorted by
`(g(c), c)`, where `g(c) = min(c, sibling c)` when `c` has a sibling (not `-1`) that is
not reserved, and `g(c) = c` otherwise. The grouping loop of `CreateSlices` produces this
order on every `WellFormed` topology in which no CPU is numbered `-1`: the code reads a
sibling of `-1` as "no sibling" (part_002 line 80), and CPU IDs are non-negative.

Results:
* `createSlices_catalogue`: the published devices are `individualDevice i` of the
  `i`-th CPU of `Spec.catalogueOrder`, and the index maps each name to that CPU.
* `allocateCPUs_createSlices`: `AllocateCPUs` fails exactly when a result of this driver
  names an unpublished device; otherwise it returns the `dra.cpu/cpuID` attributes of the
  named devices, one CPU per distinct name.
-/

namespace DraDriverCpu

/-- The topologies of the catalogue law: every map key is its entry's CPU ID, and each
    sibling is `-1` or another CPU of the topology whose sibling is this one. -/
structure WellFormed (topo : CPUTopology) : Prop where
  key_eq : ∀ e ∈ topo.cpuDetails.entries, e.2.cpuID = e.1
  sibling : ∀ k ∈ topo.cpuDetails.cpus, (topo.cpuDetails.get k).siblingCpuID = -1 ∨
    ((topo.cpuDetails.get k).siblingCpuID ≠ k ∧
      (topo.cpuDetails.get k).siblingCpuID ∈ topo.cpuDetails.cpus ∧
      (topo.cpuDetails.get (topo.cpuDetails.get k).siblingCpuID).siblingCpuID = k)

instance (topo : CPUTopology) : Decidable (WellFormed topo) :=
  decidable_of_iff (_ ∧ _) ⟨fun ⟨a, b⟩ => ⟨a, b⟩, fun ⟨a, b⟩ => ⟨a, b⟩⟩

namespace Spec

variable (topo : CPUTopology) (R : CPUSet)

/-- `g(c)`: the lowest CPU of `c`'s core group. -/
def groupLeader (c : ℤ) : ℤ :=
  if (topo.cpuDetails.get c).siblingCpuID ≠ -1 ∧ (topo.cpuDetails.get c).siblingCpuID ∉ R then
    min c (topo.cpuDetails.get c).siblingCpuID
  else c

/-- The sort key `(g(c), c)`, lexicographically ordered. -/
def catalogueKey (c : ℤ) : ℤ ×ₗ ℤ := toLex (groupLeader topo R c, c)

/-- `(g(a), a) ≤ (g(b), b)`. -/
def CatalogueLE (a b : ℤ) : Prop := catalogueKey topo R a ≤ catalogueKey topo R b

instance : DecidableRel (CatalogueLE topo R) := fun a b =>
  decidable_of_iff _ (Prod.Lex.le_iff (groupLeader topo R a, a) (groupLeader topo R b, b)).symm

/-- The non-reserved CPU IDs sorted by `(g(c), c)`. -/
def catalogueOrder : List ℤ :=
  (topo.cpuDetails.keys.filter (· ∉ R)).insertionSort (CatalogueLE topo R)

theorem catalogueKey_injective : Function.Injective (catalogueKey topo R) :=
  fun _ _ h => congrArg Prod.snd (toLex.injective h)

theorem mem_catalogueOrder {c : ℤ} : c ∈ catalogueOrder topo R ↔ c ∈ topo.cpuDetails.cpus \ R := by
  simp [catalogueOrder, List.mem_insertionSort, CPUDetails.cpus]

theorem catalogueOrder_nodup : (catalogueOrder topo R).Nodup :=
  (List.perm_insertionSort _ _).nodup_iff.mpr (topo.cpuDetails.keys_nodup.filter _)

theorem length_catalogueOrder : (catalogueOrder topo R).length = (topo.cpuDetails.cpus \ R).card := by
  rw [← List.toFinset_card_of_nodup (catalogueOrder_nodup topo R)]
  congr 1
  ext c
  rw [List.mem_toFinset, mem_catalogueOrder]

theorem catalogueOrder_sorted : (catalogueOrder topo R).Sorted (CatalogueLE topo R) := by
  haveI : IsTotal ℤ (CatalogueLE topo R) := ⟨fun a b => le_total (catalogueKey topo R a) _⟩
  haveI : IsTrans ℤ (CatalogueLE topo R) :=
    ⟨fun a b c (h₁ : catalogueKey topo R a ≤ _) h₂ => le_trans h₁ h₂⟩
  exact List.sorted_insertionSort _ _

end Spec

/-! ## The grouping loop -/

section Grouping

variable {topo : CPUTopology} {R : CPUSet}

/-- `c` is grouped with its sibling: the sibling exists and is not reserved. -/
def Paired (topo : CPUTopology) (R : CPUSet) (c : ℤ) : Prop :=
  (topo.cpuDetails.get c).siblingCpuID ≠ -1 ∧ (topo.cpuDetails.get c).siblingCpuID ∉ R

instance : DecidablePred (Paired topo R) := fun _ => instDecidableAnd

/-- `c` opens a core group: it is not the higher CPU of a grouped pair. -/
def Opens (topo : CPUTopology) (R : CPUSet) (c : ℤ) : Prop :=
  ¬(Paired topo R c ∧ (topo.cpuDetails.get c).siblingCpuID < c)

instance : DecidablePred (Opens topo R) := fun _ => instDecidableNot

/-- The CPUs of the group `c` opens, in emission order. -/
def groupOf (topo : CPUTopology) (R : CPUSet) (c : ℤ) : List ℤ :=
  if Paired topo R c then [c, (topo.cpuDetails.get c).siblingCpuID] else [c]

theorem mem_groupOf {c x : ℤ} :
    x ∈ groupOf topo R c ↔ x = c ∨ Paired topo R c ∧ x = (topo.cpuDetails.get c).siblingCpuID := by
  unfold groupOf
  split_ifs with hp <;> simp [hp]

theorem groupLeader_eq (c : ℤ) :
    Spec.groupLeader topo R c =
      if Paired topo R c then min c (topo.cpuDetails.get c).siblingCpuID else c := rfl

variable (hwf : WellFormed topo)
include hwf

theorem WellFormed.get_cpuID {k : ℤ} (hk : k ∈ topo.cpuDetails.cpus) :
    (topo.cpuDetails.get k).cpuID = k := by
  obtain ⟨info, he⟩ := CPUDetails.mem_cpus.mp hk
  rw [CPUDetails.get_of_mem_entries he]
  exact hwf.key_eq _ he

/-- A present sibling is another CPU of the topology, whose sibling is `k`. -/
theorem WellFormed.sibling_sibling {k : ℤ} (hk : k ∈ topo.cpuDetails.cpus)
    (hs : (topo.cpuDetails.get k).siblingCpuID ≠ -1) :
    (topo.cpuDetails.get k).siblingCpuID ≠ k ∧
      (topo.cpuDetails.get k).siblingCpuID ∈ topo.cpuDetails.cpus ∧
      (topo.cpuDetails.get (topo.cpuDetails.get k).siblingCpuID).siblingCpuID = k :=
  (hwf.sibling k hk).resolve_left hs

/-- If `x` is grouped with `c`, then `c` is grouped with `x`. -/
theorem sibling_eq_of_paired {x c : ℤ} (hx : x ∈ topo.cpuDetails.cpus) (hxp : Paired topo R x)
    (h : (topo.cpuDetails.get x).siblingCpuID = c) : (topo.cpuDetails.get c).siblingCpuID = x := by
  obtain ⟨-, -, hss⟩ := hwf.sibling_sibling hx hxp.1
  rwa [h] at hss

variable (hid : -1 ∉ topo.cpuDetails.cpus)
include hid

/-- The partner of a grouped CPU is grouped back with it. -/
theorem paired_sibling {k : ℤ} (hk : k ∈ topo.cpuDetails.cpus) (hR : k ∉ R)
    (hp : Paired topo R k) :
    Paired topo R (topo.cpuDetails.get k).siblingCpuID ∧
      (topo.cpuDetails.get (topo.cpuDetails.get k).siblingCpuID).siblingCpuID = k := by
  obtain ⟨-, -, hss⟩ := hwf.sibling_sibling hk hp.1
  exact ⟨⟨by rw [hss]; exact fun h => hid (h ▸ hk), by rwa [hss]⟩, hss⟩

/-- Every CPU of the group an opener starts has that opener as its `g`. -/
theorem groupLeader_of_mem_groupOf {c x : ℤ} (hc : c ∈ topo.cpuDetails.cpus) (hR : c ∉ R)
    (ho : Opens topo R c) (hx : x ∈ groupOf topo R c) : Spec.groupLeader topo R x = c := by
  rcases mem_groupOf.mp hx with rfl | ⟨hp, rfl⟩
  · rw [groupLeader_eq]
    split_ifs with hp
    · have : ¬(topo.cpuDetails.get x).siblingCpuID < x := fun h => ho ⟨hp, h⟩
      omega
    · rfl
  · have hlt : ¬(topo.cpuDetails.get c).siblingCpuID < c := fun h => ho ⟨hp, h⟩
    obtain ⟨hsp, hss⟩ := paired_sibling hwf hid hc hR hp
    rw [groupLeader_eq, if_pos hsp, hss]; omega

/-- The CPUs the grouping loop has still to visit: entries of the topology, not reserved,
    in ascending CPU ID. -/
structure Pending (topo : CPUTopology) (R : CPUSet) (L : List CPUInfo) : Prop where
  valid : ∀ c ∈ L,
    topo.cpuDetails.get c.cpuID = c ∧ c.cpuID ∈ topo.cpuDetails.cpus ∧ c.cpuID ∉ R
  ascending : L.Pairwise fun a b => a.cpuID < b.cpuID

/-- The invariant of the grouping loop: a CPU still to visit is processed exactly when it
    is grouped with a lower sibling that the loop has already visited. -/
def Marked (topo : CPUTopology) (R : CPUSet) (P : CPUSet) (L : List CPUInfo) : Prop :=
  ∀ c ∈ L, c.cpuID ∈ P ↔ Paired topo R c.cpuID ∧
    (topo.cpuDetails.get c.cpuID).siblingCpuID < c.cpuID ∧
    ∀ y ∈ L, y.cpuID ≠ (topo.cpuDetails.get c.cpuID).siblingCpuID

omit hwf hid in
/-- Dropping the visited CPU `c` from the invariant, at a CPU `x` not grouped with it. -/
theorem Marked.tail_iff {P : CPUSet} {c x : CPUInfo} {L : List CPUInfo}
    (hm : Marked topo R P (c :: L)) (hx : x ∈ L)
    (hc : Paired topo R x.cpuID → (topo.cpuDetails.get x.cpuID).siblingCpuID ≠ c.cpuID) :
    x.cpuID ∈ P ↔ Paired topo R x.cpuID ∧ (topo.cpuDetails.get x.cpuID).siblingCpuID < x.cpuID ∧
      ∀ y ∈ L, y.cpuID ≠ (topo.cpuDetails.get x.cpuID).siblingCpuID := by
  rw [hm x (List.mem_cons_of_mem _ hx), List.forall_mem_cons]
  exact ⟨fun ⟨h1, h2, _, h3⟩ => ⟨h1, h2, h3⟩, fun ⟨h1, h2, h3⟩ => ⟨h1, h2, (hc h1).symm, h3⟩⟩

omit hwf hid in
theorem Marked.insert {P : CPUSet} {L : List CPUInfo} {k : ℤ} (hm : Marked topo R P L)
    (hk : ∀ x ∈ L, x.cpuID ≠ k) : Marked topo R (insert k P) L := by
  intro x hx
  rw [Finset.mem_insert, ← hm x hx]
  exact or_iff_right (hk x hx)

/-- One visit of the grouping loop, on a CPU that has not been processed: the group it
    opens is appended, and the invariant holds for the CPUs after it. -/
theorem groupCore_unprocessed (cim : CPUDetails)
    (hcim : ∀ k ∈ topo.cpuDetails.cpus, cim.get k = topo.cpuDetails.get k)
    {c : CPUInfo} {L : List CPUInfo} {st : CoreGrouping} (hL : Pending topo R (c :: L))
    (hm : Marked topo R st.processedCpus (c :: L)) (hp : c.cpuID ∉ st.processedCpus) :
    (groupCore R cim st c).coreGroups =
      st.coreGroups ++ [(groupOf topo R c.cpuID).map topo.cpuDetails.get] ∧
    Marked topo R (groupCore R cim st c).processedCpus L := by
  obtain ⟨hcget, hck, hcR⟩ := hL.valid c (List.mem_cons_self _ _)
  have hlt : ∀ y ∈ L, c.cpuID < y.cpuID := (List.pairwise_cons.mp hL.ascending).1
  have hxk : ∀ x ∈ L, x.cpuID ∈ topo.cpuDetails.cpus :=
    fun x hx => (hL.valid x (List.mem_cons_of_mem _ hx)).2.1
  have hgroup : groupOf topo R c.cpuID =
      if Paired topo R c.cpuID then [c.cpuID, c.siblingCpuID] else [c.cpuID] := by
    rw [groupOf, hcget]
  have hpaired : Paired topo R c.cpuID ↔ ¬(c.siblingCpuID = -1 ∨ c.siblingCpuID ∈ R) := by
    rw [Paired, hcget]; tauto
  -- a later CPU grouped with `c` is `c`'s sibling
  have hback : ∀ x ∈ L, Paired topo R x.cpuID →
      (topo.cpuDetails.get x.cpuID).siblingCpuID = c.cpuID → c.siblingCpuID = x.cpuID :=
    fun x hx hxp hsx => hcget ▸ sibling_eq_of_paired hwf (hxk x hx) hxp hsx
  unfold groupCore
  rw [if_neg hp, hgroup]
  by_cases hs : c.siblingCpuID = -1 ∨ c.siblingCpuID ∈ R
  · have hnp : ¬Paired topo R c.cpuID := fun h => hpaired.mp h hs
    rw [if_pos hs, if_neg hnp]
    refine ⟨by simp [hcget], Marked.insert (fun x hx => ?_) fun x hx => (hlt x hx).ne'⟩
    refine hm.tail_iff hx fun hxp hsx => hnp (hpaired.mpr ?_)
    rw [hback x hx hxp hsx]
    exact not_or.mpr ⟨fun h => hid (h ▸ hxk x hx), (hL.valid x (List.mem_cons_of_mem _ hx)).2.2⟩
  · have hcp : Paired topo R c.cpuID := hpaired.mpr hs
    rw [if_neg hs, if_pos hcp]
    obtain ⟨hsp, hss⟩ := paired_sibling hwf hid hck hcR hcp
    obtain ⟨-, hsk, -⟩ := hwf.sibling_sibling hck hcp.1
    rw [hcget] at hsp hss hsk
    refine ⟨by simp [hcget, hcim _ hsk], fun x hx => ?_⟩
    simp only [Finset.mem_insert]
    by_cases hxs : x.cpuID = c.siblingCpuID
    · rw [hxs, hss]
      exact iff_of_true (Or.inl rfl) ⟨hsp, hxs ▸ hlt x hx, fun y hy => (hlt y hy).ne'⟩
    · rw [or_iff_right hxs, or_iff_right (hlt x hx).ne']
      exact hm.tail_iff hx fun hxp hsx => hxs (hback x hx hxp hsx).symm

/-- The grouping loop appends, in visiting order, the group of every CPU that opens one. -/
theorem groupCore_foldl (cim : CPUDetails)
    (hcim : ∀ k ∈ topo.cpuDetails.cpus, cim.get k = topo.cpuDetails.get k) :
    ∀ (L : List CPUInfo) (st : CoreGrouping), Pending topo R L →
      Marked topo R st.processedCpus L →
      (L.foldl (groupCore R cim) st).coreGroups = st.coreGroups ++
        (L.filter fun c => Opens topo R c.cpuID).map
          fun c => (groupOf topo R c.cpuID).map topo.cpuDetails.get
  | [], st, _, _ => by simp
  | c :: L, st, hL, hm => by
    have hL' : Pending topo R L := ⟨fun x hx => hL.valid x (List.mem_cons_of_mem _ hx),
      (List.pairwise_cons.mp hL.ascending).2⟩
    have hcget := (hL.valid c (List.mem_cons_self _ _)).1
    have hlt : ∀ y ∈ L, c.cpuID < y.cpuID := (List.pairwise_cons.mp hL.ascending).1
    rw [List.foldl_cons]
    by_cases hp : c.cpuID ∈ st.processedCpus
    · obtain ⟨hcp, hcs, -⟩ := (hm c (List.mem_cons_self _ _)).mp hp
      have hno : ¬Opens topo R c.cpuID := fun ho => ho ⟨hcp, hcs⟩
      have hm' : Marked topo R st.processedCpus L := fun x hx =>
        hm.tail_iff hx fun hxp hsx => by
          have := sibling_eq_of_paired hwf (hL'.valid x hx).2.1 hxp hsx
          have := hlt x hx
          omega
      rw [show groupCore R cim st c = st from if_pos hp, groupCore_foldl cim hcim L st hL' hm',
        List.filter_cons_of_neg (by simpa using hno)]
    · have ho : Opens topo R c.cpuID := fun ⟨hcp, hcs⟩ =>
        hp <| (hm c (List.mem_cons_self _ _)).mpr ⟨hcp, hcs, fun y hy hys => by
          rcases List.mem_cons.mp hy with rfl | hy
          · omega
          · have := hlt y hy; omega⟩
      obtain ⟨h1, h2⟩ := groupCore_unprocessed hwf hid cim hcim hL hm hp
      rw [groupCore_foldl cim hcim L _ hL' h2, h1, List.filter_cons_of_pos (by simpa using ho)]
      simp

end Grouping

/-! ## The loops of `CreateSlices` on a well-formed topology -/

section Loops

variable {mgr : IndividualCoreManager} (hwf : WellFormed mgr.cpuTopology)
include hwf

theorem allCPUs_map_cpuID : mgr.allCPUs.map CPUInfo.cpuID = mgr.cpuTopology.cpuDetails.keys := by
  rw [IndividualCoreManager.allCPUs, List.map_map, AList.keys, List.keys]
  exact List.map_congr_left fun e he => hwf.key_eq e he

theorem mem_allCPUs {c : CPUInfo} (hc : c ∈ mgr.allCPUs) :
    mgr.cpuTopology.cpuDetails.get c.cpuID = c ∧ c.cpuID ∈ mgr.cpuTopology.cpuDetails.cpus := by
  obtain ⟨⟨k, info⟩, he, rfl⟩ := List.mem_map.mp hc
  rw [show info.cpuID = k from hwf.key_eq _ he]
  exact ⟨CPUDetails.get_of_mem_entries he, CPUDetails.mem_cpus.mpr ⟨info, he⟩⟩

theorem cpuInfoMap_get {k : ℤ} (hk : k ∈ mgr.cpuTopology.cpuDetails.cpus) :
    mgr.cpuInfoMap.get k = mgr.cpuTopology.cpuDetails.get k := by
  obtain ⟨info, he⟩ := CPUDetails.mem_cpus.mp hk
  have hinfo : info ∈ mgr.allCPUs := List.mem_map.mpr ⟨_, he, rfl⟩
  have hid : info.cpuID = k := hwf.key_eq _ he
  rw [CPUDetails.get_of_mem_entries he, CPUDetails.get, ← hid,
    IndividualCoreManager.cpuInfoMap, foldl_insert_lookup CPUInfo.cpuID (fun x => x) _
      ((allCPUs_map_cpuID hwf).symm ▸ mgr.cpuTopology.cpuDetails.keys_nodup) _ hinfo]
  rfl

theorem availableCPUs_pending : Pending mgr.cpuTopology mgr.reservedCPUs mgr.availableCPUs := by
  have hperm := List.perm_insertionSort (fun a b : CPUInfo => a.cpuID ≤ b.cpuID)
    (mgr.allCPUs.filter fun cpu => cpu.cpuID ∉ mgr.reservedCPUs)
  have hmem : ∀ c ∈ mgr.availableCPUs, c ∈ mgr.allCPUs ∧ c.cpuID ∉ mgr.reservedCPUs := by
    intro c hc
    simpa using hperm.subset hc
  refine ⟨fun c hc => ⟨(mem_allCPUs hwf (hmem c hc).1).1, (mem_allCPUs hwf (hmem c hc).1).2,
    (hmem c hc).2⟩, ?_⟩
  haveI : IsTotal CPUInfo fun a b => a.cpuID ≤ b.cpuID := ⟨fun a b => le_total _ _⟩
  haveI : IsTrans CPUInfo fun a b => a.cpuID ≤ b.cpuID := ⟨fun _ _ _ => le_trans⟩
  have hsorted := List.sorted_insertionSort (fun a b : CPUInfo => a.cpuID ≤ b.cpuID)
    (mgr.allCPUs.filter fun cpu => cpu.cpuID ∉ mgr.reservedCPUs)
  have hnodup : (mgr.availableCPUs.map CPUInfo.cpuID).Nodup :=
    (hperm.map _).nodup_iff.mpr (((allCPUs_map_cpuID hwf).symm ▸
      mgr.cpuTopology.cpuDetails.keys_nodup).sublist ((List.filter_sublist _).map _))
  exact (hsorted.and (List.pairwise_map.mp hnodup)).imp fun h => lt_of_le_of_ne h.1 h.2

theorem exists_mem_availableCPUs {k : ℤ} (hk : k ∈ mgr.cpuTopology.cpuDetails.cpus)
    (hR : k ∉ mgr.reservedCPUs) : ∃ c ∈ mgr.availableCPUs, c.cpuID = k := by
  obtain ⟨info, he⟩ := CPUDetails.mem_cpus.mp hk
  have hid : info.cpuID = k := hwf.key_eq _ he
  refine ⟨info, ?_, hid⟩
  rw [IndividualCoreManager.availableCPUs, List.mem_insertionSort, List.mem_filter]
  exact ⟨List.mem_map.mpr ⟨_, he, rfl⟩, by simpa [hid] using hR⟩

omit hwf in
theorem firstCpuID_groupOf (c : CPUInfo) :
    firstCpuID ((groupOf mgr.cpuTopology mgr.reservedCPUs c.cpuID).map mgr.cpuTopology.cpuDetails.get) =
      (mgr.cpuTopology.cpuDetails.get c.cpuID).cpuID := by
  unfold groupOf; split <;> rfl

variable (hid : -1 ∉ mgr.cpuTopology.cpuDetails.cpus)
include hid

/-- The available CPUs that open a group. -/
def IndividualCoreManager.openers (mgr : IndividualCoreManager) : List CPUInfo :=
  mgr.availableCPUs.filter fun c => Opens mgr.cpuTopology mgr.reservedCPUs c.cpuID

/-- The CPU IDs in the order the device loop visits them. -/
def IndividualCoreManager.visitOrder (mgr : IndividualCoreManager) : List ℤ :=
  mgr.openers.flatMap fun c => groupOf mgr.cpuTopology mgr.reservedCPUs c.cpuID

theorem coreGroups_eq : mgr.coreGroups = mgr.openers.map
    fun c => (groupOf mgr.cpuTopology mgr.reservedCPUs c.cpuID).map mgr.cpuTopology.cpuDetails.get := by
  have hA := availableCPUs_pending hwf
  have hm0 : Marked mgr.cpuTopology mgr.reservedCPUs ∅ mgr.availableCPUs := by
    intro c hc
    simp only [Finset.not_mem_empty, false_iff]
    rintro ⟨hcp, -, hall⟩
    obtain ⟨-, hsk, -⟩ := hwf.sibling_sibling (hA.valid c hc).2.1 hcp.1
    obtain ⟨y, hy, hys⟩ := exists_mem_availableCPUs hwf hsk hcp.2
    exact hall y hy hys
  rw [IndividualCoreManager.coreGroups, groupCore_foldl hwf hid _ (fun k hk => cpuInfoMap_get hwf hk)
    _ _ hA hm0, List.nil_append]
  refine List.Sorted.insertionSort_eq (List.pairwise_map.mpr
    ((hA.ascending.filter _).imp_of_mem fun ha hb h => ?_))
  rw [firstCpuID_groupOf, firstCpuID_groupOf, (hA.valid _ (List.mem_of_mem_filter ha)).1,
    (hA.valid _ (List.mem_of_mem_filter hb)).1]
  exact h.le

theorem coreGroups_flatten :
    mgr.coreGroups.flatten = mgr.visitOrder.map mgr.cpuTopology.cpuDetails.get := by
  rw [coreGroups_eq hwf hid, IndividualCoreManager.visitOrder, List.map_flatMap, List.flatMap_def]

theorem mem_visitOrder {x : ℤ} :
    x ∈ mgr.visitOrder ↔ x ∈ mgr.cpuTopology.cpuDetails.cpus \ mgr.reservedCPUs := by
  have hA := availableCPUs_pending hwf
  simp only [IndividualCoreManager.visitOrder, IndividualCoreManager.openers, List.mem_flatMap,
    List.mem_filter, decide_eq_true_eq, Finset.mem_sdiff]
  constructor
  · rintro ⟨c, ⟨hc, -⟩, hx⟩
    obtain ⟨-, hck, hcR⟩ := hA.valid c hc
    rcases mem_groupOf.mp hx with rfl | ⟨hcp, rfl⟩
    · exact ⟨hck, hcR⟩
    · exact ⟨(hwf.sibling_sibling hck hcp.1).2.1, hcp.2⟩
  · rintro ⟨hxk, hxR⟩
    obtain ⟨c, hc, rfl⟩ := exists_mem_availableCPUs hwf hxk hxR
    by_cases ho : Opens mgr.cpuTopology mgr.reservedCPUs c.cpuID
    · exact ⟨c, ⟨hc, ho⟩, mem_groupOf.mpr (.inl rfl)⟩
    · obtain ⟨hcp, hcs⟩ := not_not.mp ho
      obtain ⟨hsp, hss⟩ := paired_sibling hwf hid hxk hxR hcp
      obtain ⟨-, hsk, -⟩ := hwf.sibling_sibling hxk hcp.1
      obtain ⟨y, hy, hys⟩ := exists_mem_availableCPUs hwf hsk hcp.2
      refine ⟨y, ⟨hy, fun ⟨_, h⟩ => ?_⟩, ?_⟩
      · rw [hys, hss] at h; omega
      · exact mem_groupOf.mpr (.inr ⟨hys ▸ hsp, by rw [hys, hss]⟩)

theorem visitOrder_ascending :
    mgr.visitOrder.Pairwise fun a b =>
      Spec.catalogueKey mgr.cpuTopology mgr.reservedCPUs a <
        Spec.catalogueKey mgr.cpuTopology mgr.reservedCPUs b := by
  have hA := availableCPUs_pending hwf
  have hlead : ∀ c ∈ mgr.openers, ∀ x ∈ groupOf mgr.cpuTopology mgr.reservedCPUs c.cpuID,
      Spec.groupLeader mgr.cpuTopology mgr.reservedCPUs x = c.cpuID := fun c hc x hx =>
    have hv := hA.valid c (List.mem_of_mem_filter hc)
    groupLeader_of_mem_groupOf hwf hid hv.2.1 hv.2.2 (by simpa using (List.mem_filter.mp hc).2) hx
  refine List.pairwise_flatMap.mpr ⟨fun c hc => ?_, (hA.ascending.filter _).imp_of_mem
    fun ha hb h x hx y hy => ?_⟩
  · unfold groupOf
    split
    · rename_i hcp
      have ho : Opens mgr.cpuTopology mgr.reservedCPUs c.cpuID := by
        simpa using (List.mem_filter.mp hc).2
      have hne := (hwf.sibling_sibling (hA.valid c (List.mem_of_mem_filter hc)).2.1 hcp.1).1
      have hl1 := hlead c hc c.cpuID (mem_groupOf.mpr (.inl rfl))
      have hl2 := hlead c hc _ (mem_groupOf.mpr (.inr ⟨hcp, rfl⟩))
      simp only [List.pairwise_cons, List.mem_singleton, forall_eq, List.not_mem_nil,
        IsEmpty.forall_iff, implies_true, List.Pairwise.nil, and_true, Spec.catalogueKey,
        Prod.Lex.lt_iff, hl1, hl2, lt_irrefl, false_or, true_and]
      exact lt_of_le_of_ne (not_lt.mp fun h => ho ⟨hcp, h⟩) hne.symm
    · exact List.pairwise_singleton _ _
  · rw [Spec.catalogueKey, Spec.catalogueKey, Prod.Lex.lt_iff, hlead _ ha x hx, hlead _ hb y hy]
    exact Or.inl h

/-- The device loop visits the CPUs in the catalogue order. -/
theorem visitOrder_eq_catalogueOrder :
    mgr.visitOrder = Spec.catalogueOrder mgr.cpuTopology mgr.reservedCPUs := by
  have hasc := visitOrder_ascending hwf hid
  have hperm : mgr.visitOrder.Perm (Spec.catalogueOrder mgr.cpuTopology mgr.reservedCPUs) :=
    (List.perm_ext_iff_of_nodup (hasc.imp ne_of_lt |>.imp fun h e =>
      h (congrArg _ e)) (Spec.catalogueOrder_nodup _ _)).mpr fun x => by
      rw [mem_visitOrder hwf hid, Spec.mem_catalogueOrder]
  haveI : IsAntisymm ℤ (Spec.CatalogueLE mgr.cpuTopology mgr.reservedCPUs) :=
    ⟨fun _ _ h1 h2 => Spec.catalogueKey_injective _ _ (le_antisymm h1 h2)⟩
  have hs : mgr.visitOrder.Sorted (Spec.CatalogueLE mgr.cpuTopology mgr.reservedCPUs) :=
    hasc.imp le_of_lt
  exact List.eq_of_perm_of_sorted hperm hs (Spec.catalogueOrder_sorted _ _)

end Loops

/-! ## The catalogue -/

/-- The catalogue law: device `i` is `individualDevice i` of the `i`-th CPU of the
    catalogue order, and the index maps its name to that CPU. -/
def CatalogueLaw (name : String) (topo : CPUTopology) (R : CPUSet) : Prop :=
  (newIndividualCoreManager name topo R).createSlices.1.flatten =
      (Spec.catalogueOrder topo R).enum.map (fun p => individualDevice p.1 (topo.cpuDetails.get p.2)) ∧
    ∀ p ∈ (Spec.catalogueOrder topo R).enum,
      (newIndividualCoreManager name topo R).createSlices.2.deviceNameToCPUID.lookup
        (cpuDevicePrefix ++ sprintf03d p.1) = some p.2

instance (name : String) (topo : CPUTopology) (R : CPUSet) : Decidable (CatalogueLaw name topo R) :=
  inferInstanceAs (Decidable (_ ∧ _))

/-- On a well-formed topology in which no CPU is numbered `-1`, `CreateSlices` publishes
    the catalogue. -/
theorem createSlices_catalogue (name : String) (topo : CPUTopology) (R : CPUSet)
    (hwf : WellFormed topo) (hid : -1 ∉ topo.cpuDetails.cpus) : CatalogueLaw name topo R := by
  have hflat := @coreGroups_flatten (newIndividualCoreManager name topo R) hwf hid
  rw [visitOrder_eq_catalogueOrder hwf hid] at hflat
  refine ⟨?_, fun ⟨i, c⟩ hp => ?_⟩
  · rw [IndividualCoreManager.createSlices_flatten, hflat, List.enum_map, List.map_map]
    rfl
  · obtain ⟨hi, hc⟩ := List.mem_enum hp
    rw [hc]
    have hlen : i < ((Spec.catalogueOrder topo R).map topo.cpuDetails.get).length := by simpa using hi
    have h := IndividualCoreManager.emitDevices_lookup _ ⟨0, ∅, []⟩ hlen
    rw [Nat.zero_add] at h
    rw [IndividualCoreManager.createSlices_snd_index,
      IndividualCoreManager.emission_index_flatten, hflat]
    refine h.trans (congrArg some ?_)
    simp only [List.get_eq_getElem, List.getElem_map]
    exact hwf.get_cpuID (Finset.mem_sdiff.mp ((Spec.mem_catalogueOrder _ _).mp (List.getElem_mem _))).1

/-- The four CPUs of the spec's example: two cores, siblings `0 ↔ 2` and `1 ↔ 3`. -/
def fourCPUs : CPUTopology :=
  ⟨true, List.toAList
    [⟨0, ⟨0, 0, 0, 0, 0, 2, "performance"⟩⟩, ⟨1, ⟨1, 1, 0, 0, 0, 3, "performance"⟩⟩,
     ⟨2, ⟨2, 0, 0, 0, 0, 0, "performance"⟩⟩, ⟨3, ⟨3, 1, 0, 0, 0, 1, "performance"⟩⟩]⟩

theorem createSlices_catalogue_fourCPUs :
    WellFormed fourCPUs ∧ -1 ∉ fourCPUs.cpuDetails.cpus ∧ CatalogueLaw "dra.cpu" fourCPUs {2} :=
  ⟨by decide, by decide, createSlices_catalogue "dra.cpu" fourCPUs {2} (by decide) (by decide)⟩

/-! ## Resolving claims against the catalogue -/

section Resolve

variable (name : String) (topo : CPUTopology) (R : CPUSet)

/-- The CPUs `CreateSlices` numbers, in device order. -/
def publishedCPUs : List CPUInfo := (newIndividualCoreManager name topo R).coreGroups.flatten

/-- The name of device `j`. -/
def deviceName (j : ℕ) : String := cpuDevicePrefix ++ sprintf03d j

theorem mem_published {dev : Device} :
    dev ∈ (newIndividualCoreManager name topo R).createSlices.1.flatten ↔
      ∃ j, ∃ hj : j < (publishedCPUs name topo R).length,
        dev = individualDevice j ((publishedCPUs name topo R).get ⟨j, hj⟩) := by
  rw [IndividualCoreManager.createSlices_flatten, List.mem_map]
  constructor
  · rintro ⟨⟨j, c⟩, hp, rfl⟩
    obtain ⟨hj, hc⟩ := List.mem_enum hp
    exact ⟨j, hj, by rw [hc]; rfl⟩
  · rintro ⟨j, hj, rfl⟩
    exact ⟨(j, _), List.mem_enum_iff_getElem?.mpr (List.getElem?_eq_getElem hj), rfl⟩

theorem mem_published_names {n : String} :
    n ∈ (newIndividualCoreManager name topo R).createSlices.1.flatten.map Device.name ↔
      ∃ j, j < (publishedCPUs name topo R).length ∧ n = deviceName j := by
  simp only [List.mem_map, mem_published]
  constructor
  · rintro ⟨_, ⟨j, hj, rfl⟩, rfl⟩
    exact ⟨j, hj, rfl⟩
  · rintro ⟨j, hj, rfl⟩
    exact ⟨_, ⟨j, hj, rfl⟩, rfl⟩

theorem mem_index {n : String} :
    n ∈ (newIndividualCoreManager name topo R).createSlices.2.deviceNameToCPUID ↔
      ∃ j, j < (publishedCPUs name topo R).length ∧ n = deviceName j := by
  rw [IndividualCoreManager.createSlices_snd_index, IndividualCoreManager.emission_index_flatten,
    IndividualCoreManager.emitDevices_mem]
  simp only [newIndividualCoreManager_deviceNameToCPUID, AList.not_mem_empty, false_or,
    Nat.zero_add]
  rfl

theorem lookup_deviceName {j : ℕ} (hj : j < (publishedCPUs name topo R).length) :
    (newIndividualCoreManager name topo R).createSlices.2.deviceNameToCPUID.lookup (deviceName j) =
      some ((publishedCPUs name topo R).get ⟨j, hj⟩).cpuID := by
  rw [IndividualCoreManager.createSlices_snd_index, IndividualCoreManager.emission_index_flatten]
  have h := IndividualCoreManager.emitDevices_lookup (publishedCPUs name topo R) ⟨0, ∅, []⟩ hj
  rw [Nat.zero_add] at h
  exact h

/-- On a well-formed topology without CPU `-1`, the published CPUs are the catalogue order. -/
theorem publishedCPUs_cpuID (hwf : WellFormed topo) (hid : -1 ∉ topo.cpuDetails.cpus) :
    (publishedCPUs name topo R).map CPUInfo.cpuID = Spec.catalogueOrder topo R := by
  rw [publishedCPUs, @coreGroups_flatten (newIndividualCoreManager name topo R) hwf hid,
    visitOrder_eq_catalogueOrder hwf hid, List.map_map]
  refine (List.map_congr_left fun c hc => ?_).trans (List.map_id _)
  exact hwf.get_cpuID (Finset.mem_sdiff.mp ((Spec.mem_catalogueOrder _ _).mp hc)).1

/-- A name resolves to `v` exactly when it names a published device whose `dra.cpu/cpuID`
    is `v`. -/
theorem lookup_index_eq_some {n : String} {v : ℤ} :
    (newIndividualCoreManager name topo R).createSlices.2.deviceNameToCPUID.lookup n = some v ↔
      ∃ dev ∈ (newIndividualCoreManager name topo R).createSlices.1.flatten,
        dev.name = n ∧ dev.intAttr "dra.cpu/cpuID" = some v := by
  simp only [mem_published]
  constructor
  · intro h
    obtain ⟨j, hj, rfl⟩ := (mem_index name topo R).mp (AList.lookup_isSome.mp (by rw [h]; rfl))
    rw [lookup_deviceName name topo R hj, Option.some_inj] at h
    exact ⟨_, ⟨j, hj, rfl⟩, rfl, h ▸ individualDevice_cpuID _ _⟩
  · rintro ⟨_, ⟨j, hj, rfl⟩, rfl, hv⟩
    rw [individualDevice_cpuID] at hv
    exact (lookup_deviceName name topo R hj).trans hv

/-- On a well-formed topology without CPU `-1`, distinct names resolve to distinct CPUs, since
    the published CPUs are distinct. -/
theorem lookup_index_injective (hwf : WellFormed topo) (hid : -1 ∉ topo.cpuDetails.cpus)
    {n₁ n₂ : String} {v : ℤ}
    (h₁ : (newIndividualCoreManager name topo R).createSlices.2.deviceNameToCPUID.lookup n₁ = some v)
    (h₂ : (newIndividualCoreManager name topo R).createSlices.2.deviceNameToCPUID.lookup n₂ = some v) :
    n₁ = n₂ := by
  have hnodup : ((publishedCPUs name topo R).map CPUInfo.cpuID).Nodup :=
    publishedCPUs_cpuID name topo R hwf hid ▸ Spec.catalogueOrder_nodup topo R
  obtain ⟨i, hi, rfl⟩ := (mem_index name topo R).mp (AList.lookup_isSome.mp (by rw [h₁]; rfl))
  obtain ⟨j, hj, rfl⟩ := (mem_index name topo R).mp (AList.lookup_isSome.mp (by rw [h₂]; rfl))
  rw [lookup_deviceName name topo R hi] at h₁
  rw [lookup_deviceName name topo R hj] at h₂
  obtain rfl : i = j := (@List.Nodup.getElem_inj_iff _ _ hnodup i (by simpa using hi) j
    (by simpa using hj)).mp (by simpa using h₁.trans h₂.symm)
  rfl

/-- On a well-formed topology without CPU `-1`, a name resolves only to a non-reserved CPU of
    the topology. -/
theorem lookup_index_mem (hwf : WellFormed topo) (hid : -1 ∉ topo.cpuDetails.cpus) {n : String}
    {v : ℤ} (h : (newIndividualCoreManager name topo R).createSlices.2.deviceNameToCPUID.lookup n = some v) :
    v ∈ topo.cpuDetails.cpus \ R := by
  obtain ⟨j, hj, rfl⟩ := (mem_index name topo R).mp (AList.lookup_isSome.mp (by rw [h]; rfl))
  rw [lookup_deviceName name topo R hj, Option.some_inj] at h
  rw [← Spec.mem_catalogueOrder, ← publishedCPUs_cpuID name topo R hwf hid, ← h]
  exact List.mem_map_of_mem _ (List.get_mem _ _ _)

/-- Indexed names resolve to as many CPUs as there are distinct names. -/
theorem card_filterMap_lookup_index (hwf : WellFormed topo) (hid : -1 ∉ topo.cpuDetails.cpus)
    {names : List String}
    (hnames : ∀ n ∈ names, n ∈ (newIndividualCoreManager name topo R).createSlices.2.deviceNameToCPUID) :
    (names.filterMap (newIndividualCoreManager name topo R).createSlices.2.deviceNameToCPUID.lookup).toFinset.card =
      names.toFinset.card := by
  let g := fun n => ((newIndividualCoreManager name topo R).createSlices.2.deviceNameToCPUID.lookup n).getD 0
  have hg : ∀ n ∈ names,
      (newIndividualCoreManager name topo R).createSlices.2.deviceNameToCPUID.lookup n = some (g n) :=
    fun n hn => by
      obtain ⟨c, hc⟩ := Option.isSome_iff_exists.mp (AList.lookup_isSome.mpr (hnames n hn))
      simp only [g, hc, Option.getD_some]
  have himage : (names.map g).toFinset = names.toFinset.image g := by ext; simp
  rw [List.filterMap_eq_map_iff_forall_eq_some.mpr hg, himage]
  refine Finset.card_image_of_injOn fun n₁ h₁ n₂ h₂ heq => ?_
  exact lookup_index_injective name topo R hwf hid (hg n₁ (List.mem_toFinset.mp h₁))
    (heq ▸ hg n₂ (List.mem_toFinset.mp h₂))

end Resolve

/-- `AllocateCPUs` after `CreateSlices`, stated over the published devices. It fails exactly
    when a result of this driver names an unpublished device; otherwise it returns the
    `dra.cpu/cpuID` attributes of the devices named by this driver's results, and, when no
    CPU is numbered `-1`, as many CPUs as there are distinct such names. -/
def ResolvesPublished (name : String) (topo : CPUTopology) (R : CPUSet)
    (results : List AllocationResult) : Prop :=
  ((∃ e, (newIndividualCoreManager name topo R).createSlices.2.allocateCPUs results = .error e) ↔
      ∃ a ∈ results, a.driver = name ∧
        a.device ∉ (newIndividualCoreManager name topo R).createSlices.1.flatten.map Device.name) ∧
  ((∀ a ∈ results, a.driver = name →
      a.device ∈ (newIndividualCoreManager name topo R).createSlices.1.flatten.map Device.name) →
    ∃ S, (newIndividualCoreManager name topo R).createSlices.2.allocateCPUs results = .ok S ∧
      (∀ v, v ∈ S ↔ ∃ dev ∈ (newIndividualCoreManager name topo R).createSlices.1.flatten,
        (∃ a ∈ results, a.driver = name ∧ a.device = dev.name) ∧
          dev.intAttr "dra.cpu/cpuID" = some v) ∧
      (-1 ∉ topo.cpuDetails.cpus →
        S.card = ((results.filter fun a => a.driver = name).map AllocationResult.device).toFinset.card))

theorem allocateCPUs_error_iff (mgr : IndividualCoreManager) (results : List AllocationResult) :
    (∃ e, mgr.allocateCPUs results = .error e) ↔ ∃ e, mgr.collectCPUIDs results = .error e := by
  rw [mgr.allocateCPUs_eq]
  cases mgr.collectCPUIDs results <;> simp [Except.map]

theorem allocateCPUs_createSlices (name : String) (topo : CPUTopology) (R : CPUSet)
    (results : List AllocationResult) (hwf : WellFormed topo) :
    ResolvesPublished name topo R results := by
  set mgr := (newIndividualCoreManager name topo R).createSlices.2
  have hdrv : mgr.driverName = name := rfl
  have hmem : ∀ n, n ∈ mgr.deviceNameToCPUID ↔
      n ∈ (newIndividualCoreManager name topo R).createSlices.1.flatten.map Device.name :=
    fun n => (mem_index name topo R).trans (mem_published_names name topo R).symm
  refine ⟨?_, fun hall => ?_⟩
  · rw [allocateCPUs_error_iff, IndividualCoreManager.collectCPUIDs_error, hdrv]
    simp only [hmem]
  -- the CPUs are those the index gives the devices named by this driver's results
  have halloc : mgr.allocateCPUs results = .ok
      (((results.filter fun a => a.driver = name).map AllocationResult.device).filterMap
        mgr.deviceNameToCPUID.lookup).toFinset := by
    rw [mgr.allocateCPUs_eq, mgr.collectCPUIDs_ok results fun a ha hd => (hmem _).mpr (hall a ha hd),
      List.filterMap_map]
    rfl
  refine ⟨_, halloc, fun v => ?_, fun hid => card_filterMap_lookup_index name topo R hwf hid ?_⟩
  · simp only [List.mem_toFinset, List.mem_filterMap, List.mem_map, List.mem_filter,
      decide_eq_true_eq, mgr, lookup_index_eq_some]
    constructor
    · rintro ⟨_, ⟨a, ⟨ha, hd⟩, rfl⟩, dev, hdev, hn, hv⟩
      exact ⟨dev, hdev, ⟨a, ha, hd, hn.symm⟩, hv⟩
    · rintro ⟨dev, hdev, ⟨a, ha, hd, hn⟩, hv⟩
      exact ⟨_, ⟨a, ⟨ha, hd⟩, rfl⟩, dev, hdev, hn.symm, hv⟩
  · simp only [List.mem_map, List.mem_filter, decide_eq_true_eq]
    rintro _ ⟨a, ⟨ha, hd⟩, rfl⟩
    exact (hmem _).mpr (hall a ha hd)

theorem allocateCPUs_createSlices_fourCPUs :
    WellFormed fourCPUs ∧
    ResolvesPublished "dra.cpu" fourCPUs {2}
      [⟨"dra.cpu", "node", "cpudev000", "cpus", ∅⟩, ⟨"dra.net", "node", "nic000", "nics", ∅⟩,
       ⟨"dra.cpu", "node", "cpudev001", "cpus", ∅⟩] :=
  ⟨by decide, allocateCPUs_createSlices _ _ _ _ (by decide)⟩

end DraDriverCpu