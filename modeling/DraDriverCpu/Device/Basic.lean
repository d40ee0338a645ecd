import DraDriverCpu.CpuInfo
import DraDriverCpu.Fmt

/-!
# Devices, attributes and resource claims

The data the three device managers publish and read: `pkg/device/consts.go`,
the attribute builders of `pkg/device` (`MakeIndividualAttributes`,
`MakeGroupedAttributes`), the parts of `resourceapi.Device` and of a
`resourceapi.ResourceClaim` that the managers and the driver read or write, and
`slices.Chunk`.

A `resource.Quantity` is an exact decimal, modelled as `ℚ`; `Quantity.Value()`
rounds away from zero (`quantityValue`). Go maps are `AList`s.
-/

namespace DraDriverCpu

/-! ## Constants (`pkg/device/consts.go`) -/

def maxDevicesPerResourceSlice : ℕ := 128

def cpuDevicePrefix : String := "cpudev"

def cpuResourceQualifiedName : String := "dra.cpu/cpu"

def cpuDeviceSocketGroupedPrefix : String := "cpudevsocket"

def cpuDeviceNUMAGroupedPrefix : String := "cpudevnuma"

/-! ## Quantities -/

/-- `resource.Quantity.Value()`: the value rounded to an integer away from zero. -/
def quantityValue (q : ℚ) : ℤ := if 0 ≤ q then ⌈q⌉ else ⌊q⌋

/-! ## Devices -/

/-- `resourceapi.DeviceAttribute`: one typed scalar. -/
inductive DeviceAttribute
  | int (v : ℤ)
  | string (v : String)
  | bool (v : Bool)
  deriving DecidableEq, Repr

/-- An attribute map, keyed by qualified name. -/
abbrev Attributes := AList (fun _ : String => DeviceAttribute)

/-- A capacity map: qualified name to `DeviceCapacity.Value`. -/
abbrev Capacity := AList (fun _ : String => ℚ)

/-- `resourceapi.Device`, with the fields the managers set. -/
structure Device where
  name : String
  attributes : Attributes
  capacity : Capacity
  allowMultipleAllocations : Option Bool
  deriving DecidableEq

def Device.intAttr (d : Device) (key : String) : Option ℤ :=
  match d.attributes.lookup key with
  | some (.int v) => some v
  | _ => none

def makeIndividualAttributes (cpu : CPUInfo) : Attributes :=
  List.toAList
    [⟨"dra.cpu/numaNodeID", .int cpu.numaNodeID⟩,
     ⟨"dra.cpu/cacheL3ID", .int cpu.uncoreCacheID⟩,
     ⟨"dra.cpu/coreType", .string cpu.coreType⟩,
     ⟨"dra.cpu/socketID", .int cpu.socketID⟩,
     ⟨"dra.cpu/coreID", .int cpu.coreID⟩,
     ⟨"dra.cpu/cpuID", .int cpu.cpuID⟩,
     ⟨"dra.net/numaNode", .int cpu.numaNodeID⟩]

def makeGroupedAttributes (topo : CPUTopology) (socketID : ℤ) (allocatableCPUs : CPUSet) :
    Attributes :=
  List.toAList
    [⟨"dra.cpu/socketID", .int socketID⟩,
     ⟨"dra.cpu/numCPUs", .int allocatableCPUs.card⟩,
     ⟨"dra.cpu/smtEnabled", .bool topo.smtEnabled⟩]

@[simp] theorem makeIndividualAttributes_cpuID (cpu : CPUInfo) :
    (makeIndividualAttributes cpu).lookup "dra.cpu/cpuID" = some (.int cpu.cpuID) := by
  simp [makeIndividualAttributes]

@[simp] theorem makeGroupedAttributes_socketID (topo : CPUTopology) (s : ℤ) (c : CPUSet) :
    (makeGroupedAttributes topo s c).lookup "dra.cpu/socketID" = some (.int s) := by
  simp [makeGroupedAttributes]

@[simp] theorem makeGroupedAttributes_numCPUs (topo : CPUTopology) (s : ℤ) (c : CPUSet) :
    (makeGroupedAttributes topo s c).lookup "dra.cpu/numCPUs" = some (.int c.card) := by
  simp [makeGroupedAttributes]

/-! ## Fallible results -/

theorem Except.map_eq_ok {α β ε : Type} {f : α → β} {x : Except ε α} {b : β} :
    x.map f = .ok b ↔ ∃ a, x = .ok a ∧ f a = b := by
  cases x <;> simp [Except.map]

theorem Except.toOption_map {α β ε : Type} (f : α → β) (x : Except ε α) :
    (x.map f).toOption = x.toOption.map f := by
  cases x <;> rfl

/-! ## Maps filled by a loop -/

section Maps

variable {α β γ : Type} [DecidableEq α] (key : γ → α) (val : γ → β)

/-- Inserting entries under other keys keeps a lookup. -/
theorem foldl_insert_lookup_of_not_mem (l : List γ) (m : AList (fun _ : α => β)) {k : α}
    (hk : ∀ x ∈ l, key x ≠ k) :
    (l.foldl (fun m x => m.insert (key x) (val x)) m).lookup k = m.lookup k := by
  induction l generalizing m with
  | nil => rfl
  | cons a l ih =>
    rw [List.foldl_cons, ih _ fun x hx => hk x (List.mem_cons_of_mem _ hx),
      AList.lookup_insert_ne (hk a (List.mem_cons_self _ _)).symm]

/-- A loop inserting the entries of a list with distinct keys maps each key to its value. -/
theorem foldl_insert_lookup (l : List γ) (hl : (l.map key).Nodup) (m : AList (fun _ : α => β))
    {x : γ} (hx : x ∈ l) :
    (l.foldl (fun m x => m.insert (key x) (val x)) m).lookup (key x) = some (val x) := by
  induction l generalizing m with
  | nil => simp at hx
  | cons a l ih =>
    rw [List.map_cons, List.nodup_cons, List.mem_map] at hl
    rw [List.foldl_cons]
    rcases List.mem_cons.mp hx with rfl | hx
    · rw [foldl_insert_lookup_of_not_mem key val _ _ fun y hy h => hl.1 ⟨y, hy, h⟩,
        AList.lookup_insert]
    · exact ih hl.2 _ hx

/-- An entry of the filled map was there before or was inserted by the loop. -/
theorem foldl_insert_lookup_eq_some (l : List γ) (m : AList (fun _ : α => β)) {k : α} {v : β}
    (h : (l.foldl (fun m x => m.insert (key x) (val x)) m).lookup k = some v) :
    m.lookup k = some v ∨ ∃ x ∈ l, key x = k ∧ val x = v := by
  induction l generalizing m with
  | nil => exact .inl h
  | cons a l ih =>
    rcases ih _ h with h | ⟨x, hx, hkx⟩
    · by_cases hk : k = key a
      · subst hk
        rw [AList.lookup_insert, Option.some_inj] at h
        exact .inr ⟨a, List.mem_cons_self _ _, rfl, h⟩
      · rw [AList.lookup_insert_ne hk] at h
        exact .inl h
    · exact .inr ⟨x, List.mem_cons_of_mem _ hx, hkx⟩

/-- A loop over pairs in which the second component evolves on its own. -/
theorem foldl_pair_snd {α β γ : Type} (f : α × β → γ → α) (g : β → γ → β) (l : List γ)
    (s : α × β) : (l.foldl (fun acc c => (f acc c, g acc.2 c)) s).2 = l.foldl g s.2 := by
  induction l generalizing s with
  | nil => rfl
  | cons c l ih => exact ih _

/-- A loop over pairs in which the first component evolves on its own. -/
theorem foldl_pair_fst {α β γ : Type} (f : α → γ → α) (g : α × β → γ → β) (l : List γ)
    (s : α × β) : (l.foldl (fun acc c => (f acc.1 c, g acc c)) s).1 = l.foldl f s.1 := by
  induction l generalizing s with
  | nil => rfl
  | cons c l ih => exact ih _

/-- The union of the sets a list's elements give, built by a right fold. -/
theorem mem_foldr_union {β : Type} [DecidableEq β] (f : γ → Finset β) (l : List γ) {x : β} :
    x ∈ l.foldr (fun e acc => f e ∪ acc) ∅ ↔ ∃ e ∈ l, x ∈ f e := by
  induction l with
  | nil => simp
  | cons e l ih => simp [ih]

theorem card_foldr_union_le {β : Type} [DecidableEq β] (f : γ → Finset β) (l : List γ) :
    (l.foldr (fun e acc => f e ∪ acc) ∅).card ≤ (l.map fun e => (f e).card).sum := by
  induction l with
  | nil => simp
  | cons e l ih => exact (Finset.card_union_le _ _).trans (by simpa using ih)

/-- Over pairwise disjoint sets the union has the summed size. -/
theorem card_foldr_union_of_pairwise {β : Type} [DecidableEq β] (f : γ → Finset β) {l : List γ}
    (h : l.Pairwise fun a b => Disjoint (f a) (f b)) :
    (l.foldr (fun e acc => f e ∪ acc) ∅).card = (l.map fun e => (f e).card).sum := by
  induction l with
  | nil => simp
  | cons e l ih =>
    obtain ⟨he, hl⟩ := List.pairwise_cons.mp h
    have hdisj : Disjoint (f e) (l.foldr (fun e acc => f e ∪ acc) ∅) :=
      Finset.disjoint_left.mpr fun x hx hx' =>
        let ⟨e', he', hx''⟩ := (mem_foldr_union f l).mp hx'
        Finset.disjoint_left.mp (he e' he') hx hx''
    rw [List.foldr_cons, Finset.card_union_of_disjoint hdisj, ih hl, List.map_cons, List.sum_cons]

end Maps

/-! ## Resource claims -/

/-- `resourceapi.DeviceRequestAllocationResult`: one allocated device of a claim. -/
structure AllocationResult where
  driver : String
  pool : String
  device : String
  request : String
  consumedCapacity : Capacity
  deriving DecidableEq

/-- `resourceapi.ResourceClaim`: its UID, namespace and name, and
    `Status.Allocation.Devices.Results` (`none` when `Status.Allocation` is nil). -/
structure ResourceClaim where
  uid : String
  «namespace» : String
  name : String
  allocation : Option (List AllocationResult)
  deriving DecidableEq

/-! ## `slices.Chunk` -/

/-- `slices.Collect(slices.Chunk(s, n))`: consecutive pieces of `n` elements, the last
    one possibly shorter (`n = 0`, where Go panics, gives no pieces). -/
def slicesChunk {α : Type} (n : ℕ) (s : List α) : List (List α) := go s.length s
where
  /-- The loop, with the length of the rest as fuel. -/
  go : ℕ → List α → List (List α)
    | 0, _ => []
    | _, [] => []
    | fuel + 1, x :: xs => if n = 0 then [] else (x :: xs).take n :: go fuel ((x :: xs).drop n)

theorem slicesChunk_go_flatten {α : Type} {n : ℕ} (hn : 0 < n) :
    ∀ (fuel : ℕ) (s : List α), s.length ≤ fuel → (slicesChunk.go n fuel s).flatten = s
  | 0, s, h => by rw [List.eq_nil_of_length_eq_zero (Nat.le_zero.mp h)]; rfl
  | _ + 1, [], _ => rfl
  | fuel + 1, x :: xs, h => by
    rw [slicesChunk.go, if_neg (by omega), List.flatten_cons,
      slicesChunk_go_flatten hn fuel _ (by simp only [List.length_drop, List.length_cons] at h ⊢; omega),
      List.take_append_drop]

theorem slicesChunk_flatten {α : Type} {n : ℕ} (hn : 0 < n) (s : List α) :
    (slicesChunk n s).flatten = s :=
  slicesChunk_go_flatten hn _ s le_rfl

theorem slicesChunk_go_eq {α : Type} {n : ℕ} (hn : 0 < n) :
    ∀ (fuel : ℕ) (s : List α), s.length ≤ fuel →
      slicesChunk.go n fuel s =
        (List.range ((s.length + n - 1) / n)).map fun k => (s.drop (n * k)).take n
  | 0, s, h => by
    rw [List.eq_nil_of_length_eq_zero (Nat.le_zero.mp h), List.length_nil, zero_add,
      Nat.div_eq_of_lt (by omega)]
    rfl
  | _ + 1, [], _ => by
    rw [List.length_nil, zero_add, Nat.div_eq_of_lt (by omega)]
    rfl
  | fuel + 1, x :: xs, h => by
    have hpos : 0 < (x :: xs).length := Nat.succ_pos _
    -- one chunk fewer remains after the first
    have hlen : ((x :: xs).length + n - 1) / n = (((x :: xs).drop n).length + n - 1) / n + 1 := by
      rw [List.length_drop, ← Nat.add_div_right _ hn]
      by_cases hle : n ≤ (x :: xs).length
      · congr 1; omega
      · rw [@Nat.div_eq_of_lt_le 1 n _ (by omega) (by omega),
          @Nat.div_eq_of_lt_le 1 n _ (by omega) (by omega)]
    rw [slicesChunk.go, if_neg (by omega),
      slicesChunk_go_eq hn fuel _ (by rw [List.length_drop]; omega), hlen, List.range_succ_eq_map, List.map_cons, List.map_map]
    refine congrArg₂ _ (by simp) (List.map_congr_left fun k _ => ?_)
    rw [Function.comp_apply, List.drop_drop, Nat.mul_succ, Nat.add_comm]

/-- There are `⌈|s| / n⌉` chunks, chunk `k` holding the elements `n * k` to `n * k + n - 1`
    of `s` that exist. -/
theorem slicesChunk_eq {α : Type} {n : ℕ} (hn : 0 < n) (s : List α) :
    slicesChunk n s = (List.range ((s.length + n - 1) / n)).map fun k => (s.drop (n * k)).take n :=
  slicesChunk_go_eq hn _ s le_rfl

theorem length_slicesChunk {α : Type} {n : ℕ} (hn : 0 < n) (s : List α) :
    (slicesChunk n s).length = (s.length + n - 1) / n := by
  rw [slicesChunk_eq hn, List.length_map, List.length_range]

theorem get_slicesChunk {α : Type} {n : ℕ} (hn : 0 < n) (s : List α) {k : ℕ}
    (hk : k < (slicesChunk n s).length) :
    (slicesChunk n s).get ⟨k, hk⟩ = (s.drop (n * k)).take n := by
  simp only [List.get_eq_getElem, List.getElem_of_eq (slicesChunk_eq hn s), List.getElem_map,
    List.getElem_range]

/-- A chunk holds `n` elements, or what is left of `s` for the last one. -/
theorem length_get_slicesChunk {α : Type} {n : ℕ} (hn : 0 < n) (s : List α) {k : ℕ}
    (hk : k < (slicesChunk n s).length) :
    ((slicesChunk n s).get ⟨k, hk⟩).length = min n (s.length - n * k) := by
  rw [get_slicesChunk hn, List.length_take, List.length_drop]

/-- Position `j` of chunk `k` is element `n * k + j` of `s`. -/
theorem get_get_slicesChunk {α : Type} {n : ℕ} (hn : 0 < n) (s : List α) {k j : ℕ}
    (hk : k < (slicesChunk n s).length) (hj : j < ((slicesChunk n s).get ⟨k, hk⟩).length) :
    ((slicesChunk n s).get ⟨k, hk⟩).get ⟨j, hj⟩ =
      s.get ⟨n * k + j, by have := length_get_slicesChunk hn s hk ▸ hj; omega⟩ := by
  rw [List.get_of_eq (get_slicesChunk hn s hk)]
  simp only [List.get_eq_getElem, List.getElem_take, List.getElem_drop]

/-- Every chunk starts before the end of `s`, and every chunk but the last ends before it. -/
theorem lt_length_of_lt_length_slicesChunk {α : Type} {n : ℕ} (hn : 0 < n) (s : List α) {k : ℕ}
    (hk : k < (slicesChunk n s).length) : n * k < s.length := by
  rw [length_slicesChunk hn] at hk
  have h : (k + 1) * n ≤ s.length + n - 1 := (Nat.le_div_iff_mul_le hn).mp hk
  have e : (k + 1) * n = n * k + n := by ring
  omega

theorem add_lt_length_of_succ_lt_length_slicesChunk {α : Type} {n : ℕ} (hn : 0 < n)
    (s : List α) {k : ℕ} (hk : k + 1 < (slicesChunk n s).length) : n * k + n < s.length := by
  rw [length_slicesChunk hn] at hk
  have h : (k + 2) * n ≤ s.length + n - 1 := (Nat.le_div_iff_mul_le hn).mp hk
  have e : (k + 2) * n = n * k + n + n := by ring
  omega

end DraDriverCpu
