import DraDriverCpu.Driver.Prepare

/-!
# The CPU list of a CDI environment variable

`prepareResourceClaim` writes a claim's CPUs to the CDI spec as the variable
`<prefix>_<uid>=<list>` (`pkg/driver/driver.go` lines 270–271), where `<list>` is
`claimCPUSet.String()`: the maximal runs of consecutive IDs in ascending order, each written
`a` or `a-b`, joined by commas. The container learns its CPUs from that variable.

`parseCPUList` reads such a list the way the Linux CPU-list syntax is read: split at the
commas, read the bounds of each run, and list the IDs of each run in turn. A first bound may
carry a minus sign, so that every `CPUSet` of the model is read back, whatever its IDs.

Results:
* `flatMap_rangeIDs_cpuRanges`: the runs of any list, expanded, give back the list.
* `parseRange_rangeText`: the text of a run reads back as its bounds.
* `parseCPUList_string`: round trip: the CPU list of a set reads back as its IDs, ascending.
* `cdiEnvVar_injective`: under one claim UID, distinct CPU sets give distinct variables.
-/

namespace DraDriverCpu

/-! ## Runs of consecutive IDs -/

/-- The IDs of the run from `p.1` to `p.2`, ascending. -/
def rangeIDs (p : ℤ × ℤ) : List ℤ := (List.range ((p.2 - p.1).toNat + 1)).map fun (i : ℕ) => p.1 + i

theorem rangeIDs_self (a : ℤ) : rangeIDs (a, a) = [a] := by
  simp [rangeIDs, List.range_succ]

theorem rangeIDs_of_lt {a b : ℤ} (h : a < b) : rangeIDs (a, b) = a :: rangeIDs (a + 1, b) := by
  have hlen : (b - a).toNat + 1 = (b - (a + 1)).toNat + 1 + 1 := by omega
  simp only [rangeIDs]
  rw [hlen, List.range_succ_eq_map, List.map_cons, List.map_map]
  congr 1
  · simp
  · refine List.map_congr_left fun i _ => ?_
    simp only [Function.comp_apply, Nat.cast_succ]
    ring

theorem cpuRanges_fst_le : ∀ (l : List ℤ), ∀ p ∈ cpuRanges l, p.1 ≤ p.2
  | [] => by simp [cpuRanges]
  | c :: cs => by
    have ih := cpuRanges_fst_le cs
    rcases h : cpuRanges cs with _ | ⟨⟨a, b⟩, rs⟩ <;> rw [h] at ih <;> simp only [cpuRanges, h]
    · simp
    · rw [List.forall_mem_cons] at ih
      split_ifs with hc <;> simp only [List.forall_mem_cons]
      · exact ⟨by dsimp only at ih ⊢; omega, ih.2⟩
      · exact ⟨le_rfl, ih⟩

/-- Expanding the runs `CPUSet.String()` writes gives back the list they were taken from. -/
theorem flatMap_rangeIDs_cpuRanges : ∀ l : List ℤ, (cpuRanges l).flatMap rangeIDs = l
  | [] => rfl
  | c :: cs => by
    have ih := flatMap_rangeIDs_cpuRanges cs
    rcases h : cpuRanges cs with _ | ⟨⟨a, b⟩, rs⟩ <;> rw [h] at ih <;> simp only [cpuRanges, h]
    · simp [← ih, rangeIDs_self]
    · split_ifs with hc
      · have hab := cpuRanges_fst_le cs (a, b) (h ▸ List.mem_cons_self _ _)
        rw [List.flatMap_cons, rangeIDs_of_lt (by omega : c < b), hc, List.cons_append,
          ← List.flatMap_cons, ih]
      · rw [List.flatMap_cons, rangeIDs_self, List.singleton_append, ih]

/-! ## The text of a number -/

/-- `strconv.Itoa`: a minus sign for a negative number, then the decimal digits of its
    magnitude. -/
theorem toString_int_data (n : ℤ) :
    (toString n).data = (if n < 0 then ['-'] else []) ++ Nat.toDigits 10 n.natAbs := by
  cases n with
  | ofNat m => rw [if_neg (by rw [Int.ofNat_eq_coe]; omega)]; rfl
  | negSucc m => rw [if_pos (Int.negSucc_lt_zero m)]; rfl

theorem toDigits_ne_nil (n : ℕ) : Nat.toDigits 10 n ≠ [] := by
  rw [Nat.toDigits, Nat.toDigitsCore]
  split
  · exact List.cons_ne_nil _ _
  · rw [toDigitsCore_eq_append]
    exact List.append_ne_nil_of_right_ne_nil _ (List.cons_ne_nil _ _)

theorem digitChar_isDigit {d : ℕ} (h : d < 10) : (Nat.digitChar d).isDigit = true := by
  interval_cases d <;> rfl

theorem mem_toDigits {n : ℕ} {c : Char} (hc : c ∈ Nat.toDigits 10 n) : c.isDigit = true := by
  obtain ⟨d, hd, rfl⟩ := mem_toDigitsCore _ _ c hc
  exact digitChar_isDigit hd

/-- A digit is none of the separators: `-`, `,` and `=` are not digits. -/
theorem ne_of_isDigit {c d : Char} (hc : c.isDigit = true) (hd : d.isDigit = false) : c ≠ d :=
  fun h => absurd (h ▸ hc) (by simp [hd])

theorem mem_toString_int {n : ℤ} {c : Char} (hc : c ∈ (toString n).data) :
    c = '-' ∨ c.isDigit = true := by
  rw [toString_int_data, List.mem_append] at hc
  rcases hc with hc | hc
  · split_ifs at hc
    · exact .inl (List.mem_singleton.mp hc)
    · exact absurd hc (List.not_mem_nil c)
  · exact .inr (mem_toDigits hc)

theorem decimalValue_toDigits (m : ℕ) : decimalValue (Nat.toDigits 10 m) = m :=
  decimalValue_toDigitsCore _ _ (Nat.lt_succ_self m)

/-- Round trip: the text of an integer reads back as the integer. -/
theorem parse03d_toString (n : ℤ) : parse03d (toString n) = n := by
  have hdata := toString_int_data n
  rcases lt_or_le n 0 with hn | hn
  · rw [if_pos hn, List.singleton_append] at hdata
    simp only [parse03d, hdata, decimalValue_toDigits]
    omega
  · rw [if_neg (not_lt.mpr hn), List.nil_append] at hdata
    unfold parse03d
    split
    · rename_i cs h
      exact absurd rfl (ne_of_isDigit (mem_toDigits (hdata ▸ h ▸ List.mem_cons_self '-' cs)) (by decide))
    · rw [hdata, decimalValue_toDigits]
      omega

/-! ## The text of a CPU set -/

/-- The text `CPUSet.String()` writes for one run. -/
def rangeText (p : ℤ × ℤ) : String :=
  if p.1 = p.2 then toString p.1 else toString p.1 ++ "-" ++ toString p.2

theorem CPUSet.string_eq (s : CPUSet) : s.string = ",".intercalate ((cpuRanges s.list).map rangeText) :=
  rfl

theorem data_intercalate_go (acc s : String) (l : List String) :
    (String.intercalate.go acc s l).data = acc.data ++ l.flatMap fun t => s.data ++ t.data := by
  induction l generalizing acc with
  | nil => simp [String.intercalate.go]
  | cons t l ih => simp [String.intercalate.go, ih, List.append_assoc]

theorem intercalate_cons_eq (sep t : List Char) (l : List (List Char)) :
    sep.intercalate (t :: l) = t ++ l.flatMap (sep ++ ·) := by
  induction l generalizing t with
  | nil => simp [List.intercalate]
  | cons u l ih =>
    rw [List.flatMap_cons, List.append_assoc sep, ← ih u]
    simp only [List.intercalate, List.intersperse_cons₂, List.flatten_cons, List.append_assoc]

theorem rangeText_data_ne_nil (p : ℤ × ℤ) : (rangeText p).data ≠ [] := by
  unfold rangeText
  split_ifs
  · rw [toString_int_data]
    exact List.append_ne_nil_of_right_ne_nil _ (toDigits_ne_nil _)
  · simp [String.data_append]

/-- The text of a run is made of digits and minus signs. -/
theorem mem_rangeText {p : ℤ × ℤ} {c : Char} (hc : c ∈ (rangeText p).data) :
    c = '-' ∨ c.isDigit = true := by
  unfold rangeText at hc
  split_ifs at hc
  · exact mem_toString_int hc
  · simp only [String.data_append, List.mem_append] at hc
    rcases hc with (hc | hc) | hc
    · exact mem_toString_int hc
    · exact .inl (List.mem_singleton.mp hc)
    · exact mem_toString_int hc

theorem comma_not_mem_rangeText (p : ℤ × ℤ) : ',' ∉ (rangeText p).data := fun hc =>
  (mem_rangeText hc).elim (by decide) fun h => ne_of_isDigit h (by decide) rfl

/-! ## Reading a CPU list back -/

/-- The bounds of a run `first` or `first-last` whose first bound is `sign` followed by `ds`
    up to the separator. -/
def parseBounds (sign ds : List Char) : ℤ × ℤ :=
  let first := parse03d ⟨sign ++ ds.takeWhile (· ≠ '-')⟩
  match ds.dropWhile (· ≠ '-') with
  | _ :: last => (first, parse03d ⟨last⟩)
  | [] => (first, first)

/-- The bounds of one run of a CPU list; a leading minus sign belongs to the first bound. -/
def parseRange (cs : List Char) : ℤ × ℤ :=
  if cs.head? = some '-' then parseBounds ['-'] cs.tail else parseBounds [] cs

/-- A CPU list read back: the IDs of its comma-separated runs, in order. -/
def parseCPUList (s : String) : List ℤ :=
  if s.data = [] then [] else ((s.data.splitOn ',').map parseRange).flatMap rangeIDs

/-- A number's text, followed by nothing or by the separator, reads back as the first bound. -/
theorem parseRange_toString_append (a : ℤ) (rest : List Char)
    (hrest : rest.takeWhile (· ≠ '-') = []) :
    parseRange ((toString a).data ++ rest) =
      match rest.dropWhile (· ≠ '-') with
      | _ :: last => (a, parse03d ⟨last⟩)
      | [] => (a, a) := by
  have hdigits : ∀ c ∈ Nat.toDigits 10 a.natAbs, decide (c ≠ '-') = true :=
    fun c hc => decide_eq_true (ne_of_isDigit (mem_toDigits hc) (by decide))
  -- the sign, whichever it is, joins the digits to give the number's text
  have hbounds : ∀ sign, sign ++ Nat.toDigits 10 a.natAbs = (toString a).data →
      parseBounds sign (Nat.toDigits 10 a.natAbs ++ rest) =
        match rest.dropWhile (· ≠ '-') with
        | _ :: last => (a, parse03d ⟨last⟩)
        | [] => (a, a) := fun sign hsign => by
    have ha : parse03d ⟨(toString a).data⟩ = a := parse03d_toString a
    simp only [parseBounds, List.takeWhile_append_of_pos hdigits, hrest, List.append_nil,
      List.dropWhile_append_of_pos hdigits, hsign, ha]
  obtain ⟨d, ds, hd⟩ := List.exists_cons_of_ne_nil (toDigits_ne_nil a.natAbs)
  rw [toString_int_data]
  split_ifs with hn
  · simp only [parseRange, List.singleton_append, List.cons_append, List.head?_cons, List.tail_cons,
      if_true]
    exact hbounds ['-'] (by rw [toString_int_data, if_pos hn])
  · have hd' : d ≠ '-' := ne_of_isDigit (mem_toDigits (hd ▸ List.mem_cons_self d ds)) (by decide)
    rw [parseRange, List.nil_append, hd, List.cons_append, List.head?_cons,
      if_neg (by simpa using hd'), ← List.cons_append, ← hd]
    exact hbounds [] (by rw [toString_int_data, if_neg hn])

theorem parseRange_rangeText (p : ℤ × ℤ) : parseRange (rangeText p).data = p := by
  unfold rangeText
  split_ifs with h
  · have hp := parseRange_toString_append p.1 [] rfl
    rw [List.append_nil] at hp
    exact hp.trans (Prod.ext rfl h)
  · have hsep : ("-" ++ toString p.2).data = '-' :: (toString p.2).data := rfl
    rw [String.append_assoc, String.data_append, hsep,
      parseRange_toString_append p.1 _ (by simp [List.takeWhile_cons])]
    simp only [List.dropWhile_cons, ne_eq, not_true_eq_false, decide_False]
    exact Prod.ext rfl (parse03d_toString p.2)

/-- The characters of a CPU list: the runs' texts, separated by commas. -/
theorem data_string (s : CPUSet) :
    s.string.data = [','].intercalate ((cpuRanges s.list).map fun q => (rangeText q).data) := by
  rw [CPUSet.string_eq]
  cases cpuRanges s.list with
  | nil => rfl
  | cons p ps =>
    rw [List.map_cons, String.intercalate, data_intercalate_go, List.map_cons, intercalate_cons_eq]
    simp only [List.flatMap_map]

/-- A CPU list is made of digits, minus signs and commas. -/
theorem mem_string {s : CPUSet} {c : Char} (hc : c ∈ s.string.data) :
    c = ',' ∨ c = '-' ∨ c.isDigit = true := by
  rw [data_string] at hc
  rcases h : cpuRanges s.list with _ | ⟨p, ps⟩ <;> rw [h] at hc
  · exact absurd hc (List.not_mem_nil c)
  · rw [List.map_cons, intercalate_cons_eq] at hc
    simp only [List.mem_append, List.mem_flatMap, List.mem_map, List.mem_singleton] at hc
    rcases hc with hc | ⟨_, ⟨q, -, rfl⟩, hc | hc⟩
    · exact .inr (mem_rangeText hc)
    · exact .inl hc
    · exact .inr (mem_rangeText hc)

/-- Round trip: the CPU list `CPUSet.String()` writes reads back as the set's IDs in
    ascending order, for every set. -/
theorem parseCPUList_string (s : CPUSet) : parseCPUList s.string = s.list := by
  have hdata := data_string s
  rcases h : cpuRanges s.list with _ | ⟨p, ps⟩
  · have h0 : s.string.data = [] := by rw [hdata, h]; rfl
    rw [parseCPUList, if_pos h0, ← flatMap_rangeIDs_cpuRanges s.list, h]
    rfl
  · rw [h] at hdata
    have hsplit : ([','].intercalate ((p :: ps).map fun q => (rangeText q).data)).splitOn ',' =
        (p :: ps).map fun q => (rangeText q).data :=
      List.splitOn_intercalate _ ',' (fun l hl => by
        obtain ⟨q, -, rfl⟩ := List.mem_map.mp hl
        exact comma_not_mem_rangeText q) (List.cons_ne_nil _ _)
    have hne : s.string.data ≠ [] := by
      rw [hdata, List.map_cons, intercalate_cons_eq]
      exact List.append_ne_nil_of_left_ne_nil (rangeText_data_ne_nil p) _
    have hmap : ((p :: ps).map fun q => parseRange (rangeText q).data) = p :: ps :=
      (List.map_congr_left fun q _ => parseRange_rangeText q).trans (List.map_id' _)
    rw [parseCPUList, if_neg hne, hdata, hsplit, List.map_map, Function.comp_def, hmap, ← h,
      flatMap_rangeIDs_cpuRanges]

example : parseCPUList (CPUSet.string {-3, -2, -1, 2, 5, 6}) = [-3, -2, -1, 2, 5, 6] := by
  decide

/-- Under one claim UID, the CDI environment variable determines the claim's CPU set: the
    container that reads it learns exactly the CPUs stored for its claim. -/
theorem cdiEnvVar_injective (env : Env) (uid : String) :
    Function.Injective (CPUDriver.cdiEnvVar env uid) := fun S T h => by
  have hs := congrArg String.data h
  simp only [CPUDriver.cdiEnvVar, String.data_append, List.append_assoc,
    List.append_cancel_left_eq] at hs
  have hl : S.list = T.list := by rw [← parseCPUList_string, String.ext hs, parseCPUList_string]
  ext c
  rw [← CPUSet.mem_list, hl, CPUSet.mem_list]

end DraDriverCpu
