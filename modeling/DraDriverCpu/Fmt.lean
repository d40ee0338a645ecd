import Mathlib

/-!
# `fmt.Sprintf("%03d", n)`

Every device name is a fixed prefix followed by `fmt.Sprintf("%03d", n)`
(`pkg/device/consts.go` and the three `CreateSlices`). Go writes the decimal digits of
`|n|`, zero-padded so that sign and digits together are at least three characters wide:
`7` gives `007`, `1234` gives `1234` and `-5` gives `-05`. The digits are those of
`Nat.toDigits 10`.

Results:
* `parse03d_sprintf03d`: reading the decimal value back gives `n`, for every `n : ℤ`.
* `sprintf03d_injective`, `append_sprintf03d_injective`: distinct numbers give distinct
  names under any one prefix.
-/

namespace DraDriverCpu

/-- `ds` padded on the left with `'0'` to at least `w` characters. -/
def zeroPad (w : ℕ) (ds : List Char) : String := ⟨List.replicate (w - ds.length) '0' ++ ds⟩

/-- `fmt.Sprintf("%03d", n)`. The width counts the sign. -/
def sprintf03d (n : ℤ) : String :=
  if n < 0 then "-" ++ zeroPad 2 (Nat.toDigits 10 n.natAbs) else zeroPad 3 (Nat.toDigits 10 n.toNat)

example : sprintf03d 7 = "007" ∧ sprintf03d 1234 = "1234" ∧ sprintf03d (-5) = "-05" := by
  decide

/-! ## Reading a name back -/

/-- The value of a string of decimal digits, leading zeros allowed. -/
def decimalValue (cs : List Char) : ℕ := cs.foldl (fun acc c => 10 * acc + (c.toNat - 48)) 0

/-- The integer a `%03d` field denotes. -/
def parse03d (s : String) : ℤ :=
  match s.data with
  | '-' :: cs => -(decimalValue cs : ℤ)
  | cs => decimalValue cs

theorem digitChar_value {d : ℕ} (h : d < 10) : (Nat.digitChar d).toNat - 48 = d := by
  interval_cases d <;> rfl

theorem digitChar_ne_minus {d : ℕ} (h : d < 10) : Nat.digitChar d ≠ '-' := by
  interval_cases d <;> decide

theorem foldl_decimal_append (a : ℕ) (l : List Char) (c : Char) :
    (l ++ [c]).foldl (fun acc c => 10 * acc + (c.toNat - 48)) a =
      10 * l.foldl (fun acc c => 10 * acc + (c.toNat - 48)) a + (c.toNat - 48) := by
  simp

theorem decimalValue_zeros_append (k : ℕ) (cs : List Char) :
    decimalValue (List.replicate k '0' ++ cs) = decimalValue cs := by
  induction k with
  | zero => rfl
  | succ k ih => simpa [decimalValue, List.replicate_succ] using ih

theorem toDigitsCore_eq_append (fuel n : ℕ) (ds : List Char) :
    Nat.toDigitsCore 10 fuel n ds = Nat.toDigitsCore 10 fuel n [] ++ ds := by
  induction fuel generalizing n ds with
  | zero => rfl
  | succ fuel ih =>
    simp only [Nat.toDigitsCore]
    split
    · rfl
    · rw [ih, ih _ [_], List.append_assoc, List.singleton_append]

theorem decimalValue_toDigitsCore (fuel n : ℕ) (h : n < fuel) :
    decimalValue (Nat.toDigitsCore 10 fuel n []) = n := by
  induction fuel generalizing n with
  | zero => omega
  | succ fuel ih =>
    simp only [Nat.toDigitsCore]
    split
    · simp [decimalValue, digitChar_value (Nat.mod_lt n (by norm_num))]
      omega
    · rw [toDigitsCore_eq_append, decimalValue, foldl_decimal_append, ← decimalValue,
        ih _ (by omega), digitChar_value (Nat.mod_lt n (by norm_num))]
      omega

/-- Every character of a decimal expansion is a digit. -/
theorem mem_toDigitsCore (fuel n : ℕ) :
    ∀ c ∈ Nat.toDigitsCore 10 fuel n [], ∃ d < 10, c = Nat.digitChar d := by
  induction fuel generalizing n with
  | zero => simp [Nat.toDigitsCore]
  | succ fuel ih =>
    simp only [Nat.toDigitsCore]
    split
    · simpa using ⟨n % 10, Nat.mod_lt n (by norm_num), rfl⟩
    · rw [toDigitsCore_eq_append]
      simpa [or_imp, forall_and] using ⟨ih _, n % 10, Nat.mod_lt n (by norm_num), rfl⟩

theorem ne_minus_of_mem_toDigitsCore (fuel n : ℕ) :
    ∀ c ∈ Nat.toDigitsCore 10 fuel n [], c ≠ '-' := fun c hc => by
  obtain ⟨d, hd, rfl⟩ := mem_toDigitsCore fuel n c hc
  exact digitChar_ne_minus hd

theorem decimalValue_zeroPad (w m : ℕ) : decimalValue (zeroPad w (Nat.toDigits 10 m)).data = m := by
  simp only [zeroPad, decimalValue_zeros_append, Nat.toDigits]
  exact decimalValue_toDigitsCore _ _ (Nat.lt_succ_self m)

/-- A non-negative field starts with `'0'` or a digit, never with a minus sign. -/
theorem zeroPad_data_ne_minus (w m : ℕ) (cs : List Char) :
    (zeroPad w (Nat.toDigits 10 m)).data ≠ '-' :: cs := by
  intro h
  have hmem : '-' ∈ (zeroPad w (Nat.toDigits 10 m)).data := h ▸ List.mem_cons_self _ _
  simp only [zeroPad, List.mem_append, List.mem_replicate] at hmem
  rcases hmem with ⟨-, h0⟩ | hd
  · exact absurd h0 (by decide)
  · exact ne_minus_of_mem_toDigitsCore _ _ _ hd rfl

/-- Round trip: the `%03d` field of `n` reads back as `n`. -/
theorem parse03d_sprintf03d (n : ℤ) : parse03d (sprintf03d n) = n := by
  unfold sprintf03d
  split
  · simp only [parse03d, String.data_append]
    show -((decimalValue (zeroPad 2 (Nat.toDigits 10 n.natAbs)).data : ℕ) : ℤ) = n
    rw [decimalValue_zeroPad]
    omega
  · unfold parse03d
    split
    · rename_i cs h
      exact absurd h (zeroPad_data_ne_minus _ _ _)
    · rw [decimalValue_zeroPad]
      omega

theorem sprintf03d_injective : Function.Injective sprintf03d := fun a b h => by
  rw [← parse03d_sprintf03d a, h, parse03d_sprintf03d]

/-- Names built from one prefix are distinct for distinct numbers. -/
theorem append_sprintf03d_injective (p : String) : Function.Injective (p ++ sprintf03d ·) :=
  fun a b h => sprintf03d_injective <| String.ext <| List.append_cancel_left <| by
    simpa only [String.data_append] using congrArg String.data h

end DraDriverCpu
