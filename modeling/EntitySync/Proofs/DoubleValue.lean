import Mathlib
import EntitySync.Json.Number

/-!
# Values of numbers

The rational number that a double or a JSON number denotes. Magnitudes of doubles are counted in
units in the last place: the next magnitude is one unit larger, so that magnitudes are ordered as
the numbers that they denote, and only the two zeros denote the same number.
-/

namespace EntitySync

namespace Double

/-! ### Magnitudes -/

/-- The number that a magnitude denotes. -/
def valueOf (magnitude : ℕ) : ℚ :=
  significandOf magnitude * 2 ^ exponentOf magnitude

@[simp] lemma valueOf_zero : valueOf 0 = 0 := by
  simp [valueOf, significandOf]

/-- The next magnitude has the next significand; a full significand carries into the exponent. -/
lemma significandOf_succ (m : ℕ) :
    (exponentOf (m + 1) = exponentOf m ∧ significandOf (m + 1) = significandOf m + 1) ∨
    (exponentOf (m + 1) = exponentOf m + 1 ∧ 2 * significandOf (m + 1) = significandOf m + 1) := by
  unfold significandOf exponentOf hiddenBit
  split_ifs <;> omega

lemma valueOf_succ (m : ℕ) : valueOf (m + 1) = valueOf m + 2 ^ exponentOf m := by
  unfold valueOf
  rcases significandOf_succ m with ⟨he, hs⟩ | ⟨he, hs⟩
  · rw [he, hs]
    push_cast
    ring
  · have hs : (2 : ℚ) * significandOf (m + 1) = significandOf m + 1 := by exact_mod_cast hs
    calc (significandOf (m + 1) : ℚ) * 2 ^ exponentOf (m + 1)
        = 2 * significandOf (m + 1) * 2 ^ exponentOf m := by
          rw [he, zpow_add_one₀ two_ne_zero]
          ring
      _ = significandOf m * 2 ^ exponentOf m + 2 ^ exponentOf m := by
          rw [hs]
          ring

/-- Magnitudes are ordered as the numbers that they denote. -/
lemma valueOf_strictMono : StrictMono valueOf := by
  refine strictMono_nat_of_lt_succ fun m => ?_
  rw [valueOf_succ]
  exact lt_add_of_pos_right _ (by positivity)

lemma valueOf_nonneg (m : ℕ) : 0 ≤ valueOf m := by
  rw [← valueOf_zero]
  exact valueOf_strictMono.monotone m.zero_le

/-- The ratio of a magnitude is the number that it denotes. -/
lemma ratioOf_spec (m : ℕ) :
    0 < (ratioOf m).2 ∧ valueOf m = (ratioOf m).1 / (ratioOf m).2 := by
  unfold valueOf ratioOf
  by_cases he : 0 ≤ exponentOf m
  · obtain ⟨n, hn⟩ := Int.eq_ofNat_of_zero_le he
    simp [hn]
  · obtain ⟨n, hn⟩ := Int.eq_ofNat_of_zero_le (a := -exponentOf m) (by omega)
    have he' : exponentOf m = -n := by omega
    simp only [he, ↓reduceIte, hn, Int.toNat_natCast, Nat.pow_eq]
    refine ⟨Nat.pow_pos two_pos, ?_⟩
    rw [he', zpow_neg, zpow_natCast, div_eq_mul_inv]
    norm_num

/-- A magnitude denotes a natural number if its ratio leaves no remainder. -/
lemma ratioOf_whole_iff (m k : ℕ) :
    ((ratioOf m).1 % (ratioOf m).2 = 0 ∧ (ratioOf m).1 / (ratioOf m).2 = k) ↔ valueOf m = k := by
  obtain ⟨hpos, hvalue⟩ := ratioOf_spec m
  have hden : ((ratioOf m).2 : ℚ) ≠ 0 := by exact_mod_cast hpos.ne'
  rw [hvalue, div_eq_iff hden]
  constructor
  · rintro ⟨hmod, rfl⟩
    exact_mod_cast (Nat.div_mul_cancel (Nat.dvd_of_mod_eq_zero hmod)).symm
  · intro h
    have h : (ratioOf m).1 = k * (ratioOf m).2 := by exact_mod_cast h
    rw [h]
    exact ⟨Nat.mul_mod_left _ _, Nat.mul_div_cancel _ hpos⟩

/-! ### Doubles -/

/-- The number that a double denotes. -/
def value (d : Double) : ℚ :=
  if d.negative then -valueOf d.magnitude else valueOf d.magnitude

lemma abs_value (d : Double) : |d.value| = valueOf d.magnitude := by
  unfold value
  split_ifs
  · rw [abs_neg, abs_of_nonneg (valueOf_nonneg _)]
  · exact abs_of_nonneg (valueOf_nonneg _)

lemma magnitude_eq_of_value_eq {a b : Double} (h : a.value = b.value) :
    a.magnitude = b.magnitude := by
  apply valueOf_strictMono.injective
  rw [← abs_value, ← abs_value, h]

/-- A number other than zero is denoted by one double only. -/
lemma eq_of_value_eq {a b : Double} (h : a.value = b.value) (h0 : a.value ≠ 0) : a = b := by
  have hm := magnitude_eq_of_value_eq h
  obtain ⟨sign, magnitude, _⟩ := a
  obtain ⟨sign', magnitude', _⟩ := b
  subst hm
  have hs : sign = sign' := by
    by_contra hne
    -- with different signs the number is its own opposite
    have hzero : valueOf magnitude = 0 := by
      cases sign <;> cases sign' <;> simp [value] at h hne <;> linarith
    exact h0 (by simp [value, hzero])
  subst hs
  rfl

lemma toInt?_eq_ratio (d : Double) :
    d.toInt? = Option.map (fun n : ℕ => if d.negative then -(n : ℤ) else n)
      (if (ratioOf d.magnitude).1 % (ratioOf d.magnitude).2 = 0
        then some ((ratioOf d.magnitude).1 / (ratioOf d.magnitude).2) else none) := by
  unfold toInt? ratioOf significand exponent
  by_cases he : 0 ≤ exponentOf d.magnitude
  · simp [he, Nat.mod_one]
  · simp only [he, ↓reduceIte]
    split_ifs <;> rfl

/-- A double is read as an integer exactly if it denotes that integer. -/
lemma toInt?_eq_some_iff {d : Double} {i : ℤ} : d.toInt? = some i ↔ d.value = i := by
  rw [toInt?_eq_ratio, Option.map_eq_some_iff]
  simp only [Option.ite_none_right_eq_some, Option.some.injEq, ratioOf_whole_iff]
  constructor
  · rintro ⟨k, hk, rfl⟩
    unfold value
    split_ifs <;> simp [hk]
  · intro h
    have habs : valueOf d.magnitude = i.natAbs := by
      rw [← abs_value, h, Nat.cast_natAbs, Int.cast_abs]
    refine ⟨i.natAbs, habs, ?_⟩
    have hpos := valueOf_nonneg d.magnitude
    unfold value at h
    split_ifs at h ⊢
    · have : (i : ℚ) ≤ 0 := by linarith
      have : i ≤ 0 := by exact_mod_cast this
      omega
    · have : (0 : ℚ) ≤ i := by linarith
      have : 0 ≤ i := by exact_mod_cast this
      omega

end Double

/-- The number that a JSON number denotes, whatever its kind. -/
def Number.value : Number → ℚ
  | .integer n _ => n
  | .double d => d.value

end EntitySync
