import EntitySync.Proofs.DoubleValue
import EntitySync.Record

/-!
# Identity of records

Two records have the same id exactly if their `id` members match strictly, numbers by the rational
number that they denote. The proof goes through the two comparable forms of a number: integers below
the bound in magnitude have the integer form, whatever their kind, and all others are doubles that
keep their own form. Which form a number has depends on its value alone.
-/

namespace EntitySync

/-! ### Comparable forms of a number -/

namespace RecordId

/-- The first magnitude that is not kept as an integer. -/
def bound : ℚ := Double.valueOf (Double.powerOfTen 38)

/-- The double nearest to `10 ^ 38`. -/
lemma bound_eq : bound = 99999999999999997748809823456034029568 := by
  have hpower : Double.powerOfTen 38 = 0x47D2CED32A16A1B1 := by decide +kernel
  rw [bound, hpower, Double.valueOf]
  have hs : Double.significandOf 0x47D2CED32A16A1B1 = 5293955920339377 := by decide +kernel
  have he : Double.exponentOf 0x47D2CED32A16A1B1 = 74 := by decide +kernel
  rw [hs, he]
  norm_num

lemma magnitude_lt_powerOfTen_iff (d : Double) :
    d.magnitude < Double.powerOfTen 38 ↔ |d.value| < bound := by
  rw [Double.abs_value, bound, Double.valueOf_strictMono.lt_iff_lt]

/-- Integers of 64 bits are below the bound. -/
lemma abs_lt_bound_of_inRange {n : ℤ}
    (h : -9223372036854775808 ≤ n ∧ n ≤ 18446744073709551615) : |(n : ℚ)| < bound := by
  have hlow : (-9223372036854775808 : ℚ) ≤ n := by exact_mod_cast h.1
  have hhigh : (n : ℚ) ≤ 18446744073709551615 := by exact_mod_cast h.2
  rw [bound_eq, abs_lt]
  constructor <;> linarith

lemma ofDouble_eq_integer_iff {d : Double} {i : ℤ} :
    ofDouble d = .integer i ↔ d.value = i ∧ |d.value| < bound := by
  rw [← Double.toInt?_eq_some_iff, ← magnitude_lt_powerOfTen_iff]
  unfold ofDouble
  cases h : d.toInt? with
  | none => simp
  | some n => split_ifs with hlt <;> simp [hlt]

/-- The integer form is the form of the integers below the bound. -/
lemma ofNumber_eq_integer_iff {n : Number} {i : ℤ} :
    ofNumber n = .integer i ↔ n.value = i ∧ |n.value| < bound := by
  cases n with
  | integer k hk =>
    simp only [ofNumber, Number.value, RecordId.integer.injEq, Int.cast_inj]
    constructor
    · rintro rfl
      exact ⟨rfl, abs_lt_bound_of_inRange hk⟩
    · exact And.left
  | double d => exact ofDouble_eq_integer_iff

/-- A number that does not have the integer form is a double in its own form. -/
lemma eq_double_of_ofNumber_ne {n : Number} (h : ∀ i, ofNumber n ≠ .integer i) :
    ∃ d, n = .double d ∧ ofNumber n = .double d := by
  cases n with
  | integer k hk => exact absurd rfl (h k)
  | double d =>
    refine ⟨d, rfl, ?_⟩
    simp only [ofNumber, ofDouble] at h ⊢
    cases hi : d.toInt? with
    | none => rfl
    | some k =>
      simp only [hi] at h ⊢
      by_cases hlt : d.magnitude < Double.powerOfTen 38
      · exact absurd (if_pos hlt) (h k)
      · exact if_neg hlt

/-- A number has the integer form, or it is a double in its own form. -/
lemma ofNumber_cases (n : Number) :
    (∃ i, ofNumber n = .integer i) ∨ ∃ d, n = .double d ∧ ofNumber n = .double d := by
  by_cases h : ∃ i, ofNumber n = .integer i
  · exact Or.inl h
  · push Not at h
    exact Or.inr (eq_double_of_ofNumber_ne h)

/-- Numbers have the same form exactly if they denote the same number. -/
lemma ofNumber_eq_iff {m n : Number} : ofNumber m = ofNumber n ↔ m.value = n.value := by
  rcases ofNumber_cases m with ⟨i, hi⟩ | ⟨d, rfl, hd⟩
  · obtain ⟨hvalue, hlt⟩ := ofNumber_eq_integer_iff.mp hi
    rw [hi, eq_comm, ofNumber_eq_integer_iff, hvalue]
    constructor
    · exact fun h => h.1.symm
    · intro h
      rw [← h, ← hvalue]
      exact ⟨rfl, hlt⟩
  · have hm : ∀ i, ofNumber (.double d) ≠ .integer i := by simp [hd]
    rcases ofNumber_cases n with ⟨i, hi⟩ | ⟨d', rfl, hd'⟩
    · -- the double would have the integer form if it denoted the same number
      constructor
      · exact fun h => absurd (h.trans hi) (hm i)
      · intro h
        exact absurd (ofNumber_eq_integer_iff.mpr (h ▸ ofNumber_eq_integer_iff.mp hi)) (hm i)
    · rw [hd, hd', RecordId.double.injEq]
      constructor
      · exact fun h => congrArg Double.value h
      · intro h
        -- zero has the integer form, so the sign of a zero is never compared
        have h0 : d.value ≠ 0 := fun h0 => hm 0 (ofNumber_eq_integer_iff.mpr (by
          simp [Number.value, h0, bound_eq]))
        exact Double.eq_of_value_eq h h0

/-- The integer form is the number itself, within 128 bits. -/
lemma value_eq_of_ofNumber_eq_integer {n : Number} {i : ℤ} (h : ofNumber n = .integer i) :
    n.value = i ∧ -2 ^ 127 ≤ i ∧ i < 2 ^ 127 := by
  obtain ⟨hvalue, hlt⟩ := ofNumber_eq_integer_iff.mp h
  rw [hvalue, bound_eq, abs_lt] at hlt
  refine ⟨hvalue, ?_, ?_⟩
  · have hlow : (-2 ^ 127 : ℚ) ≤ i := by linarith
    exact_mod_cast hlow
  · have hhigh : (i : ℚ) < 2 ^ 127 := by linarith
    exact_mod_cast hhigh

/-- Numbers of different forms are different. -/
lemma value_ne_of_forms_ne {m n : Number} {i : ℤ} {d : Double} (hm : ofNumber m = .integer i)
    (hn : ofNumber n = .double d) : m.value ≠ n.value := by
  rw [Ne, ← ofNumber_eq_iff, hm, hn]
  simp

end RecordId

/-! ### Matching members -/

/-- When the `id` members of two entries match, none standing for a missing member. Objects and
arrays match nothing. -/
inductive MatchingMembers : Option Json → Option Json → Prop where
  | missing : MatchingMembers none none
  | null : MatchingMembers (some .null) (some .null)
  | bool (b : Bool) : MatchingMembers (some (.bool b)) (some (.bool b))
  | number {m n : Number} (h : m.value = n.value) :
      MatchingMembers (some (.number m)) (some (.number n))
  | string (s : String) : MatchingMembers (some (.string s)) (some (.string s))

namespace RecordId

/-- The comparable id of an optional member. -/
def ofOption? : Option Json → Option RecordId
  | none => some .absent
  | some member => ofMember? member

lemma of?_eq_ofOption? (entry : Json) : of? entry = ofOption? (entry.get? "id") := by
  unfold of? ofOption?
  cases entry.get? "id" <;> rfl

/-- The members with a given comparable id. -/
lemma ofOption?_eq_some_iff (member : Option Json) (i : RecordId) :
    ofOption? member = some i ↔
      match i with
      | .absent => member = none
      | .null => member = some .null
      | .bool b => member = some (.bool b)
      | .text s => member = some (.string s)
      | .integer _ | .double _ => ∃ n, member = some (.number n) ∧ ofNumber n = i := by
  cases member with
  | none => cases i <;> simp [ofOption?]
  | some json =>
    cases json with
    | number n =>
      rcases ofNumber_cases n with ⟨k, hn⟩ | ⟨d, -, hn⟩ <;> cases i <;>
        simp [ofOption?, ofMember?, hn]
    | _ => cases i <;> simp [ofOption?, ofMember?]

/-- Members match exactly if they have the same comparable id. -/
lemma matchingMembers_iff (a b : Option Json) :
    MatchingMembers a b ↔ ∃ i, ofOption? a = some i ∧ ofOption? b = some i := by
  constructor
  · intro h
    cases h with
    | missing => exact ⟨.absent, rfl, rfl⟩
    | null => exact ⟨.null, rfl, rfl⟩
    | bool b => exact ⟨.bool b, rfl, rfl⟩
    | @number m n h => exact ⟨ofNumber n, congrArg some (ofNumber_eq_iff.mpr h), rfl⟩
    | string s => exact ⟨.text s, rfl, rfl⟩
  · rintro ⟨i, ha, hb⟩
    rw [ofOption?_eq_some_iff] at ha hb
    cases i with
    | absent => exact ha ▸ hb ▸ .missing
    | null => exact ha ▸ hb ▸ .null
    | bool b => exact ha ▸ hb ▸ .bool b
    | text s => exact ha ▸ hb ▸ .string s
    | integer _ | double _ =>
      obtain ⟨m, rfl, hm⟩ := ha
      obtain ⟨n, rfl, hn⟩ := hb
      exact .number (ofNumber_eq_iff.mp (hm.trans hn.symm))

end RecordId

namespace Record

/-- Records have the same id exactly if their `id` members match, numbers by the numbers that they
denote. Nothing is rounded on the way: a number has one of two forms, the integer form is exact
and fits 128 bits, a double keeps its own form, and the forms denote different numbers. -/
theorem sameId_iff_matchingMembers :
    (∀ a b : Json, (Record.mk a).sameId ⟨b⟩ = true ↔
      MatchingMembers (a.get? "id") (b.get? "id")) ∧
    (∀ n : Number,
      (∃ i : ℤ, RecordId.ofNumber n = .integer i ∧ n.value = i ∧ -2 ^ 127 ≤ i ∧ i < 2 ^ 127) ∨
      ∃ d, RecordId.ofNumber n = .double d ∧ n = .double d) ∧
    ∀ (m n : Number) (i : ℤ) (d : Double),
      ¬ (RecordId.ofNumber m = .integer i ∧ RecordId.ofNumber n = .double d ∧
        m.value = n.value) := by
  refine ⟨fun a b => ?_, fun n => ?_, ?_⟩
  · rw [sameId_iff, RecordId.matchingMembers_iff]
    simp only [id?, RecordId.of?_eq_ofOption?]
  · rcases RecordId.ofNumber_cases n with ⟨i, hi⟩ | ⟨d, hn, hd⟩
    · exact Or.inl ⟨i, hi, RecordId.value_eq_of_ofNumber_eq_integer hi⟩
    · exact Or.inr ⟨d, hd, hn⟩
  · rintro m n i d ⟨hm, hn, hvalue⟩
    exact RecordId.value_ne_of_forms_ne hm hn hvalue

/-- The double `2 ^ 64` is not the integer before it, and a zero is zero with either sign. -/
example :
    let record := fun n : Number => Record.mk (.object [("id", .number n)])
    (record (.integer 18446744073709551615)).sameId
      (record (.double ⟨false, 0x43F0000000000000, by decide⟩)) = false ∧
    (record (.integer 0)).sameId (record (.double ⟨true, 0, by decide⟩)) = true := by
  decide +kernel

end Record

end EntitySync
