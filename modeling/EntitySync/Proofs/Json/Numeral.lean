import EntitySync.Proofs.Json.Bytes

/-!
# Integers in text

The decimal text of an integer is read as that integer, whatever stands behind it, as long as it is
not something with which a number literal goes on.
-/

namespace EntitySync

open Utf8 (byte ofChars)

namespace Numeral

variable {ds : List Char} {rest : List UInt8} {n : ℕ}

/-- The byte goes on with a number literal. -/
def continues (b : UInt8) : Bool :=
  isDigit b || b = byte '.' || b = byte 'e' || b = byte 'E'

/-- A number literal that stands in front of the bytes ends there. -/
def Ends (rest : List UInt8) : Prop :=
  ∀ b ∈ rest.head?, continues b = false

lemma ends_cons {b : UInt8} (h : continues b = false) (rest : List UInt8) : Ends (b :: rest) := by
  intro b' hb'
  rw [List.head?_cons, Option.mem_some_iff] at hb'
  exact hb' ▸ h

/-! ### Digits -/

/-- The number that a digit stands for. -/
def digitOf (c : Char) : ℕ := c.toNat - 0x30

lemma toNat_of_isDigit {c : Char} (h : c.isDigit = true) : 48 ≤ c.toNat ∧ c.toNat ≤ 57 := by
  simp only [Char.isDigit, Bool.and_eq_true, decide_eq_true_eq, UInt32.le_iff_toNat_le] at h
  exact h

lemma toNat_lt_of_isDigit {c : Char} (h : c.isDigit = true) : c.toNat < 128 :=
  (toNat_of_isDigit h).2.trans_lt (by decide)

lemma toNat_byte_of_isDigit {c : Char} (h : c.isDigit = true) : (byte c).toNat = c.toNat :=
  Utf8.toNat_byte (toNat_lt_of_isDigit h)

lemma isDigit_byte {c : Char} (h : c.isDigit = true) : isDigit (byte c) = true := by
  have hbounds := toNat_of_isDigit h
  simp only [isDigit, Bool.and_eq_true, decide_eq_true_eq, UInt8.le_iff_toNat_le,
    toNat_byte_of_isDigit h]
  exact hbounds

lemma ofChars_of_isDigit (h : ∀ c ∈ ds, c.isDigit = true) : ofChars ds = ds.map byte :=
  Utf8.ofChars_of_ascii fun c hc => toNat_lt_of_isDigit (h c hc)

lemma ofChars_cons_of_isDigit {c : Char} (h : c.isDigit = true) (cs : List Char) :
    ofChars (c :: cs) = byte c :: ofChars cs :=
  Utf8.ofChars_cons_of_ascii (toNat_lt_of_isDigit h) cs

lemma byte_ne_minus {c : Char} (h : c.isDigit = true) : byte c ≠ byte '-' := by
  intro heq
  have hdigit := isDigit_byte h
  rw [heq] at hdigit
  exact absurd hdigit (by decide)

lemma Ends.takeWhile_eq_nil (h : Ends rest) : rest.takeWhile isDigit = [] := by
  cases rest with
  | nil => rfl
  | cons b rest =>
    have hb := h b rfl
    simp only [continues, Bool.or_eq_false_iff] at hb
    rw [List.takeWhile_cons_of_neg (by simp [hb.1.1.1])]

lemma Ends.dropWhile_eq (h : Ends rest) : rest.dropWhile isDigit = rest := by
  have hsplit := List.takeWhile_append_dropWhile (p := isDigit) (l := rest)
  rwa [h.takeWhile_eq_nil, List.nil_append] at hsplit

lemma digits_ofChars_append (hdigits : ∀ c ∈ ds, c.isDigit = true) (hends : Ends rest) :
    digits (ofChars ds ++ rest) = ds.map digitOf := by
  have hbytes : ∀ b ∈ ds.map byte, isDigit b = true := by
    simpa using fun c hc => isDigit_byte (hdigits c hc)
  rw [digits, ofChars_of_isDigit hdigits, List.takeWhile_append_of_pos hbytes,
    hends.takeWhile_eq_nil, List.append_nil, List.map_map]
  refine List.map_congr_left fun c hc => ?_
  rw [Function.comp_apply, toNat_byte_of_isDigit (hdigits c hc), digitOf]

lemma dropWhile_ofChars_append (hdigits : ∀ c ∈ ds, c.isDigit = true) (hends : Ends rest) :
    (ofChars ds ++ rest).dropWhile isDigit = rest := by
  have hbytes : ∀ b ∈ ds.map byte, isDigit b = true := by
    simpa using fun c hc => isDigit_byte (hdigits c hc)
  rw [ofChars_of_isDigit hdigits, List.dropWhile_append_of_pos hbytes, hends.dropWhile_eq]

/-! ### Decimal texts -/

lemma isDigit_of_mem_toDigits {c : Char} (h : c ∈ Nat.toDigits 10 n) : c.isDigit = true :=
  Nat.isDigit_of_mem_toDigits (by decide) (by decide) h

lemma valueOfDigits_toDigits (n : ℕ) :
    valueOfDigits ((Nat.toDigits 10 n).map digitOf) = n := by
  rw [valueOfDigits, List.foldl_map]
  exact Nat.ofDigitChars_ten_toDigits

/-- The decimal text of a positive number does not start with a zero. -/
lemma head?_toDigits_ne_zero (h : 0 < n) : (Nat.toDigits 10 n).head? ≠ some '0' := by
  induction n using Nat.strong_induction_on with
  | h n ih =>
    rw [Nat.toDigits_eq_if (by decide)]
    split_ifs with hsmall
    · interval_cases n <;> decide
    · have hfront := ih (n / 10) (by omega) (by omega)
      rwa [List.head?_append_of_ne_nil _ Nat.toDigits_ne_nil]

/-- A leading zero is the only digit. -/
lemma toDigits_eq_singleton_of_head {ds : List Char} (h : Nat.toDigits 10 n = '0' :: ds) :
    ds = [] := by
  rcases Nat.eq_zero_or_pos n with rfl | hpos
  · exact (List.cons.inj h).2.symm
  · have hhead := head?_toDigits_ne_zero hpos
    rw [h] at hhead
    exact absurd rfl hhead

lemma readWhole_toDigits (n : ℕ) (hends : Ends rest) :
    readWhole (ofChars (Nat.toDigits 10 n) ++ rest) =
      .ok ((Nat.toDigits 10 n).map digitOf, rest) := by
  cases htext : Nat.toDigits 10 n with
  | nil => exact absurd htext Nat.toDigits_ne_nil
  | cons c ds =>
    have hdigits : ∀ d ∈ c :: ds, d.isDigit = true := fun d hd =>
      isDigit_of_mem_toDigits (htext ▸ hd)
    have hc : c.isDigit = true := hdigits c List.mem_cons_self
    have hds : ∀ d ∈ ds, d.isDigit = true := fun d hd => hdigits d (List.mem_cons_of_mem c hd)
    have hzero : byte c = byte '0' → (digits (ofChars ds ++ rest)).length = 0 := by
      intro h
      obtain rfl := (Utf8.byte_eq_iff (toNat_lt_of_isDigit hc) (by decide)).mp h
      rw [digits_ofChars_append hds hends, toDigits_eq_singleton_of_head htext]
      rfl
    rw [← digits_ofChars_append hdigits hends, ofChars_cons_of_isDigit hc, List.cons_append]
    simp only [readWhole, isDigit_byte hc, if_true, dropWhile_ofChars_append hds hends]
    rw [if_neg]
    simpa using hzero

lemma Ends.readFraction_eq (h : Ends rest) : readFraction rest = .ok (none, rest) := by
  cases rest with
  | nil => rfl
  | cons b rest =>
    have hb := h b rfl
    simp only [continues, Bool.or_eq_false_iff, decide_eq_false_iff_not] at hb
    simp only [readFraction, hb.1.1.2, if_false]

lemma Ends.readExponent_eq (h : Ends rest) : readExponent rest = .ok (none, rest) := by
  cases rest with
  | nil => rfl
  | cons b rest =>
    have hb := h b rfl
    simp only [continues, Bool.or_eq_false_iff] at hb
    simp [readExponent, hb]

/-! ### Integers -/

lemma readUnsigned_toDigits {negative : Bool} {value : ℤ}
    (hinRange : -9223372036854775808 ≤ value ∧ value ≤ 18446744073709551615)
    (hsign : if negative then value < 0 else 0 ≤ value) (hends : Ends rest) :
    readUnsigned negative (ofChars (Nat.toDigits 10 value.natAbs) ++ rest) =
      .ok (.integer value hinRange, rest) := by
  have hvalue : (if negative then -(value.natAbs : ℤ) else value.natAbs) = value := by
    split_ifs at hsign ⊢ <;> omega
  have hzero : (negative && decide (value.natAbs = 0)) = false := by
    cases negative with
    | false => rfl
    | true => exact decide_eq_false (Int.natAbs_ne_zero.mpr (Int.ne_of_lt hsign))
  have hnumber : number? ⟨negative, (Nat.toDigits 10 value.natAbs).map digitOf, none, none⟩ =
      some (.integer value hinRange) := by
    simp only [number?, integer?, valueOfDigits_toDigits, Option.isSome_none, Bool.false_or, hzero,
      hvalue, Number.ofInt?, dif_pos hinRange]
    rfl
  simp only [readUnsigned, readWhole_toDigits _ hends, hends.readFraction_eq,
    hends.readExponent_eq, hnumber]

/-- The text of an integer starts with a sign or a digit. -/
lemma exists_ofChars_integerText_eq (value : ℤ) :
    ∃ b t, ofChars (Number.integerText value) = b :: t ∧ (b = byte '-' ∨ isDigit b = true) := by
  by_cases hsign : value < 0
  · rw [Number.integerText, if_pos hsign]
    exact ⟨byte '-', _, Utf8.ofChars_cons_of_ascii (by decide) _, Or.inl rfl⟩
  · rw [Number.integerText, if_neg hsign]
    cases htext : Nat.toDigits 10 value.natAbs with
    | nil => exact absurd htext Nat.toDigits_ne_nil
    | cons c ds =>
      have hc : c.isDigit = true := isDigit_of_mem_toDigits (htext ▸ List.mem_cons_self)
      exact ⟨byte c, ofChars ds, ofChars_cons_of_isDigit hc ds, Or.inr (isDigit_byte hc)⟩

/-- The text of an integer is read as that integer. -/
lemma run_integerText {value : ℤ}
    (hinRange : -9223372036854775808 ≤ value ∧ value ≤ 18446744073709551615)
    (hends : Ends rest) :
    reader.run (ofChars (Number.integerText value) ++ rest) =
      .ok (.integer value hinRange, rest) := by
  by_cases hsign : value < 0
  · rw [Number.integerText, if_pos hsign]
    exact readUnsigned_toDigits hinRange hsign hends
  · rw [Number.integerText, if_neg hsign]
    have hread : read (ofChars (Nat.toDigits 10 value.natAbs) ++ rest) =
        readUnsigned false (ofChars (Nat.toDigits 10 value.natAbs) ++ rest) := by
      cases htext : Nat.toDigits 10 value.natAbs with
      | nil => exact absurd htext Nat.toDigits_ne_nil
      | cons c ds =>
        have hc : c.isDigit = true := isDigit_of_mem_toDigits (htext ▸ List.mem_cons_self)
        rw [ofChars_cons_of_isDigit hc, List.cons_append, read, if_neg (byte_ne_minus hc)]
    exact hread.trans (readUnsigned_toDigits hinRange (not_lt.mp hsign) hends)

end Numeral

end EntitySync
