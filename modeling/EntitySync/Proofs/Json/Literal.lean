import EntitySync.Json.Literal
import EntitySync.Proofs.Json.Bytes

/-!
# String literals in text

A string literal is read as the text that it was written for. Escapes are taken back one by one; a
character that is written as it is starts with a byte that is no quote, no backslash and no control.
-/

namespace EntitySync

open Utf8 (byte ofChars)

namespace Literal

variable {c : Char} {cs : List Char} {s rest : List UInt8}

/-! ### Hexadecimal digits -/

lemma hexDigit?_digitChar {n : ℕ} (h : n < 16) : hexDigit? (byte n.digitChar) = some n := by
  interval_cases n <;> decide

lemma toNat_digitChar_lt {n : ℕ} (h : n < 16) : n.digitChar.toNat < 128 := by
  interval_cases n <;> decide

/-! ### One character -/

lemma characters_backslash {t : List UInt8} (hescape : escape s = .ok (c, t))
    (htail : characters none t = .ok (cs, rest)) :
    characters none (byte '\\' :: s) = .ok (c :: cs, rest) := by
  rw [characters, if_neg (by decide), if_pos rfl]
  split
  next fault hfault => rw [hescape] at hfault; cases hfault
  next c' t' h =>
    rw [hescape] at h
    cases h
    rw [htail]
    rfl

lemma characters_raw {b : UInt8} {t : List UInt8} (hbytes : String.utf8EncodeChar c = b :: t)
    (hquote : b ≠ byte '"') (hbackslash : b ≠ byte '\\') (hcontrol : ¬ b < 0x20)
    (htail : characters none s = .ok (cs, rest)) :
    characters none (String.utf8EncodeChar c ++ s) = .ok (c :: cs, rest) := by
  have hfirst : Utf8.first? (b :: (t ++ s)) = some c := by
    rw [← List.cons_append, ← hbytes]
    exact Utf8.first?_encodeChar_append c s
  have hlength : c.utf8Size - 1 = t.length := by
    rw [← String.length_utf8EncodeChar, hbytes, List.length_cons, Nat.add_sub_cancel]
  rw [hbytes, List.cons_append, characters]
  simp only [hquote, hbackslash, hcontrol, if_false, hfirst, hlength, List.drop_left, htail]
  rfl

/-- The first byte of a character is the character itself in ASCII, and beyond it is large. -/
lemma exists_utf8EncodeChar_eq (c : Char) :
    ∃ b t, String.utf8EncodeChar c = b :: t ∧ (b = byte c ∧ c.toNat < 128 ∨ 128 ≤ b.toNat) := by
  by_cases hascii : c.toNat < 128
  · exact ⟨byte c, [], Utf8.utf8EncodeChar_of_ascii hascii, Or.inl ⟨rfl, hascii⟩⟩
  · have hlarge : ¬ c.val.toNat ≤ 127 := fun h => hascii (Nat.lt_succ_of_le h)
    simp only [String.utf8EncodeChar, hlarge, if_false]
    split_ifs
    all_goals refine ⟨_, _, rfl, Or.inr ?_⟩; simp only [UInt8.toNat_ofNat']; omega

/-- A character that needs no escape is read as it is. -/
lemma characters_unescaped (hquote : c ≠ '"') (hbackslash : c ≠ '\\') (hcontrol : ¬ c.toNat < 0x20)
    (htail : characters none s = .ok (cs, rest)) :
    characters none (String.utf8EncodeChar c ++ s) = .ok (c :: cs, rest) := by
  obtain ⟨b, t, hbytes, ⟨rfl, hascii⟩ | hlarge⟩ := exists_utf8EncodeChar_eq c
  · refine characters_raw hbytes ?_ ?_ ?_ htail
    · rwa [Ne, Utf8.byte_eq_iff hascii (by decide)]
    · rwa [Ne, Utf8.byte_eq_iff hascii (by decide)]
    · rwa [UInt8.lt_iff_toNat_lt, Utf8.toNat_byte hascii]
  · refine characters_raw hbytes ?_ ?_ ?_ htail
    · rintro rfl
      exact absurd hlarge (by decide)
    · rintro rfl
      exact absurd hlarge (by decide)
    · rw [UInt8.lt_iff_toNat_lt]
      exact fun h => absurd (hlarge.trans_lt h) (by decide)

lemma ofChars_unicodeEscape (h : c.toNat < 0x20) :
    ofChars ['\\', 'u', '0', '0', (c.toNat / 16).digitChar, (c.toNat % 16).digitChar] =
      [byte '\\', byte 'u', byte '0', byte '0', byte (c.toNat / 16).digitChar,
        byte (c.toNat % 16).digitChar] := by
  have hhigh : (c.toNat / 16).digitChar.toNat < 128 := toNat_digitChar_lt (by omega)
  have hlow : (c.toNat % 16).digitChar.toNat < 128 := toNat_digitChar_lt (by omega)
  rw [Utf8.ofChars_of_ascii]
  · simp only [List.map_cons, List.map_nil]
  · simp [hhigh, hlow]

lemma escape_unicode (h : c.toNat < 0x20) (s : List UInt8) :
    escape (byte 'u' :: byte '0' :: byte '0' :: byte (c.toNat / 16).digitChar ::
      byte (c.toNat % 16).digitChar :: s) = .ok (c, s) := by
  have hhigh : hexDigit? (byte (c.toNat / 16).digitChar) = some (c.toNat / 16) :=
    hexDigit?_digitChar (by omega)
  have hlow : hexDigit? (byte (c.toNat % 16).digitChar) = some (c.toNat % 16) :=
    hexDigit?_digitChar (by omega)
  have hzero : hexDigit? (byte '0') = some 0 := rfl
  have hvalue : ((0 * 16 + 0) * 16 + c.toNat / 16) * 16 + c.toNat % 16 = c.toNat := by omega
  have hplain : isLowSurrogate c.toNat = false ∧ isHighSurrogate c.toNat = false := by
    simp only [isLowSurrogate, isHighSurrogate, Bool.and_eq_false_imp, decide_eq_true_eq,
      decide_eq_false_iff_not]
    omega
  simp only [escape, if_true, unicodeEscape, hexQuad, hzero, hhigh, hlow, hvalue, hplain,
    Char.ofNat_toNat]
  rfl

/-- A character is read as it was written. -/
lemma characters_escape (c : Char) (htail : characters none s = .ok (cs, rest)) :
    characters none (ofChars (Json.escape c) ++ s) = .ok (c :: cs, rest) := by
  unfold Json.escape
  split_ifs with h₁ h₂ h₃ h₄ h₅ h₆ h₇ h₈
  -- the escapes of one letter
  iterate 7
    · subst c
      exact characters_backslash rfl htail
  · rw [ofChars_unicodeEscape h₈]
    exact characters_backslash (escape_unicode h₈ s) htail
  · rw [Utf8.ofChars_cons, Utf8.ofChars_nil, List.append_nil]
    exact characters_unescaped h₁ h₂ h₈ htail

/-- A string literal is its opening quote, and what stands behind that is read as the text. -/
lemma exists_run_quote (text : String) :
    ∃ t, ofChars (Json.quote text) = byte '"' :: t ∧
      ∀ rest, reader.run (t ++ rest) = .ok (text, rest) := by
  have hbody : ∀ (cs : List Char) (rest : List UInt8),
      characters none (ofChars (cs.flatMap Json.escape) ++ byte '"' :: rest) = .ok (cs, rest) := by
    intro cs rest
    induction cs with
    | nil => rw [List.flatMap_nil, Utf8.ofChars_nil, List.nil_append, characters, if_pos rfl]
    | cons c cs ih =>
      rw [List.flatMap_cons, Utf8.ofChars_append, List.append_assoc]
      exact characters_escape c ih
  refine ⟨ofChars (text.toList.flatMap Json.escape) ++ [byte '"'], ?_, fun rest => ?_⟩
  · rw [Json.quote, List.cons_append, Utf8.ofChars_cons, Utf8.ofChars_append]
    rfl
  · rw [List.append_assoc, List.singleton_append]
    simp only [reader, hbody, Except.map, String.ofList_toList]

end Literal

end EntitySync
