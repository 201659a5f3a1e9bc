import EntitySync.Proofs.Json.Bytes
import EntitySync.Text.Percent

/-!
# Percent-encoded segments

A text is encoded byte by byte. What stands for a byte is a character that needs no encoding, or an
escape, and from either the byte is decoded again; so the whole segment decodes to the bytes of the
text, and no two texts have the same segment.
-/

namespace EntitySync

namespace Utf8

lemma encode_injective : Function.Injective encode := by
  intro a b h
  have hdecode := congrArg decode? h
  rwa [decode?_encode, decode?_encode, Option.some.injEq] at hdecode

end Utf8

namespace Percent

variable {b : UInt8} {c : Char} {rest : List Char}

/-! ### Grammar -/

/-- The character stands for itself: an ASCII letter, a digit, or one of four marks. -/
def IsPlain (c : Char) : Prop :=
  c.isAlphanum ∨ c = '-' ∨ c = '_' ∨ c = '.' ∨ c = '~'

instance (c : Char) : Decidable (IsPlain c) :=
  inferInstanceAs (Decidable (_ ∨ _))

/-- A hexadecimal digit in uppercase. -/
def IsHex (c : Char) : Prop :=
  c ∈ "0123456789ABCDEF".toList

instance (c : Char) : Decidable (IsHex c) :=
  inferInstanceAs (Decidable (_ ∈ _))

/-- Plain characters, and escapes of a percent sign and two hexadecimal digits. -/
inductive Segment : List Char → Prop where
  | nil : Segment []
  | plain {c : Char} {rest : List Char} (hplain : IsPlain c) (hrest : Segment rest) :
      Segment (c :: rest)
  | escape {high low : Char} {rest : List Char} (hhigh : IsHex high) (hlow : IsHex low)
      (hrest : Segment rest) : Segment ('%' :: high :: low :: rest)

/-! ### Characters and digits -/

lemma IsPlain.ne_percent (h : IsPlain c) : c ≠ '%' := by
  rintro rfl
  revert h
  decide

/-- An unreserved byte is the code of a plain character. -/
lemma plain_of_isUnreserved (h : isUnreserved b = true) :
    IsPlain (Char.ofNat b.toNat) ∧ String.utf8EncodeChar (Char.ofNat b.toNat) = [b] := by
  have hall : ∀ n < 256, isUnreserved (.ofNat n) = true →
      IsPlain (Char.ofNat n) ∧ String.utf8EncodeChar (Char.ofNat n) = [.ofNat n] := by
    decide +kernel
  have hb := hall b.toNat b.toNat_lt
  rw [UInt8.ofNat_toNat] at hb
  exact hb h

/-- A hexadecimal digit is read as its value. -/
lemma hexDigit_spec {n : ℕ} (h : n < 16) :
    IsHex (hexDigit n) ∧ Text.digitValue? 16 (hexDigit n) = some n := by
  revert h n
  decide

/-! ### One byte -/

/-- A byte is encoded as the plain character whose code it is, or as an escape of its value. -/
lemma encodeByte_cases (b : UInt8) :
    (∃ c, encodeByte isUnreserved b = [c] ∧ IsPlain c ∧ String.utf8EncodeChar c = [b]) ∨
    ∃ high low m n, encodeByte isUnreserved b = ['%', high, low] ∧ IsHex high ∧ IsHex low ∧
      Text.digitValue? 16 high = some m ∧ Text.digitValue? 16 low = some n ∧
      (16 * m + n).toUInt8 = b := by
  unfold encodeByte
  split
  next hplain => exact Or.inl ⟨_, rfl, plain_of_isUnreserved hplain⟩
  next =>
    have hb : b.toNat < 256 := b.toNat_lt
    have hvalue : 16 * (b.toNat / 16) + b.toNat % 16 = b.toNat := Nat.div_add_mod _ _
    obtain ⟨hhigh, hm⟩ := hexDigit_spec (show b.toNat / 16 < 16 by omega)
    obtain ⟨hlow, hn⟩ := hexDigit_spec (show b.toNat % 16 < 16 by omega)
    exact Or.inr ⟨_, _, _, _, rfl, hhigh, hlow, hm, hn, by rw [hvalue]; exact b.ofNat_toNat⟩

lemma segment_encodeByte_append (b : UInt8) (h : Segment rest) :
    Segment (encodeByte isUnreserved b ++ rest) := by
  rcases encodeByte_cases b with ⟨c, hc, hplain, -⟩ | ⟨high, low, m, n, hc, hhigh, hlow, -⟩
  · rw [hc]
    exact .plain hplain h
  · rw [hc]
    exact .escape hhigh hlow h

/-- A byte is decoded from what stands for it, whatever comes behind. -/
lemma decode?_encodeByte_append (b : UInt8) (rest : List Char) :
    decode? (encodeByte isUnreserved b ++ rest) = (decode? rest).map (b :: ·) := by
  rcases encodeByte_cases b with ⟨c, hc, hplain, hcode⟩ | ⟨high, low, m, n, hc, -, -, hm, hn, rfl⟩
  · rw [hc, List.singleton_append, decode?, if_neg hplain.ne_percent, hcode]
    · rfl
    · exact fun _ _ _ hpercent => absurd hpercent hplain.ne_percent
  · rw [hc, List.cons_append, List.cons_append, List.singleton_append, decode?, hm, hn]
    cases decode? rest <;> rfl

/-! ### Texts -/

lemma segment_encodeBytes (bytes : List UInt8) : Segment (encodeBytes isUnreserved bytes) := by
  induction bytes with
  | nil => exact .nil
  | cons b bytes ih => exact segment_encodeByte_append b ih

lemma decode?_encodeBytes (bytes : List UInt8) :
    decode? (encodeBytes isUnreserved bytes) = some bytes := by
  induction bytes with
  | nil => rfl
  | cons b bytes ih =>
    have hcons : encodeBytes isUnreserved (b :: bytes) =
        encodeByte isUnreserved b ++ encodeBytes isUnreserved bytes := rfl
    rw [hcons, decode?_encodeByte_append, ih, Option.map_some]

lemma segment_encode (text : String) : Segment (encode text).toList := by
  rw [encode, String.toList_ofList]
  exact segment_encodeBytes _

/-- An encoded text decodes to the bytes of the text. -/
lemma decode?_encode (text : String) : decode? (encode text).toList = some (Utf8.encode text) := by
  rw [encode, String.toList_ofList]
  exact decode?_encodeBytes _

lemma encode_injective : Function.Injective encode := by
  intro a b h
  have hdecode := decode?_encode a
  rw [h, decode?_encode, Option.some.injEq] at hdecode
  exact Utf8.encode_injective hdecode.symm

end Percent

end EntitySync
