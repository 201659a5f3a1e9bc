import EntitySync.Proofs.Percent
import EntitySync.Url.Path

/-!
# Resolved paths

The segments in front of the last slashes of a path are resolved in the same way whatever follows. A
segment that follows is kept behind them, unless it is `.` or `..`: the first is left out, and the
second takes one of them away. An encoded segment is read as it is, so that no text but these two is
taken for one of them.
-/

namespace EntitySync

namespace Percent

variable {segment : List Char} {c : Char}

/-! ### Characters of encoded segments -/

/-- A character of an encoded segment. -/
def IsWritten (c : Char) : Prop := IsPlain c ∨ c = '%'

instance (c : Char) : Decidable (IsWritten c) :=
  inferInstanceAs (Decidable (_ ∨ _))

lemma IsHex.isPlain (h : IsHex c) : IsPlain c := by
  have hall : "0123456789ABCDEF".toList.all Char.isAlphanum = true := rfl
  exact Or.inl (List.all_eq_true.mp hall c h)

lemma Segment.isWritten (h : Segment segment) : ∀ c ∈ segment, IsWritten c := by
  induction h with
  | nil => simp
  | plain hplain _ ih => exact List.forall_mem_cons.mpr ⟨Or.inl hplain, ih⟩
  | escape hhigh hlow _ ih =>
    exact List.forall_mem_cons.mpr ⟨Or.inr rfl, List.forall_mem_cons.mpr ⟨Or.inl hhigh.isPlain,
      List.forall_mem_cons.mpr ⟨Or.inl hlow.isPlain, ih⟩⟩⟩

lemma IsWritten.toNat_lt (h : IsWritten c) : c.toNat < 128 := by
  rcases h with (halnum | rfl | rfl | rfl | rfl) | rfl
  · simp only [Char.isAlphanum, Char.isAlpha, Char.isUpper, Char.isLower, Char.isDigit,
      Bool.or_eq_true, Bool.and_eq_true, decide_eq_true_eq, UInt32.le_iff_toNat_le] at halnum
    have hcode : c.toNat = c.val.toNat := rfl
    have hupper : 'Z'.val.toNat = 90 := rfl
    have hlower : 'z'.val.toNat = 122 := rfl
    have hdigit : '9'.val.toNat = 57 := rfl
    omega
  all_goals decide

/-- A character of an encoded segment is visible and no mark of a URL. -/
lemma IsWritten.spec (h : IsWritten c) :
    0x20 < c.toNat ∧ isPlainBut UrlPath.encodedMarks (Utf8.byte c) = true ∧
      c ∉ ['/', '\\', ':', '?', '#'] := by
  have hall : ∀ n < 128, IsWritten (Char.ofNat n) → 0x20 < (Char.ofNat n).toNat ∧
      isPlainBut UrlPath.encodedMarks (Utf8.byte (Char.ofNat n)) = true ∧
        Char.ofNat n ∉ ['/', '\\', ':', '?', '#'] := by
    decide +kernel
  have hc := hall c.toNat h.toNat_lt
  rw [Char.ofNat_toNat] at hc
  exact hc h

/-- Characters that stand for themselves are not encoded. -/
lemma encodeBut_of_isPlainBut {marks : String} {cs : List Char}
    (h : ∀ c ∈ cs, c.toNat < 128 ∧ isPlainBut marks (Utf8.byte c) = true) :
    encodeBut marks cs = cs := by
  rw [encodeBut, Utf8.encode_ofList, Utf8.ofChars_of_ascii fun c hc => (h c hc).1, encodeBytes,
    List.flatMap_map]
  calc cs.flatMap (fun c => encodeByte (isPlainBut marks) (Utf8.byte c))
      = cs.flatMap fun c => [c] := by
        refine List.flatMap_congr fun c hc => ?_
        obtain ⟨hascii, hplain⟩ := h c hc
        rw [encodeByte, if_pos hplain, Utf8.toNat_byte hascii, Char.ofNat_toNat]
    _ = cs := List.flatMap_singleton' cs

lemma encodeBut_nil (marks : String) : encodeBut marks [] = [] :=
  encodeBut_of_isPlainBut (by simp)

end Percent

namespace UrlPath

variable {kept front rest : List (List Char)} {segment text : List Char} {c : Char}

/-! ### Dots -/

/-- The segments kept when one more is resolved, the last one first. -/
def keep (kept : List (List Char)) (segment : List Char) : List (List Char) :=
  if segment = ['.'] then kept
  else if segment = ['.', '.'] then parent kept
  else segment :: kept

lemma resolveSegments_cons (kept : List (List Char)) (segment : List Char) (hne : rest ≠ []) :
    resolveSegments kept (segment :: rest) = resolveSegments (keep kept segment) rest := by
  cases rest with
  | nil => exact absurd rfl hne
  | cons next rest =>
    rw [resolveSegments, keep]
    · split_ifs <;> rfl
    · exact fun h => List.cons_ne_nil _ _ h

lemma resolveSegments_append (kept front : List (List Char)) (hne : rest ≠ []) :
    resolveSegments kept (front ++ rest) = resolveSegments (front.foldl keep kept) rest := by
  induction front generalizing kept with
  | nil => rfl
  | cons segment front ih =>
    rw [List.cons_append, resolveSegments_cons kept segment (by simp [hne]), ih, List.foldl_cons]

/-- A path with a slash at its end. -/
lemma resolveSegments_nil (kept : List (List Char)) :
    resolveSegments kept [[]] = kept.reverse ++ [[]] := by
  simp [resolveSegments]

lemma resolveSegments_pair (kept : List (List Char)) (segment : List Char) :
    resolveSegments kept [segment, []] = (keep kept segment).reverse ++ [[]] := by
  rw [resolveSegments_cons kept segment (List.cons_ne_nil _ _), resolveSegments_nil]

/-! ### Encoded segments -/

lemma decodeDots_cons (hne : c ≠ '%') (cs : List Char) :
    decodeDots (c :: cs) = c :: decodeDots cs := by
  rw [decodeDots]
  rintro _ _ rfl
  exact absurd rfl hne

/-- An escape that is not the one of a dot is not decoded. -/
lemma decodeDots_escape {high low : Char} (hhigh : high ≠ '%') (hlow : low ≠ '%')
    (hdot : ¬ (high = '2' ∧ (low = 'e' ∨ low = 'E'))) (cs : List Char) :
    decodeDots ('%' :: high :: low :: cs) = '%' :: high :: low :: decodeDots cs := by
  by_cases htwo : high = '2'
  · subst htwo
    rw [decodeDots, if_neg (by simpa using hdot)]
  · rw [decodeDots, decodeDots_cons hhigh, decodeDots_cons hlow]
    rintro _ _ - heq
    exact htwo (List.cons.inj heq).1

/-- A dot needs no encoding, so no byte is written as its escape. -/
lemma decodeDots_encodeByte_append (b : UInt8) (cs : List Char) :
    decodeDots (Percent.encodeByte Percent.isUnreserved b ++ cs) =
      Percent.encodeByte Percent.isUnreserved b ++ decodeDots cs := by
  have hall : ∀ n < 256, Percent.isUnreserved (.ofNat n) = false →
      Percent.hexDigit (n / 16) ≠ '%' ∧ Percent.hexDigit (n % 16) ≠ '%' ∧
        ¬ (Percent.hexDigit (n / 16) = '2' ∧
          (Percent.hexDigit (n % 16) = 'e' ∨ Percent.hexDigit (n % 16) = 'E')) := by
    decide +kernel
  rw [Percent.encodeByte]
  split
  next hplain => exact decodeDots_cons (Percent.plain_of_isUnreserved hplain).1.ne_percent cs
  next hescaped =>
    have hb := hall b.toNat b.toNat_lt
    rw [UInt8.ofNat_toNat] at hb
    obtain ⟨hhigh, hlow, hdot⟩ := hb (Bool.eq_false_iff.mpr hescaped)
    exact decodeDots_escape hhigh hlow hdot cs

lemma plainSegment_nil : plainSegment [] = [] := rfl

lemma plainSegment_encode (endpoint : String) :
    plainSegment (Percent.encode endpoint).toList = (Percent.encode endpoint).toList := by
  have hbytes : ∀ bytes, decodeDots (Percent.encodeBytes Percent.isUnreserved bytes) =
      Percent.encodeBytes Percent.isUnreserved bytes := by
    intro bytes
    induction bytes with
    | nil => rfl
    | cons b bytes ih =>
      rw [Percent.encodeBytes, List.flatMap_cons, decodeDots_encodeByte_append]
      exact congrArg _ ih
  rw [plainSegment, Percent.encode, String.toList_ofList, hbytes, ite_self]

/-- A text that needs no encoding is the encoded form of no other. -/
lemma toList_encode_eq_iff {endpoint : String} (name : String)
    (hname : Percent.encode name = name) :
    (Percent.encode endpoint).toList = name.toList ↔ endpoint = name := by
  conv_lhs => rw [← hname]
  rw [String.toList_inj, Percent.encode_injective.eq_iff]

lemma keep_encode (kept : List (List Char)) (endpoint : String) :
    keep kept (Percent.encode endpoint).toList =
      if endpoint = "." then kept
      else if endpoint = ".." then parent kept
      else (Percent.encode endpoint).toList :: kept := by
  have hdot : (Percent.encode endpoint).toList = ['.'] ↔ endpoint = "." :=
    toList_encode_eq_iff "." (by decide +kernel)
  have hdots : (Percent.encode endpoint).toList = ['.', '.'] ↔ endpoint = ".." :=
    toList_encode_eq_iff ".." (by decide +kernel)
  simp only [keep, hdot, hdots]

lemma encodeBut_of_isWritten {cs : List Char} (h : ∀ c ∈ cs, Percent.IsWritten c) :
    Percent.encodeBut encodedMarks cs = cs :=
  Percent.encodeBut_of_isPlainBut fun c hc => ⟨(h c hc).toNat_lt, (h c hc).spec.2.1⟩

/-- The letter of a drive is written as it is. -/
lemma encodeBut_of_isDriveLetter {cs : List Char} (h : isDriveLetter cs = true) :
    Percent.encodeBut encodedMarks cs = cs := by
  unfold isDriveLetter at h
  split at h
  next letter mark =>
    simp only [Bool.and_eq_true, Bool.or_eq_true, decide_eq_true_eq] at h
    obtain ⟨halpha, hmark⟩ := h
    have hletter : Percent.IsWritten letter :=
      Or.inl (Or.inl (by rw [Char.isAlphanum, halpha, Bool.true_or]))
    refine Percent.encodeBut_of_isPlainBut ?_
    simp only [List.mem_cons, List.not_mem_nil, or_false, forall_eq_or_imp, forall_eq]
    refine ⟨⟨hletter.toNat_lt, hletter.spec.2.1⟩, ?_⟩
    rcases hmark with rfl | rfl <;> decide +kernel
  next => cases h

/-! ### Texts -/

/-- The path that a text writes behind the segments that are kept, the last one of these first. -/
def behind (kept : List (List Char)) (text : List Char) : UrlPath :=
  .segments ((resolveSegments kept ((text.splitOn '/').map plainSegment)).map
    (Percent.encodeBut encodedMarks))

/-- The segments in front of a slash do not depend on what follows it. The first character of the
text is left out, as it is for the paths of URLs. -/
lemma exists_segmentsOf_eq (text : List Char) : ∃ kept, ∀ rest,
    segments (segmentsOf ((text ++ '/' :: rest).drop 1)) = behind kept rest := by
  cases text with
  | nil => exact ⟨[], fun rest => rfl⟩
  | cons c text =>
    refine ⟨((text.splitOn '/').map plainSegment).foldl keep [], fun rest => ?_⟩
    rw [List.cons_append, List.drop_succ_cons, List.drop_zero, segmentsOf, removeDotSegments,
      List.splitOn_append_cons_self, List.map_append, resolveSegments_append, behind]
    simp [List.splitOn_ne_nil]

/-- The segments that are kept, as they are written. -/
def written (kept : List (List Char)) : List (List Char) :=
  kept.reverse.map (Percent.encodeBut encodedMarks)

lemma written_cons (segment : List Char) (kept : List (List Char)) :
    written (segment :: kept) = written kept ++ [Percent.encodeBut encodedMarks segment] := by
  simp [written]

lemma behind_nil (kept : List (List Char)) : behind kept [] = .segments (written kept ++ [[]]) := by
  rw [behind, List.splitOn_nil, List.map_singleton, plainSegment_nil, resolveSegments_nil,
    List.map_append, List.map_singleton, Percent.encodeBut_nil, written]

/-- An encoded segment and a slash behind it. -/
lemma behind_encode (kept : List (List Char)) (endpoint : String) :
    behind kept ((Percent.encode endpoint).toList ++ ['/']) =
      .segments (written (keep kept (Percent.encode endpoint).toList) ++ [[]]) := by
  have hslash : '/' ∉ (Percent.encode endpoint).toList := fun hmem =>
    ((Percent.segment_encode endpoint).isWritten '/' hmem).spec.2.2 List.mem_cons_self
  rw [behind, List.splitOn_append_cons_self, List.splitOn_eq_singleton hslash, List.splitOn_nil,
    List.singleton_append, List.map_cons, List.map_singleton, plainSegment_nil, plainSegment_encode,
    resolveSegments_pair, List.map_append, List.map_singleton, Percent.encodeBut_nil, written]

/-- A name that is no dot segment is kept. -/
lemma behind_encode_of_ne {endpoint : String} (hdot : endpoint ≠ ".") (hdots : endpoint ≠ "..")
    (kept : List (List Char)) :
    behind kept ((Percent.encode endpoint).toList ++ ['/']) =
      .segments (written kept ++ [(Percent.encode endpoint).toList, []]) := by
  rw [behind_encode, keep_encode, if_neg hdot, if_neg hdots, written_cons,
    encodeBut_of_isWritten (Percent.segment_encode endpoint).isWritten, List.append_assoc]
  rfl

lemma behind_dot (kept : List (List Char)) :
    behind kept ((Percent.encode ".").toList ++ ['/']) = .segments (written kept ++ [[]]) := by
  rw [behind_encode, keep_encode, if_pos rfl]

lemma behind_dots (kept : List (List Char)) :
    behind kept ((Percent.encode "..").toList ++ ['/']) =
      .segments (written (parent kept) ++ [[]]) := by
  rw [behind_encode, keep_encode, if_neg (by decide), if_pos rfl]

/-- The last segment is taken away, unless it is the letter of a drive. -/
lemma written_parent (kept : List (List Char)) :
    written (parent kept) = (written kept).dropLast ∨
      written (parent kept) = written kept ∧ ∃ drive ∈ (written kept).getLast?,
        isDriveLetter drive = true := by
  cases kept with
  | nil => exact Or.inl rfl
  | cons last kept =>
    rw [parent, written_cons, List.dropLast_concat, List.getLast?_concat]
    split_ifs with hdrive
    · refine Or.inr ⟨written_cons last kept, _, rfl, ?_⟩
      rwa [encodeBut_of_isDriveLetter hdrive]
    · exact Or.inl rfl

lemma length_written_parent_le (kept : List (List Char)) :
    (written (parent kept)).length ≤ (written kept).length := by
  rcases written_parent kept with h | ⟨h, -⟩
  · rw [h, List.length_dropLast]
    exact Nat.sub_le _ _
  · rw [h]

end UrlPath

end EntitySync
