import EntitySync.Json.Parser
import EntitySync.Proofs.Json.Sequence

/-!
# Reading what is printed

A printed value is read as that value, whatever the layout, if its numbers are integers, the keys of
its objects ascend, and it does not nest deeper than the reader goes. The proof is by induction on
the value, with the lemma about sequences for arrays and objects.
-/

namespace EntitySync

open Utf8 (byte ofChars)
open Numeral (Ends)

/-! ### Values -/

namespace Json

variable {levels : ℕ} {v : Json} {layout : JsonLayout} {depth : ℕ}

/-- All numbers in the value are integers. -/
inductive Integral : Json → Prop where
  | null : Integral .null
  | bool (b : Bool) : Integral (.bool b)
  | string (text : String) : Integral (.string text)
  | integer (value : ℤ)
      (hinRange : -9223372036854775808 ≤ value ∧ value ≤ 18446744073709551615) :
      Integral (.number (.integer value hinRange))
  | array {es : List Json} (h : ∀ e ∈ es, Integral e) : Integral (.array es)
  | object {ms : List (String × Json)} (h : ∀ m ∈ ms, Integral m.2) : Integral (.object ms)

/-- The value comes back from its text: its numbers are integers, the keys of its objects ascend,
and it nests at most so many levels. -/
inductive Readable : ℕ → Json → Prop where
  | null (levels : ℕ) : Readable levels .null
  | bool (levels : ℕ) (b : Bool) : Readable levels (.bool b)
  | string (levels : ℕ) (text : String) : Readable levels (.string text)
  | integer (levels : ℕ) (value : ℤ)
      (hinRange : -9223372036854775808 ≤ value ∧ value ≤ 18446744073709551615) :
      Readable levels (.number (.integer value hinRange))
  | array {levels : ℕ} {es : List Json} (h : ∀ e ∈ es, Readable levels e) :
      Readable (levels + 1) (.array es)
  | object {levels : ℕ} {ms : List (String × Json)} (hkeys : Entries.Ascending ms)
      (h : ∀ m ∈ ms, Readable levels m.2) : Readable (levels + 1) (.object ms)

attribute [simp] Readable.null Readable.bool Readable.string Readable.integer

@[simp] lemma readable_array_iff {es : List Json} :
    Readable (levels + 1) (.array es) ↔ ∀ e ∈ es, Readable levels e := by
  constructor
  · rintro ⟨⟩
    assumption
  · exact .array

@[simp] lemma readable_object_iff {ms : List (String × Json)} :
    Readable (levels + 1) (.object ms) ↔
      Entries.Ascending ms ∧ ∀ m ∈ ms, Readable levels m.2 := by
  constructor
  · rintro ⟨⟩
    constructor <;> assumption
  · exact fun h => .object h.1 h.2

lemma Readable.integral (h : Readable levels v) : v.Integral := by
  induction h with
  | null => exact .null
  | bool _ b => exact .bool b
  | string _ text => exact .string text
  | integer _ value hinRange => exact .integer value hinRange
  | array _ ih => exact .array ih
  | object _ _ ih => exact .object ih

/-- A value that may nest so many levels may nest more. -/
lemma Readable.mono {levels' : ℕ} (h : Readable levels v) (hle : levels ≤ levels') :
    Readable levels' v := by
  induction h generalizing levels' with
  | null => exact .null levels'
  | bool _ b => exact .bool levels' b
  | string _ text => exact .string levels' text
  | integer _ value hinRange => exact .integer levels' value hinRange
  | @array levels es _ ih =>
    obtain ⟨levels', rfl⟩ := Nat.exists_eq_add_of_lt hle
    exact .array fun e he => ih e he (by omega)
  | @object levels ms hkeys _ ih =>
    obtain ⟨levels', rfl⟩ := Nat.exists_eq_add_of_lt hle
    exact .object hkeys fun m hm => ih m hm (by omega)

/-! #### Texts of arrays and objects -/

lemma renderElements_eq (layout : JsonLayout) (depth : ℕ) (es : List Json) :
    renderElements layout depth es =
      (es.map (render layout depth)).flatMap fun t => ',' :: layout.lineBreak depth ++ t := by
  induction es with
  | nil => rfl
  | cons e es ih => rw [renderElements, ih, List.map_cons, List.flatMap_cons]

lemma render_array (layout : JsonLayout) (depth : ℕ) (es : List Json) :
    render layout depth (.array es) =
      layout.sequence depth '[' ']' (es.map (render layout (depth + 1))) := by
  cases es with
  | nil => rfl
  | cons e es => rw [render, renderElements_eq, List.map_cons, JsonLayout.sequence]

/-- A member as it is written in an object. -/
def memberText (layout : JsonLayout) (depth : ℕ) (m : String × Json) : List Char :=
  quote m.1 ++ layout.colon ++ render layout depth m.2

lemma renderMembers_eq (layout : JsonLayout) (depth : ℕ) (ms : List (String × Json)) :
    renderMembers layout depth ms =
      (ms.map (memberText layout depth)).flatMap fun t => ',' :: layout.lineBreak depth ++ t := by
  induction ms with
  | nil => rfl
  | cons m ms ih =>
    rw [renderMembers, ih, List.map_cons, List.flatMap_cons, memberText]
    simp only [List.cons_append, List.append_assoc]

lemma render_object (layout : JsonLayout) (depth : ℕ) (ms : List (String × Json)) :
    render layout depth (.object ms) =
      layout.sequence depth '{' '}' (ms.map (memberText layout (depth + 1))) := by
  cases ms with
  | nil => rfl
  | cons m ms =>
    rw [render, renderMembers_eq, List.map_cons, JsonLayout.sequence, memberText]
    simp only [List.cons_append, List.append_assoc]

/-! #### Readers of values -/

open Reader

lemma exists_valueReader_eq (levels : ℕ) :
    ∃ nested, valueReader levels = valueWith nested := by
  cases levels with
  | zero => exact ⟨none, rfl⟩
  | succ levels => exact ⟨some (valueReader levels), rfl⟩

lemma run_valueReader_append {blank : List UInt8} (hblank : ∀ b ∈ blank, isBlank b = true)
    (levels : ℕ) (s : List UInt8) :
    (valueReader levels).run (blank ++ s) = (valueReader levels).run s := by
  obtain ⟨nested, hreader⟩ := exists_valueReader_eq levels
  rw [hreader]
  simp only [valueWith, afterBlanks, skipBlanks_append hblank]

lemma run_valueWith_of_opens {nested : Option (Reader Json)} {s : List UInt8} (h : Opens s)
    (rest : List UInt8) : (valueWith nested).run (s ++ rest) = valueAtFront nested (s ++ rest) := by
  simp only [valueWith, afterBlanks, h.skipBlanks_append]

/-- A number starts with none of the bytes that start other values. -/
lemma valueAtFront_number {nested : Option (Reader Json)} {b : UInt8}
    (hb : b = byte '-' ∨ Numeral.isDigit b = true) (r : List UInt8) :
    valueAtFront nested (b :: r) = (Numeral.reader.map Json.number).run (b :: r) := by
  have hother : b ≠ byte 'n' ∧ b ≠ byte 't' ∧ b ≠ byte 'f' := by
    refine ⟨?_, ?_, ?_⟩ <;> rintro rfl <;> revert hb <;> decide
  have hnumber : (b = byte '-' || Numeral.isDigit b) = true := by simpa using hb
  simp only [valueAtFront, if_neg hother.1, if_neg hother.2.1, if_neg hother.2.2, if_pos hnumber]

lemma opens_number {b : UInt8} (hb : b = byte '-' ∨ Numeral.isDigit b = true) (s : List UInt8) :
    Opens (b :: s) := by
  have hblank : isBlank b = false := by
    rw [Bool.eq_false_iff]
    intro h
    have hcontinues := continues_eq_false_of_isBlank h
    rcases hb with rfl | hb
    · exact absurd h (by decide)
    · simp [Numeral.continues, hb] at hcontinues
  refine opens_cons ⟨hblank, ?_, ?_⟩ s <;> rintro rfl <;> revert hb <;> decide

/-- A printed value starts with a byte that is neither blank nor a closing bracket. -/
lemma Readable.opens_render (h : Readable levels v) (layout : JsonLayout) (depth : ℕ) :
    Opens (ofChars (render layout depth v)) := by
  cases h with
  | null => exact opens_cons (by decide) _
  | bool _ b => cases b <;> exact opens_cons (by decide) _
  | string _ text =>
    obtain ⟨t, htext, -⟩ := Literal.exists_run_quote text
    rw [render, htext]
    exact opens_cons (by decide) t
  | integer _ value =>
    obtain ⟨b, t, htext, hb⟩ := Numeral.exists_ofChars_integerText_eq value
    rw [render, Number.text, htext]
    exact opens_number hb t
  | @array _ es =>
    rw [render_array]
    cases es <;> exact opens_cons (by decide) _
  | @object _ ms =>
    rw [render_object]
    cases ms <;> exact opens_cons (by decide) _

lemma exists_ofChars_colon_eq (layout : JsonLayout) : ∃ blank,
    ofChars layout.colon = byte ':' :: blank ∧ ∀ b ∈ blank, isBlank b = true := by
  cases layout with
  | compact => exact ⟨[], rfl, by simp⟩
  | indented width => exact ⟨[byte ' '], rfl, by simp only [List.mem_singleton, forall_eq]; decide⟩

lemma opens_memberText (layout : JsonLayout) (depth : ℕ) (m : String × Json) :
    Opens (ofChars (memberText layout depth m)) := by
  obtain ⟨t, hquote, -⟩ := Literal.exists_run_quote m.1
  rw [memberText, List.append_assoc, Utf8.ofChars_append, hquote]
  exact opens_cons (by decide) _

/-- A printed member is read back if its value is. -/
lemma memberReader_readsBack {key : String}
    (h : (valueReader levels).ReadsBack (ofChars (render layout depth v)) v) :
    (memberReader (valueReader levels)).ReadsBack
      (ofChars (memberText layout depth (key, v))) (key, v) := by
  intro rest hends
  obtain ⟨t, hquote, hkey⟩ := Literal.exists_run_quote key
  obtain ⟨blank, hcolon, hblank⟩ := exists_ofChars_colon_eq layout
  have hvalue : (valueReader levels).run (blank ++ (ofChars (render layout depth v) ++ rest)) =
      .ok (v, rest) := by
    rw [run_valueReader_append hblank]
    exact h rest hends
  have hkeyReader : keyReader.run (byte '"' :: (t ++
      (byte ':' :: (blank ++ (ofChars (render layout depth v) ++ rest))))) =
      .ok (key, byte ':' :: (blank ++ (ofChars (render layout depth v) ++ rest))) := by
    simp only [keyReader, if_true, hkey]
  have hcolonReader : colonReader.afterBlanks.run
      (byte ':' :: (blank ++ (ofChars (render layout depth v) ++ rest))) =
      .ok ((), blank ++ (ofChars (render layout depth v) ++ rest)) := by
    simp only [afterBlanks, skipBlanks_cons (show isBlank (byte ':') = false by decide)]
    rfl
  simp only [memberText, Utf8.ofChars_append, hquote, hcolon, List.cons_append, List.append_assoc]
  simp only [memberReader, Reader.bind, hkeyReader, hcolonReader, Reader.map, hvalue, Except.map]

/-! #### Values of each kind -/

/-- A value that is read wherever something may be nested or not is read back. -/
lemma readsBack_of_valueAtFront {text : List UInt8} (hopens : Opens text)
    (h : ∀ nested rest, Ends rest → valueAtFront nested (text ++ rest) = .ok (v, rest))
    (levels : ℕ) : (valueReader levels).ReadsBack text v := by
  intro rest hends
  obtain ⟨nested, hreader⟩ := exists_valueReader_eq levels
  rw [hreader, run_valueWith_of_opens hopens]
  exact h nested rest hends

lemma readsBack_string (levels : ℕ) (text : String) :
    (valueReader levels).ReadsBack (ofChars (quote text)) (.string text) := by
  obtain ⟨t, hquote, htext⟩ := Literal.exists_run_quote text
  rw [hquote]
  refine readsBack_of_valueAtFront (opens_cons (by decide) t) (fun nested rest _ => ?_) levels
  have hread : valueAtFront nested (byte '"' :: (t ++ rest)) =
      (Literal.reader.map Json.string).run (t ++ rest) := rfl
  rw [List.cons_append, hread]
  simp only [Reader.map, htext, Except.map]

lemma readsBack_integer (levels : ℕ) (value : ℤ)
    (hinRange : -9223372036854775808 ≤ value ∧ value ≤ 18446744073709551615) :
    (valueReader levels).ReadsBack (ofChars (Number.integerText value))
      (.number (.integer value hinRange)) := by
  obtain ⟨b, t, htext, hb⟩ := Numeral.exists_ofChars_integerText_eq value
  rw [htext]
  refine readsBack_of_valueAtFront (opens_number hb t) (fun nested rest hends => ?_) levels
  have hnumber := Numeral.run_integerText hinRange hends
  rw [htext, List.cons_append] at hnumber
  rw [List.cons_append, valueAtFront_number hb]
  simp only [Reader.map, hnumber, Except.map]

lemma readsBack_array {es : List Json} (hopens : Opens (ofChars (render layout depth (.array es))))
    (helements : ∀ e ∈ es, Opens (ofChars (render layout (depth + 1) e)) ∧
      (valueReader levels).ReadsBack (ofChars (render layout (depth + 1) e)) e) :
    (valueReader (levels + 1)).ReadsBack (ofChars (render layout depth (.array es)))
      (.array es) := by
  intro rest _
  have hcloses : listBracket.Closes := Or.inl rfl
  obtain ⟨t, htext, hread⟩ := layout.exists_run_sequence depth hcloses
    (by decide : ('[' : Char).toNat < 128) (by decide : (']' : Char).toNat < 128) rfl helements
  have harray : valueAtFront (some (valueReader levels)) (byte '[' :: (t ++ rest)) =
      ((bracketed listBracket (valueReader levels)).map Json.array).run (t ++ rest) := rfl
  rw [valueReader, run_valueWith_of_opens hopens, render_array, htext, List.cons_append, harray]
  simp only [Reader.map, hread, Except.map]

lemma readsBack_object {ms : List (String × Json)} (hkeys : Entries.Ascending ms)
    (hopens : Opens (ofChars (render layout depth (.object ms))))
    (hvalues : ∀ m ∈ ms,
      (valueReader levels).ReadsBack (ofChars (render layout (depth + 1) m.2)) m.2) :
    (valueReader (levels + 1)).ReadsBack (ofChars (render layout depth (.object ms)))
      (.object ms) := by
  intro rest _
  have hmembers : ∀ m ∈ ms, Opens (ofChars (memberText layout (depth + 1) m)) ∧
      (memberReader (valueReader levels)).ReadsBack
        (ofChars (memberText layout (depth + 1) m)) m :=
    fun m hm => ⟨opens_memberText layout (depth + 1) m, memberReader_readsBack (hvalues m hm)⟩
  have hcloses : objectBracket.Closes := Or.inr rfl
  obtain ⟨t, htext, hread⟩ := layout.exists_run_sequence depth hcloses
    (by decide : ('{' : Char).toNat < 128) (by decide : ('}' : Char).toNat < 128) rfl hmembers
  have hobject : valueAtFront (some (valueReader levels)) (byte '{' :: (t ++ rest)) =
      ((bracketed objectBracket (memberReader (valueReader levels))).map fun ms =>
        Json.object (Entries.ofList ms)).run (t ++ rest) := rfl
  rw [valueReader, run_valueWith_of_opens hopens, render_object, htext, List.cons_append, hobject]
  simp only [Reader.map, hread, Except.map, Entries.ofList_of_ascending hkeys]

/-- A printed value is read back, whatever the layout. -/
lemma Readable.readsBack (h : Readable levels v) (layout : JsonLayout) (depth : ℕ) :
    (valueReader levels).ReadsBack (ofChars (render layout depth v)) v := by
  have hopens := h.opens_render layout depth
  -- The depth is only about the white space, but it grows with every level.
  induction h generalizing depth with
  | null levels => exact readsBack_of_valueAtFront hopens (fun _ _ _ => rfl) levels
  | bool levels b =>
    cases b <;> exact readsBack_of_valueAtFront hopens (fun _ _ _ => rfl) levels
  | string levels text => exact readsBack_string levels text
  | integer levels value hinRange => exact readsBack_integer levels value hinRange
  | array helements ih =>
    refine readsBack_array hopens fun e he => ?_
    have hstart := (helements e he).opens_render layout (depth + 1)
    exact ⟨hstart, ih e he (depth + 1) hstart⟩
  | object hkeys hmembers ih =>
    refine readsBack_object hkeys hopens fun m hm => ?_
    exact ih m hm (depth + 1) ((hmembers m hm).opens_render layout (depth + 1))

/-! ### Documents -/

/-- A printed value is parsed as that value, with a line end behind it or without. -/
lemma Readable.parse_pretty (h : Readable deepest v) :
    parse v.pretty = .ok v ∧ parse (v.pretty ++ "\n") = .ok v := by
  have hread := h.readsBack (.indented 2) 0
  have hplain := hread [] (by rintro _ ⟨⟩)
  have hline := hread (Utf8.encode "\n") (Numeral.ends_cons (by decide) _)
  rw [List.append_nil] at hplain
  constructor
  · rw [parse, pretty, Utf8.encode_ofList, parseBytes, readDocument, hplain]
    rfl
  · rw [parse, pretty, Utf8.encode_append, Utf8.encode_ofList, parseBytes, readDocument, hline]
    rfl

end Json

end EntitySync
