import EntitySync.Proofs.Trimming

/-!
# Texts of base URLs

A text is read as a base URL if, without white space around it, it starts with one of two schemes
and something other than slashes follows. What is taken away is padding only: white space at both
ends, and then the slashes at the end. They cannot reach into the scheme, so nothing is left to
check once the scheme is there.
-/

namespace EntitySync

namespace BaseUrl

variable {base : BaseUrl} {text : String} {e : InvalidBaseUrl} {cs rest : List Char}

/-- What a base URL starts with. -/
def schemes : List String := ["http://", "https://"]

/-- A scheme, and something other than slashes behind it. -/
def Rooted (cs : List Char) : Prop :=
  ∃ scheme ∈ schemes, ∃ rest, cs = scheme.toList ++ rest ∧ ∃ c ∈ rest, c ≠ '/'

/-! ### Schemes -/

lemma afterScheme?_eq_some_iff :
    afterScheme? cs = some rest ↔ ∃ scheme ∈ schemes, cs = scheme.toList ++ rest := by
  have hdrop : ∀ scheme : String, scheme.toList.isPrefixOf cs = true →
      cs = scheme.toList ++ cs.drop scheme.toList.length := fun scheme h =>
    (List.prefix_iff_eq_append.mp (List.isPrefixOf_iff_prefix.mp h)).symm
  simp only [schemes, List.mem_cons, List.not_mem_nil, or_false, exists_eq_or_imp, exists_eq_left]
  constructor
  · intro h
    unfold afterScheme? at h
    split_ifs at h with hhttp hhttps
    · obtain rfl := Option.some.inj h
      exact Or.inl (hdrop _ hhttp)
    · obtain rfl := Option.some.inj h
      exact Or.inr (hdrop _ hhttps)
  · -- The schemes differ in a letter, so the first is not tried with success on the second.
    rintro (rfl | rfl)
    · rfl
    · rfl

/-- A scheme ends in a slash and does not start with white space. -/
lemma ends_of_mem_schemes {scheme : String} (h : scheme ∈ schemes) :
    scheme.toList.getLast? = some '/' ∧ ∀ c ∈ scheme.toList.head?, Text.isBlank c = false := by
  rw [schemes, List.mem_pair] at h
  rcases h with rfl | rfl
  · exact ⟨rfl, fun c hc => Option.some.inj hc ▸ rfl⟩
  · exact ⟨rfl, fun c hc => Option.some.inj hc ▸ rfl⟩

/-- Trimming cannot leave a scheme with nothing behind it. -/
lemma afterScheme?_trimEnd_ne (cs : List Char) :
    afterScheme? (Text.trimEnd (· = '/') cs) ≠ some [] := by
  intro h
  obtain ⟨scheme, hscheme, hcs⟩ := afterScheme?_eq_some_iff.mp h
  have hlast : '/' ∈ (Text.trimEnd (· = '/') cs).getLast? := by
    rw [hcs, List.append_nil]
    exact (ends_of_mem_schemes hscheme).1
  have hstays := Text.eq_false_of_mem_getLast?_trimEnd hlast
  simp at hstays

lemma rooted_iff_afterScheme? :
    Rooted cs ↔ ∃ rest, afterScheme? (Text.trimEnd (· = '/') cs) = some rest := by
  constructor
  · rintro ⟨scheme, hscheme, rest, rfl, c, hc, hne⟩
    have htrim : Text.trimEnd (· = '/') (scheme.toList ++ rest) =
        scheme.toList ++ Text.trimEnd (· = '/') rest :=
      Text.trimEnd_append_of_mem hc (decide_eq_false hne)
    exact ⟨_, afterScheme?_eq_some_iff.mpr ⟨scheme, hscheme, htrim⟩⟩
  · rintro ⟨rest, hrest⟩
    obtain ⟨scheme, hscheme, hcs⟩ := afterScheme?_eq_some_iff.mp hrest
    obtain ⟨slashes, hslashes, -, hlast⟩ := Text.trimEnd_eq_iff.mp hcs
    refine ⟨scheme, hscheme, rest ++ slashes, by rw [hslashes, List.append_assoc], ?_⟩
    -- The last character that is left stands behind the scheme.
    have hne : rest ≠ [] := by
      rintro rfl
      exact afterScheme?_trimEnd_ne cs hrest
    have hmem : rest.getLast hne ∈ (scheme.toList ++ rest).getLast? := by
      rw [List.getLast?_append_of_ne_nil _ hne]
      exact List.getLast?_eq_some_getLast hne
    exact ⟨rest.getLast hne, List.mem_append_left _ (List.getLast_mem hne),
      of_decide_eq_false (hlast _ hmem)⟩

/-! ### Reading -/

lemma parse_eq_ok_iff :
    parse text = .ok base ↔
      base.text.toList = trimmed text ∧ ∃ rest, afterScheme? (trimmed text) = some rest := by
  have hbase : (⟨String.ofList (trimmed text)⟩ : BaseUrl) = base ↔
      base.text.toList = trimmed text := by
    cases base
    rw [mk.injEq, eq_comm, ← String.toList_inj, String.toList_ofList]
  rw [parse]
  cases hrest : afterScheme? (trimmed text) with
  | none => simp
  | some rest =>
    cases rest with
    | nil => exact absurd hrest (afterScheme?_trimEnd_ne _)
    | cons c rest => simp [hbase]

lemma exists_parse_eq_ok_iff :
    (∃ base, parse text = .ok base) ↔ Rooted (Text.trim Text.isBlank text.toList) := by
  rw [rooted_iff_afterScheme?]
  constructor
  · rintro ⟨base, h⟩
    exact (parse_eq_ok_iff.mp h).2
  · intro h
    exact ⟨⟨String.ofList (trimmed text)⟩, parse_eq_ok_iff.mpr ⟨String.toList_ofList, h⟩⟩

/-- The text that is refused is reported as it was given. -/
lemma eq_of_parse_eq_error (h : parse text = .error e) : e = ⟨text⟩ := by
  rw [parse] at h
  cases hrest : afterScheme? (trimmed text) with
  | none =>
    rw [hrest] at h
    exact (Except.error.inj h).symm
  | some rest =>
    cases rest with
    | nil =>
      rw [hrest] at h
      exact (Except.error.inj h).symm
    | cons c rest =>
      rw [hrest] at h
      cases h

/-- A base URL has something behind its scheme. -/
lemma exists_scheme_of_parse (h : parse text = .ok base) :
    ∃ scheme ∈ schemes, scheme.toList <+: base.text.toList ∧ scheme.length < base.text.length := by
  obtain ⟨hbase, rest, hrest⟩ := parse_eq_ok_iff.mp h
  obtain ⟨scheme, hscheme, hcs⟩ := afterScheme?_eq_some_iff.mp hrest
  have hne : rest ≠ [] := by
    rintro rfl
    exact afterScheme?_trimEnd_ne _ hrest
  have hpos : 0 < rest.length := List.length_pos_iff.mpr hne
  rw [← hbase] at hcs
  refine ⟨scheme, hscheme, ⟨rest, hcs.symm⟩, ?_⟩
  rw [← String.length_toList, ← String.length_toList, hcs, List.length_append]
  omega

/-! ### Padding -/

/-- Slashes behind a text, and white space around both, change nothing. -/
lemma trimmed_padded {before after : String} (n : ℕ) (hne : text ≠ "")
    (hbare : Text.IsBare Text.isBlank text.toList)
    (hbefore : ∀ c ∈ before.toList, Text.isBlank c = true)
    (hafter : ∀ c ∈ after.toList, Text.isBlank c = true) :
    trimmed (before ++ text ++ String.ofList (List.replicate n '/') ++ after) = trimmed text := by
  have hslashes : ∀ c ∈ List.replicate n '/', decide (c = '/') = true := fun c hc =>
    decide_eq_true (List.eq_of_mem_replicate hc)
  have hpadded : Text.IsBare Text.isBlank (text.toList ++ List.replicate n '/') := by
    obtain ⟨hfirst, hlast⟩ := hbare
    have hhead : text.toList ≠ [] := fun h => hne (String.toList_eq_nil_iff.mp h)
    constructor
    · rwa [List.head?_append_of_ne_nil _ hhead]
    · cases n with
      | zero => rwa [List.replicate_zero, List.append_nil]
      | succ n =>
        rw [List.replicate_succ', ← List.append_assoc, List.getLast?_concat]
        rintro c ⟨⟩
        decide
  have hstrips : Text.trim Text.isBlank
      (before ++ text ++ String.ofList (List.replicate n '/') ++ after).toList =
        text.toList ++ List.replicate n '/' :=
    Text.trim_eq_of_strips ⟨before.toList, after.toList, by simp, hbefore, hafter, hpadded⟩
  rw [trimmed, hstrips, Text.trimEnd_append_of_forall hslashes, trimmed,
    Text.trim_eq_self_of_isBare hbare]

/-- A text is read exactly if, without white space around it, it has a scheme with something other
than slashes behind it. What is read is that text without the slashes at its end: it is longer than
its scheme, so that a scheme with nothing behind it is never met, and it ends in no slash. Slashes
behind the text of a base URL, and white space around both, do not change what is read. A text that
is refused is reported as it is. -/
theorem parse_strips_padding (text : String) :
    ((∃ base, parse text = .ok base) ↔
      ∃ core, Text.Strips Text.isBlank text.toList core ∧ Rooted core) ∧
    (∀ base, parse text = .ok base →
      (∃ core, Text.Strips Text.isBlank text.toList core ∧
        Text.StripsEnd (· = '/') core base.text.toList) ∧
      (∃ scheme ∈ schemes, scheme.toList <+: base.text.toList ∧
        scheme.length < base.text.length) ∧
      base.text.toList.getLast? ≠ some '/' ∧
      (Text.IsBare Text.isBlank text.toList → ∀ (n : ℕ) (before after : String),
        (∀ c ∈ before.toList, Text.isBlank c = true) →
        (∀ c ∈ after.toList, Text.isBlank c = true) →
        parse (before ++ text ++ String.ofList (List.replicate n '/') ++ after) = .ok base)) ∧
    afterScheme? (trimmed text) ≠ some [] ∧
    ∀ e, parse text = .error e → e = ⟨text⟩ := by
  refine ⟨?_, fun base hparse => ⟨?_, exists_scheme_of_parse hparse,
    (Given.parsed hparse).getLast?_ne_slash, fun hbare n before after hbefore hafter => ?_⟩,
    afterScheme?_trimEnd_ne _, fun e => eq_of_parse_eq_error⟩
  · simp only [← Text.trim_eq_iff, exists_eq_left', exists_parse_eq_ok_iff]
  · have hbase := (parse_eq_ok_iff.mp hparse).1
    exact ⟨_, Text.strips_trim _ _, Text.trimEnd_eq_iff.mp hbase.symm⟩
  · have hne : text ≠ "" := by
      rintro rfl
      cases hparse
    rw [parse_eq_ok_iff, trimmed_padded n hne hbare hbefore hafter]
    exact parse_eq_ok_iff.mp hparse

/-- White space of several kinds around a text with slashes at its end. -/
theorem parse_strips_padding_wide :
    parse "https://[::1]/" = .ok ⟨"https://[::1]"⟩ ∧
      parse "　	 https://[::1]//// " = .ok ⟨"https://[::1]"⟩ := by
  have hparse : parse "https://[::1]/" = .ok ⟨"https://[::1]"⟩ := rfl
  obtain ⟨-, -, -, hpadded⟩ := (parse_strips_padding "https://[::1]/").2.1 _ hparse
  have hbare : Text.IsBare Text.isBlank "https://[::1]/".toList :=
    ⟨fun c hc => Option.some.inj hc ▸ rfl, fun c hc => Option.some.inj hc ▸ rfl⟩
  exact ⟨hparse, hpadded hbare 3 "\u3000\t\u00a0" "\u2028" (List.all_eq_true.mp rfl)
    (List.all_eq_true.mp rfl)⟩

end BaseUrl

end EntitySync
