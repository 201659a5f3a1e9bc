import EntitySync.Proofs.Rooted

/-!
# Base URLs in normal form

Reading the text of a base URL gives back that base URL if the text ends neither in white space nor
in a slash. A base URL that is derived from a location always has such a text. One that is read need
not: white space is taken away first and slashes second, so white space with slashes behind it comes
to stand at the end, and is taken away when the text is read again.
-/

namespace EntitySync

namespace Text

variable {drop drop' : Char → Bool} {cs core rest : List Char}

/-- Two trimmings, one after the other, make a text shorter or take nothing away. -/
lemma length_lt_or_eq_of_strips (h : Strips drop cs core) (h' : StripsEnd drop' core rest) :
    rest.length < cs.length ∨ core = cs ∧ rest = cs := by
  obtain ⟨before, after, rfl, -⟩ := h
  obtain ⟨behind, rfl, -⟩ := h'
  cases before with
  | cons => exact Or.inl (by simp only [List.length_append, List.length_cons]; omega)
  | nil =>
    cases after with
    | cons => exact Or.inl (by simp only [List.length_append, List.length_cons]; omega)
    | nil =>
      cases behind with
      | cons => exact Or.inl (by simp)
      | nil => exact Or.inr (by simp)

end Text

namespace BaseUrl

variable {base next : BaseUrl} {text : String}

/-- Behind white space at the end of the text there are slashes, and perhaps white space again. -/
def Alternates (text : String) : Prop :=
  ∃ front c n after, text.toList = front ++ c :: List.replicate (n + 1) '/' ++ after ∧
    Text.isBlank c = true ∧ ∀ d ∈ after, Text.isBlank d = true

/-! ### Normal forms -/

lemma Rooted.isBare {cs : List Char} (h : Rooted cs)
    (hlast : ∀ c ∈ cs.getLast?, Text.isBlank c = false) : Text.IsBare Text.isBlank cs := by
  obtain ⟨scheme, hscheme, rest, rfl, -⟩ := h
  obtain ⟨hslash, hfirst⟩ := ends_of_mem_schemes hscheme
  have hne : scheme.toList ≠ [] := by
    intro hnil
    rw [hnil] at hslash
    cases hslash
  refine ⟨?_, hlast⟩
  rwa [List.head?_append_of_ne_nil _ hne]

/-- The texts from which nothing is taken away. -/
lemma parse_text_eq_ok_iff (base : BaseUrl) :
    parse base.text = .ok base ↔ Rooted base.text.toList ∧
      ∀ c ∈ base.text.toList.getLast?, c ≠ '/' ∧ Text.isBlank c = false := by
  constructor
  · intro h
    obtain ⟨hbase, -⟩ := parse_eq_ok_iff.mp h
    have hstrips := Text.strips_trim Text.isBlank base.text.toList
    have hslashes := Text.trimEnd_eq_iff.mp hbase.symm
    have hcore : Text.trim Text.isBlank base.text.toList = base.text.toList := by
      rcases Text.length_lt_or_eq_of_strips hstrips hslashes with hlt | ⟨hcore, -⟩
      · exact absurd hlt (lt_irrefl _)
      · exact hcore
    have hrooted := exists_parse_eq_ok_iff.mp ⟨base, h⟩
    rw [hcore] at hstrips hrooted
    obtain ⟨-, -, -, -, -, -, hblank⟩ := hstrips
    obtain ⟨-, -, -, hslash⟩ := hslashes
    exact ⟨hrooted, fun c hc => ⟨of_decide_eq_false (hslash c hc), hblank c hc⟩⟩
  · rintro ⟨hrooted, hlast⟩
    have hbare := hrooted.isBare fun c hc => (hlast c hc).2
    have htrimmed : trimmed base.text = base.text.toList := by
      rw [trimmed, Text.trim_eq_self_of_isBare hbare, Text.trimEnd_eq_self_iff]
      exact fun c hc => decide_eq_false (hlast c hc).1
    refine parse_eq_ok_iff.mpr ⟨htrimmed.symm, ?_⟩
    rw [htrimmed]
    obtain ⟨scheme, hscheme, rest, hcs, -⟩ := hrooted
    exact ⟨rest, afterScheme?_eq_some_iff.mpr ⟨scheme, hscheme, hcs⟩⟩

lemma rooted_of_parse (h : parse text = .ok base) : Rooted base.text.toList := by
  obtain ⟨hbase, rest, hrest⟩ := parse_eq_ok_iff.mp h
  refine rooted_iff_afterScheme?.mpr ⟨rest, ?_⟩
  rw [hbase, trimmed, Text.trimEnd_eq_self_iff.mpr fun c => Text.eq_false_of_mem_getLast?_trimEnd]
  exact hrest

lemma parse_text_iff_of_parse (h : parse text = .ok base) :
    parse base.text = .ok base ↔ ∀ c ∈ base.text.toList.getLast?, Text.isBlank c = false := by
  rw [parse_text_eq_ok_iff]
  constructor
  · exact fun hnormal c hc => (hnormal.2 c hc).2
  · refine fun hblank => ⟨rooted_of_parse h, fun c hc => ⟨?_, hblank c hc⟩⟩
    rintro rfl
    exact (Given.parsed h).getLast?_ne_slash hc

/-! ### Padding of two kinds -/

/-- White space at the end of a base URL had slashes behind it, or it would have been taken away. -/
lemma alternates_of_blank {c : Char} (h : parse text = .ok base)
    (hc : c ∈ base.text.toList.getLast?) (hblank : Text.isBlank c = true) : Alternates text := by
  obtain ⟨before, after, htext, -, hafter, -, hlast⟩ := Text.strips_trim Text.isBlank text.toList
  obtain ⟨slashes, hcore, hslashes, -⟩ := Text.trimEnd_eq_iff.mp (parse_eq_ok_iff.mp h).1.symm
  obtain ⟨front, hfront⟩ := List.getLast?_eq_some_iff.mp hc
  rw [hfront] at hcore
  have hreplicate : slashes = List.replicate slashes.length '/' :=
    List.eq_replicate_of_mem fun d hd => of_decide_eq_true (hslashes d hd)
  cases slashes with
  | nil =>
    have hstays := hlast c (by rw [hcore, List.append_nil, List.getLast?_concat]; rfl)
    rw [hblank] at hstays
    cases hstays
  | cons slash slashes =>
    refine ⟨before ++ front, c, slashes.length, after, ?_, hblank, hafter⟩
    rw [htext, hcore, hreplicate]
    simp

/-- Slashes and the white space behind them are taken away, and further slashes with them. -/
lemma trimmed_eq_of_slashes {front after : List Char} {n : ℕ}
    (htext : text.toList = front ++ List.replicate (n + 1) '/' ++ after)
    (hafter : ∀ d ∈ after, Text.isBlank d = true) :
    trimmed text = Text.trimEnd (· = '/') (front.dropWhile Text.isBlank) := by
  have hslashes : ∀ d ∈ List.replicate (n + 1) '/', d = '/' := fun d => List.eq_of_mem_replicate
  have hbare : Text.IsBare Text.isBlank (List.replicate (n + 1) '/') :=
    ⟨fun d hd => hslashes d (List.mem_of_mem_head? hd) ▸ rfl,
      fun d hd => hslashes d (List.mem_of_mem_getLast? hd) ▸ rfl⟩
  rw [trimmed, htext, Text.trim_append_of_isBare (by simp) hbare hafter,
    Text.trimEnd_append_of_forall fun d hd => decide_eq_true (hslashes d hd)]

/-- White space with slashes behind it is left at the end. -/
lemma Alternates.exists_blank (halternates : Alternates text) (h : parse text = .ok base) :
    ∃ c ∈ base.text.toList.getLast?, Text.isBlank c = true := by
  obtain ⟨front, c, n, after, htext, hblank, hafter⟩ := halternates
  rw [List.append_cons] at htext
  have hbase := (parse_eq_ok_iff.mp h).1
  rw [trimmed_eq_of_slashes htext hafter] at hbase
  set kept := (front ++ [c]).dropWhile Text.isBlank with hkept
  -- The white space is not all that is in front of the slashes, for the scheme is there too.
  have hne : kept ≠ [] := by
    intro hnil
    obtain ⟨scheme, hscheme, rest, hcs, d, hd, -⟩ := rooted_of_parse h
    rw [hbase, hnil] at hcs
    have hrest : rest = [] := (List.append_eq_nil_iff.mp hcs.symm).2
    rw [hrest] at hd
    cases hd
  have hlast : kept.getLast? = some c := by
    obtain ⟨gone, hgone⟩ := List.dropWhile_suffix (l := front ++ [c]) Text.isBlank
    rw [← List.getLast?_append_of_ne_nil gone hne, hkept, hgone, List.getLast?_concat]
  have hstays : Text.trimEnd (· = '/') kept = kept := by
    refine Text.trimEnd_eq_self_iff.mpr fun d hd => decide_eq_false ?_
    rintro rfl
    rw [hlast] at hd
    cases hd
    cases hblank
  rw [hbase, hstays]
  exact ⟨c, hlast, hblank⟩

/-- Reading a text makes it shorter or gives it back. -/
lemma length_lt_of_parse (h : parse text = .ok base) (hne : base.text ≠ text) :
    base.text.length < text.length := by
  have hslashes := Text.trimEnd_eq_iff.mp (parse_eq_ok_iff.mp h).1.symm
  rcases Text.length_lt_or_eq_of_strips (Text.strips_trim Text.isBlank text.toList) hslashes with
    hlt | ⟨-, heq⟩
  · rwa [String.length_toList, String.length_toList] at hlt
  · exact absurd (String.toList_inj.mp heq) hne

/-! ### Locations -/

/-- The path of the API is at the end of a derived text, and neither a slash nor white space. -/
lemma parse_text_ofLocation {location : PageLocation} {scheme : String} (apiPort : UInt16)
    (hscheme : scheme ++ "://" ∈ schemes)
    (hprotocol : Text.StripsEnd (· = ':') location.protocol.toList scheme.toList) :
    parse (ofLocation location apiPort).text = .ok (ofLocation location apiPort) := by
  obtain ⟨middle, hmiddle⟩ : ∃ middle, (ofLocation location apiPort).text =
      scheme ++ "://" ++ (middle ++ "/api") := by
    refine ⟨location.hostname ++
      (if location.port.isSome then s!":{apiPort.toNat}" else ""), ?_⟩
    rw [ofLocation, Text.trimEnd_eq_iff.mpr hprotocol, String.ofList_toList]
    simp [toString, String.append_assoc]
  rw [parse_text_eq_ok_iff, hmiddle]
  constructor
  · refine ⟨_, hscheme, (middle ++ "/api").toList, by rw [String.toList_append], 'a', ?_, by decide⟩
    simp
  · have hlast : "/api".toList.getLast? = some 'i' := rfl
    rw [← String.append_assoc, String.toList_append, List.getLast?_append, hlast, Option.some_or]
    rintro c ⟨⟩
    exact ⟨by decide, rfl⟩

/-- Reading the text of a base URL again gives it back, unless slashes were taken away behind white
space: then it is made shorter still, or refused. A base URL that is derived from a location under
one of the two schemes is always read as itself. -/
theorem parse_text_iff_not_alternates (text : String) (location : PageLocation) (apiPort : UInt16) :
    (∀ base, parse text = .ok base →
      (parse base.text = .ok base ↔ ¬ Alternates text) ∧
      ∀ next, parse base.text = .ok next → next ≠ base → next.text.length < base.text.length) ∧
    ((∃ scheme ∈ ["http", "https"],
        Text.StripsEnd (· = ':') location.protocol.toList scheme.toList) →
      parse (ofLocation location apiPort).text = .ok (ofLocation location apiPort)) := by
  refine ⟨fun base hparse => ⟨?_, fun next hnext hne => length_lt_of_parse hnext ?_⟩, ?_⟩
  · rw [parse_text_iff_of_parse hparse]
    refine ⟨fun hblank halternates => ?_, fun hnot c hc => Bool.eq_false_iff.mpr fun hblank =>
      hnot (alternates_of_blank hparse hc hblank)⟩
    obtain ⟨c, hc, htrue⟩ := halternates.exists_blank hparse
    exact absurd (hblank c hc) (by simp [htrue])
  · rintro htext
    cases next
    cases base
    exact hne (congrArg mk htext)
  · rintro ⟨scheme, hscheme, hprotocol⟩
    have hschemes : ∀ scheme ∈ ["http", "https"], scheme ++ "://" ∈ schemes := by decide +kernel
    exact parse_text_ofLocation apiPort (hschemes scheme hscheme) hprotocol

/-- White space in front of the slashes at the end is read into the base URL. Read again, it is
taken away, and a scheme with nothing else behind it is refused. -/
theorem parse_text_alternating :
    parse "http://h /" = .ok ⟨"http://h "⟩ ∧ parse "http://h " = .ok ⟨"http://h"⟩ ∧
      parse "https:// /" = .ok ⟨"https:// "⟩ ∧ parse "https:// " = .error ⟨"https:// "⟩ :=
  ⟨rfl, rfl, rfl, rfl⟩

end BaseUrl

end EntitySync
