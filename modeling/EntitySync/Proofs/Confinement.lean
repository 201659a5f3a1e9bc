import EntitySync.Http
import EntitySync.Proofs.DotSegments
import EntitySync.Proofs.Trimming

/-!
# Where endpoints stand

Before a request is sent its URL is read, and the dots in its path are resolved. The URL of an
endpoint is then the root of the API with one further segment, which decodes to the name of the
endpoint, unless the name is `.` or `..`: these are not encoded, and lead to the root itself and to
the place above it. A base URL without a host has no root, and the names of endpoints stand for the
host.
-/

namespace EntitySync

namespace Url

variable {cs rest : List Char} {scheme : String} {port : ℕ}

/-! ### Parts of a text -/

/-- A text without padding in front and without line breaks. -/
def cleaned (cs : List Char) : List Char :=
  (cs.dropWhile isPadding).filter fun c => !isSkipped c

/-- Characters of encoded segments and the slashes between them. -/
def IsPathText (cs : List Char) : Prop := ∀ c ∈ cs, Percent.IsWritten c ∨ c = '/'

lemma IsPathText.nil : IsPathText [] := by simp [IsPathText]

lemma IsPathText.cons (h : IsPathText rest) : IsPathText ('/' :: rest) :=
  List.forall_mem_cons.mpr ⟨Or.inr rfl, h⟩

lemma IsPathText.spec (h : IsPathText cs) : ∀ c ∈ cs,
    isPadding c = false ∧ isSkipped c = false ∧ plainSlash c = c ∧ c ∉ [':', '?', '#'] := by
  intro c hc
  rcases h c hc with hwritten | rfl
  · obtain ⟨hvisible, -, hmarks⟩ := hwritten.spec
    simp only [List.mem_cons, List.not_mem_nil, or_false, not_or] at hmarks
    obtain ⟨-, hbackslash, hcolon, hquery, hfragment⟩ := hmarks
    have hskipped : isSkipped c = false := by
      simp only [isSkipped, Bool.or_eq_false_iff, decide_eq_false_iff_not]
      refine ⟨⟨?_, ?_⟩, ?_⟩ <;> rintro rfl <;> revert hvisible <;> decide
    exact ⟨decide_eq_false (by omega), hskipped, if_neg hbackslash, by simp [*]⟩
  · decide

/-- What stands in front of a slash is cleaned by itself. -/
lemma cleaned_append_slash (cs : List Char) (h : IsPathText rest) :
    (Text.trim isPadding (cs ++ '/' :: rest)).filter (fun c => !isSkipped c) =
      cleaned cs ++ '/' :: rest := by
  have hspec := h.cons.spec
  have hbare : Text.IsBare isPadding ('/' :: rest) :=
    ⟨fun c hc => (hspec c (List.mem_of_mem_head? hc)).1,
      fun c hc => (hspec c (List.mem_of_mem_getLast? hc)).1⟩
  have htrim : Text.trim isPadding (cs ++ '/' :: rest ++ []) =
      cs.dropWhile isPadding ++ '/' :: rest :=
    Text.trim_append_of_isBare (List.cons_ne_nil '/' rest) hbare (by simp)
  rw [List.append_nil] at htrim
  have hkept : ('/' :: rest).filter (fun c => !isSkipped c) = '/' :: rest :=
    List.filter_eq_self.mpr fun c hc => by rw [(hspec c hc).2.1]; rfl
  rw [htrim, List.filter_append, hkept, cleaned]

lemma length_lt_of_scheme? (h : scheme? cs = some scheme) : scheme.length < cs.length := by
  unfold scheme? at h
  dsimp only at h
  split_ifs at h with hscheme
  obtain rfl := Option.some.inj h
  simp only [Bool.and_eq_true, decide_eq_true_eq] at hscheme
  simpa using hscheme.2

lemma scheme?_eq_none (h : ':' ∉ cs) : scheme? cs = none := by
  have hall : cs.takeWhile (· ≠ ':') = cs :=
    List.takeWhile_eq_self_iff.mpr fun c hc => decide_eq_true fun heq => h (heq ▸ hc)
  simp only [scheme?, hall, lt_irrefl, decide_false, Bool.and_false, Bool.false_eq_true, if_false]

/-- The scheme stands in front of the first colon, whatever follows. -/
lemma scheme?_append (h : ':' ∉ rest) : scheme? (cs ++ rest) = scheme? cs := by
  by_cases hcolon : ':' ∈ cs
  · have hlt : (cs.takeWhile (· ≠ ':')).length < cs.length := by
      refine lt_of_le_of_ne (List.takeWhile_prefix _).length_le fun heq => ?_
      have hall := (List.takeWhile_prefix _).eq_of_length heq
      have hne := List.takeWhile_eq_self_iff.mp hall ':' hcolon
      simp at hne
    have htake : (cs ++ rest).takeWhile (· ≠ ':') = cs.takeWhile (· ≠ ':') := by
      rw [List.takeWhile_append, if_neg hlt.ne]
    have hlt' : (cs.takeWhile (· ≠ ':')).length < (cs ++ rest).length :=
      hlt.trans_le (by rw [List.length_append]; exact Nat.le_add_right _ _)
    rw [scheme?, scheme?, htake, decide_eq_true hlt, decide_eq_true hlt']
  · have hnone : ':' ∉ cs ++ rest := fun hmem => (List.mem_append.mp hmem).elim hcolon h
    rw [scheme?_eq_none hcolon, scheme?_eq_none hnone]

lemma tailOf_of_forall (kind : SchemeKind) (h : ∀ c ∈ cs, c ≠ '?' ∧ c ≠ '#') :
    frontOf cs = cs ∧ tailOf kind cs = [] := by
  have hfront : frontOf cs = cs := List.takeWhile_eq_self_iff.mpr fun c hc => by
    simpa using h c hc
  refine ⟨hfront, ?_⟩
  rw [tailOf, hfront, List.drop_length]
  simp [Percent.encodeBut_nil]

/-! ### Places of the network -/

/-- The place and the segments in front of a slash do not depend on what follows it. -/
lemma exists_ofPlace?_eq (port : ℕ) (front : List Char) :
    ∃ place : Option (Authority × List (List Char)), ∀ rest,
      ofPlace? (.network port) (front ++ '/' :: rest) false =
        place.map fun place => (some place.1, UrlPath.behind place.2 rest) := by
  set text := front.takeWhile (· ≠ '/') with htext
  have htake : ∀ rest, (front ++ '/' :: rest).takeWhile (· ≠ '/') = text := by
    intro rest
    rw [List.takeWhile_append, htext]
    split_ifs with hall
    · rw [List.takeWhile_cons_of_neg (by simp), List.append_nil]
      exact ((List.takeWhile_prefix _).eq_of_length hall).symm
    · rfl
  have hle : text.length ≤ front.length := (List.takeWhile_prefix _).length_le
  have hgoesOn : ∀ rest, (decide (text.length < (front ++ '/' :: rest).length) || false) = true := by
    intro rest
    simp only [List.length_append, List.length_cons, Bool.or_false, decide_eq_true_eq]
    omega
  cases hauthority : Authority.ofText? (.network port) text true with
  | none =>
    refine ⟨none, fun rest => ?_⟩
    rw [ofPlace?, htake, hgoesOn, hauthority]
    rfl
  | some read =>
    obtain ⟨authority, behind⟩ := read
    obtain ⟨kept, hkept⟩ := UrlPath.exists_segmentsOf_eq (behind ++ front.drop text.length)
    refine ⟨some (authority, kept), fun rest => ?_⟩
    rw [ofPlace?, htake, hgoesOn, hauthority]
    have hpath : behind ++ (front ++ '/' :: rest).drop text.length =
        behind ++ front.drop text.length ++ '/' :: rest := by
      rw [List.drop_append_of_le_length hle, List.append_assoc]
    simp only [Option.bind_eq_bind, Option.bind_some, hpath, SchemeKind.isLenient]
    rw [if_pos (by simp)]
    exact congrArg (fun path => some (some authority, path)) (hkept rest)

/-! ### Reading -/

/-- What stands between the scheme and a slash, with slashes for backslashes and none in front. -/
def behindScheme (cs : List Char) (scheme : String) : List Char :=
  ((cleaned cs).drop (scheme.length + 1)).map plainSlash

lemma scheme?_of_parse {text : String} {u : Url} (h : parse text = some u) :
    scheme? ((Text.trim isPadding text.toList).filter fun c => !isSkipped c) = some u.scheme := by
  rw [parse] at h
  obtain ⟨scheme, hscheme, h⟩ := Option.bind_eq_some_iff.mp h
  rw [hscheme]
  cases hkind : SchemeKind.ofScheme scheme <;> simp only [hkind] at h
  all_goals
    obtain ⟨⟨authority, path⟩, -, h⟩ := Option.bind_eq_some_iff.mp h
    obtain rfl := Option.some.inj h
    rfl

lemma parse_append_slash (hmarks : ∀ c ∈ cs, c ≠ '?' ∧ c ≠ '#')
    (hscheme : scheme? (cleaned cs) = some scheme)
    (hkind : SchemeKind.ofScheme scheme = .network port) (hrest : IsPathText rest) :
    parse (String.ofList (cs ++ '/' :: rest)) =
      (ofPlace? (.network port)
        ((behindScheme cs scheme ++ '/' :: rest).dropWhile (· = '/')) false).map fun place =>
          { scheme, authority := place.1, path := place.2, tail := [] } := by
  have hspec := hrest.cons.spec
  have hcolon : ':' ∉ '/' :: rest := fun hmem => (hspec ':' hmem).2.2.2 List.mem_cons_self
  have hlength : scheme.length + 1 ≤ (cleaned cs).length := length_lt_of_scheme? hscheme
  set front := (cleaned cs).drop (scheme.length + 1) with hfront
  have hplain : ∀ c ∈ front ++ '/' :: rest, c ≠ '?' ∧ c ≠ '#' := by
    intro c hc
    rcases List.mem_append.mp hc with hc | hc
    · exact hmarks c ((List.dropWhile_sublist _).subset
        (List.mem_of_mem_filter (List.mem_of_mem_drop hc)))
    · have hnot := (hspec c hc).2.2.2
      simp only [List.mem_cons, List.not_mem_nil, or_false, not_or] at hnot
      exact hnot.2
  obtain ⟨hwhole, htail⟩ := tailOf_of_forall (.network port) hplain
  have hmap : (front ++ '/' :: rest).map plainSlash = behindScheme cs scheme ++ '/' :: rest := by
    have hkept : ('/' :: rest).map plainSlash = '/' :: rest :=
      List.map_congr_left (fun c hc => (hspec c hc).2.2.1) |>.trans (List.map_id' _)
    rw [List.map_append, hkept, behindScheme]
  rw [parse, String.toList_ofList, cleaned_append_slash cs hrest, scheme?_append hcolon, hscheme]
  simp only [Option.bind_eq_bind, Option.bind_some, hkind]
  rw [List.drop_append_of_le_length hlength, ← hfront, hwhole, htail, hmap]
  simp only [lt_irrefl, decide_false]
  cases ofPlace? (.network port) ((behindScheme cs scheme ++ '/' :: rest).dropWhile (· = '/'))
    false with
  | none => rfl
  | some place => rfl

/-- Requests are sent to hosts of the network. -/
lemma exists_network_of_mem (h : scheme ∈ Http.schemes) :
    ∃ port, SchemeKind.ofScheme scheme = .network port := by
  rw [Http.schemes, List.mem_pair] at h
  rcases h with rfl | rfl
  · exact ⟨80, rfl⟩
  · exact ⟨443, rfl⟩

/-- A text that has nothing but one slash behind the scheme. With a second one it is no URL. -/
lemma scheme_slash_of_mem (h : scheme ∈ Http.schemes) :
    (∀ c ∈ (scheme ++ ":/").toList, c ≠ '?' ∧ c ≠ '#') ∧
      scheme? (cleaned (scheme ++ ":/").toList) = some scheme ∧
      behindScheme (scheme ++ ":/").toList scheme = ['/'] ∧
      parse (String.ofList ((scheme ++ ":/").toList ++ ['/'])) = none := by
  rw [Http.schemes, List.mem_pair] at h
  rcases h with rfl | rfl
  · exact ⟨by simp, rfl, rfl, by decide +kernel⟩
  · exact ⟨by simp, rfl, rfl, by decide +kernel⟩

/-- If there are only slashes behind the scheme, what follows them is read in place of the host. -/
lemma parse_of_slashes (hmarks : ∀ c ∈ cs, c ≠ '?' ∧ c ≠ '#')
    (hscheme : scheme? (cleaned cs) = some scheme) (hsent : scheme ∈ Http.schemes)
    (hslashes : ∀ c ∈ behindScheme cs scheme, c = '/') (hrest : IsPathText rest) :
    parse (String.ofList (cs ++ '/' :: rest)) =
      parse (String.ofList ((scheme ++ ":/").toList ++ '/' :: rest)) := by
  obtain ⟨port, hkind⟩ := exists_network_of_mem hsent
  obtain ⟨hmarks', hscheme', hslash, -⟩ := scheme_slash_of_mem hsent
  have hnil : (behindScheme cs scheme).dropWhile (· = '/') = [] :=
    List.dropWhile_eq_nil_iff.mpr fun c hc => decide_eq_true (hslashes c hc)
  have hdrop : (behindScheme cs scheme ++ '/' :: rest).dropWhile (· = '/') =
      (['/'] ++ '/' :: rest).dropWhile (· = '/') := by
    rw [List.dropWhile_append, hnil]
    rfl
  rw [parse_append_slash hmarks hscheme hkind hrest,
    parse_append_slash hmarks' hscheme' hkind hrest, hslash, hdrop]

/-- If there is more than slashes behind the scheme, whatever follows changes nothing but the end of
the path. -/
lemma exists_parse_eq (hmarks : ∀ c ∈ cs, c ≠ '?' ∧ c ≠ '#')
    (hscheme : scheme? (cleaned cs) = some scheme) (hsent : scheme ∈ Http.schemes)
    (hmore : ¬ ∀ c ∈ behindScheme cs scheme, c = '/') :
    ∃ place : Option (Authority × List (List Char)), ∀ rest, IsPathText rest →
      parse (String.ofList (cs ++ '/' :: rest)) = place.map fun place =>
        { scheme, authority := some place.1, path := UrlPath.behind place.2 rest, tail := [] } := by
  obtain ⟨port, hkind⟩ := exists_network_of_mem hsent
  set front := (behindScheme cs scheme).dropWhile (· = '/') with hfront
  have hne : front ≠ [] := fun hnil =>
    hmore fun c hc => of_decide_eq_true (List.dropWhile_eq_nil_iff.mp hnil c hc)
  have hdrop : ∀ rest, (behindScheme cs scheme ++ '/' :: rest).dropWhile (· = '/') =
      front ++ '/' :: rest := fun rest => by
    rw [List.dropWhile_append, ← hfront, if_neg (by simpa using hne)]
  obtain ⟨place, hplace⟩ := exists_ofPlace?_eq port front
  refine ⟨place, fun rest hrest => ?_⟩
  rw [parse_append_slash hmarks hscheme hkind hrest, hdrop, hplace, Option.map_map]
  rfl

/-- The scheme of a URL is the one that stands in front of the slash. -/
lemma scheme?_of_parse_append_slash {u : Url} (hrest : IsPathText rest)
    (h : parse (String.ofList (cs ++ '/' :: rest)) = some u) :
    scheme? (cleaned cs) = some u.scheme := by
  have hcolon : ':' ∉ '/' :: rest := fun hmem => (hrest.cons.spec ':' hmem).2.2.2 List.mem_cons_self
  have hread := scheme?_of_parse h
  rwa [String.toList_ofList, cleaned_append_slash _ hrest, scheme?_append hcolon] at hread

end Url

namespace BaseUrl

variable {base : BaseUrl}

/-- The endpoints stand below a root, the base URL as a client reads it. The path of the URL of an
endpoint is then the path of the root with one further segment that decodes to the name of the
endpoint, exactly if the name is neither `.` nor `..`. All else in the URL is that of the root. The
URL of `.` is the root itself; that of `..` is the place above it, unless the last segment is the
letter of a drive. -/
structure Encloses (base : BaseUrl) (root : Url) (parts : List (List Char)) : Prop where
  reads : Url.parse (base.text ++ "/") = some root
  sent : root.scheme ∈ Http.schemes
  path_eq : root.path = .segments (parts ++ [[]])
  child_iff : ∀ endpoint,
    (∃ segment, Url.parse (base.endpointUrl endpoint) =
        some { root with path := .segments (parts ++ [segment, []]) } ∧
      Percent.decode? segment = some (Utf8.encode endpoint)) ↔
    endpoint ≠ "." ∧ endpoint ≠ ".."
  dot : Url.parse (base.endpointUrl ".") = some root
  dots : ∃ above, Url.parse (base.endpointUrl "..") =
      some { root with path := .segments (above ++ [[]]) } ∧
    (above = parts.dropLast ∨
      above = parts ∧ ∃ drive ∈ parts.getLast?, UrlPath.isDriveLetter drive = true)

/-- The base URL has only slashes and backslashes behind its scheme, so there is no root, and the
name of an endpoint is read as a host. -/
structure LacksHost (base : BaseUrl) (scheme : String) : Prop where
  reads : Url.parse (base.text ++ "/") = none
  sent : scheme ∈ Http.schemes
  slashes : ∀ c ∈ Url.behindScheme base.text.toList scheme, c = '/'
  host : ∀ endpoint, Url.parse (base.endpointUrl endpoint) =
    Url.parse (scheme ++ "://" ++ Percent.encode endpoint ++ "/")

/-- No request is sent, neither to the base URL nor to an endpoint. -/
structure SendsNothing (base : BaseUrl) : Prop where
  reads : ∀ url, Url.parse (base.text ++ "/") = some url → url.scheme ∉ Http.schemes
  endpoint : ∀ endpoint url,
    Url.parse (base.endpointUrl endpoint) = some url → url.scheme ∉ Http.schemes

/-! ### Endpoints -/

lemma isPathText_encode (endpoint : String) :
    Url.IsPathText ((Percent.encode endpoint).toList ++ ['/']) := by
  intro c hc
  rcases List.mem_append.mp hc with hc | hc
  · exact Or.inl ((Percent.segment_encode endpoint).isWritten c hc)
  · exact Or.inr (List.mem_singleton.mp hc)

lemma endpointUrl_eq_ofList (base : BaseUrl) (endpoint : String) :
    base.endpointUrl endpoint =
      String.ofList (base.text.toList ++ '/' :: ((Percent.encode endpoint).toList ++ ['/'])) := by
  rw [← String.ofList_toList (s := base.endpointUrl endpoint), toList_endpointUrl,
    List.append_assoc, List.cons_append]

lemma text_slash_eq_ofList (base : BaseUrl) :
    base.text ++ "/" = String.ofList (base.text.toList ++ '/' :: []) := by
  simp

/-- The root is the one whose segments are known, and the endpoints stand below it. -/
lemma encloses_of_forall {scheme : String} {authority : Authority} {kept : List (List Char)}
    (hsent : scheme ∈ Http.schemes)
    (hparse : ∀ rest, Url.IsPathText rest →
      Url.parse (String.ofList (base.text.toList ++ '/' :: rest)) =
        some { scheme, authority, path := UrlPath.behind kept rest, tail := [] }) :
    base.Encloses { scheme, authority, path := .segments (UrlPath.written kept ++ [[]]), tail := [] }
      (UrlPath.written kept) := by
  have hendpoint : ∀ endpoint, Url.parse (base.endpointUrl endpoint) =
      some { scheme, authority, tail := [],
             path := UrlPath.behind kept ((Percent.encode endpoint).toList ++ ['/']) } :=
    fun endpoint => by rw [endpointUrl_eq_ofList, hparse _ (isPathText_encode endpoint)]
  refine ⟨?_, hsent, rfl, fun endpoint => ⟨?_, ?_⟩, ?_, _, ?_, UrlPath.written_parent kept⟩
  · rw [text_slash_eq_ofList, hparse [] .nil, UrlPath.behind_nil]
  · rintro ⟨segment, hread, -⟩
    rw [hendpoint] at hread
    have hpath := congrArg Url.path (Option.some.inj hread)
    constructor
    · rintro rfl
      rw [UrlPath.behind_dot] at hpath
      simpa using congrArg List.length (UrlPath.segments.inj hpath)
    · rintro rfl
      rw [UrlPath.behind_dots] at hpath
      have hlength := congrArg List.length (UrlPath.segments.inj hpath)
      have hle := UrlPath.length_written_parent_le kept
      simp only [List.length_append, List.length_cons, List.length_nil] at hlength
      omega
  · rintro ⟨hdot, hdots⟩
    refine ⟨_, ?_, Percent.decode?_encode endpoint⟩
    rw [hendpoint, UrlPath.behind_encode_of_ne hdot hdots]
  · rw [hendpoint, UrlPath.behind_dot]
  · rw [hendpoint, UrlPath.behind_dots]

lemma sendsNothing_of_forall (hparse : ∀ rest, Url.IsPathText rest → ∀ url,
      Url.parse (String.ofList (base.text.toList ++ '/' :: rest)) = some url →
        url.scheme ∉ Http.schemes) :
    base.SendsNothing := by
  constructor
  · intro url hurl
    rw [text_slash_eq_ofList] at hurl
    exact hparse [] .nil url hurl
  · intro endpoint url hurl
    rw [endpointUrl_eq_ofList] at hurl
    exact hparse _ (isPathText_encode endpoint) url hurl

/-- Without anything but slashes behind the scheme there is no host. -/
lemma lacksHost_of_slashes {scheme : String} (hplain : ∀ c ∈ base.text.toList, c ≠ '?' ∧ c ≠ '#')
    (hscheme : Url.scheme? (Url.cleaned base.text.toList) = some scheme)
    (hsent : scheme ∈ Http.schemes)
    (hslashes : ∀ c ∈ Url.behindScheme base.text.toList scheme, c = '/') :
    base.LacksHost scheme := by
  obtain ⟨-, -, -, hnone⟩ := Url.scheme_slash_of_mem hsent
  refine ⟨?_, hsent, hslashes, fun endpoint => ?_⟩
  · rw [text_slash_eq_ofList, Url.parse_of_slashes hplain hscheme hsent hslashes .nil, hnone]
  · rw [endpointUrl_eq_ofList, Url.parse_of_slashes hplain hscheme hsent hslashes
      (isPathText_encode endpoint)]
    exact congrArg Url.parse (String.toList_inj.mp (by simp))

-- A base URL may lack a host, for a backslash is read as a slash only when the URL is sent.
example :
    let base : BaseUrl := ⟨"http://\\"⟩
    parse base.text = .ok base ∧ base.LacksHost "http" := by
  intro base
  have hslashes : Url.behindScheme base.text.toList "http" = List.replicate 3 '/' := by
    decide +kernel
  have hlacks : base.LacksHost "http" :=
    lacksHost_of_slashes (by simp [base]) (by decide +kernel) (by decide)
      fun c hc => List.eq_of_mem_replicate (hslashes ▸ hc)
  exact ⟨by decide +kernel, hlacks⟩

lemma encloses_or_lacksHost_or_sendsNothing (hplain : ∀ c ∈ base.text.toList, c ≠ '?' ∧ c ≠ '#') :
    (∃ root parts, base.Encloses root parts) ∨ (∃ scheme, base.LacksHost scheme) ∨
      base.SendsNothing := by
  by_cases hread : ∃ scheme ∈ Http.schemes, Url.scheme? (Url.cleaned base.text.toList) = some scheme
  · obtain ⟨scheme, hsent, hscheme⟩ := hread
    by_cases hslashes : ∀ c ∈ Url.behindScheme base.text.toList scheme, c = '/'
    · exact Or.inr (Or.inl ⟨scheme, lacksHost_of_slashes hplain hscheme hsent hslashes⟩)
    · obtain ⟨place, hplace⟩ := Url.exists_parse_eq hplain hscheme hsent hslashes
      cases place with
      | none =>
        refine Or.inr (Or.inr (sendsNothing_of_forall fun rest hrest url hurl => ?_))
        rw [hplace rest hrest] at hurl
        cases hurl
      | some place => exact Or.inl ⟨_, _, encloses_of_forall hsent hplace⟩
  · refine Or.inr (Or.inr (sendsNothing_of_forall fun rest hrest url hurl hsent => ?_))
    exact hread ⟨url.scheme, hsent, Url.scheme?_of_parse_append_slash hrest hurl⟩

/-- A base URL without a query and a fragment encloses its endpoints, all but two of them, in each
root to which requests are sent. If there is no such root then the names of endpoints stand for the
host, or nothing is sent. -/
theorem encloses_iff_reads (hplain : ∀ c ∈ base.text.toList, c ≠ '?' ∧ c ≠ '#') :
    (∀ root, (∃ parts, base.Encloses root parts) ↔
      Url.parse (base.text ++ "/") = some root ∧ root.scheme ∈ Http.schemes) ∧
    ((∃ root parts, base.Encloses root parts) ∨ (∃ scheme, base.LacksHost scheme) ∨
      base.SendsNothing) := by
  have hcases := base.encloses_or_lacksHost_or_sendsNothing hplain
  refine ⟨fun root => ⟨?_, ?_⟩, hcases⟩
  · rintro ⟨parts, h⟩
    exact ⟨h.reads, h.sent⟩
  · rintro ⟨hreads, hsent⟩
    rcases hcases with ⟨root', parts, h⟩ | ⟨scheme, h⟩ | h
    · obtain rfl := Option.some.inj (hreads.symm.trans h.reads)
      exact ⟨parts, h⟩
    · cases hreads.symm.trans h.reads
    · exact absurd hsent (h.reads root hreads)

/-- A base URL with a host and a path encloses its endpoints in its path. -/
theorem encloses_api :
    let base : BaseUrl := ⟨"http://[::1]/api"⟩
    (∀ c ∈ base.text.toList, c ≠ '?' ∧ c ≠ '#') ∧ ∃ root, base.Encloses root ["api".toList] := by
  intro base
  have hplain : ∀ c ∈ base.text.toList, c ≠ '?' ∧ c ≠ '#' := by simp [base]
  have hroot : (Url.parse (base.text ++ "/")).map (fun url => (url.scheme, url.path)) =
      some ("http", .segments ["api".toList, []]) := by
    decide +kernel
  refine ⟨hplain, ?_⟩
  obtain ⟨root, hreads, hparts⟩ := Option.map_eq_some_iff.mp hroot
  obtain ⟨hscheme, hpath⟩ := Prod.mk.inj hparts
  have hsent : root.scheme ∈ Http.schemes := hscheme ▸ List.mem_cons_self
  obtain ⟨parts, h⟩ := ((base.encloses_iff_reads hplain).1 root).mpr ⟨hreads, hsent⟩
  have hsame : parts ++ [[]] = ["api".toList] ++ [[]] :=
    UrlPath.segments.inj (h.path_eq.symm.trans hpath)
  exact ⟨root, List.append_cancel_right hsame ▸ h⟩

/-- The endpoint `..` is above the root, and its URL has no segment that decodes to the name. -/
theorem endpointUrl_above_root :
    let base : BaseUrl := ⟨"http://[::1]/api"⟩
    parse base.text = .ok base ∧
      (Url.parse (base.text ++ "/")).map Url.path = some (.segments ["api".toList, []]) ∧
      (Url.parse (base.endpointUrl "..")).map Url.path = some (.segments [[]]) := by
  decide +kernel

end BaseUrl

end EntitySync
