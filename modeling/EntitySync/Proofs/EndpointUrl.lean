import EntitySync.BaseUrl
import EntitySync.Proofs.Percent

/-!
# URLs of endpoints

A base URL ends in no slash, whether it was read from a text or derived from a location. So the URL
of an endpoint is the base URL and one segment between slashes, and the segment decodes to the name
of the endpoint.
-/

namespace EntitySync

/-! ### Trimming -/

/-- No character of the class is left at the end. -/
lemma Text.eq_false_of_mem_getLast?_trimEnd {drop : Char → Bool} {cs : List Char} {c : Char}
    (h : c ∈ (trimEnd drop cs).getLast?) : drop c = false := by
  have hfirst := List.head?_dropWhile_not drop cs.reverse
  rw [trimEnd, List.getLast?_reverse] at h
  rw [Option.mem_def.mp h] at hfirst
  simpa using hfirst

namespace BaseUrl

variable {base : BaseUrl} {text : String}

/-- A base URL as the client comes to one: from a text, or from the location of a page. -/
inductive Given : BaseUrl → Prop where
  | parsed {text : String} {base : BaseUrl} (h : parse text = .ok base) : Given base
  | derived (location : PageLocation) (apiPort : UInt16) : Given (ofLocation location apiPort)

lemma text_of_parse (h : parse text = .ok base) : base.text = String.ofList (trimmed text) := by
  unfold parse at h
  dsimp only at h
  split at h
  · cases h
  · cases h
  · exact congrArg BaseUrl.text (Except.ok.inj h).symm

lemma Given.getLast?_ne_slash (h : base.Given) : base.text.toList.getLast? ≠ some '/' := by
  cases h with
  | parsed h =>
    rw [text_of_parse h, String.toList_ofList]
    intro hlast
    have hdropped := Text.eq_false_of_mem_getLast?_trimEnd hlast
    simp at hdropped
  | derived location apiPort =>
    -- The text ends in the path of the API.
    obtain ⟨root, hroot⟩ : ∃ root, (ofLocation location apiPort).text = root ++ "/api" := ⟨_, rfl⟩
    have hlast : "/api".toList.getLast? = some 'i' := rfl
    rw [hroot, String.toList_append, List.getLast?_append, hlast, Option.some_or]
    decide

lemma toList_endpointUrl (base : BaseUrl) (endpoint : String) :
    (base.endpointUrl endpoint).toList =
      base.text.toList ++ '/' :: (Percent.encode endpoint).toList ++ ['/'] := by
  simp [endpointUrl, toString]

lemma endpointUrl_injective (base : BaseUrl) : Function.Injective base.endpointUrl := by
  intro a b h
  have hlist := congrArg String.toList h
  rw [toList_endpointUrl, toList_endpointUrl, List.append_left_inj, List.append_right_inj,
    List.cons_inj_right, String.toList_inj] at hlist
  exact Percent.encode_injective hlist

/-- The URL of an endpoint is the base URL, which ends in no slash, with one segment between
slashes. The segment holds nothing but plain characters and escapes, and decodes to the name of the
endpoint, so that each name has its own URL. -/
theorem endpointUrl_eq_segment (h : base.Given) :
    base.text.toList.getLast? ≠ some '/' ∧
    (∀ endpoint, ∃ segment, (base.endpointUrl endpoint).toList =
        base.text.toList ++ '/' :: segment ++ ['/'] ∧
      Percent.Segment segment ∧ Percent.decode? segment = some (Utf8.encode endpoint)) ∧
    Function.Injective base.endpointUrl := by
  refine ⟨h.getLast?_ne_slash, fun endpoint => ?_, base.endpointUrl_injective⟩
  exact ⟨_, base.toList_endpointUrl endpoint, Percent.segment_encode endpoint,
    Percent.decode?_encode endpoint⟩

/-- White space and slashes around the text, and a name with a slash, a percent sign and a letter
of two bytes. -/
theorem endpointUrl_eq_segment_padded :
    ∃ base, parse " http://h//\n" = .ok base ∧ base.text.toList.getLast? ≠ some '/' ∧
      (base.endpointUrl "é/%").toList = "http://h/%C3%A9%2F%25/".toList ∧
      base.endpointUrl "é/%" ≠ base.endpointUrl "é/%25" := by
  have hparse : parse " http://h//\n" = .ok ⟨"http://h"⟩ := by rfl
  obtain ⟨hlast, -, hinjective⟩ := endpointUrl_eq_segment (.parsed hparse)
  exact ⟨_, hparse, hlast, by decide +kernel, hinjective.ne (by decide)⟩

end BaseUrl

end EntitySync
