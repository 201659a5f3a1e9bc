import EntitySync.Proofs.Json.Printed

/-!
# What is parsed can be printed

A value that has been parsed nests no deeper than the parser goes, and the keys of its objects
ascend. So it comes back from its text, unless a number in it is a double.
-/

namespace EntitySync

variable {α β : Type}

namespace Reader

variable {reader : Reader α} {s rest : List UInt8}

lemma run_map_eq_ok {f : α → β} {b : β} (h : (reader.map f).run s = .ok (b, rest)) :
    ∃ a, reader.run s = .ok (a, rest) ∧ f a = b := by
  simp only [map] at h
  cases hrun : reader.run s with
  | error fault => simp [hrun, Except.map] at h
  | ok p =>
    obtain ⟨a, r⟩ := p
    simp only [hrun, Except.map, Except.ok.injEq, Prod.mk.injEq] at h
    exact ⟨a, by rw [h.2], h.1⟩

lemma run_bind_eq_ok {next : α → Reader β} {b : β} (h : (reader.bind next).run s = .ok (b, rest)) :
    ∃ a r, reader.run s = .ok (a, r) ∧ (next a).run r = .ok (b, rest) := by
  simp only [bind] at h
  cases hrun : reader.run s with
  | error fault => simp [hrun] at h
  | ok p =>
    obtain ⟨a, r⟩ := p
    simp only [hrun] at h
    exact ⟨a, r, rfl, h⟩

/-- Each item has been read by the reader of items. -/
lemma exists_run_of_mem_items {bracket : Bracket} {as : List α} {a : α}
    (h : items bracket reader s = .ok (as, rest)) (ha : a ∈ as) :
    ∃ s r, reader.run s = .ok (a, r) := by
  fun_induction items bracket reader s generalizing as rest with
  | case1 | case2 | case4 | case5 | case7 => simp at h
  | case3 s a' r hrun =>
    cases h
    obtain rfl := List.mem_singleton.mp ha
    exact ⟨s, r, hrun⟩
  | case6 s a' r hrun r' c t _ _ _ _ ih =>
    cases htail : items bracket reader (c :: t) with
    | error fault => simp [htail, Except.map] at h
    | ok p =>
      obtain ⟨as', rest'⟩ := p
      simp only [htail, Except.map, Except.ok.injEq, Prod.mk.injEq] at h
      obtain ⟨rfl, -⟩ := h
      rcases List.mem_cons.mp ha with rfl | ha
      · exact ⟨s, r, hrun⟩
      · exact ih htail ha

lemma exists_run_of_mem_bracketed {bracket : Bracket} {as : List α} {a : α}
    (h : (bracketed bracket reader).run s = .ok (as, rest)) (ha : a ∈ as) :
    ∃ s r, reader.run s = .ok (a, r) := by
  simp only [bracketed] at h
  split at h
  · cases h
  · split_ifs at h
    · cases h
      cases ha
    · exact exists_run_of_mem_items h ha

end Reader

lemma Entries.mem_of_mem_ofList {entries : List (String × β)} {e : String × β}
    (h : e ∈ ofList entries) : e ∈ entries :=
  (mem_insertAll h).resolve_right List.not_mem_nil

namespace Json

open Reader

variable {levels : ℕ} {v : Json} {s rest : List UInt8}

lemma eq_of_word_map_eq_ok {bytes : List UInt8} {w : Json}
    (h : (word bytes s).map (v, ·) = .ok (w, rest)) : v = w := by
  cases hword : word bytes s with
  | error fault => simp [hword, Except.map] at h
  | ok r =>
    rw [hword] at h
    cases h
    rfl

lemma Integral.readable_number {n : Number} (h : (number n).Integral) (levels : ℕ) :
    (number n).Readable levels := by
  cases h with
  | integer value hinRange => exact .integer levels value hinRange

/-- What is read between brackets can be printed, if what is nested there can be. -/
lemma readable_of_contents {nested : Reader Json} {opening : UInt8}
    (hnested : ∀ {s v r}, nested.run s = .ok (v, r) → v.Integral → v.Readable levels)
    (h : (contents nested opening).run s = .ok (v, rest)) (hintegral : v.Integral) :
    v.Readable (levels + 1) := by
  unfold contents at h
  split_ifs at h
  · obtain ⟨es, hes, rfl⟩ := run_map_eq_ok h
    cases hintegral with
    | array helements =>
      refine .array fun e he => ?_
      obtain ⟨s, r, hrun⟩ := exists_run_of_mem_bracketed hes he
      exact hnested hrun (helements e he)
  · obtain ⟨ms, hms, rfl⟩ := run_map_eq_ok h
    cases hintegral with
    | object hmembers =>
      refine .object (Entries.ascending_ofList ms) fun m hm => ?_
      obtain ⟨s, r, hrun⟩ := exists_run_of_mem_bracketed hms (Entries.mem_of_mem_ofList hm)
      obtain ⟨key, r, -, hrun⟩ := run_bind_eq_ok hrun
      obtain ⟨-, r, -, hrun⟩ := run_bind_eq_ok hrun
      obtain ⟨value, hvalue, rfl⟩ := run_map_eq_ok hrun
      exact hnested hvalue (hmembers _ hm)

/-- A value is a scalar, or it has been read behind an opening bracket. -/
lemma valueAtFront_cases {nested : Option (Reader Json)}
    (h : valueAtFront nested s = .ok (v, rest)) :
    v = .null ∨ (∃ b, v = .bool b) ∨ (∃ n, v = .number n) ∨ (∃ text, v = .string text) ∨
      ∃ inner opening r, nested = some inner ∧ (contents inner opening).run r = .ok (v, rest) := by
  unfold valueAtFront at h
  split at h
  · cases h
  next b r =>
    repeat' split at h
    · exact Or.inl (eq_of_word_map_eq_ok h).symm
    · exact Or.inr (Or.inl ⟨true, (eq_of_word_map_eq_ok h).symm⟩)
    · exact Or.inr (Or.inl ⟨false, (eq_of_word_map_eq_ok h).symm⟩)
    · obtain ⟨n, -, hn⟩ := run_map_eq_ok h
      exact Or.inr (Or.inr (Or.inl ⟨n, hn.symm⟩))
    · obtain ⟨text, -, htext⟩ := run_map_eq_ok h
      exact Or.inr (Or.inr (Or.inr (Or.inl ⟨text, htext.symm⟩)))
    · cases h
    next inner => exact Or.inr (Or.inr (Or.inr (Or.inr ⟨inner, b, r, rfl, h⟩)))
    · cases h

lemma readable_or_contents {nested : Option (Reader Json)}
    (h : (valueWith nested).run s = .ok (v, rest)) (hintegral : v.Integral) (levels : ℕ) :
    v.Readable levels ∨
      ∃ inner opening r, nested = some inner ∧ (contents inner opening).run r = .ok (v, rest) := by
  rcases valueAtFront_cases h with rfl | ⟨b, rfl⟩ | ⟨n, rfl⟩ | ⟨text, rfl⟩ | hinner
  · exact Or.inl (.null levels)
  · exact Or.inl (.bool levels b)
  · exact Or.inl (hintegral.readable_number levels)
  · exact Or.inl (.string levels text)
  · exact Or.inr hinner

/-- A value without doubles that has been read can be printed and read again. -/
lemma readable_of_valueReader (h : (valueReader levels).run s = .ok (v, rest))
    (hintegral : v.Integral) : v.Readable levels := by
  -- A bracket takes the reader one level down; on the last level none is opened.
  induction levels generalizing s v rest with
  | zero =>
    rcases readable_or_contents h hintegral 0 with hscalar | ⟨_, _, _, hnone, -⟩
    · exact hscalar
    · cases hnone
  | succ levels ih =>
    rcases readable_or_contents h hintegral (levels + 1) with
      hscalar | ⟨inner, opening, r, hinner, hcontents⟩
    · exact hscalar
    · cases hinner
      exact readable_of_contents ih hcontents hintegral

/-- A value without doubles that has been parsed can be printed and parsed again. -/
lemma readable_of_parse {text : String} (h : parse text = .ok v) (hintegral : v.Integral) :
    v.Readable deepest := by
  rw [parse, parseBytes, readDocument] at h
  cases hrun : (valueReader deepest).run (Utf8.encode text) with
  | error fault =>
    rw [hrun] at h
    cases h
  | ok p =>
    obtain ⟨w, rest⟩ := p
    simp only [hrun] at h
    split at h
    · cases h
      exact readable_of_valueReader hrun hintegral
    · cases h

end Json

end EntitySync
