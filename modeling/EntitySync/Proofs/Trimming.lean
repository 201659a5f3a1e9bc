import EntitySync.Proofs.EndpointUrl

/-!
# Trimmed texts

Trimming a text takes characters of a class away from its ends and leaves none of them there. What
is left is determined by this, so trimming can be stated without the way in which it is done.
-/

namespace EntitySync

namespace Text

variable {drop : Char → Bool} {cs core front after : List Char} {c : Char}

/-- No character of the class stands at either end. -/
def IsBare (drop : Char → Bool) (cs : List Char) : Prop :=
  (∀ c ∈ cs.head?, drop c = false) ∧ ∀ c ∈ cs.getLast?, drop c = false

/-- The text is another with characters of the class behind it, of which none is left at the end of
the other. -/
def StripsEnd (drop : Char → Bool) (cs core : List Char) : Prop :=
  ∃ after, cs = core ++ after ∧ (∀ c ∈ after, drop c = true) ∧ ∀ c ∈ core.getLast?, drop c = false

/-- The text is another with characters of the class around it, of which none is left at the ends of
the other. -/
def Strips (drop : Char → Bool) (cs core : List Char) : Prop :=
  ∃ before after, cs = before ++ core ++ after ∧ (∀ c ∈ before, drop c = true) ∧
    (∀ c ∈ after, drop c = true) ∧ IsBare drop core

/-! ### The end of a text -/

lemma trimEnd_append_of_forall (h : ∀ c ∈ after, drop c = true) :
    trimEnd drop (cs ++ after) = trimEnd drop cs := by
  have hreverse : ∀ c ∈ after.reverse, drop c = true := fun c hc => h c (List.mem_reverse.mp hc)
  rw [trimEnd, List.reverse_append, List.dropWhile_append_of_pos hreverse, trimEnd]

/-- What stands before a character that stays is not touched. -/
lemma trimEnd_append_of_mem (hc : c ∈ cs) (h : drop c = false) :
    trimEnd drop (front ++ cs) = front ++ trimEnd drop cs := by
  have hstays : cs.reverse.dropWhile drop ≠ [] := by
    intro hnil
    have hall := List.dropWhile_eq_nil_iff.mp hnil c (List.mem_reverse.mpr hc)
    rw [h] at hall
    cases hall
  rw [trimEnd, List.reverse_append, List.dropWhile_append, if_neg (by simpa using hstays),
    List.reverse_append, List.reverse_reverse, trimEnd]

lemma trimEnd_eq_self_iff :
    trimEnd drop cs = cs ↔ ∀ c ∈ cs.getLast?, drop c = false := by
  constructor
  · intro h c hc
    rw [← h] at hc
    exact eq_false_of_mem_getLast?_trimEnd hc
  · intro h
    refine List.rdropWhile_eq_self_iff.mpr fun hne => ?_
    rw [h _ (List.getLast?_eq_some_getLast hne)]
    decide

lemma trimEnd_eq_iff : trimEnd drop cs = core ↔ StripsEnd drop cs core := by
  constructor
  · rintro rfl
    exact ⟨cs.rtakeWhile drop, List.rdropWhile_append_rtakeWhile.symm,
      fun c hc => List.mem_rtakeWhile_imp hc, fun c => eq_false_of_mem_getLast?_trimEnd⟩
  · rintro ⟨after, rfl, hafter, hlast⟩
    rw [trimEnd_append_of_forall hafter, trimEnd_eq_self_iff.mpr hlast]

/-! ### Both ends of a text -/

/-- In front of a text that stays, characters are taken away at the start only. -/
lemma trim_append_of_isBare (hne : core ≠ []) (hbare : IsBare drop core)
    (hafter : ∀ c ∈ after, drop c = true) :
    trim drop (front ++ core ++ after) = front.dropWhile drop ++ core := by
  obtain ⟨hfirst, hlast⟩ := hbare
  have hcore : (core ++ after).dropWhile drop = core ++ after := by
    cases core with
    | nil => exact absurd rfl hne
    | cons c core => exact List.dropWhile_cons_of_neg (by simp [hfirst c rfl])
  have hfront : (front ++ (core ++ after)).dropWhile drop =
      front.dropWhile drop ++ core ++ after := by
    rw [List.dropWhile_append, hcore]
    split_ifs with hnil
    · rw [List.isEmpty_iff.mp hnil, List.nil_append]
    · rw [List.append_assoc]
  have hmem := List.getLast?_eq_some_getLast hne
  rw [trim, List.append_assoc, hfront, trimEnd_append_of_forall hafter,
    trimEnd_append_of_mem (List.getLast_mem hne) (hlast _ hmem), trimEnd_eq_self_iff.mpr hlast]

lemma trim_eq_of_strips (h : Strips drop cs core) : trim drop cs = core := by
  obtain ⟨before, after, rfl, hbefore, hafter, hbare⟩ := h
  have hgone : before.dropWhile drop = [] := List.dropWhile_eq_nil_iff.mpr hbefore
  cases core with
  | nil =>
    have hall : (before ++ [] ++ after).dropWhile drop = [] := by
      rw [List.append_nil, List.dropWhile_append_of_pos hbefore]
      exact List.dropWhile_eq_nil_iff.mpr hafter
    rw [trim, hall]
    rfl
  | cons c core => rw [trim_append_of_isBare (List.cons_ne_nil c core) hbare hafter, hgone,
      List.nil_append]

lemma strips_trim (drop : Char → Bool) (cs : List Char) : Strips drop cs (trim drop cs) := by
  set rest := cs.dropWhile drop with hrest
  obtain ⟨after, hafter, hdropped, hlast⟩ : StripsEnd drop rest (trim drop cs) :=
    trimEnd_eq_iff.mp rfl
  refine ⟨cs.takeWhile drop, after, ?_, fun c => List.mem_takeWhile_imp, hdropped, ?_, hlast⟩
  · rw [List.append_assoc, ← hafter, hrest, List.takeWhile_append_dropWhile]
  · -- A first character that is left is the first that was not dropped.
    intro c hc
    have hfirst := List.head?_dropWhile_not drop cs
    rw [← hrest, hafter, List.head?_append, Option.mem_def.mp hc, Option.some_or] at hfirst
    exact hfirst

lemma trim_eq_iff : trim drop cs = core ↔ Strips drop cs core := by
  constructor
  · rintro rfl
    exact strips_trim drop cs
  · exact trim_eq_of_strips

lemma trim_eq_self_of_isBare (h : IsBare drop cs) : trim drop cs = cs :=
  trim_eq_of_strips ⟨[], [], by simp, by simp, by simp, h⟩

end Text

end EntitySync
