import EntitySync.Proofs.Acceptance
import EntitySync.Proofs.FirstRejection
import EntitySync.Proofs.Lockstep

/-!
# When operations are rejected

For each cause there is one rule that says when an operation is rejected for it: first the verb
counts, then the shape of the target, and last the kind of the collection. The records themselves
never count, so snapshots whose collections are of the same kinds reject the same operations.
-/

namespace EntitySync

/-! ### Vocabulary -/

/-- The words that name a verb. -/
def Verb.vocabulary : List String :=
  ["MERGE", "MERGE_APPEND", "MERGE_PREPEND", "ADD", "OVERWRITE", "DELETE"]

/-- Exactly the words outside the vocabulary are read as unknown verbs. -/
lemma Verb.exists_ofWord_eq_unknown_iff (word : String) :
    (∃ other, ofWord word = .unknown other) ↔ word ∉ vocabulary := by
  unfold ofWord vocabulary
  split_ifs <;> simp_all

/-- The target has the shape that the verb asks for: a list for a merge, an object or a list for a
delete. -/
def Operation.Fits (o : Operation) : Prop :=
  (o.verb.placement? ≠ none → ∃ entries, o.target = .array entries) ∧
  (o.verb = .delete → (∃ entries, o.target = .array entries) ∨
    ∃ members, o.target = .object members)

namespace Snapshot

variable {s t next : Snapshot} {o : Operation} {cause : Cause}

/-! ### Rules -/

/-- The operation is rejected for the cause. -/
inductive Refuses (s : Snapshot) (o : Operation) : Cause → Prop where
  | unknownVerb {word : String} (hverb : o.verb = .unknown word) : Refuses s o .unknownVerb
  | unsupportedVerb (hverb : o.verb = .add) : Refuses s o .unsupportedVerb
  | noList (hverb : o.verb.placement? ≠ none)
      (harray : ∀ entries, o.target ≠ .array entries) : Refuses s o (.invalidTarget .records)
  | noRecord (hverb : o.verb = .delete) (harray : ∀ entries, o.target ≠ .array entries)
      (hobject : ∀ members, o.target ≠ .object members) :
      Refuses s o (.invalidTarget .recordOrRecords)
  | plain (hverb : o.verb.Edits) (hfits : o.Fits) (hplain : s.HoldsPlain o.entityType) :
      Refuses s o .notRecords

lemma exists_step_of_fits (hverb : o.verb.Edits) (hfits : o.Fits)
    (hplain : ¬ s.HoldsPlain o.entityType) : ∃ next, s.Step o next := by
  obtain ⟨verb, entityType, target⟩ := o
  obtain ⟨existing, hheld⟩ := not_holdsPlain_iff.mp hplain
  rcases hverb with hmerge | hdelete
  · obtain ⟨placement, hplacement⟩ := Option.ne_none_iff_exists'.mp hmerge
    obtain ⟨entries, rfl⟩ := hfits.1 hmerge
    exact ⟨_, .merge entries hplacement hheld⟩
  · obtain rfl : verb = .delete := hdelete
    rcases hfits.2 rfl with ⟨entries, rfl⟩ | ⟨members, rfl⟩
    · exact ⟨_, .delete rfl hheld⟩
    · exact ⟨_, .delete rfl hheld⟩

lemma not_holdsPlain_empty (entityType : EntityType) : ¬ empty.HoldsPlain entityType :=
  not_holdsPlain_iff.mpr ⟨[], .missing rfl⟩

lemma Refuses.apply_eq (h : s.Refuses o cause) : s.apply o = .error ⟨o, cause⟩ := by
  cases h with
  | plain hverb hfits hplain =>
    obtain ⟨next, hstep⟩ := exists_step_of_fits hverb hfits (not_holdsPlain_empty o.entityType)
    exact hstep.apply_eq_notRecords hverb hplain
  | unknownVerb hverb | unsupportedVerb hverb =>
    simp only [apply, Change.ofOperation, hverb, Except.bind]
  | noList hverb harray =>
    obtain ⟨verb, entityType, target⟩ := o
    have hrecords : Change.mergeRecords target = .error (.invalidTarget .records) := by
      cases target with
      | array entries => exact absurd rfl (harray entries)
      | _ => rfl
    cases verb <;> simp [Verb.placement?] at hverb <;>
      simp [apply, Change.ofOperation, hrecords, Except.map, Except.bind]
  | noRecord hverb harray hobject =>
    obtain ⟨verb, entityType, target⟩ := o
    obtain rfl : verb = .delete := hverb
    cases target with
    | array entries => exact absurd rfl (harray entries)
    | object members => exact absurd rfl (hobject members)
    | _ => rfl

lemma exists_refuses_of_not_fits (s : Snapshot) (h : ¬ o.Fits) : ∃ cause, s.Refuses o cause := by
  rw [Operation.Fits, not_and_or] at h
  push Not at h
  rcases h with ⟨hmerge, harray⟩ | ⟨hdelete, harray, hobject⟩
  · exact ⟨_, .noList hmerge harray⟩
  · exact ⟨_, .noRecord hdelete harray hobject⟩

/-- An operation is accepted, or rejected by one of the rules. -/
lemma step_or_refuses (s : Snapshot) (o : Operation) :
    (∃ next, s.Step o next) ∨ ∃ cause, s.Refuses o cause := by
  by_cases hfits : o.Fits
  · by_cases hedits : o.verb.Edits
    · by_cases hplain : s.HoldsPlain o.entityType
      · exact Or.inr ⟨_, .plain hedits hfits hplain⟩
      · exact Or.inl (exists_step_of_fits hedits hfits hplain)
    · obtain ⟨verb, entityType, target⟩ := o
      cases verb with
      | overwrite => exact Or.inl ⟨_, .overwrite entityType target⟩
      | add => exact Or.inr ⟨_, .unsupportedVerb rfl⟩
      | unknown word => exact Or.inr ⟨_, .unknownVerb rfl⟩
      | merge | mergeAppend | mergePrepend =>
        exact absurd (Or.inl (by simp [Verb.placement?])) hedits
      | delete => exact absurd (Or.inr rfl) hedits
  · exact Or.inr (s.exists_refuses_of_not_fits hfits)

/-- An operation is rejected exactly by the rules, and the rejection carries it. -/
lemma apply_eq_error_iff {r : Rejection} :
    s.apply o = .error r ↔ r.operation = o ∧ s.Refuses o r.cause := by
  constructor
  · intro h
    have hcarried := operation_of_apply_eq_error h
    refine ⟨hcarried, ?_⟩
    rcases s.step_or_refuses o with ⟨next, hstep⟩ | ⟨cause, hrefuses⟩
    · rw [apply_eq_ok_iff.mpr hstep] at h
      cases h
    · rw [hrefuses.apply_eq] at h
      cases h
      exact hrefuses
  · rintro ⟨rfl, hrefuses⟩
    exact hrefuses.apply_eq

lemma exists_step_iff : (∃ next, s.Step o next) ↔ ∀ cause, ¬ s.Refuses o cause := by
  constructor
  · rintro ⟨next, hstep⟩ cause hrefuses
    have h := hrefuses.apply_eq
    rw [apply_eq_ok_iff.mpr hstep] at h
    cases h
  · intro h
    rcases s.step_or_refuses o with hstep | ⟨cause, hrefuses⟩
    · exact hstep
    · exact absurd hrefuses (h cause)

/-- An operation is accepted if it overwrites, or if it edits, its target fits, and the collection
is no plain value. -/
lemma exists_apply_eq_ok_iff : (∃ next, s.apply o = .ok next) ↔
    o.verb = .overwrite ∨ o.verb.Edits ∧ o.Fits ∧ ¬ s.HoldsPlain o.entityType := by
  simp only [apply_eq_ok_iff]
  constructor
  · rw [exists_step_iff]
    intro hfree
    have hfits : o.Fits := by
      by_contra h
      obtain ⟨cause, hrefuses⟩ := s.exists_refuses_of_not_fits h
      exact hfree cause hrefuses
    have hplain : o.verb.Edits → ¬ s.HoldsPlain o.entityType := fun hedits hplain =>
      hfree _ (.plain hedits hfits hplain)
    cases hverb : o.verb with
    | overwrite => exact Or.inl rfl
    | add => exact absurd (.unsupportedVerb hverb) (hfree _)
    | unknown word => exact absurd (.unknownVerb hverb) (hfree _)
    | merge | mergeAppend | mergePrepend | delete =>
      have hedits : o.verb.Edits := by simp [Verb.Edits, Verb.placement?, hverb]
      exact Or.inr ⟨hverb ▸ hedits, hfits, hplain hedits⟩
  · rintro (hverb | ⟨hedits, hfits, hplain⟩)
    · obtain ⟨verb, entityType, target⟩ := o
      obtain rfl : verb = .overwrite := hverb
      exact ⟨_, .overwrite entityType target⟩
    · exact exists_step_of_fits hedits hfits hplain

end Snapshot

/-! ### Kinds of collections -/

/-- What a collection is to the engine: nothing if it is missing or null, a list, or a plain
value. -/
inductive CollectionKind where
  | nothing
  | list
  | plain
deriving DecidableEq

def Collection.kind : Collection → CollectionKind
  | .records _ | .value (.array _) => .list
  | .value .null => .nothing
  | .value _ => .plain

namespace Snapshot

variable {s t : Snapshot} {o : Operation} {cause : Cause}

def kind (s : Snapshot) (entityType : EntityType) : CollectionKind :=
  ((s.get? entityType).map Collection.kind).getD .nothing

/-- The collections are of the same kinds, whatever records they hold. -/
def SameKinds (s t : Snapshot) : Prop :=
  ∀ entityType, s.kind entityType = t.kind entityType

lemma kind_congr {entityType : EntityType} (h : s.get? entityType = t.get? entityType) :
    s.kind entityType = t.kind entityType := by
  rw [kind, kind, h]

lemma holdsPlain_iff_kind {entityType : EntityType} :
    s.HoldsPlain entityType ↔ s.kind entityType = .plain := by
  rw [holdsPlain_iff_changeable?_eq_none, changeable?, kind]
  cases s.get? entityType with
  | none => simp
  | some c =>
    cases c with
    | records entries => simp [Collection.kind]
    | value json => cases json <;> simp [Collection.kind]

lemma SameKinds.refuses (h : s.SameKinds t) (hrefuses : s.Refuses o cause) :
    t.Refuses o cause := by
  cases hrefuses with
  | unknownVerb hverb => exact .unknownVerb hverb
  | unsupportedVerb hverb => exact .unsupportedVerb hverb
  | noList hverb harray => exact .noList hverb harray
  | noRecord hverb harray hobject => exact .noRecord hverb harray hobject
  | plain hverb hfits hplain =>
    rw [holdsPlain_iff_kind, h o.entityType, ← holdsPlain_iff_kind] at hplain
    exact .plain hverb hfits hplain

/-- A step leaves collections of the same kinds: its verb and target alone decide on the kind of
the collection that it puts in place. -/
lemma SameKinds.step {next next' : Snapshot} (h : s.SameKinds t) (hs : s.Step o next)
    (ht : t.Step o next') : next.SameKinds next' := by
  intro entityType
  by_cases htype : entityType = o.entityType
  · subst htype
    by_cases hverb : o.verb = .overwrite
    · refine kind_congr ?_
      rw [hs.get?_of_overwrite hverb, ht.get?_of_overwrite hverb]
    · obtain ⟨entries, hentries⟩ := hs.exists_records hverb
      obtain ⟨entries', hentries'⟩ := ht.exists_records hverb
      rw [kind, kind, hentries, hentries']
      rfl
  · rw [kind_congr (hs.get?_of_ne htype), kind_congr (ht.get?_of_ne htype), h entityType]

lemma SameKinds.sameStep (h : s.SameKinds t) (o : Operation) :
    SameStep SameKinds (s.apply o) (t.apply o) := by
  rcases s.step_or_refuses o with ⟨next, hs⟩ | ⟨cause, hrefuses⟩
  · rcases t.step_or_refuses o with ⟨next', ht⟩ | ⟨cause, hrefuses⟩
    · rw [apply_eq_ok_iff.mpr hs, apply_eq_ok_iff.mpr ht]
      exact .accepted (h.step hs ht)
    · have hother := SameKinds.refuses (fun e => (h e).symm) hrefuses
      exact absurd hother (exists_step_iff.mp ⟨next, hs⟩ cause)
  · rw [hrefuses.apply_eq, (h.refuses hrefuses).apply_eq]
    exact .rejected _

/-- Each cause has its condition on the verb, the target and the kind of the collection; in every
other case the operation is accepted. Records do not count: in a snapshot with collections of the
same kinds a batch succeeds as well, or it fails at the same place by the same rejection. -/
theorem apply_error_iff_kind (s : Snapshot) (o : Operation) :
    (s.apply o = .error ⟨o, .unknownVerb⟩ ↔ ∃ word, o.verb = .unknown word) ∧
    (s.apply o = .error ⟨o, .unsupportedVerb⟩ ↔ o.verb = .add) ∧
    (s.apply o = .error ⟨o, .invalidTarget .records⟩ ↔
      o.verb.placement? ≠ none ∧ ∀ entries, o.target ≠ .array entries) ∧
    (s.apply o = .error ⟨o, .invalidTarget .recordOrRecords⟩ ↔ o.verb = .delete ∧
      (∀ entries, o.target ≠ .array entries) ∧ ∀ members, o.target ≠ .object members) ∧
    (s.apply o = .error ⟨o, .notRecords⟩ ↔
      o.verb.Edits ∧ o.Fits ∧ s.kind o.entityType = .plain) ∧
    ((∃ next, s.apply o = .ok next) ↔
      o.verb = .overwrite ∨ o.verb.Edits ∧ o.Fits ∧ s.kind o.entityType ≠ .plain) ∧
    (∀ r, s.apply o = .error r → r.operation = o) ∧
    (∀ word, (∃ other, Verb.ofWord word = .unknown other) ↔ word ∉ Verb.vocabulary) ∧
    ∀ t, s.SameKinds t → ∀ ops, SameOutcome SameKinds (s.applyAll ops) (t.applyAll ops) := by
  simp only [apply_eq_error_iff, true_and, ← holdsPlain_iff_kind, Ne]
  refine ⟨?_, ?_, ?_, ?_, ?_, exists_apply_eq_ok_iff, fun r hr => hr.1,
    Verb.exists_ofWord_eq_unknown_iff, fun t h ops => ?_⟩
  · constructor
    · intro h
      cases h with
      | unknownVerb hverb => exact ⟨_, hverb⟩
    · rintro ⟨word, hverb⟩
      exact .unknownVerb hverb
  · constructor
    · intro h
      cases h with
      | unsupportedVerb hverb => exact hverb
    · exact .unsupportedVerb
  · constructor
    · intro h
      cases h with
      | noList hverb harray => exact ⟨hverb, harray⟩
    · rintro ⟨hverb, harray⟩
      exact .noList hverb harray
  · constructor
    · intro h
      cases h with
      | noRecord hverb harray hobject => exact ⟨hverb, harray, hobject⟩
    · rintro ⟨hverb, harray, hobject⟩
      exact .noRecord hverb harray hobject
  · constructor
    · intro h
      cases h with
      | plain hverb hfits hplain => exact ⟨hverb, hfits, hplain⟩
    · rintro ⟨hverb, hfits, hplain⟩
      exact .plain hverb hfits hplain
  · exact applyAll_sameOutcome (fun _ _ o h => h.sameStep o) h ops

/-- A token meets a number, null meets a missing collection, and records meet an array with others
that is kept as a plain value. -/
theorem apply_error_iff_kind_other_records :
    let s := ((empty.set "Event" (.records [⟨.null⟩])).set "Log" (.value .null)).set tokenType
      (.value (.string "t"))
    let t := (empty.set "Event" (.value (.array []))).set tokenType (.value (.bool false))
    let ops : List Operation := [
      ⟨.mergePrepend, "Log", .array [.null]⟩,
      ⟨.delete, "Event", .object []⟩,
      ⟨.delete, tokenType, .array []⟩]
    s.SameKinds t ∧ ∃ d e, s.applyAll ops = .error d ∧ t.applyAll ops = .error e ∧
      d.index = 2 ∧ e.index = 2 ∧ e.source = d.source ∧ d.source.cause = .notRecords ∧
      d.applied.SameKinds e.applied := by
  intro s t ops
  have hkinds : s.SameKinds t := by
    intro entityType
    simp only [s, t, kind, get?_set]
    split_ifs <;> simp_all [Collection.kind, empty, get?]
  obtain ⟨-, -, -, -, -, -, -, -, hsame⟩ := apply_error_iff_kind s ⟨.add, "Event", .null⟩
  have houtcome := hsame t hkinds ops
  have hfails : Except.casesOn (motive := fun _ => Bool) (s.applyAll ops)
      (fun d => decide (d.index = 2 ∧ d.source.cause = .notRecords)) (fun _ => false) = true := by
    decide +kernel
  generalize s.applyAll ops = a, t.applyAll ops = b at houtcome hfails
  cases houtcome with
  | ok => cases hfails
  | error index source h =>
    obtain ⟨hindex, hcause⟩ := of_decide_eq_true hfails
    exact ⟨hkinds, _, _, rfl, rfl, hindex, hindex, rfl, hcause, h⟩

end Snapshot

end EntitySync
