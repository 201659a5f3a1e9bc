import EntitySync.Proofs.Run

/-!
# Batches in other snapshots

Whether an operation of a batch is accepted depends on little: once a collection has been changed by
the batch, the batch alone decides whether its later operations on the collection are accepted. So a
batch that runs from one snapshot runs from another one, unless the first operation on a collection
is a merge or a delete and finds a plain value there. It then fails at the first such operation.
-/

namespace EntitySync

/-- The verb changes records that are there: a merge or a delete. -/
def Verb.Edits (v : Verb) : Prop :=
  v.placement? ≠ none ∨ v = .delete

lemma Verb.Edits.ne_overwrite {v : Verb} (h : v.Edits) : v ≠ .overwrite := by
  rintro rfl
  simp [Verb.Edits, Verb.placement?] at h

namespace Snapshot

variable {s t u v : Snapshot} {entityType : EntityType} {o : Operation} {ops : List Operation}

/-! ### Plain values -/

/-- The collection is a plain value that is neither a list nor null. -/
def HoldsPlain (s : Snapshot) (entityType : EntityType) : Prop :=
  ∃ value, s.get? entityType = some (.value value) ∧ value ≠ .null ∧
    ∀ entries, value ≠ .array entries

lemma holdsPlain_iff_changeable?_eq_none :
    s.HoldsPlain entityType ↔ s.changeable? entityType = none := by
  unfold HoldsPlain changeable?
  constructor
  · rintro ⟨value, hget, hnull, harray⟩
    rw [hget]
    cases value with
    | null => exact absurd rfl hnull
    | array entries => exact absurd rfl (harray entries)
    | _ => rfl
  · intro h
    split at h
    next => cases h
    next => cases h
    next => cases h
    next => cases h
    next value hnull harray hget => exact ⟨value, hget, hnull, harray⟩

/-- A collection that is no plain value holds a list of records. -/
lemma not_holdsPlain_iff :
    ¬ s.HoldsPlain entityType ↔ ∃ existing, s.Holds entityType existing := by
  simp only [holdsPlain_iff_changeable?_eq_none, ← changeable?_eq_some_iff]
  exact Option.ne_none_iff_exists'

lemma HoldsPlain.congr (h : s.HoldsPlain entityType)
    (hget : t.get? entityType = s.get? entityType) : t.HoldsPlain entityType := by
  obtain ⟨value, hvalue, hplain⟩ := h
  exact ⟨value, hget.trans hvalue, hplain⟩

/-! ### One operation -/

/-- An operation that is accepted in one snapshot is accepted in another one, unless it edits and
finds a plain value there. -/
lemma Step.exists_step (h : s.Step o t) (hplain : o.verb.Edits → ¬ v.HoldsPlain o.entityType) :
    ∃ next, v.Step o next := by
  cases h with
  | overwrite entityType target => exact ⟨_, .overwrite entityType target⟩
  | merge entries hplacement =>
    obtain ⟨existing, hheld⟩ := not_holdsPlain_iff.mp (hplain (Or.inl (by simp [hplacement])))
    exact ⟨_, .merge entries hplacement hheld⟩
  | delete hlisted =>
    obtain ⟨existing, hheld⟩ := not_holdsPlain_iff.mp (hplain (Or.inr rfl))
    exact ⟨_, .delete hlisted hheld⟩

/-- A change fails for a plain value only. -/
lemma eq_notRecords_of_changed {change : Change} {cause : Cause}
    (h : s.changed entityType change = .error cause) : cause = .notRecords := by
  cases change with
  | overwrite value => cases h
  | merge | delete =>
    simp only [changed] at h
    split at h
    · cases h
    · exact (Except.error.inj h).symm

/-- An operation that is accepted elsewhere is rejected on a plain value, and for no other cause. -/
lemma Step.apply_eq_notRecords (h : s.Step o t) (hedits : o.verb.Edits)
    (hplain : v.HoldsPlain o.entityType) : v.apply o = .error ⟨o, .notRecords⟩ := by
  obtain ⟨change, -, hchange, -, -⟩ := apply_eq_ok_iff_changed.mp (apply_eq_ok_iff.mpr h)
  cases hresult : v.apply o with
  | ok next =>
    have hholds := (apply_eq_ok_iff.mp hresult).exists_holds hedits.ne_overwrite
    exact absurd hplain (not_holdsPlain_iff.mpr hholds)
  | error r =>
    simp only [apply, hchange, Except.bind] at hresult
    split at hresult
    next => cases hresult
    next cause hcause => rw [← hresult, eq_notRecords_of_changed hcause]

/-- A step leaves a plain value only if it puts one in place, whatever was there. -/
lemma Step.holdsPlain_of_holdsPlain (h : s.Step o t) (h' : u.Step o v)
    (hplain : v.HoldsPlain o.entityType) : t.HoldsPlain o.entityType := by
  by_cases hverb : o.verb = .overwrite
  · refine hplain.congr ?_
    rw [h.get?_of_overwrite hverb, h'.get?_of_overwrite hverb]
  · obtain ⟨entries, hentries⟩ := h'.exists_records hverb
    exact absurd hplain (not_holdsPlain_iff.mpr ⟨entries, .records hentries⟩)

/-! ### Batches -/

/-- The operation at the index is the first one on its entity type. It edits, but the collection is
a plain value. -/
def Blocked (s : Snapshot) (ops : List Operation) (k : ℕ) : Prop :=
  ∃ o, ops[k]? = some o ∧ o.verb.Edits ∧
    (∀ earlier ∈ ops.take k, earlier.entityType ≠ o.entityType) ∧ s.HoldsPlain o.entityType

lemma Blocked.of_take {k j : ℕ} (h : s.Blocked (ops.take k) j) : s.Blocked ops j ∧ j < k := by
  obtain ⟨o, ho, hedits, hfirst, hplain⟩ := h
  rw [List.getElem?_take] at ho
  split_ifs at ho with hlt
  rw [List.take_take, min_eq_left hlt.le] at hfirst
  exact ⟨⟨o, ho, hedits, hfirst, hplain⟩, hlt⟩

/-- A run meets no plain value where it edits first. -/
lemma Run.not_blocked (h : Run s ops t) (k : ℕ) : ¬ s.Blocked ops k := by
  rintro ⟨o, ho, hedits, hfirst, hplain⟩
  obtain ⟨mid, next, hmid, hstep⟩ := h.exists_step ho
  have hholds := hstep.exists_holds hedits.ne_overwrite
  exact not_holdsPlain_iff.mpr hholds (hplain.congr (hmid.get?_of_forall_ne hfirst))

/-- A batch that runs from one snapshot runs from every other one in which it is not blocked. -/
lemma Run.exists_run (h : Run s ops t) (hfree : ∀ k, ¬ v.Blocked ops k) : ∃ u, Run v ops u := by
  induction h generalizing v with
  | nil => exact ⟨v, .nil v⟩
  | @cons s next t o ops hstep hrun ih =>
    have hplain : o.verb.Edits → ¬ v.HoldsPlain o.entityType := fun hedits hplain =>
      hfree 0 ⟨o, rfl, hedits, by simp, hplain⟩
    obtain ⟨mid, hmid⟩ := hstep.exists_step hplain
    have hrest : ∀ k, ¬ mid.Blocked ops k := by
      rintro k ⟨o', ho', hedits, hfirst, hplain⟩
      by_cases htype : o'.entityType = o.entityType
      · -- the step leaves the same in both runs, and the first run met no plain value there
        have hnext := hstep.holdsPlain_of_holdsPlain hmid (htype ▸ hplain)
        exact hrun.not_blocked k ⟨o', ho', hedits, hfirst, htype ▸ hnext⟩
      · refine hfree (k + 1) ⟨o', ho', hedits, ?_, hplain.congr (hmid.get?_of_ne htype).symm⟩
        rw [List.take_succ_cons, List.forall_mem_cons]
        exact ⟨Ne.symm htype, hfirst⟩
    obtain ⟨u, hu⟩ := ih hrest
    exact ⟨u, .cons hmid hu⟩

/-- A batch that runs from one snapshot fails in another one at the first place where it is
blocked. -/
lemma Run.applyAll_eq_error_of_isLeast {k : ℕ} (h : Run s ops t)
    (hleast : IsLeast {k | v.Blocked ops k} k) :
    ∃ e, v.applyAll ops = .error e ∧ e.index = k ∧ e.source.cause = .notRecords := by
  obtain ⟨⟨o, ho, hedits, hfirst, hplain⟩, hbefore⟩ := hleast
  obtain ⟨mid, next, hmid, hstep⟩ := h.exists_step ho
  have hfree : ∀ j, ¬ v.Blocked (ops.take k) j := by
    intro j hj
    obtain ⟨hblocked, hlt⟩ := hj.of_take
    exact absurd (hbefore hblocked) (Nat.not_le.mpr hlt)
  obtain ⟨applied, happlied⟩ := hmid.exists_run hfree
  have hreject : applied.apply o = .error ⟨o, .notRecords⟩ :=
    hstep.apply_eq_notRecords hedits (hplain.congr (happlied.get?_of_forall_ne hfirst))
  exact ⟨⟨k, applied, o, .notRecords⟩,
    applyAll_eq_error_iff_getElem?.mpr ⟨o, ho, happlied, hreject⟩, rfl, rfl⟩

end Snapshot

end EntitySync
