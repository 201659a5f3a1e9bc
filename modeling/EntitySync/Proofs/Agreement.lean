import EntitySync.Proofs.Acceptance
import EntitySync.Proofs.Frame
import EntitySync.Proofs.Merging
import EntitySync.Proofs.RoundTrip

/-!
# What is read and what is changed

Merges and deletes work on a list of records, and the list is read from the same collection. The two
agree on what the collection holds, with one exception: an array that is kept as a plain value is
changed as a list of records, but none of its entries are read. Such a collection can only be put in
place by hand. An operation on it brings its records to light, so that an edit that changes nothing
changes what is read.
-/

namespace EntitySync

namespace Snapshot

variable {s t next : Snapshot} {entityType other : EntityType} {existing : List Record}
  {o : Operation} {ops : List Operation}

/-! ### Hidden records -/

/-- The collection is an array with an entry, kept as a plain value. -/
def Hides (s : Snapshot) (entityType : EntityType) : Prop :=
  ∃ entry rest, s.get? entityType = some (.value (.array (entry :: rest)))

lemma Hides.records_eq_nil (h : s.Hides entityType) : s.records entityType = [] := by
  obtain ⟨entry, rest, hget⟩ := h
  simp [records, hget, Collection.records?]

/-- What is read is what can be changed, unless it is hidden. -/
lemma Holds.records_eq_iff (h : s.Holds entityType existing) :
    s.records entityType = existing ↔ ¬ s.Hides entityType := by
  cases h with
  | missing hget | null hget | records hget =>
    simp [Snapshot.records, Hides, hget, Collection.records?]
  | @array entries hget =>
    cases entries <;> simp [Snapshot.records, Hides, hget, Collection.records?]

lemma Regular.not_hides (h : s.Regular) : ¬ s.Hides entityType := by
  rintro ⟨entry, rest, hget⟩
  exact h entityType _ hget _ rfl

lemma hides_congr (h : t.get? entityType = s.get? entityType) :
    t.Hides entityType ↔ s.Hides entityType := by
  rw [Hides, Hides, h]

/-- Replacing a collection hides it if it is replaced by such an array. -/
lemma hides_set_iff {c : Collection} :
    (s.set other c).Hides entityType ↔
      other = entityType ∧ (∃ entry rest, c = .value (.array (entry :: rest))) ∨
        other ≠ entityType ∧ s.Hides entityType := by
  by_cases htype : other = entityType
  · simp [htype, Hides, get?_set]
  · have hget : (s.set other c).get? entityType = s.get? entityType := by
      rw [get?_set, if_neg (Ne.symm htype)]
    simp [hides_congr hget, htype]

/-- An operation leaves its own collection in sight and the others as they are. -/
lemma Step.hides_iff (h : s.Step o next) :
    next.Hides entityType ↔ s.Hides entityType ∧ o.entityType ≠ entityType := by
  by_cases htype : o.entityType = entityType
  · subst htype
    have hseen : ¬ next.Hides o.entityType := by
      rintro ⟨entry, rest, hget⟩
      by_cases hverb : o.verb = .overwrite
      · rw [h.get?_of_overwrite hverb] at hget
        exact Collection.regular_ofJson o.target _ (Option.some.inj hget)
      · obtain ⟨entries, hentries⟩ := h.exists_records hverb
        cases hentries.symm.trans hget
    simp [hseen]
  · rw [hides_congr (h.get?_of_ne (Ne.symm htype))]
    simp [htype]

lemma Run.hides_iff (h : s.Run ops t) :
    t.Hides entityType ↔ s.Hides entityType ∧ ∀ o ∈ ops, o.entityType ≠ entityType := by
  induction h with
  | nil => simp
  | cons hstep _ ih => rw [ih, hstep.hides_iff, List.forall_mem_cons, and_assoc]

/-! ### Edits that change nothing -/

/-- A merge of no records, or a delete of none, keeps the list and leaves it as records. -/
lemma Holds.step_of_empty {verb : Verb} (h : s.Holds entityType existing) (hverb : verb.Edits) :
    s.Step ⟨verb, entityType, .array []⟩ (s.set entityType (.records existing)) := by
  have hunmatched : Record.unmatched existing [] = existing := by simp [Record.unmatched]
  rcases hverb with hplaced | rfl
  · obtain ⟨placement, hplacement⟩ := Option.ne_none_iff_exists'.mp hplaced
    have hplace : Change.place placement existing [] = existing := by
      cases placement <;> simp [Change.place]
    have hstep := Step.merge [] hplacement h
    rwa [List.map_nil, hunmatched, hplace] at hstep
  · have hlisted : Change.listed? (.array []) = some [] := rfl
    have hstep := Step.delete hlisted h
    rwa [hunmatched] at hstep

/-- What is read is the list that merges and deletes work on, unless that is hidden; then nothing is
read. A merge or a delete with an empty target leaves the list as the records of the collection and
the others as they are, so it changes what is read exactly if the list was hidden. Hidden lists come
from replacing a collection, never from a JSON object or an operation, and a batch leaves no
collection hidden that it accepts an operation on. -/
theorem records_agree_unless_hidden (s : Snapshot) (entityType : EntityType) :
    (∀ existing, s.Holds entityType existing →
      (s.records entityType = existing ↔ ¬ s.Hides entityType) ∧
      (s.Hides entityType → s.records entityType = [] ∧ existing ≠ []) ∧
      ∀ verb : Verb, verb.Edits →
        ∃ next, s.apply ⟨verb, entityType, .array []⟩ = .ok next ∧
          next.get? entityType = some (.records existing) ∧
          next.records entityType = existing ∧
          (next.records entityType = s.records entityType ↔ ¬ s.Hides entityType) ∧
          ∀ other ≠ entityType, next.get? other = s.get? other) ∧
    (∀ other c, (s.set other c).Hides entityType ↔
      other = entityType ∧ (∃ entry rest, c = .value (.array (entry :: rest))) ∨
        other ≠ entityType ∧ s.Hides entityType) ∧
    (∀ ops, (s.reached ops).Hides entityType ↔
      s.Hides entityType ∧ ∀ o ∈ s.accepted ops, o.entityType ≠ entityType) ∧
    (Reachable s → ¬ s.Hides entityType) := by
  refine ⟨fun existing hheld => ⟨hheld.records_eq_iff, fun hhides => ?_, fun verb hverb => ?_⟩,
    fun other c => hides_set_iff, fun ops => (s.longestRun_reached ops).run.hides_iff,
    fun hs => hs.regular.not_hides⟩
  · have hread := hhides.records_eq_nil
    refine ⟨hread, ?_⟩
    rintro rfl
    exact hheld.records_eq_iff.mp hread hhides
  · have hstep := hheld.step_of_empty hverb
    have hget : (s.set entityType (.records existing)).get? entityType =
        some (.records existing) := by
      rw [get?_set, if_pos rfl]
    have hread := records_of_get? hget
    refine ⟨_, apply_eq_ok_iff.mpr hstep, hget, hread, ?_, fun other hne => hstep.get?_of_ne hne⟩
    rw [hread, ← hheld.records_eq_iff, eq_comm]

/-- A hidden list of one entry: it is held, it is not read, and a merge of nothing brings it to
light. -/
theorem records_hidden_until_merged :
    let s := empty.set "Event" (.value (.array [.null]))
    s.Holds "Event" [⟨.null⟩] ∧ s.records "Event" = [] ∧
      ∃ next, s.apply ⟨.merge, "Event", .array []⟩ = .ok next ∧
        next.records "Event" = [⟨.null⟩] := by
  intro s
  have hheld : s.Holds "Event" ([.null].map Record.mk) := .array rfl
  exact ⟨hheld, rfl, _, rfl, rfl⟩

end Snapshot

end EntitySync
