import EntitySync.Proofs.Acceptance
import EntitySync.Proofs.BatchPatch

/-!
# Replaying a batch

A batch that was applied is applied once more. A patch whose entries all have comparable ids drops
its own entries before it adds them, so it does nothing to a list that it was made to. A collection
that the batch overwrites ends the same in both runs. So the second run leads nowhere new, if it is
not blocked by a plain value that the batch itself has put in place.
-/

namespace EntitySync

/-- No entry that the operation merges has an object or an array as its id. -/
def Operation.MergesComparable (o : Operation) : Prop :=
  o.verb.placement? ≠ none → ∀ entries, o.target = .array entries → ∀ entry ∈ entries,
    (∀ members, entry.get? "id" ≠ some (.object members)) ∧
    ∀ elements, entry.get? "id" ≠ some (.array elements)

lemma Record.exists_id_of_forall_ne {entry : Json}
    (hobject : ∀ members, entry.get? "id" ≠ some (.object members))
    (harray : ∀ elements, entry.get? "id" ≠ some (.array elements)) :
    ∃ i, (Record.mk entry).id? = some i := by
  unfold Record.id? RecordId.of?
  cases hid : entry.get? "id" with
  | none => exact ⟨.absent, rfl⟩
  | some member =>
    cases member with
    | object members => exact absurd hid (hobject members)
    | array elements => exact absurd hid (harray elements)
    | _ => exact ⟨_, rfl⟩

namespace Patch

/-! ### Patches that drop their own entries -/

/-- Every entry that the patch adds has an id that it drops. -/
def Absorbs (p : Patch) : Prop :=
  ∀ r ∈ p.front ++ p.back, ∃ i ∈ r.id?, i ∈ p.dropped

lemma absorbs_empty : empty.Absorbs := by
  simp [Absorbs, empty]

/-- A patch does nothing to a list that it was made to. -/
lemma Absorbs.act_act {p : Patch} (h : p.Absorbs) (existing : List Record) :
    p.act (p.act existing) = p.act existing := by
  have hnone : ∀ records : List Record, records ⊆ p.front ++ p.back →
      records.filter (fun r => ∀ i ∈ r.id?, i ∉ p.dropped) = [] := by
    intro records hsub
    rw [List.filter_eq_nil_iff]
    intro r hr hkept
    obtain ⟨i, hi, hdropped⟩ := h r (hsub hr)
    exact of_decide_eq_true hkept i hi hdropped
  unfold act
  rw [List.filter_append, List.filter_append, hnone p.front (by simp), hnone p.back (by simp),
    List.filter_filter]
  simp

/-- The entries of a patch with one more operation are entries of the patch or merged ones. -/
lemma mem_step {p : Patch} {o : Operation} {r : Record}
    (h : r ∈ (p.step o).front ++ (p.step o).back) :
    r ∈ p.front ++ p.back ∨
      o.verb.placement? ≠ none ∧ r ∈ (Change.listed? o.target).getD [] := by
  obtain ⟨verb, entityType, target⟩ := o
  cases verb <;> simp [step, Verb.placement?, Record.mem_unmatched] at h ⊢ <;> tauto

lemma dropped_subset_step (p : Patch) (o : Operation) : p.dropped ⊆ (p.step o).dropped := by
  obtain ⟨verb, entityType, target⟩ := o
  cases verb <;> simp [step]

lemma idsOf_subset_step (p : Patch) {o : Operation} (hverb : o.verb.placement? ≠ none) :
    idsOf ((Change.listed? o.target).getD []) ⊆ (p.step o).dropped := by
  obtain ⟨verb, entityType, target⟩ := o
  cases verb <;> simp [step, Verb.placement?] at hverb ⊢

/-- A merge of comparable ids drops the ids of all that it adds. -/
lemma Absorbs.step {p : Patch} {o : Operation} (h : p.Absorbs)
    (hids : o.verb.placement? ≠ none → ∀ r ∈ (Change.listed? o.target).getD [],
      ∃ i, r.id? = some i) : (p.step o).Absorbs := by
  intro r hr
  rcases mem_step hr with hr | ⟨hverb, hr⟩
  · obtain ⟨i, hi, hdropped⟩ := h r hr
    exact ⟨i, hi, dropped_subset_step p o hdropped⟩
  · obtain ⟨i, hi⟩ := hids hverb r hr
    have hlisted : i ∈ idsOf ((Change.listed? o.target).getD []) :=
      List.mem_toFinset.mpr (List.mem_filterMap.mpr ⟨r, hr, hi⟩)
    exact ⟨i, hi, idsOf_subset_step p hverb hlisted⟩

end Patch

namespace Snapshot

variable {s s' t t' u u' : Snapshot} {entityType : EntityType} {o : Operation}
  {ops : List Operation}

/-- A merge that is accepted and merges comparable ids only lists records with comparable ids. -/
lemma Step.exists_id_of_mergesComparable (h : s.Step o t) (hids : o.MergesComparable)
    (hverb : o.verb.placement? ≠ none) {r : Record}
    (hr : r ∈ (Change.listed? o.target).getD []) : ∃ i, r.id? = some i := by
  cases h with
  | overwrite | delete => exact absurd rfl hverb
  | merge entries =>
    obtain ⟨entry, hentry, rfl⟩ := List.mem_map.mp hr
    obtain ⟨hobject, harray⟩ := hids hverb entries rfl entry hentry
    exact Record.exists_id_of_forall_ne hobject harray

/-! ### Two runs side by side -/

/-- How far two runs of the same operations, from `s` to `t` and from `s'` to `t'`, have come on one
collection: none has touched it, both have made the same patch to the list they have found, or it
has become the same in both. -/
inductive Abreast (s s' : Snapshot) (entityType : EntityType) (t t' : Snapshot) : Prop where
  | untouched (h : t.get? entityType = s.get? entityType)
      (h' : t'.get? entityType = s'.get? entityType)
  | patched {p : Patch} {existing existing' : List Record} (hp : p.Absorbs)
      (hheld : s.Holds entityType existing) (hheld' : s'.Holds entityType existing')
      (h : t.get? entityType = some (.records (p.act existing)))
      (h' : t'.get? entityType = some (.records (p.act existing')))
  | equal (h : t.get? entityType = t'.get? entityType)

lemma Abreast.step (h : Abreast s s' entityType t t') (hids : o.MergesComparable)
    (hstep : t.Step o u) (hstep' : t'.Step o u') : Abreast s s' entityType u u' := by
  by_cases ho : entityType = o.entityType
  · subst ho
    by_cases hverb : o.verb = .overwrite
    · exact .equal (by rw [hstep.get?_of_overwrite hverb, hstep'.get?_of_overwrite hverb])
    · have hlisted := fun hmerge r hr => hstep.exists_id_of_mergesComparable hids hmerge (r := r) hr
      cases h with
      | untouched h h' =>
        obtain ⟨existing, hheld⟩ := hstep.exists_holds hverb
        obtain ⟨existing', hheld'⟩ := hstep'.exists_holds hverb
        refine .patched (Patch.absorbs_empty.step hlisted) (hheld.congr h.symm)
          (hheld'.congr h'.symm) (Patch.get?_of_step hstep hverb ?_)
          (Patch.get?_of_step hstep' hverb ?_)
        · rwa [Patch.empty_act]
        · rwa [Patch.empty_act]
      | patched hp hheld hheld' h h' =>
        exact .patched (hp.step hlisted) hheld hheld'
          (Patch.get?_of_step hstep hverb (.records h))
          (Patch.get?_of_step hstep' hverb (.records h'))
      | equal h => exact .equal (hstep.get?_congr hstep' h)
  · have hget := hstep.get?_of_ne ho
    have hget' := hstep'.get?_of_ne ho
    cases h with
    | untouched h h' => exact .untouched (hget.trans h) (hget'.trans h')
    | patched hp hheld hheld' h h' =>
      exact .patched hp hheld hheld' (hget.trans h) (hget'.trans h')
    | equal h => exact .equal (hget.trans (h.trans hget'.symm))

lemma Abreast.run (h : Abreast s s' entityType t t') (hids : ∀ o ∈ ops, o.MergesComparable)
    (hrun : t.Run ops u) (hrun' : t'.Run ops u') : Abreast s s' entityType u u' := by
  induction hrun generalizing t' with
  | nil =>
    cases hrun'
    exact h
  | cons hstep hrun ih =>
    obtain _ | ⟨hstep', hrun'⟩ := hrun'
    have hnext := h.step (hids _ List.mem_cons_self) hstep hstep'
    exact ih hnext (fun o ho => hids o (List.mem_cons_of_mem _ ho)) hrun'

/-- A second run of a batch leads back to where it starts. -/
lemma Run.eq_of_replay (hrun : s.Run ops t) (hids : ∀ o ∈ ops, o.MergesComparable)
    (hreplay : t.Run ops t') : t' = t := by
  refine ext_get? fun entityType => ?_
  have hstart : Abreast s t entityType s t := .untouched rfl rfl
  cases hstart.run hids hrun hreplay with
  | untouched _ h' => exact h'
  | @patched p existing existing' hp _ hheld' h h' =>
    -- the second run has found the list that the first one has left
    obtain rfl : existing' = p.act existing := hheld'.unique (.records h)
    rw [h', h, hp.act_act]
  | equal h => exact h.symm

/-- A batch that succeeds and merges comparable ids only changes nothing when it is applied again,
unless the first operation on some entity type edits a collection that the batch has left as a plain
value. The second application then fails there, at the first such operation. -/
theorem applyAll_of_applyAll_eq_ok (hok : s.applyAll ops = .ok t)
    (hids : ∀ o ∈ ops, o.MergesComparable) :
    (t.applyAll ops = .ok t ↔ ¬ ∃ k, t.Blocked ops k) ∧
    ((∃ k, t.Blocked ops k) → ∃ e, t.applyAll ops = .error e ∧
      e.source.cause = .notRecords ∧ IsLeast {k | t.Blocked ops k} e.index) := by
  classical
  rw [applyAll_eq_ok_iff] at hok
  refine ⟨⟨fun hreplay => ?_, fun hfree => ?_⟩, fun hblocked => ?_⟩
  · rintro ⟨k, hblocked⟩
    exact (applyAll_eq_ok_iff.mp hreplay).not_blocked k hblocked
  · obtain ⟨t', hreplay⟩ := hok.exists_run (not_exists.mp hfree)
    rw [applyAll_eq_ok_iff]
    exact hok.eq_of_replay hids hreplay ▸ hreplay
  · have hleast := Nat.isLeast_find hblocked
    obtain ⟨e, herror, hindex, hcause⟩ := hok.applyAll_eq_error_of_isLeast hleast
    exact ⟨e, herror, hcause, hindex ▸ hleast⟩

/-- The batch merges and deletes an id as numbers of both kinds, and overwrites a list with a plain
value in the end. Only the second operation is met by that value when the batch comes again. -/
theorem applyAll_of_applyAll_eq_ok_overwritten :
    let record := fun n : Number => Json.object [("id", .number n)]
    let one : Number := .double ⟨false, 0x3FF0000000000000, by decide⟩
    let ops : List Operation := [
      ⟨.mergePrepend, "Event", .array [record (.integer 1), .string "x"]⟩,
      ⟨.merge, "Log", .array [.null]⟩,
      ⟨.delete, "Event", record one⟩,
      ⟨.overwrite, "Log", .bool true⟩,
      ⟨.merge, "Event", .array [record one]⟩]
    (∀ o ∈ ops, o.MergesComparable) ∧
    ∃ t e, empty.applyAll ops = .ok t ∧ (∃ k, t.Blocked ops k) ∧
      t.applyAll ops = .error e ∧ e.source.cause = .notRecords ∧ e.index = 1 := by
  intro record one ops
  have hids : ∀ o ∈ ops, o.MergesComparable := by
    simp only [ops, List.forall_mem_cons, List.not_mem_nil, false_implies, implies_true, and_true]
    refine ⟨?_, ?_, fun hverb => absurd rfl hverb, fun hverb => absurd rfl hverb, ?_⟩
    all_goals
      intro _ entries hentries
      cases hentries
      simp [record, Json.get?]
  have hleft : ((empty.applyAll ops).toOption.any fun t =>
      (t.changeable? "Event").isSome && (t.changeable? "Log").isNone) = true := by decide +kernel
  cases hok : empty.applyAll ops with
  | error e =>
    rw [hok] at hleft
    cases hleft
  | ok t =>
    simp only [hok, Except.toOption, Option.any_some, Bool.and_eq_true, Option.isSome_iff_exists,
      Option.isNone_iff_eq_none] at hleft
    obtain ⟨⟨existing, hevent⟩, hlog⟩ := hleft
    have hblocked : t.Blocked ops 1 :=
      ⟨_, rfl, Or.inl (by decide), by simp [ops], holdsPlain_iff_changeable?_eq_none.mpr hlog⟩
    have hfree : ¬ t.Blocked ops 0 := by
      rintro ⟨o, ho, -, -, hplain⟩
      obtain rfl := Option.some.inj ho
      exact not_holdsPlain_iff.mpr ⟨existing, changeable?_eq_some_iff.mp hevent⟩ hplain
    obtain ⟨e, herror, hcause, hleast⟩ := (applyAll_of_applyAll_eq_ok hok hids).2 ⟨1, hblocked⟩
    have hle : e.index ≤ 1 := hleast.2 hblocked
    have hne : e.index ≠ 0 := fun h => hfree (h ▸ hleast.1)
    exact ⟨hids, t, e, rfl, ⟨1, hblocked⟩, herror, hcause, by omega⟩

end Snapshot

end EntitySync
