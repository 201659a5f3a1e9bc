import EntitySync.Proofs.Run

/-!
# Patches of batches

A batch without overwrites of a collection does the same to every starting list: it puts some
entries in front, some behind, and drops the records with certain ids in between. These three data
are the patch of the batch. They are found from the operations alone.
-/

namespace EntitySync

/-- What a batch does to a list of records, whatever the list. -/
structure Patch where
  front : List Record
  back : List Record
  /-- Ids of the records dropped from the list. -/
  dropped : Finset RecordId

namespace Patch

def empty : Patch := ⟨[], [], ∅⟩

/-- The list after the patch. Records without a comparable id are never dropped. -/
def act (p : Patch) (existing : List Record) : List Record :=
  p.front ++ existing.filter (fun r => ∀ i ∈ r.id?, i ∉ p.dropped) ++ p.back

/-- The comparable ids of the records. -/
def idsOf (records : List Record) : Finset RecordId :=
  (records.filterMap Record.id?).toFinset

/-- The patch with one more operation. Operations that list nothing to merge or delete add
nothing. -/
def step (p : Patch) (o : Operation) : Patch :=
  let listed := (Change.listed? o.target).getD []
  let front := Record.unmatched p.front listed
  let back := Record.unmatched p.back listed
  let dropped := p.dropped ∪ idsOf listed
  match o.verb with
  | .merge | .mergeAppend => ⟨front, back ++ listed, dropped⟩
  | .mergePrepend => ⟨listed ++ front, back, dropped⟩
  | .delete => ⟨front, back, dropped⟩
  | .overwrite | .add | .unknown _ => p

/-- The patch of the operations on one entity type. -/
def ofBatch (entityType : EntityType) (ops : List Operation) : Patch :=
  (ops.filter (·.entityType = entityType)).foldl step empty

@[simp] lemma empty_act (existing : List Record) : empty.act existing = existing := by
  simp [empty, act]

/-! ### One step -/

lemma any_sameId_iff {r : Record} {listed : List Record} :
    listed.any r.sameId = true ↔ ∃ i ∈ r.id?, i ∈ idsOf listed := by
  simp only [List.any_eq_true, Record.sameId_iff, idsOf, List.mem_toFinset, List.mem_filterMap,
    Option.mem_def]
  constructor
  · rintro ⟨t, ht, i, hr, hi⟩
    exact ⟨i, hr, t, ht, hi⟩
  · rintro ⟨i, hr, t, ht, hi⟩
    exact ⟨t, ht, i, hr, hi⟩

/-- Dropping the listed records after those with certain ids drops the ids of both. -/
lemma unmatched_filter_dropped (existing listed : List Record) (dropped : Finset RecordId) :
    Record.unmatched (existing.filter fun r => ∀ i ∈ r.id?, i ∉ dropped) listed =
      existing.filter fun r => ∀ i ∈ r.id?, i ∉ dropped ∪ idsOf listed := by
  unfold Record.unmatched
  rw [List.filter_filter]
  refine List.filter_congr fun r _ => ?_
  rw [Bool.eq_iff_iff, Bool.and_eq_true, Bool.not_eq_true', ← Bool.not_eq_true, any_sameId_iff]
  simp only [decide_eq_true_eq, Finset.mem_union, not_or, not_exists, not_and]
  constructor
  · rintro ⟨hlisted, hdropped⟩ i hi
    exact ⟨hdropped i hi, hlisted i hi⟩
  · intro h
    exact ⟨fun i hi => (h i hi).2, fun i hi => (h i hi).1⟩

lemma unmatched_act (p : Patch) (existing listed : List Record) :
    Record.unmatched (p.act existing) listed =
      Record.unmatched p.front listed ++
        existing.filter (fun r => ∀ i ∈ r.id?, i ∉ p.dropped ∪ idsOf listed) ++
        Record.unmatched p.back listed := by
  rw [act, Record.unmatched_append, Record.unmatched_append, unmatched_filter_dropped]

variable {s t : Snapshot} {entityType : EntityType} {existing : List Record}

/-- A step on a patched list gives the list patched by one more operation. -/
lemma get?_of_step {p : Patch} {o : Operation} (hstep : s.Step o t) (hverb : o.verb ≠ .overwrite)
    (hheld : s.Holds o.entityType (p.act existing)) :
    t.get? o.entityType = some (.records ((p.step o).act existing)) := by
  cases hstep with
  | overwrite => exact absurd rfl hverb
  | @merge verb placement _ _ entries hplacement hheld' =>
    rw [hheld'.unique hheld, Snapshot.get?_set, if_pos rfl, unmatched_act]
    have hlisted : Change.listed? (.array entries) = some (entries.map Record.mk) := rfl
    cases verb <;> cases hplacement <;> simp [step, act, Change.place, hlisted]
  | delete hlisted hheld' =>
    rw [hheld'.unique hheld, Snapshot.get?_set, if_pos rfl, unmatched_act]
    simp [step, act, hlisted]

/-! ### Runs -/

/-- A run extends the patch of a list that is there as records. -/
lemma get?_of_run {ops : List Operation} {p : Patch} (hrun : s.Run ops t)
    (hverbs : ∀ o ∈ ops, o.entityType = entityType → o.verb ≠ .overwrite)
    (hget : s.get? entityType = some (.records (p.act existing))) :
    t.get? entityType = some (.records
      (((ops.filter (·.entityType = entityType)).foldl step p).act existing)) := by
  induction hrun generalizing p with
  | nil => exact hget
  | @cons s next t o ops hstep hrun ih =>
    have hrest := fun o' ho' => hverbs o' (List.mem_cons_of_mem o ho')
    by_cases ho : o.entityType = entityType
    · have hnext := get?_of_step hstep (hverbs o List.mem_cons_self ho) (.records (ho ▸ hget))
      rw [ho] at hnext
      simpa [List.filter_cons, ho] using ih hrest hnext
    · have hnext := (hstep.get?_of_ne (Ne.symm ho)).trans hget
      simpa [List.filter_cons, ho] using ih hrest hnext

end Patch

namespace Snapshot

variable {s t : Snapshot} {entityType : EntityType} {ops : List Operation}

/-- The first operation on an entity type. -/
lemma exists_first_of_exists (h : ∃ o ∈ ops, o.entityType = entityType) :
    ∃ before o after, ops = before ++ o :: after ∧ o.entityType = entityType ∧
      ∀ o' ∈ before, o'.entityType ≠ entityType := by
  obtain ⟨o, ho⟩ : ∃ o, ops.find? (·.entityType = entityType) = some o := by
    simpa [← Option.isSome_iff_exists] using h
  obtain ⟨htype, before, after, rfl, hbefore⟩ := List.find?_eq_some_iff_append.mp ho
  exact ⟨before, o, after, rfl, by simpa using htype, by simpa using hbefore⟩

/-- A batch that succeeds and overwrites nothing of a collection acts on it through the patch of its
operations, which does not depend on the snapshot. -/
theorem applyAll_act_ofBatch (hok : s.applyAll ops = .ok t)
    (hsome : ∃ o ∈ ops, o.entityType = entityType)
    (hverbs : ∀ o ∈ ops, o.entityType = entityType → o.verb ≠ .overwrite) :
    ∃ existing, s.Holds entityType existing ∧
      t.get? entityType = some (.records
        ((Patch.ofBatch entityType ops).front ++
          existing.filter (fun r => ∀ i ∈ r.id?, i ∉ (Patch.ofBatch entityType ops).dropped) ++
          (Patch.ofBatch entityType ops).back)) := by
  obtain ⟨before, o, after, rfl, rfl, hbefore⟩ := exists_first_of_exists hsome
  obtain ⟨mid, hrun, _ | ⟨hstep, hrest⟩⟩ := run_append_iff.mp (applyAll_eq_ok_iff.mp hok)
  have hverb : o.verb ≠ .overwrite := hverbs o (by simp) rfl
  obtain ⟨existing, hheld⟩ := hstep.exists_holds hverb
  -- the operations before the first one on the collection leave it as it was
  refine ⟨existing, hheld.congr (hrun.get?_of_forall_ne hbefore).symm, ?_⟩
  have hfirst := Patch.get?_of_step hstep hverb (by rwa [Patch.empty_act])
  have hget := Patch.get?_of_run hrest (fun o' ho' => hverbs o' (by simp [ho'])) hfirst
  have hpatch : Patch.ofBatch o.entityType (before ++ o :: after) =
      (after.filter (·.entityType = o.entityType)).foldl Patch.step (Patch.empty.step o) := by
    have hnone : before.filter (·.entityType = o.entityType) = [] := by simpa using hbefore
    rw [Patch.ofBatch, List.filter_append, hnone]
    simp
  rw [hpatch]
  exact hget

/-- Merges at both ends, a delete and an overwrite of another collection in between. The second
merge brings an id that is there as a number of the other kind, and an id that never matches. -/
theorem applyAll_act_ofBatch_interleaved :
    let record := fun n : Number => Json.object [("id", .number n)]
    let two : Number := .double ⟨false, 0x4000000000000000, by decide⟩
    let composite : Json := .object [("id", .array [])]
    let s := empty.set "Event" (.records [⟨record (.integer 3)⟩, ⟨record (.integer 1)⟩])
    let ops : List Operation := [
      ⟨.merge, "Event", .array [record (.integer 1), record (.integer 2)]⟩,
      ⟨.overwrite, tokenType, .string "t"⟩,
      ⟨.mergePrepend, "Event", .array [record two, composite]⟩,
      ⟨.delete, "Event", record (.integer 1)⟩]
    (∃ o ∈ ops, o.entityType = "Event") ∧
    (∀ o ∈ ops, o.entityType = "Event" → o.verb ≠ .overwrite) ∧
    ∃ t, s.applyAll ops = .ok t ∧
      t.get? "Event" = some (.records [⟨record two⟩, ⟨composite⟩, ⟨record (.integer 3)⟩]) := by
  intro record two composite s ops
  have hsome : ∃ o ∈ ops, o.entityType = "Event" := ⟨_, List.mem_cons_self, rfl⟩
  have hverbs : ∀ o ∈ ops, o.entityType = "Event" → o.verb ≠ .overwrite := by
    simp [ops, tokenType]
  obtain ⟨t, hok⟩ : ∃ t, s.applyAll ops = .ok t := by
    have hisOk : (s.applyAll ops).isOk = true := by decide +kernel
    cases h : s.applyAll ops with
    | ok t => exact ⟨t, rfl⟩
    | error e => simp [h, Except.isOk, Except.toBool] at hisOk
  obtain ⟨existing, hheld, hget⟩ := applyAll_act_ofBatch hok hsome hverbs
  have hexisting : existing = [⟨record (.integer 3)⟩, ⟨record (.integer 1)⟩] :=
    hheld.unique (.records rfl)
  rw [hexisting] at hget
  exact ⟨hsome, hverbs, t, hok, hget⟩

end Snapshot

end EntitySync
