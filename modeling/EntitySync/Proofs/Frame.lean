import EntitySync.Proofs.LongestRun

/-!
# What a batch leaves alone

An operation adds the entity type that it names, if it is not there, and removes none. So after a
batch, failed or not, the entity types are those from before and those of the accepted operations,
and the other collections are as before. A collection that is overwritten last is the value that was
put in place.
-/

namespace EntitySync

namespace Snapshot

variable {s t next : Snapshot} {entityType : EntityType} {o : Operation} {ops : List Operation}

/-! ### Entity types -/

lemma mem_entityTypes_iff :
    entityType ∈ s.entityTypes ↔ ∃ collection, s.get? entityType = some collection :=
  Dict.mem_keys_iff

/-- Each entity type is listed once, in ascending order. -/
lemma pairwise_entityTypes (s : Snapshot) : s.entityTypes.Pairwise (· < ·) :=
  s.collections.pairwise_keys

/-- A step adds the entity type of its operation and removes none. -/
lemma Step.mem_entityTypes_iff (h : s.Step o next) :
    entityType ∈ next.entityTypes ↔ entityType ∈ s.entityTypes ∨ o.entityType = entityType := by
  have hset : ∃ collection, next = s.set o.entityType collection := by
    cases h with
    | overwrite | merge | delete => exact ⟨_, rfl⟩
  obtain ⟨collection, rfl⟩ := hset
  simp only [Snapshot.mem_entityTypes_iff, get?_set]
  split_ifs with htype
  · simp [htype]
  · simp [Ne.symm htype]

lemma Run.mem_entityTypes_iff (h : Run s ops t) :
    entityType ∈ t.entityTypes ↔
      entityType ∈ s.entityTypes ∨ ∃ o ∈ ops, o.entityType = entityType := by
  induction h with
  | nil => simp
  | cons hstep _ ih => rw [ih, hstep.mem_entityTypes_iff, List.exists_mem_cons_iff, or_assoc]

/-! ### Overwritten collections -/

/-- A run leaves a collection that it overwrites last as the target, whatever was there. -/
lemma Run.get?_of_lastOn_overwrite (h : Run s ops t) (hlast : lastOn entityType ops = some o)
    (hverb : o.verb = .overwrite) : t.get? entityType = some (.ofJson o.target) := by
  obtain ⟨rfl, mid, next, hstep, hget⟩ := h.exists_last_step hlast
  rw [hget, hstep.get?_of_overwrite hverb]

/-- A run leaves a text if it is put in place last, or if it was there and nothing is done to it. -/
lemma Run.get?_eq_string_iff {text : String} (h : Run s ops t) :
    t.get? entityType = some (.value (.string text)) ↔
      lastOn entityType ops = some ⟨.overwrite, entityType, .string text⟩ ∨
        lastOn entityType ops = none ∧ s.get? entityType = some (.value (.string text)) := by
  cases hlast : lastOn entityType ops with
  | none => simp [h.get?_of_forall_ne (lastOn_eq_none_iff.mp hlast)]
  | some o =>
    obtain ⟨rfl, mid, next, hstep, hget⟩ := h.exists_last_step hlast
    obtain ⟨verb, entityType, target⟩ := o
    by_cases hverb : verb = .overwrite
    · rw [hget, hstep.get?_of_overwrite hverb, hverb]
      cases target <;> simp [Collection.ofJson]
    · obtain ⟨entries, hentries⟩ := hstep.exists_records hverb
      rw [hget, hentries]
      simp [hverb]

/-! ### Batches -/

/-- The snapshot that a batch leaves: the one after all operations, or the one that its error
keeps. -/
def reached (s : Snapshot) (ops : List Operation) : Snapshot :=
  match s.applyAll ops with
  | .ok t => t
  | .error e => e.applied

/-- What a batch leaves is where the longest part that runs leads. -/
lemma longestRun_reached (s : Snapshot) (ops : List Operation) :
    s.LongestRun ops (s.accepted ops) (s.reached ops) := by
  cases hresult : s.applyAll ops with
  | ok t =>
    simp only [accepted, reached, hresult]
    exact (applyAll_eq_ok_iff.mp hresult).longestRun
  | error e =>
    obtain ⟨done, o, rest, rfl, hrun, hreject, hindex⟩ := applyAll_eq_error_iff.mp hresult
    simp only [accepted, reached, hresult, hindex, List.take_left]
    exact hrun.longestRun_of_rejected hreject

/-- The accepted operations are as much of a batch as runs. After the batch, the entity types are
those from before and those of the accepted operations, once each and in ascending order. A
collection that no accepted operation is on is as before. One that was overwritten last is the
target as it was sent, and all records of a list can be read. -/
theorem frame_of_batch (s : Snapshot) (ops : List Operation) :
    s.LongestRun ops (s.accepted ops) (s.reached ops) ∧
    (s.reached ops).entityTypes.Pairwise (· < ·) ∧
    (∀ entityType, entityType ∈ (s.reached ops).entityTypes ↔
      entityType ∈ s.entityTypes ∨ ∃ o ∈ s.accepted ops, o.entityType = entityType) ∧
    (∀ entityType, (∀ o ∈ s.accepted ops, o.entityType ≠ entityType) →
      (s.reached ops).get? entityType = s.get? entityType) ∧
    ∀ entityType o, lastOn entityType (s.accepted ops) = some o → o.verb = .overwrite →
      ((s.reached ops).get? entityType).map Collection.toJson = some o.target ∧
      ∀ entries, o.target = .array entries →
        (s.reached ops).records entityType = entries.map Record.mk := by
  have hlongest := s.longestRun_reached ops
  have hrun := hlongest.run
  refine ⟨hlongest, pairwise_entityTypes _, fun _ => hrun.mem_entityTypes_iff,
    fun _ hne => hrun.get?_of_forall_ne hne, fun entityType o hlast hverb => ?_⟩
  have hget := hrun.get?_of_lastOn_overwrite hlast hverb
  refine ⟨?_, fun entries hentries => ?_⟩
  · rw [hget, Option.map_some, Collection.toJson_ofJson]
  · rw [records, hget, hentries]
    rfl

/-- The last operation has no effect, not on the list of entity types either. -/
example : (empty.reached [⟨.overwrite, "Task", .null⟩, ⟨.overwrite, "Event", .array []⟩,
    ⟨.add, "User", .array []⟩]).entityTypes = ["Event", "Task"] := by
  decide

end Snapshot

end EntitySync
