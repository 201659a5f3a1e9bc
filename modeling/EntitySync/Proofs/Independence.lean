import EntitySync.Proofs.Run

/-!
# Independent collections

A batch interleaves streams of operations, one stream for each entity type. What becomes of a
collection is decided by its own stream, and a batch is accepted exactly if every stream is accepted
on its own. So the operations may be moved about freely as long as the streams stay the same.
-/

namespace EntitySync

/-! ### Streams -/

/-- The operations on one entity type, in their order. -/
def stream (entityType : EntityType) (ops : List Operation) : List Operation :=
  ops.filter (·.entityType = entityType)

variable {entityType : EntityType} {o : Operation} {ops ops' : List Operation}

lemma stream_cons_of_eq (h : o.entityType = entityType) (ops : List Operation) :
    stream entityType (o :: ops) = o :: stream entityType ops := by
  simp [stream, h]

lemma stream_cons_of_ne (h : o.entityType ≠ entityType) (ops : List Operation) :
    stream entityType (o :: ops) = stream entityType ops := by
  simp [stream, h]

@[simp] lemma stream_stream (entityType : EntityType) (ops : List Operation) :
    stream entityType (stream entityType ops) = stream entityType ops := by
  simp [stream]

/-- The second list holds the operations of the first one at other places. Those on the same entity
type stay in their order. -/
def Rearranged (ops ops' : List Operation) : Prop :=
  ∃ place : Fin ops.length ≃ Fin ops'.length, (∀ i, ops'[place i] = ops[i]) ∧
    ∀ i j, i < j → ops[i].entityType = ops[j].entityType → place i < place j

/-- The places of the operations on one entity type, ascending. -/
def placesOf (entityType : EntityType) (ops : List Operation) : List (Fin ops.length) :=
  (List.finRange ops.length).filter fun i => ops[i].entityType = entityType

lemma mem_placesOf {i : Fin ops.length} :
    i ∈ placesOf entityType ops ↔ ops[i].entityType = entityType := by
  simp [placesOf]

lemma pairwise_placesOf (entityType : EntityType) (ops : List Operation) :
    (placesOf entityType ops).Pairwise (· < ·) :=
  (List.pairwise_lt_finRange ops.length).filter _

lemma stream_eq_map_placesOf (entityType : EntityType) (ops : List Operation) :
    stream entityType ops = (placesOf entityType ops).map fun i => ops[i] := by
  conv_lhs => rw [stream, ← List.map_getElem_finRange ops, List.filter_map]
  rfl

/-- A rearrangement leaves every stream as it is. -/
lemma Rearranged.stream_eq (h : Rearranged ops ops') (entityType : EntityType) :
    stream entityType ops = stream entityType ops' := by
  obtain ⟨place, hsame, horder⟩ := h
  have hascending : ((placesOf entityType ops).map place).Pairwise (· < ·) := by
    rw [List.pairwise_map]
    refine (pairwise_placesOf entityType ops).imp_of_mem fun hi hj hlt => horder _ _ hlt ?_
    rw [mem_placesOf.mp hi, mem_placesOf.mp hj]
  have hmem : ∀ j, j ∈ (placesOf entityType ops).map place ↔ j ∈ placesOf entityType ops' := by
    intro j
    simp only [List.mem_map, mem_placesOf]
    constructor
    · rintro ⟨i, hi, rfl⟩
      rw [hsame, hi]
    · intro hj
      have hback : ops'[j] = ops[place.symm j] := by
        simpa only [place.apply_symm_apply] using hsame (place.symm j)
      exact ⟨place.symm j, hback ▸ hj, place.apply_symm_apply j⟩
  -- ascending lists with the same members are the same list
  have hplaces : (placesOf entityType ops).map place = placesOf entityType ops' :=
    hascending.eq_of_mem_iff (pairwise_placesOf entityType ops') hmem
  calc stream entityType ops
      = (placesOf entityType ops).map fun i => ops'[place i] := by
        simp only [stream_eq_map_placesOf, hsame]
    _ = ((placesOf entityType ops).map place).map fun j => ops'[j] := by
        rw [List.map_map]
        rfl
    _ = stream entityType ops' := by rw [hplaces, stream_eq_map_placesOf]

namespace Snapshot

variable {s t u v : Snapshot}

/-! ### Runs of streams -/

/-- A run does to a collection what the stream of that collection does, also where the snapshot
differs in other collections. -/
lemma Run.exists_run_stream (h : Run s ops t) (hget : v.get? entityType = s.get? entityType) :
    ∃ u, Run v (stream entityType ops) u ∧ u.get? entityType = t.get? entityType := by
  induction h generalizing v with
  | nil => exact ⟨v, .nil v, hget⟩
  | @cons s next t o ops hstep hrun ih =>
    by_cases ho : o.entityType = entityType
    · subst ho
      obtain ⟨mid, hmid, hsame⟩ := hstep.exists_step_of_get?_eq hget
      obtain ⟨u, hu, hlast⟩ := ih hsame
      rw [stream_cons_of_eq rfl]
      exact ⟨u, .cons hmid hu, hlast⟩
    · rw [stream_cons_of_ne ho]
      exact ih (hget.trans (hstep.get?_of_ne (Ne.symm ho)).symm)

lemma Run.get?_eq_of_stream (h : Run s ops t) (hstream : Run s (stream entityType ops) u) :
    t.get? entityType = u.get? entityType := by
  obtain ⟨u', hu', hget⟩ := h.exists_run_stream (v := s) rfl
  rw [hstream.unique hu', hget]

/-- Streams that run one by one run together. -/
lemma exists_run_of_forall_stream (h : ∀ entityType, ∃ u, Run s (stream entityType ops) u) :
    ∃ t, Run s ops t := by
  induction ops generalizing s with
  | nil => exact ⟨s, .nil s⟩
  | cons o ops ih =>
    obtain ⟨u, hu⟩ := h o.entityType
    rw [stream_cons_of_eq rfl] at hu
    obtain _ | @⟨_, next, _, _, _, hstep, hrest⟩ := hu
    have hnext : ∀ entityType, ∃ u, Run next (stream entityType ops) u := by
      intro entityType
      by_cases ho : o.entityType = entityType
      · exact ⟨u, ho ▸ hrest⟩
      · -- the step has left this collection alone, so its stream still runs
        obtain ⟨u', hu'⟩ := h entityType
        rw [stream_cons_of_ne ho] at hu'
        obtain ⟨u'', hu'', -⟩ := hu'.exists_run_stream (hstep.get?_of_ne (Ne.symm ho))
        rw [stream_stream] at hu''
        exact ⟨u'', hu''⟩
    obtain ⟨t, ht⟩ := ih hnext
    exact ⟨t, .cons hstep ht⟩

/-- A run of a batch is a run of each stream that leads to the same collection. -/
lemma run_iff_forall_stream : Run s ops t ↔ ∀ entityType, ∃ u,
    Run s (stream entityType ops) u ∧ t.get? entityType = u.get? entityType := by
  constructor
  · intro h entityType
    have hget : s.get? entityType = s.get? entityType := rfl
    obtain ⟨u, hu, hlast⟩ := h.exists_run_stream hget
    exact ⟨u, hu, hlast.symm⟩
  · intro h
    obtain ⟨t', ht'⟩ := exists_run_of_forall_stream fun entityType =>
      (h entityType).imp fun _ hu => hu.1
    have hsame : t = t' := by
      refine ext_get? fun entityType => ?_
      obtain ⟨u, hu, hget⟩ := h entityType
      rw [hget, ht'.get?_eq_of_stream hu]
    exact hsame ▸ ht'

lemma run_iff_of_rearranged (hmoved : Rearranged ops ops') : Run s ops t ↔ Run s ops' t :=
  calc Run s ops t
    _ ↔ ∀ entityType, ∃ u, Run s (stream entityType ops) u ∧
          t.get? entityType = u.get? entityType := run_iff_forall_stream
    _ ↔ ∀ entityType, ∃ u, Run s (stream entityType ops') u ∧
          t.get? entityType = u.get? entityType := by simp only [hmoved.stream_eq]
    _ ↔ Run s ops' t := run_iff_forall_stream.symm

/-- A batch succeeds in every order that keeps its streams or in none, and leads to the same
snapshot. It succeeds exactly if every stream succeeds on its own, and a collection becomes what its
stream alone makes of it. -/
theorem applyAll_of_rearranged (s : Snapshot) (hmoved : Rearranged ops ops') :
    (∀ t, s.applyAll ops = .ok t ↔ s.applyAll ops' = .ok t) ∧
    ((∃ t, s.applyAll ops = .ok t) ↔
      ∀ entityType, ∃ u, s.applyAll (stream entityType ops) = .ok u) ∧
    ∀ t, s.applyAll ops = .ok t → ∀ entityType u,
      s.applyAll (stream entityType ops) = .ok u → t.get? entityType = u.get? entityType := by
  simp only [applyAll_eq_ok_iff]
  refine ⟨fun t => run_iff_of_rearranged hmoved, ⟨?_, exists_run_of_forall_stream⟩, ?_⟩
  · rintro ⟨t, hrun⟩ entityType
    obtain ⟨u, hu, -⟩ := run_iff_forall_stream.mp hrun entityType
    exact ⟨u, hu⟩
  · intro t hrun entityType u hu
    exact hrun.get?_eq_of_stream hu

/-- The token can be merged with only after it has been overwritten. The events move before both. -/
theorem applyAll_of_rearranged_events_first :
    let s := empty.set tokenType (.value (.string "t"))
    let ops : List Operation := [
      ⟨.overwrite, tokenType, .null⟩,
      ⟨.merge, "Event", .array [.null, .string "x"]⟩,
      ⟨.mergePrepend, tokenType, .array [.bool true]⟩,
      ⟨.delete, "Event", .array [.null]⟩]
    let ops' : List Operation := [
      ⟨.merge, "Event", .array [.null, .string "x"]⟩,
      ⟨.delete, "Event", .array [.null]⟩,
      ⟨.overwrite, tokenType, .null⟩,
      ⟨.mergePrepend, tokenType, .array [.bool true]⟩]
    Rearranged ops ops' ∧ ∃ t u, s.applyAll ops = .ok t ∧ s.applyAll ops' = .ok t ∧
      s.applyAll (stream "Event" ops) = .ok u ∧ t.get? "Event" = u.get? "Event" := by
  intro s ops ops'
  have hmoved : Rearranged ops ops' := by
    refine ⟨Equiv.ofBijective (![2, 0, 3, 1] : Fin 4 → Fin 4) (by decide), ?_, by decide +kernel⟩
    intro i
    fin_cases i <;> rfl
  obtain ⟨t, hok⟩ : ∃ t, s.applyAll ops = .ok t := exists_applyAll_eq_ok (by decide +kernel)
  obtain ⟨hsame, hstreams, hcollection⟩ := applyAll_of_rearranged s hmoved
  obtain ⟨u, hu⟩ := hstreams.mp ⟨t, hok⟩ "Event"
  exact ⟨hmoved, t, u, hok, (hsame t).mp hok, hu, hcollection t hok "Event" u hu⟩

end Snapshot

end EntitySync
