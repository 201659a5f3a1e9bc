import EntitySync.Proofs.Step

/-!
# Runs

A run applies operations that are all accepted, one step after the other. A batch succeeds exactly
if there is a run of all its operations; it fails exactly if there is a run of the operations before
one that is rejected. What every step preserves holds after every run, hence of the snapshot that
a failed batch leaves, too.
-/

namespace EntitySync

namespace Snapshot

variable {s t : Snapshot} {o : Operation} {ops : List Operation}

/-- The operations are accepted one after the other and lead from one snapshot to the other. -/
inductive Run : Snapshot → List Operation → Snapshot → Prop where
  | nil (s : Snapshot) : Run s [] s
  | cons {s next t : Snapshot} {o : Operation} {ops : List Operation} (hstep : s.Step o next)
      (hrun : Run next ops t) : Run s (o :: ops) t

/-- What the steps of a run preserve holds after the run. -/
lemma Run.invariant {P : Snapshot → Prop} (h : Run s ops t)
    (hstep : ∀ o ∈ ops, ∀ s next, P s → s.Step o next → P next) (hs : P s) : P t := by
  induction h with
  | nil s => exact hs
  | cons hfirst _ ih =>
    refine ih (fun o ho => hstep o (List.mem_cons_of_mem _ ho)) ?_
    exact hstep _ List.mem_cons_self _ _ hs hfirst

/-- A run of two lists of operations is a run of the first and one of the second after it. -/
lemma run_append_iff {done rest : List Operation} :
    Run s (done ++ rest) t ↔ ∃ mid, Run s done mid ∧ Run mid rest t := by
  induction done generalizing s with
  | nil =>
    constructor
    · exact fun h => ⟨s, .nil s, h⟩
    · rintro ⟨mid, ⟨⟩, h⟩
      exact h
  | cons o done ih =>
    constructor
    · rintro (_ | ⟨hstep, hrun⟩)
      obtain ⟨mid, hdone, hrest⟩ := ih.mp hrun
      exact ⟨mid, .cons hstep hdone, hrest⟩
    · rintro ⟨mid, _ | ⟨hstep, hdone⟩, hrest⟩
      exact .cons hstep (ih.mpr ⟨mid, hdone, hrest⟩)

/-- Every operation of a run is accepted where the ones before it lead. -/
lemma Run.exists_step {k : ℕ} (h : Run s ops t) (ho : ops[k]? = some o) :
    ∃ mid next, Run s (ops.take k) mid ∧ mid.Step o next := by
  induction h generalizing k with
  | nil => simp at ho
  | @cons s next t first ops hstep hrun ih =>
    cases k with
    | zero =>
      obtain rfl : first = o := by simpa using ho
      exact ⟨s, next, .nil s, hstep⟩
    | succ k =>
      obtain ⟨mid, after, hmid, hafter⟩ := ih (by simpa using ho)
      exact ⟨mid, after, .cons hstep hmid, hafter⟩

/-- A run changes the collections of its entity types only. -/
lemma Run.get?_of_forall_ne {entityType : EntityType} (h : Run s ops t)
    (hne : ∀ o ∈ ops, o.entityType ≠ entityType) : t.get? entityType = s.get? entityType := by
  refine h.invariant (P := fun next => next.get? entityType = s.get? entityType) ?_ rfl
  intro o ho mid next hmid hstep
  rw [hstep.get?_of_ne (hne o ho).symm, hmid]

/-! ### Last operations -/

/-- The last operation on an entity type. -/
def lastOn (entityType : EntityType) (ops : List Operation) : Option Operation :=
  (ops.filter (·.entityType = entityType)).getLast?

lemma lastOn_eq_none_iff {entityType : EntityType} :
    lastOn entityType ops = none ↔ ∀ o ∈ ops, o.entityType ≠ entityType := by
  simp [lastOn]

lemma lastOn_cons (entityType : EntityType) (o : Operation) (ops : List Operation) :
    lastOn entityType (o :: ops) =
      (lastOn entityType ops).or (if o.entityType = entityType then some o else none) := by
  unfold lastOn
  by_cases ho : o.entityType = entityType
  · cases h : (ops.filter (·.entityType = entityType)).getLast? <;>
      simp [ho, List.getLast?_cons, h]
  · simp [ho]

/-- A run leaves a collection as the last operation on it does. -/
lemma Run.exists_last_step {entityType : EntityType} (h : Run s ops t)
    (hlast : lastOn entityType ops = some o) :
    o.entityType = entityType ∧
      ∃ mid next : Snapshot, mid.Step o next ∧ t.get? entityType = next.get? entityType := by
  induction h with
  | nil => cases hlast
  | @cons s next t first ops hstep hrun ih =>
    rw [lastOn_cons] at hlast
    cases hrest : lastOn entityType ops with
    | some o' =>
      rw [hrest, Option.some_or] at hlast
      exact ih (hrest.trans hlast)
    | none =>
      rw [hrest, Option.none_or] at hlast
      split_ifs at hlast with hfirst
      obtain rfl := Option.some.inj hlast
      exact ⟨hfirst, s, next, hstep, hrun.get?_of_forall_ne (lastOn_eq_none_iff.mp hrest)⟩

/-! ### Batches -/

lemma applyFrom_eq_ok_iff (index : ℕ) : s.applyFrom index ops = .ok t ↔ Run s ops t := by
  induction ops generalizing index s with
  | nil =>
    constructor
    · intro h
      cases h
      exact .nil _
    · rintro ⟨⟩
      rfl
  | cons o ops ih =>
    rw [applyFrom]
    constructor
    · intro h
      split at h
      next next hnext => exact .cons (apply_eq_ok_iff.mp hnext) ((ih _).mp h)
      next => cases h
    · intro h
      cases h with
      | cons hstep hrun =>
        rw [apply_eq_ok_iff.mpr hstep]
        exact (ih _).mpr hrun

/-- A batch succeeds exactly if its operations run. -/
lemma applyAll_eq_ok_iff : s.applyAll ops = .ok t ↔ Run s ops t :=
  applyFrom_eq_ok_iff 0

lemma exists_applyAll_eq_ok (h : (s.applyAll ops).isOk = true) : ∃ t, s.applyAll ops = .ok t := by
  cases hresult : s.applyAll ops with
  | ok t => exact ⟨t, rfl⟩
  | error e => simp [hresult, Except.isOk, Except.toBool] at h

lemma Run.unique {u : Snapshot} (h : Run s ops t) (h' : Run s ops u) : t = u := by
  rw [← applyAll_eq_ok_iff] at h h'
  exact Except.ok.inj (h.symm.trans h')

lemma applyFrom_eq_error_iff (index : ℕ) {e : FoldError} :
    s.applyFrom index ops = .error e ↔ ∃ done o rest, ops = done ++ o :: rest ∧
      Run s done e.applied ∧ e.applied.apply o = .error e.source ∧
      e.index = index + done.length := by
  induction ops generalizing index s with
  | nil => simp [applyFrom]
  | cons o ops ih =>
    rw [applyFrom]
    constructor
    · intro h
      split at h
      next next hnext =>
        obtain ⟨done, o', rest, rfl, hrun, hreject, hindex⟩ := (ih _).mp h
        refine ⟨o :: done, o', rest, rfl, .cons (apply_eq_ok_iff.mp hnext) hrun, hreject, ?_⟩
        rw [hindex, List.length_cons]
        omega
      next source hsource =>
        cases h
        exact ⟨[], o, ops, rfl, .nil s, hsource, rfl⟩
    · rintro ⟨done, o', rest, hops, hrun, hreject, hindex⟩
      cases hrun with
      | nil =>
        obtain ⟨rfl, rfl⟩ := List.cons.inj hops
        rw [hreject]
        obtain ⟨index', applied, source⟩ := e
        simp_all
      | cons hstep hrun =>
        obtain ⟨rfl, rfl⟩ := List.cons.inj hops
        rw [apply_eq_ok_iff.mpr hstep]
        refine (ih _).mpr ⟨_, o', rest, rfl, hrun, hreject, ?_⟩
        rw [hindex, List.length_cons]
        omega

/-- A batch fails exactly if the operations before a rejected one run. The error names the place of
that operation, the snapshot it was rejected in and the cause. -/
lemma applyAll_eq_error_iff {e : FoldError} :
    s.applyAll ops = .error e ↔ ∃ done o rest, ops = done ++ o :: rest ∧
      Run s done e.applied ∧ e.applied.apply o = .error e.source ∧ e.index = done.length := by
  rw [applyAll, applyFrom_eq_error_iff]
  simp only [Nat.zero_add]

/-- The same with the place of the rejected operation in front. -/
lemma applyAll_eq_error_iff_getElem? {e : FoldError} :
    s.applyAll ops = .error e ↔ ∃ o, ops[e.index]? = some o ∧
      Run s (ops.take e.index) e.applied ∧ e.applied.apply o = .error e.source := by
  rw [applyAll_eq_error_iff]
  constructor
  · rintro ⟨done, o, rest, rfl, hrun, hreject, hindex⟩
    rw [hindex, List.take_left]
    exact ⟨o, by simp, hrun, hreject⟩
  · rintro ⟨o, ho, hrun, hreject⟩
    obtain ⟨hindex, rfl⟩ := List.getElem?_eq_some_iff.mp ho
    refine ⟨ops.take e.index, ops[e.index], ops.drop (e.index + 1), ?_, hrun, hreject, ?_⟩
    · rw [← List.drop_eq_getElem_cons hindex, List.take_append_drop]
    · rw [List.length_take, min_eq_left hindex.le]

end Snapshot

end EntitySync
