import EntitySync.Proofs.Run

/-!
# The first rejected operation

A batch is the composition of its single operations. It fails exactly if one of them is rejected
where the ones before it lead, and the error is about that one: its place, the snapshot it is met
in, and its rejection. What comes behind it is never looked at.
-/

namespace EntitySync

namespace Snapshot

variable {s t : Snapshot} {o : Operation} {ops : List Operation}

/-- A rejection carries the operation as it was sent. -/
lemma operation_of_apply_eq_error {r : Rejection} (h : s.apply o = .error r) :
    r.operation = o := by
  unfold apply at h
  split at h
  · cases h
  · rw [← Except.error.inj h]

/-- The composition of single operations succeeds exactly if they run. -/
lemma foldlM_apply_eq_ok_iff : ops.foldlM apply s = .ok t ↔ Run s ops t := by
  induction ops generalizing s with
  | nil =>
    constructor
    · intro h
      cases h
      exact .nil _
    · rintro ⟨⟩
      rfl
  | cons o ops ih =>
    rw [List.foldlM_cons]
    constructor
    · intro h
      cases hfirst : s.apply o with
      | error r => simp [hfirst, bind, Except.bind] at h
      | ok next =>
        rw [hfirst] at h
        exact .cons (apply_eq_ok_iff.mp hfirst) (ih.mp h)
    · rintro (_ | ⟨hstep, hrun⟩)
      rw [apply_eq_ok_iff.mpr hstep]
      exact ih.mpr hrun

/-- A batch fails exactly if some operation is rejected where the ones before it lead. -/
lemma exists_applyAll_eq_error_iff :
    (∃ e, s.applyAll ops = .error e) ↔
      ∃ (k : ℕ) (o : Operation) (mid : Snapshot) (r : Rejection), ops[k]? = some o ∧
        (ops.take k).foldlM apply s = .ok mid ∧ mid.apply o = .error r := by
  simp only [applyAll_eq_error_iff_getElem?, foldlM_apply_eq_ok_iff]
  constructor
  · rintro ⟨e, o, ho, hrun, hreject⟩
    exact ⟨e.index, o, e.applied, e.source, ho, hrun, hreject⟩
  · rintro ⟨k, o, mid, r, ho, hrun, hreject⟩
    exact ⟨⟨k, mid, r⟩, o, ho, hrun, hreject⟩

/-- The operations behind the rejected one may be any. -/
lemma applyAll_eq_error_of_take_eq {e : FoldError} {others : List Operation}
    (herror : s.applyAll ops = .error e)
    (hothers : others.take (e.index + 1) = ops.take (e.index + 1)) :
    s.applyAll others = .error e := by
  rw [applyAll_eq_error_iff_getElem?] at herror ⊢
  have hget : others[e.index]? = ops[e.index]? := by
    have h := congrArg (fun l => l[e.index]?) hothers
    simpa [List.getElem?_take] using h
  have htake : others.take e.index = ops.take e.index := by
    have h := congrArg (List.take e.index) hothers
    simpa [List.take_take] using h
  rw [hget, htake]
  exact herror

/-- A batch that succeeds is the composition of its operations. One that fails does so at the first
operation that is rejected where the ones before it lead: the error has its index, the snapshot it
is met in, and its rejection, which carries the operation. The operations behind it may be any. -/
theorem applyAll_error_at_first_rejected (s : Snapshot) (ops : List Operation) :
    (∀ t, s.applyAll ops = .ok t ↔ ops.foldlM apply s = .ok t) ∧
    ((∃ e, s.applyAll ops = .error e) ↔
      ∃ (k : ℕ) (o : Operation) (mid : Snapshot) (r : Rejection), ops[k]? = some o ∧
        (ops.take k).foldlM apply s = .ok mid ∧ mid.apply o = .error r) ∧
    ∀ e, s.applyAll ops = .error e →
      (∃ o, ops[e.index]? = some o ∧ s.applyAll (ops.take e.index) = .ok e.applied ∧
        e.applied.apply o = .error e.source ∧ e.source.operation = o) ∧
      (∀ k < e.index, ∃ o mid next, ops[k]? = some o ∧
        (ops.take k).foldlM apply s = .ok mid ∧ mid.apply o = .ok next) ∧
      ∀ others : List Operation, others.take (e.index + 1) = ops.take (e.index + 1) →
        s.applyAll others = .error e := by
  refine ⟨fun t => ?_, exists_applyAll_eq_error_iff, fun e herror => ?_⟩
  · rw [applyAll_eq_ok_iff, foldlM_apply_eq_ok_iff]
  · obtain ⟨o, ho, hrun, hreject⟩ := applyAll_eq_error_iff_getElem?.mp herror
    refine ⟨⟨o, ho, applyAll_eq_ok_iff.mpr hrun, hreject, operation_of_apply_eq_error hreject⟩,
      fun k hk => ?_, fun others hothers => applyAll_eq_error_of_take_eq herror hothers⟩
    obtain ⟨hlength, -⟩ := List.getElem?_eq_some_iff.mp ho
    have hget : ops[k]? = some ops[k] := List.getElem?_eq_getElem (hk.trans hlength)
    have hdone : (ops.take e.index)[k]? = some ops[k] := by
      rw [List.getElem?_take_of_lt hk, hget]
    obtain ⟨mid, next, hmid, hstep⟩ := hrun.exists_step hdone
    rw [List.take_take, min_eq_left hk.le] at hmid
    exact ⟨ops[k], mid, next, hget, foldlM_apply_eq_ok_iff.mpr hmid, apply_eq_ok_iff.mpr hstep⟩

/-- The third operation is rejected for what the first one put in place. The one behind it, which
would be rejected in any snapshot, is not looked at. -/
theorem applyAll_error_at_first_rejected_overwritten :
    let ops : List Operation := [
      ⟨.overwrite, tokenType, .string "t"⟩,
      ⟨.merge, "Event", .array [.null]⟩,
      ⟨.delete, tokenType, .array []⟩,
      ⟨.add, "Event", .null⟩]
    ∃ e, empty.applyAll ops = .error e ∧ e.index = 2 ∧ e.source.cause = .notRecords ∧
      empty.applyAll (ops.take 2) = .ok e.applied ∧
      empty.applyAll (ops.take 3) = .error e := by
  intro ops
  have hfails : (match empty.applyAll ops with
      | .error e => decide (e.index = 2 ∧ e.source.cause = .notRecords)
      | .ok _ => false) = true := by decide +kernel
  cases h : empty.applyAll ops with
  | ok t => simp [h] at hfails
  | error e =>
    rw [h] at hfails
    obtain ⟨hindex, hcause⟩ := of_decide_eq_true hfails
    obtain ⟨⟨o, -, happlied, -⟩, -, hothers⟩ :=
      (applyAll_error_at_first_rejected empty ops).2.2 e h
    rw [hindex] at happlied hothers
    exact ⟨e, rfl, hindex, hcause, happlied, hothers _ rfl⟩

end Snapshot

end EntitySync
