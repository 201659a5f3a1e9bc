import EntitySync.Proofs.Run

/-!
# The part of a batch that is committed

A batch commits the longest part of it that is accepted, from its start. This says without indices
what folding a batch does: all of the batch is committed, or the error tells where the part ends.
-/

namespace EntitySync

namespace Snapshot

variable {s t : Snapshot} {o : Operation} {ops done rest : List Operation}

/-- Of the parts of the batch that begin where it begins, `done` is the longest one that runs. -/
structure LongestRun (s : Snapshot) (ops done : List Operation) (t : Snapshot) : Prop where
  part : done <+: ops
  run : s.Run done t
  longest : ∀ other u, other <+: ops → s.Run other u → other.length ≤ done.length

lemma Run.longestRun (h : s.Run ops t) : s.LongestRun ops ops t :=
  ⟨List.prefix_rfl, h, fun _ _ hpart _ => hpart.length_le⟩

/-- No part of a batch runs past an operation that is rejected. -/
lemma Run.longestRun_of_rejected {r : Rejection} (h : s.Run done t)
    (hreject : t.apply o = .error r) : s.LongestRun (done ++ o :: rest) done t := by
  refine ⟨List.prefix_append _ _, h, fun other u hpart hother => ?_⟩
  by_contra hlength
  have hlonger : done ++ [o] <+: other := by
    refine List.prefix_of_prefix_length_le ?_ hpart (by simpa using hlength)
    exact ⟨rest, by simp⟩
  obtain ⟨after, rfl⟩ := hlonger
  obtain ⟨_, hrun, -⟩ := run_append_iff.mp hother
  obtain ⟨mid, hmid, _ | ⟨hstep, -⟩⟩ := run_append_iff.mp hrun
  rw [← h.unique hmid, ← apply_eq_ok_iff, hreject] at hstep
  cases hstep

/-! ### Folding -/

/-- What folding a batch reports, and where it leads: the longest part that runs is committed. If
that is not the whole batch, the error has the place where it ends, the snapshot there, and the
rejection of the operation at that place. -/
inductive Folds (s : Snapshot) (ops : List Operation) :
    Except FoldError Unit → Snapshot → Prop where
  | whole {t : Snapshot} (hlongest : s.LongestRun ops ops t) : Folds s ops (.ok ()) t
  | part {done : List Operation} {o : Operation} {e : FoldError}
      (hlongest : s.LongestRun ops done e.applied) (hproper : done ≠ ops)
      (hindex : e.index = done.length) (hnext : ops[e.index]? = some o)
      (hreject : e.applied.apply o = .error e.source) : Folds s ops (.error e) e.applied

lemma folds_ok_iff : s.Folds ops (.ok ()) t ↔ s.applyAll ops = .ok t := by
  rw [applyAll_eq_ok_iff]
  constructor
  · rintro ⟨hlongest⟩
    exact hlongest.run
  · exact fun h => .whole h.longestRun

lemma folds_error_iff {e : FoldError} :
    s.Folds ops (.error e) t ↔ s.applyAll ops = .error e ∧ t = e.applied := by
  constructor
  · intro h
    cases h with
    | @part done o _ hlongest _ hindex hnext hreject =>
      have hdone : done = ops.take e.index := by
        rw [hindex]
        exact List.prefix_iff_eq_take.mp hlongest.part
      refine ⟨applyAll_eq_error_iff_getElem?.mpr ⟨o, hnext, ?_, hreject⟩, rfl⟩
      exact hdone ▸ hlongest.run
  · rintro ⟨herror, rfl⟩
    obtain ⟨done, o, rest, rfl, hrun, hreject, hindex⟩ := applyAll_eq_error_iff.mp herror
    exact .part (hrun.longestRun_of_rejected hreject) (by simp) hindex (by simp [hindex]) hreject

/-! ### Accepted operations -/

/-- The operations of a batch before its failing one, all of them if there is none. -/
def accepted (s : Snapshot) (ops : List Operation) : List Operation :=
  match s.applyAll ops with
  | .ok _ => ops
  | .error e => ops.take e.index

/-- Folding a batch leads where the accepted operations lead. -/
lemma Folds.run_accepted {result : Except FoldError Unit} (h : s.Folds ops result t) :
    s.Run (s.accepted ops) t := by
  cases result with
  | ok =>
    have hok := folds_ok_iff.mp h
    simp only [accepted, hok]
    exact applyAll_eq_ok_iff.mp hok
  | error e =>
    obtain ⟨herror, rfl⟩ := folds_error_iff.mp h
    simp only [accepted, herror]
    obtain ⟨o, -, hrun, -⟩ := applyAll_eq_error_iff_getElem?.mp herror
    exact hrun

end Snapshot

end EntitySync
