import EntitySync.Proofs.Run

/-!
# Batches in parts

A batch may be cut anywhere: its second part takes up where the first one leads, and an error of the
second part is the error of the whole batch, but for the place, which counts from the cut. A batch
that has failed may be resumed behind the failing operation, as if that had never been there.
-/

namespace EntitySync

/-- The error as it is met when `n` more operations come first. -/
def FoldError.shift (n : ℕ) (e : FoldError) : FoldError :=
  { e with index := n + e.index }

namespace Snapshot

variable {ops : List Operation}

lemma applyFrom_add (s : Snapshot) (n index : ℕ) (ops : List Operation) :
    s.applyFrom (n + index) ops = (s.applyFrom index ops).mapError (FoldError.shift n) := by
  induction ops generalizing s index with
  | nil => rfl
  | cons o ops ih =>
    rw [applyFrom, applyFrom]
    cases s.apply o with
    | ok next => exact ih next (index + 1)
    | error source => rfl

lemma applyFrom_append (s : Snapshot) (index : ℕ) (xs ys : List Operation) :
    s.applyFrom index (xs ++ ys) =
      (s.applyFrom index xs).bind fun t => t.applyFrom (xs.length + index) ys := by
  induction xs generalizing s index with
  | nil => rw [List.length_nil, Nat.zero_add]; rfl
  | cons o xs ih =>
    rw [List.cons_append, applyFrom, applyFrom, List.length_cons, Nat.add_right_comm]
    cases s.apply o with
    | ok next => exact ih next (index + 1)
    | error source => rfl

/-- The parts of a batch are applied one after the other. An error of the second part is shifted by
the length of the first one. -/
lemma applyAll_append (s : Snapshot) (xs ys : List Operation) :
    s.applyAll (xs ++ ys) =
      (s.applyAll xs).bind fun t => (t.applyAll ys).mapError (FoldError.shift xs.length) :=
  calc s.applyAll (xs ++ ys)
    _ = (s.applyAll xs).bind fun t => t.applyFrom (xs.length + 0) ys := applyFrom_append s 0 xs ys
    _ = (s.applyAll xs).bind fun t => (t.applyAll ys).mapError (FoldError.shift xs.length) := by
      simp only [applyFrom_add, applyAll]

/-- Behind a failing operation a batch goes on as the batch without that operation does. -/
lemma applyAll_eraseIdx {s : Snapshot} {e : FoldError} (herror : s.applyAll ops = .error e) :
    s.applyAll (ops.eraseIdx e.index) =
      (e.applied.applyAll (ops.drop (e.index + 1))).mapError (FoldError.shift e.index) := by
  obtain ⟨o, ho, hrun, -⟩ := applyAll_eq_error_iff_getElem?.mp herror
  obtain ⟨hindex, -⟩ := List.getElem?_eq_some_iff.mp ho
  rw [List.eraseIdx_eq_take_drop_succ, applyAll_append, applyAll_eq_ok_iff.mpr hrun,
    List.length_take, min_eq_left hindex.le]
  rfl

/-- A batch may be cut anywhere and resumed behind a failing operation. The second part of a batch
gives the result of the whole, an error with its place counted from the cut; if the first part
fails, the whole fails in the same way. -/
theorem applyAll_resume (s : Snapshot) (xs ys : List Operation) :
    (∀ t, s.applyAll xs = .ok t →
      s.applyAll (xs ++ ys) = (t.applyAll ys).mapError (FoldError.shift xs.length)) ∧
    (∀ e, s.applyAll xs = .error e → s.applyAll (xs ++ ys) = .error e) ∧
    ∀ ops e, s.applyAll ops = .error e →
      (e.applied.applyAll (ops.drop (e.index + 1))).mapError (FoldError.shift e.index) =
        s.applyAll (ops.eraseIdx e.index) := by
  refine ⟨fun t hok => ?_, fun e herror => ?_, fun ops e herror => ?_⟩
  · rw [applyAll_append, hok]
    rfl
  · rw [applyAll_append, herror]
    rfl
  · exact (applyAll_eraseIdx herror).symm

/-- The batch fails at its second operation, and again when it is resumed. -/
theorem applyAll_resume_fails_again :
    let ops : List Operation := [
      ⟨.merge, "Event", .array [.null]⟩,
      ⟨.add, "Event", .null⟩,
      ⟨.overwrite, tokenType, .string "t"⟩,
      ⟨.delete, tokenType, .array []⟩,
      ⟨.delete, "Event", .array [.null]⟩]
    ∃ t e d, empty.applyAll (ops.take 1) = .ok t ∧ empty.applyAll (ops.take 2) = .error e ∧
      empty.applyAll ops = .error e ∧
      (t.applyAll (ops.drop 1)).mapError (FoldError.shift 1) = .error e ∧
      e.index = 1 ∧ e.applied.applyAll (ops.drop 2) = .error d ∧ d.index = 1 ∧
      empty.applyAll (ops.eraseIdx 1) = .error (d.shift 1) := by
  intro ops
  obtain ⟨t, hok⟩ : ∃ t, empty.applyAll (ops.take 1) = .ok t :=
    exists_applyAll_eq_ok (by decide +kernel)
  have hfails : Except.casesOn (motive := fun _ => Bool) (empty.applyAll (ops.take 2))
      (fun e => decide (e.index = 1) && Except.casesOn (motive := fun _ => Bool)
        (e.applied.applyAll (ops.drop 2)) (fun d => decide (d.index = 1)) fun _ => false)
      (fun _ => false) = true := by decide +kernel
  cases herror : empty.applyAll (ops.take 2) with
  | ok u => simp [herror] at hfails
  | error e =>
    simp only [herror, Bool.and_eq_true, decide_eq_true_eq] at hfails
    obtain ⟨hindex, hagain⟩ := hfails
    cases hresumed : e.applied.applyAll (ops.drop 2) with
    | ok u => simp [hresumed] at hagain
    | error d =>
      rw [hresumed] at hagain
      obtain ⟨hcut, -, -⟩ := applyAll_resume empty (ops.take 1) (ops.drop 1)
      obtain ⟨-, hwhole, hgap⟩ := applyAll_resume empty (ops.take 2) (ops.drop 2)
      have hops : empty.applyAll ops = .error e := hwhole e herror
      have herased := hgap ops e hops
      rw [hindex, hresumed] at herased
      exact ⟨t, e, d, hok, rfl, hops, (hcut t hok).symm.trans hops, hindex, hresumed,
        of_decide_eq_true hagain, herased.symm⟩

end Snapshot

end EntitySync
