import EntitySync.Proofs.Run

/-!
# Unique ids

No two entries of a collection have the same id, if that was so at the start and no operation brings
two entries with the same id. Every step keeps this, so it holds of every snapshot that a batch
passes through, also of the one that a failed batch leaves.
-/

namespace EntitySync

/-! ### Distinct records -/

namespace Record

/-- No two records at different places have the same id. -/
def Distinct (records : List Record) : Prop :=
  records.Pairwise fun a b => a.sameId b = false

instance (records : List Record) : Decidable (Distinct records) :=
  inferInstanceAs (Decidable (records.Pairwise _))

variable {records others : List Record}

lemma Distinct.unmatched (h : Distinct records) : Distinct (unmatched records others) :=
  h.sublist (unmatched_sublist records others)

/-- Kept records and incoming ones have no id in common, wherever they are placed. -/
lemma Distinct.place (hrecords : Distinct records) (hothers : Distinct others)
    (placement : Placement) :
    Distinct (Change.place placement (Record.unmatched records others) others) := by
  have hkept : Distinct (Record.unmatched records others) := hrecords.unmatched
  cases placement with
  | append =>
    refine List.pairwise_append.mpr ⟨hkept, hothers, ?_⟩
    intro r hr t ht
    exact (mem_unmatched.mp hr).2 t ht
  | prepend =>
    refine List.pairwise_append.mpr ⟨hothers, hkept, ?_⟩
    intro t ht r hr
    rw [sameId_comm]
    exact (mem_unmatched.mp hr).2 t ht

end Record

/-- The collection holds an array only if no two of its entries have the same id. -/
def Collection.UniqueIds (c : Collection) : Prop :=
  ∀ entries, c.toJson = .array entries → Record.Distinct (entries.map Record.mk)

lemma Collection.uniqueIds_records_iff {records : List Record} :
    (Collection.records records).UniqueIds ↔ Record.Distinct records := by
  simp [UniqueIds, toJson, Function.comp_def]

/-- An overwrite or merge with an array brings no two entries with the same id. -/
def Operation.BringsDistinct (o : Operation) : Prop :=
  o.verb = .overwrite ∨ o.verb = .merge ∨ o.verb = .mergeAppend ∨ o.verb = .mergePrepend →
    ∀ entries, o.target = .array entries → Record.Distinct (entries.map Record.mk)

namespace Snapshot

/-- In no collection that holds an array do two entries at different places have the same id. -/
def UniqueIds (s : Snapshot) : Prop :=
  ∀ entityType c, s.get? entityType = some c → c.UniqueIds

variable {s t : Snapshot} {entityType : EntityType} {ops : List Operation}

lemma uniqueIds_empty : empty.UniqueIds := by
  intro entityType c hget
  cases hget

/-! ### One step -/

lemma UniqueIds.set {c : Collection} (h : s.UniqueIds) (hc : c.UniqueIds) :
    (s.set entityType c).UniqueIds :=
  forall_collection_set h hc

lemma UniqueIds.distinct_of_holds {existing : List Record} (h : s.UniqueIds)
    (hheld : s.Holds entityType existing) : Record.Distinct existing := by
  cases hheld with
  | missing | null => exact List.Pairwise.nil
  | records hget => exact Collection.uniqueIds_records_iff.mp (h _ _ hget)
  | array hget => exact h _ _ hget _ rfl

/-- A step that brings no two entries with the same id keeps ids unique. -/
lemma UniqueIds.step {o : Operation} (h : s.UniqueIds) (hbrings : o.BringsDistinct)
    (hstep : s.Step o t) : t.UniqueIds := by
  cases hstep with
  | overwrite entityType target =>
    refine h.set fun entries hentries => ?_
    rw [Collection.toJson_ofJson] at hentries
    exact hbrings (Or.inl rfl) entries hentries
  | @merge verb placement _ _ entries hplacement hheld =>
    have hverb : verb = .merge ∨ verb = .mergeAppend ∨ verb = .mergePrepend := by
      cases verb <;> simp [Verb.placement?] at hplacement ⊢
    refine h.set (Collection.uniqueIds_records_iff.mpr ?_)
    exact (h.distinct_of_holds hheld).place (hbrings (Or.inr hverb) entries rfl) placement
  | delete _ hheld =>
    exact h.set (Collection.uniqueIds_records_iff.mpr (h.distinct_of_holds hheld).unmatched)

/-! ### Batches -/

lemma UniqueIds.run (h : s.UniqueIds) (hbrings : ∀ o ∈ ops, o.BringsDistinct)
    (hrun : s.Run ops t) : t.UniqueIds :=
  hrun.invariant (fun o ho _ _ hs hstep => hs.step (hbrings o ho) hstep) h

/-- Ids stay unique in every snapshot that a batch passes through: after every part of the batch
that succeeds, and in the snapshot that a failure leaves. -/
theorem uniqueIds_of_applyAll (h : s.UniqueIds) (hbrings : ∀ o ∈ ops, o.BringsDistinct) :
    (∀ done t, done <+: ops → s.applyAll done = .ok t → t.UniqueIds) ∧
    ∀ e, s.applyAll ops = .error e → e.applied.UniqueIds := by
  constructor
  · intro done t hpart hok
    have hdone := fun o ho => hbrings o (hpart.subset ho)
    exact h.run hdone (applyAll_eq_ok_iff.mp hok)
  · intro e herror
    obtain ⟨done, o, rest, rfl, hrun, -, -⟩ := applyAll_eq_error_iff.mp herror
    exact h.run (fun o' ho' => hbrings o' (List.mem_append_left _ ho')) hrun

/-- Ids of mixed kinds, with an id that never matches held twice. The third operation is rejected;
the delete before it lists an id twice. -/
theorem uniqueIds_of_applyAll_rejected :
    let record := fun n : Number => Json.object [("id", .number n)]
    let one : Number := .double ⟨false, 0x3FF0000000000000, by decide⟩
    let composite : Json := .object [("id", .array [])]
    let s := empty.set "Event"
      (.records [⟨record (.integer 1)⟩, ⟨composite⟩, ⟨composite⟩, ⟨.null⟩])
    let ops : List Operation := [
      ⟨.merge, "Event", .array [record one, .string "x"]⟩,
      ⟨.delete, "Event", .array [.null, .null]⟩,
      ⟨.add, "Event", .null⟩]
    s.UniqueIds ∧ (∀ o ∈ ops, o.BringsDistinct) ∧
    ∃ e, s.applyAll ops = .error e ∧ e.index = 2 ∧ e.applied.UniqueIds := by
  intro record one composite s ops
  have hs : s.UniqueIds :=
    uniqueIds_empty.set (Collection.uniqueIds_records_iff.mpr (by decide +kernel))
  have hbrings : ∀ o ∈ ops, o.BringsDistinct := by
    simp only [ops, List.forall_mem_cons, List.not_mem_nil, false_implies, implies_true, and_true]
    refine ⟨fun _ entries hentries => ?_, fun hverb => ?_, fun hverb => ?_⟩
    · cases hentries
      decide +kernel
    · simp at hverb
    · simp at hverb
  have hindex : (match s.applyAll ops with
      | .error e => decide (e.index = 2)
      | .ok _ => false) = true := by decide +kernel
  cases h : s.applyAll ops with
  | ok t => simp [h] at hindex
  | error e =>
    rw [h] at hindex
    exact ⟨hs, hbrings, e, rfl, of_decide_eq_true hindex, (uniqueIds_of_applyAll hs hbrings).2 e h⟩

end Snapshot

end EntitySync
