import EntitySync.Entity
import EntitySync.Proofs.Decoding
import EntitySync.Proofs.Run

/-!
# Typed views of folded snapshots

A typed view decodes a collection record by record. If the records that are there decode, and all
entries that come in do, then the records of every snapshot on the way decode, since an operation
drops records, keeps them or adds its own. The first operation on the entity type leaves a list in
place, from which on the view has one value for each record. Before it, a missing collection has an
empty view and a null one has none, although operations take both for an empty list.
-/

namespace EntitySync

variable {α : Type} {view : EntityView α} {s t : Snapshot} {o : Operation} {ops : List Operation}

namespace EntityView

/-- The record decodes to a value of the entity type. -/
def Accepts (view : EntityView α) (r : Record) : Prop :=
  ∃ a, view.decode r.json = .ok a

/-- An overwrite of the records of the entity type, or a merge into them, brings a list of entries
that decode. What a delete lists does not matter. -/
def Brings (view : EntityView α) (o : Operation) : Prop :=
  o.entityType = view.entityType → o.verb = .overwrite ∨ o.verb.placement? ≠ none →
    ∃ entries, o.target = .array entries ∧ ∀ e ∈ entries, view.Accepts ⟨e⟩

/-- The snapshot has an empty or missing collection, or a list of records that decode. -/
def Fits (view : EntityView α) (s : Snapshot) : Prop :=
  ∃ existing, s.Holds view.entityType existing ∧ ∀ r ∈ existing, view.Accepts r

/-- The collection is kept as a list of records, which decode. -/
def Lists (view : EntityView α) (s : Snapshot) : Prop :=
  ∃ entries, s.get? view.entityType = some (.records entries) ∧ ∀ r ∈ entries, view.Accepts r

/-- The typed view of the snapshot has one value for each record, in the order of the records. -/
def Shows (view : EntityView α) (s : Snapshot) : Prop :=
  ∃ as, s.entities view = .ok as ∧
    List.Forall₂ (fun r a => view.decode r.json = .ok a) (s.records view.entityType) as

/-! ### Reading -/

/-- What is read is decoded entry by entry; a missing collection has no entries. -/
lemma entities_eq_ok_iff {as : List α} :
    s.entities view = .ok as ↔
      s.get? view.entityType = none ∧ as = [] ∨
      ∃ c entries, s.get? view.entityType = some c ∧ c.toJson = .array entries ∧
        List.Forall₂ (fun e a => view.decode e = .ok a) entries as := by
  unfold Snapshot.entities
  cases s.get? view.entityType with
  | none => simp [eq_comm]
  | some c => simp [Decode.list_eq_ok_iff]

lemma exists_entities_eq_ok_iff :
    (∃ as, s.entities view = .ok as) ↔
      s.get? view.entityType = none ∨
      ∃ c entries, s.get? view.entityType = some c ∧ c.toJson = .array entries ∧
        ∀ e ∈ entries, view.Accepts ⟨e⟩ := by
  simp only [entities_eq_ok_iff, Accepts, ← exists_forall₂_iff]
  constructor
  · rintro ⟨as, ⟨hget, -⟩ | ⟨c, entries, hget, harray, hdecode⟩⟩
    · exact Or.inl hget
    · exact Or.inr ⟨c, entries, hget, harray, as, hdecode⟩
  · rintro (hget | ⟨c, entries, hget, harray, as, hdecode⟩)
    · exact ⟨[], Or.inl ⟨hget, rfl⟩⟩
    · exact ⟨as, Or.inr ⟨c, entries, hget, harray, hdecode⟩⟩

/-- Only a null collection holds records that decode but has no view. -/
lemma fits_iff :
    view.Fits s ↔ s.get? view.entityType = none ∨ s.get? view.entityType = some (.value .null) ∨
      ∃ as, s.entities view = .ok as := by
  rw [exists_entities_eq_ok_iff]
  constructor
  · rintro ⟨existing, hheld, haccepts⟩
    cases hheld with
    | missing hget => exact Or.inl hget
    | null hget => exact Or.inr (Or.inl hget)
    | records hget =>
      refine Or.inr (Or.inr (Or.inr ⟨_, _, hget, rfl, ?_⟩))
      exact List.forall_mem_map.mpr haccepts
    | array hget =>
      refine Or.inr (Or.inr (Or.inr ⟨_, _, hget, rfl, ?_⟩))
      exact List.forall_mem_map.mp haccepts
  · rintro (hget | hget | hget | ⟨c, entries, hget, harray, haccepts⟩)
    · exact ⟨[], .missing hget, by simp⟩
    · exact ⟨[], .null hget, by simp⟩
    · exact ⟨[], .missing hget, by simp⟩
    · cases c with
      | records existing =>
        obtain rfl := Json.array.inj harray
        exact ⟨existing, .records hget, fun r hr => haccepts _ (List.mem_map_of_mem hr)⟩
      | value v =>
        obtain rfl := harray
        exact ⟨entries.map Record.mk, .array hget, List.forall_mem_map.mpr haccepts⟩

lemma Lists.shows (h : view.Lists s) : view.Shows s := by
  obtain ⟨entries, hget, haccepts⟩ := h
  obtain ⟨as, hdecode⟩ := exists_forall₂_iff.mpr haccepts
  refine ⟨as, entities_eq_ok_iff.mpr (Or.inr ⟨_, _, hget, rfl, ?_⟩), ?_⟩
  · exact List.forall₂_map_left_iff.mpr hdecode
  · simpa [Snapshot.records, hget, Collection.records?] using hdecode

lemma Lists.fits (h : view.Lists s) : view.Fits s := by
  obtain ⟨entries, hget, haccepts⟩ := h
  exact ⟨entries, .records hget, haccepts⟩

/-! ### One step -/

lemma lists_set {entries : List Record} (h : ∀ r ∈ entries, view.Accepts r) :
    view.Lists (s.set view.entityType (.records entries)) :=
  ⟨entries, by rw [Snapshot.get?_set, if_pos rfl], h⟩

/-- An operation on the entity type leaves a list of records that decode. -/
lemma Fits.lists_of_step (h : view.Fits s) (hbrings : view.Brings o) (hstep : s.Step o t)
    (htype : o.entityType = view.entityType) : view.Lists t := by
  obtain ⟨existing, hexisting, haccepts⟩ := h
  have hincoming := hbrings htype
  cases hstep with
  | overwrite entityType target =>
    obtain rfl : entityType = view.entityType := htype
    obtain ⟨entries, rfl, hentries⟩ := hincoming (Or.inl rfl)
    exact lists_set (List.forall_mem_map.mpr hentries)
  | @merge verb placement entityType _ entries hverb hheld =>
    obtain rfl : entityType = view.entityType := htype
    obtain rfl := hheld.unique hexisting
    obtain ⟨_, ⟨⟩, hentries⟩ := hincoming (Or.inr (by simp [hverb]))
    refine lists_set fun r hr => ?_
    rcases Change.mem_or_mem_of_mem_place hr with hr | hr
    · exact haccepts r hr
    · exact List.forall_mem_map.mpr hentries r hr
  | @delete entityType target listed _ _ hheld =>
    obtain rfl : entityType = view.entityType := htype
    obtain rfl := hheld.unique hexisting
    exact lists_set fun r hr => haccepts r ((Record.unmatched_sublist _ _).mem hr)

lemma Fits.step (h : view.Fits s) (hbrings : view.Brings o) (hstep : s.Step o t) :
    view.Fits t := by
  by_cases htype : o.entityType = view.entityType
  · exact (h.lists_of_step hbrings hstep htype).fits
  · obtain ⟨existing, hheld, haccepts⟩ := h
    exact ⟨existing, hheld.congr (hstep.get?_of_ne (Ne.symm htype)), haccepts⟩

lemma Lists.step (h : view.Lists s) (hbrings : view.Brings o) (hstep : s.Step o t) :
    view.Lists t := by
  by_cases htype : o.entityType = view.entityType
  · exact h.fits.lists_of_step hbrings hstep htype
  · obtain ⟨entries, hget, haccepts⟩ := h
    exact ⟨entries, (hstep.get?_of_ne (Ne.symm htype)).trans hget, haccepts⟩

/-! ### Batches -/

/-- The first operation on the entity type leaves a list, and the ones behind it keep it one. -/
lemma Fits.lists_of_run (h : view.Fits s) (hbrings : ∀ o ∈ ops, view.Brings o)
    (hrun : s.Run ops t) (htype : ∃ o ∈ ops, o.entityType = view.entityType) : view.Lists t := by
  induction hrun with
  | nil => simp at htype
  | @cons s next t first ops hstep hrun ih =>
    obtain ⟨hfirst, hrest⟩ := List.forall_mem_cons.mp hbrings
    rcases (List.exists_mem_cons_iff _ _ _).mp htype with htype | htype
    · have hlists := h.lists_of_step hfirst hstep htype
      exact hrun.invariant (fun o ho _ _ hs hstep => hs.step (hrest o ho) hstep) hlists
    · exact ih (h.step hfirst hstep) hrest htype

/-- The typed view of a snapshot has a value for each entry of its array, in the order of the array.
It is empty for a missing collection and fails for any other value. If a snapshot has a view, or a
missing or null collection, and a batch brings entries that decode, then after every part of the
batch in which there is an operation on the entity type, there is a value for each record; so there
is after a failure. -/
theorem entities_of_batch (view : EntityView α) :
    (∀ (s : Snapshot) (as : List α), s.entities view = .ok as ↔
      s.get? view.entityType = none ∧ as = [] ∨
      ∃ c entries, s.get? view.entityType = some c ∧ c.toJson = .array entries ∧
        List.Forall₂ (fun e a => view.decode e = .ok a) entries as) ∧
    ∀ (s : Snapshot) (ops : List Operation),
      (s.get? view.entityType = none ∨ s.get? view.entityType = some (.value .null) ∨
        ∃ as, s.entities view = .ok as) →
      (∀ o ∈ ops, view.Brings o) →
      (∀ done t, done <+: ops → s.applyAll done = .ok t →
        (∃ o ∈ done, o.entityType = view.entityType) → view.Shows t) ∧
      ∀ e, s.applyAll ops = .error e →
        (∃ o ∈ ops.take e.index, o.entityType = view.entityType) → view.Shows e.applied := by
  refine ⟨fun s as => entities_eq_ok_iff, fun s ops hview hbrings => ?_⟩
  have hfits : view.Fits s := fits_iff.mpr hview
  constructor
  · intro done t hpart hok htype
    have hdone := fun o ho => hbrings o (hpart.subset ho)
    exact (hfits.lists_of_run hdone (Snapshot.applyAll_eq_ok_iff.mp hok) htype).shows
  · intro e herror htype
    obtain ⟨o, -, hrun, -⟩ := Snapshot.applyAll_eq_error_iff_getElem?.mp herror
    have hdone := fun o (ho : o ∈ ops.take e.index) => hbrings o (List.mem_of_mem_take ho)
    exact (hfits.lists_of_run hdone hrun htype).shows

/-- A null collection, a delete, and a merge of the two encodings of a transaction. The last
operation is rejected. -/
theorem entities_of_batch_rejected :
    let one : Json := .number (.integer 1)
    let two : Json := .number (.integer 2)
    let s := Snapshot.empty.set "Transaction" (.value .null)
    let ops : List Operation := [
      ⟨.delete, "Transaction", .object [("id", one)]⟩,
      ⟨.mergePrepend, "Transaction",
        .array [.object [("amt", two), ("id", one)], .array [two, two]]⟩,
      ⟨.overwrite, "Event", .string "x"⟩,
      ⟨.add, "Transaction", .array []⟩]
    s.get? "Transaction" = some (.value .null) ∧ (∀ o ∈ ops, Transaction.view.Brings o) ∧
    ∃ e, s.applyAll ops = .error e ∧ e.index = 3 ∧ Transaction.view.Shows e.applied := by
  intro one two s ops
  have hnull : s.get? "Transaction" = some (.value .null) := rfl
  have hbrings : ∀ o ∈ ops, Transaction.view.Brings o := by
    simp only [ops, List.forall_mem_cons, List.not_mem_nil, false_implies, implies_true, and_true]
    refine ⟨fun _ hverb => ?_, fun _ _ => ⟨_, rfl, ?_⟩, fun htype => ?_, fun _ hverb => ?_⟩
    · simp [Verb.placement?] at hverb
    · simp only [List.forall_mem_cons, List.not_mem_nil, false_implies, implies_true, and_true]
      exact ⟨⟨⟨1, 2⟩, rfl⟩, ⟨⟨2, 2⟩, rfl⟩⟩
    · simp [Transaction.view] at htype
    · simp [Verb.placement?] at hverb
  have hindex : Except.casesOn (motive := fun _ => Bool) (s.applyAll ops)
      (fun e => decide (e.index = 3)) (fun _ => false) = true := by decide +kernel
  cases herror : s.applyAll ops with
  | ok t => simp [herror] at hindex
  | error e =>
    have hindex : e.index = 3 := by simpa [herror] using hindex
    have htype : ∃ o ∈ ops.take e.index, o.entityType = Transaction.view.entityType := by
      rw [hindex]
      exact ⟨_, List.mem_cons_self, rfl⟩
    have hview := (entities_of_batch Transaction.view).2 s ops (Or.inr (Or.inl hnull)) hbrings
    obtain ⟨-, hfailed⟩ := hview
    exact ⟨hnull, hbrings, e, rfl, hindex, hfailed e herror htype⟩

end EntityView

end EntitySync
