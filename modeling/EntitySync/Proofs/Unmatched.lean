import Mathlib
import EntitySync.Change

/-!
# Records that match none of a list

A merge and a delete drop the records whose id is listed. Said pair by pair, they keep the records
that have the same id as none of the listed ones, which is how later proofs speak of them.
-/

namespace EntitySync

namespace Record

/-- The records that have the same id as none of the others, decided pair by pair. -/
def unmatched (records others : List Record) : List Record :=
  records.filter fun r => !others.any r.sameId

lemma mem_unmatched {r : Record} {records others : List Record} :
    r ∈ unmatched records others ↔ r ∈ records ∧ ∀ t ∈ others, r.sameId t = false := by
  simp [unmatched]

lemma unmatched_sublist (records others : List Record) :
    (unmatched records others).Sublist records :=
  List.filter_sublist

@[simp] lemma unmatched_append (as bs others : List Record) :
    unmatched (as ++ bs) others = unmatched as others ++ unmatched bs others :=
  List.filter_append as bs

end Record

namespace Change

/-- A record is listed by id exactly if a listed record has the same id. -/
lemma isListed_filterMap_id? (others : List Record) (r : Record) :
    isListed (others.filterMap Record.id?) r = others.any r.sameId := by
  rw [Bool.eq_iff_iff, List.any_eq_true]
  simp only [Record.sameId_iff, isListed]
  cases hr : r.id? with
  | none => simp
  | some i =>
    simp only [List.contains_iff_mem, List.mem_filterMap, Option.some.injEq]
    constructor
    · rintro ⟨t, ht, hi⟩
      exact ⟨t, ht, i, rfl, hi⟩
    · rintro ⟨t, ht, _, rfl, hi⟩
      exact ⟨t, ht, hi⟩

lemma without_filterMap_id? (others records : List Record) :
    without (others.filterMap Record.id?) records = Record.unmatched records others := by
  simp only [without, Record.unmatched, isListed_filterMap_id?]

lemma mergeInto_eq_place (existing incoming : List Record) (placement : Placement) :
    mergeInto existing incoming placement =
      place placement (Record.unmatched existing incoming) incoming := by
  rw [mergeInto, without_filterMap_id?]

/-- Records that are left or come in, wherever they are placed, were there or come in. -/
lemma mem_or_mem_of_mem_place {r : Record} {existing incoming : List Record}
    {placement : Placement}
    (h : r ∈ place placement (Record.unmatched existing incoming) incoming) :
    r ∈ existing ∨ r ∈ incoming := by
  cases placement with
  | append => exact (List.mem_append.mp h).imp_left (Record.unmatched_sublist _ _).mem
  | prepend => exact (List.mem_append.mp h).symm.imp_left (Record.unmatched_sublist _ _).mem

/-! ### Listed targets -/

/-- The records that the target of a delete lists; an object is a list of one. -/
def listed? : Json → Option (List Record)
  | .array entries => some (entries.map Record.mk)
  | .object members => some [⟨.object members⟩]
  | _ => none

lemma deletedIds_eq_ok_iff {target : Json} {ids : List RecordId} :
    deletedIds target = .ok ids ↔
      ∃ listed, listed? target = some listed ∧ listed.filterMap Record.id? = ids := by
  cases target with
  | array entries => simp [deletedIds, listed?, List.filterMap_map, Function.comp_def, Record.id?]
  | object members =>
    cases h : RecordId.of? (.object members) <;> simp [deletedIds, listed?, Record.id?, h]
  | _ => simp [deletedIds, listed?]

lemma mergeRecords_eq_ok_iff {target : Json} {records : List Record} :
    mergeRecords target = .ok records ↔
      ∃ entries, target = .array entries ∧ entries.map Record.mk = records := by
  cases target <;> simp [mergeRecords]

end Change

end EntitySync
