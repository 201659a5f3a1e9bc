import EntitySync.Proofs.Acceptance
import EntitySync.Proofs.Deleting

/-!
# Deleting a record

A delete that is built from a record carries the record as its target, and a target is read by its
shape: an object is a record, and an array is a list of records. So the delete of an object removes
the records with its id, as it should. The delete of an entry that is an array does not: the entry
has no id, but what is removed are the records that match the elements of the array.
-/

namespace EntitySync

/-! ### Lists in place of a record -/

namespace Record

variable {r : Record} {existing listed : List Record} {entries : List Json}

/-- The listed records match the same of the existing ones as the record does. -/
def Faithful (r : Record) (listed existing : List Record) : Prop :=
  ∀ x ∈ existing, (∃ t ∈ listed, x.sameId t = true) ↔ x.sameId r = true

/-- What a list leaves is what the record leaves exactly if the list is faithful. -/
lemma unmatched_eq_filter_iff :
    unmatched existing listed = (existing.filter fun x => !x.sameId r) ↔
      r.Faithful listed existing := by
  have hpointwise : ∀ x : Record, (!listed.any x.sameId) = (!x.sameId r) ↔
      ((∃ t ∈ listed, x.sameId t = true) ↔ x.sameId r = true) := by
    intro x
    rw [← List.any_eq_true, Bool.not_inj_iff, Bool.eq_iff_iff]
  constructor
  · intro h x hx
    have hmem : x ∈ unmatched existing listed ↔ x ∈ existing.filter fun x => !x.sameId r := by
      rw [h]
    rw [unmatched, List.mem_filter, List.mem_filter, and_iff_right hx, and_iff_right hx,
      ← Bool.eq_iff_iff] at hmem
    exact (hpointwise x).mp hmem
  · exact fun h => List.filter_congr fun x hx => (hpointwise x).mpr (h x hx)

lemma Faithful.self : r.Faithful [r] existing := by
  simp [Faithful]

/-- An array has no id, so the records that it should match are those that have none. -/
lemma faithful_array_iff :
    Faithful ⟨.array entries⟩ (entries.map mk) existing ↔
      ∀ x ∈ existing, (∃ t ∈ entries, x.sameId ⟨t⟩ = true) ↔ x.hasId = false := by
  have hid : (⟨.array entries⟩ : Record).hasId = false := rfl
  simp only [Faithful, List.mem_map, exists_exists_and_eq_and, sameId_eq_of_not_hasId hid,
    Bool.not_eq_true']

/-- An array matches the right records, whatever there is, if one of its elements matches them and
none matches others. -/
lemma forall_faithful_array_iff :
    (∀ existing, Faithful ⟨.array entries⟩ (entries.map mk) existing) ↔
      (∃ t ∈ entries, (⟨t⟩ : Record).hasId = false) ∧
        ∀ t ∈ entries, (⟨t⟩ : Record).hasId = false ∨ (⟨t⟩ : Record).hasCompositeId = true := by
  simp only [faithful_array_iff]
  constructor
  · intro h
    have hone : ∀ x : Record, (∃ t ∈ entries, x.sameId ⟨t⟩ = true) ↔ x.hasId = false :=
      fun x => h [x] x (by simp)
    constructor
    · have hnull : (⟨.null⟩ : Record).hasId = false := rfl
      obtain ⟨t, ht, hsame⟩ := (hone ⟨.null⟩).mpr hnull
      rw [sameId_comm, sameId_eq_of_not_hasId hnull, Bool.not_eq_true'] at hsame
      exact ⟨t, ht, hsame⟩
    · intro t ht
      rw [or_iff_not_imp_right, ← id?_eq_none_iff]
      intro hid
      obtain ⟨i, hi⟩ := Option.ne_none_iff_exists'.mp hid
      exact (hone ⟨t⟩).mp ⟨t, ht, sameId_iff.mpr ⟨i, hi, hi⟩⟩
  · rintro ⟨⟨t₀, ht₀, hnone⟩, hall⟩ existing x -
    constructor
    · rintro ⟨t, ht, hsame⟩
      rcases hall t ht with hid | hcomposite
      · rwa [sameId_eq_of_not_hasId hid, Bool.not_eq_true'] at hsame
      · rw [sameId_eq_false_of_hasCompositeId hcomposite] at hsame
        cases hsame
    · intro hx
      exact ⟨t₀, ht₀, by rw [sameId_eq_of_not_hasId hnone, hx, Bool.not_false]⟩

end Record

namespace Snapshot

open Record (unmatched)

variable {s next : Snapshot} {entityType : EntityType} {existing listed : List Record} {r : Record}

/-! ### What a delete should do -/

/-- The records with the id of the given one are removed from the collection, and nothing else
happens. -/
structure RemovesOnly (s : Snapshot) (entityType : EntityType) (r : Record) (next : Snapshot) :
    Prop where
  kept : ∃ existing, s.Holds entityType existing ∧
    next.get? entityType = some (.records (existing.filter fun x => !x.sameId r))
  others : ∀ other ≠ entityType, next.get? other = s.get? other

/-- Wherever a delete of the record is accepted, it removes the records with its id, and nothing
else. -/
def DeletedAlone (r : Record) : Prop :=
  ∀ (s : Snapshot) (entityType : EntityType) (next : Snapshot),
    s.apply (.delete entityType r) = .ok next → s.RemovesOnly entityType r next

/-! ### What it does -/

lemma apply_delete_eq_ok_iff :
    s.apply (.delete entityType r) = .ok next ↔ ∃ existing listed,
      s.Holds entityType existing ∧ Change.listed? r.json = some listed ∧
        s.set entityType (.records (unmatched existing listed)) = next := by
  obtain ⟨target⟩ := r
  rw [Operation.delete, apply_eq_ok_iff]
  constructor
  · intro h
    cases h with
    | merge _ hplacement => cases hplacement
    | delete hlisted hheld => exact ⟨_, _, hheld, hlisted, rfl⟩
  · rintro ⟨existing, listed, hheld, hlisted, rfl⟩
    exact .delete hlisted hheld

lemma removesOnly_set_iff (hheld : s.Holds entityType existing) :
    s.RemovesOnly entityType r (s.set entityType (.records (unmatched existing listed))) ↔
      r.Faithful listed existing := by
  rw [← Record.unmatched_eq_filter_iff]
  constructor
  · rintro ⟨⟨existing', hheld', hget⟩, -⟩
    rw [get?_set, if_pos rfl, hheld'.unique hheld] at hget
    simpa using hget
  · intro h
    refine ⟨⟨existing, hheld, ?_⟩, fun other hne => ?_⟩
    · rw [get?_set, if_pos rfl, h]
    · rw [get?_set, if_neg hne]

/-- A record is deleted alone if its target is faithful to it, whatever there is. -/
lemma deletedAlone_iff (hlisted : Change.listed? r.json = some listed) :
    DeletedAlone r ↔ ∀ existing, r.Faithful listed existing := by
  constructor
  · intro h existing
    have hheld : (empty.set "" (.records existing)).Holds "" existing := .records rfl
    have happly := apply_delete_eq_ok_iff.mpr ⟨existing, listed, hheld, hlisted, rfl⟩
    exact (removesOnly_set_iff hheld).mp (h _ _ _ happly)
  · intro h s entityType next happly
    obtain ⟨existing, listed', hheld, hlisted', rfl⟩ := apply_delete_eq_ok_iff.mp happly
    obtain rfl : listed = listed' := Option.some.inj (hlisted.symm.trans hlisted')
    exact (removesOnly_set_iff hheld).mpr (h existing)

lemma deletedAlone_of_ne_array (h : ∀ entries, r.json ≠ .array entries) : DeletedAlone r := by
  obtain ⟨json⟩ := r
  cases json with
  | array entries => exact absurd rfl (h entries)
  | object members => exact (deletedAlone_iff rfl).mpr fun _ => .self
  | _ =>
    intro s entityType next happly
    obtain ⟨_, _, -, hlisted, -⟩ := apply_delete_eq_ok_iff.mp happly
    cases hlisted

lemma exists_apply_delete_eq_ok_iff :
    (∃ next, s.apply (.delete entityType r) = .ok next) ↔
      ((∃ entries, r.json = .array entries) ∨ ∃ members, r.json = .object members) ∧
        ¬ s.HoldsPlain entityType := by
  have hlisted : (∃ listed, Change.listed? r.json = some listed) ↔
      (∃ entries, r.json = .array entries) ∨ ∃ members, r.json = .object members := by
    cases r.json <;> simp [Change.listed?]
  simp only [apply_delete_eq_ok_iff, not_holdsPlain_iff, ← hlisted]
  constructor
  · rintro ⟨_, existing, listed, hheld, hlisted, -⟩
    exact ⟨⟨listed, hlisted⟩, existing, hheld⟩
  · rintro ⟨⟨listed, hlisted⟩, existing, hheld⟩
    exact ⟨_, existing, listed, hheld, hlisted, rfl⟩

/-- A delete removes the records with the id of its record, and nothing else, unless the record is
an array. That is so for an array, too, if one of its elements has no id, and all others have none,
either, or a composite one. The delete is accepted exactly if the record is an object or an array
and the collection is no plain value. Of an array it removes the records that match an element,
which is right in a snapshot exactly if those are the records without an id. -/
theorem deletedAlone_iff_shape (r : Record) :
    (DeletedAlone r ↔ ∀ entries, r.json = .array entries →
      (∃ t ∈ entries, (⟨t⟩ : Record).hasId = false) ∧
        ∀ t ∈ entries, (⟨t⟩ : Record).hasId = false ∨ (⟨t⟩ : Record).hasCompositeId = true) ∧
    ∀ (s : Snapshot) (entityType : EntityType),
      ((∃ next, s.apply (.delete entityType r) = .ok next) ↔
        ((∃ entries, r.json = .array entries) ∨ ∃ members, r.json = .object members) ∧
          ¬ s.HoldsPlain entityType) ∧
      ∀ entries existing, r.json = .array entries → s.Holds entityType existing →
        ∃ next, s.apply (.delete entityType r) = .ok next ∧
          next.get? entityType = some (.records (unmatched existing (entries.map Record.mk))) ∧
          (∀ other ≠ entityType, next.get? other = s.get? other) ∧
          (s.RemovesOnly entityType r next ↔
            ∀ x ∈ existing, (∃ t ∈ entries, x.sameId ⟨t⟩ = true) ↔ x.hasId = false) := by
  refine ⟨?_, fun s entityType => ⟨exists_apply_delete_eq_ok_iff, ?_⟩⟩
  · obtain ⟨json⟩ := r
    cases json with
    | array entries => simp [(deletedAlone_iff rfl).trans Record.forall_faithful_array_iff]
    | _ => exact iff_of_true (deletedAlone_of_ne_array fun _ => by simp) fun _ => by simp
  · intro entries existing hentries hheld
    obtain ⟨json⟩ := r
    obtain rfl : json = .array entries := hentries
    have hstep : s.Step (.delete entityType ⟨.array entries⟩)
        (s.set entityType (.records (unmatched existing (entries.map Record.mk)))) :=
      .delete rfl hheld
    refine ⟨_, apply_eq_ok_iff.mpr hstep, ?_, fun other hne => hstep.get?_of_ne hne,
      (removesOnly_set_iff hheld).trans Record.faithful_array_iff⟩
    rw [get?_set, if_pos rfl]

/-- The delete of an entry that is a list of one record removes that record, which has another id
than the entry, and keeps the one that has the same. -/
theorem not_deletedAlone_array :
    let one : Json := .object [("id", .number (.integer 1))]
    let s := empty.set "Event" (.records [⟨one⟩, ⟨.null⟩])
    let r : Record := ⟨.array [one]⟩
    (⟨one⟩ : Record).sameId r = false ∧ (⟨.null⟩ : Record).sameId r = true ∧
      ∃ next, s.apply (.delete "Event" r) = .ok next ∧ next.records "Event" = [⟨.null⟩] ∧
        ¬ s.RemovesOnly "Event" r next := by
  intro one s r
  have hheld : s.Holds "Event" [⟨one⟩, ⟨.null⟩] := .records rfl
  have hone : (⟨one⟩ : Record).sameId r = false := rfl
  have happly : s.apply (.delete "Event" r) =
      .ok (s.set "Event" (.records (unmatched [⟨one⟩, ⟨.null⟩] [⟨one⟩]))) :=
    apply_delete_eq_ok_iff.mpr ⟨_, _, hheld, rfl, rfl⟩
  refine ⟨hone, rfl, _, happly, rfl, fun honly => ?_⟩
  have hfaithful := (removesOnly_set_iff hheld).mp honly ⟨one⟩ List.mem_cons_self
  exact Bool.false_ne_true (hone.symm.trans (hfaithful.mp ⟨⟨one⟩, List.mem_cons_self, rfl⟩))

end Snapshot

end EntitySync
