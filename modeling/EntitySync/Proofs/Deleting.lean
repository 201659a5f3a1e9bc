import EntitySync.Proofs.RecordIdentity
import EntitySync.Proofs.Step

/-!
# Deleting

A delete looks ids up in a list that is made of its target, a record or a list of records. It keeps
what two nested loops over the records keep: those that have the same id as none of the listed ones.
An entry with an object or array as its id lists nothing, and an entry without an id lists all
records that have none.
-/

namespace EntitySync

/-- An array or an object: a value that is no id. -/
def Json.isComposite : Json → Bool
  | .array _ | .object _ => true
  | _ => false

namespace Record

variable {r t : Record} {records before after : List Record}

/-! ### Records without an id to compare -/

/-- There is an `id` member. -/
def hasId (r : Record) : Bool := (r.get? "id").isSome

/-- The `id` member is an array or an object. -/
def hasCompositeId (r : Record) : Bool := (r.get? "id").any Json.isComposite

lemma id?_eq_none_iff : r.id? = none ↔ r.hasCompositeId = true := by
  unfold id? RecordId.of? hasCompositeId get?
  cases r.json.get? "id" with
  | none => simp
  | some member => cases member <;> simp [RecordId.ofMember?, Json.isComposite]

lemma id?_eq_absent_iff : r.id? = some .absent ↔ r.hasId = false := by
  rw [id?, RecordId.of?_eq_ofOption?, RecordId.ofOption?_eq_some_iff, hasId, get?]
  simp

/-- Nothing has the same id as a record with a composite one. -/
lemma sameId_eq_false_of_hasCompositeId (h : t.hasCompositeId = true) (r : Record) :
    r.sameId t = false := by
  rw [Bool.eq_false_iff, Ne, sameId_iff, id?_eq_none_iff.mpr h]
  simp

/-- The records without an id have the same id. -/
lemma sameId_eq_of_not_hasId (h : t.hasId = false) (r : Record) : r.sameId t = !r.hasId := by
  rw [Bool.eq_iff_iff, sameId_iff, id?_eq_absent_iff.mpr h, Bool.not_eq_true',
    ← id?_eq_absent_iff]
  constructor
  · rintro ⟨i, hr, hi⟩
    rw [hr, ← hi]
  · exact fun hr => ⟨.absent, hr, rfl⟩

/-- One more record in the list drops those that have the same id as that one. -/
lemma unmatched_insert :
    unmatched records (before ++ t :: after) =
      (unmatched records (before ++ after)).filter fun r => !r.sameId t := by
  rw [unmatched, unmatched, List.filter_filter]
  congr 1
  funext r
  simp only [List.any_append, List.any_cons, Bool.not_or]
  ac_rfl

lemma unmatched_insert_of_hasCompositeId (h : t.hasCompositeId = true) :
    unmatched records (before ++ t :: after) = unmatched records (before ++ after) := by
  rw [unmatched_insert]
  simp [sameId_eq_false_of_hasCompositeId h]

lemma unmatched_insert_of_not_hasId (h : t.hasId = false) :
    unmatched records (before ++ t :: after) =
      (unmatched records (before ++ after)).filter hasId := by
  rw [unmatched_insert]
  simp [sameId_eq_of_not_hasId h]

lemma mem_unmatched_iff_of_mem (h : r ∈ records) (listed : List Record) :
    r ∈ unmatched records listed ↔ ∀ t ∈ listed, r.sameId t = false :=
  mem_unmatched.trans (and_iff_right h)

end Record

namespace Snapshot

variable {s : Snapshot} {entityType : EntityType} {existing listed : List Record} {target : Json}

lemma Holds.eq_nil (h : s.Holds entityType existing)
    (hnone : s.get? entityType = none ∨ s.get? entityType = some (.value .null)) :
    existing = [] := by
  rcases hnone with hnone | hnull
  · exact h.unique (.missing hnone)
  · exact h.unique (.null hnull)

/-- A delete agrees with the nested loops, whatever the shapes of the entries. The survivors stay as
they were and in their order, all records that match are gone, and the other collections do not
change. An entry with a composite id removes nothing, and one without an id removes exactly the
records that have none. -/
theorem apply_delete_eq_unmatched (hheld : s.Holds entityType existing)
    (hlisted : Change.listed? target = some listed) :
    ∃ kept next, kept = Record.unmatched existing listed ∧
      s.apply ⟨.delete, entityType, target⟩ = .ok next ∧
      next.get? entityType = some (.records kept) ∧
      kept.Sublist existing ∧
      (∀ r ∈ existing, r ∈ kept ↔ ∀ t ∈ listed, r.sameId t = false) ∧
      (∀ before t after, listed = before ++ t :: after →
        (t.hasCompositeId = true → kept = Record.unmatched existing (before ++ after)) ∧
        (t.hasId = false →
          kept = (Record.unmatched existing (before ++ after)).filter Record.hasId)) ∧
      (s.get? entityType = none ∨ s.get? entityType = some (.value .null) → kept = []) ∧
      ∀ other ≠ entityType, next.get? other = s.get? other := by
  have hstep : s.Step ⟨.delete, entityType, target⟩
      (s.set entityType (.records (Record.unmatched existing listed))) := .delete hlisted hheld
  refine ⟨_, _, rfl, apply_eq_ok_iff.mpr hstep, ?_, Record.unmatched_sublist _ _,
    fun r hr => Record.mem_unmatched_iff_of_mem hr listed, ?_, ?_,
    fun other hne => hstep.get?_of_ne hne⟩
  · rw [get?_set, if_pos rfl]
  · rintro before t after rfl
    exact ⟨Record.unmatched_insert_of_hasCompositeId, Record.unmatched_insert_of_not_hasId⟩
  · intro hnone
    rw [hheld.eq_nil hnone]
    rfl

/-- The target lists a number in another kind, a composite id, and an entry that is no object. -/
theorem apply_delete_eq_unmatched_mixed_ids :
    let one : Json := .object [("id", .number (.integer 1))]
    let one' : Json := .object [("id", .number (.double ⟨false, 0x3FF0000000000000, by decide⟩))]
    let composite : Json := .object [("id", .object [("k", .null)])]
    let named : Json := .object [("id", .string "1")]
    let s := empty.set "Event" (.value (.array [one, .null, composite, one', named, one]))
    s.Holds "Event" ([one, .null, composite, one', named, one].map Record.mk) ∧
    Change.listed? (.array [one', composite, .string "x"]) =
      some ([one', composite, .string "x"].map Record.mk) ∧
    ∃ next, s.apply ⟨.delete, "Event", .array [one', composite, .string "x"]⟩ = .ok next ∧
      next.get? "Event" = some (.records [⟨composite⟩, ⟨named⟩]) := by
  intro one one' composite named s
  have hheld : s.Holds "Event" ([one, .null, composite, one', named, one].map Record.mk) :=
    .array rfl
  have hlisted : Change.listed? (.array [one', composite, .string "x"]) =
      some ([one', composite, .string "x"].map Record.mk) := rfl
  obtain ⟨kept, next, hkept, happly, hget, -⟩ := apply_delete_eq_unmatched hheld hlisted
  have hsurvivors : kept = [⟨composite⟩, ⟨named⟩] := hkept.trans rfl
  rw [hsurvivors] at hget
  exact ⟨hheld, hlisted, next, happly, hget⟩

end Snapshot

end EntitySync
