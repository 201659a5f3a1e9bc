import EntitySync.Proofs.Acceptance
import EntitySync.Proofs.BatchPatch

/-!
# Operations that commute

Two operations on one collection that list different ids hardly get in each other's way. What one
brings the other keeps, and both drop the same records of the list that they find. The order shows
only where both put their records at the same end: there the two blocks change places.
-/

namespace EntitySync

variable {o o₁ o₂ : Operation} {listed l₁ l₂ existing : List Record}

/-! ### Listed records -/

namespace Operation

/-- The operation edits a collection by the listed records: it merges a list of them, or deletes a
record or a list of records. -/
inductive Lists (o : Operation) : List Record → Prop where
  | merge {entries : List Json} (hverb : o.verb.placement? ≠ none)
      (htarget : o.target = .array entries) : Lists o (entries.map Record.mk)
  | delete {listed : List Record} (hverb : o.verb = .delete)
      (hlisted : Change.listed? o.target = some listed) : Lists o listed

lemma Lists.edits (h : o.Lists listed) : o.verb.Edits := by
  cases h with
  | merge hverb => exact Or.inl hverb
  | delete hverb => exact Or.inr hverb

lemma Lists.listed?_eq (h : o.Lists listed) : Change.listed? o.target = some listed := by
  cases h with
  | merge _ htarget => rw [htarget, Change.listed?]
  | delete _ hlisted => exact hlisted

lemma Lists.exists_step {s : Snapshot} (h : o.Lists listed)
    (hheld : s.Holds o.entityType existing) : ∃ next, s.Step o next := by
  obtain ⟨verb, entityType, target⟩ := o
  cases h with
  | @merge entries hverb htarget =>
    obtain ⟨placement, hplacement⟩ := Option.ne_none_iff_exists'.mp hverb
    obtain rfl : target = .array entries := htarget
    exact ⟨_, .merge entries hplacement hheld⟩
  | delete hverb hlisted =>
    obtain rfl : verb = .delete := hverb
    exact ⟨_, .delete hlisted hheld⟩

end Operation

lemma Record.unmatched_eq_self_of_subset {records : List Record} (hsubset : records ⊆ l₁)
    (hdisjoint : ∀ a ∈ l₁, ∀ b ∈ l₂, a.sameId b = false) : unmatched records l₂ = records := by
  refine List.filter_eq_self.mpr fun r hr => ?_
  simpa using hdisjoint r (hsubset hr)

lemma Record.unmatched_append_comm (records : List Record) :
    unmatched records (l₁ ++ l₂) = unmatched records (l₂ ++ l₁) := by
  simp only [unmatched, List.any_append, Bool.or_comm]

namespace Patch

/-! ### Blocks -/

/-- The records that the operation puts at the end that the placement names. -/
def block (placement : Placement) (o : Operation) (listed : List Record) : List Record :=
  if o.verb.placement? = some placement then listed else []

lemma block_subset (placement : Placement) (o : Operation) (listed : List Record) :
    block placement o listed ⊆ listed := by
  unfold block
  split_ifs
  · exact List.Subset.refl listed
  · exact List.nil_subset listed

lemma block_append_comm {placement : Placement}
    (h : ¬ (o₁.verb.placement? = some placement ∧ o₂.verb.placement? = some placement)) :
    block placement o₁ l₁ ++ block placement o₂ l₂ =
      block placement o₂ l₂ ++ block placement o₁ l₁ := by
  unfold block
  split_ifs with h₁ h₂
  · exact absurd ⟨h₁, h₂⟩ h
  all_goals simp

/-- An operation puts its block at one end of a patch, and drops the records that it lists from
all of it. -/
lemma step_of_lists (h : o.Lists listed) (p : Patch) : p.step o =
    ⟨block .prepend o listed ++ Record.unmatched p.front listed,
      Record.unmatched p.back listed ++ block .append o listed, p.dropped ∪ idsOf listed⟩ := by
  have hedits := h.edits
  have hlisted := h.listed?_eq
  obtain ⟨verb, entityType, target⟩ := o
  cases verb <;> simp_all [step, block, Verb.placement?, Verb.Edits]

lemma idsOf_append (l₁ l₂ : List Record) : idsOf (l₁ ++ l₂) = idsOf l₁ ∪ idsOf l₂ := by
  simp [idsOf, List.filterMap_append, List.toFinset_append]

/-- Of two operations that list different ids, the second leaves the block of the first where it is,
and puts its own block farther out. -/
lemma step_step_of_disjoint (h₁ : o₁.Lists l₁) (h₂ : o₂.Lists l₂)
    (hdisjoint : ∀ a ∈ l₁, ∀ b ∈ l₂, a.sameId b = false) : (empty.step o₁).step o₂ =
      ⟨block .prepend o₂ l₂ ++ block .prepend o₁ l₁, block .append o₁ l₁ ++ block .append o₂ l₂,
        idsOf (l₁ ++ l₂)⟩ := by
  have hkept : ∀ placement, Record.unmatched (block placement o₁ l₁) l₂ = block placement o₁ l₁ :=
    fun placement => Record.unmatched_eq_self_of_subset (block_subset placement o₁ l₁) hdisjoint
  have hempty : ∀ l, Record.unmatched [] l = [] := fun _ => rfl
  rw [step_of_lists h₁, step_of_lists h₂, idsOf_append]
  simp only [empty, hempty, List.append_nil, List.nil_append, Finset.empty_union, hkept]

lemma filter_idsOf (existing listed : List Record) :
    existing.filter (fun r => ∀ i ∈ r.id?, i ∉ idsOf listed) =
      Record.unmatched existing listed := by
  simpa using (unmatched_filter_dropped existing listed ∅).symm

end Patch

namespace Snapshot

open Patch (block)

variable {s : Snapshot} {entityType : EntityType}

/-- What two operations that list different ids make of a collection, one after the other. -/
lemma exists_step_step (hheld : s.Holds entityType existing) (htype₁ : o₁.entityType = entityType)
    (htype₂ : o₂.entityType = entityType) (h₁ : o₁.Lists l₁) (h₂ : o₂.Lists l₂)
    (hdisjoint : ∀ a ∈ l₁, ∀ b ∈ l₂, a.sameId b = false) :
    ∃ mid t : Snapshot, s.Step o₁ mid ∧ mid.Step o₂ t ∧
      t.get? entityType = some (.records (block .prepend o₂ l₂ ++ block .prepend o₁ l₁ ++
        Record.unmatched existing (l₁ ++ l₂) ++ (block .append o₁ l₁ ++ block .append o₂ l₂))) ∧
      ∀ other ≠ entityType, t.get? other = s.get? other := by
  subst htype₁
  obtain ⟨mid, hmid⟩ := h₁.exists_step hheld
  have hget : mid.get? o₁.entityType = some (.records ((Patch.empty.step o₁).act existing)) :=
    Patch.get?_of_step hmid h₁.edits.ne_overwrite (by rwa [Patch.empty_act])
  have hheld' : mid.Holds o₂.entityType ((Patch.empty.step o₁).act existing) :=
    .records (htype₂ ▸ hget)
  obtain ⟨t, ht⟩ := h₂.exists_step hheld'
  refine ⟨mid, t, hmid, ht, ?_, fun other hne => ?_⟩
  · rw [← htype₂, Patch.get?_of_step ht h₂.edits.ne_overwrite hheld',
      Patch.step_step_of_disjoint h₁ h₂ hdisjoint, Patch.act, Patch.filter_idsOf]
  · rw [ht.get?_of_ne (htype₂ ▸ hne), hmid.get?_of_ne hne]

/-- Two operations on a collection, none of which lists an id of the other, are accepted in either
order. They lead to the same snapshot if one of them is a delete, or if they put their records at
different ends. At the same end the two blocks change places, each in its own order. -/
theorem apply_comm_of_disjoint (hheld : s.Holds entityType existing)
    (htype₁ : o₁.entityType = entityType) (htype₂ : o₂.entityType = entityType)
    (h₁ : o₁.Lists l₁) (h₂ : o₂.Lists l₂)
    (hdisjoint : ∀ a ∈ l₁, ∀ b ∈ l₂, a.sameId b = false) :
    ∃ mid₁ mid₂ t u, s.apply o₁ = .ok mid₁ ∧ mid₁.apply o₂ = .ok t ∧
      s.apply o₂ = .ok mid₂ ∧ mid₂.apply o₁ = .ok u ∧
      (o₁.verb = .delete ∨ o₂.verb = .delete ∨ o₁.verb.placement? ≠ o₂.verb.placement? → t = u) ∧
      (o₁.verb.placement? = some .append ∧ o₂.verb.placement? = some .append →
        t.get? entityType = some (.records (Record.unmatched existing (l₁ ++ l₂) ++ l₁ ++ l₂)) ∧
        u.get? entityType = some (.records (Record.unmatched existing (l₁ ++ l₂) ++ l₂ ++ l₁))) ∧
      (o₁.verb.placement? = some .prepend ∧ o₂.verb.placement? = some .prepend →
        t.get? entityType = some (.records (l₂ ++ l₁ ++ Record.unmatched existing (l₁ ++ l₂))) ∧
        u.get? entityType = some (.records (l₁ ++ l₂ ++ Record.unmatched existing (l₁ ++ l₂)))) ∧
      ∀ other ≠ entityType, t.get? other = s.get? other ∧ u.get? other = s.get? other := by
  have hdisjoint' : ∀ b ∈ l₂, ∀ a ∈ l₁, b.sameId a = false := fun b hb a ha => by
    rw [Record.sameId_comm, hdisjoint a ha b hb]
  obtain ⟨mid₁, t, hmid₁, ht, hget, hframe⟩ :=
    exists_step_step hheld htype₁ htype₂ h₁ h₂ hdisjoint
  obtain ⟨mid₂, u, hmid₂, hu, hget', hframe'⟩ :=
    exists_step_step hheld htype₂ htype₁ h₂ h₁ hdisjoint'
  rw [Record.unmatched_append_comm] at hget'
  refine ⟨mid₁, mid₂, t, u, apply_eq_ok_iff.mpr hmid₁, apply_eq_ok_iff.mpr ht,
    apply_eq_ok_iff.mpr hmid₂, apply_eq_ok_iff.mpr hu, fun hends => ?_, ?_, ?_,
    fun other hne => ⟨hframe other hne, hframe' other hne⟩⟩
  · -- At either end there is one block at most.
    have hone : ∀ placement, ¬ (o₁.verb.placement? = some placement ∧
        o₂.verb.placement? = some placement) := by
      rintro placement ⟨hp₁, hp₂⟩
      rcases hends with hdelete | hdelete | hne
      · rw [hdelete] at hp₁
        cases hp₁
      · rw [hdelete] at hp₂
        cases hp₂
      · exact hne (hp₁.trans hp₂.symm)
    refine ext_get? fun other => ?_
    by_cases hother : other = entityType
    · rw [hother, hget, hget', Patch.block_append_comm (hone .prepend),
        Patch.block_append_comm (hone .append)]
    · rw [hframe other hother, hframe' other hother]
  · rintro ⟨hp₁, hp₂⟩
    simp [hget, hget', block, hp₁, hp₂]
  · rintro ⟨hp₁, hp₂⟩
    simp [hget, hget', block, hp₁, hp₂]

/-- Both append. One target has an id twice and an id that matches nothing, which the other one and
the collection have, too. -/
theorem apply_comm_of_disjoint_same_end :
    let one : Json := .object [("id", .number (.integer 1))]
    let two : Json := .object [("id", .number (.integer 2))]
    let composite : Json := .object [("id", .array [])]
    let s := empty.set "Event" (.records [⟨two⟩, ⟨composite⟩, ⟨.null⟩, ⟨one⟩])
    let o₁ : Operation := ⟨.merge, "Event", .array [one, composite, one]⟩
    let o₂ : Operation := ⟨.mergeAppend, "Event", .array [composite, two]⟩
    (∀ a ∈ [one, composite, one].map Record.mk, ∀ b ∈ [composite, two].map Record.mk,
      a.sameId b = false) ∧
    ∃ mid₁ mid₂ t u, s.apply o₁ = .ok mid₁ ∧ mid₁.apply o₂ = .ok t ∧
      s.apply o₂ = .ok mid₂ ∧ mid₂.apply o₁ = .ok u ∧
      t.get? "Event" = some (.records
        ([composite, .null, one, composite, one, composite, two].map Record.mk)) ∧
      u.get? "Event" = some (.records
        ([composite, .null, composite, two, one, composite, one].map Record.mk)) := by
  intro one two composite s o₁ o₂
  have hheld : s.Holds "Event" ([two, composite, .null, one].map Record.mk) := .records rfl
  have h₁ : o₁.Lists ([one, composite, one].map Record.mk) := .merge (by decide) rfl
  have h₂ : o₂.Lists ([composite, two].map Record.mk) := .merge (by decide) rfl
  have hdisjoint : ∀ a ∈ [one, composite, one].map Record.mk,
      ∀ b ∈ [composite, two].map Record.mk, a.sameId b = false := by
    decide +kernel
  obtain ⟨mid₁, mid₂, t, u, hmid₁, ht, hmid₂, hu, -, happend, -⟩ :=
    apply_comm_of_disjoint hheld rfl rfl h₁ h₂ hdisjoint
  obtain ⟨hget, hget'⟩ := happend ⟨rfl, rfl⟩
  have hkept : Record.unmatched ([two, composite, .null, one].map Record.mk)
      ([one, composite, one].map Record.mk ++ [composite, two].map Record.mk) =
        [composite, .null].map Record.mk :=
    rfl
  rw [hkept] at hget hget'
  exact ⟨hdisjoint, mid₁, mid₂, t, u, hmid₁, ht, hmid₂, hu, hget, hget'⟩

end Snapshot

end EntitySync
