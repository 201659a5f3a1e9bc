import EntitySync.Proofs.Unmatched
import EntitySync.Fold

/-!
# Steps

What one operation does to a snapshot, as a relation with one rule for each kind of verb. An
operation is accepted exactly if one of the rules gives the next snapshot, so that proofs about
single operations are case analyses on the rules.
-/

namespace EntitySync

/-- Where the verb of a merge places the incoming records. -/
def Verb.placement? : Verb → Option Placement
  | .merge | .mergeAppend => some .append
  | .mergePrepend => some .prepend
  | _ => none

namespace Snapshot

variable {s t next : Snapshot} {entityType : EntityType} {o : Operation}

/-! ### Held records -/

/-- The snapshot holds a list of records for the entity type: the empty one if the collection is
missing or null, else the entries of the collection, also of an array kept as a plain value. -/
inductive Holds (s : Snapshot) (entityType : EntityType) : List Record → Prop where
  | missing (h : s.get? entityType = none) : Holds s entityType []
  | null (h : s.get? entityType = some (.value .null)) : Holds s entityType []
  | records {entries : List Record} (h : s.get? entityType = some (.records entries)) :
      Holds s entityType entries
  | array {entries : List Json} (h : s.get? entityType = some (.value (.array entries))) :
      Holds s entityType (entries.map Record.mk)

lemma changeable?_eq_some_iff {existing : List Record} :
    s.changeable? entityType = some existing ↔ s.Holds entityType existing := by
  unfold changeable?
  constructor
  · intro h
    split at h
    next hget => exact Option.some.inj h ▸ .missing hget
    next hget => exact Option.some.inj h ▸ .records hget
    next hget => exact Option.some.inj h ▸ .null hget
    next hget => exact Option.some.inj h ▸ .array hget
    next => cases h
  · intro h
    cases h with
    | missing h | null h | records h | array h => rw [h]

lemma Holds.unique {as bs : List Record} (ha : s.Holds entityType as)
    (hb : s.Holds entityType bs) : as = bs := by
  rw [← changeable?_eq_some_iff] at ha hb
  exact Option.some.inj (ha.symm.trans hb)

/-! ### Rules -/

/-- The snapshot that an accepted operation gives. -/
inductive Step (s : Snapshot) : Operation → Snapshot → Prop where
  | overwrite (entityType : EntityType) (target : Json) :
      Step s ⟨.overwrite, entityType, target⟩ (s.set entityType (.ofJson target))
  | merge {verb : Verb} {placement : Placement} {entityType : EntityType} {existing : List Record}
      (entries : List Json) (hverb : verb.placement? = some placement)
      (hheld : s.Holds entityType existing) :
      Step s ⟨verb, entityType, .array entries⟩ (s.set entityType (.records
        (Change.place placement (Record.unmatched existing (entries.map Record.mk))
          (entries.map Record.mk))))
  | delete {entityType : EntityType} {target : Json} {listed existing : List Record}
      (hlisted : Change.listed? target = some listed) (hheld : s.Holds entityType existing) :
      Step s ⟨.delete, entityType, target⟩
        (s.set entityType (.records (Record.unmatched existing listed)))

lemma apply_eq_ok_iff_changed :
    s.apply o = .ok next ↔ ∃ change collection, Change.ofOperation o = .ok change ∧
      s.changed o.entityType change = .ok collection ∧ s.set o.entityType collection = next := by
  unfold apply
  cases hchange : Change.ofOperation o with
  | error cause => simp [Except.bind]
  | ok change =>
    cases hcollection : s.changed o.entityType change <;> simp [Except.bind, hcollection]

lemma changed_merge_eq_ok_iff {incoming : List Record} {placement : Placement}
    {collection : Collection} :
    s.changed entityType (.merge incoming placement) = .ok collection ↔
      ∃ existing, s.Holds entityType existing ∧
        .records (Change.place placement (Record.unmatched existing incoming) incoming) =
          collection := by
  simp only [changed, ← changeable?_eq_some_iff, ← Change.mergeInto_eq_place]
  cases s.changeable? entityType <;> simp

lemma changed_delete_eq_ok_iff {listed : List Record} {collection : Collection} :
    s.changed entityType (.delete (listed.filterMap Record.id?)) = .ok collection ↔
      ∃ existing, s.Holds entityType existing ∧
        .records (Record.unmatched existing listed) = collection := by
  simp only [changed, ← changeable?_eq_some_iff, ← Change.without_filterMap_id?]
  cases s.changeable? entityType <;> simp

/-- An operation is accepted exactly if a rule gives the next snapshot. -/
lemma apply_eq_ok_iff : s.apply o = .ok next ↔ s.Step o next := by
  rw [apply_eq_ok_iff_changed]
  constructor
  · rintro ⟨change, collection, hchange, hcollection, rfl⟩
    obtain ⟨verb, entityType, target⟩ := o
    have merged : ∀ placement, verb.placement? = some placement →
        (Change.mergeRecords target).map (Change.merge · placement) = .ok change →
        s.Step ⟨verb, entityType, target⟩ (s.set entityType collection) := by
      intro placement hverb hmap
      cases hrecords : Change.mergeRecords target with
      | error cause => simp [hrecords, Except.map] at hmap
      | ok incoming =>
        obtain ⟨entries, rfl, rfl⟩ := Change.mergeRecords_eq_ok_iff.mp hrecords
        rw [hrecords, Except.map, Except.ok.injEq] at hmap
        subst hmap
        obtain ⟨existing, hheld, rfl⟩ := changed_merge_eq_ok_iff.mp hcollection
        exact .merge entries hverb hheld
    cases verb with
    | overwrite =>
      cases hchange
      cases hcollection
      exact .overwrite entityType target
    | merge | mergeAppend => exact merged .append rfl hchange
    | mergePrepend => exact merged .prepend rfl hchange
    | delete =>
      cases hids : Change.deletedIds target with
      | error cause => simp [Change.ofOperation, hids, Except.map] at hchange
      | ok ids =>
        obtain ⟨listed, hlisted, rfl⟩ := Change.deletedIds_eq_ok_iff.mp hids
        simp only [Change.ofOperation, hids, Except.map, Except.ok.injEq] at hchange
        subst hchange
        obtain ⟨existing, hheld, rfl⟩ := changed_delete_eq_ok_iff.mp hcollection
        exact .delete hlisted hheld
    | add => cases hchange
    | unknown word => cases hchange
  · intro h
    cases h with
    | overwrite entityType target => exact ⟨_, _, rfl, rfl, rfl⟩
    | @merge verb placement entityType existing entries hverb hheld =>
      refine ⟨.merge (entries.map Record.mk) placement, _, ?_,
        changed_merge_eq_ok_iff.mpr ⟨existing, hheld, rfl⟩, rfl⟩
      cases verb <;> cases hverb <;> rfl
    | @delete entityType target listed existing hlisted hheld =>
      refine ⟨.delete (listed.filterMap Record.id?), _, ?_,
        changed_delete_eq_ok_iff.mpr ⟨existing, hheld, rfl⟩, rfl⟩
      simp only [Change.ofOperation,
        Change.deletedIds_eq_ok_iff.mpr ⟨listed, hlisted, rfl⟩, Except.map]

/-- A step other than an overwrite finds a list of records. -/
lemma Step.exists_holds (h : s.Step o next) (hverb : o.verb ≠ .overwrite) :
    ∃ existing, s.Holds o.entityType existing := by
  cases h with
  | overwrite => exact absurd rfl hverb
  | merge _ _ hheld => exact ⟨_, hheld⟩
  | delete _ hheld => exact ⟨_, hheld⟩

/-- An overwrite puts its target in place, whatever was there. -/
lemma Step.get?_of_overwrite (h : s.Step o next) (hverb : o.verb = .overwrite) :
    next.get? o.entityType = some (.ofJson o.target) := by
  cases h with
  | overwrite => rw [get?_set, if_pos rfl]
  | merge _ hplacement =>
    subst hverb
    cases hplacement
  | delete => cases hverb

/-- A step other than an overwrite leaves records. -/
lemma Step.exists_records (h : s.Step o next) (hverb : o.verb ≠ .overwrite) :
    ∃ entries, next.get? o.entityType = some (.records entries) := by
  cases h with
  | overwrite => exact absurd rfl hverb
  | merge | delete => rw [get?_set, if_pos rfl]; exact ⟨_, rfl⟩

/-! ### Frame -/

/-- What holds of all collections still does when one is replaced by another of which it holds. -/
lemma forall_collection_set {P : Collection → Prop} {c : Collection}
    (h : ∀ other c', s.get? other = some c' → P c') (hc : P c) :
    ∀ other c', (s.set entityType c).get? other = some c' → P c' := by
  intro other c' hget
  rw [get?_set] at hget
  split_ifs at hget
  · exact Option.some.inj hget ▸ hc
  · exact h other c' hget

/-- A step changes the collection of its entity type only. -/
lemma Step.get?_of_ne (h : s.Step o next) (hne : entityType ≠ o.entityType) :
    next.get? entityType = s.get? entityType := by
  cases h with
  | overwrite | merge | delete => rw [get?_set, if_neg hne]

/-- What a step makes of a collection depends on that collection only. -/
lemma Step.get?_congr {next' : Snapshot} (h : s.Step o next) (h' : t.Step o next')
    (hget : s.get? entityType = t.get? entityType) :
    next.get? entityType = next'.get? entityType := by
  by_cases ho : entityType = o.entityType
  · subst ho
    obtain ⟨change, collection, hchange, hcollection, rfl⟩ :=
      apply_eq_ok_iff_changed.mp (apply_eq_ok_iff.mpr h)
    obtain ⟨change', collection', hchange', hcollection', rfl⟩ :=
      apply_eq_ok_iff_changed.mp (apply_eq_ok_iff.mpr h')
    obtain rfl : change = change' := Except.ok.inj (hchange.symm.trans hchange')
    have hsame : s.changed o.entityType change = t.changed o.entityType change := by
      unfold changed changeable?
      rw [hget]
    rw [hsame, hcollection', Except.ok.injEq] at hcollection
    rw [get?_set, get?_set, if_pos rfl, if_pos rfl, hcollection]
  · rw [h.get?_of_ne ho, h'.get?_of_ne ho, hget]

lemma Holds.congr {existing : List Record} (h : s.Holds entityType existing)
    (hget : t.get? entityType = s.get? entityType) : t.Holds entityType existing := by
  rw [← changeable?_eq_some_iff] at h ⊢
  unfold changeable? at h ⊢
  rw [hget, h]

/-- Where its collection is the same, a step is possible, too, and does the same to it. -/
lemma Step.exists_step_of_get?_eq (h : s.Step o next)
    (hget : t.get? o.entityType = s.get? o.entityType) :
    ∃ next', t.Step o next' ∧ next'.get? o.entityType = next.get? o.entityType := by
  have hstep : ∃ next', t.Step o next' := by
    cases h with
    | overwrite entityType target => exact ⟨_, .overwrite entityType target⟩
    | merge entries hverb hheld => exact ⟨_, .merge entries hverb (hheld.congr hget)⟩
    | delete hlisted hheld => exact ⟨_, .delete hlisted (hheld.congr hget)⟩
  obtain ⟨next', h'⟩ := hstep
  exact ⟨next', h', h'.get?_congr h hget⟩

end Snapshot

end EntitySync
