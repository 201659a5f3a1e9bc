import EntitySync.Proofs.RecordIdentity
import EntitySync.Proofs.RoundTrip

/-!
# Snapshots in lockstep

The engine looks at a collection through its JSON value only: whether it is null, an array or
something else, and at the ids of the entries of an array. So snapshots with the same JSON value go
through a batch side by side, whichever way they keep their arrays. That is so for values that are
identical, and for values that are equal as numbers count, where the two zeros are the same.
-/

namespace EntitySync

namespace Snapshot

variable {s t : Snapshot} {ops : List Operation}

/-! ### Outcomes -/

/-- An operation is accepted in both snapshots, with results that correspond, or it is rejected for
the same cause. -/
inductive SameStep (R : Snapshot → Snapshot → Prop) :
    Except Rejection Snapshot → Except Rejection Snapshot → Prop where
  | accepted {t u : Snapshot} (h : R t u) : SameStep R (.ok t) (.ok u)
  | rejected (r : Rejection) : SameStep R (.error r) (.error r)

/-- Two batches succeed with results that correspond, or they fail at the same place by the same
rejection, and the snapshots that they leave correspond. -/
inductive SameOutcome (R : Snapshot → Snapshot → Prop) :
    Except FoldError Snapshot → Except FoldError Snapshot → Prop where
  | ok {t u : Snapshot} (h : R t u) : SameOutcome R (.ok t) (.ok u)
  | error {t u : Snapshot} (index : ℕ) (source : Rejection) (h : R t u) :
      SameOutcome R (.error ⟨index, t, source⟩) (.error ⟨index, u, source⟩)

/-- What every operation keeps in step, a batch keeps in step. -/
lemma applyAll_sameOutcome {R : Snapshot → Snapshot → Prop}
    (hstep : ∀ s t o, R s t → SameStep R (s.apply o) (t.apply o)) (h : R s t)
    (ops : List Operation) : SameOutcome R (s.applyAll ops) (t.applyAll ops) := by
  have hfrom : ∀ index s t, R s t →
      SameOutcome R (s.applyFrom index ops) (t.applyFrom index ops) := by
    induction ops with
    | nil => exact fun _ _ _ h => .ok h
    | cons o ops ih =>
      intro index s t h
      have hfirst := hstep s t o h
      rw [applyFrom, applyFrom]
      generalize s.apply o = a at hfirst
      generalize t.apply o = b at hfirst
      cases hfirst with
      | accepted hnext => exact ih (index + 1) _ _ hnext
      | rejected r => exact .error index r h
  exact hfrom 0 s t h

end Snapshot

/-! ### Entries in step -/

namespace Entries

variable {β γ : Type} {S : β → γ → Prop}

/-- The lists have the same keys in the same order, and their values correspond. -/
def Corresponding (S : β → γ → Prop) : List (String × β) → List (String × γ) → Prop :=
  List.Forall₂ fun a b => a.1 = b.1 ∧ S a.2 b.2

lemma Corresponding.lookup {as : List (String × β)} {bs : List (String × γ)}
    (h : Corresponding S as bs) (key : String) :
    Option.Rel S (as.lookup key) (bs.lookup key) := by
  induction h with
  | nil => exact .none
  | @cons a b as bs hhead _ ih =>
    obtain ⟨k, v⟩ := a
    obtain ⟨k', w⟩ := b
    obtain ⟨rfl, hvalue⟩ := hhead
    rw [List.lookup_cons, List.lookup_cons]
    cases key == k with
    | true => exact .some hvalue
    | false => exact ih

lemma Corresponding.insert {as : List (String × β)} {bs : List (String × γ)}
    (h : Corresponding S as bs) (key : String) {v : β} {w : γ} (hvalue : S v w) :
    Corresponding S (Entries.insert key v as) (Entries.insert key w bs) := by
  induction h with
  | nil => exact .cons ⟨rfl, hvalue⟩ .nil
  | @cons a b as bs hhead hrest ih =>
    obtain ⟨k, v'⟩ := a
    obtain ⟨k', w'⟩ := b
    obtain ⟨rfl, hvalue'⟩ := hhead
    rw [Entries.insert, Entries.insert]
    split_ifs
    · exact .cons ⟨rfl, hvalue⟩ (.cons ⟨rfl, hvalue'⟩ hrest)
    · exact .cons ⟨rfl, hvalue⟩ hrest
    · exact .cons ⟨rfl, hvalue'⟩ ih

end Entries

/-! ### Congruences of values -/

namespace Json

/-- The entries of an array; null has none. -/
def entries? : Json → Option (List Json)
  | .null => some []
  | .array entries => some entries
  | _ => none

/-- A correspondence of values that the engine cannot see through: corresponding values have
corresponding entries and the same id. Identity is one, and so is the equality of values below. -/
structure Congruence (R : Json → Json → Prop) : Prop where
  refl (a : Json) : R a a
  array {as bs : List Json} (h : List.Forall₂ R as bs) : R (.array as) (.array bs)
  object_iff {as bs : List (String × Json)} :
    R (.object as) (.object bs) ↔ Entries.Corresponding R as bs
  entries {a b : Json} (h : R a b) : Option.Rel (List.Forall₂ R) a.entries? b.entries?
  id {a b : Json} (h : R a b) : RecordId.of? a = RecordId.of? b

lemma congruence_eq : Congruence (· = ·) where
  refl _ := rfl
  array h := by rw [List.forall₂_eq_eq_eq] at h; rw [h]
  object_iff {as bs} := by
    have hpair : (fun a b : String × Json => a.1 = b.1 ∧ a.2 = b.2) = Eq := by
      funext a b
      exact propext Prod.ext_iff.symm
    rw [Entries.Corresponding, hpair, List.forall₂_eq_eq_eq, Json.object.injEq]
  entries {a b} h := by
    subst h
    cases a.entries? with
    | none => exact .none
    | some entries => exact .some (List.forall₂_refl entries)
  id h := by rw [h]

/-! ### Equality of values -/

mutual

lemma equal_refl (a : Json) : a.equal a = true := by
  match a with
  | .null => rfl
  | .bool b => simp [equal]
  | .number (.integer n h) => simp [equal, Number.equal]
  | .number (.double d) => simp [equal, Number.equal, Double.equal]
  | .string text => simp [equal]
  | .array elements =>
    rw [equal]
    exact equalElements_refl elements
  | .object members =>
    rw [equal]
    exact equalMembers_refl members

lemma equalElements_refl (as : List Json) : equalElements as as = true := by
  match as with
  | [] => rfl
  | a :: as => rw [equalElements, equal_refl a, equalElements_refl as, Bool.and_self]

lemma equalMembers_refl (as : List (String × Json)) : equalMembers as as = true := by
  match as with
  | [] => rfl
  | (key, a) :: as => simp [equalMembers, equal_refl a, equalMembers_refl as]

end

lemma equalElements_iff {as bs : List Json} :
    equalElements as bs = true ↔ List.Forall₂ (fun a b => a.equal b = true) as bs := by
  induction as generalizing bs with
  | nil => cases bs <;> simp [equalElements]
  | cons a as ih => cases bs <;> simp [equalElements, ih]

lemma equalMembers_iff {as bs : List (String × Json)} :
    equalMembers as bs = true ↔ Entries.Corresponding (fun a b => a.equal b = true) as bs := by
  unfold Entries.Corresponding
  induction as generalizing bs with
  | nil => cases bs <;> simp [equalMembers]
  | cons a as ih => cases bs <;> simp [equalMembers, ih]

end Json

lemma Number.value_eq_of_equal {m n : Number} (h : m.equal n = true) : m.value = n.value := by
  cases m with
  | integer i =>
    cases n with
    | integer j =>
      obtain rfl : i = j := by simpa [equal] using h
      rfl
    | double => cases h
  | double d =>
    cases n with
    | integer => cases h
    | double e =>
      simp only [equal, Double.equal, Bool.and_eq_true, Bool.or_eq_true, decide_eq_true_eq] at h
      obtain ⟨hmagnitude, hsign | hzero⟩ := h
      · simp only [value, Double.value, hmagnitude, hsign]
      · simp [value, Double.value, ← hmagnitude, hzero]

lemma RecordId.ofMember?_eq_of_equal {a b : Json} (h : a.equal b = true) :
    ofMember? a = ofMember? b := by
  cases a <;> cases b <;> simp only [Json.equal, decide_eq_true_eq, Bool.false_eq_true] at h
  case null.null | array.array | object.object => rfl
  case bool.bool | string.string => rw [h]
  case number.number => exact congrArg some (ofNumber_eq_iff.mpr (Number.value_eq_of_equal h))

/-- Equal entries have the same id. -/
lemma RecordId.of?_eq_of_equal {a b : Json} (h : a.equal b = true) : of? a = of? b := by
  cases a <;> cases b <;> simp only [Json.equal, decide_eq_true_eq, Bool.false_eq_true] at h
  case object.object as bs =>
    have hid := (Json.equalMembers_iff.mp h).lookup "id"
    rw [of?_eq_ofOption?, of?_eq_ofOption?, Json.get?_object, Json.get?_object]
    generalize as.lookup "id" = a, bs.lookup "id" = b at hid
    cases hid with
    | none => rfl
    | some hmember => exact ofMember?_eq_of_equal hmember
  all_goals rfl

lemma Json.congruence_equal : Congruence (fun a b => a.equal b = true) where
  refl := equal_refl
  array h := by simpa only [equal, equalElements_iff] using h
  object_iff {as bs} := by rw [← equalMembers_iff]; rfl
  entries {a b} h := by
    cases a <;> cases b <;> simp only [equal, Bool.false_eq_true] at h
    case null.null => exact .some .nil
    case array.array => exact .some (equalElements_iff.mp h)
    all_goals exact .none
  id := RecordId.of?_eq_of_equal

/-! ### Changes in step -/

/-- The entries of the records correspond. -/
abbrev Record.Related (R : Json → Json → Prop) (r q : Record) : Prop := R r.json q.json

namespace Change

variable {R : Json → Json → Prop} {as bs : List Record}

lemma rel_without (hR : Json.Congruence R) (ids : List RecordId)
    (h : List.Forall₂ (Record.Related R) as bs) :
    List.Forall₂ (Record.Related R) (without ids as) (without ids bs) := by
  refine List.rel_filter (fun r q hrq => ?_) h
  have hid : r.id? = q.id? := hR.id hrq
  simp only [isListed, hid]

lemma rel_mergeInto (hR : Json.Congruence R) (incoming : List Record) (placement : Placement)
    (h : List.Forall₂ (Record.Related R) as bs) :
    List.Forall₂ (Record.Related R)
      (mergeInto as incoming placement) (mergeInto bs incoming placement) := by
  have hkept := rel_without hR (incoming.filterMap Record.id?) h
  have hsame : List.Forall₂ (Record.Related R) incoming incoming :=
    List.forall₂_same.mpr fun r _ => hR.refl r.json
  cases placement with
  | append => exact List.rel_append hkept hsame
  | prepend => exact List.rel_append hsame hkept

end Change

namespace Snapshot

variable {R : Json → Json → Prop} {s t : Snapshot}

/-- The engine sees a collection through its JSON value. -/
lemma changeable?_eq_entries? (s : Snapshot) (entityType : EntityType) :
    s.changeable? entityType =
      ((s.get? entityType).elim (some []) fun c => c.toJson.entries?).map (List.map Record.mk) := by
  unfold changeable?
  cases s.get? entityType with
  | none => rfl
  | some c =>
    cases c with
    | records entries => simp [Collection.toJson, Json.entries?, Function.comp_def]
    | value json => cases json <;> rfl

lemma rel_toJson_iff (hR : Json.Congruence R) : R s.toJson t.toJson ↔
    Entries.Corresponding (fun c d : Collection => R c.toJson d.toJson)
      s.collections.entries t.collections.entries := by
  rw [toJson, toJson, hR.object_iff, Entries.Corresponding, List.forall₂_map_left_iff,
    List.forall₂_map_right_iff]
  rfl

lemma rel_changeable? (hR : Json.Congruence R) (h : R s.toJson t.toJson)
    (entityType : EntityType) :
    Option.Rel (List.Forall₂ (Record.Related R))
      (s.changeable? entityType) (t.changeable? entityType) := by
  have hget : Option.Rel (fun c d => R c.toJson d.toJson) (s.get? entityType) (t.get? entityType) :=
    ((rel_toJson_iff hR).mp h).lookup entityType
  rw [changeable?_eq_entries?, changeable?_eq_entries?]
  generalize s.get? entityType = c, t.get? entityType = d at hget
  cases hget with
  | none => exact .some .nil
  | @some c d hcollection =>
    have hentries := hR.entries hcollection
    rw [Option.elim_some, Option.elim_some]
    generalize c.toJson.entries? = as, d.toJson.entries? = bs at hentries
    cases hentries with
    | none => exact .none
    | some hentries =>
      refine .some ?_
      rwa [List.forall₂_map_left_iff, List.forall₂_map_right_iff]

lemma rel_set (hR : Json.Congruence R) (h : R s.toJson t.toJson) (entityType : EntityType)
    {c d : Collection} (hcollection : R c.toJson d.toJson) :
    R (s.set entityType c).toJson (t.set entityType d).toJson := by
  rw [rel_toJson_iff hR] at h ⊢
  exact h.insert entityType hcollection

lemma rel_set_records (hR : Json.Congruence R) (h : R s.toJson t.toJson)
    (entityType : EntityType) {as bs : List Record}
    (hrecords : List.Forall₂ (Record.Related R) as bs) :
    R (s.set entityType (.records as)).toJson (t.set entityType (.records bs)).toJson := by
  refine rel_set hR h entityType (hR.array ?_)
  rwa [List.forall₂_map_left_iff, List.forall₂_map_right_iff]

/-- Corresponding snapshots take every operation in the same way. -/
lemma sameStep_apply (hR : Json.Congruence R) (h : R s.toJson t.toJson) (o : Operation) :
    SameStep (fun s t => R s.toJson t.toJson) (s.apply o) (t.apply o) := by
  unfold apply
  cases Change.ofOperation o with
  | error cause => exact .rejected _
  | ok change =>
    have hchangeable := rel_changeable? hR h o.entityType
    cases change with
    | overwrite value => exact .accepted (rel_set hR h o.entityType (hR.refl value.toJson))
    | merge incoming placement =>
      simp only [Except.bind, changed]
      generalize s.changeable? o.entityType = a, t.changeable? o.entityType = b at hchangeable
      cases hchangeable with
      | none => exact .rejected _
      | some hrecords =>
        have hmerged := Change.rel_mergeInto hR incoming placement hrecords
        exact .accepted (rel_set_records hR h o.entityType hmerged)
    | delete ids =>
      simp only [Except.bind, changed]
      generalize s.changeable? o.entityType = a, t.changeable? o.entityType = b at hchangeable
      cases hchangeable with
      | none => exact .rejected _
      | some hrecords =>
        have hkept := Change.rel_without hR ids hrecords
        exact .accepted (rel_set_records hR h o.entityType hkept)

/-- Snapshots with the same JSON value cannot be told apart by a batch, be the values identical or
equal with both zeros the same: the batch succeeds in both or fails in both, at the same place by
the same rejection, and leads to the same JSON value. So a snapshot that is written and read again
goes on as it would have gone on. -/
theorem applyAll_of_toJson_eq (s t : Snapshot) (ops : List Operation) :
    (s.toJson = t.toJson →
      SameOutcome (fun u v => u.toJson = v.toJson) (s.applyAll ops) (t.applyAll ops)) ∧
    (s.toJson.equal t.toJson = true →
      SameOutcome (fun u v => u.toJson.equal v.toJson = true) (s.applyAll ops) (t.applyAll ops)) ∧
    ∃ r, ofJson s.toJson = .ok r ∧
      SameOutcome (fun u v => u.toJson = v.toJson) (s.applyAll ops) (r.applyAll ops) := by
  have hsame : ∀ s t : Snapshot, s.toJson = t.toJson →
      SameOutcome (fun u v => u.toJson = v.toJson) (s.applyAll ops) (t.applyAll ops) :=
    fun _ _ h => applyAll_sameOutcome (fun _ _ o h => sameStep_apply Json.congruence_eq h o) h ops
  refine ⟨hsame s t, fun h => ?_, ?_⟩
  · exact applyAll_sameOutcome (fun _ _ o h => sameStep_apply Json.congruence_equal h o) h ops
  · refine ⟨_, ofJson_toJson s, hsame _ _ ?_⟩
    rw [← Dict.map_map, toJson_map_ofJson, toJson_eq_map]

/-- The same array as a plain value, as records, and with the other zero. The last operation is
rejected. -/
theorem applyAll_of_toJson_eq_zeros :
    let zero := fun negative => Json.object [("id", .number (.double ⟨negative, 0, by decide⟩))]
    let s := empty.set "Event" (.value (.array [zero true, .null]))
    let t := empty.set "Event" (.records [⟨zero true⟩, ⟨.null⟩])
    let u := empty.set "Event" (.records [⟨zero false⟩, ⟨.null⟩])
    let ops : List Operation := [
      ⟨.mergePrepend, "Event", .array [.string "x"]⟩,
      ⟨.overwrite, tokenType, .string "t"⟩,
      ⟨.delete, tokenType, .array []⟩]
    s.toJson = t.toJson ∧ s.toJson.equal u.toJson = true ∧ ∃ d e f : FoldError,
      s.applyAll ops = .error d ∧ t.applyAll ops = .error e ∧ u.applyAll ops = .error f ∧
      e.index = d.index ∧ e.source = d.source ∧ d.applied.toJson = e.applied.toJson ∧
      f.index = d.index ∧ f.source = d.source ∧
      d.applied.toJson.equal f.applied.toJson = true := by
  intro zero s t u ops
  have hidentical : s.toJson = t.toJson := rfl
  have hequal : s.toJson.equal u.toJson = true := by decide +kernel
  have hplain := (applyAll_of_toJson_eq s t ops).1 hidentical
  have hzero := (applyAll_of_toJson_eq s u ops).2.1 hequal
  have hfails : (s.applyAll ops).isOk = false := by decide +kernel
  generalize s.applyAll ops = a, t.applyAll ops = b, u.applyAll ops = c at *
  cases hplain with
  | ok => cases hfails
  | error index source h =>
    cases hzero with
    | error _ _ h' => exact ⟨hidentical, hequal, _, _, _, rfl, rfl, rfl, rfl, rfl, h, rfl, rfl, h'⟩

end Snapshot

end EntitySync
